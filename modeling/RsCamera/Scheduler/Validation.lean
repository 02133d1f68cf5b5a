import RsCamera.Scheduler.Profile

/-
  Which files the profile reader accepts, and with which
  values.

  The reader takes numbers as `strtoull` does: white space
  and a sign may stand in front of the digits, a minus sign
  negates modulo `2 ^ 64`, and the instance keeps its low 32
  bits.  A file may therefore be accepted with values that
  nobody wrote.  `LooseFile` is what the reader accepts and
  `StrictFile` what a profile is meant to be.

  Key definitions include:
    * `StrtoullNumber`, `DigitsOnly`
    * `LooseLine`, `StrictLine`
    * `FileHolds`, `PlainNumbers`

  Key theorems include:
    * `parseU64_eq_ok_iff`
    * `loadProfile_eq_ok_iff`
    * `loadProfile_strict_iff`
-/

------------------------------------------------------------
-- Numbers
------------------------------------------------------------

namespace RsCamera

namespace Scheduler

def DigitsOnly (text : String) : Prop :=
  text.toList ≠ [] ∧ ∀ c ∈ text.toList, c.isDigit = true

def decimalValue (text : String) : Nat :=
  Nat.ofDigitChars 10 text.toList 0

/- A field that `strtoull` reads to its end, and its value. -/
def StrtoullNumber (text : String) (value : Nat) : Prop :=
  ∃ spaces sign digits : List Char,
    text.toList = spaces ++ (sign ++ digits) ∧
      (∀ c ∈ spaces, isCSpace c = true) ∧
      (sign = [] ∨ sign = ['+'] ∨ sign = ['-']) ∧
      digits ≠ [] ∧
      (∀ c ∈ digits, c.isDigit = true) ∧
      Nat.ofDigitChars 10 digits 0 < 2 ^ 64 ∧
      value =
        if sign = ['-'] then
          (2 ^ 64 - Nat.ofDigitChars 10 digits 0) % 2 ^ 64
        else
          Nat.ofDigitChars 10 digits 0

/- The parts of a text that holds a sign and digits. -/
theorem scanNumeral_of_parts
    {spaces sign digits : List Char}
    (hSpaces : ∀ c ∈ spaces, isCSpace c = true)
    (hSign : sign = [] ∨ sign = ['+'] ∨ sign = ['-'])
    (hSome : digits ≠ [])
    (hDigits : ∀ c ∈ digits, c.isDigit = true) :
    scanNumeral (spaces ++ (sign ++ digits)) =
      some {
        negative := sign = ['-']
        magnitude := Nat.ofDigitChars 10 digits 0
        rest := [] } := by
  have hTake : digits.takeWhile Char.isDigit = digits :=
    List.takeWhile_eq_self_iff.mpr hDigits
  have hDrop : digits.dropWhile Char.isDigit = [] :=
    List.dropWhile_eq_nil_iff.mpr hDigits
  have hSkip :
      (spaces ++ (sign ++ digits)).dropWhile isCSpace =
        sign ++ digits := by
    rw [List.dropWhile_append_of_pos hSpaces]
    rcases hSign with hIs | hIs | hIs
    · cases digits with
      | nil => exact absurd rfl hSome
      | cons c digits =>
          have hSpace :=
            (not_isCSpace_of_isDigit (hDigits c (by simp))).1
          rw [hIs, List.nil_append,
            List.dropWhile_cons_of_neg (by simp [hSpace])]
    · rw [hIs]
      rfl
    · rw [hIs]
      rfl
  have hSigned :
      scanSign (sign ++ digits) =
        (decide (sign = ['-']), digits) := by
    rcases hSign with hIs | hIs | hIs
    · cases digits with
      | nil => exact absurd rfl hSome
      | cons c digits =>
          rcases not_isCSpace_of_isDigit
            (hDigits c (by simp)) with ⟨_, hMinus, hPlus⟩
          rw [hIs, List.nil_append]
          unfold scanSign
          split
          · simp_all
          · simp_all
          · rfl
    · rw [hIs]
      rfl
    · rw [hIs]
      rfl
  unfold scanNumeral
  simp only [hSkip, hSigned, hTake, hDrop, if_neg hSome]

/- The sign that was split off stands in front of the rest. -/
theorem scanSign_parts
    (text : List Char) :
    ∃ sign,
      text = sign ++ (scanSign text).2 ∧
        (sign = [] ∨ sign = ['+'] ∨ sign = ['-']) ∧
        (scanSign text).1 = decide (sign = ['-']) := by
  unfold scanSign
  split
  · exact ⟨['-'], rfl, Or.inr (Or.inr rfl), rfl⟩
  · exact ⟨['+'], rfl, Or.inr (Or.inl rfl), rfl⟩
  · exact ⟨[], rfl, Or.inl rfl, rfl⟩

theorem scanNumeral_parts
    {text : List Char}
    {numeral : Numeral}
    (hScan : scanNumeral text = some numeral)
    (hRest : numeral.rest = []) :
    ∃ spaces sign digits,
      text = spaces ++ (sign ++ digits) ∧
        (∀ c ∈ spaces, isCSpace c = true) ∧
        (sign = [] ∨ sign = ['+'] ∨ sign = ['-']) ∧
        digits ≠ [] ∧
        (∀ c ∈ digits, c.isDigit = true) := by
  unfold scanNumeral at hScan
  simp only at hScan
  split at hScan
  · cases hScan
  next hSome =>
    cases hScan
    rcases scanSign_parts (text.dropWhile isCSpace) with
      ⟨sign, hText, hSign, -⟩
    have hAll :
        ∀ c ∈ (scanSign (text.dropWhile isCSpace)).2,
          c.isDigit = true :=
      List.dropWhile_eq_nil_iff.mp hRest
    rw [List.takeWhile_eq_self_iff.mpr hAll] at hSome
    refine ⟨text.takeWhile isCSpace, sign, _, ?_, ?_, hSign,
      hSome, hAll⟩
    · rw [← hText, List.takeWhile_append_dropWhile]
    · intro c hChar
      exact List.mem_takeWhile_imp hChar

/- The numbers of a profile are read by `strtoull`. -/
theorem parseU64_eq_ok_iff
    {text field : String}
    {line value : Nat} :
    parseU64 text field line = .ok value ↔
      StrtoullNumber text value := by
  constructor
  · intro hParse
    unfold parseU64 stoull at hParse
    cases hScan : scanNumeral text.toList with
    | none =>
        rw [hScan] at hParse
        cases hParse
    | some numeral =>
        rw [hScan] at hParse
        simp only at hParse
        by_cases hWord : numeral.magnitude < 2 ^ 64
        · rw [if_pos hWord] at hParse
          cases hRest : numeral.rest with
          | cons c rest =>
              rw [hRest] at hParse
              cases hParse
          | nil =>
              rw [hRest] at hParse
              rcases scanNumeral_parts hScan hRest with
                ⟨spaces, sign, digits, hText, hSpaces, hSign,
                  hSome, hDigits⟩
              rw [hText, scanNumeral_of_parts hSpaces hSign
                hSome hDigits] at hScan
              cases hScan
              refine ⟨spaces, sign, digits, hText, hSpaces,
                hSign, hSome, hDigits, hWord, ?_⟩
              simpa using (Except.ok.inj hParse).symm
        · rw [if_neg hWord] at hParse
          cases hParse
  · intro hNumber
    rcases hNumber with
      ⟨spaces, sign, digits, hText, hSpaces, hSign, hSome,
        hDigits, hWord, hValue⟩
    unfold parseU64 stoull
    rw [hText, scanNumeral_of_parts hSpaces hSign hSome hDigits]
    simp only [if_pos hWord, decide_eq_true_eq]
    rw [hValue]

/- Digits alone are read as the number they write. -/
theorem strtoullNumber_of_digits
    {text : String}
    (hDigits : DigitsOnly text)
    (hWord : decimalValue text < 2 ^ 64) :
    StrtoullNumber text (decimalValue text) :=
  ⟨[], [], text.toList, rfl, by simp, Or.inl rfl, hDigits.1,
    hDigits.2, hWord, rfl⟩

theorem StrtoullNumber.eq_decimalValue
    {text : String}
    {value : Nat}
    (hNumber : StrtoullNumber text value)
    (hDigits : DigitsOnly text) :
    value = decimalValue text := by
  rcases hNumber with
    ⟨spaces, sign, digits, hText, hSpaces, hSign, -, -, -,
      hValue⟩
  have hAll := hDigits.2
  rw [hText] at hAll
  have hNoSpace : spaces = [] := by
    rw [List.eq_nil_iff_forall_not_mem]
    intro c hChar
    have hDigit := hAll c (List.mem_append_left _ hChar)
    have hSpace := hSpaces c hChar
    rw [(not_isCSpace_of_isDigit hDigit).1] at hSpace
    cases hSpace
  have hNoSign : sign = [] := by
    rcases hSign with hIs | hIs | hIs
    · exact hIs
    · have hDigit := hAll '+' (by simp [hIs])
      cases hDigit
    · have hDigit := hAll '-' (by simp [hIs])
      cases hDigit
  unfold decimalValue
  rw [hValue, hText, hNoSpace, hNoSign]
  rfl

------------------------------------------------------------
-- Lines And Files
------------------------------------------------------------

section

open Csv

/- A line as it is meant to be written for an entry. -/
def StrictLine
    (line : List Char)
    (entry : ProfileEntry) : Prop :=
  ∃ number runtime deadline period,
    splitCsv line =
        .ok [entry.signature, number, entry.name, runtime,
          deadline, period] ∧
      entry.signature ≠ "" ∧
      (DigitsOnly number ∧
        entry.instanceNumber = decimalValue number) ∧
      (DigitsOnly runtime ∧
        entry.runtimeNs = decimalValue runtime) ∧
      (DigitsOnly deadline ∧
        entry.deadlineNs = decimalValue deadline) ∧
      (DigitsOnly period ∧
        entry.periodNs = decimalValue period) ∧
      1 ≤ entry.instanceNumber ∧
      entry.instanceNumber < 2 ^ 32 ∧
      0 < entry.runtimeNs ∧
      entry.runtimeNs ≤ entry.deadlineNs ∧
      entry.deadlineNs ≤ entry.periodNs ∧
      entry.periodNs < 2 ^ 64

/- A line that the reader takes for an entry. -/
def LooseLine
    (line : List Char)
    (entry : ProfileEntry) : Prop :=
  ∃ number runtime deadline period value,
    splitCsv line =
        .ok [entry.signature, number, entry.name, runtime,
          deadline, period] ∧
      StrtoullNumber number value ∧
      entry.instanceNumber = value % 2 ^ 32 ∧
      StrtoullNumber runtime entry.runtimeNs ∧
      StrtoullNumber deadline entry.deadlineNs ∧
      StrtoullNumber period entry.periodNs ∧
      entry.valid = true

/- Lines without their carriage return, less the empty ones. -/
def filledLines
    (lines : List (List Char)) : List (List Char) :=
  (lines.map dropReturn).filter (fun line => line ≠ [])

/- The lines after the header that are not empty. -/
def dataLines (text : String) : List (List Char) :=
  filledLines (getLines text.toList []).tail

/-
  A file with the header and at least one data line, whose
  data lines hold the entries, each for another thread.
-/
structure FileHolds
    (holds : List Char → ProfileEntry → Prop)
    (text : String)
    (entries : List ProfileEntry) : Prop where
  header :
    ∃ first ∈ (getLines text.toList []).head?,
      splitCsv (dropReturn first) = .ok expectedHeader
  nonempty : dataLines text ≠ []
  lines : List.Forall₂ holds (dataLines text) entries
  keys : (entries.map ProfileEntry.key).Nodup

/- Numbers are written in digits, and instances in 32 bits. -/
def PlainNumbers (text : String) : Prop :=
  ∀ line ∈ dataLines text,
    ∀ signature number name runtime deadline period,
      splitCsv line =
          .ok [signature, number, name, runtime, deadline,
            period] →
        DigitsOnly number ∧ decimalValue number < 2 ^ 32 ∧
          DigitsOnly runtime ∧ DigitsOnly deadline ∧
          DigitsOnly period

theorem parseEntry_eq_ok_iff
    {line : List Char}
    {fields : List String}
    (hFields : splitCsv line = .ok fields)
    {lineNumber : Nat}
    {entry : ProfileEntry} :
    parseEntry fields lineNumber = .ok entry ↔
      LooseLine line entry := by
  constructor
  · intro hParse
    unfold parseEntry at hParse
    split at hParse
    next signature number name runtime deadline period =>
      simp only [bind_eq_ok] at hParse
      rcases hParse with
        ⟨value, hNumber, runtimeNs, hRuntime, deadlineNs,
          hDeadline, periodNs, hPeriod, hEntry⟩
      split at hEntry
      next hValid =>
        cases hEntry
        exact ⟨number, runtime, deadline, period, value,
          hFields, parseU64_eq_ok_iff.mp hNumber, rfl,
          parseU64_eq_ok_iff.mp hRuntime,
          parseU64_eq_ok_iff.mp hDeadline,
          parseU64_eq_ok_iff.mp hPeriod, hValid⟩
      · cases hEntry
    · cases hParse
  · intro hLine
    rcases hLine with
      ⟨number, runtime, deadline, period, value, hSplit,
        hNumber, hInstance, hRuntime, hDeadline, hPeriod,
        hValid⟩
    rw [hFields] at hSplit
    rw [Except.ok.inj hSplit]
    unfold parseEntry
    simp only [bind_eq_ok]
    refine ⟨value, parseU64_eq_ok_iff.mpr hNumber, _,
      parseU64_eq_ok_iff.mpr hRuntime, _,
      parseU64_eq_ok_iff.mpr hDeadline, _,
      parseU64_eq_ok_iff.mpr hPeriod, ?_⟩
    rw [← hInstance, if_pos hValid]

theorem filledLines_cons
    (line : List Char)
    (lines : List (List Char)) :
    filledLines (line :: lines) =
      if dropReturn line = [] then
        filledLines lines
      else
        dropReturn line :: filledLines lines := by
  unfold filledLines
  rw [List.map_cons, List.filter_cons]
  by_cases hEmpty : dropReturn line = []
  · simp [hEmpty]
  · simp [hEmpty]

/- The loop takes one entry from each line that is filled. -/
theorem loadEntries_eq_ok_iff
    {lines : List (List Char)}
    {lineNumber : Nat}
    {entries loaded : List ProfileEntry} :
    loadEntries lines lineNumber entries = .ok loaded ↔
      ∃ more,
        loaded = entries ++ more ∧
          List.Forall₂ LooseLine (filledLines lines) more ∧
          (more.map ProfileEntry.key).Nodup ∧
          ∀ old ∈ entries, ∀ new ∈ more,
            old.key ≠ new.key := by
  induction lines generalizing lineNumber entries with
  | nil =>
      rw [loadEntries]
      constructor
      · intro hLoad
        exact ⟨[], by simp [Except.ok.inj hLoad],
          List.Forall₂.nil, by simp, by simp⟩
      · intro hMore
        rcases hMore with ⟨more, hLoaded, hLines, -, -⟩
        cases hLines
        rw [hLoaded, List.append_nil]
  | cons line lines ih =>
      rw [loadEntries, filledLines_cons]
      split
      · exact ih
      · constructor
        · intro hLoad
          simp only [bind_eq_ok] at hLoad
          rcases hLoad with
            ⟨fields, hFields, entry, hEntry, hLoad⟩
          split at hLoad
          · cases hLoad
          next hFresh =>
            rcases ih.mp hLoad with
              ⟨more, hLoaded, hLines, hKeys, hApart⟩
            refine ⟨entry :: more, by simp [hLoaded],
              List.Forall₂.cons
                ((parseEntry_eq_ok_iff hFields).mp hEntry)
                hLines, ?_, ?_⟩
            · rw [List.map_cons, List.nodup_cons]
              refine ⟨?_, hKeys⟩
              intro hMember
              rcases List.mem_map.mp hMember with
                ⟨other, hOther, hSame⟩
              exact hApart entry (by simp) other hOther
                hSame.symm
            · intro old hOld new hNew
              rcases List.mem_cons.mp hNew with hIs | hLater
              · intro hSame
                apply hFresh
                rw [hIs] at hSame
                exact List.any_eq_true.mpr
                  ⟨old, hOld, decide_eq_true hSame⟩
              · exact hApart old
                  (List.mem_append_left _ hOld) new hLater
        · intro hMore
          rcases hMore with
            ⟨more, hLoaded, hLines, hKeys, hApart⟩
          cases hLines with
          | @cons _ entry _ later hLine hLater =>
              have hSplit := hLine
              rcases hSplit with
                ⟨_, _, _, _, _, hFields, -⟩
              have hFresh :
                  entries.any
                    (fun other => other.key = entry.key) =
                    false := by
                rw [List.any_eq_false]
                intro old hOld hSame
                exact hApart old hOld entry (by simp)
                  (of_decide_eq_true hSame)
              rw [List.map_cons, List.nodup_cons] at hKeys
              simp only [bind_eq_ok]
              refine ⟨_, hFields, entry,
                (parseEntry_eq_ok_iff hFields).mpr hLine, ?_⟩
              rw [if_neg (by simp [hFresh])]
              apply ih.mpr
              refine ⟨later, by simp [hLoaded], hLater, hKeys.2,
                ?_⟩
              intro old hOld new hNew
              rcases List.mem_append.mp hOld with
                hBefore | hIs
              · exact hApart old hBefore new
                  (List.mem_cons_of_mem _ hNew)
              · intro hSame
                rw [List.mem_singleton.mp hIs] at hSame
                exact hKeys.1
                  (List.mem_map.mpr ⟨new, hNew, hSame.symm⟩)

end

------------------------------------------------------------
-- Accepted Files
------------------------------------------------------------

open Csv

/- What the reader accepts, and as which entries. -/
theorem loadProfile_eq_ok_iff
    (path text : String)
    (entries : List ProfileEntry) :
    loadProfile path (some text) = .ok entries ↔
      FileHolds LooseLine text entries := by
  unfold loadProfile
  simp only
  cases hLines : getLines text.toList [] with
  | nil =>
      constructor
      · intro hLoad
        cases hLoad
      · intro hHolds
        rcases hHolds.header with ⟨first, hFirst, -⟩
        rw [hLines] at hFirst
        cases hFirst
  | cons first lines =>
      have hData : dataLines text = filledLines lines := by
        unfold dataLines
        rw [hLines]
        rfl
      constructor
      · intro hLoad
        rcases bind_eq_ok.mp hLoad with
          ⟨header, hHeader, hLoad⟩
        split at hLoad
        · cases hLoad
        next hIs =>
          rw [not_not] at hIs
          rw [hIs] at hHeader
          rcases bind_eq_ok.mp hLoad with
            ⟨loaded, hLoaded, hLoad⟩
          split at hLoad
          · cases hLoad
          next hSome =>
            cases hLoad
            rcases loadEntries_eq_ok_iff.mp hLoaded with
              ⟨more, hMore, hHolds, hKeys, -⟩
            rw [List.nil_append] at hMore
            rw [← hMore] at hHolds hKeys
            refine ⟨⟨first, by rw [hLines]; rfl, hHeader⟩, ?_,
              by rw [hData]; exact hHolds, hKeys⟩
            intro hNone
            rw [hData] at hNone
            rw [hNone] at hHolds
            cases hHolds
            exact hSome rfl
      · intro hHolds
        rcases hHolds.header with ⟨line, hFirst, hHeader⟩
        rw [hLines] at hFirst
        cases hFirst
        have hHeld := hHolds.lines
        rw [hData] at hHeld
        have hLoaded :
            loadEntries lines 2 [] = .ok entries :=
          loadEntries_eq_ok_iff.mpr
            ⟨entries, rfl, hHeld, hHolds.keys, by simp⟩
        have hSome : entries ≠ [] := by
          intro hNone
          have hNonempty := hHolds.nonempty
          rw [hData] at hNonempty
          rw [hNone] at hHeld
          exact hNonempty (List.forall₂_nil_right_iff.mp hHeld)
        simp only [bind_eq_ok]
        refine ⟨_, hHeader, ?_⟩
        simp only [ne_eq, not_true_eq_false, if_false,
          bind_eq_ok]
        exact ⟨entries, hLoaded, by rw [if_neg hSome]⟩

/- A line in plain numbers is read as it was written. -/
theorem StrictLine.loose
    {line : List Char}
    {entry : ProfileEntry}
    (hLine : StrictLine line entry) :
    LooseLine line entry := by
  rcases hLine with
    ⟨number, runtime, deadline, period, hSplit, hSignature,
      ⟨hNumber, hNumberIs⟩, ⟨hRuntime, hRuntimeIs⟩,
      ⟨hDeadline, hDeadlineIs⟩, ⟨hPeriod, hPeriodIs⟩, hOne,
      hWord, hPositive, hLe, hLe', hLong⟩
  refine ⟨number, runtime, deadline, period,
    entry.instanceNumber, hSplit, ?_, ?_, ?_, ?_, ?_, ?_⟩
  · rw [hNumberIs] at hWord ⊢
    exact strtoullNumber_of_digits hNumber (by omega)
  · rw [Nat.mod_eq_of_lt hWord]
  · rw [hRuntimeIs]
    exact strtoullNumber_of_digits hRuntime (by omega)
  · rw [hDeadlineIs]
    exact strtoullNumber_of_digits hDeadline (by omega)
  · rw [hPeriodIs]
    exact strtoullNumber_of_digits hPeriod (by omega)
  · simp only [ProfileEntry.valid, Bool.and_eq_true,
      decide_eq_true_eq]
    exact ⟨⟨⟨⟨hSignature, by omega⟩, by omega⟩, hLe⟩, hLe'⟩

theorem StrtoullNumber.lt
    {text : String}
    {value : Nat}
    (hNumber : StrtoullNumber text value) :
    value < 2 ^ 64 := by
  rcases hNumber with
    ⟨spaces, sign, digits, -, -, -, -, -, hWord, hValue⟩
  rw [hValue]
  split
  · exact Nat.mod_lt _ (by decide)
  · exact hWord

/- A line that is read has the values of its plain numbers. -/
theorem LooseLine.strict
    {line : List Char}
    {entry : ProfileEntry}
    (hLine : LooseLine line entry)
    (hPlain :
      ∀ signature number name runtime deadline period,
        splitCsv line =
            .ok [signature, number, name, runtime, deadline,
              period] →
          DigitsOnly number ∧ decimalValue number < 2 ^ 32 ∧
            DigitsOnly runtime ∧ DigitsOnly deadline ∧
            DigitsOnly period) :
    StrictLine line entry := by
  rcases hLine with
    ⟨number, runtime, deadline, period, value, hSplit, hNumber,
      hInstance, hRuntime, hDeadline, hPeriod, hValid⟩
  rcases hPlain _ _ _ _ _ _ hSplit with
    ⟨hNumberDigits, hWord, hRuntimeDigits, hDeadlineDigits,
      hPeriodDigits⟩
  have hValue := hNumber.eq_decimalValue hNumberDigits
  rw [hValue, Nat.mod_eq_of_lt hWord] at hInstance
  simp only [ProfileEntry.valid, Bool.and_eq_true,
    decide_eq_true_eq] at hValid
  rcases hValid with
    ⟨⟨⟨⟨hSignature, hOne⟩, hPositive⟩, hLe⟩, hLe'⟩
  refine ⟨number, runtime, deadline, period, hSplit, hSignature,
    ⟨hNumberDigits, hInstance⟩,
    ⟨hRuntimeDigits, hRuntime.eq_decimalValue hRuntimeDigits⟩,
    ⟨hDeadlineDigits,
      hDeadline.eq_decimalValue hDeadlineDigits⟩,
    ⟨hPeriodDigits, hPeriod.eq_decimalValue hPeriodDigits⟩,
    by omega, by omega, by omega, hLe, hLe', hPeriod.lt⟩

/- A strict file is one that is read and has plain numbers. -/
theorem fileHolds_strict_iff
    {text : String}
    {entries : List ProfileEntry} :
    FileHolds StrictLine text entries ↔
      FileHolds LooseLine text entries ∧ PlainNumbers text := by
  constructor
  · intro hStrict
    refine ⟨⟨hStrict.header, hStrict.nonempty,
      hStrict.lines.imp (fun _ _ => StrictLine.loose),
      hStrict.keys⟩, ?_⟩
    intro line hLine signature number name runtime deadline
      period hSplit
    rcases exists_left_of_mem hStrict.lines.flip hLine with
      ⟨entry, -, hWritten⟩
    rcases hWritten with
      ⟨number', runtime', deadline', period', hSplit', -,
        ⟨hNumber, hNumberIs⟩, ⟨hRuntime, -⟩, ⟨hDeadline, -⟩,
        ⟨hPeriod, -⟩, -, hWord, -⟩
    rw [hSplit'] at hSplit
    cases hSplit
    rw [hNumberIs] at hWord
    exact ⟨hNumber, hWord, hRuntime, hDeadline, hPeriod⟩
  · intro hBoth
    rcases hBoth with ⟨hLoose, hPlain⟩
    refine ⟨hLoose.header, hLoose.nonempty, ?_, hLoose.keys⟩
    have hEach := hLoose.lines
    clear hLoose
    unfold PlainNumbers at hPlain
    generalize dataLines text = lines at hEach hPlain ⊢
    induction hEach with
    | nil => exact List.Forall₂.nil
    | cons hLine hLater ih =>
        rw [List.forall_mem_cons] at hPlain
        exact List.Forall₂.cons (hLine.strict hPlain.1)
          (ih hPlain.2)

/-
  The reader accepts exactly the strict files, with the
  values that are written, unless the file is one that
  `strtoull` makes sense of although a number in it is not
  plain.
-/
theorem loadProfile_strict_iff
    (path text : String) :
    (∀ entries,
      loadProfile path (some text) = .ok entries ↔
        FileHolds StrictLine text entries) ↔
      ((∃ entries, FileHolds LooseLine text entries) →
        PlainNumbers text) := by
  simp only [loadProfile_eq_ok_iff, fileHolds_strict_iff]
  constructor
  · intro hSame hSome
    rcases hSome with ⟨entries, hLoose⟩
    exact ((hSame entries).mp hLoose).2
  · intro hPlain entries
    exact ⟨fun hLoose => ⟨hLoose, hPlain ⟨entries, hLoose⟩⟩,
      fun hBoth => hBoth.1⟩

/- A large instance, a space, a plus sign and a minus sign. -/
def looseText : String :=
  "signature,instance,name,runtime_ns,deadline_ns,period_ns\n" ++
    "cam,4294967297,x, 5,+7,-1\n"

theorem looseText_accepted :
    ¬ ∀ entries,
      loadProfile "profile.csv" (some looseText) =
          .ok entries ↔
        FileHolds StrictLine looseText entries := by
  intro hSame
  have hLoad :
      loadProfile "profile.csv" (some looseText) =
        .ok [⟨"cam", 1, "x", 5, 7, 2 ^ 64 - 1⟩] := by
    decide +kernel
  have hPlain :=
    (fileHolds_strict_iff.mp ((hSame _).mp hLoad)).2
  have hLine :
      "cam,4294967297,x, 5,+7,-1".toList ∈
        dataLines looseText := by
    decide +kernel
  have hSplit :
      splitCsv "cam,4294967297,x, 5,+7,-1".toList =
        .ok ["cam", "4294967297", "x", " 5", "+7", "-1"] := by
    decide +kernel
  have hSmall := (hPlain _ hLine _ _ _ _ _ _ hSplit).2.1
  revert hSmall
  decide +kernel

end Scheduler

end RsCamera
