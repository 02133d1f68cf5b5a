import RsCamera.Lib.Containers
import RsCamera.Lib.Csv
import RsCamera.Lib.Numeral

/-
  The scheduler model profile: the file the profile generator
  writes (`generate_deadline_profile.py`) and the reader of
  the probe (`deadline_scheduler.cpp`).

  Files are texts; `none` is a file that cannot be opened.

  Key definitions include:
    * `ProfileEntry`
    * `splitCsv`, `parseU64`, `loadProfile`
    * `Accepted`
    * `writeProfile`

  Key theorems include:
    * `loadProfile_accepts`
    * `splitCsv_csvRecord`
    * `loadProfile_writeProfile`
-/

------------------------------------------------------------
-- Reading A Profile
------------------------------------------------------------

namespace RsCamera

namespace Scheduler

section

open Csv

structure ProfileEntry where
  signature : String := ""
  instanceNumber : Nat := 0
  name : String := ""
  runtimeNs : Nat := 0
  deadlineNs : Nat := 0
  periodNs : Nat := 0
deriving Repr, DecidableEq

/- The identity of a thread that an entry is meant for. -/
def ProfileEntry.key (entry : ProfileEntry) : String × Nat :=
  (entry.signature, entry.instanceNumber)

/-
  The loop of `split_csv`: a quote toggles the quoted state,
  except that a doubled quote inside a quoted part stands for
  one quote.
-/
def splitCsvLoop :
    List Char → Bool → List Char → List String →
      Except String (List String)
| [], quoted, current, fields =>
    if quoted then
      .error "Unterminated quoted CSV field"
    else
      .ok (fields ++ [String.ofList current])
| '"' :: '"' :: rest, true, current, fields =>
    splitCsvLoop rest true (current ++ ['"']) fields
| c :: rest, quoted, current, fields =>
    if c = '"' then
      splitCsvLoop rest (!quoted) current fields
    else if c = ',' ∧ quoted = false then
      splitCsvLoop rest quoted []
        (fields ++ [String.ofList current])
    else
      splitCsvLoop rest quoted (current ++ [c]) fields

example :
    splitCsvLoop "a,\"b\"\"\"".toList false [] [] =
      .ok ["a", "b\""] := by
  simp [splitCsvLoop]

def splitCsv (line : List Char) :
    Except String (List String) :=
  splitCsvLoop line false [] []

def parseU64
    (value field : String)
    (line : Nat) : Except String Nat :=
  match stoull value with
  | .ok (result, []) => .ok result
  | _ =>
      .error
        ("Invalid " ++ field ++ " at profile line " ++
          toString line)

def expectedHeader : List String :=
  ["signature", "instance", "name", "runtime_ns",
    "deadline_ns", "period_ns"]

/- Drop a carriage return at the end of a line. -/
def dropReturn (line : List Char) : List Char :=
  if line.getLast? = some '\r' then line.dropLast else line

/- The parameters an entry may have. -/
def ProfileEntry.valid (entry : ProfileEntry) : Bool :=
  entry.signature ≠ "" && entry.instanceNumber ≠ 0 &&
    entry.runtimeNs ≠ 0 &&
    entry.runtimeNs ≤ entry.deadlineNs &&
    entry.deadlineNs ≤ entry.periodNs

/- The entry in the fields of one line. -/
def parseEntry
    (fields : List String)
    (line : Nat) : Except String ProfileEntry :=
  match fields with
  | [signature, number, name, runtime, deadline, period] => do
      let number ← parseU64 number "instance" line
      let runtime ← parseU64 runtime "runtime_ns" line
      let deadline ← parseU64 deadline "deadline_ns" line
      let period ← parseU64 period "period_ns" line
      let entry : ProfileEntry :=
        { signature := signature
          instanceNumber := number % 2 ^ 32
          name := name
          runtimeNs := runtime
          deadlineNs := deadline
          periodNs := period }
      if entry.valid then
        .ok entry
      else
        .error
          ("Invalid scheduler model parameters at profile" ++
            " line " ++ toString line)
  | _ =>
      .error
        ("Wrong CSV field count at profile line " ++
          toString line)

/- The loop of `load_profile` over the lines after the header. -/
def loadEntries :
    List (List Char) → Nat → List ProfileEntry →
      Except String (List ProfileEntry)
| [], _, entries => .ok entries
| line :: rest, lineNumber, entries =>
    if dropReturn line = [] then
      loadEntries rest (lineNumber + 1) entries
    else do
      let fields ← splitCsv (dropReturn line)
      let entry ← parseEntry fields lineNumber
      if entries.any (fun other => other.key = entry.key) then
        .error
          ("Duplicate scheduler model profile identity at" ++
            " line " ++ toString lineNumber)
      else
        loadEntries rest (lineNumber + 1) (entries ++ [entry])

def loadProfile
    (path : String)
    (file : Option String) :
    Except String (List ProfileEntry) :=
  match file with
  | none =>
      .error ("Cannot open scheduler model profile: " ++ path)
  | some text =>
      match getLines text.toList [] with
      | [] =>
          .error ("Empty scheduler model profile: " ++ path)
      | first :: lines => do
          let header ← splitCsv (dropReturn first)
          if header ≠ expectedHeader then
            .error
              ("Scheduler model profile header must be:" ++
                " signature,instance,name," ++
                "runtime_ns,deadline_ns,period_ns")
          else do
            let entries ← loadEntries lines 2 []
            if entries = [] then
              .error
                "Scheduler model profile has no thread entries"
            else
              .ok entries

end

------------------------------------------------------------
-- Accepted Profiles
------------------------------------------------------------

section

open Csv

/- The conditions under which a list of entries is loaded. -/
structure Accepted (entries : List ProfileEntry) : Prop where
  nonempty : entries ≠ []
  valid : ∀ entry ∈ entries, entry.valid = true
  keys : (entries.map ProfileEntry.key).Nodup

theorem parseEntry_eq_ok
    {fields : List String}
    {line : Nat}
    {entry : ProfileEntry}
    (hOk : parseEntry fields line = .ok entry) :
    entry.valid = true := by
  unfold parseEntry at hOk
  split at hOk
  · simp only [bind_eq_ok] at hOk
    rcases hOk with ⟨_, _, _, _, _, _, _, _, hOk⟩
    split at hOk
    next hValid =>
      rw [← Except.ok.inj hOk]
      exact hValid
    · cases hOk
  · cases hOk

theorem loadEntries_accepts
    {lines : List (List Char)}
    {lineNumber : Nat}
    {entries loaded : List ProfileEntry}
    (hValid : ∀ entry ∈ entries, entry.valid = true)
    (hKeys : (entries.map ProfileEntry.key).Nodup)
    (hOk : loadEntries lines lineNumber entries = .ok loaded) :
    (∀ entry ∈ loaded, entry.valid = true) ∧
      (loaded.map ProfileEntry.key).Nodup := by
  induction lines generalizing lineNumber entries with
  | nil =>
      rw [← Except.ok.inj hOk]
      exact ⟨hValid, hKeys⟩
  | cons line lines ih =>
      rw [loadEntries] at hOk
      split at hOk
      · exact ih hValid hKeys hOk
      · simp only [bind_eq_ok] at hOk
        rcases hOk with ⟨fields, _, entry, hEntry, hOk⟩
        split at hOk
        · cases hOk
        next hFresh =>
          apply ih _ _ hOk
          · intro other hMember
            rcases List.mem_append.mp hMember with hOld | hNew
            · exact hValid other hOld
            · rw [List.mem_singleton.mp hNew]
              exact parseEntry_eq_ok hEntry
          · rw [List.map_append, List.nodup_append]
            refine ⟨hKeys, List.nodup_singleton _, ?_⟩
            intro key hKey other hOther hEq
            rcases List.mem_map.mp hKey with
              ⟨old, hOld, hOldKey⟩
            rw [List.map_singleton,
              List.mem_singleton] at hOther
            apply hFresh
            rw [List.any_eq_true]
            refine ⟨old, hOld, ?_⟩
            rw [decide_eq_true_eq, hOldKey, hEq, hOther]

/- Whatever is loaded has passed every check. -/
theorem loadProfile_accepts
    {path : String}
    {file : Option String}
    {entries : List ProfileEntry}
    (hLoad : loadProfile path file = .ok entries) :
    Accepted entries := by
  unfold loadProfile at hLoad
  split at hLoad
  · cases hLoad
  · split at hLoad
    · cases hLoad
    next first lines _ =>
      rcases bind_eq_ok.mp hLoad with ⟨header, _, hRest⟩
      split at hRest
      · cases hRest
      · rcases bind_eq_ok.mp hRest with
          ⟨loaded, hLoaded, hLast⟩
        split at hLast
        · cases hLast
        next hNonempty =>
          rw [← Except.ok.inj hLast]
          rcases loadEntries_accepts (by simp) (by simp)
              hLoaded with
            ⟨hValid, hKeys⟩
          exact ⟨hNonempty, hValid, hKeys⟩

end

------------------------------------------------------------
-- Writing A Profile
------------------------------------------------------------

section

open Csv

/- The columns of a row, in the order of `PROFILE_HEADER`. -/
def ProfileEntry.fields
    (entry : ProfileEntry) : List (List Char) :=
  [entry.signature.toList,
    (toString entry.instanceNumber).toList,
    entry.name.toList,
    (toString entry.runtimeNs).toList,
    (toString entry.deadlineNs).toList,
    (toString entry.periodNs).toList]

/- The header and the rows, each on a line of its own. -/
def writeProfile (rows : List ProfileEntry) : String :=
  String.ofList
    (unlines
      (csvRecord (expectedHeader.map String.toList) ::
        rows.map (fun row => csvRecord row.fields)))

end

------------------------------------------------------------
-- Splitting Written Records
------------------------------------------------------------

section

open Csv

/- Plain characters outside quotes are taken as they are. -/
theorem splitCsvLoop_plain
    {field : List Char}
    (hPlain : ∀ c ∈ field, c ≠ ',' ∧ c ≠ '"')
    (rest current : List Char)
    (fields : List String) :
    splitCsvLoop (field ++ rest) false current fields =
      splitCsvLoop rest false (current ++ field) fields := by
  induction field generalizing current with
  | nil => simp
  | cons c field ih =>
      have hHead := hPlain c (List.mem_cons_self ..)
      have hTail : ∀ d ∈ field, d ≠ ',' ∧ d ≠ '"' :=
        fun d hMember =>
          hPlain d (List.mem_cons_of_mem _ hMember)
      rw [List.cons_append, splitCsvLoop]
      · simp only [hHead.2, hHead.1, false_and, if_false]
        rw [ih hTail, List.append_assoc]
        rfl
      · simp

/- A quoted part ends at the first single quote. -/
theorem splitCsvLoop_quoted
    (field : List Char)
    {rest : List Char}
    (hRest : rest.head? ≠ some '"')
    (current : List Char)
    (fields : List String) :
    splitCsvLoop (doubleQuotes field ++ '"' :: rest) true
        current fields =
      splitCsvLoop rest false (current ++ field) fields := by
  induction field generalizing current with
  | nil =>
      simp only [doubleQuotes, List.flatMap_nil,
        List.nil_append, List.append_nil]
      rw [splitCsvLoop]
      · simp
      · intro after _ _ hEq
        exact hRest (by simp [hEq])
  | cons c field ih =>
      by_cases hQuote : c = '"'
      · subst hQuote
        have hText :
            doubleQuotes ('"' :: field) ++ '"' :: rest =
              '"' :: '"' ::
                (doubleQuotes field ++ '"' :: rest) := by
          simp [doubleQuotes]
        rw [hText, splitCsvLoop, ih, List.append_assoc]
        rfl
      · have hText :
            doubleQuotes (c :: field) ++ '"' :: rest =
              c :: (doubleQuotes field ++ '"' :: rest) := by
          simp [doubleQuotes, hQuote]
        rw [hText, splitCsvLoop]
        · simp only [hQuote, Bool.true_eq_false, and_false,
            if_false]
          rw [ih, List.append_assoc]
          rfl
        · intro after _ hEq
          exact absurd hEq hQuote

/- A written field is read back, quoted or not. -/
theorem splitCsvLoop_csvField
    (field : List Char)
    {rest : List Char}
    (hRest : rest.head? ≠ some '"')
    (fields : List String) :
    splitCsvLoop (csvField field ++ rest) false [] fields =
      splitCsvLoop rest false field fields := by
  unfold csvField
  split
  · have hText :
        quoteField field ++ rest =
          '"' :: (doubleQuotes field ++ '"' :: rest) := by
      simp [quoteField]
    rw [hText, splitCsvLoop]
    · simp only [if_true, Bool.not_false]
      rw [splitCsvLoop_quoted field hRest, List.nil_append]
    · simp
  next hPlain =>
    rw [splitCsvLoop_plain, List.nil_append]
    intro c hMember
    have hKept : needsQuote c = false := by
      by_contra hNeeds
      exact hPlain (List.any_eq_true.mpr
        ⟨c, hMember, by simpa using hNeeds⟩)
    constructor
    · intro hComma
      simp [needsQuote, hComma] at hKept
    · intro hQuote
      simp [needsQuote, hQuote] at hKept

theorem splitCsvLoop_csvFields
    {record : List (List Char)}
    (hRecord : record ≠ [])
    (fields : List String) :
    splitCsvLoop (csvFields record) false [] fields =
      .ok (fields ++ record.map String.ofList) := by
  induction record generalizing fields with
  | nil => exact absurd rfl hRecord
  | cons field rest ih =>
      cases rest with
      | nil =>
          have hText :
              csvFields [field] = csvField field ++ [] := by
            simp [csvFields]
          rw [hText, splitCsvLoop_csvField field (by simp)]
          simp [splitCsvLoop]
      | cons next rest =>
          have hText :
              csvFields (field :: next :: rest) =
                csvField field ++
                  ',' :: csvFields (next :: rest) := rfl
          rw [hText, splitCsvLoop_csvField field (by simp),
            splitCsvLoop]
          · simp only [Char.reduceEq, if_false, true_and,
              if_true]
            rw [ih (by simp)]
            simp
          · simp

/- Every record the writer writes is split into its fields. -/
theorem splitCsv_csvRecord
    {record : List (List Char)}
    (hRecord : record ≠ []) :
    splitCsv (csvRecord record) =
      .ok (record.map String.ofList) := by
  unfold splitCsv csvRecord
  split
  next hEmpty =>
    subst hEmpty
    rfl
  · rw [splitCsvLoop_csvFields hRecord, List.nil_append]

end

------------------------------------------------------------
-- Reading Back A Written Profile
------------------------------------------------------------

open Csv

/- A text that stays on its line. -/
def OnOneLine (text : String) : Prop :=
  ∀ c ∈ text.toList, c ≠ '\n' ∧ c ≠ '\r'

instance
    (text : String) :
    Decidable (OnOneLine text) :=
  List.decidableBAll
    (fun c => c ≠ '\n' ∧ c ≠ '\r') text.toList

/- The rows a profile is made of. -/
structure ProfileEntry.Emitted
    (row : ProfileEntry) : Prop where
  signature_ne : row.signature ≠ ""
  instance_pos : 1 ≤ row.instanceNumber
  instance_lt : row.instanceNumber < 2 ^ 32
  runtime_pos : 1 ≤ row.runtimeNs
  runtime_le : row.runtimeNs ≤ row.deadlineNs
  deadline_le : row.deadlineNs ≤ row.periodNs
  period_lt : row.periodNs < 2 ^ 64
  signature_line : OnOneLine row.signature
  name_line : OnOneLine row.name

theorem onOneLine_toString
    (value : Nat) :
    OnOneLine (toString value) := by
  intro c hMember
  have hText :
      (toString value).toList = Nat.toDigits 10 value :=
    Nat.toList_repr
  rw [hText] at hMember
  have hDigit : c.isDigit = true :=
    Nat.isDigit_of_mem_toDigits (by decide) (by decide)
      hMember
  constructor
  · intro hEq
    rw [hEq] at hDigit
    cases hDigit
  · intro hEq
    rw [hEq] at hDigit
    cases hDigit

/- A written row holds no line ends. -/
theorem ProfileEntry.Emitted.record_line
    {row : ProfileEntry}
    (hRow : row.Emitted)
    {c : Char}
    (hMember : c ∈ csvRecord row.fields) :
    c ≠ '\n' ∧ c ≠ '\r' := by
  have hFields :
      ∀ field ∈ row.fields, ∀ d ∈ field,
        d ≠ '\n' ∧ d ≠ '\r' := by
    intro field hField d hChar
    simp only [ProfileEntry.fields, List.mem_cons,
      List.not_mem_nil, or_false] at hField
    rcases hField with
      hEq | hEq | hEq | hEq | hEq | hEq
    all_goals rw [hEq] at hChar
    · exact hRow.signature_line d hChar
    · exact onOneLine_toString _ d hChar
    · exact hRow.name_line d hChar
    · exact onOneLine_toString _ d hChar
    · exact onOneLine_toString _ d hChar
    · exact onOneLine_toString _ d hChar
  have hRecord : csvRecord row.fields = csvFields row.fields := by
    simp [csvRecord, ProfileEntry.fields]
  rw [hRecord] at hMember
  rcases mem_of_mem_csvFields hMember with
    hQuote | hComma | ⟨field, hField, hChar⟩
  · simp [hQuote]
  · simp [hComma]
  · exact hFields field hField c hChar

theorem dropReturn_of_not_mem
    {line : List Char}
    (hLine : '\r' ∉ line) :
    dropReturn line = line := by
  unfold dropReturn
  rw [if_neg]
  intro hLast
  exact hLine (List.mem_of_getLast? hLast)

theorem parseU64_toString
    {value : Nat}
    (hValue : value < 2 ^ 64)
    (field : String)
    (line : Nat) :
    parseU64 (toString value) field line = .ok value := by
  unfold parseU64
  rw [stoull_toString hValue]

theorem ProfileEntry.Emitted.valid
    {row : ProfileEntry}
    (hRow : row.Emitted) :
    row.valid = true := by
  have hInstance := hRow.instance_pos
  have hRuntime := hRow.runtime_pos
  simp only [ProfileEntry.valid, Bool.and_eq_true,
    decide_eq_true_eq]
  exact ⟨⟨⟨⟨hRow.signature_ne, by omega⟩, by omega⟩,
    hRow.runtime_le⟩, hRow.deadline_le⟩

/- The fields of a row are parsed back into the row. -/
theorem parseEntry_fields
    {row : ProfileEntry}
    (hRow : row.Emitted)
    (line : Nat) :
    parseEntry (row.fields.map String.ofList) line =
      .ok row := by
  have hInstance := hRow.instance_lt
  have hRuntime := hRow.runtime_le
  have hDeadline := hRow.deadline_le
  have hPeriod := hRow.period_lt
  simp only [ProfileEntry.fields, List.map_cons, List.map_nil,
    String.ofList_toList, parseEntry]
  rw [parseU64_toString (by omega),
    parseU64_toString (by omega),
    parseU64_toString (by omega), parseU64_toString hPeriod]
  have hSame :
      ({ row with
          instanceNumber := row.instanceNumber % 2 ^ 32 } :
        ProfileEntry) = row := by
    rw [Nat.mod_eq_of_lt hInstance]
  simp only [bind, Except.bind]
  rw [hSame, if_pos hRow.valid]

/- The rows are appended in the order of their lines. -/
theorem loadEntries_rows
    {rows : List ProfileEntry}
    (hRows : ∀ row ∈ rows, row.Emitted)
    (entries : List ProfileEntry)
    (hKeys : ((entries ++ rows).map ProfileEntry.key).Nodup)
    (lineNumber : Nat) :
    loadEntries
        (rows.map (fun row => csvRecord row.fields))
        lineNumber entries =
      .ok (entries ++ rows) := by
  induction rows generalizing entries lineNumber with
  | nil => simp [loadEntries]
  | cons row rest ih =>
      have hRow := hRows row (List.mem_cons_self ..)
      have hLine :
          dropReturn (csvRecord row.fields) =
            csvRecord row.fields := by
        refine dropReturn_of_not_mem ?_
        intro hMember
        exact (hRow.record_line hMember).2 rfl
      have hSome : csvRecord row.fields ≠ [] := by
        simp [csvRecord, ProfileEntry.fields, csvFields]
      have hSplit :
          splitCsv (csvRecord row.fields) =
            .ok (row.fields.map String.ofList) :=
        splitCsv_csvRecord (by simp [ProfileEntry.fields])
      have hFresh :
          entries.any
            (fun other => other.key = row.key) = false := by
        rw [List.any_eq_false]
        intro other hOther hEq
        rw [List.map_append, List.map_cons] at hKeys
        have hDisjoint := (List.nodup_append.mp hKeys).2.2
        exact hDisjoint other.key
          (List.mem_map_of_mem hOther) row.key
          (List.mem_cons_self ..) (by simpa using hEq)
      have hNext :
          ((entries ++ [row] ++ rest).map
            ProfileEntry.key).Nodup := by
        simpa using hKeys
      have hRest :=
        ih (fun other hOther =>
            hRows other (List.mem_cons_of_mem _ hOther))
          (entries ++ [row]) hNext (lineNumber + 1)
      simp only [List.map_cons, loadEntries, hLine, hSome,
        if_false, hSplit, parseEntry_fields hRow, bind,
        Except.bind, hFresh, Bool.false_eq_true]
      rw [hRest]
      simp

/-
  Writing rows and reading the file gives the rows back, in
  their order.
-/
theorem loadProfile_writeProfile
    (path : String)
    (rows : List ProfileEntry)
    (hNonempty : rows ≠ [])
    (hRows : ∀ row ∈ rows, row.Emitted)
    (hKeys : (rows.map ProfileEntry.key).Nodup) :
    loadProfile path (some (writeProfile rows)) =
      .ok rows := by
  have hHeader :
      splitCsv (dropReturn
          (csvRecord (expectedHeader.map String.toList))) =
        .ok expectedHeader := by
    decide +kernel
  have hLines :
      getLines (writeProfile rows).toList [] =
        csvRecord (expectedHeader.map String.toList) ::
          rows.map (fun row => csvRecord row.fields) := by
    unfold writeProfile
    rw [String.toList_ofList, getLines_unlines]
    intro line hLine
    rcases List.mem_cons.mp hLine with hEq | hRest
    · rw [hEq]
      decide +kernel
    · rcases List.mem_map.mp hRest with ⟨row, hRow, hEq⟩
      rw [← hEq]
      intro hMember
      exact ((hRows row hRow).record_line hMember).1 rfl
  have hEntries :=
    loadEntries_rows hRows [] hKeys 2
  unfold loadProfile
  simp only [hLines, hHeader, bind, Except.bind, ne_eq,
    not_true_eq_false, if_false]
  rw [hEntries]
  simp [hNonempty]

/- Commas, quotes and empty names survive. -/
theorem quotedRows_roundTrip :
    loadProfile "profile.csv"
        (some (writeProfile
          [⟨"a,\"b\"", 1, "", 100, 200, 200⟩,
            ⟨"\"", 1, "x,y", 1, 1, 2 ^ 64 - 1⟩])) =
      .ok
        [⟨"a,\"b\"", 1, "", 100, 200, 200⟩,
          ⟨"\"", 1, "x,y", 1, 1, 2 ^ 64 - 1⟩] := by
  refine loadProfile_writeProfile _ _ (by simp) ?_
    (by decide +kernel)
  intro row hRow
  simp only [List.mem_cons, List.not_mem_nil,
    or_false] at hRow
  rcases hRow with hEq | hEq
  all_goals
    rw [hEq]
    exact ⟨by decide, by decide, by decide, by decide,
      by decide, by decide, by decide,
      by decide +kernel, by decide +kernel⟩

end Scheduler

end RsCamera
