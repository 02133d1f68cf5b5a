import RsCamera.Scheduler.Profile

/-
  What the reader can make of any profile that was written,
  whatever its signatures and names hold.

  A line end inside a quoted field cuts the record in two;
  the first part ends inside the quotes, so the reader
  refuses the file.  Where the reader accepts a written
  file, it has the rows of the writer, with the instance
  numbers as 32-bit words.

  Key definitions include:
    * `ProfileEntry.wrapped`

  Key theorems include:
    * `splitCsvLoop_cut`
    * `loadProfile_written`
-/

------------------------------------------------------------
-- Line Ends And Carriage Returns
------------------------------------------------------------

namespace RsCamera

namespace Scheduler

section

open Csv

/- Only the last part of a line can lose a return. -/
theorem dropReturn_append
    (line : List Char)
    {rest : List Char}
    (hRest : rest ≠ []) :
    dropReturn (line ++ rest) = line ++ dropReturn rest := by
  have hLast : (line ++ rest).getLast? = rest.getLast? := by
    rw [List.getLast?_append_of_ne_nil _ hRest]
  unfold dropReturn
  rw [hLast]
  split
  · rw [List.dropLast_append_of_ne_nil hRest]
  · rfl

theorem doubleQuotes_append_singleton
    (field : List Char)
    (c : Char) :
    doubleQuotes (field ++ [c]) =
      doubleQuotes field ++
        (if c = '"' then [c, c] else [c]) := by
  simp [doubleQuotes]

/- Dropping a return keeps the quotes of a field paired. -/
theorem dropReturn_doubleQuotes
    (field : List Char) :
    ∃ field', dropReturn (doubleQuotes field) =
      doubleQuotes field' := by
  induction field using List.reverseRecOn with
  | nil => exact ⟨[], rfl⟩
  | append_singleton field c _ =>
      by_cases hReturn : c = '\r'
      · refine ⟨field, ?_⟩
        rw [doubleQuotes_append_singleton, hReturn,
          dropReturn_append _ (by simp)]
        simp [dropReturn]
      · refine ⟨field ++ [c], ?_⟩
        rw [doubleQuotes_append_singleton,
          dropReturn_append _ (by split <;> simp),
          dropReturn_of_not_mem]
        split
        · simp [Ne.symm hReturn]
        · simp [Ne.symm hReturn]

/- The characters of a text before its first line end. -/
def firstLine (text : List Char) : List Char :=
  text.takeWhile (fun c => c ≠ '\n')

theorem firstLine_append
    {line : List Char}
    (hLine : '\n' ∉ line)
    (rest : List Char) :
    firstLine (line ++ rest) = line ++ firstLine rest := by
  apply List.takeWhile_append_of_pos
  intro c hMember
  rw [decide_eq_true_eq]
  intro hEq
  exact hLine (hEq ▸ hMember)

/- A text with a line end is read up to there first. -/
theorem getLines_firstLine
    {text : List Char}
    (hText : '\n' ∈ text)
    (rest : List Char) :
    ∃ more,
      getLines (text ++ rest) [] = firstLine text :: more := by
  rcases List.eq_append_cons_of_mem hText with
    ⟨before, after, hEq, hBefore⟩
  have hFirst : firstLine text = before := by
    rw [hEq, firstLine_append hBefore]
    simp [firstLine]
  have hWhole :
      text ++ rest = before ++ '\n' :: (after ++ rest) := by
    rw [hEq]
    simp
  rw [hFirst, hWhole, getLines_append hBefore,
    List.nil_append]
  exact ⟨_, rfl⟩

end

------------------------------------------------------------
-- Records With Line Ends
------------------------------------------------------------

section

open Csv

/- A quoted part that is cut off is not accepted. -/
theorem splitCsvLoop_open
    (field current : List Char)
    (fields : List String) :
    splitCsvLoop (doubleQuotes field) true current fields =
      .error "Unterminated quoted CSV field" := by
  induction field generalizing current with
  | nil => rfl
  | cons c field ih =>
      by_cases hQuote : c = '"'
      · subst hQuote
        have hText :
            doubleQuotes ('"' :: field) =
              '"' :: '"' :: doubleQuotes field := by
          simp [doubleQuotes]
        rw [hText, splitCsvLoop, ih]
      · have hText :
            doubleQuotes (c :: field) =
              c :: doubleQuotes field := by
          simp [doubleQuotes, hQuote]
        rw [hText, splitCsvLoop]
        · simp only [hQuote, Bool.true_eq_false, and_false,
            if_false]
          exact ih _
        · intro after _ hEq
          exact absurd hEq hQuote

theorem not_mem_doubleQuotes
    {field : List Char}
    (hField : '\n' ∉ field) :
    '\n' ∉ doubleQuotes field := by
  intro hMember
  simp only [doubleQuotes, List.mem_flatMap] at hMember
  rcases hMember with ⟨c, hChar, hEq⟩
  split at hEq
  next hQuote => simp [hQuote] at hEq
  · rw [List.mem_singleton] at hEq
    exact hField (hEq ▸ hChar)

/- A field with a line end is cut inside its quotes. -/
theorem firstLine_csvField
    {field : List Char}
    (hField : '\n' ∈ field)
    (rest : List Char) :
    ∃ before,
      firstLine (csvField field ++ rest) =
        '"' :: doubleQuotes before := by
  rcases List.eq_append_cons_of_mem hField with
    ⟨before, after, hEq, hBefore⟩
  have hQuoted : field.any needsQuote = true :=
    List.any_eq_true.mpr ⟨'\n', hField, by decide⟩
  have hText :
      csvField field ++ rest =
        '"' :: (doubleQuotes before ++
          '\n' :: (doubleQuotes after ++ '"' :: rest)) := by
    rw [csvField, if_pos hQuoted, hEq]
    simp [quoteField, doubleQuotes]
  have hFirst :=
    firstLine_append (not_mem_doubleQuotes hBefore)
      ('\n' :: (doubleQuotes after ++ '"' :: rest))
  refine ⟨before, ?_⟩
  rw [hText]
  have hCons :
      firstLine ('"' :: (doubleQuotes before ++
          '\n' :: (doubleQuotes after ++ '"' :: rest))) =
        '"' :: firstLine (doubleQuotes before ++
          '\n' :: (doubleQuotes after ++ '"' :: rest)) := by
    simp [firstLine]
  rw [hCons, hFirst]
  simp [firstLine]

/-
  The first line of a record that holds a line end is not
  empty, and is refused.
-/
theorem splitCsvLoop_cut
    {record : List (List Char)}
    (hRecord : '\n' ∈ csvFields record)
    (fields : List String) :
    dropReturn (firstLine (csvFields record)) ≠ [] ∧
      splitCsvLoop
          (dropReturn (firstLine (csvFields record))) false []
          fields =
        .error "Unterminated quoted CSV field" := by
  induction record generalizing fields with
  | nil => cases hRecord
  | cons field rest ih =>
      -- The text after the first field.
      obtain ⟨tail, hTail, hNext⟩ :
          ∃ tail,
            csvFields (field :: rest) =
                csvField field ++ tail ∧
              ('\n' ∈ tail →
                tail = ',' :: csvFields rest) := by
        cases rest with
        | nil =>
            exact ⟨[], by simp [csvFields], by simp⟩
        | cons next rest =>
            exact ⟨',' :: csvFields (next :: rest), rfl,
              fun _ => rfl⟩
      rw [hTail] at hRecord ⊢
      by_cases hField : '\n' ∈ field
      · rcases firstLine_csvField hField tail with
          ⟨before, hFirst⟩
        rw [hFirst]
        by_cases hEmpty : doubleQuotes before = []
        · rw [hEmpty]
          exact ⟨by decide, rfl⟩
        · rcases dropReturn_doubleQuotes before with
            ⟨before', hDrop⟩
          have hCons :
              dropReturn ('"' :: doubleQuotes before) =
                '"' :: doubleQuotes before' := by
            rw [← List.singleton_append,
              dropReturn_append _ hEmpty, hDrop]
            rfl
          rw [hCons]
          refine ⟨by simp, ?_⟩
          rw [splitCsvLoop]
          · simp only [if_true, Bool.not_false]
            exact splitCsvLoop_open _ _ _
          · simp
      · have hOwn : '\n' ∉ csvField field := by
          intro hMember
          rcases mem_of_mem_csvField hMember with
            hQuote | hInside
          · exact absurd hQuote (by decide)
          · exact hField hInside
        have hRest : '\n' ∈ tail := by
          rcases List.mem_append.mp hRecord with
            hLeft | hRight
          · exact absurd hLeft hOwn
          · exact hRight
        have hComma := hNext hRest
        rw [hComma] at hRest ⊢
        have hLater : '\n' ∈ csvFields rest := by
          simpa using hRest
        have hFirst :
            firstLine (',' :: csvFields rest) =
              ',' :: firstLine (csvFields rest) := by
          simp [firstLine]
        rw [firstLine_append hOwn, hFirst]
        rcases ih hLater (fields ++ [String.ofList field]) with
          ⟨hSome, hRefused⟩
        have hNonempty : firstLine (csvFields rest) ≠ [] := by
          intro hNone
          rw [hNone] at hSome
          exact hSome rfl
        have hDrop :
            dropReturn (csvField field ++
                ',' :: firstLine (csvFields rest)) =
              csvField field ++
                ',' ::
                  dropReturn (firstLine (csvFields rest)) := by
          rw [dropReturn_append _ (by simp),
            ← List.singleton_append,
            dropReturn_append _ hNonempty]
          rfl
        rw [hDrop]
        refine ⟨by simp, ?_⟩
        rw [splitCsvLoop_csvField field (by simp),
          splitCsvLoop]
        · simp only [Char.reduceEq, if_false, true_and,
            if_true]
          exact hRefused
        · simp

end

------------------------------------------------------------
-- Rows Read Back
------------------------------------------------------------

open Csv

/- A row whose instance number is a 32-bit word. -/
def ProfileEntry.wrapped (row : ProfileEntry) : ProfileEntry :=
  { row with instanceNumber := row.instanceNumber % 2 ^ 32 }

theorem parseU64_toString_eq_ok
    {value result : Nat}
    {field : String}
    {line : Nat}
    (hOk :
      parseU64 (toString value) field line = .ok result) :
    result = value := by
  by_cases hValue : value < 2 ^ 64
  · rw [parseU64_toString hValue] at hOk
    exact (Except.ok.inj hOk).symm
  · have hRange :
        stoull (toString value) = .error "stoull" := by
      unfold stoull
      rw [scanNumeral_toString]
      simp only
      rw [if_neg hValue]
    unfold parseU64 at hOk
    rw [hRange] at hOk
    cases hOk

theorem parseEntry_fields_eq_ok
    {row entry : ProfileEntry}
    {line : Nat}
    (hOk :
      parseEntry (row.fields.map String.ofList) line =
        .ok entry) :
    entry = row.wrapped := by
  simp only [ProfileEntry.fields, List.map_cons, List.map_nil,
    String.ofList_toList, parseEntry, bind_eq_ok] at hOk
  rcases hOk with
    ⟨number, hNumber, runtime, hRuntime, deadline, hDeadline,
      period, hPeriod, hRest⟩
  split at hRest
  · rw [← Except.ok.inj hRest,
      parseU64_toString_eq_ok hNumber,
      parseU64_toString_eq_ok hRuntime,
      parseU64_toString_eq_ok hDeadline,
      parseU64_toString_eq_ok hPeriod]
    rfl
  · cases hRest

/- The line of a row is read as it stands. -/
theorem dropReturn_row
    (row : ProfileEntry) :
    dropReturn (csvRecord row.fields) =
      csvRecord row.fields := by
  have hRecord :
      ∃ line,
        csvRecord row.fields =
          line ++
            ',' :: csvField
              (toString row.periodNs).toList := by
    refine ⟨csvField row.signature.toList ++
      ',' :: (csvField (toString row.instanceNumber).toList ++
      ',' :: (csvField row.name.toList ++
      ',' :: (csvField (toString row.runtimeNs).toList ++
      ',' :: csvField (toString row.deadlineNs).toList))),
      ?_⟩
    simp [csvRecord, ProfileEntry.fields, csvFields]
  have hLast :
      '\r' ∉
        ',' :: csvField (toString row.periodNs).toList := by
    intro hMember
    rcases List.mem_cons.mp hMember with hComma | hField
    · exact absurd hComma (by decide)
    · rcases mem_of_mem_csvField hField with hQuote | hInside
      · exact absurd hQuote (by decide)
      · exact (onOneLine_toString row.periodNs _
          hInside).2 rfl
  rcases hRecord with ⟨line, hEq⟩
  rw [hEq, dropReturn_append _ (by simp),
    dropReturn_of_not_mem hLast]

theorem loadEntries_written
    {rows entries loaded : List ProfileEntry}
    {lineNumber : Nat}
    (hOk :
      loadEntries
          (getLines
            (unlines
              (rows.map (fun row => csvRecord row.fields)))
            [])
          lineNumber entries =
        .ok loaded) :
    loaded = entries ++ rows.map ProfileEntry.wrapped := by
  induction rows generalizing lineNumber entries with
  | nil =>
      rw [List.map_nil, List.append_nil]
      exact (Except.ok.inj hOk).symm
  | cons row rest ih =>
      have hText :
          unlines ((row :: rest).map
              (fun row => csvRecord row.fields)) =
            csvRecord row.fields ++
              '\n' :: unlines
                (rest.map (fun row => csvRecord row.fields)) := by
        simp [unlines]
      have hRecord :
          csvRecord row.fields = csvFields row.fields := by
        simp [csvRecord, ProfileEntry.fields]
      rw [hText] at hOk
      by_cases hLine : '\n' ∈ csvRecord row.fields
      · rcases getLines_firstLine hLine
            ('\n' :: unlines
              (rest.map (fun row => csvRecord row.fields)))
          with ⟨more, hLines⟩
        rw [hRecord] at hLine
        rcases splitCsvLoop_cut hLine [] with
          ⟨hSome, hRefused⟩
        rw [hLines, hRecord, loadEntries, if_neg hSome,
          splitCsv, hRefused] at hOk
        cases hOk
      · have hSome : csvRecord row.fields ≠ [] := by
          simp [csvRecord, ProfileEntry.fields, csvFields]
        rw [getLines_append hLine, List.nil_append,
          loadEntries, dropReturn_row, if_neg hSome,
          splitCsv_csvRecord (by simp [ProfileEntry.fields])]
          at hOk
        rcases bind_eq_ok.mp hOk with ⟨fields, hFields, hRest⟩
        cases Except.ok.inj hFields
        rcases bind_eq_ok.mp hRest with
          ⟨entry, hEntry, hLast⟩
        split at hLast
        · cases hLast
        · rw [ih hLast, parseEntry_fields_eq_ok hEntry]
          simp

/-
  Whenever a written profile is accepted, it holds the rows
  that were written, in their order.
-/
theorem loadProfile_written
    {path : String}
    {rows entries : List ProfileEntry}
    (hLoad :
      loadProfile path (some (writeProfile rows)) =
        .ok entries) :
    entries = rows.map ProfileEntry.wrapped := by
  have hLines :
      getLines (writeProfile rows).toList [] =
        csvRecord (expectedHeader.map String.toList) ::
          getLines
            (unlines
              (rows.map (fun row => csvRecord row.fields)))
            [] := by
    have hHeader :
        '\n' ∉ csvRecord
          (expectedHeader.map String.toList) := by
      decide +kernel
    unfold writeProfile
    rw [String.toList_ofList]
    have hText :
        unlines
            (csvRecord (expectedHeader.map String.toList) ::
              rows.map (fun row => csvRecord row.fields)) =
          csvRecord (expectedHeader.map String.toList) ++
            '\n' :: unlines
              (rows.map
                (fun row => csvRecord row.fields)) := by
      simp [unlines]
    rw [hText, getLines_append hHeader, List.nil_append]
  unfold loadProfile at hLoad
  simp only [hLines] at hLoad
  rcases bind_eq_ok.mp hLoad with ⟨header, _, hRest⟩
  split at hRest
  · cases hRest
  · rcases bind_eq_ok.mp hRest with ⟨loaded, hLoaded, hLast⟩
    split at hLast
    · cases hLast
    · rw [← Except.ok.inj hLast, loadEntries_written hLoaded,
        List.nil_append]

end Scheduler

end RsCamera
