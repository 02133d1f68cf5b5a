import Mathlib.Data.List.Basic
import Mathlib.Tactic.Common

/-
  Comma-separated text as Python's `csv` module writes it in
  its default dialect, and text read line by line as
  `std::getline` reads it.

  A field is quoted when it holds a comma, a quote or the end
  of a line, and quotes inside it are doubled.  A record that
  is one empty field is written as an empty quoted field.

  Main declarations:
    * `csvField`, `csvRecord`
    * `getLines`
    * `getLines_unlines`
-/

------------------------------------------------------------
-- Writing Records
------------------------------------------------------------

namespace Csv

/- The characters that make the writer quote a field. -/
def needsQuote (c : Char) : Bool :=
  c = ',' || c = '"' || c = '\n' || c = '\r'

/- A field with its quotes doubled. -/
def doubleQuotes (field : List Char) : List Char :=
  field.flatMap (fun c => if c = '"' then [c, c] else [c])

/- A quoted field. -/
def quoteField (field : List Char) : List Char :=
  '"' :: (doubleQuotes field ++ ['"'])

def csvField (field : List Char) : List Char :=
  if field.any needsQuote then quoteField field else field

/- The fields of a record, separated by commas. -/
def csvFields : List (List Char) → List Char
| [] => []
| [field] => csvField field
| field :: rest => csvField field ++ ',' :: csvFields rest

def csvRecord (fields : List (List Char)) : List Char :=
  if fields = [[]] then quoteField [] else csvFields fields

/- Writing a field adds no line ends to it. -/
theorem mem_of_mem_csvField
    {field : List Char}
    {c : Char}
    (hMember : c ∈ csvField field) :
    c = '"' ∨ c ∈ field := by
  unfold csvField at hMember
  split at hMember
  · simp only [quoteField, doubleQuotes, List.mem_cons,
      List.mem_append, List.mem_flatMap, List.not_mem_nil,
      or_false] at hMember
    rcases hMember with hQuote | ⟨d, hField, hEq⟩ | hQuote
    · exact Or.inl hQuote
    · split at hEq
      · left
        simp_all
      · right
        simp_all
    · exact Or.inl hQuote
  · exact Or.inr hMember

theorem mem_of_mem_csvFields
    {fields : List (List Char)}
    {c : Char}
    (hMember : c ∈ csvFields fields) :
    c = '"' ∨ c = ',' ∨ ∃ field ∈ fields, c ∈ field := by
  induction fields with
  | nil => cases hMember
  | cons field rest ih =>
      have hField :
          c ∈ csvField field →
            c = '"' ∨ c = ',' ∨
              ∃ other ∈ field :: rest, c ∈ other := by
        intro hOwn
        rcases mem_of_mem_csvField hOwn with hQuote | hOwn
        · exact Or.inl hQuote
        · exact Or.inr (Or.inr
            ⟨field, List.mem_cons_self .., hOwn⟩)
      cases rest with
      | nil => exact hField hMember
      | cons next rest =>
          simp only [csvFields, List.mem_append,
            List.mem_cons] at hMember
          rcases hMember with hOwn | hComma | hRest
          · exact hField hOwn
          · exact Or.inr (Or.inl hComma)
          · rcases ih hRest with
              hQuote | hComma | ⟨other, hOther, hChar⟩
            · exact Or.inl hQuote
            · exact Or.inr (Or.inl hComma)
            · exact Or.inr (Or.inr
                ⟨other, List.mem_cons_of_mem _ hOther,
                  hChar⟩)

------------------------------------------------------------
-- Reading Lines
------------------------------------------------------------

/-
  The lines of a text.  A line end closes a line; what is
  left after the last one is a line unless it is empty.
-/
def getLines : List Char → List Char → List (List Char)
| [], current => if current = [] then [] else [current]
| c :: rest, current =>
    if c = '\n' then
      current :: getLines rest []
    else
      getLines rest (current ++ [c])

/- Write every line with its line end. -/
def unlines (lines : List (List Char)) : List Char :=
  lines.flatMap (fun line => line ++ ['\n'])

theorem getLines_append
    {line : List Char}
    (hLine : '\n' ∉ line)
    (rest current : List Char) :
    getLines (line ++ '\n' :: rest) current =
      (current ++ line) :: getLines rest [] := by
  induction line generalizing current with
  | nil => simp [getLines]
  | cons c line ih =>
      have hHead : c ≠ '\n' := by
        intro hEq
        exact hLine (by simp [hEq])
      have hTail : '\n' ∉ line := by
        intro hMember
        exact hLine (List.mem_cons_of_mem _ hMember)
      simp only [List.cons_append, getLines, hHead, if_false]
      rw [ih hTail]
      simp

/- Lines that were written with line ends are read back. -/
theorem getLines_unlines
    {lines : List (List Char)}
    (hLines : ∀ line ∈ lines, '\n' ∉ line) :
    getLines (unlines lines) [] = lines := by
  induction lines with
  | nil => rfl
  | cons line rest ih =>
      have hRest : ∀ other ∈ rest, '\n' ∉ other :=
        fun other hOther =>
          hLines other (List.mem_cons_of_mem _ hOther)
      have hText :
          unlines (line :: rest) =
            line ++ '\n' :: unlines rest := by
        simp [unlines]
      rw [hText,
        getLines_append (hLines line (List.mem_cons_self ..)),
        ih hRest, List.nil_append]

end Csv
