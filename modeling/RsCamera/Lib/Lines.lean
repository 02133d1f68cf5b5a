import Mathlib.Data.List.Induction

/-
  Lines of a text as `str.splitlines` of Python cuts them.

  Ten characters end a line, and a carriage return together
  with the line feed behind it ends one line.  A text of
  terminated lines is cut at least at its line feeds.

  Main declarations:
    * `isLineBreak`, `splitLines`, `textOf`
    * `splitLines_append`
    * `splitLines_textOf`
    * `not_isLineBreak_of_mem_splitLines`
-/

------------------------------------------------------------
-- Cutting
------------------------------------------------------------

def lineBreaks : List Char :=
  ['\n', '\r', '\x0b', '\x0c', '\x1c', '\x1d', '\x1e',
    '\u0085', '\u2028', '\u2029']

def isLineBreak (c : Char) : Bool :=
  lineBreaks.contains c

/- Put a character in front of the first line. -/
def consLine (c : Char) : List (List Char) → List (List Char)
| [] => [[c]]
| line :: lines => (c :: line) :: lines

def splitLines : List Char → List (List Char)
| [] => []
| '\r' :: '\n' :: rest => [] :: splitLines rest
| c :: rest =>
    if isLineBreak c then
      [] :: splitLines rest
    else
      consLine c (splitLines rest)

example :
    splitLines "a\r\nb\n".toList = [['a'], ['b']] := by
  simp [splitLines, isLineBreak, lineBreaks, consLine]

/- Lines, each with a line feed behind it. -/
def textOf (lines : List (List Char)) : List Char :=
  lines.flatMap (fun line => line ++ ['\n'])

/- The characters that end a line and are not a line feed. -/
def isOtherBreak (c : Char) : Bool :=
  isLineBreak c && c ≠ '\n'

------------------------------------------------------------
-- Cutting Behind A Line Feed
------------------------------------------------------------

theorem splitLines_newline
    (rest : List Char) :
    splitLines ('\n' :: rest) = [] :: splitLines rest := by
  rw [splitLines]
  · simp [isLineBreak, lineBreaks]
  · simp

theorem splitLines_break
    {c : Char}
    {rest : List Char}
    (hBreak : isLineBreak c = true)
    (hPair : ∀ more, c = '\r' → rest ≠ '\n' :: more) :
    splitLines (c :: rest) = [] :: splitLines rest := by
  rw [splitLines]
  · simp [hBreak]
  · exact fun more hc hRest => hPair more hc hRest

theorem splitLines_plain
    {c : Char}
    {rest : List Char}
    (hPlain : isLineBreak c = false) :
    splitLines (c :: rest) = consLine c (splitLines rest) := by
  rw [splitLines]
  · simp [hPlain]
  · intro more hc
    subst hc
    simp [isLineBreak, lineBreaks] at hPlain

theorem consLine_append
    (c : Char)
    {lines : List (List Char)}
    (hLines : lines ≠ [])
    (more : List (List Char)) :
    consLine c (lines ++ more) = consLine c lines ++ more := by
  cases lines with
  | nil => exact absurd rfl hLines
  | cons line lines => rfl

theorem consLine_ne_nil
    (c : Char)
    (lines : List (List Char)) :
    consLine c lines ≠ [] := by
  cases lines with
  | nil => simp [consLine]
  | cons line lines => simp [consLine]

theorem splitLines_ne_nil
    {text : List Char}
    (hText : text ≠ []) :
    splitLines text ≠ [] := by
  fun_cases splitLines text with
  | case1 => exact absurd rfl hText
  | case2 rest => simp
  | case3 c rest _ hBreak => simp
  | case4 c rest _ hPlain => exact consLine_ne_nil c _

/-
  A line feed always ends a line, so what stands behind it is
  cut on its own.
-/
theorem splitLines_append
    (text rest : List Char) :
    splitLines (text ++ '\n' :: rest) =
      splitLines (text ++ ['\n']) ++ splitLines rest := by
  fun_induction splitLines text with
  | case1 => simp [splitLines_newline, splitLines]
  | case2 text ih =>
      simpa [splitLines] using ih
  | case3 c text hPair hBreak ih =>
      cases text with
      | nil =>
          by_cases hReturn : c = '\r'
          · subst hReturn
            simp [splitLines]
          · rw [List.singleton_append, List.singleton_append,
              splitLines_break hBreak, splitLines_break hBreak,
              splitLines_newline, splitLines_newline]
            · simp [splitLines]
            · exact fun more hc => absurd hc hReturn
            · exact fun more hc => absurd hc hReturn
      | cons d text =>
          have hNext :
              ∀ tail more,
                c = '\r' → d :: tail ≠ '\n' :: more := by
            intro tail more hc hEq
            simp only [List.cons.injEq] at hEq
            exact hPair text hc (by rw [hEq.1])
          simp only [List.cons_append] at ih ⊢
          rw [splitLines_break hBreak (hNext _),
            splitLines_break hBreak (hNext _), ih]
          simp
  | case4 c text hPair hPlain ih =>
      have hNot : isLineBreak c = false := by
        simpa using hPlain
      rw [List.cons_append, List.cons_append,
        splitLines_plain hNot, splitLines_plain hNot, ih,
        consLine_append]
      exact splitLines_ne_nil (by simp)

/- Terminated lines are cut apart from what follows them. -/
theorem splitLines_textOf_append
    (lines : List (List Char))
    (rest : List Char) :
    splitLines (textOf lines ++ rest) =
      splitLines (textOf lines) ++ splitLines rest := by
  cases lines using List.reverseRecOn with
  | nil => simp [textOf, splitLines]
  | append_singleton lines line =>
      have hText :
          textOf (lines ++ [line]) =
            (textOf lines ++ line) ++ ['\n'] := by
        simp [textOf]
      have hMore :
          textOf (lines ++ [line]) ++ rest =
            (textOf lines ++ line) ++ '\n' :: rest := by
        simp [textOf]
      rw [hMore, splitLines_append, hText]

------------------------------------------------------------
-- Lines Without Other Breaks
------------------------------------------------------------

theorem splitLines_line
    {line : List Char}
    (hPlain : ∀ c ∈ line, isLineBreak c = false)
    (rest : List Char) :
    splitLines (line ++ '\n' :: rest) =
      line :: splitLines rest := by
  induction line with
  | nil => exact splitLines_newline rest
  | cons c line ih =>
      have hLine :=
        ih (fun d hd => hPlain d (List.mem_cons_of_mem _ hd))
      rw [List.cons_append, splitLines_plain (hPlain c (by simp)),
        hLine, consLine]

theorem splitLines_textOf
    {lines : List (List Char)}
    (hPlain :
      ∀ line ∈ lines, ∀ c ∈ line, isLineBreak c = false) :
    splitLines (textOf lines) = lines := by
  induction lines with
  | nil => simp [textOf, splitLines]
  | cons line lines ih =>
      have hText :
          textOf (line :: lines) =
            line ++ '\n' :: textOf lines := by
        simp [textOf]
      rw [hText, splitLines_line (hPlain line (by simp)),
        ih (fun other hOther =>
          hPlain other (List.mem_cons_of_mem _ hOther))]

/- No line that is cut holds an end of a line. -/
theorem not_isLineBreak_of_mem_splitLines
    {text line : List Char}
    (hLine : line ∈ splitLines text)
    {c : Char}
    (hc : c ∈ line) :
    isLineBreak c = false := by
  fun_induction splitLines text generalizing line with
  | case1 => simp at hLine
  | case2 text ih =>
      rcases List.mem_cons.mp hLine with hEmpty | hRest
      · simp [hEmpty] at hc
      · exact ih hRest hc
  | case3 d text _ _ ih =>
      rcases List.mem_cons.mp hLine with hEmpty | hRest
      · simp [hEmpty] at hc
      · exact ih hRest hc
  | case4 d text _ hPlain ih =>
      have hNot : isLineBreak d = false := by
        simpa using hPlain
      cases hCut : splitLines text with
      | nil =>
          simp only [hCut, consLine, List.mem_singleton] at hLine
          subst hLine
          simp only [List.mem_singleton] at hc
          rw [hc]
          exact hNot
      | cons first more =>
          simp only [hCut, consLine, List.mem_cons] at hLine
          rcases hLine with hFirst | hMore
          · subst hFirst
            rcases List.mem_cons.mp hc with hd | hRest
            · rw [hd]
              exact hNot
            · apply ih _ hRest
              simp [hCut]
          · apply ih _ hc
            simp [hCut, hMore]

------------------------------------------------------------
-- Texts Of Lines
------------------------------------------------------------

theorem textOf_append
    (lines more : List (List Char)) :
    textOf (lines ++ more) = textOf lines ++ textOf more := by
  simp [textOf]

theorem textOf_eq_intercalate
    {lines : List (List Char)}
    (hLines : lines ≠ []) :
    textOf lines =
      List.intercalate ['\n'] lines ++ ['\n'] := by
  induction lines with
  | nil => exact absurd rfl hLines
  | cons line lines ih =>
      cases lines with
      | nil => simp [textOf, List.intercalate]
      | cons next lines =>
          have hRest := ih (by simp)
          have hText :
              textOf (line :: next :: lines) =
                line ++ '\n' :: textOf (next :: lines) := by
            simp [textOf]
          rw [hText, hRest]
          simp [List.intercalate, List.intersperse]

/- A longer list of lines has a longer text. -/
theorem textOf_length_lt
    {lines more : List (List Char)}
    (hLines : lines ≠ []) :
    (textOf more).length < (textOf (lines ++ more)).length := by
  cases lines with
  | nil => exact absurd rfl hLines
  | cons line lines =>
      simp only [textOf, List.cons_append, List.flatMap_cons,
        List.flatMap_append, List.length_append]
      simp
      omega

/-
  A text that is put together from cut lines has no other
  ends of lines.
-/
theorem not_isOtherBreak_of_mem_textOf
    {text : List Char}
    {lines : List (List Char)}
    (hLines : ∀ line ∈ lines, line ∈ splitLines text)
    {c : Char}
    (hc : c ∈ textOf lines) :
    isOtherBreak c = false := by
  simp only [textOf, List.mem_flatMap, List.mem_append,
    List.mem_singleton] at hc
  rcases hc with ⟨line, hLine, hInside | hEnd⟩
  · simp [isOtherBreak,
      not_isLineBreak_of_mem_splitLines
        (hLines line hLine) hInside]
  · simp [isOtherBreak, hEnd]
