import Mathlib.Data.List.DropRight
import Mathlib.Data.List.TakeWhile
import Mathlib.Data.String.Basic

/-
  Texts that are split at a character.

  `String.splitOn` looks for its separator by positions in
  bytes.  When the separator is one character, the parts are
  the ones that `List.splitOn` finds, and the last part is what
  follows the last separator.

  Key theorems include:
    * `splitOn_singleton`
    * `getLast?_splitOn`
    * `intercalate_cons`
    * `splitOnP_intercalate`
    * `splitOn_append`
-/

------------------------------------------------------------
-- One Step Of The Search
------------------------------------------------------------

namespace Texts

section

open String (utf8Len)

set_option linter.deprecated false

section Steps

variable (separator : Char)
variable (front part : List Char)
variable (found : List String)

/- The text after what is read: the part so far is the last. -/
theorem splitOnAux_nil :
    String.splitOnAux (String.ofList (front ++ part))
        (String.ofList [separator]) ⟨utf8Len front⟩
        ⟨utf8Len front + utf8Len part⟩ 0 found =
      found.reverse ++ [String.ofList part] := by
  have hEnd :
      String.Pos.Raw.atEnd (String.ofList (front ++ part))
        ⟨utf8Len front + utf8Len part⟩ = true := by
    rw [String.atEnd_iff, String.rawEndPos_ofList,
      String.utf8Len_append]
    exact String.Pos.Raw.le_refl
  have hPart :=
    String.extract_of_valid front part []
  rw [List.append_nil] at hPart
  unfold String.splitOnAux
  rw [if_pos hEnd, hPart, List.reverse_cons]

/- The character at the position, and the position after it. -/
theorem not_atEnd_cons
    (c : Char)
    (rest : List Char) :
    String.Pos.Raw.atEnd
        (String.ofList (front ++ part ++ c :: rest))
        ⟨utf8Len front + utf8Len part⟩ ≠ true := by
  have hWidth := c.utf8Size_pos
  rw [ne_eq, String.atEnd_iff, String.rawEndPos_ofList,
    String.utf8Len_append, String.utf8Len_append,
    String.utf8Len_cons, String.Pos.Raw.mk_le_mk]
  omega

theorem get_cons
    (c : Char)
    (rest : List Char) :
    String.Pos.Raw.get
        (String.ofList (front ++ part ++ c :: rest))
        ⟨utf8Len front + utf8Len part⟩ = c := by
  have hGet := String.get_of_valid (front ++ part) (c :: rest)
  rw [String.utf8Len_append] at hGet
  exact hGet

theorem next_cons
    (c : Char)
    (rest : List Char) :
    String.Pos.Raw.next
        (String.ofList (front ++ part ++ c :: rest))
        ⟨utf8Len front + utf8Len part⟩ =
      ⟨utf8Len front + utf8Len part + c.utf8Size⟩ := by
  have hNext := String.next_of_valid (front ++ part) c rest
  rw [String.utf8Len_append] at hNext
  exact hNext

/- A separator ends the part. -/
theorem splitOnAux_separator
    (rest : List Char) :
    String.splitOnAux
        (String.ofList (front ++ part ++ separator :: rest))
        (String.ofList [separator]) ⟨utf8Len front⟩
        ⟨utf8Len front + utf8Len part⟩ 0 found =
      String.splitOnAux
        (String.ofList (front ++ part ++ separator :: rest))
        (String.ofList [separator])
        ⟨utf8Len front + utf8Len part + separator.utf8Size⟩
        ⟨utf8Len front + utf8Len part + separator.utf8Size⟩ 0
        (String.ofList part :: found) := by
  have hFirst :
      String.Pos.Raw.get (String.ofList [separator]) 0 =
        separator :=
    get_cons [] [] separator []
  have hAfter :
      String.Pos.Raw.next (String.ofList [separator]) 0 =
        ⟨separator.utf8Size⟩ := by
    have hNext := next_cons [] [] separator []
    simpa using hNext
  have hEnd :
      String.Pos.Raw.atEnd (String.ofList [separator])
        ⟨separator.utf8Size⟩ = true := by
    rw [String.atEnd_iff, String.rawEndPos_ofList]
    simp
  have hPart :=
    String.extract_of_valid front part (separator :: rest)
  have hBack :
      (⟨utf8Len front + utf8Len part +
          separator.utf8Size⟩ : String.Pos.Raw).unoffsetBy
          ⟨separator.utf8Size⟩ =
        ⟨utf8Len front + utf8Len part⟩ := by
    ext
    simp
  rw [String.splitOnAux.eq_1,
    if_neg (not_atEnd_cons front part separator rest),
    get_cons, hFirst]
  simp only [beq_self_eq_true, if_true, next_cons, hAfter, hEnd,
    hBack, hPart]

/- Any other character belongs to the part. -/
theorem splitOnAux_other
    {c : Char}
    (hOther : c ≠ separator)
    (rest : List Char) :
    String.splitOnAux
        (String.ofList (front ++ part ++ c :: rest))
        (String.ofList [separator]) ⟨utf8Len front⟩
        ⟨utf8Len front + utf8Len part⟩ 0 found =
      String.splitOnAux
        (String.ofList (front ++ part ++ c :: rest))
        (String.ofList [separator]) ⟨utf8Len front⟩
        ⟨utf8Len front + utf8Len part + c.utf8Size⟩ 0 found := by
  have hFirst :
      String.Pos.Raw.get (String.ofList [separator]) 0 =
        separator :=
    get_cons [] [] separator []
  have hBack :
      (⟨utf8Len front + utf8Len part⟩ :
          String.Pos.Raw).unoffsetBy 0 =
        ⟨utf8Len front + utf8Len part⟩ := by
    ext
    simp
  rw [String.splitOnAux.eq_1,
    if_neg (not_atEnd_cons front part c rest), get_cons, hFirst,
    hBack, next_cons, if_neg (by simpa using hOther)]

end Steps

end

------------------------------------------------------------
-- The Parts
------------------------------------------------------------

open String (utf8Len)

set_option linter.deprecated false

/- The parts that are found from a position on. -/
theorem splitOnAux_eq
    (separator : Char)
    (front part rest : List Char)
    (found : List String) :
    String.splitOnAux (String.ofList (front ++ part ++ rest))
        (String.ofList [separator]) ⟨utf8Len front⟩
        ⟨utf8Len front + utf8Len part⟩ 0 found =
      found.reverse ++
        (List.splitOnPPrepend (fun c => c == separator) rest
          part.reverse).map String.ofList := by
  induction rest generalizing front part found with
  | nil =>
      rw [List.append_nil, splitOnAux_nil]
      simp
  | cons c rest ih =>
      by_cases hIs : c = separator
      · subst hIs
        have hRest :=
          ih (front ++ part ++ [c]) []
            (String.ofList part :: found)
        rw [splitOnAux_separator,
          List.splitOnPPrepend_cons_pos (by simp)]
        simpa [Nat.add_assoc] using hRest
      · have hRest := ih front (part ++ [c]) found
        rw [splitOnAux_other separator front part found hIs,
          List.splitOnPPrepend_cons_neg (by simpa using hIs)]
        simpa [Nat.add_assoc] using hRest

theorem splitOn_singleton
    (separator : Char)
    (text : String) :
    text.splitOn (String.ofList [separator]) =
      (text.toList.splitOn separator).map String.ofList := by
  have hParts := splitOnAux_eq separator [] [] text.toList []
  have hSome : (String.ofList [separator] == "") = false := by
    simp
  unfold String.splitOn
  rw [hSome, if_neg Bool.false_ne_true,
    List.splitOn_eq_splitOnP,
    List.splitOnP_eq_splitOnPPrepend]
  rw [List.nil_append, List.nil_append, String.ofList_toList]
    at hParts
  exact hParts

/- What follows the last separator. -/
theorem getLast?_splitOn
    {X : Type}
    [BEq X] [LawfulBEq X]
    (separator : X)
    (xs : List X) :
    (xs.splitOn separator).getLast? =
      some (xs.rtakeWhile (fun x => x != separator)) := by
  rw [List.splitOn_eq_splitOnP, List.rtakeWhile]
  by_cases hMember : separator ∈ xs.reverse
  · -- Split at the last separator.
    rcases List.eq_append_cons_of_mem hMember with
      ⟨last, before, hReverse, hLast⟩
    have hIs :
        xs = before.reverse ++ separator :: last.reverse := by
      rw [← List.reverse_reverse xs, hReverse]
      simp
    have hWhole :
        last.reverse.splitOnP (fun x => x == separator) =
          [last.reverse] := by
      apply List.splitOnP_eq_singleton
      intro x hX
      simp only [beq_eq_false_iff_ne, ne_eq]
      intro hSame
      exact hLast (hSame ▸ List.mem_reverse.mp hX)
    have hTake :
        (last ++ separator :: before).takeWhile
            (fun x => x != separator) = last := by
      rw [List.takeWhile_append_of_pos]
      · simp
      · intro x hX
        simp only [bne_iff_ne, ne_eq]
        intro hSame
        exact hLast (hSame ▸ hX)
    rw [hReverse, hTake, hIs,
      List.splitOnP_append_cons _ _ (by simp), hWhole,
      List.getLast?_concat]
  · have hOther : ∀ x ∈ xs, (x == separator) = false := by
      intro x hX
      simp only [beq_eq_false_iff_ne, ne_eq]
      intro hSame
      exact hMember (List.mem_reverse.mpr (hSame ▸ hX))
    have hTake :
        xs.reverse.takeWhile (fun x => x != separator) =
          xs.reverse := by
      rw [List.takeWhile_eq_self_iff]
      intro x hX
      simp [bne, hOther x (List.mem_reverse.mp hX)]
    rw [List.splitOnP_eq_singleton hOther, hTake]
    simp

/- What stands between parts stands before each but the first. -/
theorem intercalate_cons
    {X : Type}
    (separator first : List X)
    (parts : List (List X)) :
    separator.intercalate (first :: parts) =
      first ++ parts.flatMap (fun part => separator ++ part) := by
  induction parts generalizing first with
  | nil => simp
  | cons part rest ih =>
      rw [List.intercalate_cons_cons, ih, List.flatMap_cons]
      simp

theorem not_mem_intercalate
    {X : Type}
    {x separator : X}
    {parts : List (List X)}
    (hSeparator : x ≠ separator)
    (hParts : ∀ part ∈ parts, x ∉ part) :
    x ∉ [separator].intercalate parts := by
  cases parts with
  | nil => simp
  | cons first rest =>
      rw [List.forall_mem_cons] at hParts
      rw [intercalate_cons, List.mem_append,
        List.mem_flatMap, not_or]
      refine ⟨hParts.1, ?_⟩
      rintro ⟨part, hPart, hMem⟩
      rcases List.mem_append.mp hMem with hFirst | hRest
      · exact hSeparator (List.mem_singleton.mp hFirst)
      · exact hParts.2 part hPart hRest

/- Parts without a separator are found again. -/
theorem splitOnP_intercalate
    {X : Type}
    {isSeparator : X → Bool}
    {separator : X}
    (hSeparator : isSeparator separator = true)
    {parts : List (List X)}
    (hParts : ∀ part ∈ parts, ∀ x ∈ part, isSeparator x = false)
    (hSome : parts ≠ []) :
    ([separator].intercalate parts).splitOnP isSeparator =
      parts := by
  induction parts with
  | nil => exact absurd rfl hSome
  | cons first rest ih =>
      rw [List.forall_mem_cons] at hParts
      by_cases hLast : rest = []
      · subst hLast
        rw [List.intercalate_singleton,
          List.splitOnP_eq_singleton hParts.1]
      · rw [List.intercalate_cons_of_ne_nil hLast,
          List.append_assoc, List.singleton_append,
          List.splitOnP_append_cons_of_forall_mem hParts.1 _
            hSeparator,
          ih hParts.2 hLast]

/- No part has a separator in it. -/
theorem not_of_mem_splitOnP
    {X : Type}
    {isSeparator : X → Bool}
    {text part : List X}
    (hPart : part ∈ text.splitOnP isSeparator) :
    ∀ x ∈ part, isSeparator x = false := by
  induction text generalizing part with
  | nil =>
      rw [List.splitOnP_nil, List.mem_singleton] at hPart
      simp [hPart]
  | cons c text ih =>
      rw [List.splitOnP_cons_eq_if_modifyHead] at hPart
      split at hPart
      · rcases List.mem_cons.mp hPart with hNil | hRest
        · simp [hNil]
        · exact ih hRest
      next hNot =>
        cases hParts : text.splitOnP isSeparator with
        | nil => exact absurd hParts (List.splitOnP_ne_nil _ _)
        | cons first rest =>
            rw [hParts] at hPart ih
            rcases List.mem_cons.mp hPart with hFirst | hRest
            · rw [hFirst, List.forall_mem_cons]
              exact ⟨by simpa using hNot, ih List.mem_cons_self⟩
            · exact ih (List.mem_cons_of_mem _ hRest)

theorem not_mem_of_mem_splitOn
    {separator : Char}
    {text part : List Char}
    (hPart : part ∈ text.splitOn separator) :
    separator ∉ part := by
  rw [List.splitOn_eq_splitOnP] at hPart
  intro hIn
  have hNot := not_of_mem_splitOnP hPart separator hIn
  simp at hNot

/- The last part of the front goes on with the first behind. -/
theorem splitOn_append
    (separator : Char)
    (front behind : List Char) :
    ∃ parts last,
      front.splitOn separator = parts ++ [last] ∧
        (front ++ behind).splitOn separator =
          parts ++
            (behind.splitOn separator).modifyHead
              (fun part => last ++ part) := by
  induction front with
  | nil =>
      refine ⟨[], [], List.splitOn_nil separator, ?_⟩
      rw [List.nil_append]
      cases behind.splitOn separator with
      | nil => rfl
      | cons first rest => rfl
  | cons c front ih =>
      rcases ih with ⟨parts, last, hFront, hWhole⟩
      rw [List.cons_append, List.splitOn_cons_eq_if_modifyHead,
        List.splitOn_cons_eq_if_modifyHead, hFront, hWhole]
      split
      · exact ⟨[] :: parts, last, rfl, rfl⟩
      · cases parts with
        | nil =>
            refine ⟨[], c :: last, rfl, ?_⟩
            cases behind.splitOn separator with
            | nil => rfl
            | cons first rest => rfl
        | cons first parts =>
            exact ⟨(c :: first) :: parts, last, rfl, rfl⟩

end Texts
