import RsCamera.Lib.Containers
import RsCamera.Lib.Lines

/-
  What the kernel logged during a run (`kernel_delta` and
  `capture_kernel_delta` in `system_controls.py`).

  The log is read before and after the run.  When the ring
  buffer has dropped lines in between, the last line of the
  first reading is searched in the second one, from the end.

  Key definitions include:
    * `searchAnchor`, `kernelDelta`
    * `captureKernelDelta`
    * `lastPiece`

  Key theorems include:
    * `searchAnchor_eq`
    * `kernelDelta_rotated`
    * `kernelDelta_eq_iff`
-/

------------------------------------------------------------
-- The Difference Of Two Logs
------------------------------------------------------------

namespace RsCamera

namespace Controls

/- The loop over the indices below a bound, downwards. -/
def searchAnchor
    (lines : List (List Char))
    (anchor : List Char) : Nat → Option Nat
| 0 => none
| index + 1 =>
    if lines[index]? = some anchor then
      some index
    else
      searchAnchor lines anchor index

/- The lines behind the anchor as one text. -/
def joinLines (lines : List (List Char)) : List Char :=
  let delta := List.intercalate ['\n'] lines
  if delta = [] then [] else delta ++ ['\n']

/- The new text and the error. -/
def kernelDelta
    (before after : List Char) : List Char × String :=
  if before.isPrefixOf after then
    (after.drop before.length, "")
  else
    match (splitLines before).getLast? with
    | none => (after, "")
    | some anchor =>
        match searchAnchor (splitLines after) anchor
            (splitLines after).length with
        | some index =>
            (joinLines ((splitLines after).drop (index + 1)),
              "")
        | none =>
            ([],
              "dmesg ring buffer changed and the pre-run " ++
                "anchor was lost")

/- The files that are written, with their contents. -/
def captureKernelDelta
    (before : Option (List Char))
    (beforeError : String)
    (after : Option (List Char))
    (afterError : String) : List (String × List Char) :=
  let error := if beforeError ≠ "" then beforeError else afterError
  let report (error : String) : List (String × List Char) :=
    if error ≠ "" then
      [("kernel_log_capture_error.txt",
        error.toList ++ ['\n'])]
    else
      []
  match before, after with
  | some before, some after =>
      let delta := kernelDelta before after
      (if delta.2 = "" then
          [("kernel_log.txt", delta.1)]
        else
          []) ++
        report (if error ≠ "" then error else delta.2)
  | _, _ => report error

------------------------------------------------------------
-- Searching And Joining
------------------------------------------------------------

/- The search finds the last place of the anchor. -/
theorem searchAnchor_eq
    {anchor : List Char}
    {post : List (List Char)}
    (hPost : anchor ∉ post)
    (pre : List (List Char)) :
    searchAnchor (pre ++ anchor :: post) anchor
        (pre ++ anchor :: post).length =
      some pre.length := by
  have hBelow :
      ∀ count ≤ post.length,
        searchAnchor (pre ++ anchor :: post) anchor
            (pre.length + 1 + count) =
          some pre.length := by
    intro count hCount
    induction count with
    | zero => simp [searchAnchor]
    | succ count ih =>
        have hOther :
            (pre ++ anchor :: post)[pre.length + 1 + count]? ≠
              some anchor := by
          rw [List.getElem?_append_right (by omega)]
          have hIndex :
              pre.length + 1 + count - pre.length =
                count + 1 := by
            omega
          rw [hIndex, List.getElem?_cons_succ]
          intro hFound
          exact hPost (List.mem_of_getElem? hFound)
        rw [← Nat.add_assoc, searchAnchor, if_neg hOther]
        exact ih (by omega)
  have hAll := hBelow post.length (le_refl _)
  have hLength :
      (pre ++ anchor :: post).length =
        pre.length + 1 + post.length := by
    simp
    omega
  rw [hLength]
  exact hAll

theorem joinLines_empty_line : joinLines [[]] = [] := by
  simp [joinLines, List.intercalate]

/- Only a single empty line gets lost in joining. -/
theorem joinLines_eq_textOf
    {lines : List (List Char)}
    (hLines : lines ≠ [[]]) :
    joinLines lines = textOf lines := by
  unfold joinLines
  cases lines with
  | nil => simp [List.intercalate, textOf]
  | cons line more =>
      have hText := textOf_eq_intercalate (List.cons_ne_nil line more)
      rw [hText]
      simp only
      rw [if_neg]
      intro hEmpty
      rw [hEmpty] at hText
      apply hLines
      have hCons :
          textOf (line :: more) =
            line ++ '\n' :: textOf more := by
        simp [textOf]
      rw [hCons] at hText
      cases line with
      | nil =>
          simp only [List.nil_append, List.cons.injEq,
            true_and] at hText
          cases more with
          | nil => rfl
          | cons next more => simp [textOf] at hText
      | cons c line => simp at hText

/- What is joined has no breaks but line feeds. -/
theorem not_isOtherBreak_of_mem_joinLines
    {text : List Char}
    {lines : List (List Char)}
    (hLines : ∀ line ∈ lines, line ∈ splitLines text)
    {c : Char}
    (hc : c ∈ joinLines lines) :
    isOtherBreak c = false := by
  by_cases hSingle : lines = [[]]
  · rw [hSingle, joinLines_empty_line] at hc
    simp at hc
  · rw [joinLines_eq_textOf hSingle] at hc
    exact not_isOtherBreak_of_mem_textOf hLines hc

/- Text that is joined from cut lines was cut at line feeds. -/
theorem plain_of_joinLines_eq
    {new found : List (List Char)}
    (hNew : ∀ line ∈ new, '\n' ∉ line)
    (hFound :
      ∀ line ∈ found, line ∈ splitLines (textOf new))
    (hJoin : joinLines found = textOf new) :
    ∀ line ∈ new, ∀ c ∈ line, isLineBreak c = false := by
  intro line hLine c hc
  have hText : c ∈ joinLines found := by
    rw [hJoin]
    exact List.mem_flatMap.mpr
      ⟨line, hLine, List.mem_append_left _ hc⟩
  have hBreak := not_isOtherBreak_of_mem_joinLines hFound hText
  have hFeed : c ≠ '\n' := by
    intro hEq
    exact hNew line hLine (hEq ▸ hc)
  simpa [isOtherBreak, hFeed] using hBreak

/- Joining makes no text longer, so skipped lines are missed. -/
theorem joinLines_ne_textOf
    {skipped found : List (List Char)}
    (hSkipped : skipped ≠ []) :
    joinLines found ≠ textOf (skipped ++ found) := by
  intro hJoin
  have hLonger := @textOf_length_lt skipped found hSkipped
  rw [← hJoin] at hLonger
  by_cases hSingle : found = [[]]
  · simp [hSingle, joinLines_empty_line] at hLonger
  · rw [joinLines_eq_textOf hSingle] at hLonger
    omega

------------------------------------------------------------
-- Rotated Logs
------------------------------------------------------------

/- The last of the lines that are cut from one line. -/
def lastPiece (line : List Char) : List Char :=
  ((splitLines (line ++ ['\n'])).getLast?).getD []

theorem exists_splitLines_eq
    (line : List Char) :
    ∃ pieces,
      splitLines (line ++ ['\n']) =
        pieces ++ [lastPiece line] := by
  have hCut : splitLines (line ++ ['\n']) ≠ [] :=
    splitLines_ne_nil (by simp)
  refine ⟨(splitLines (line ++ ['\n'])).dropLast, ?_⟩
  unfold lastPiece
  rw [List.getLast?_eq_some_getLast hCut, Option.getD_some,
    List.dropLast_concat_getLast]

theorem splitLines_concat
    (lines : List (List Char))
    (line : List Char) :
    ∃ pieces,
      splitLines (textOf (lines ++ [line])) =
        pieces ++ [lastPiece line] := by
  rcases exists_splitLines_eq line with ⟨pieces, hPieces⟩
  refine ⟨splitLines (textOf lines) ++ pieces, ?_⟩
  have hSingle : textOf [line] = line ++ ['\n'] := by
    simp [textOf]
  rw [textOf_append, splitLines_textOf_append, hSingle,
    hPieces, List.append_assoc]

section Rotated

variable {lines new : List (List Char)}
variable {line : List Char}

/-
  Distinct lines cannot be a prefix of what is left of them
  after some of the first ones are gone.
-/
theorem not_prefix_of_rotated
    {previous : List (List Char)}
    (hLines : ∀ line ∈ previous, '\n' ∉ line)
    (hNodup : previous.Nodup)
    {k : Nat}
    (hk : k < previous.length)
    (hRotated : k ≠ 0) :
    ¬textOf previous <+:
      textOf (previous.drop k ++ new) := by
  intro hPrefix
  cases previous with
  | nil => simp at hk
  | cons first rest =>
      rcases hPrefix with ⟨tail, hTail⟩
      rcases hDrop : (first :: rest).drop k with
        _ | ⟨kept, more⟩
      · simp only [List.drop_eq_nil_iff] at hDrop
        omega
      · have hKept : kept ∈ (first :: rest).drop k := by
          simp [hDrop]
        have hEq :
            first ++ '\n' :: (textOf rest ++ tail) =
              kept ++ '\n' :: textOf (more ++ new) := by
          have hBoth := hTail
          rw [hDrop] at hBoth
          simpa [textOf] using hBoth
        have hSame :=
          (append_cons_inj (hLines first (by simp))
            (hLines kept (List.mem_of_mem_drop hKept)) hEq).1
        have hLater : kept ∈ rest := by
          obtain ⟨j, rfl⟩ := Nat.exists_eq_succ_of_ne_zero hRotated
          exact List.mem_of_mem_drop hKept
        rw [List.nodup_cons] at hNodup
        exact hNodup.1 (hSame ▸ hLater)

/- The search in a log that has lost lines. -/
theorem kernelDelta_rotated
    {kept : List (List Char)}
    (hPrefix :
      ¬textOf (lines ++ [line]) <+:
        textOf (kept ++ [line] ++ new)) :
    (lastPiece line ∉ splitLines (textOf new) ∧
      kernelDelta (textOf (lines ++ [line]))
          (textOf (kept ++ [line] ++ new)) =
        (joinLines (splitLines (textOf new)), "")) ∨
    ∃ skipped found,
      skipped ≠ [] ∧
        splitLines (textOf new) = skipped ++ found ∧
        lastPiece line ∈ skipped ∧
        kernelDelta (textOf (lines ++ [line]))
            (textOf (kept ++ [line] ++ new)) =
          (joinLines found, "") := by
  rcases splitLines_concat lines line with ⟨before, hBefore⟩
  rcases splitLines_concat kept line with ⟨after, hAfter⟩
  have hLast :
      (splitLines (textOf (lines ++ [line]))).getLast? =
        some (lastPiece line) := by
    simp [hBefore]
  have hLines :
      splitLines (textOf (kept ++ [line] ++ new)) =
        after ++ lastPiece line :: splitLines (textOf new) := by
    rw [textOf_append, splitLines_textOf_append, hAfter]
    simp
  have hDelta :
      ∀ pre post,
        after ++ lastPiece line :: splitLines (textOf new) =
          pre ++ lastPiece line :: post →
        lastPiece line ∉ post →
        kernelDelta (textOf (lines ++ [line]))
            (textOf (kept ++ [line] ++ new)) =
          (joinLines post, "") := by
    intro pre post hCut hPost
    unfold kernelDelta
    rw [if_neg (by simpa using hPrefix), hLast]
    simp only
    rw [hLines, hCut, searchAnchor_eq hPost]
    simp
  by_cases hRepeated :
      lastPiece line ∈ splitLines (textOf new)
  · right
    -- The last repetition is the one that is found.
    rcases List.eq_append_cons_of_mem
      (List.mem_reverse.mpr hRepeated) with
      ⟨late, early, hCut, hLate⟩
    have hPieces :
        splitLines (textOf new) =
          early.reverse ++ lastPiece line :: late.reverse := by
      rw [← List.reverse_reverse (splitLines (textOf new)),
        hCut]
      simp
    refine ⟨early.reverse ++ [lastPiece line], late.reverse,
      by simp, by simp [hPieces], by simp, ?_⟩
    apply hDelta
      (after ++ lastPiece line :: early.reverse)
    · simp [hPieces]
    · simpa using hLate
  · exact Or.inl
      ⟨hRepeated, hDelta after _ rfl hRepeated⟩

end Rotated

/-
  The difference is the text of the new lines exactly when
  nothing was lost before them, or the new lines have no
  other breaks, are not a single empty line and do not
  repeat the anchor.
-/
theorem kernelDelta_eq_iff
    (previous new : List (List Char))
    (hPrevious : ∀ line ∈ previous, '\n' ∉ line)
    (hNew : ∀ line ∈ new, '\n' ∉ line)
    (hNodup : previous.Nodup)
    (k : Nat)
    (hk : k < previous.length) :
    kernelDelta (textOf previous)
        (textOf (previous.drop k ++ new)) =
      (textOf new, "") ↔
    k = 0 ∨
      ((∀ line ∈ new, ∀ c ∈ line, isLineBreak c = false) ∧
        new ≠ [[]] ∧
        ∀ line ∈ previous.getLast?, lastPiece line ∉ new) := by
  by_cases hRotated : k = 0
  · subst hRotated
    simp only [List.drop_zero, true_or, iff_true]
    unfold kernelDelta
    rw [textOf_append, if_pos (by simp)]
    simp
  · have hPrefix :=
      @not_prefix_of_rotated new previous hPrevious hNodup k hk
        hRotated
    cases previous using List.reverseRecOn with
    | nil => simp at hk
    | append_singleton lines line =>
        have hDrop :
            (lines ++ [line]).drop k = lines.drop k ++ [line] := by
          apply List.drop_append_of_le_length
          simp at hk
          omega
        rw [hDrop] at hPrefix ⊢
        simp only [hRotated, false_or, List.getLast?_append,
          List.getLast?_singleton, Option.some_or,
          Option.mem_def, Option.some.injEq, forall_eq']
        rcases kernelDelta_rotated hPrefix with
          ⟨hFresh, hDelta⟩ |
            ⟨skipped, found, hSkipped, hCut, hAnchor, hDelta⟩
        · rw [hDelta, Prod.mk.injEq]
          simp only [and_true]
          constructor
          · intro hJoin
            have hPlain :=
              plain_of_joinLines_eq hNew (fun _ h => h) hJoin
            rw [splitLines_textOf hPlain] at hFresh hJoin
            refine ⟨hPlain, ?_, hFresh⟩
            intro hSingle
            rw [hSingle, joinLines_empty_line] at hJoin
            simp [textOf] at hJoin
          · rintro ⟨hPlain, hSingle, -⟩
            rw [splitLines_textOf hPlain]
            exact joinLines_eq_textOf hSingle
        · rw [hDelta, Prod.mk.injEq]
          simp only [and_true]
          constructor
          · intro hJoin
            have hFound :
                ∀ other ∈ found,
                  other ∈ splitLines (textOf new) := by
              intro other hOther
              rw [hCut]
              exact List.mem_append_right _ hOther
            have hPlain :=
              plain_of_joinLines_eq hNew hFound hJoin
            rw [splitLines_textOf hPlain] at hCut
            rw [hCut] at hJoin
            exact absurd hJoin (joinLines_ne_textOf hSkipped)
          · rintro ⟨hPlain, -, hAbsent⟩
            rw [splitLines_textOf hPlain] at hCut
            exfalso
            apply hAbsent
            rw [hCut]
            exact List.mem_append_left _ hAnchor

/- The anchor is logged again during the run. -/
theorem kernelDelta_repeated_anchor :
    kernelDelta (textOf ["a".toList, "b".toList])
        (textOf
          (["a".toList, "b".toList].drop 1 ++
            ["b".toList, "c".toList])) ≠
      (textOf ["b".toList, "c".toList], "") := by
  decide +kernel

theorem kernelDelta_fresh_line :
    kernelDelta (textOf ["a".toList, "b".toList])
        (textOf
          (["a".toList, "b".toList].drop 1 ++
            ["c".toList])) =
      (textOf ["c".toList], "") := by
  apply (kernelDelta_eq_iff ["a".toList, "b".toList]
    ["c".toList] (by decide) (by decide) (by decide) 1
    (by decide)).mpr
  refine Or.inr ⟨?_, by decide, by decide⟩
  intro line hLine c hc
  rw [List.mem_singleton] at hLine
  subst hLine
  have hChar : c = 'c' := by simpa using hc
  subst hChar
  decide

/-
  A log that could not be read comes with an error, so a run
  leaves a log or a report.
-/
theorem captureKernelDelta_ne_nil
    {before after : Option (List Char)}
    {beforeError afterError : String}
    (hBefore : before = none → beforeError ≠ "")
    (hAfter : after = none → afterError ≠ "") :
    captureKernelDelta before beforeError after afterError ≠
      [] := by
  unfold captureKernelDelta
  cases before with
  | none => simp [hBefore rfl]
  | some before =>
      cases after with
      | none =>
          by_cases hError : beforeError = ""
          · simp [hError, hAfter rfl]
          · simp [hError]
      | some after =>
          by_cases hDelta : (kernelDelta before after).2 = ""
          · simp [hDelta]
          · by_cases hError : beforeError = ""
            · by_cases hLate : afterError = ""
              · simp [hDelta, hError, hLate]
              · simp [hDelta, hError, hLate]
            · simp [hDelta, hError]

end Controls

end RsCamera
