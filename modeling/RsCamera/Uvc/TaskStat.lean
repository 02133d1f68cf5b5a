import RsCamera.Lib.Numeral

/-
  The start time of a task, read from `/proc/<tid>/stat`
  (`task_start_time` in `uvc_worker_fifo_monitor.c`).

  The kernel writes one line: the number of the task, its name
  in parentheses, and then fields that are separated by
  spaces.  The name may hold anything, also spaces and
  parentheses, so the fields are counted from the last closing
  one.  What cannot be read or counted gives zero.

  Key definitions include:
    * `fgets`, `strrchr`, `strtok`, `strtoull`
    * `taskStartTime`
    * `StatLine`

  Key theorems include:
    * `strtok_append`
    * `taskStartTime_text`
-/

------------------------------------------------------------
-- The C Library
------------------------------------------------------------

namespace RsCamera

namespace Uvc

/- What follows the last occurrence of a character. -/
def strrchr (c : Char) : List Char → Option (List Char)
| [] => none
| head :: rest =>
    match strrchr c rest with
    | some after => some after
    | none => if head = c then some rest else none

/- A line with its end, as far as there is room for it. -/
def fgets (room : Nat) (text : List Char) : Option (List Char) :=
  if text = [] then
    none
  else
    some
      ((text.takeWhile (fun c => c ≠ '\n') ++
        (text.dropWhile (fun c => c ≠ '\n')).take 1).take room)

/- The token at the front of a text, and those after it. -/
def strtokStep : List Char → List Char × List (List Char)
| [] => ([], [])
| c :: rest =>
    let next := strtokStep rest
    if c = ' ' then
      ([], if next.1 = [] then next.2 else next.1 :: next.2)
    else
      (c :: next.1, next.2)

/- The tokens between spaces. -/
def strtok (text : List Char) : List (List Char) :=
  let found := strtokStep text
  if found.1 = [] then found.2 else found.1 :: found.2

/- The value is cut off at the largest number. -/
def strtoull (text : List Char) : Nat :=
  match scanNumeral text with
  | none => 0
  | some numeral =>
      if numeral.magnitude < 2 ^ 64 then
        if numeral.negative then
          (2 ^ 64 - numeral.magnitude) % 2 ^ 64
        else
          numeral.magnitude
      else
        2 ^ 64 - 1

/- The start time is field 22; the count starts with field 3. -/
def taskStartTime (stat : Option (List Char)) : Nat :=
  match stat.bind (fgets 4095) with
  | none => 0
  | some buffer =>
      match strrchr ')' buffer with
      | some (' ' :: cursor) =>
          match (strtok cursor)[22 - 3]? with
          | some token => strtoull token
          | none => 0
      | _ => 0

------------------------------------------------------------
-- Tokens
------------------------------------------------------------

theorem strrchr_of_not_mem
    {c : Char}
    {text : List Char}
    (hNone : c ∉ text) :
    strrchr c text = none := by
  induction text with
  | nil => rfl
  | cons head rest ih =>
      rw [List.mem_cons, not_or] at hNone
      rw [strrchr, ih hNone.2]
      simp [Ne.symm hNone.1]

theorem strrchr_append
    (c : Char)
    (before : List Char)
    {after : List Char}
    (hAfter : c ∉ after) :
    strrchr c (before ++ c :: after) = some after := by
  induction before with
  | nil =>
      rw [List.nil_append, strrchr, strrchr_of_not_mem hAfter]
      simp
  | cons head rest ih => rw [List.cons_append, strrchr, ih]

theorem strtokStep_append
    {field : List Char}
    (hField : ' ' ∉ field)
    (rest : List Char) :
    strtokStep (field ++ ' ' :: rest) =
      (field, strtok rest) := by
  induction field with
  | nil => rfl
  | cons c field ih =>
      rw [List.mem_cons, not_or] at hField
      rw [List.cons_append, strtokStep, ih hField.2]
      simp [Ne.symm hField.1]

/- A field before a space is the first token. -/
theorem strtok_append
    {field : List Char}
    (hField : ' ' ∉ field)
    (hSome : field ≠ [])
    (rest : List Char) :
    strtok (field ++ ' ' :: rest) = field :: strtok rest := by
  rw [strtok, strtokStep_append hField]
  simp [hSome]

theorem strtokStep_fst
    (text : List Char) :
    (strtokStep text).1 = text.takeWhile (fun c => c ≠ ' ') := by
  induction text with
  | nil => rfl
  | cons c rest ih =>
      rw [strtokStep, List.takeWhile_cons]
      by_cases hSpace : c = ' '
      · simp [hSpace]
      · simp [hSpace, ih]

/- The first token of a text that starts with none. -/
theorem head?_strtok
    {text : List Char}
    (hSome : text.takeWhile (fun c => c ≠ ' ') ≠ []) :
    (strtok text)[0]? =
      some (text.takeWhile (fun c => c ≠ ' ')) := by
  rw [← strtokStep_fst] at hSome ⊢
  rw [strtok, if_neg hSome]
  rfl

/- Fields, each with a space behind it. -/
def spaced (fields : List (List Char)) : List Char :=
  fields.flatMap (fun field => field ++ [' '])

theorem strtok_spaced
    {fields : List (List Char)}
    (hFields :
      ∀ field ∈ fields, ' ' ∉ field ∧ field ≠ [])
    (rest : List Char) :
    strtok (spaced fields ++ rest) = fields ++ strtok rest := by
  induction fields with
  | nil => rfl
  | cons field fields ih =>
      rw [List.forall_mem_cons] at hFields
      rw [spaced, List.flatMap_cons, ← spaced,
        List.append_assoc, List.append_assoc,
        List.singleton_append,
        strtok_append hFields.1.1 hFields.1.2, ih hFields.2]
      rfl

------------------------------------------------------------
-- Lines Of The Kernel
------------------------------------------------------------

/- The line of a task, as far as it matters. -/
structure StatLine where
  pid : Nat
  comm : List Char
  -- Fields 3 to 21.
  fields : List (List Char)
  start : Nat
  rest : List Char
  comm_line : '\n' ∉ comm
  fields_length : fields.length = 19
  fields_plain :
    ∀ field ∈ fields,
      field ≠ [] ∧ ' ' ∉ field ∧ ')' ∉ field ∧ '\n' ∉ field
  start_lt : start < 2 ^ 64
  rest_plain : ')' ∉ rest
  rest_head : ∀ c ∈ rest.head?, c = ' ' ∨ c = '\n'
  fits :
    (toString pid).toList.length + comm.length +
        (spaced fields).length + (toString start).toList.length +
        4 ≤ 4095

namespace StatLine

/- The fields, the start time and what follows it. -/
def cursor (line : StatLine) (rest : List Char) : List Char :=
  spaced line.fields ++ ((toString line.start).toList ++ rest)

def front (line : StatLine) : List Char :=
  (toString line.pid).toList ++ ' ' :: '(' :: line.comm

def text (line : StatLine) : List Char :=
  line.front ++ ')' :: ' ' :: line.cursor line.rest

end StatLine

theorem not_mem_toDigits
    {c : Char}
    (hC : c.isDigit = false)
    (n : Nat) :
    c ∉ Nat.toDigits 10 n := by
  intro hMember
  have hDigit : c.isDigit = true :=
    Nat.isDigit_of_mem_toDigits (by decide) (by decide) hMember
  rw [hDigit] at hC
  cases hC

theorem not_mem_spaced
    {c : Char}
    (hSpace : c ≠ ' ')
    {fields : List (List Char)}
    (hFields : ∀ field ∈ fields, c ∉ field) :
    c ∉ spaced fields := by
  intro hMember
  rcases List.mem_flatMap.mp hMember with
    ⟨field, hField, hC⟩
  rcases List.mem_append.mp hC with hIn | hIs
  · exact hFields field hField hIn
  · exact hSpace (List.mem_singleton.mp hIs)

/- A line whose front fits is read with a part of its rest. -/
theorem fgets_append
    {room : Nat}
    {head rest : List Char}
    (hHead : '\n' ∉ head)
    (hSome : head ≠ [])
    (hFits : head.length ≤ room) :
    ∃ tail,
      fgets room (head ++ rest) = some (head ++ tail) ∧
        tail <+: rest := by
  have hPos :
      ∀ c ∈ head, decide (c ≠ '\n') = true := by
    intro c hC
    simp only [ne_eq, decide_eq_true_eq]
    intro hIs
    rw [hIs] at hC
    exact hHead hC
  refine
    ⟨(rest.takeWhile (fun c => c ≠ '\n') ++
      (rest.dropWhile (fun c => c ≠ '\n')).take 1).take
        (room - head.length), ?_, ?_⟩
  · unfold fgets
    rw [if_neg (by simp [hSome]),
      List.takeWhile_append_of_pos hPos,
      List.dropWhile_append_of_pos hPos, List.append_assoc,
      List.take_append, List.take_of_length_le hFits]
  · refine (List.take_prefix _ _).trans ?_
    have hSplit :=
      List.takeWhile_append_dropWhile
        (p := fun c => decide (c ≠ '\n')) (l := rest)
    nth_rewrite 3 [← hSplit]
    exact (List.prefix_append_right_inj _).mpr
      (List.take_prefix _ _)

/- A printed word, whatever is behind it in the token. -/
theorem strtoull_toString
    {n : Nat}
    (hWord : n < 2 ^ 64)
    {rest : List Char}
    (hRest : ∀ c ∈ rest.head?, c.isDigit = false) :
    strtoull ((toString n).toList ++ rest) = n := by
  unfold strtoull
  rw [scanNumeral_toString_append n hRest]
  simp only [if_pos hWord]
  rfl

theorem StatLine.cursor_token
    (line : StatLine)
    {tail : List Char}
    (hTail : ∀ c ∈ tail.head?, c = ' ' ∨ c = '\n') :
    ∃ more,
      (strtok (line.cursor tail))[22 - 3]? =
          some ((toString line.start).toList ++ more) ∧
        ∀ c ∈ more.head?, c.isDigit = false := by
  have hFields :
      ∀ field ∈ line.fields, ' ' ∉ field ∧ field ≠ [] :=
    fun field hField =>
      ⟨(line.fields_plain field hField).2.1,
        (line.fields_plain field hField).1⟩
  have hText :
      (toString line.start).toList =
        Nat.toDigits 10 line.start :=
    Nat.toList_repr
  have hDigits :
      ∀ c ∈ (toString line.start).toList,
        decide (c ≠ ' ') = true := by
    intro c hC
    simp only [ne_eq, decide_eq_true_eq]
    intro hIs
    rw [hIs, hText] at hC
    exact not_mem_toDigits (by decide) line.start hC
  have hFirst :
      ((toString line.start).toList ++ tail).takeWhile
          (fun c => c ≠ ' ') =
        (toString line.start).toList ++
          tail.takeWhile (fun c => c ≠ ' ') :=
    List.takeWhile_append_of_pos hDigits
  refine ⟨tail.takeWhile (fun c => c ≠ ' '), ?_, ?_⟩
  · rw [StatLine.cursor, strtok_spaced hFields,
      List.getElem?_append_right
        (by rw [line.fields_length]),
      line.fields_length, head?_strtok, hFirst]
    rw [hFirst, hText]
    simp
  · intro c hC
    cases tail with
    | nil => cases hC
    | cons first others =>
        rcases hTail first rfl with hSpace | hLine
        · rw [hSpace] at hC
          cases hC
        · rw [hLine] at hC
          have hIs : c = '\n' := by
            simpa using hC.symm
          rw [hIs]
          rfl

/- The start time that the kernel wrote is read. -/
theorem taskStartTime_text
    (line : StatLine) :
    taskStartTime (some line.text) = line.start := by
  have hSplit :
      line.text =
        (line.front ++ ')' :: ' ' :: line.cursor []) ++
          line.rest := by
    simp [StatLine.text, StatLine.cursor]
  have hLine :
      '\n' ∉ line.front ++ ')' :: ' ' :: line.cursor [] := by
    have hPid :=
      not_mem_toDigits (c := '\n') (by decide) line.pid
    have hStart :=
      not_mem_toDigits (c := '\n') (by decide) line.start
    have hFields :=
      not_mem_spaced (c := '\n') (by decide)
        (fun field hField =>
          (line.fields_plain field hField).2.2.2)
    simp [StatLine.front, StatLine.cursor, hPid, hStart,
      hFields, line.comm_line]
  have hFits :
      (line.front ++ ')' :: ' ' ::
        line.cursor []).length ≤ 4095 := by
    have hLength := line.fits
    simp only [StatLine.front, StatLine.cursor,
      List.length_append, List.length_cons, List.length_nil]
    omega
  rcases @fgets_append _ _ line.rest hLine (by simp) hFits with
    ⟨tail, hRead, hTail⟩
  have hTailHead :
      ∀ c ∈ tail.head?, c = ' ' ∨ c = '\n' := by
    intro c hC
    apply line.rest_head
    obtain ⟨more, hMore⟩ := hTail
    rw [← hMore]
    cases tail with
    | nil => cases hC
    | cons first others => exact hC
  have hParen : ')' ∉ ' ' :: line.cursor tail := by
    have hStart :=
      not_mem_toDigits (c := ')') (by decide) line.start
    have hFields :=
      not_mem_spaced (c := ')') (by decide)
        (fun field hField =>
          (line.fields_plain field hField).2.2.1)
    have hRest : ')' ∉ tail :=
      fun hIn => line.rest_plain (hTail.subset hIn)
    simp [StatLine.cursor, hStart, hFields, hRest]
  rcases line.cursor_token hTailHead with
    ⟨more, hToken, hMore⟩
  have hBuffer :
      fgets 4095 line.text =
        some (line.front ++ ')' :: ' ' :: line.cursor tail) := by
    rw [hSplit, hRead]
    simp [StatLine.cursor]
  unfold taskStartTime
  rw [Option.bind_some, hBuffer]
  simp only [strrchr_append ')' line.front hParen, hToken]
  exact strtoull_toString line.start_lt hMore

end Uvc

end RsCamera
