import RsCamera.Controls.CpuList
import RsCamera.Lib.Lines

/-
  The rewriting of scripts in `reproduce.py`: the string
  methods, `shlex.quote`, and the functions `replace_once`,
  `before` and `assignment`, with the substitution in the
  branches of a `case`.

  The patterns of the source are multi-line ones.  White space
  in front of an assignment may reach over lines, but what is
  matched of them is put back as it was, so that each line is
  rewritten by itself.

  Key definitions include:
    * `parts`, `replaceAll`, `countOf`
    * `quote`, `replaceOnce`, `before`
    * `assignment`, `configureCases`

  Key theorems include:
    * `toList_replaceAll`
    * `toOption_replaceOnce`, `toOption_before`
    * `toOption_assignment`, `toOption_configureLines`
-/

------------------------------------------------------------
-- String Methods
------------------------------------------------------------

namespace RsCamera

namespace Reproduction

/- What stands in front of a text, and behind it. -/
def cutAt
    (old : List Char) :
    List Char → Option (List Char × List Char)
| [] => if old.isEmpty then some ([], []) else none
| c :: rest =>
    if old.isPrefixOf (c :: rest) then
      some ([], (c :: rest).drop old.length)
    else
      (cutAt old rest).map (fun cut => (c :: cut.1, cut.2))

/- Every cut takes a character at least. -/
def cutAll
    (old : List Char) : Nat → List Char → List (List Char)
| 0, text => [text]
| fuel + 1, text =>
    match cutAt old text with
    | none => [text]
    | some (front, behind) => front :: cutAll old fuel behind

/- `str.split` at a text that is not empty. -/
def parts (text old : String) : List (List Char) :=
  cutAll old.toList text.toList.length text.toList

/- `text.count(old)`. -/
def countOf (text old : String) : Nat :=
  (parts text old).length - 1

/- `text.replace(old, new)`. -/
def replaceAll (text old new : String) : String :=
  String.ofList (new.toList.intercalate (parts text old))

/- `str.replace` with a count of one. -/
def replaceFirst (text old new : String) : String :=
  match cutAt old.toList text.toList with
  | none => text
  | some (front, behind) =>
      String.ofList (front ++ new.toList ++ behind)

/- `part in text`. -/
def contains (text part : String) : Bool :=
  (cutAt part.toList text.toList).isSome

/- `text.startswith(front)`. -/
def startsWith (text front : String) : Bool :=
  front.toList.isPrefixOf text.toList

/- `text.endswith(back)`. -/
def endsWith (text back : String) : Bool :=
  back.toList.isSuffixOf text.toList

/- The method `str.rstrip` with the characters to remove. -/
def dropRight
    (remove : Char → Bool)
    (text : List Char) : List Char :=
  (text.reverse.dropWhile remove).reverse

/- `str.splitlines(keepends=True)`. -/
def keepLines : List Char → List (List Char)
| [] => []
| '\r' :: '\n' :: rest => ['\r', '\n'] :: keepLines rest
| c :: rest =>
    if isLineBreak c then
      [c] :: keepLines rest
    else
      consLine c (keepLines rest)

------------------------------------------------------------
-- Words Of The Shell
------------------------------------------------------------

/- The characters that `shlex.quote` leaves alone. -/
def isSafe (c : Char) : Bool :=
  ('a' ≤ c && c ≤ 'z') || ('A' ≤ c && c ≤ 'Z') ||
    ('0' ≤ c && c ≤ '9') || "_@%+=:,./-".toList.contains c

/- `shlex.quote`. -/
def quote (value : String) : String :=
  if value.toList.isEmpty then
    "''"
  else if value.toList.all isSafe then
    value
  else
    "'" ++ replaceAll value "'" "'\"'\"'" ++ "'"

/- `shlex.join`. -/
def quoteAll (words : List String) : String :=
  String.intercalate " " (words.map quote)

------------------------------------------------------------
-- Rewriting
------------------------------------------------------------

section

open Controls (pyRepr)

/- `replace_once`. -/
def replaceOnce
    (text old new : String) : Except String String :=
  if countOf text old ≠ 1 then
    .error
      ("Source changed: expected one occurrence of " ++
        pyRepr old.toList)
  else
    .ok (replaceFirst text old new)

/- The text before a marker that is there once. -/
def before (text marker : String) : Except String String :=
  if countOf text marker ≠ 1 then
    .error
      ("Source changed: expected unique boundary " ++
        pyRepr marker.toList)
  else
    .ok (String.ofList ((parts text marker).headD []))

/- A line that sets a variable. -/
def isAssignment (name : String) (line : List Char) : Bool :=
  (name ++ "=").toList.isPrefixOf (line.dropWhile isPySpace)

/- The line with another value, indented as before. -/
def assignLine
    (name value : String)
    (line : List Char) : List Char :=
  if isAssignment name line then
    line.takeWhile isPySpace ++
      (name ++ "=" ++ quote value).toList
  else
    line

/- `assignment`: the variable is set once. -/
def assignment
    (text name value : String) : Except String String :=
  let lines := text.toList.splitOn '\n'
  let count := lines.countP (isAssignment name)
  if count ≠ 1 then
    .error
      ("Expected one assignment for " ++ name ++ ", found " ++
        toString count)
  else
    .ok
      (String.ofList
        (['\n'].intercalate (lines.map (assignLine name value))))

/- The line behind a branch; one must follow it. -/
def branchEnd : List Char :=
  "        ;;".toList

/- The lines of a branch, and those behind its last one. -/
def cutBranch :
    List (List Char) →
      Option (List (List Char) × List (List Char))
| [] => none
| line :: rest =>
    if line = branchEnd ∧ rest ≠ [] then
      some ([], rest)
    else
      (cutBranch rest).map (fun cut => (line :: cut.1, cut.2))

/-
  The substitution of `(?ms)(^    d435\)\n)(.*?)(^        ;;\n)`,
  with the number of branches.  The text of a branch has a line
  feed behind each of its lines.
-/
def configureLines
    (header : List Char)
    (configure : String → Except String String) :
    Nat → List (List Char) →
      Except String (List Char × Nat)
| 0, lines => .ok (['\n'].intercalate lines, 0)
| _, [] => .ok ([], 0)
| _, [last] => .ok (last, 0)
| fuel + 1, line :: rest =>
    match if line = header then cutBranch rest else none with
    | some (branch, behind) => do
        let block ← configure (String.ofList (textOf branch))
        let others ← configureLines header configure fuel behind
        .ok
          (line ++ '\n' :: (block.toList ++ branchEnd ++
            '\n' :: others.1), others.2 + 1)
    | none => do
        let others ← configureLines header configure fuel rest
        .ok (line ++ '\n' :: others.1, others.2)

/- The branches of a model, and how many there are. -/
def configureCases
    (model : String)
    (configure : String → Except String String)
    (text : String) : Except String (String × Nat) := do
  let lines := text.toList.splitOn '\n'
  let rewritten ←
    configureLines ("    " ++ model ++ ")").toList configure
      lines.length lines
  .ok (String.ofList rewritten.1, rewritten.2)

end

------------------------------------------------------------
-- Rewriting As Characters
------------------------------------------------------------

/- What a chain of rewrites gives, if none of them raises. -/
theorem toOption_bind
    {A B : Type}
    (result : Except String A)
    (next : A → Except String B) :
    (result >>= next).toOption =
      result.toOption.bind (fun a => (next a).toOption) := by
  cases result <;> rfl

/- The characters of `replaceAll`. -/
def replaceChars (old new text : List Char) : List Char :=
  new.intercalate (cutAll old text.length text)

theorem toList_replaceAll
    (text old new : String) :
    (replaceAll text old new).toList =
      replaceChars old.toList new.toList text.toList :=
  String.toList_ofList

/- The parts around the only place of a text in another. -/
def cutOnce
    (old text : List Char) : Option (List Char × List Char) :=
  match cutAll old text.length text with
  | [front, behind] => some (front, behind)
  | _ => none

theorem cutAll_ne_nil
    (old : List Char)
    (fuel : Nat)
    (text : List Char) :
    cutAll old fuel text ≠ [] := by
  cases fuel with
  | zero => exact List.cons_ne_nil _ _
  | succ fuel =>
      rw [cutAll]
      split
      · exact List.cons_ne_nil _ _
      · exact List.cons_ne_nil _ _

theorem cutAll_eq_singleton
    {old text last : List Char}
    {fuel : Nat}
    (hParts : cutAll old fuel text = [last]) :
    last = text := by
  cases fuel with
  | zero => exact (List.cons.inj hParts).1.symm
  | succ fuel =>
      rw [cutAll] at hParts
      split at hParts
      · exact (List.cons.inj hParts).1.symm
      · exact absurd (List.cons.inj hParts).2
          (cutAll_ne_nil old fuel _)

/- A text that occurs once is cut out where it is found. -/
theorem countOf_eq_one_iff
    (text old : String) :
    countOf text old = 1 ↔
      ∃ cut, cutOnce old.toList text.toList = some cut ∧
        cutAt old.toList text.toList = some cut ∧
        (parts text old).headD [] = cut.1 := by
  unfold countOf parts cutOnce
  cases text.toList.length with
  | zero => simp [cutAll]
  | succ fuel =>
      rw [cutAll]
      cases hCut : cutAt old.toList text.toList with
      | none => simp
      | some cut =>
          simp only [List.length_cons, Nat.add_sub_cancel]
          constructor
          · intro hOne
            rcases List.length_eq_one_iff.mp hOne with
              ⟨last, hLast⟩
            have hBehind := cutAll_eq_singleton hLast
            refine ⟨cut, ?_, rfl, rfl⟩
            rw [hLast, hBehind]
          · rintro ⟨_, hOnce, -, -⟩
            split at hOnce
            · rename_i hParts
              rw [(List.cons.inj hParts).2]
              rfl
            · cases hOnce

theorem cutOnce_eq_none
    {text old : String}
    (hCount : countOf text old ≠ 1) :
    cutOnce old.toList text.toList = none := by
  unfold countOf parts at hCount
  unfold cutOnce
  split
  · rename_i hParts
    rw [hParts] at hCount
    exact absurd rfl hCount
  · rfl

theorem toOption_replaceOnce
    (text old new : String) :
    (replaceOnce text old new).toOption =
      (cutOnce old.toList text.toList).map (fun cut =>
        String.ofList (cut.1 ++ new.toList ++ cut.2)) := by
  unfold replaceOnce
  by_cases hCount : countOf text old = 1
  · rcases (countOf_eq_one_iff text old).mp hCount with
      ⟨cut, hOnce, hCut, -⟩
    rw [if_neg (not_not_intro hCount), hOnce, replaceFirst,
      hCut]
    rfl
  · rw [if_pos hCount, cutOnce_eq_none hCount]
    rfl

theorem toOption_before
    (text marker : String) :
    (before text marker).toOption =
      (cutOnce marker.toList text.toList).map (fun cut =>
        String.ofList cut.1) := by
  unfold before
  by_cases hCount : countOf text marker = 1
  · rcases (countOf_eq_one_iff text marker).mp hCount with
      ⟨cut, hOnce, -, hFront⟩
    rw [if_neg (not_not_intro hCount), hOnce, hFront]
    rfl
  · rw [if_pos hCount, cutOnce_eq_none hCount]
    rfl

/- The characters of a text with its only assignment changed. -/
def assignOnce
    (name value : String)
    (text : List Char) : Option (List Char) :=
  let lines := text.splitOn '\n'
  if lines.countP (isAssignment name) = 1 then
    some
      (['\n'].intercalate (lines.map (assignLine name value)))
  else
    none

theorem toOption_assignment
    (text name value : String) :
    (assignment text name value).toOption =
      (assignOnce name value text.toList).map
        String.ofList := by
  unfold assignment assignOnce
  by_cases hOne :
      (text.toList.splitOn '\n').countP
        (isAssignment name) = 1
  · simp only [hOne, ne_eq, not_true_eq_false, if_false,
      if_true]
    rfl
  · simp only [ne_eq, hOne, not_false_eq_true, if_true,
      if_false]
    rfl

/- The characters of `configureLines`. -/
def configureChars
    (header : List Char)
    (configure : List Char → Option (List Char)) :
    Nat → List (List Char) → Option (List Char × Nat)
| 0, lines => some (['\n'].intercalate lines, 0)
| _, [] => some ([], 0)
| _, [last] => some (last, 0)
| fuel + 1, line :: rest =>
    match if line = header then cutBranch rest else none with
    | some (branch, behind) =>
        (configure (textOf branch)).bind (fun block =>
          (configureChars header configure fuel behind).map
            (fun others =>
              (line ++ '\n' :: (block ++ branchEnd ++
                '\n' :: others.1), others.2 + 1)))
    | none =>
        (configureChars header configure fuel rest).map
          (fun others => (line ++ '\n' :: others.1, others.2))

theorem toOption_configureLines
    {configure : String → Except String String}
    {chars : List Char → Option (List Char)}
    (hChars :
      ∀ block,
        (configure (String.ofList block)).toOption =
          (chars block).map String.ofList)
    (header : List Char)
    (fuel : Nat)
    (lines : List (List Char)) :
    (configureLines header configure fuel lines).toOption =
      configureChars header chars fuel lines := by
  fun_induction configureChars header chars fuel lines with
  | case1 lines => rfl
  | case2 fuel hFuel =>
      cases fuel with
      | zero => exact absurd rfl hFuel
      | succ fuel => rfl
  | case3 fuel last hFuel =>
      cases fuel with
      | zero => exact absurd rfl hFuel
      | succ fuel => rfl
  | case4 fuel line rest hRest branch behind hCut ih =>
      rw [configureLines, hCut]
      · simp only [toOption_bind, hChars, ih, Option.bind_map]
        congr 1
        funext block
        simp only [Function.comp_apply]
        rw [String.toList_ofList]
        cases configureChars header chars fuel behind <;> rfl
      · exact hRest
  | case5 fuel line rest hRest hCut ih =>
      rw [configureLines, hCut]
      · simp only [toOption_bind, ih]
        cases configureChars header chars fuel rest <;> rfl
      · exact hRest

end Reproduction

end RsCamera
