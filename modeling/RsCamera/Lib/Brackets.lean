import Mathlib.Data.List.Induction
import Mathlib.Data.List.Perm.Basic
import RsCamera.Lib.Dict

/-
  Matching the ends of intervals with their beginnings, by a
  stack for each key.

  An element opens or closes an interval of a key, or does
  not matter.  What is matched for a key depends only on the
  elements of that key, so the facts are proved for one
  stack and carried over.  A closing element without an open
  one is skipped.

  Main declarations:
    * `pairUp`, `Balanced`, `Open`
    * `pairUp_perm`, `pairUp_sublist`, `pairUp_ordered`
    * `pairUp_closing`
    * `Mark`, `keyedPairUp`
    * `view`, `view_keyedPairUp`
    * `keyedPairUp_closing`
    * `length_pairs_add_height`
-/

------------------------------------------------------------
-- One Stack
------------------------------------------------------------

namespace Brackets

section One

variable {X : Type}

/- The open elements, the last one first, and the pairs. -/
structure Pairing (X : Type) where
  stack : List X
  pairs : List (X × X)

variable (opens : X → Bool)

/- A bracket opens, or closes the last open one. -/
def pairStep (state : Pairing X) (x : X) : Pairing X :=
  if opens x then
    { state with stack := x :: state.stack }
  else
    match state.stack with
    | [] => state
    | first :: rest =>
        { stack := rest, pairs := state.pairs ++ [(first, x)] }

/- All brackets of a word. -/
def pairUp (word : List X) : Pairing X :=
  word.foldl (pairStep opens) { stack := [], pairs := [] }

theorem pairUp_concat
    (word : List X)
    (x : X) :
    pairUp opens (word ++ [x]) =
      pairStep opens (pairUp opens word) x := by
  simp [pairUp]

/-
  The three cases of a step: an element is opened, it closes
  the last open one, or there is nothing to close.
-/
theorem pairStep_cases
    (state : Pairing X)
    (x : X) :
    (opens x = true ∧
      pairStep opens state x =
        { state with stack := x :: state.stack }) ∨
    (opens x = false ∧ ∃ first rest,
      state.stack = first :: rest ∧
        pairStep opens state x =
          { stack := rest,
            pairs := state.pairs ++ [(first, x)] }) ∨
    (opens x = false ∧ state.stack = [] ∧
      pairStep opens state x = state) := by
  unfold pairStep
  cases hOpens : opens x with
  | true => simp
  | false =>
      cases hStack : state.stack with
      | nil => simp
      | cons first rest => simp

variable {opens}

/- The elements may be replaced if what opens is the same. -/
theorem pairUp_map
    {Y : Type}
    {f : Y → X}
    {opens' : Y → Bool}
    (hOpens : ∀ y, opens (f y) = opens' y)
    (word : List Y) :
    pairUp opens (word.map f) =
      { stack := (pairUp opens' word).stack.map f,
        pairs :=
          (pairUp opens' word).pairs.map (Prod.map f f) } := by
  induction word using List.reverseRecOn with
  | nil => simp [pairUp]
  | append_singleton word y ih =>
      rw [List.map_append, List.map_singleton, pairUp_concat,
        pairUp_concat, ih]
      unfold pairStep
      rw [hOpens]
      cases opens' y with
      | true => simp
      | false =>
          cases hStack : (pairUp opens' word).stack with
          | nil => simp [hStack]
          | cons first rest => simp

/- Every opening element is matched once or still open. -/
theorem pairUp_perm
    (word : List X) :
    ((pairUp opens word).pairs.map Prod.fst ++
        (pairUp opens word).stack).Perm
      (word.filter opens) := by
  induction word using List.reverseRecOn with
  | nil => simp [pairUp]
  | append_singleton word x ih =>
      rw [pairUp_concat, List.filter_append]
      rcases pairStep_cases opens (pairUp opens word) x with
        ⟨hOpens, hStep⟩ |
          ⟨hCloses, first, rest, hStack, hStep⟩ |
          ⟨hCloses, hStack, hStep⟩
      · rw [hStep]
        simp only [hOpens, List.filter_cons_of_pos,
          List.filter_nil]
        exact List.perm_middle.trans
          ((List.Perm.cons x ih).trans
            (List.perm_append_singleton x _).symm)
      · rw [hStep]
        rw [hStack] at ih
        simpa [hCloses] using ih
      · rw [hStep]
        simpa [hCloses] using ih

/- The closing elements that are matched keep their order. -/
theorem pairUp_sublist
    (word : List X) :
    ((pairUp opens word).pairs.map Prod.snd).Sublist
      (word.filter (fun x => !opens x)) := by
  induction word using List.reverseRecOn with
  | nil => simp [pairUp]
  | append_singleton word x ih =>
      rw [pairUp_concat, List.filter_append]
      rcases pairStep_cases opens (pairUp opens word) x with
        ⟨hOpens, hStep⟩ |
          ⟨hCloses, first, rest, hStack, hStep⟩ |
          ⟨hCloses, hStack, hStep⟩
      · rw [hStep]
        simpa [hOpens] using ih
      · rw [hStep]
        simpa [hCloses] using ih.append (List.Sublist.refl [x])
      · rw [hStep]
        exact ih.trans (List.sublist_append_left _ _)

/- An opening element stands before the one that closes it. -/
theorem pairUp_ordered
    (word : List X) :
    ∀ pair ∈ (pairUp opens word).pairs,
      [pair.1, pair.2].Sublist word := by
  induction word using List.reverseRecOn with
  | nil => simp [pairUp]
  | append_singleton word x ih =>
      have hMore :
          ∀ pair ∈ (pairUp opens word).pairs,
            [pair.1, pair.2].Sublist (word ++ [x]) :=
        fun pair hPair =>
          (ih pair hPair).trans (List.sublist_append_left _ _)
      rw [pairUp_concat]
      rcases pairStep_cases opens (pairUp opens word) x with
        ⟨hOpens, hStep⟩ |
          ⟨hCloses, first, rest, hStack, hStep⟩ |
          ⟨hCloses, hStack, hStep⟩
      · rw [hStep]
        exact hMore
      · rw [hStep]
        intro pair hPair
        rcases List.mem_append.mp hPair with hOld | hNew
        · exact hMore pair hOld
        · simp only [List.mem_singleton] at hNew
          subst hNew
          have hOpen : first ∈ word := by
            have hIn :
                first ∈
                  (pairUp opens word).pairs.map Prod.fst ++
                    (pairUp opens word).stack := by
              simp [hStack]
            exact List.mem_of_mem_filter
              ((pairUp_perm word).mem_iff.mp hIn)
          exact (List.singleton_sublist.mpr hOpen).append
            (List.Sublist.refl [x])
      · rw [hStep]
        exact hMore

/- A stack is at least as high as the surplus. -/
theorem countP_opens_le
    (word : List X) :
    word.countP opens ≤
      word.countP (fun x => !opens x) +
        (pairUp opens word).stack.length := by
  have hPerm := (@pairUp_perm X opens word).length_eq
  have hSub := (@pairUp_sublist X opens word).length_le
  simp only [List.length_append, List.length_map] at hPerm hSub
  rw [List.countP_eq_length_filter, List.countP_eq_length_filter]
  omega

end One

------------------------------------------------------------
-- Balanced Words
------------------------------------------------------------

section Words

variable {X : Type}
variable (opens : X → Bool)

/- Each bracket is closed in order. -/
inductive Balanced : List X → Prop
| nil : Balanced []
| wrap
    {first last : X}
    {inner rest : List X}
    (hFirst : opens first = true)
    (hLast : opens last = false)
    (hInner : Balanced inner)
    (hRest : Balanced rest) :
    Balanced (first :: (inner ++ last :: rest))

/-
  The stack of a word: behind each open element there is a
  balanced word up to the next open one.  Nothing is said of
  what stands before the first.
-/
inductive Open : List X → List X → Prop
| bottom (word : List X) : Open word []
| frame
    {before mid stack : List X}
    {first : X}
    (hFirst : opens first = true)
    (hBefore : Open before stack)
    (hMid : Balanced opens mid) :
    Open (before ++ first :: mid) (first :: stack)

variable {opens}

theorem Balanced.append
    {left right : List X}
    (hLeft : Balanced opens left)
    (hRight : Balanced opens right) :
    Balanced opens (left ++ right) := by
  induction hLeft with
  | nil => exact hRight
  | wrap hFirst hLast hInner hRest ihInner ihRest =>
      simpa using Balanced.wrap hFirst hLast hInner ihRest

theorem Open.append
    {word stack more : List X}
    (hOpen : Open opens word stack)
    (hMore : Balanced opens more) :
    Open opens (word ++ more) stack := by
  cases hOpen with
  | bottom => exact Open.bottom _
  | frame hFirst hBefore hMid =>
      simpa using Open.frame hFirst hBefore (hMid.append hMore)

theorem pairUp_open
    (word : List X) :
    Open opens word (pairUp opens word).stack := by
  induction word using List.reverseRecOn with
  | nil => exact Open.bottom _
  | append_singleton word x ih =>
      rw [pairUp_concat]
      rcases pairStep_cases opens (pairUp opens word) x with
        ⟨hOpens, hStep⟩ |
          ⟨hCloses, first, rest, hStack, hStep⟩ |
          ⟨hCloses, hStack, hStep⟩
      · rw [hStep]
        exact Open.frame hOpens ih Balanced.nil
      · rw [hStep]
        rw [hStack] at ih
        -- The closed interval is a balanced word of its own.
        cases ih with
        | @frame before mid _ _ hFirst hBefore hMid =>
            have hClosed :
                Balanced opens (first :: (mid ++ [x])) :=
              Balanced.wrap hFirst hCloses hMid Balanced.nil
            have hWhole := hBefore.append hClosed
            simpa using hWhole
      · rw [hStep, hStack]
        exact Open.bottom _

/- The pairs of a word are pairs of every longer word. -/
theorem pairs_append
    (word more : List X)
    {pair : X × X}
    (hPair : pair ∈ (pairUp opens word).pairs) :
    pair ∈ (pairUp opens (word ++ more)).pairs := by
  induction more using List.reverseRecOn with
  | nil => simpa using hPair
  | append_singleton more x ih =>
      rw [← List.append_assoc, pairUp_concat]
      rcases pairStep_cases opens
        (pairUp opens (word ++ more)) x with
        ⟨hOpens, hStep⟩ |
          ⟨hCloses, first, rest, hStack, hStep⟩ |
          ⟨hCloses, hStack, hStep⟩
      · rw [hStep]
        exact ih
      · rw [hStep]
        exact List.mem_append_left _ ih
      · rw [hStep]
        exact ih

/-
  A closing element before which more elements were opened
  than closed is matched with the one that it closes: what
  stands between them is balanced.
-/
theorem pairUp_closing
    {before after : List X}
    {last : X}
    (hLast : opens last = false)
    (hSurplus :
      before.countP (fun x => !opens x) <
        before.countP opens) :
    ∃ front first mid,
      before = front ++ first :: mid ∧
        opens first = true ∧ Balanced opens mid ∧
        (first, last) ∈
          (pairUp opens (before ++ last :: after)).pairs := by
  have hHeight := @countP_opens_le X opens before
  have hOpen := @pairUp_open X opens before
  have hSplit :
      before ++ last :: after = (before ++ [last]) ++ after := by
    simp
  have hConcat := pairUp_concat opens before last
  rcases pairStep_cases opens (pairUp opens before) last with
    ⟨hOpens, -⟩ | ⟨-, first, rest, hStack, hStep⟩ |
      ⟨-, hStack, -⟩
  · rw [hOpens] at hLast
    cases hLast
  · have hPair :
        (first, last) ∈
          (pairUp opens (before ++ [last])).pairs := by
      rw [hConcat, hStep]
      simp
    rw [hSplit]
    rw [hStack] at hOpen
    cases hOpen with
    | @frame front mid _ _ hFirst hBefore hMid =>
        exact ⟨front, first, mid, rfl, hFirst, hMid,
          pairs_append _ after hPair⟩
  · rw [hStack, List.length_nil] at hHeight
    omega

end Words

------------------------------------------------------------
-- A Stack For Each Key
------------------------------------------------------------

section Keys

variable {K X : Type}
variable [DecidableEq K]

/- A bracket of a kind. -/
inductive Mark (K : Type)
| opening (key : K)
| closing (key : K)
deriving DecidableEq

/- The kind of a bracket. -/
def Mark.key : Mark K → K
| .opening key => key
| .closing key => key

/- A pairing for each kind. -/
structure KeyedPairing (K X : Type) where
  opened : Dict K (List X)
  pairs : List (X × X)

variable (mark : X → Option (Mark K))

/-
  Reading the stack of a key for the first time makes an
  empty one.
-/
def keyedStep
    (state : KeyedPairing K X)
    (x : X) : KeyedPairing K X :=
  match mark x with
  | none => state
  | some (.opening key) =>
      { state with
        opened :=
          state.opened.set key
            (x :: state.opened.getD key []) }
  | some (.closing key) =>
      match state.opened.getD key [] with
      | [] => { state with opened := state.opened.set key [] }
      | first :: rest =>
          { opened := state.opened.set key rest,
            pairs := state.pairs ++ [(first, x)] }

/- All brackets, each kind on its own. -/
def keyedPairUp (xs : List X) : KeyedPairing K X :=
  xs.foldl (keyedStep mark) { opened := ∅, pairs := [] }

/- A bracket of that kind. -/
def belongs (key : K) (x : X) : Bool :=
  (mark x).map Mark.key = some key

/- A bracket that opens. -/
def isOpening (x : X) : Bool :=
  match mark x with
  | some (.opening _) => true
  | _ => false

theorem keyedPairUp_concat
    (xs : List X)
    (x : X) :
    keyedPairUp mark (xs ++ [x]) =
      keyedStep mark (keyedPairUp mark xs) x := by
  simp [keyedPairUp]

/- What the stacks and the pairs have of one key. -/
def view (key : K) (state : KeyedPairing K X) : Pairing X where
  stack := state.opened.getD key []
  pairs :=
    state.pairs.filter (fun pair => belongs mark key pair.2)

variable {mark}

theorem view_keyedStep_of_belongs
    {key : K}
    {x : X}
    (hOwn : belongs mark key x = true)
    (state : KeyedPairing K X) :
    view mark key (keyedStep mark state x) =
      pairStep (isOpening mark) (view mark key state) x := by
  have hKey := hOwn
  unfold belongs at hKey
  cases hMark : mark x with
  | none => simp [hMark] at hKey
  | some found =>
      cases found with
      | opening other =>
          simp only [hMark, Option.map_some, Mark.key,
            Option.some.injEq, decide_eq_true_eq] at hKey
          subst hKey
          simp [view, keyedStep, pairStep, isOpening, hMark,
            Dict.getD, Dict.get?_set]
      | closing other =>
          simp only [hMark, Option.map_some, Mark.key,
            Option.some.injEq, decide_eq_true_eq] at hKey
          subst hKey
          cases hStack : state.opened.getD other [] with
          | nil =>
              simp [view, keyedStep, pairStep, isOpening, hMark,
                hStack]
              simp [Dict.getD, Dict.get?_set]
          | cons first rest =>
              simp [view, keyedStep, pairStep, isOpening, hMark,
                hStack, hOwn]
              simp [Dict.getD, Dict.get?_set]

theorem view_keyedStep_of_not_belongs
    {key : K}
    {x : X}
    (hOther : belongs mark key x = false)
    (state : KeyedPairing K X) :
    view mark key (keyedStep mark state x) =
      view mark key state := by
  have hKey := hOther
  unfold belongs at hKey
  cases hMark : mark x with
  | none => simp [keyedStep, hMark]
  | some found =>
      cases found with
      | opening other =>
          simp only [hMark, Option.map_some, Mark.key,
            Option.some.injEq, decide_eq_false_iff_not] at hKey
          simp [view, keyedStep, hMark, Dict.getD,
            Dict.get?_set, Ne.symm hKey]
      | closing other =>
          simp only [hMark, Option.map_some, Mark.key,
            Option.some.injEq, decide_eq_false_iff_not] at hKey
          cases hStack : state.opened.getD other [] with
          | nil =>
              simp only [view, keyedStep, hMark, hStack]
              simp [Dict.getD, Dict.get?_set, Ne.symm hKey]
          | cons first rest =>
              simp only [view, keyedStep, hMark, hStack]
              simp [Dict.getD, Dict.get?_set, Ne.symm hKey,
                hOther]

/-
  A key has the stack and the pairs of its own elements:
  those of other keys do not change them.
-/
theorem view_keyedPairUp
    (key : K)
    (xs : List X) :
    view mark key (keyedPairUp mark xs) =
      pairUp (isOpening mark) (xs.filter (belongs mark key)) := by
  induction xs using List.reverseRecOn with
  | nil => simp [view, keyedPairUp, pairUp, Dict.getD, Dict.get?]
  | append_singleton xs x ih =>
      rw [keyedPairUp_concat, List.filter_append]
      cases hOwn : belongs mark key x with
      | true =>
          rw [view_keyedStep_of_belongs hOwn, ih]
          simp [hOwn, pairUp_concat]
      | false =>
          rw [view_keyedStep_of_not_belongs hOwn, ih]
          simp [hOwn]

theorem keyedPairUp_closing
    (xs : List X) :
    ∀ pair ∈ (keyedPairUp mark xs).pairs,
      ∃ key, mark pair.2 = some (.closing key) := by
  induction xs using List.reverseRecOn with
  | nil => simp [keyedPairUp]
  | append_singleton xs x ih =>
      rw [keyedPairUp_concat]
      unfold keyedStep
      cases hMark : mark x with
      | none => exact ih
      | some found =>
          cases found with
          | opening key => exact ih
          | closing key =>
              simp only
              split
              · exact ih
              · intro pair hPair
                rcases List.mem_append.mp hPair with hOld | hNew
                · exact ih pair hOld
                · simp only [List.mem_singleton] at hNew
                  subst hNew
                  exact ⟨key, hMark⟩

/- The stacks of a pairing together. -/
def KeyedPairing.height (state : KeyedPairing K X) : Nat :=
  (state.opened.items.map (fun item => item.2.length)).sum

omit [DecidableEq K] in
theorem height_mk
    (opened : Dict K (List X))
    (pairs : List (X × X)) :
    (KeyedPairing.mk opened pairs).height =
      (opened.items.map (fun item => item.2.length)).sum := rfl

theorem height_set
    (opened : Dict K (List X))
    (pairs pairs' : List (X × X))
    (key : K)
    (stack : List X) :
    (KeyedPairing.mk (opened.set key stack) pairs').height +
        (opened.getD key []).length =
      (KeyedPairing.mk opened pairs).height +
        stack.length := by
  have hSum := Dict.sum_set List.length opened key stack
  rw [height_mk, height_mk, ← hSum]
  unfold Dict.getD
  cases opened.get? key <;> simp

/- Every opening element of any key is matched or open. -/
theorem length_pairs_add_height
    (xs : List X) :
    (keyedPairUp mark xs).pairs.length +
        (keyedPairUp mark xs).height =
      xs.countP (isOpening mark) := by
  induction xs using List.reverseRecOn with
  | nil => simp [keyedPairUp, KeyedPairing.height]
  | append_singleton xs x ih =>
      rw [keyedPairUp_concat, List.countP_append,
        List.countP_singleton, ← ih]
      rcases hState : keyedPairUp mark xs with ⟨opened, pairs⟩
      cases hMark : mark x with
      | none => simp [keyedStep, isOpening, hMark]
      | some found =>
          cases found with
          | opening key =>
              have hHeight := height_set opened pairs pairs key
                (x :: opened.getD key [])
              simp only [keyedStep, isOpening, hMark,
                List.length_cons, if_true] at hHeight ⊢
              omega
          | closing key =>
              cases hStack : opened.getD key [] with
              | nil =>
                  have hHeight :=
                    height_set opened pairs pairs key []
                  simp only [hStack] at hHeight
                  simp only [keyedStep, isOpening, hMark, hStack,
                    Bool.false_eq_true, if_false]
                  simp at hHeight ⊢
                  omega
              | cons first rest =>
                  have hHeight := height_set opened pairs
                    (pairs ++ [(first, x)]) key rest
                  simp only [hStack, List.length_cons] at hHeight
                  simp only [keyedStep, isOpening, hMark, hStack,
                    List.length_append, List.length_singleton]
                  simp only [Bool.false_eq_true, if_false]
                  omega

end Keys

end Brackets
