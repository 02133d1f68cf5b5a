import Mathlib.Data.List.Count
import Mathlib.Data.List.Induction

/-
  Items that are numbered within their label, in the order in
  which they come, and kept under a key.

  A key keeps the last item that was stored under it.  The
  numbers that are kept of a label run from one up without a
  hole exactly if no key was used twice.

  Main declarations:
    * `Numbering.rank`
    * `Numbering.Holds`
    * `Numbering.holds_append_singleton`
    * `Numbering.Holds.unique`
    * `Numbering.Keeps`, `Numbering.Keeps.store`
    * `Numbering.dense_iff_nodup`
-/

namespace Numbering

------------------------------------------------------------
-- Two Places In A List
------------------------------------------------------------

section Places

variable {X : Type}

/- Two places of one list are the same, or one is earlier. -/
theorem places_cases
    {before before' after after' : List X}
    {x x' : X}
    (hSame : before ++ x :: after = before' ++ x' :: after') :
    (before = before' ∧ x = x' ∧ after = after') ∨
      (∃ between, before' = before ++ x :: between ∧
        after = between ++ x' :: after') ∨
      (∃ between, before = before' ++ x' :: between ∧
        after' = between ++ x :: after) := by
  rcases List.append_eq_append_iff.mp hSame with
    ⟨rest, hBefore, hRest⟩ | ⟨rest, hBefore, hRest⟩
  · cases rest with
    | nil =>
        rcases List.cons.inj hRest with ⟨hHead, hTail⟩
        exact Or.inl ⟨by simp [hBefore], hHead, hTail⟩
    | cons y between =>
        rcases List.cons.inj hRest with ⟨hHead, hTail⟩
        refine Or.inr (Or.inl ⟨between, ?_, hTail⟩)
        rw [hBefore, hHead]
  · cases rest with
    | nil =>
        rcases List.cons.inj hRest with ⟨hHead, hTail⟩
        exact Or.inl
          ⟨by simp [hBefore], hHead.symm, hTail.symm⟩
    | cons y between =>
        rcases List.cons.inj hRest with ⟨hHead, hTail⟩
        refine Or.inr (Or.inr ⟨between, ?_, hTail⟩)
        rw [hBefore, hHead]

/- A relation holds pairwise if it holds from every place. -/
theorem pairwise_of_places
    {R : X → X → Prop}
    {items : List X}
    (hPlaces :
      ∀ before x after, items = before ++ x :: after →
        ∀ y ∈ after, R x y) :
    items.Pairwise R := by
  induction items with
  | nil => exact List.Pairwise.nil
  | cons x items ih =>
      apply List.Pairwise.cons
      · exact hPlaces [] x items rfl
      · apply ih
        intro before y after hItems
        apply hPlaces (x :: before) y after
        rw [hItems]
        rfl

theorem places_of_pairwise
    {R : X → X → Prop}
    {items before after : List X}
    {x : X}
    (hPairwise : items.Pairwise R)
    (hItems : items = before ++ x :: after) :
    ∀ y ∈ after, R x y := by
  rw [hItems, List.pairwise_append] at hPairwise
  exact (List.pairwise_cons.mp hPairwise.2.1).1

/- A place of a filtered list is a place of the list. -/
theorem filter_places
    {p : X → Bool}
    {items kept later : List X}
    {x : X}
    (hItems : items.filter p = kept ++ x :: later) :
    ∃ before after,
      items = before ++ x :: after ∧ p x = true ∧
        before.filter p = kept ∧ after.filter p = later := by
  rcases List.filter_eq_append_iff.mp hItems with
    ⟨first, second, hSplit, hFirst, hSecond⟩
  rcases List.filter_eq_cons_iff.mp hSecond with
    ⟨skipped, after, hCons, hSkipped, hX, hAfter⟩
  refine ⟨first ++ skipped, after, ?_, hX, ?_, hAfter⟩
  · rw [hSplit, hCons, List.append_assoc]
  · rw [List.filter_append, hFirst,
      List.filter_eq_nil_iff.mpr hSkipped, List.append_nil]

end Places

------------------------------------------------------------
-- Numbers
------------------------------------------------------------

section Numbers

variable {X K L : Type}
variable [DecidableEq L]
variable (key : X → K)
variable (label : X → L)

/- The number of an item within its label. -/
def rank (before : List X) (x : X) : Nat :=
  before.countP (fun y => label y = label x) + 1

/- What is kept under a key, with its number. -/
def Holds
    (items : List X)
    (k : K)
    (x : X)
    (number : Nat) : Prop :=
  ∃ before after,
    items = before ++ x :: after ∧ key x = k ∧
      (∀ y ∈ after, key y ≠ k) ∧
      number = rank label before x

variable {key label}

theorem not_holds_nil
    {k : K}
    {x : X}
    {number : Nat} :
    ¬ Holds key label [] k x number := by
  intro hHolds
  rcases hHolds with ⟨before, after, hItems, -⟩
  cases before <;> cases hItems

variable {items : List X}

theorem holds_append_singleton
    {k : K}
    {x y : X}
    {number : Nat} :
    Holds key label (items ++ [y]) k x number ↔
      (key y = k ∧ x = y ∧ number = rank label items y) ∨
        (key y ≠ k ∧ Holds key label items k x number) := by
  constructor
  · intro hHolds
    rcases hHolds with
      ⟨before, after, hItems, hKey, hAfter, hNumber⟩
    rcases List.eq_nil_or_concat after with
      hNil | ⟨rest, last, hLast⟩
    · rw [hNil] at hItems
      rcases List.append_inj' hItems rfl with ⟨hBefore, hX⟩
      cases hX
      rw [hBefore]
      exact Or.inl ⟨hKey, rfl, hNumber⟩
    · rw [List.concat_eq_append] at hLast
      rw [hLast, ← List.cons_append, ← List.append_assoc]
        at hItems
      rcases List.append_inj' hItems rfl with ⟨hBefore, hX⟩
      cases hX
      rw [hLast] at hAfter
      refine Or.inr ⟨hAfter y (by simp), before, rest, hBefore,
        hKey, ?_, hNumber⟩
      intro other hOther
      exact hAfter other (List.mem_append_left _ hOther)
  · intro hCases
    rcases hCases with
      ⟨hKey, hX, hNumber⟩ |
        ⟨hKey, before, after, hItems, hX, hAfter, hNumber⟩
    · rw [hX]
      exact ⟨items, [], rfl, hKey, by simp, hNumber⟩
    · refine ⟨before, after ++ [y], ?_, hX, ?_, hNumber⟩
      · simp [hItems]
      · intro other hOther
        rcases List.mem_append.mp hOther with hOld | hNew
        · exact hAfter other hOld
        · rw [List.mem_singleton.mp hNew]
          exact hKey

/- A later item of a label has a higher number. -/
theorem rank_lt_rank
    (before between : List X)
    {x x' : X}
    (hLabel : label x = label x') :
    rank label before x <
      rank label (before ++ x :: between) x' := by
  unfold rank
  rw [List.countP_append, hLabel, List.countP_cons]
  simp only [hLabel, decide_true, if_true]
  omega

theorem rank_le
    {items before after : List X}
    {x : X}
    (hItems : items = before ++ x :: after) :
    rank label before x ≤
      items.countP (fun y => label y = label x) := by
  unfold rank
  rw [hItems, List.countP_append, List.countP_cons]
  simp only [decide_true, if_true]
  omega

/- Items with one label and one number are in one place. -/
theorem place_unique
    {items before before' after after' : List X}
    {x x' : X}
    (hItems : items = before ++ x :: after)
    (hItems' : items = before' ++ x' :: after')
    (hLabel : label x = label x')
    (hRank : rank label before x = rank label before' x') :
    before = before' ∧ x = x' ∧ after = after' := by
  rcases places_cases (hItems.symm.trans hItems') with
    hSame | ⟨between, hBefore, -⟩ | ⟨between, hBefore, -⟩
  · exact hSame
  · have hLt :=
      rank_lt_rank before between hLabel
    rw [hBefore] at hRank
    omega
  · have hLt :=
      rank_lt_rank before' between hLabel.symm
    rw [hBefore] at hRank
    omega

/- A label and a number are kept under one key only. -/
theorem Holds.unique
    {k k' : K}
    {x x' : X}
    {number : Nat}
    (hHolds : Holds key label items k x number)
    (hHolds' : Holds key label items k' x' number)
    (hLabel : label x = label x') :
    k = k' := by
  rcases hHolds with ⟨before, after, hItems, hKey, -, hNumber⟩
  rcases hHolds' with
    ⟨before', after', hItems', hKey', -, hNumber'⟩
  have hPlace :=
    place_unique hItems hItems' hLabel
      (hNumber.symm.trans hNumber')
  rw [← hKey, ← hKey', hPlace.2.1]

/- A key that was used keeps some item. -/
theorem exists_holds
    {x : X}
    (hX : x ∈ items) :
    ∃ y number, Holds key label items (key x) y number := by
  induction items using List.reverseRecOn with
  | nil => cases hX
  | append_singleton items y ih =>
      simp only [holds_append_singleton]
      by_cases hKey : key y = key x
      · exact ⟨y, _, Or.inl ⟨hKey, rfl, rfl⟩⟩
      · rcases List.mem_append.mp hX with hOld | hNew
        · rcases ih hOld with ⟨z, number, hHolds⟩
          exact ⟨z, number, Or.inr ⟨hKey, hHolds⟩⟩
        · rw [List.mem_singleton.mp hNew] at hKey
          exact absurd rfl hKey

/- Every number up to the count of a label is given out. -/
theorem exists_rank
    {l : L}
    {number : Nat}
    (hPositive : 1 ≤ number)
    (hCount :
      number ≤ items.countP (fun y => label y = l)) :
    ∃ before x after,
      items = before ++ x :: after ∧ label x = l ∧
        number = rank label before x := by
  induction items using List.reverseRecOn with
  | nil =>
      rw [List.countP_nil] at hCount
      omega
  | append_singleton items y ih =>
      by_cases hOld :
          number ≤ items.countP (fun y => label y = l)
      · rcases ih hOld with
          ⟨before, x, after, hItems, hLabel, hNumber⟩
        refine ⟨before, x, after ++ [y], ?_, hLabel, hNumber⟩
        simp [hItems]
      · rw [List.countP_append, List.countP_singleton]
          at hCount
        by_cases hLabel : label y = l
        · refine ⟨items, y, [], rfl, hLabel, ?_⟩
          simp only [hLabel, decide_true, if_true] at hCount
          unfold rank
          rw [hLabel]
          omega
        · simp only [hLabel, decide_false] at hCount
          exact absurd hCount hOld

/- A table that keeps, under every key, what is made of it. -/
def Keeps
    {K' V : Type}
    (key : X → K)
    (label : X → L)
    (keyOf : K' → K)
    (make : X → Nat → V)
    (items : List X)
    (get : K' → Option V) : Prop :=
  ∀ k v,
    get k = some v ↔
      ∃ x number,
        Holds key label items (keyOf k) x number ∧
          make x number = v

theorem keeps_nil
    {K' V : Type}
    (keyOf : K' → K)
    (make : X → Nat → V) :
    Keeps key label keyOf make [] (fun _ => none) := by
  intro k v
  constructor
  · intro hNone
    cases hNone
  · intro hHolds
    rcases hHolds with ⟨x, number, hHolds, -⟩
    exact absurd hHolds not_holds_nil

/- One more item is stored under its key. -/
theorem Keeps.store
    {K' V : Type}
    [DecidableEq K']
    {keyOf : K' → K}
    (hInjective : Function.Injective keyOf)
    {make : X → Nat → V}
    {get next : K' → Option V}
    (hKeeps : Keeps key label keyOf make items get)
    {y : X}
    {k : K'}
    (hKey : key y = keyOf k)
    (hNext :
      ∀ k', next k' =
        if k' = k then some (make y (rank label items y))
        else get k') :
    Keeps key label keyOf make (items ++ [y]) next := by
  intro k' v
  rw [hNext k']
  simp only [holds_append_singleton, hKey]
  by_cases hSame : k' = k
  · rw [if_pos hSame, Option.some.injEq, hSame]
    constructor
    · intro hMade
      exact ⟨y, _, Or.inl ⟨rfl, rfl, rfl⟩, hMade⟩
    · intro hHolds
      rcases hHolds with
        ⟨x, number, ⟨-, hX, hNumber⟩ | ⟨hNot, -⟩, hMade⟩
      · rw [← hMade, hX, hNumber]
      · exact absurd rfl hNot
  · rw [if_neg hSame, hKeeps k' v]
    have hOther : keyOf k ≠ keyOf k' :=
      fun hEq => hSame (hInjective hEq).symm
    constructor
    · intro hHolds
      rcases hHolds with ⟨x, number, hHeld, hMade⟩
      exact ⟨x, number, Or.inr ⟨hOther, hHeld⟩, hMade⟩
    · intro hHolds
      rcases hHolds with
        ⟨x, number, ⟨hEq, -⟩ | ⟨-, hHeld⟩, hMade⟩
      · exact absurd hEq hOther
      · exact ⟨x, number, hHeld, hMade⟩

/- The numbers that are kept have no hole. -/
def Dense
    (key : X → K)
    (label : X → L)
    (items : List X) : Prop :=
  ∀ l number,
    (∃ k x, Holds key label items k x number ∧ label x = l) ↔
      1 ≤ number ∧
        number ≤ items.countP (fun y => label y = l)

theorem dense_iff_nodup
    {items : List X} :
    Dense key label items ↔ (items.map key).Nodup := by
  constructor
  · intro hDense
    rw [List.Nodup, List.pairwise_map]
    apply pairwise_of_places
    intro before x after hItems y hY
    have hHere :
        ∃ k x', Holds key label items k x'
            (rank label before x) ∧ label x' = label x :=
      (hDense (label x) (rank label before x)).mpr
        ⟨Nat.le_add_left _ _, rank_le hItems⟩
    rcases hHere with
      ⟨k, x', ⟨before', after', hItems', hKey, hAfter,
        hNumber⟩, hLabel⟩
    rcases place_unique hItems hItems' hLabel.symm hNumber with
      ⟨-, hX, hRest⟩
    rw [hX, hKey]
    exact (hAfter y (hRest ▸ hY)).symm
  · intro hNodup l number
    rw [List.Nodup, List.pairwise_map] at hNodup
    constructor
    · intro hKept
      rcases hKept with
        ⟨k, x, ⟨before, after, hItems, -, -, hNumber⟩, hLabel⟩
      rw [hNumber, ← hLabel]
      exact ⟨Nat.le_add_left _ _, rank_le hItems⟩
    · intro hBounds
      rcases exists_rank hBounds.1 hBounds.2 with
        ⟨before, x, after, hItems, hLabel, hNumber⟩
      refine ⟨key x, x, ⟨before, after, hItems, rfl, ?_,
        hNumber⟩, hLabel⟩
      intro y hY hSame
      exact places_of_pairwise hNodup hItems y hY hSame.symm

end Numbers

end Numbering
