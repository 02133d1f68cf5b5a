import Mathlib.Data.List.Nodup
import Mathlib.Data.List.Perm.Subperm
import Mathlib.Order.Basic
import RsCamera.Lib.Containers

/-
  Numbering the elements of a list within classes.

  A slot is a class together with a number, counted from
  one; `ranked` is the element that a slot stands for.  When
  the elements are distinct, slots and elements correspond
  one to one, so a list of slots that is as long as the list
  of elements reaches every element.

  Main declarations:
    * `classOf`, `ranked`
    * `ranked_append_singleton`
    * `ranked_inj`
    * `perm_of_ranked`, `perm_classOf_of_ranked`
    * `length_filter_le_of_getElem?`, `idxOf_lt_idxOf_iff`
-/

------------------------------------------------------------
-- Classes And Ranks
------------------------------------------------------------

namespace Ranking

section

variable {X K : Type}
variable [DecidableEq K]

/- The elements of one class, in the order of the list. -/
def classOf
    (key : X → K)
    (xs : List X)
    (k : K) : List X :=
  xs.filter (fun x => key x = k)

/- The element a slot stands for. -/
def ranked
    (key : X → K)
    (xs : List X)
    (slot : K × Nat) : Option X :=
  if slot.2 = 0 then
    none
  else
    (classOf key xs slot.1)[slot.2 - 1]?

variable {key : X → K}
variable {xs : List X}

theorem mem_classOf
    {k : K}
    {x : X} :
    x ∈ classOf key xs k ↔ x ∈ xs ∧ key x = k := by
  simp [classOf]

theorem classOf_append_singleton
    (key : X → K)
    (xs : List X)
    (x : X)
    (k : K) :
    classOf key (xs ++ [x]) k =
      if key x = k then classOf key xs k ++ [x]
      else classOf key xs k := by
  unfold classOf
  rw [List.filter_append]
  split
  next hKey => simp [hKey]
  next hKey => simp [hKey]

theorem length_classOf_le
    (key : X → K)
    (xs : List X)
    (k : K) :
    (classOf key xs k).length ≤ xs.length :=
  List.length_filter_le _ xs

/- The slots that stand for an element. -/
theorem ranked_isSome_iff
    {slot : K × Nat} :
    (ranked key xs slot).isSome ↔
      1 ≤ slot.2 ∧
        slot.2 ≤ (classOf key xs slot.1).length := by
  unfold ranked
  split
  next hZero => simp [hZero]
  next hZero =>
    rw [Option.isSome_iff_exists]
    constructor
    · rintro ⟨x, hGet⟩
      have hBound := (List.getElem?_eq_some_iff.mp hGet).1
      omega
    · intro hBounds
      exact ⟨_, List.getElem?_eq_getElem (by omega)⟩

/- A new element takes the next number of its class. -/
theorem ranked_append_singleton
    (key : X → K)
    (xs : List X)
    (x : X)
    (slot : K × Nat) :
    ranked key (xs ++ [x]) slot =
      if slot = (key x, (classOf key xs (key x)).length + 1)
      then some x
      else ranked key xs slot := by
  rcases slot with ⟨k, i⟩
  unfold ranked
  rw [classOf_append_singleton]
  by_cases hZero : i = 0
  · simp [hZero]
  · simp only [hZero, if_false]
    by_cases hKey : key x = k
    · subst hKey
      simp only [if_true, Prod.mk.injEq, true_and]
      by_cases hLast : i = (classOf key xs (key x)).length + 1
      · simp [hLast]
      · rw [if_neg hLast, List.getElem?_append]
        split
        · rfl
        next hPast =>
          rw [List.getElem?_eq_none (by
              simp only [List.length_singleton]
              omega),
            List.getElem?_eq_none (by omega)]
    · have hOther :
          (k, i) ≠
            (key x, (classOf key xs (key x)).length + 1) := by
        intro hEq
        exact hKey (Prod.mk.inj hEq).1.symm
      rw [if_neg hKey, if_neg hOther]

theorem mem_of_ranked
    {slot : K × Nat}
    {x : X}
    (hRanked : ranked key xs slot = some x) :
    x ∈ xs ∧ key x = slot.1 := by
  unfold ranked at hRanked
  split at hRanked
  · cases hRanked
  · exact mem_classOf.mp (List.mem_of_getElem? hRanked)

/- Distinct elements have one slot each. -/
theorem ranked_inj
    (hNodup : xs.Nodup)
    {slot slot' : K × Nat}
    {x : X}
    (hSlot : ranked key xs slot = some x)
    (hSlot' : ranked key xs slot' = some x) :
    slot = slot' := by
  have hClass : slot.1 = slot'.1 :=
    (mem_of_ranked hSlot).2.symm.trans (mem_of_ranked hSlot').2
  have hDistinct : (classOf key xs slot.1).Nodup :=
    hNodup.filter _
  unfold ranked at hSlot hSlot'
  split at hSlot
  · cases hSlot
  next hPos =>
    split at hSlot'
    · cases hSlot'
    next hPos' =>
      rw [← hClass] at hSlot'
      have hBound :
          slot.2 - 1 < (classOf key xs slot.1).length :=
        (List.getElem?_eq_some_iff.mp hSlot).1
      have hNumber :=
        (List.getElem?_inj hBound hDistinct).mp
          (hSlot.trans hSlot'.symm)
      refine Prod.ext hClass ?_
      omega

end

------------------------------------------------------------
-- Slots That Reach Every Element
------------------------------------------------------------

section

variable {X K : Type}
variable [DecidableEq K]

variable {key : X → K}
variable {xs : List X}
variable {slots : List (K × Nat)}
variable {picks : List X}

/- Distinct slots stand for distinct elements. -/
theorem nodup_of_ranked
    (hNodup : xs.Nodup)
    (hSlots : slots.Nodup)
    (hPicks :
      List.Forall₂
        (fun slot x => ranked key xs slot = some x)
        slots picks) :
    picks.Nodup := by
  induction hPicks with
  | nil => exact List.nodup_nil
  | @cons slot x slots picks hHead hTail ih =>
      rcases List.nodup_cons.mp hSlots with ⟨hFresh, hRest⟩
      refine List.nodup_cons.mpr ⟨?_, ih hRest⟩
      intro hMember
      rcases exists_left_of_mem hTail hMember with
        ⟨other, hOther, hAt⟩
      rw [ranked_inj hNodup hHead hAt] at hFresh
      exact hFresh hOther

/-
  Distinct slots that are not fewer than the elements reach
  each element exactly once.
-/
theorem perm_of_ranked
    (hNodup : xs.Nodup)
    (hSlots : slots.Nodup)
    (hPicks :
      List.Forall₂
        (fun slot x => ranked key xs slot = some x)
        slots picks)
    (hLength : xs.length ≤ slots.length) :
    picks.Perm xs := by
  have hDistinct := nodup_of_ranked hNodup hSlots hPicks
  have hSubset : picks ⊆ xs := by
    intro x hMember
    rcases exists_left_of_mem hPicks hMember with
      ⟨slot, _, hAt⟩
    exact (mem_of_ranked hAt).1
  apply (hDistinct.subperm hSubset).perm_of_length_le
  rw [← hPicks.length_eq]
  exact hLength

/- Slots and their elements have the same classes. -/
theorem length_classOf_of_ranked
    (hPicks :
      List.Forall₂
        (fun slot x => ranked key xs slot = some x)
        slots picks)
    (k : K) :
    (classOf key picks k).length =
      (slots.filter (fun slot => slot.1 = k)).length := by
  unfold classOf
  induction hPicks with
  | nil => rfl
  | @cons slot x slots picks hHead hTail ih =>
      have hKey : key x = slot.1 := (mem_of_ranked hHead).2
      rw [List.filter_cons, List.filter_cons, hKey]
      split
      · rw [List.length_cons, List.length_cons, ih]
      · exact ih

/-
  Distinct slots of a class that are not fewer than its
  elements reach each element of the class exactly once.
-/
theorem perm_classOf_of_ranked
    (hNodup : xs.Nodup)
    (hSlots : slots.Nodup)
    (hPicks :
      List.Forall₂
        (fun slot x => ranked key xs slot = some x)
        slots picks)
    {k : K}
    (hLength :
      (classOf key xs k).length ≤
        (slots.filter (fun slot => slot.1 = k)).length) :
    (classOf key picks k).Perm (classOf key xs k) := by
  have hDistinct : (classOf key picks k).Nodup :=
    (nodup_of_ranked hNodup hSlots hPicks).filter _
  have hSubset : classOf key picks k ⊆ classOf key xs k := by
    intro x hMember
    rcases mem_classOf.mp hMember with ⟨hPick, hKey⟩
    rcases exists_left_of_mem hPicks hPick with
      ⟨slot, _, hAt⟩
    exact mem_classOf.mpr ⟨(mem_of_ranked hAt).1, hKey⟩
  apply (hDistinct.subperm hSubset).perm_of_length_le
  rw [length_classOf_of_ranked hPicks]
  exact hLength

end

------------------------------------------------------------
-- Ranks In Sorted Lists
------------------------------------------------------------

variable {X O : Type}
variable [LinearOrder O]

/- The elements up to the one at an index. -/
theorem length_filter_le_of_getElem?
    {f : X → O}
    {xs : List X}
    (hSorted : xs.Pairwise (fun x y => f x < f y))
    {i : Nat}
    {x : X}
    (hGet : xs[i]? = some x) :
    (xs.filter (fun y => f y ≤ f x)).length = i + 1 := by
  induction xs generalizing i with
  | nil => simp at hGet
  | cons y xs ih =>
      rcases List.pairwise_cons.mp hSorted with
        ⟨hFirst, hRest⟩
      cases i with
      | zero =>
          rw [List.getElem?_cons_zero] at hGet
          have hEq : y = x := Option.some.inj hGet
          rw [hEq] at hFirst ⊢
          have hNone :
              xs.filter (fun z => f z ≤ f x) = [] := by
            rw [List.filter_eq_nil_iff]
            intro z hMember
            simpa using hFirst z hMember
          simp [hNone]
      | succ i =>
          rw [List.getElem?_cons_succ] at hGet
          have hLess : f y < f x :=
            hFirst x (List.mem_of_getElem? hGet)
          simp [hLess.le, ih hRest hGet]

/- Positions in a sorted list are ordered as the values. -/
theorem idxOf_lt_idxOf_iff
    {xs : List O}
    (hSorted : xs.Pairwise (fun x y => x < y))
    {a b : O}
    (hA : a ∈ xs)
    (hB : b ∈ xs) :
    xs.idxOf a < xs.idxOf b ↔ a < b := by
  induction xs with
  | nil => cases hA
  | cons x xs ih =>
      rcases List.pairwise_cons.mp hSorted with
        ⟨hFirst, hRest⟩
      rcases List.mem_cons.mp hA with hAHead | hATail
      · rcases List.mem_cons.mp hB with hBHead | hBTail
        · simp [hAHead, hBHead]
        · have hLess : x < b := hFirst b hBTail
          rw [hAHead, List.idxOf_cons_self,
            List.idxOf_cons_ne _ hLess.ne]
          simp [hLess]
      · have hLessA : x < a := hFirst a hATail
        rcases List.mem_cons.mp hB with hBHead | hBTail
        · rw [hBHead, List.idxOf_cons_self]
          simp [hLessA.le]
        · have hLessB : x < b := hFirst b hBTail
          rw [List.idxOf_cons_ne _ hLessA.ne,
            List.idxOf_cons_ne _ hLessB.ne,
            Nat.succ_lt_succ_iff]
          exact ih hRest hATail hBTail

end Ranking
