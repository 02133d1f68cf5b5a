import Mathlib.Algebra.Order.BigOperators.Group.List
import Mathlib.Algebra.Order.Ring.Int
import Mathlib.Data.List.Sort
import Mathlib.Data.List.Flatten

/-
  Ranks in a table of counts.

  A table lists values with how often each occurs.  The value
  of a rank is found by adding up the counts until they reach
  it; where no count is negative, it is the value at that
  place of the listed samples.

  Main declarations:
    * `Ranks.firstReaching`, `Ranks.samples`
    * `Ranks.firstReaching_eq`
    * `Ranks.firstReaching_mono`
    * `Ranks.samples_sorted`, `Ranks.count_samples`
    * `Ranks.length_samples`
-/

namespace Ranks

variable {X : Type}

/- The first value at which the counts reach a target. -/
def firstReaching (target : Int) :
    Int → List (X × Int) → Option X
| _, [] => none
| cumulative, item :: items =>
    if target ≤ cumulative + item.2 then
      some item.1
    else
      firstReaching target (cumulative + item.2) items

/- Every value as often as it is counted. -/
def samples (items : List (X × Int)) : List X :=
  items.flatMap (fun item => List.replicate item.2.toNat item.1)

variable {items : List (X × Int)}

theorem firstReaching_eq
    {target cumulative : Int}
    (hCounts : ∀ item ∈ items, 0 ≤ item.2)
    (hBelow : cumulative < target) :
    firstReaching target cumulative items =
      (samples items)[(target - cumulative - 1).toNat]? := by
  induction items generalizing cumulative with
  | nil => rfl
  | cons item items ih =>
      rw [List.forall_mem_cons] at hCounts
      rw [firstReaching]
      unfold samples at ih ⊢
      rw [List.flatMap_cons, List.getElem?_append,
        List.length_replicate]
      split
      next hReached =>
        rw [if_pos (by omega), List.getElem?_replicate,
          if_pos (by omega)]
      next hLater =>
        rw [if_neg (by omega),
          ih hCounts.2 (not_le.mp hLater)]
        congr 1
        omega

/- A larger target is reached no earlier, if it is reached. -/
theorem firstReaching_mono
    {small large cumulative : Int}
    {value : X}
    {r : X → X → Prop}
    (hRefl : ∀ x, r x x)
    (hSorted : (items.map Prod.fst).Pairwise r)
    (hLe : small ≤ large)
    (hReached :
      firstReaching large cumulative items = some value) :
    ∃ earlier,
      firstReaching small cumulative items = some earlier ∧
        r earlier value := by
  induction items generalizing cumulative with
  | nil => cases hReached
  | cons item items ih =>
      rw [List.map_cons, List.pairwise_cons] at hSorted
      rw [firstReaching] at hReached ⊢
      by_cases hSmall : small ≤ cumulative + item.2
      · rw [if_pos hSmall]
        refine ⟨item.1, rfl, ?_⟩
        split at hReached
        next hLarge =>
          rw [Option.some.injEq] at hReached
          rw [hReached]
          exact hRefl value
        next hLater =>
          apply hSorted.1
          clear ih hSorted hSmall hLater
          generalize cumulative + item.2 = reached at hReached
          induction items generalizing reached with
          | nil => cases hReached
          | cons next items ih =>
              rw [firstReaching] at hReached
              split at hReached
              next hHere =>
                rw [Option.some.injEq] at hReached
                rw [← hReached]
                exact List.mem_cons_self
              next hOn =>
                exact List.mem_cons_of_mem _ (ih _ hReached)
      · rw [if_neg hSmall]
        rw [if_neg (by omega)] at hReached
        exact ih hSorted.2 hReached

theorem samples_sorted
    [LinearOrder X]
    (hSorted :
      (items.map Prod.fst).Pairwise (· < ·)) :
    (samples items).Pairwise (· ≤ ·) := by
  unfold samples
  rw [List.pairwise_flatMap]
  rw [List.pairwise_map] at hSorted
  constructor
  · intro item _
    exact List.pairwise_replicate.mpr (Or.inr (le_refl _))
  · refine hSorted.imp ?_
    intro earlier later hLess x hX y hY
    rw [List.eq_of_mem_replicate hX,
      List.eq_of_mem_replicate hY]
    exact hLess.le

theorem count_samples
    [DecidableEq X]
    (hNodup : (items.map Prod.fst).Nodup)
    {item : X × Int}
    (hItem : item ∈ items) :
    (samples items).count item.1 = item.2.toNat := by
  induction items with
  | nil => cases hItem
  | cons first items ih =>
      rw [List.map_cons, List.nodup_cons] at hNodup
      unfold samples at ih ⊢
      rw [List.flatMap_cons, List.count_append,
        List.count_replicate]
      rcases List.mem_cons.mp hItem with hIs | hLater
      · subst hIs
        have hNone :
            (items.flatMap (fun other =>
              List.replicate other.2.toNat other.1)).count
                item.1 = 0 := by
          rw [List.count_eq_zero]
          intro hIn
          rcases List.mem_flatMap.mp hIn with
            ⟨other, hOther, hSame⟩
          apply hNodup.1
          rw [List.eq_of_mem_replicate hSame]
          exact List.mem_map_of_mem hOther
        rw [hNone, Nat.add_zero]
        simp
      · have hNe : first.1 ≠ item.1 := by
          intro hSame
          apply hNodup.1
          rw [hSame]
          exact List.mem_map_of_mem hLater
        rw [ih hNodup.2 hLater]
        simp [hNe]

theorem count_samples_of_not_mem
    [DecidableEq X]
    {x : X}
    (hAbsent : x ∉ items.map Prod.fst) :
    (samples items).count x = 0 := by
  rw [List.count_eq_zero]
  intro hIn
  rcases List.mem_flatMap.mp hIn with ⟨item, hItem, hSame⟩
  apply hAbsent
  rw [List.eq_of_mem_replicate hSame]
  exact List.mem_map_of_mem hItem

theorem length_samples
    (hCounts : ∀ item ∈ items, 0 ≤ item.2) :
    ((samples items).length : Int) =
      (items.map Prod.snd).sum := by
  induction items with
  | nil => rfl
  | cons item items ih =>
      rw [List.forall_mem_cons] at hCounts
      unfold samples at ih ⊢
      rw [List.flatMap_cons, List.length_append,
        List.length_replicate, Nat.cast_add, ih hCounts.2,
        List.map_cons, List.sum_cons,
        Int.toNat_of_nonneg hCounts.1]

end Ranks
