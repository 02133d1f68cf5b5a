import Mathlib.Data.List.MinMax
import RsCamera.Lib.Sorted

/-
  Looking up elements by a number: those between two bounds
  in a sorted list, the first of the least ones, and the
  interval that a time lies in.

  Main declarations:
    * `slice_bisect`
    * `FirstMin`, `firstMin_of_argmin`
    * `Apart`, `disjointed_insertionSort`
    * `Disjointed.exists_begun`
-/

------------------------------------------------------------
-- Between Two Bounds
------------------------------------------------------------

section Bounds

variable {X : Type}
variable (key : X → Int)

/- The bounds may be in any order. -/
theorem slice_bisect
    {values : List X}
    (hSorted :
      values.Pairwise (fun left right =>
        key left ≤ key right))
    (low high : Int) :
    slice values (bisectLeft (values.map key) low)
        (bisectRight (values.map key) high) =
      values.filter (fun x => low ≤ key x ∧ key x ≤ high) := by
  rw [bisectLeft_map key hSorted, bisectRight_map key hSorted]
  by_cases hOrder : low ≤ high
  · have hSub :
        ∀ x, decide (key x < low) = true →
          decide (key x ≤ high) = true := by
      intro x hLow
      simp only [decide_eq_true_eq] at hLow ⊢
      omega
    rw [slice_countP (leftFirst_lt key hSorted low)
      (leftFirst_le key hSorted high) hSub]
    apply List.filter_congr
    intro x _
    rw [← decide_not, ← Bool.decide_and]
    apply decide_eq_decide.mpr
    omega
  · have hCounts :
        values.countP (fun x => key x ≤ high) ≤
          values.countP (fun x => key x < low) := by
      apply List.countP_mono_left
      intro x _ hHigh
      simp only [decide_eq_true_eq] at hHigh ⊢
      omega
    have hNone :
        values.filter (fun x => low ≤ key x ∧ key x ≤ high) =
          [] := by
      rw [List.filter_eq_nil_iff]
      intro x _
      simp only [decide_eq_true_eq]
      omega
    rw [hNone, slice, List.drop_eq_nil_iff, List.length_take]
    omega

end Bounds

------------------------------------------------------------
-- The First Of The Least
------------------------------------------------------------

section Least

variable {X W : Type}
variable [LinearOrder W]

/-
  The element is one of those asked for. None of these that
  stand in front of it is as light, none behind it lighter.
-/
def FirstMin
    (P : X → Prop)
    (weight : X → W)
    (values : List X)
    (x : X) : Prop :=
  P x ∧
    ∃ front back,
      values = front ++ x :: back ∧
        (∀ y ∈ front, P y → weight x < weight y) ∧
        ∀ y ∈ back, P y → weight x ≤ weight y

/- The first wins. -/
theorem firstMin_of_argmin
    {weight : X → W}
    {values : List X}
    {x : X}
    (hMin : values.argmin weight = some x) :
    FirstMin (fun _ => True) weight values x := by
  refine ⟨trivial, ?_⟩
  induction values using List.reverseRecOn
    generalizing x with
  | nil => simp at hMin
  | append_singleton values last ih =>
      rw [List.argmin_concat] at hMin
      cases hOld : values.argmin weight with
      | none =>
          rw [hOld] at hMin
          rw [List.argmin_eq_none] at hOld
          have hIs : last = x := Option.some.inj hMin
          exact ⟨[], [], by simp [hOld, hIs], by simp, by simp⟩
      | some old =>
          rw [hOld] at hMin
          rcases ih hOld with
            ⟨front, back, hSplit, hFront, hBack⟩
          by_cases hLess : weight last < weight old
          · have hIs : last = x := by
              simpa [hLess] using hMin
            subst hIs
            refine ⟨values, [], by simp, ?_, by simp⟩
            intro y hY _
            -- The old one was as light as any.
            exact hLess.trans_le
              (List.le_of_mem_argmin hY hOld)
          · have hIs : old = x := by
              simpa [hLess] using hMin
            subst hIs
            refine ⟨front, back ++ [last], by simp [hSplit],
              hFront, ?_⟩
            intro y hY _
            rcases List.mem_append.mp hY with hIn | hLast
            · exact hBack y hIn trivial
            · rw [List.mem_singleton.mp hLast]
              exact not_lt.mp hLess

/- The first among those that pass a test. -/
theorem firstMin_of_argmin_filter
    {test : X → Bool}
    {weight : X → W}
    {values : List X}
    {x : X}
    (hMin : (values.filter test).argmin weight = some x) :
    FirstMin (fun y => test y = true) weight values x := by
  rcases firstMin_of_argmin hMin with
    ⟨-, front, back, hSplit, hFront, hBack⟩
  rcases List.filter_eq_append_iff.mp hSplit with
    ⟨first, rest, hValues, hFirst, hRest⟩
  rcases List.filter_eq_cons_iff.mp hRest with
    ⟨skipped, last, hTail, hSkipped, hX, hLast⟩
  refine ⟨hX, first ++ skipped, last, ?_, ?_, ?_⟩
  · rw [hValues, hTail, List.append_assoc]
  · intro y hY hTest
    rcases List.mem_append.mp hY with hIn | hIn
    · apply hFront y _ trivial
      rw [← hFirst]
      exact List.mem_filter.mpr ⟨hIn, hTest⟩
    · exact absurd hTest (hSkipped y hIn)
  · intro y hY hTest
    apply hBack y _ trivial
    rw [← hLast]
    exact List.mem_filter.mpr ⟨hY, hTest⟩

end Least

------------------------------------------------------------
-- The Interval Of A Time
------------------------------------------------------------

section Intervals

variable {X : Type}
variable (start finish : X → Int)

/-
  Two intervals in a list, the first in front of the second:
  one is over before the other begins, which may be at the
  same time. If both begin at one time, they are in order.
-/
def Apart (first second : X) : Prop :=
  finish first ≤ start second ∨
    finish second ≤ start first ∧ start second < start first

variable {start finish}

/- One more interval takes its place among the others. -/
theorem Disjointed.orderedInsert
    {intervals : List X}
    {x : X}
    (hDisjoint : Disjointed start finish intervals)
    (hProper : start x ≤ finish x)
    (hApart : ∀ y ∈ intervals, Apart start finish x y) :
    Disjointed start finish
      (intervals.orderedInsert
        (fun left right => start left ≤ start right) x) := by
  induction intervals with
  | nil => exact List.pairwise_singleton _ x
  | cons head rest ih =>
      have hHead := hApart head List.mem_cons_self
      rw [List.orderedInsert_cons]
      split
      next hFirst =>
        refine List.pairwise_cons.mpr ⟨?_, hDisjoint⟩
        intro y hY
        have hLe : start x ≤ start y := by
          rcases List.mem_cons.mp hY with hIs | hIn
          · rw [hIs]
            exact hFirst
          · exact hFirst.trans
              ((List.pairwise_cons.mp hDisjoint).1 y hIn).1
        rcases hApart y hY with hOver | hAfter
        · exact ⟨hLe, hOver⟩
        · exact absurd hLe (not_le.mpr hAfter.2)
      next hLater =>
        rw [not_le] at hLater
        rcases List.pairwise_cons.mp hDisjoint with
          ⟨hBefore, hRest⟩
        rw [List.forall_mem_cons] at hApart
        refine List.pairwise_cons.mpr
          ⟨?_, ih hRest hApart.2⟩
        intro y hY
        rcases (List.mem_orderedInsert _).mp hY with hIs | hIn
        · rw [hIs]
          rcases hHead with hOver | hAfter
          · omega
          · exact ⟨hLater.le, hAfter.1⟩
        · exact hBefore y hIn

/- Sorting intervals that are apart puts them in order. -/
theorem disjointed_insertionSort
    {intervals : List X}
    (hProper : ∀ x ∈ intervals, start x ≤ finish x)
    (hApart : intervals.Pairwise (Apart start finish)) :
    Disjointed start finish
      (intervals.insertionSort (fun left right =>
        start left ≤ start right)) := by
  induction intervals with
  | nil => exact List.Pairwise.nil
  | cons x rest ih =>
      rw [List.forall_mem_cons] at hProper
      rcases List.pairwise_cons.mp hApart with ⟨hX, hRest⟩
      rw [List.insertionSort_cons]
      apply (ih hProper.2 hRest).orderedInsert hProper.1
      intro y hY
      exact hX y (List.mem_insertionSort _ |>.mp hY)

/-
  The last interval that has begun holds the time if any
  interval does. It need not be the same one: the time may
  be where one ends and the next begins.
-/
theorem Disjointed.exists_begun
    {intervals : List X}
    (hDisjoint : Disjointed start finish intervals)
    (hProper : ∀ x ∈ intervals, start x ≤ finish x)
    {x : X}
    (hX : x ∈ intervals)
    {time : Int}
    (hStart : start x ≤ time)
    (hFinish : time ≤ finish x) :
    ∃ position last,
      bisectRight (intervals.map start) time = position + 1 ∧
        intervals[position]? = some last ∧
        time ≤ finish last := by
  have hBegun :
      x ∈ intervals.take
        (bisectRight (intervals.map start) time) := by
    rw [bisectRight_map start hDisjoint.sorted,
      take_countP (leftFirst_le start hDisjoint.sorted time)]
    exact List.mem_filter.mpr ⟨hX, by simpa using hStart⟩
  cases hCount : bisectRight (intervals.map start) time with
  | zero =>
      rw [hCount] at hBegun
      simp at hBegun
  | succ position =>
      rcases exists_last_le start hDisjoint.sorted hCount with
        ⟨last, hLast, hLe⟩
      refine ⟨position, last, rfl, hLast, ?_⟩
      rw [hCount, List.take_add_one, hLast] at hBegun
      rcases List.mem_append.mp hBegun with hIn | hIs
      · calc
          time ≤ finish x := hFinish
          _ ≤ start last := hDisjoint.finish_le_start hIn hLast
          _ ≤ finish last :=
            hProper last (List.mem_of_getElem? hLast)
      · have hIs : x = last := by
          simpa using hIs
        rw [← hIs]
        exact hFinish

end Intervals
