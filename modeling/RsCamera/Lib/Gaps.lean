import Mathlib.Data.List.Dedup
import Mathlib.Data.List.Destutter
import Mathlib.Data.List.GetD
import Mathlib.Order.Defs.LinearOrder
import Mathlib.Order.Interval.Finset.Nat

/-
  Numbers missing from a sequence, and numbers out of place
  in it.

  `gapSum` adds up what is missing between the neighbours of
  a non-decreasing sequence, as an online counter does.
  `gapSum_add_length_dedup` relates it to the closed form
  over the extremes and the number of distinct values, and
  `unseenNumbers_card` has that form for any sequence.

  Main declarations:
    * `gapSum`
    * `gapSum_append_singleton`
    * `gapSum_add_length_dedup`
    * `unseenNumbers`, `unseenNumbers_card`
    * `positionsBehind`
    * `Spaced`, `Spaced.length_le`
-/

------------------------------------------------------------
-- Gap Sums
------------------------------------------------------------

/- The numbers skipped between neighbouring elements. -/
def gapSum : List Nat → Nat
| a :: b :: rest => (b - a - 1) + gapSum (b :: rest)
| _ => 0

@[simp] theorem gapSum_nil :
    gapSum [] = 0 := rfl

@[simp] theorem gapSum_singleton
    (a : Nat) :
    gapSum [a] = 0 := rfl

/- Appending a number adds its distance to the last one. -/
theorem gapSum_append_singleton
    {numbers : List Nat}
    {last : Nat}
    (hLast : numbers.getLast? = some last)
    (next : Nat) :
    gapSum (numbers ++ [next]) =
      gapSum numbers + (next - last - 1) := by
  induction numbers with
  | nil => simp at hLast
  | cons a rest ih =>
      cases rest with
      | nil =>
          simp only [List.getLast?_singleton,
            Option.some.injEq] at hLast
          simp [gapSum, hLast]
      | cons b rest =>
          have hTail :
              (b :: rest).getLast? = some last := by
            simpa using hLast
          have hRest := ih hTail
          simp only [List.cons_append, gapSum] at hRest ⊢
          omega

/-
  The gaps and the distinct values of a non-decreasing
  sequence fill the range between its extremes.
-/
theorem gapSum_add_length_dedup
    {first last : Nat}
    {rest : List Nat}
    (hSorted : (first :: rest).Pairwise (· ≤ ·))
    (hLast : (first :: rest).getLast? = some last) :
    gapSum (first :: rest) + (first :: rest).dedup.length =
      last - first + 1 ∧ first ≤ last := by
  induction rest generalizing first with
  | nil =>
      simp only [List.getLast?_singleton,
        Option.some.injEq] at hLast
      subst hLast
      simp
  | cons b rest ih =>
      have hTail : (b :: rest).getLast? = some last := by
        simpa using hLast
      rcases ih hSorted.of_cons hTail with ⟨hSum, hLe⟩
      have hHead : first ≤ b :=
        (List.pairwise_cons.mp hSorted).1 b (by simp)
      by_cases hEq : first = b
      · subst hEq
        rw [List.dedup_cons_of_mem (by simp)]
        simp only [gapSum]
        omega
      · have hNew : first ∉ b :: rest := by
          intro hMem
          rcases List.mem_cons.mp hMem with hB | hRest
          · exact hEq hB
          · have hBack :=
              (List.pairwise_cons.mp hSorted.of_cons).1
                first hRest
            omega
        rw [List.dedup_cons_of_notMem hNew,
          List.length_cons]
        simp only [gapSum]
        omega

/- A gap sum is bounded by the last number. -/
theorem gapSum_le_last
    {numbers : List Nat}
    {last : Nat}
    (hSorted : numbers.Pairwise (· ≤ ·))
    (hLast : numbers.getLast? = some last) :
    gapSum numbers ≤ last := by
  cases numbers with
  | nil => simp at hLast
  | cons first rest =>
      rcases gapSum_add_length_dedup hSorted hLast with
        ⟨hSum, hLe⟩
      have hDistinct :
          0 < (first :: rest).dedup.length := by
        apply List.length_pos_of_mem
        exact List.mem_dedup.mpr List.mem_cons_self
      omega

------------------------------------------------------------
-- Unseen Numbers
------------------------------------------------------------

/- The numbers between the extremes that do not occur. -/
def unseenNumbers (numbers : List Nat) : Finset Nat :=
  (Finset.Ioo (numbers.min?.getD 0)
    (numbers.max?.getD 0)).filter (· ∉ numbers)

/-
  What occurs and what does not fill the range between the
  extremes.
-/
theorem unseenNumbers_card
    {numbers : List Nat}
    {first last : Nat}
    (hFirst : first ∈ numbers)
    (hLast : last ∈ numbers)
    (hRange : ∀ number ∈ numbers,
      first ≤ number ∧ number ≤ last) :
    (unseenNumbers numbers).card + numbers.dedup.length =
      last - first + 1 := by
  have hMin : numbers.min? = some first :=
    List.min?_eq_some_iff.mpr
      ⟨hFirst, fun number hNumber => (hRange number hNumber).1⟩
  have hMax : numbers.max? = some last :=
    List.max?_eq_some_iff.mpr
      ⟨hLast, fun number hNumber => (hRange number hNumber).2⟩
  have hFill :
      unseenNumbers numbers ∪ numbers.toFinset =
        Finset.Icc first last := by
    ext number
    unfold unseenNumbers
    simp only [hMin, hMax, Option.getD_some, Finset.mem_union,
      Finset.mem_filter, Finset.mem_Ioo, List.mem_toFinset,
      Finset.mem_Icc]
    constructor
    · intro hEither
      rcases hEither with ⟨hBetween, -⟩ | hSeen
      · exact ⟨hBetween.1.le, hBetween.2.le⟩
      · exact hRange number hSeen
    · intro hBetween
      by_cases hSeen : number ∈ numbers
      · exact Or.inr hSeen
      · left
        have hNotFirst : number ≠ first := by
          intro hIs
          exact hSeen (hIs ▸ hFirst)
        have hNotLast : number ≠ last := by
          intro hIs
          exact hSeen (hIs ▸ hLast)
        exact ⟨⟨by omega, by omega⟩, hSeen⟩
  have hDisjoint :
      Disjoint (unseenNumbers numbers) numbers.toFinset := by
    rw [Finset.disjoint_left]
    intro number hUnseen hSeen
    exact (Finset.mem_filter.mp hUnseen).2
      (List.mem_toFinset.mp hSeen)
  have hLe := (hRange last hLast).1
  rw [← List.card_toFinset,
    ← Finset.card_union_of_disjoint hDisjoint, hFill,
    Nat.card_Icc]
  omega

------------------------------------------------------------
-- Numbers Out Of Place
------------------------------------------------------------

/- The positions of numbers that stand behind an earlier one. -/
def positionsBehind
    (behind : Nat → Nat → Prop)
    [DecidableRel behind]
    (numbers : List Nat) : Finset Nat :=
  (Finset.range numbers.length).filter (fun i =>
    ∃ j < i, behind (numbers.getD i 0) (numbers.getD j 0))

theorem positionsBehind_card_append_singleton
    (behind : Nat → Nat → Prop)
    [DecidableRel behind]
    (numbers : List Nat)
    (number : Nat) :
    (positionsBehind behind (numbers ++ [number])).card =
      (positionsBehind behind numbers).card +
        (if ∃ earlier ∈ numbers, behind number earlier then
          1
        else
          0) := by
  have hGet :
      ∀ i < numbers.length,
        (numbers ++ [number]).getD i 0 = numbers.getD i 0 := by
    intro i hI
    rw [List.getD_append _ _ _ _ hI]
  have hEnd :
      (numbers ++ [number]).getD numbers.length 0 = number := by
    rw [List.getD_append_right _ _ _ _ (Nat.le_refl _)]
    simp
  have hBefore :
      (Finset.range numbers.length).filter (fun i =>
          ∃ j < i,
            behind ((numbers ++ [number]).getD i 0)
              ((numbers ++ [number]).getD j 0)) =
        positionsBehind behind numbers := by
    apply Finset.filter_congr
    intro i hI
    rw [Finset.mem_range] at hI
    rw [hGet i hI]
    constructor
    · intro hSome
      rcases hSome with ⟨j, hJ, hBehind⟩
      rw [hGet j (hJ.trans hI)] at hBehind
      exact ⟨j, hJ, hBehind⟩
    · intro hSome
      rcases hSome with ⟨j, hJ, hBehind⟩
      rw [← hGet j (hJ.trans hI)] at hBehind
      exact ⟨j, hJ, hBehind⟩
  have hLast :
      (∃ j < numbers.length,
          behind ((numbers ++ [number]).getD numbers.length 0)
            ((numbers ++ [number]).getD j 0)) ↔
        ∃ earlier ∈ numbers, behind number earlier := by
    rw [hEnd]
    constructor
    · intro hSome
      rcases hSome with ⟨j, hJ, hBehind⟩
      rw [hGet j hJ, List.getD_eq_getElem _ _ hJ] at hBehind
      exact ⟨numbers[j], List.getElem_mem hJ, hBehind⟩
    · intro hSome
      rcases hSome with ⟨earlier, hEarlier, hBehind⟩
      rcases List.getElem_of_mem hEarlier with ⟨j, hJ, hIs⟩
      refine ⟨j, hJ, ?_⟩
      rw [hGet j hJ, List.getD_eq_getElem _ _ hJ, hIs]
      exact hBehind
  unfold positionsBehind at hBefore ⊢
  rw [List.length_append, List.length_singleton,
    Finset.range_add_one, Finset.filter_insert, hBefore]
  by_cases hSome : ∃ earlier ∈ numbers, behind number earlier
  · rw [if_pos (hLast.mpr hSome), if_pos hSome,
      Finset.card_insert_of_notMem (by simp)]
  · rw [if_neg (fun h => hSome (hLast.mp h)), if_neg hSome,
      Nat.add_zero]

theorem positionsBehind_card_le
    (behind : Nat → Nat → Prop)
    [DecidableRel behind]
    (numbers : List Nat) :
    (positionsBehind behind numbers).card ≤ numbers.length := by
  have hFilter := Finset.card_filter_le
    (Finset.range numbers.length) (fun i =>
      ∃ j < i, behind (numbers.getD i 0) (numbers.getD j 0))
  rw [Finset.card_range] at hFilter
  exact hFilter

------------------------------------------------------------
-- Spaced Times
------------------------------------------------------------

/- Every time is a distance behind all before it. -/
def Spaced (distance : Nat) (times : List Int) : Prop :=
  times.Pairwise (fun earlier later : Int =>
    earlier + (distance : Int) ≤ later)

theorem Spaced.append_singleton
    {distance : Nat}
    {times : List Int}
    {time : Int}
    (hTimes : Spaced distance times)
    (hTime : ∀ earlier ∈ times, earlier + distance ≤ time) :
    Spaced distance (times ++ [time]) := by
  unfold Spaced
  rw [List.pairwise_append]
  refine ⟨hTimes, List.pairwise_singleton _ _, ?_⟩
  intro earlier hEarlier later hLater
  rw [List.mem_singleton.mp hLater]
  exact hTime earlier hEarlier

/- The distances behind the first time add up. -/
theorem Spaced.mul_length_le
    {distance : Nat}
    {first last : Int}
    {times : List Int}
    (hTimes : Spaced distance (first :: times))
    (hLast : ∀ time ∈ first :: times, time ≤ last) :
    first + (distance * times.length : Nat) ≤ last := by
  induction times generalizing first with
  | nil => simpa using hLast first (List.mem_singleton_self _)
  | cons next times ih =>
      have hParts := List.pairwise_cons.mp hTimes
      have hNext :=
        ih hParts.2 (List.forall_mem_cons.mp hLast).2
      have hFirst := hParts.1 next List.mem_cons_self
      rw [List.length_cons, Nat.mul_succ]
      omega

/- How many times there can be within a window. -/
theorem Spaced.length_le
    {distance window : Nat}
    (hDistance : 0 < distance)
    {opening : Int}
    {times : List Int}
    (hTimes : Spaced distance times)
    (hWindow :
      ∀ time ∈ times, opening ≤ time ∧ time ≤ opening + window) :
    times.length ≤ window / distance + 1 := by
  cases times with
  | nil => exact Nat.zero_le _
  | cons first times =>
      have hSum :=
        hTimes.mul_length_le (fun time hIn => (hWindow time hIn).2)
      have hFirst := (hWindow first List.mem_cons_self).1
      rw [List.length_cons, Nat.add_le_add_iff_right,
        Nat.le_div_iff_mul_le hDistance, Nat.mul_comm]
      omega
