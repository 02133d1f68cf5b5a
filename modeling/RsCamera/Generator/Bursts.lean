import Mathlib.Analysis.Real.Sqrt
import Mathlib.Data.List.SplitBy
import RsCamera.Generator.Jobs
import RsCamera.Lib.Sorted

/-
  Bursts of activations: where the logical jobs of a thread
  are cut, and how many there are.

  The cut is found among the sorted distances and applied to
  the distances in the order of the activations. No distance
  lies between the two around the cut, so it is the same to
  ask whether a distance reaches their geometric mean or the
  larger one of them.

  Key definitions include:
    * `releaseGaps`, `positiveGaps`

  Key theorems include:
    * `bestGap_spec`
    * `burstThreshold_cut`
    * `splitLogicalJobs_eq_splitBy`
    * `splitLogicalJobs_cut_between_bursts`
-/

------------------------------------------------------------
-- The Largest Ratio
------------------------------------------------------------

namespace RsCamera

namespace Generator

/-
  Two neighbours of the list, whose ratio is larger than the
  bound, are found at their position.
-/
def FoundGap
    (values : List Int)
    (index : Nat)
    (bound : ℚ)
    (found : ℚ × Option (Nat × Threshold)) : Prop :=
  ∃ (before after : List Int) (low high : Int),
    values = before ++ low :: high :: after ∧
      0 < low ∧
      bound < (high : ℚ) / low ∧
      found =
        ((high : ℚ) / low,
          some (index + before.length, ⟨low, high⟩))

theorem FoundGap.cons
    {values : List Int}
    {index : Nat}
    {bound : ℚ}
    {found : ℚ × Option (Nat × Threshold)}
    (hFound : FoundGap values (index + 1) bound found)
    (first : Int) :
    FoundGap (first :: values) index bound found := by
  rcases hFound with
    ⟨before, after, low, high, hAt, hLow, hMore, hIs⟩
  refine ⟨first :: before, after, low, high,
    by simp [hAt], hLow, hMore, ?_⟩
  have hPlace :
      index + 1 + before.length =
        index + (first :: before).length := by
    simp only [List.length_cons]
    omega
  simpa only [hPlace] using hIs

/-
  The search leaves its best so far, or ends with a pair of
  neighbours whose ratio is larger.
-/
theorem bestGap_spec
    (values : List Int)
    (index : Nat)
    (best : ℚ × Option (Nat × Threshold)) :
    bestGap values index best = best ∨
      FoundGap values index best.1
        (bestGap values index best) := by
  induction values generalizing index best with
  | nil => exact Or.inl rfl
  | cons low rest ih =>
      cases rest with
      | nil => exact Or.inl rfl
      | cons high rest =>
          simp only [bestGap]
          split
          next hLow =>
            exact (ih (index + 1) best).imp_right
              (fun hFound => hFound.cons low)
          next hLow =>
            split
            next hMore =>
              right
              rcases ih (index + 1)
                  ((high : ℚ) / low,
                    some (index, ⟨low, high⟩)) with
                hSame | hFound
              · exact ⟨[], rest, low, high, rfl,
                  Int.not_le.mp hLow, hMore, by simpa using hSame⟩
              · rcases hFound.cons low with
                  ⟨before, after, a, b, hAt, hA, hMost, hIs⟩
                exact ⟨before, after, a, b, hAt, hA,
                  hMore.trans hMost, hIs⟩
            next hLess =>
              exact (ih (index + 1) best).imp_right
                (fun hFound => hFound.cons low)

/-
  A threshold lies between two neighbours of the sorted
  distances, with enough of them on either side.
-/
theorem burstThreshold_cut
    {positive : List Int}
    {threshold : Threshold}
    (hSome : burstThreshold positive = some threshold) :
    ∃ before after : List Int,
      positive =
        before ++ threshold.low :: threshold.high :: after ∧
      0 < threshold.low ∧
      threshold.low < threshold.high ∧
      1 ≤ after.length ∧
      ((after.length + 1 : Nat) : ℚ) ≤
        9 / 10 * (positive.length : ℚ) := by
  unfold burstThreshold at hSome
  split at hSome
  · cases hSome
  next hEnough =>
    rcases bestGap_spec positive 0 (1, none) with
      hNone | ⟨before, after, low, high, hAt, hLow, hMore, hIs⟩
    · simp only [hNone] at hSome
      cases hSome
    · simp only [hIs] at hSome
      split at hSome
      next hGuard =>
        rcases hGuard with ⟨-, hTwo, -, hMost⟩
        cases Option.some.inj hSome
        have hCount :
            positive.length - (0 + before.length) - 1 =
              after.length + 1 := by
          simp only [hAt, List.length_append,
            List.length_cons]
          omega
        rw [hCount] at hTwo hMost
        have hLength : (0 : ℚ) < (positive.length : ℚ) := by
          exact_mod_cast (by omega : 0 < positive.length)
        have hLowRat : (0 : ℚ) < (low : ℚ) := by
          exact_mod_cast hLow
        refine ⟨before, after, hAt, hLow, ?_, by omega, ?_⟩
        · have hRatio : (low : ℚ) < (high : ℚ) := by
            simpa using (lt_div_iff₀ hLowRat).mp hMore
          exact_mod_cast hRatio
        · exact (div_le_iff₀ hLength).mp hMost
      · cases hSome

------------------------------------------------------------
-- The Jobs As Runs
------------------------------------------------------------

/- The activations in the order of their release. -/
def inReleaseOrder
    (activations : List Activation) : List Activation :=
  activations.insertionSort
    (fun left right => left.releaseNs ≤ right.releaseNs)

/- The distances between consecutive activations. -/
def releaseGaps (activations : List Activation) : List Int :=
  deltas ((inReleaseOrder activations).map
    Activation.releaseNs)

/- The positive distances in increasing order. -/
def positiveGaps (activations : List Activation) : List Int :=
  ((releaseGaps activations).filter
      (fun delta => 0 < delta)).insertionSort
    (fun left right => left ≤ right)

theorem groupLoop_eq_splitBy_loop
    (threshold : Option Threshold)
    (previous : Activation)
    (current : List Activation)
    (jobs : List (List Activation))
    (rest : List Activation) :
    groupLoop threshold previous
        (current.reverse ++ [previous]) jobs.reverse rest =
      List.splitBy.loop
        (fun first next =>
          !startsJob threshold
            (next.releaseNs - first.releaseNs))
        rest previous current jobs := by
  induction rest generalizing previous current jobs with
  | nil => simp [groupLoop, List.splitBy.loop]
  | cons next rest ih =>
      simp only [groupLoop, List.splitBy.loop]
      cases startsJob threshold
        (next.releaseNs - previous.releaseNs)
      · have hSame := ih next (previous :: current) jobs
        simpa using hSame
      · have hNew := ih next []
          ((previous :: current).reverse :: jobs)
        simpa using hNew

/-
  The jobs are the runs of the ordered activations, cut where
  an activation starts a job.
-/
theorem splitLogicalJobs_eq_splitBy
    (activations : List Activation) :
    splitLogicalJobs activations =
      ((inReleaseOrder activations).splitBy
          (fun first next =>
            !startsJob
              (burstThreshold (positiveGaps activations))
              (next.releaseNs - first.releaseNs)),
        burstThreshold (positiveGaps activations)) := by
  unfold splitLogicalJobs positiveGaps releaseGaps
  split
  next hNone =>
    have hEmpty : inReleaseOrder activations = [] := hNone
    simp [hEmpty, deltas, burstThreshold, List.splitBy]
  next first rest hSome =>
    have hOrder :
        inReleaseOrder activations = first :: rest := hSome
    simp only [hOrder]
    have hLoop := groupLoop_eq_splitBy_loop
      (burstThreshold (((deltas
        ((first :: rest).map Activation.releaseNs)).filter
          (fun delta => 0 < delta)).insertionSort
            (fun left right => left ≤ right)))
      first [] [] rest
    simpa [List.splitBy] using hLoop

/- A list has one run more than it has cuts. -/
theorem groupLoop_length
    (threshold : Option Threshold)
    (previous : Activation)
    (current : List Activation)
    (jobs : List (List Activation))
    (rest : List Activation) :
    (groupLoop threshold previous current jobs rest).length =
      jobs.length + 1 +
        (deltas ((previous :: rest).map
          Activation.releaseNs)).countP
            (startsJob threshold) := by
  induction rest generalizing previous current jobs with
  | nil => simp [groupLoop, deltas]
  | cons next rest ih =>
      simp only [groupLoop, List.map_cons, deltas,
        List.countP_cons]
      split
      next hStarts =>
        simp only [ih, List.length_append, List.length_cons,
          List.length_nil, List.map_cons]
        omega
      next hStays =>
        simp only [ih, List.map_cons]
        omega

theorem splitLogicalJobs_length
    {activations : List Activation}
    (hSome : activations ≠ []) :
    (splitLogicalJobs activations).1.length =
      1 + (releaseGaps activations).countP
        (startsJob (splitLogicalJobs activations).2) := by
  unfold splitLogicalJobs releaseGaps
  split
  next hNone =>
    have hPerm := List.perm_insertionSort
      (fun left right : Activation =>
        left.releaseNs ≤ right.releaseNs) activations
    rw [hNone] at hPerm
    exact absurd hPerm.nil_eq.symm hSome
  next first rest hOrdered =>
    have hOrder :
        inReleaseOrder activations = first :: rest := hOrdered
    simp only [groupLoop_length, hOrder, List.length_nil,
      Nat.zero_add]

------------------------------------------------------------
-- Distances And The Cut
------------------------------------------------------------

theorem inReleaseOrder_stablySorted
    (activations : List Activation) :
    StablySorted Activation.releaseNs activations
      (inReleaseOrder activations) :=
  insertionSort_stablySorted Activation.releaseNs activations

theorem deltas_nonneg
    {values : List Int}
    (hSorted : values.Pairwise (· ≤ ·)) :
    ∀ delta ∈ deltas values, 0 ≤ delta := by
  induction values with
  | nil => simp [deltas]
  | cons first rest ih =>
      cases rest with
      | nil => simp [deltas]
      | cons second rest =>
          rcases List.pairwise_cons.mp hSorted with
            ⟨hFirst, hRest⟩
          intro delta hDelta
          simp only [deltas, List.mem_cons] at hDelta
          rcases hDelta with hIs | hIn
          · have hStep := hFirst second List.mem_cons_self
            omega
          · exact ih hRest delta (by simpa using hIn)

theorem releaseGaps_nonneg
    (activations : List Activation) :
    ∀ delta ∈ releaseGaps activations, 0 ≤ delta := by
  apply deltas_nonneg
  exact List.pairwise_map.mpr
    (inReleaseOrder_stablySorted activations).sorted

variable {activations : List Activation}
variable {threshold : Threshold}

theorem mem_positiveGaps
    {delta : Int} :
    delta ∈ positiveGaps activations ↔
      delta ∈ releaseGaps activations ∧ 0 < delta := by
  simp [positiveGaps, List.mem_insertionSort]

theorem positiveGaps_sorted
    (activations : List Activation) :
    (positiveGaps activations).Pairwise (· ≤ ·) :=
  List.pairwise_insertionSort _ _

/- As many distances reach a positive bound in both lists. -/
theorem positiveGaps_countP
    (activations : List Activation)
    {bound : Int}
    (hBound : 0 < bound) :
    (positiveGaps activations).countP
        (fun delta => bound ≤ delta) =
      (releaseGaps activations).countP
        (fun delta => bound ≤ delta) := by
  have hPerm :=
    List.perm_insertionSort (fun left right => left ≤ right)
      ((releaseGaps activations).filter
        (fun delta => 0 < delta))
  have hFilter :
      ((releaseGaps activations).filter
          (fun delta => 0 < delta)).countP
            (fun delta => bound ≤ delta) =
        (releaseGaps activations).countP
          (fun delta => bound ≤ delta) := by
    rw [List.countP_filter]
    apply List.countP_congr
    intro delta _
    simp only [Bool.and_eq_true, decide_eq_true_eq]
    omega
  exact (hPerm.countP_eq _).trans hFilter

/- Being at least the square root, in whole numbers. -/
theorem reachedBy_iff_sqrt_le
    (threshold : Threshold)
    (delta : Int) :
    threshold.reachedBy delta = true ↔
      √((threshold.low : ℝ) * threshold.high) ≤ (delta : ℝ) := by
  simp only [Threshold.reachedBy, decide_eq_true_eq,
    Real.sqrt_le_iff]
  norm_cast
  rw [sq]

/- No distance lies between the two around the cut. -/
theorem le_or_le_of_cut
    {positive before after : List Int}
    {low high : Int}
    (hSorted : positive.Pairwise (· ≤ ·))
    (hAt : positive = before ++ low :: high :: after) :
    ∀ delta ∈ positive, delta ≤ low ∨ high ≤ delta := by
  subst hAt
  rcases List.pairwise_append.mp hSorted with
    ⟨-, hRest, hAcross⟩
  rcases List.pairwise_cons.mp hRest with ⟨-, hHigh⟩
  intro delta hDelta
  rcases List.mem_append.mp hDelta with hBefore | hFrom
  · exact Or.inl (hAcross delta hBefore low List.mem_cons_self)
  · rcases List.mem_cons.mp hFrom with hLow | hAfter
    · exact Or.inl hLow.le
    · rcases List.mem_cons.mp hAfter with hIs | hLater
      · exact Or.inr hIs.ge
      · exact Or.inr
          ((List.pairwise_cons.mp hHigh).1 delta hLater)

/- The distances that reach the upper one stand behind it. -/
theorem countP_of_cut
    {positive before after : List Int}
    {low high : Int}
    (hSorted : positive.Pairwise (· ≤ ·))
    (hAt : positive = before ++ low :: high :: after)
    (hLt : low < high) :
    positive.countP (fun delta => high ≤ delta) =
      after.length + 1 := by
  subst hAt
  rcases List.pairwise_append.mp hSorted with
    ⟨-, hRest, hAcross⟩
  have hBefore :
      before.countP (fun delta => high ≤ delta) = 0 := by
    apply List.countP_eq_zero.mpr
    intro delta hDelta
    have hLe := hAcross delta hDelta low List.mem_cons_self
    simp only [decide_eq_true_eq]
    omega
  have hAfter :
      after.countP (fun delta => high ≤ delta) =
        after.length := by
    apply List.countP_eq_length.mpr
    intro delta hDelta
    have hHigh := (List.pairwise_cons.mp hRest).2
    simpa using (List.pairwise_cons.mp hHigh).1 delta hDelta
  have hLow : ¬ high ≤ low := by omega
  simp [hBefore, hAfter, hLow]

/-
  A distance on one side of the cut reaches the square root
  exactly if it reaches the larger number.
-/
theorem mul_le_mul_self_iff_of_cut
    {low high delta : Int}
    (hLow : 0 < low)
    (hLt : low < high)
    (hDelta : 0 ≤ delta)
    (hSide : delta ≤ low ∨ high ≤ delta) :
    low * high ≤ delta * delta ↔ high ≤ delta := by
  constructor
  · intro hReaches
    rcases hSide with hBelow | hAbove
    · have hSmall : delta * delta < low * high := by
        nlinarith
      omega
    · exact hAbove
  · intro hAbove
    nlinarith

/- The cut of the activations of a thread, in its terms. -/
theorem splitLogicalJobs_cut
    (hSome :
      (splitLogicalJobs activations).2 = some threshold) :
    ∃ before after : List Int,
      positiveGaps activations =
        before ++ threshold.low :: threshold.high :: after ∧
      0 < threshold.low ∧
      threshold.low < threshold.high ∧
      1 ≤ after.length ∧
      ((after.length + 1 : Nat) : ℚ) ≤
        9 / 10 * ((positiveGaps activations).length : ℚ) := by
  rw [splitLogicalJobs_eq_splitBy] at hSome
  exact burstThreshold_cut hSome

theorem reachedBy_iff_of_cut
    (hSome :
      (splitLogicalJobs activations).2 = some threshold)
    {delta : Int}
    (hDelta : delta ∈ releaseGaps activations) :
    (threshold.reachedBy delta = true ↔
        threshold.low * threshold.high ≤ delta * delta) ∧
      (threshold.reachedBy delta = true ↔
        threshold.high ≤ delta) := by
  rcases splitLogicalJobs_cut hSome with
    ⟨before, after, hAt, hLow, hLt, -, -⟩
  have hNonneg := releaseGaps_nonneg activations delta hDelta
  have hReached :
      threshold.reachedBy delta = true ↔
        threshold.low * threshold.high ≤ delta * delta := by
    simp only [Threshold.reachedBy, decide_eq_true_eq]
    exact and_iff_right hNonneg
  have hSide :
      delta ≤ threshold.low ∨ threshold.high ≤ delta := by
    by_cases hZero : delta = 0
    · exact Or.inl (by omega)
    · exact le_or_le_of_cut (positiveGaps_sorted activations)
        hAt delta
        (mem_positiveGaps.mpr ⟨hDelta, by omega⟩)
  exact ⟨hReached, hReached.trans
    (mul_le_mul_self_iff_of_cut hLow hLt hNonneg hSide)⟩

/- The number of groups, for a threshold that was chosen. -/
theorem splitLogicalJobs_length_of_cut
    (hSome :
      (splitLogicalJobs activations).2 = some threshold) :
    (splitLogicalJobs activations).1.length =
      1 + (releaseGaps activations).countP
        (fun delta => threshold.high ≤ delta) := by
  have hNonempty : activations ≠ [] := by
    intro hNone
    simp [hNone, splitLogicalJobs] at hSome
  rw [splitLogicalJobs_length hNonempty, hSome]
  congr 1
  apply List.countP_congr
  intro delta hDelta
  simp only [startsJob, decide_eq_true_eq]
  exact (reachedBy_iff_of_cut hSome hDelta).2

/- Without a threshold every activation starts a job. -/
theorem groupLoop_none
    (previous : Activation)
    (jobs : List (List Activation))
    (rest : List Activation) :
    groupLoop none previous [previous] jobs rest =
      jobs ++ (previous :: rest).map
        (fun activation => [activation]) := by
  induction rest generalizing previous jobs with
  | nil => rfl
  | cons next rest ih =>
      simp [groupLoop, startsJob, ih]

theorem splitLogicalJobs_of_none
    (hNone : (splitLogicalJobs activations).2 = none) :
    (splitLogicalJobs activations).1 =
      (inReleaseOrder activations).map
        (fun activation => [activation]) := by
  unfold splitLogicalJobs at hNone ⊢
  split
  next hEmpty =>
    have hOrder : inReleaseOrder activations = [] := hEmpty
    simp [hOrder]
  next first rest hOrdered =>
    have hOrder :
        inReleaseOrder activations = first :: rest := hOrdered
    simp only [hOrdered] at hNone
    simp only [hNone, groupLoop_none, hOrder, List.nil_append]

/-
  Whatever the activations: no group is empty, together they
  are the activations stably sorted by release, and they are
  cut where two consecutive ones are at least as far apart as
  the larger of the two distances around the threshold.
-/
theorem splitLogicalJobs_cut_between_bursts
    (activations : List Activation) :
    let groups := (splitLogicalJobs activations).1
    (∀ group ∈ groups, group ≠ []) ∧
      StablySorted Activation.releaseNs activations
        groups.flatten ∧
      ((splitLogicalJobs activations).2 = none →
        groups =
          groups.flatten.map (fun activation =>
            [activation])) ∧
      ∀ threshold,
        (splitLogicalJobs activations).2 = some threshold →
        threshold.low < threshold.high ∧
        [threshold.low, threshold.high] <:+:
          positiveGaps activations ∧
        groups =
          groups.flatten.splitBy (fun first next =>
            !threshold.reachedBy
              (next.releaseNs - first.releaseNs)) ∧
        (∀ delta ∈ releaseGaps activations,
          (threshold.reachedBy delta = true ↔
            √((threshold.low : ℝ) * threshold.high) ≤
              (delta : ℝ)) ∧
          (threshold.reachedBy delta = true ↔
            threshold.low * threshold.high ≤
              delta * delta) ∧
          (threshold.reachedBy delta = true ↔
            threshold.high ≤ delta)) ∧
        groups.length =
          1 + (releaseGaps activations).countP
            (fun delta => threshold.high ≤ delta) ∧
        3 ≤ groups.length ∧
        (groups.length : ℚ) ≤
          1 + 9 / 10 *
            ((releaseGaps activations).countP
              (fun delta => 0 < delta) : ℚ) := by
  have hSplit := splitLogicalJobs_eq_splitBy activations
  have hFlat :
      (splitLogicalJobs activations).1.flatten =
        inReleaseOrder activations :=
    splitLogicalJobs_flatten activations
  simp only [hFlat]
  refine ⟨?_, inReleaseOrder_stablySorted activations,
    splitLogicalJobs_of_none, ?_⟩
  · intro group hGroup
    rw [hSplit] at hGroup
    exact List.ne_nil_of_mem_splitBy hGroup
  · intro threshold hSome
    rcases splitLogicalJobs_cut hSome with
      ⟨before, after, hAt, hLow, hLt, hTwo, hMost⟩
    have hLength := splitLogicalJobs_length_of_cut hSome
    have hUpper :
        (releaseGaps activations).countP
            (fun delta => threshold.high ≤ delta) =
          after.length + 1 := by
      rw [← positiveGaps_countP activations
        (hLow.trans hLt)]
      exact countP_of_cut (positiveGaps_sorted activations)
        hAt hLt
    have hPositive :
        (positiveGaps activations).length =
          (releaseGaps activations).countP
            (fun delta => 0 < delta) := by
      simp [positiveGaps, List.countP_eq_length_filter]
    refine ⟨hLt, ⟨before, after, by simp [hAt]⟩, ?_, ?_,
      hLength, by omega, ?_⟩
    · have hThreshold :
          burstThreshold (positiveGaps activations) =
            some threshold := by
        rw [hSplit] at hSome
        exact hSome
      rw [hSplit, hThreshold]
      rfl
    · intro delta hDelta
      exact ⟨reachedBy_iff_sqrt_le threshold delta,
        reachedBy_iff_of_cut hSome hDelta⟩
    · rw [hLength, hUpper, ← hPositive]
      push_cast at hMost ⊢
      linarith

/- Six activations in three bursts. -/
def burstyActivations : List Activation :=
  [0, 1, 2, 102, 103, 203].map (fun release =>
    { tid := 7, releaseNs := release, executionMs := 1 })

theorem burstyActivations_cut :
    (splitLogicalJobs burstyActivations).2 = some ⟨1, 100⟩ ∧
      (splitLogicalJobs burstyActivations).1.length =
        1 + (releaseGaps burstyActivations).countP
          (fun delta => (100 : Int) ≤ delta) := by
  have hCut :
      (splitLogicalJobs burstyActivations).2 =
        some ⟨1, 100⟩ := by
    decide +kernel
  have hAll :=
    splitLogicalJobs_cut_between_bursts burstyActivations
  exact ⟨hCut, (hAll.2.2.2 ⟨1, 100⟩ hCut).2.2.2.2.1⟩

end Generator

end RsCamera
