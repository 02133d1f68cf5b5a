import Mathlib.Data.List.MinMax
import Mathlib.Data.List.Sort
import Mathlib.Data.Rat.Floor

/-
  Logical jobs of a traced thread: how the activations of a
  thread are grouped into jobs, the stable periods between
  jobs and the largest execution of a job
  (`generate_deadline_profile.py`).

  Numbers that the program computes in floating point are
  exact here: milliseconds and ratios are rational, and the
  burst threshold, a square root, is kept by its two factors.

  Key definitions include:
    * `Activation`, `executionNs`, `jobExecutionNs`
    * `splitLogicalJobs`
    * `stablePeriodsNs`, `maximumJobExecutionNs`

  Key theorems include:
    * `splitLogicalJobs_flatten`
    * `maximumJobExecutionNs_eq_ok`
-/

------------------------------------------------------------
-- Activations
------------------------------------------------------------

namespace RsCamera

namespace Generator

/- A row of the table of steady-state activations. -/
structure Activation where
  tid : Int
  releaseNs : Int
  executionMs : ℚ
  partialStart : Bool := false
  partialEnd : Bool := false
deriving Repr, DecidableEq

/- Rounding to the nearest integer, a half to an even one. -/
def roundHalfEven (value : ℚ) : Int :=
  let below := ⌊value⌋
  let fraction := value - below
  if fraction < 1 / 2 then
    below
  else if 1 / 2 < fraction then
    below + 1
  else if below % 2 = 0 then
    below
  else
    below + 1

/- `round(float(row["execution_ms"]) * 1_000_000)`. -/
def Activation.executionNs (row : Activation) : Int :=
  roundHalfEven (row.executionMs * 1000000)

/- The summed execution of the activations of one job. -/
def jobExecutionNs (job : List Activation) : Int :=
  (job.map Activation.executionNs).sum

/- The middle value, or the mean of the two middle ones. -/
def median (values : List Int) : ℚ :=
  let sorted :=
    values.insertionSort (fun left right => left ≤ right)
  let middle := sorted.length / 2
  if sorted.length % 2 = 1 then
    sorted[middle]?.getD 0
  else
    ((sorted[middle - 1]?.getD 0 : ℚ) +
      (sorted[middle]?.getD 0 : ℚ)) / 2

------------------------------------------------------------
-- Logical Jobs
------------------------------------------------------------

/- The burst threshold: the root of the product. -/
structure Threshold where
  low : Int
  high : Int
deriving Repr, DecidableEq

/- Whether a distance is at least the threshold. -/
def Threshold.reachedBy
    (threshold : Threshold)
    (delta : Int) : Bool :=
  0 ≤ delta ∧ threshold.low * threshold.high ≤ delta * delta

/- The distances between neighbours. -/
def deltas : List Int → List Int
| first :: second :: rest =>
    (second - first) :: deltas (second :: rest)
| _ => []

/- The loop that looks for the largest ratio of neighbours. -/
def bestGap :
    List Int → Nat → ℚ × Option (Nat × Threshold) →
      ℚ × Option (Nat × Threshold)
| low :: high :: rest, index, best =>
    bestGap (high :: rest) (index + 1)
      (if low ≤ 0 then
        best
      else if best.1 < (high : ℚ) / low then
        ((high : ℚ) / low, some (index, ⟨low, high⟩))
      else
        best)
| _, _, best => best

/- The threshold between bursts, if the distances have one. -/
def burstThreshold (positive : List Int) : Option Threshold :=
  if positive.length < 4 then
    none
  else
    match bestGap positive 0 (1, none) with
    | (_, none) => none
    | (ratio, some (index, threshold)) =>
        let upperCount := positive.length - index - 1
        let upperFraction : ℚ :=
          (upperCount : ℚ) / (positive.length : ℚ)
        if 4 ≤ ratio ∧ 2 ≤ upperCount ∧
            1 / 20 ≤ upperFraction ∧
            upperFraction ≤ 9 / 10 then
          some threshold
        else
          none

/- Whether an activation starts a job of its own. -/
def startsJob
    (threshold : Option Threshold)
    (delta : Int) : Bool :=
  match threshold with
  | none => true
  | some threshold => threshold.reachedBy delta

/-
  The loop over the activations after the first: the current
  job is the last one, before it stand the jobs that are
  complete.
-/
def groupLoop
    (threshold : Option Threshold) :
    Activation → List Activation →
      List (List Activation) → List Activation →
      List (List Activation)
| _, current, jobs, [] => jobs ++ [current]
| previous, current, jobs, next :: rest =>
    if startsJob threshold
        (next.releaseNs - previous.releaseNs) then
      groupLoop threshold next [next] (jobs ++ [current]) rest
    else
      groupLoop threshold next (current ++ [next]) jobs rest

/-
  `_split_logical_jobs`, which leaves the activations sorted by
  release.
-/
def splitLogicalJobs
    (activations : List Activation) :
    List (List Activation) × Option Threshold :=
  match
    activations.insertionSort
      (fun left right => left.releaseNs ≤ right.releaseNs)
    with
  | [] => ([], none)
  | first :: rest =>
      let positive :=
        ((deltas
          ((first :: rest).map Activation.releaseNs)).filter
            (fun delta => 0 < delta)).insertionSort
          (fun left right => left ≤ right)
      let threshold := burstThreshold positive
      (groupLoop threshold first [first] [] rest, threshold)

------------------------------------------------------------
-- Periods And Executions
------------------------------------------------------------

/- `_stable_periods_ns`: the periods near the median. -/
def stablePeriodsNs
    (groups : List (List Activation)) :
    Except String (List Int) :=
  let releases :=
    groups.filterMap
      (fun group => group.head?.map Activation.releaseNs)
  let periods :=
    (deltas releases).filter (fun period => 0 < period)
  if periods.length < 2 then
    .error "fewer than three complete logical jobs"
  else
    let middle := median periods
    let stable :=
      periods.filter (fun period : Int =>
        4 / 5 * middle ≤ (period : ℚ) ∧
          (period : ℚ) ≤ 6 / 5 * middle)
    if (stable.length : Int) <
        max 2 ⌈(periods.length : ℚ) * (1 / 2)⌉ then
      .error "logical period is not stable enough to model"
    else
      .ok stable

/- `_maximum_job_execution_ns`: the largest demand of a job. -/
def maximumJobExecutionNs
    (groups : List (List Activation)) : Except String Int :=
  let maxima :=
    (groups.filter (fun group => group ≠ [])).map
      jobExecutionNs
  match maxima.max? with
  | none =>
      .error "no positive execution demand was observed"
  | some maximum =>
      if maximum ≤ 0 then
        .error "no positive execution demand was observed"
      else
        .ok maximum

------------------------------------------------------------
-- What The Jobs Hold
------------------------------------------------------------

theorem groupLoop_flatten
    (threshold : Option Threshold)
    (previous : Activation)
    (current : List Activation)
    (jobs : List (List Activation))
    (rest : List Activation) :
    (groupLoop threshold previous current jobs rest).flatten =
      jobs.flatten ++ current ++ rest := by
  induction rest generalizing previous current jobs with
  | nil => simp [groupLoop]
  | cons next rest ih =>
      rw [groupLoop]
      split
      · rw [ih]
        simp
      · rw [ih]
        simp

/- Every activation is in one job, in the order of release. -/
theorem splitLogicalJobs_flatten
    (activations : List Activation) :
    (splitLogicalJobs activations).1.flatten =
      activations.insertionSort
        (fun left right =>
          left.releaseNs ≤ right.releaseNs) := by
  unfold splitLogicalJobs
  split
  next hNone => rw [hNone]; rfl
  next first rest hSome =>
    rw [hSome]
    simp only
    rw [groupLoop_flatten]
    rfl

/- The largest execution is positive and bounds every job. -/
theorem maximumJobExecutionNs_eq_ok
    {groups : List (List Activation)}
    {maximum : Int}
    (hOk : maximumJobExecutionNs groups = .ok maximum) :
    0 < maximum ∧
      ∀ job ∈ groups, jobExecutionNs job ≤ maximum := by
  unfold maximumJobExecutionNs at hOk
  simp only at hOk
  split at hOk
  · cases hOk
  next found hFound =>
    split at hOk
    · cases hOk
    next hPositive =>
      cases Except.ok.inj hOk
      refine ⟨by omega, ?_⟩
      intro job hJob
      by_cases hEmpty : job = []
      · rw [hEmpty]
        simp only [jobExecutionNs, List.map_nil, List.sum_nil]
        omega
      · apply (List.max?_eq_some_iff.mp hFound).2
        apply List.mem_map_of_mem
        exact List.mem_filter.mpr ⟨hJob, by simpa using hEmpty⟩

end Generator

end RsCamera
