import Mathlib.Algebra.Order.Ring.Rat
import Mathlib.Data.List.Sort
import Mathlib.Data.Prod.Lex
import RsCamera.Lib.Clusters
import RsCamera.Trace.Intervals

/-
  The bursts of a thread inside a window
  (`merge_running_bursts` in `build_startup_model.py`).

  The running intervals are clipped to the window, sorted and
  joined where the gap between them is small.  Times in
  milliseconds are rational.

  Key definitions include:
    * `clipped`, `runningSpans`
    * `mergeRunningBursts`
    * `Meets`

  Key theorems include:
    * `runningSpans_perm`
    * `joined_runningSpans`
    * `mergeRunningBursts_spec`
-/

------------------------------------------------------------
-- Bursts
------------------------------------------------------------

namespace RsCamera

namespace Startup

section

open Trace (Interval SchedState)

/- The part of an interval inside the window. -/
def clipped
    (windowStartMs windowEndMs : ℚ)
    (row : Interval) : ℚ × ℚ :=
  (max row.startMs windowStartMs, min row.endMs windowEndMs)

/- The generator, before it is sorted. -/
def clippedRunning
    (intervals : List Interval)
    (windowStartMs windowEndMs : ℚ) : List (ℚ × ℚ) :=
  (intervals.filter (fun row =>
    row.state = .running ∧ row.endMs ≥ windowStartMs ∧
      row.startMs ≤ windowEndMs)).map
    (clipped windowStartMs windowEndMs)

/- Pairs are compared by their starts, then by their ends. -/
def runningSpans
    (intervals : List Interval)
    (windowStartMs windowEndMs : ℚ) : List (ℚ × ℚ) :=
  (clippedRunning intervals windowStartMs
    windowEndMs).insertionSort (fun left right =>
      toLex left ≤ toLex right)

/- The newest burst is the first until the loop is over. -/
def mergeRunningBursts
    (intervals : List Interval)
    (windowStartMs windowEndMs mergeGapMs : ℚ) :
    List (ℚ × ℚ) :=
  ((runningSpans intervals windowStartMs windowEndMs).foldl
    (fun bursts span =>
      if span.2 < span.1 then
        bursts
      else
        Clusters.extend mergeGapMs bursts span)
    []).reverse

/- The interval and the window have an instant in common. -/
def Meets
    (windowStartMs windowEndMs : ℚ)
    (row : Interval) : Prop :=
  ∃ instant,
    row.startMs ≤ instant ∧ instant ≤ row.endMs ∧
      windowStartMs ≤ instant ∧ instant ≤ windowEndMs

end

------------------------------------------------------------
-- What The Bursts Are
------------------------------------------------------------

open Trace (Interval SchedState)

section Window

variable {windowStartMs windowEndMs : ℚ}

theorem meets_iff_clipped
    {row : Interval} :
    Meets windowStartMs windowEndMs row ↔
      (clipped windowStartMs windowEndMs row).1 ≤
        (clipped windowStartMs windowEndMs row).2 := by
  simp only [Meets, clipped, max_le_iff, le_min_iff]
  constructor
  · intro hMeets
    rcases hMeets with ⟨instant, hStart, hEnd, hOpen, hClose⟩
    exact ⟨⟨hStart.trans hEnd, hOpen.trans hEnd⟩,
      hStart.trans hClose, hOpen.trans hClose⟩
  · intro hClipped
    rcases hClipped with ⟨⟨hRow, hLast⟩, hFirst, hWindow⟩
    exact ⟨max row.startMs windowStartMs, le_max_left _ _,
      max_le hRow hLast, le_max_right _ _,
      max_le hFirst hWindow⟩

/- The spans that the loop does not skip. -/
def meetingSpans
    (intervals : List Interval)
    (windowStartMs windowEndMs : ℚ) : List (ℚ × ℚ) :=
  (runningSpans intervals windowStartMs windowEndMs).filter
    (fun span => span.1 ≤ span.2)

theorem mem_meetingSpans
    {intervals : List Interval}
    {span : ℚ × ℚ} :
    span ∈ meetingSpans intervals windowStartMs windowEndMs ↔
      ∃ row ∈ intervals,
        row.state = .running ∧
          Meets windowStartMs windowEndMs row ∧
          span = clipped windowStartMs windowEndMs row := by
  simp only [meetingSpans, runningSpans, clippedRunning,
    List.mem_filter, List.mem_insertionSort, List.mem_map,
    decide_eq_true_eq]
  constructor
  · intro hSpan
    rcases hSpan with ⟨⟨row, ⟨hRow, hRunning, -⟩, hIs⟩, hLe⟩
    subst hIs
    exact ⟨row, hRow, hRunning, meets_iff_clipped.mpr hLe, rfl⟩
  · intro hSpan
    rcases hSpan with ⟨row, hRow, hRunning, hMeets, hIs⟩
    subst hIs
    refine ⟨⟨row, ⟨hRow, hRunning, ?_⟩, rfl⟩,
      meets_iff_clipped.mp hMeets⟩
    rcases hMeets with ⟨instant, hStart, hEnd, hOpen, hClose⟩
    exact ⟨hOpen.trans hEnd, hStart.trans hClose⟩

theorem mergeRunningBursts_eq_join
    (intervals : List Interval)
    (mergeGapMs : ℚ) :
    mergeRunningBursts intervals windowStartMs windowEndMs
        mergeGapMs =
      (Clusters.join mergeGapMs
        (meetingSpans intervals windowStartMs
          windowEndMs)).reverse := by
  unfold mergeRunningBursts Clusters.join meetingSpans
  rw [List.foldl_filter]
  congr 2
  funext bursts span
  by_cases hSkip : span.2 < span.1
  · simp [hSkip, not_le.mpr hSkip]
  · simp [hSkip, not_lt.mp hSkip]

theorem joined_meetingSpans
    (intervals : List Interval)
    {mergeGapMs : ℚ}
    (hGap : 0 ≤ mergeGapMs) :
    Clusters.Joined mergeGapMs
      (meetingSpans intervals windowStartMs windowEndMs)
      (Clusters.join mergeGapMs
        (meetingSpans intervals windowStartMs
          windowEndMs)) := by
  apply Clusters.join_joined hGap
  · intro span hSpan
    simpa using (List.mem_filter.mp hSpan).2
  · apply List.Pairwise.filter
    apply (List.pairwise_insertionSort _ _).imp
    intro left right hLe
    exact (Prod.Lex.toLex_le_toLex'.mp hLe).1

/- The sorted spans do not depend on the order of the rows. -/
theorem runningSpans_perm
    {intervals shuffled : List Interval}
    (hShuffled : shuffled.Perm intervals) :
    runningSpans shuffled windowStartMs windowEndMs =
      runningSpans intervals windowStartMs windowEndMs := by
  have hSpans :
      (clippedRunning shuffled windowStartMs windowEndMs).Perm
        (clippedRunning intervals windowStartMs
          windowEndMs) :=
    (hShuffled.filter _).map _
  apply List.Perm.eq_of_pairwise
  · intro left right _ _ hLeft hRight
    exact toLex_inj.mp (le_antisymm hLeft hRight)
  · exact List.pairwise_insertionSort _ _
  · exact List.pairwise_insertionSort _ _
  · exact ((List.perm_insertionSort _ _).trans hSpans).trans
      (List.perm_insertionSort _ _).symm

end Window

/-
  The bursts are in order and farther apart than the gap, each
  clipped running interval lies in one of them and no other,
  both ends of a burst are ends of such intervals, and the
  order of the rows does not matter.
-/
theorem mergeRunningBursts_spec
    (intervals : List Interval)
    (windowStartMs windowEndMs mergeGapMs : ℚ)
    (hGap : 0 ≤ mergeGapMs) :
    let bursts :=
      mergeRunningBursts intervals windowStartMs windowEndMs
        mergeGapMs
    (∀ burst ∈ bursts, burst.1 ≤ burst.2) ∧
      bursts.Pairwise (fun earlier later =>
        mergeGapMs < later.1 - earlier.2) ∧
      (∀ row ∈ intervals, row.state = .running →
        Meets windowStartMs windowEndMs row →
          ∃! burst, burst ∈ bursts ∧
            burst.1 ≤
              (clipped windowStartMs windowEndMs row).1 ∧
            (clipped windowStartMs windowEndMs row).2 ≤
              burst.2) ∧
      (∀ burst ∈ bursts,
        ∃ row ∈ intervals,
          row.state = .running ∧
            Meets windowStartMs windowEndMs row ∧
            burst.1 =
              (clipped windowStartMs windowEndMs row).1) ∧
      (∀ burst ∈ bursts,
        ∃ row ∈ intervals,
          row.state = .running ∧
            Meets windowStartMs windowEndMs row ∧
            burst.2 =
              (clipped windowStartMs windowEndMs row).2) ∧
      ∀ shuffled : List Interval, shuffled.Perm intervals →
        mergeRunningBursts shuffled windowStartMs windowEndMs
          mergeGapMs = bursts := by
  intro bursts
  have hJoined :=
    @joined_meetingSpans windowStartMs windowEndMs intervals
      mergeGapMs hGap
  have hMem :
      ∀ burst, burst ∈ bursts ↔
        burst ∈ Clusters.join mergeGapMs
          (meetingSpans intervals windowStartMs
            windowEndMs) := by
    intro burst
    simp only [bursts, mergeRunningBursts_eq_join,
      List.mem_reverse]
  refine ⟨?_, ?_, ?_, ?_, ?_, ?_⟩
  · intro burst hBurst
    exact hJoined.filled burst ((hMem burst).mp hBurst)
  · simp only [bursts, mergeRunningBursts_eq_join]
    exact List.pairwise_reverse.mpr hJoined.apart
  · intro row hRow hRunning hMeets
    have hSpan :=
      mem_meetingSpans.mpr
        ⟨row, hRow, hRunning, hMeets, rfl⟩
    have hFilled := meets_iff_clipped.mp hMeets
    rcases hJoined.covers _ hSpan with
      ⟨burst, hBurst, hStart, hEnd⟩
    refine ⟨burst, ⟨(hMem burst).mpr hBurst, hStart, hEnd⟩, ?_⟩
    rintro other ⟨hOther, hOtherStart, hOtherEnd⟩
    exact hJoined.unique hGap ((hMem other).mp hOther) hBurst
      ⟨hOtherStart, hFilled.trans hOtherEnd⟩
      ⟨hStart, hFilled.trans hEnd⟩
  · intro burst hBurst
    rcases hJoined.starts burst ((hMem burst).mp hBurst) with
      ⟨span, hSpan, hIs⟩
    rcases mem_meetingSpans.mp hSpan with
      ⟨row, hRow, hRunning, hMeets, hClipped⟩
    exact ⟨row, hRow, hRunning, hMeets, hClipped ▸ hIs⟩
  · intro burst hBurst
    rcases hJoined.ends burst ((hMem burst).mp hBurst) with
      ⟨span, hSpan, hIs⟩
    rcases mem_meetingSpans.mp hSpan with
      ⟨row, hRow, hRunning, hMeets, hClipped⟩
    exact ⟨row, hRow, hRunning, hMeets, hClipped ▸ hIs⟩
  · intro shuffled hShuffled
    simp only [bursts, mergeRunningBursts,
      runningSpans_perm hShuffled]

/- A running interval of a thread, in milliseconds. -/
def runningRow (startMs endMs : ℚ) : Interval where
  cycle := 1
  tid := 7
  name := ""
  state := .running
  startNs := 0
  endNs := 0
  startMs := startMs
  endMs := endMs
  durationMs := endMs - startMs
  cpu := none
  reason := ""

/- The second interval is nested in the first one. -/
theorem nestedRows_bursts :
    ∃! burst, burst ∈ mergeRunningBursts
        [runningRow 20 30, runningRow 4 6, runningRow 0 10]
        2 40 2 ∧
      burst.1 ≤ 4 ∧ 6 ≤ burst.2 := by
  have hSpec :=
    mergeRunningBursts_spec
      [runningRow 20 30, runningRow 4 6, runningRow 0 10]
      2 40 2 (by decide)
  have hOne :=
    hSpec.2.2.1 (runningRow 4 6) (by simp) rfl
      ⟨4, by decide +kernel⟩
  have hClipped :
      clipped 2 40 (runningRow 4 6) = (4, 6) := by
    decide +kernel
  rwa [hClipped] at hOne

end Startup

end RsCamera
