import Mathlib.Data.List.Sort
import Mathlib.Tactic.FieldSimp
import Mathlib.Tactic.Ring
import RsCamera.Trace.Intervals

/-
  The activations of a traced thread
  (`activations_from_intervals` in `parse_steady_trace.py`).

  The intervals between two sleeps are one activation.  It is
  released when the first of them starts, and it completes
  when the next sleep starts or the window ends.

  Key definitions include:
    * `OpenActivation`, `ActivationRow`, `Activation`
    * `Grouping`, `Grouping.step`
    * `activationsFromIntervals`, `threadActivations`
    * `Charged`, `Grouped`, `Sequenced`, `Flagged`, `Filled`

  Key theorems include:
    * `Grouping.step_cases`
    * `groupIntervals_charged`, `groupIntervals_sequenced`
    * `threadActivations_account`
-/

------------------------------------------------------------
-- Grouping
------------------------------------------------------------

namespace RsCamera

namespace Trace

/- An activation that has been released. -/
structure OpenActivation where
  tid : Int
  name : String
  releaseNs : Int
  firstRunNs : Option Int := none
  executionMs : ℚ := 0
  readyMs : ℚ := 0
  partialStart : Bool
deriving Repr, DecidableEq

/- An activation that has been completed. -/
structure ActivationRow extends OpenActivation where
  completionNs : Int
  responseMs : ℚ
  partialEnd : Bool
deriving Repr, DecidableEq

/- A numbered row. -/
structure Activation extends ActivationRow where
  activation : Nat
  periodMs : Option ℚ
deriving Repr, DecidableEq

/- What an interval adds to the activation it is part of. -/
def OpenActivation.charge
    (current : OpenActivation)
    (interval : Interval) : OpenActivation :=
  match interval.state with
  | .running =>
      { current with
        executionMs := current.executionMs + interval.durationMs
        firstRunNs :=
          current.firstRunNs.or (some interval.startNs) }
  | .ready =>
      { current with
        readyMs := current.readyMs + interval.durationMs }
  | .sleeping => current

/- The row of an activation that ends. -/
def OpenActivation.complete
    (current : OpenActivation)
    (completionNs : Int)
    (partialEnd : Bool) : ActivationRow :=
  { current with
    completionNs := completionNs
    responseMs :=
      ((completionNs - current.releaseNs : Int) : ℚ) / 1000000
    partialEnd := partialEnd }

/- The variables of the loop. -/
structure Grouping where
  rows : List ActivationRow := []
  current : Option OpenActivation := none
  precededBySleep : Bool := false
deriving Repr, DecidableEq

/- The open activation ends. -/
def Grouping.close
    (grouping : Grouping)
    (completionNs : Int)
    (partialEnd : Bool) : Grouping :=
  match grouping.current with
  | none => grouping
  | some current =>
      { grouping with
        rows :=
          grouping.rows ++
            [current.complete completionNs partialEnd]
        current := none }

/- One interval of the loop. -/
def Grouping.step
    (tid : Int)
    (name : String)
    (grouping : Grouping)
    (interval : Interval) : Grouping :=
  if interval.state = .sleeping then
    { grouping.close interval.startNs false with
      precededBySleep := true }
  else
    match grouping.current with
    | none =>
        let released : OpenActivation :=
          { tid := tid
            name := name
            releaseNs := interval.startNs
            partialStart := !grouping.precededBySleep }
        { grouping with
          current := some (released.charge interval)
          precededBySleep := false }
    | some current =>
        { grouping with
          current := some (current.charge interval) }

/- The loop over sorted intervals. -/
def groupIntervals
    (tid : Int)
    (name : String)
    (sorted : List Interval)
    (windowEnd : Int) : List ActivationRow :=
  ((sorted.foldl (Grouping.step tid name) {}).close
    windowEnd true).rows

/- The rows with their numbers and periods. -/
def numberRows
    (rows : List ActivationRow) : List Activation :=
  (rows.zipIdx 1).map (fun numbered =>
    { numbered.1 with
      activation := numbered.2
      periodMs :=
        if numbered.2 = 1 then
          none
        else
          rows[numbered.2 - 2]?.map (fun previous =>
            ((numbered.1.releaseNs - previous.releaseNs :
              Int) : ℚ) / 1000000) })

/- `activations_from_intervals`. -/
def activationsFromIntervals
    (intervals : List Interval)
    (tid : Int)
    (name : String)
    (windowEnd : Int) : List Activation :=
  numberRows
    (groupIntervals tid name
      (intervals.insertionSort (fun first second =>
        first.startNs ≤ second.startNs))
      windowEnd)

theorem numberRows_toActivationRow
    (rows : List ActivationRow) :
    (numberRows rows).map Activation.toActivationRow =
      rows := by
  unfold numberRows
  rw [List.map_map]
  exact List.zipIdx_map_fst 1 rows

@[simp]
theorem charge_releaseNs
    (current : OpenActivation)
    (interval : Interval) :
    (current.charge interval).releaseNs =
      current.releaseNs := by
  unfold OpenActivation.charge
  cases interval.state <;> rfl

@[simp]
theorem charge_partialStart
    (current : OpenActivation)
    (interval : Interval) :
    (current.charge interval).partialStart =
      current.partialStart := by
  unfold OpenActivation.charge
  cases interval.state <;> rfl

/- What an interval can do to the activations. -/
theorem Grouping.step_cases
    (tid : Int)
    (name : String)
    (grouping : Grouping)
    (interval : Interval) :
    (interval.state = .sleeping ∧ grouping.current = none ∧
        grouping.step tid name interval =
          { rows := grouping.rows
            current := none
            precededBySleep := true }) ∨
      (∃ current,
        interval.state = .sleeping ∧
          grouping.current = some current ∧
          grouping.step tid name interval =
            { rows :=
                grouping.rows ++
                  [current.complete interval.startNs false]
              current := none
              precededBySleep := true }) ∨
      (∃ released : OpenActivation,
        interval.state ≠ .sleeping ∧
          grouping.current = none ∧
          released.releaseNs = interval.startNs ∧
          released.firstRunNs = none ∧
          released.executionMs = 0 ∧ released.readyMs = 0 ∧
          released.partialStart =
            !grouping.precededBySleep ∧
          grouping.step tid name interval =
            { rows := grouping.rows
              current := some (released.charge interval)
              precededBySleep := false }) ∨
      (∃ current,
        interval.state ≠ .sleeping ∧
          grouping.current = some current ∧
          grouping.step tid name interval =
            { grouping with
              current := some (current.charge interval) }) := by
  unfold Grouping.step
  by_cases hSleeping : interval.state = .sleeping
  · rw [if_pos hSleeping]
    unfold Grouping.close
    cases hCurrent : grouping.current with
    | none =>
        refine Or.inl ⟨hSleeping, rfl, ?_⟩
        simp only [hCurrent]
    | some current =>
        exact Or.inr (Or.inl ⟨current, hSleeping, rfl, rfl⟩)
  · rw [if_neg hSleeping]
    cases hCurrent : grouping.current with
    | none =>
        exact Or.inr (Or.inr (Or.inl
          ⟨_, hSleeping, rfl, rfl, rfl, rfl, rfl, rfl, rfl⟩))
    | some current =>
        exact Or.inr (Or.inr (Or.inr
          ⟨current, hSleeping, rfl, rfl⟩))

------------------------------------------------------------
-- Charges
------------------------------------------------------------

/- An activation with the times of its intervals. -/
structure Charged
    (group : List Interval)
    (current : OpenActivation) : Prop where
  execution :
    current.executionMs = (stateNs .running group : ℚ) / 1000000
  ready :
    current.readyMs = (stateNs .ready group : ℚ) / 1000000

theorem stateNs_append
    (state : SchedState)
    (first second : List Interval) :
    stateNs state (first ++ second) =
      stateNs state first + stateNs state second := by
  simp [stateNs]

theorem stateNs_perm
    (state : SchedState)
    {first second : List Interval}
    (hPerm : first.Perm second) :
    stateNs state first = stateNs state second :=
  ((hPerm.filter _).map _).sum_eq

/- Sleeping intervals add nothing to the other states. -/
theorem stateNs_awake
    {state : SchedState}
    (hState : state ≠ .sleeping)
    (intervals : List Interval) :
    stateNs state
        (intervals.filter (fun interval =>
          interval.state ≠ .sleeping)) =
      stateNs state intervals := by
  unfold stateNs
  rw [List.filter_filter]
  congr 2
  apply List.filter_congr
  intro interval _
  by_cases hIs : interval.state = state
  · simp [hIs, hState]
  · simp [hIs]

theorem charged_nil
    {released : OpenActivation}
    (hExecution : released.executionMs = 0)
    (hReady : released.readyMs = 0) :
    Charged [] released := by
  constructor
  · simp [hExecution, stateNs]
  · simp [hReady, stateNs]

theorem Charged.charge
    {finish : Int}
    {group : List Interval}
    {current : OpenActivation}
    (hCharged : Charged group current)
    {interval : Interval}
    (hRecorded : Recorded finish interval) :
    Charged (group ++ [interval]) (current.charge interval) := by
  have hExecution := hCharged.execution
  have hReady := hCharged.ready
  have hExact := hRecorded.exact
  unfold OpenActivation.charge
  constructor
  · rw [stateNs_append, stateNs_cons]
    cases hState : interval.state with
    | running =>
        rw [if_pos rfl, hExact, hExecution]
        simp only [stateNs, List.filter_nil, List.map_nil,
          List.sum_nil]
        push_cast
        ring
    | ready => simp [stateNs, hExecution]
    | sleeping => simp [stateNs, hExecution]
  · rw [stateNs_append, stateNs_cons]
    cases hState : interval.state with
    | running => simp [stateNs, hReady]
    | ready =>
        rw [if_pos rfl, hExact, hReady]
        simp only [stateNs, List.filter_nil, List.map_nil,
          List.sum_nil]
        push_cast
        ring
    | sleeping => simp [stateNs, hReady]

/- Every interval that is no sleep is part of one activation. -/
structure Grouped
    (seen : List Interval)
    (groups : List (List Interval))
    (pending : List Interval)
    (grouping : Grouping) : Prop where
  shared :
    groups.flatten ++ pending =
      seen.filter (fun interval => interval.state ≠ .sleeping)
  rows :
    List.Forall₂
      (fun group row => Charged group row.toOpenActivation)
      groups grouping.rows
  current :
    match grouping.current with
    | none => pending = []
    | some current => Charged pending current

theorem Grouped.step
    {seen : List Interval}
    {groups : List (List Interval)}
    {pending : List Interval}
    {grouping : Grouping}
    (hGrouped : Grouped seen groups pending grouping)
    (tid : Int)
    (name : String)
    {finish : Int}
    {interval : Interval}
    (hRecorded : Recorded finish interval) :
    ∃ groups pending,
      Grouped (seen ++ [interval]) groups pending
        (grouping.step tid name interval) := by
  have hPending := hGrouped.current
  rcases grouping.step_cases tid name interval with
    ⟨hState, hNone, hStep⟩ | ⟨current, hState, hSome, hStep⟩ |
      ⟨released, hState, hNone, -, -, hExecution, hReady, -,
        hStep⟩ |
      ⟨current, hState, hSome, hStep⟩
  · refine ⟨groups, pending, ?_⟩
    rw [hNone] at hPending
    rw [hStep]
    refine ⟨?_, hGrouped.rows, hPending⟩
    simp [hGrouped.shared, hState]
  · refine ⟨groups ++ [pending], [], ?_⟩
    rw [hSome] at hPending
    rw [hStep]
    refine ⟨?_, ?_, rfl⟩
    · simp [hGrouped.shared, hState]
    · exact List.rel_append hGrouped.rows
        (List.Forall₂.cons hPending List.Forall₂.nil)
  · refine ⟨groups, [interval], ?_⟩
    rw [hNone] at hPending
    have hShared := hGrouped.shared
    rw [hPending, List.append_nil] at hShared
    rw [hStep]
    refine ⟨?_, hGrouped.rows, ?_⟩
    · simp [hShared, hState]
    · exact (charged_nil hExecution hReady).charge hRecorded
  · refine ⟨groups, pending ++ [interval], ?_⟩
    rw [hSome] at hPending
    rw [hStep]
    refine ⟨?_, hGrouped.rows, hPending.charge hRecorded⟩
    rw [← List.append_assoc, hGrouped.shared,
      List.filter_append]
    simp [hState]

theorem Grouped.run
    (tid : Int)
    (name : String)
    {finish : Int}
    (sorted : List Interval)
    (hRecorded :
      ∀ interval ∈ sorted, Recorded finish interval) :
    ∃ groups pending,
      Grouped sorted groups pending
        (sorted.foldl (Grouping.step tid name) {}) := by
  induction sorted using List.reverseRecOn with
  | nil => exact ⟨[], [], rfl, List.Forall₂.nil, rfl⟩
  | append_singleton seen interval ih =>
      rcases ih (fun other hOther =>
        hRecorded other (List.mem_append_left _ hOther)) with
        ⟨groups, pending, hGrouped⟩
      rw [List.foldl_concat]
      exact hGrouped.step tid name
        (hRecorded interval (by simp))

theorem groupIntervals_charged
    (tid : Int)
    (name : String)
    {finish : Int}
    {sorted : List Interval}
    (hRecorded :
      ∀ interval ∈ sorted, Recorded finish interval)
    (windowEnd : Int) :
    ∃ groups : List (List Interval),
      groups.flatten =
          sorted.filter (fun interval =>
            interval.state ≠ .sleeping) ∧
        List.Forall₂
          (fun group row => Charged group row.toOpenActivation)
          groups (groupIntervals tid name sorted windowEnd) := by
  rcases Grouped.run tid name sorted hRecorded with
    ⟨groups, pending, hGrouped⟩
  have hPending := hGrouped.current
  unfold groupIntervals Grouping.close
  split
  · rename_i hNone
    rw [hNone] at hPending
    refine ⟨groups, ?_, hGrouped.rows⟩
    rw [← hGrouped.shared, hPending, List.append_nil]
  · rename_i current hSome
    rw [hSome] at hPending
    refine ⟨groups ++ [pending], ?_, ?_⟩
    · rw [← hGrouped.shared]
      simp
    · exact List.rel_append hGrouped.rows
        (List.Forall₂.cons hPending List.Forall₂.nil)

------------------------------------------------------------
-- Order And Flags
------------------------------------------------------------

/- What an activation has done lies before a time. -/
structure OpenActivation.Until
    (current : OpenActivation)
    (time : Int) : Prop where
  release_le : current.releaseNs ≤ time
  first_run :
    ∀ run ∈ current.firstRunNs,
      current.releaseNs ≤ run ∧ run ≤ time

section

variable {current : OpenActivation}
variable {grouping : Grouping}

theorem OpenActivation.Until.mono
    {time later : Int}
    (hUntil : current.Until time)
    (hLe : time ≤ later) :
    current.Until later := by
  constructor
  · exact hUntil.release_le.trans hLe
  · intro run hRun
    have hFirst := hUntil.first_run run hRun
    exact ⟨hFirst.1, hFirst.2.trans hLe⟩

theorem OpenActivation.Until.charge
    {interval : Interval}
    (hUntil : current.Until interval.startNs) :
    (current.charge interval).Until interval.startNs := by
  constructor
  · rw [charge_releaseNs]
    exact hUntil.release_le
  · rw [charge_releaseNs]
    unfold OpenActivation.charge
    cases interval.state with
    | running =>
        intro run hRun
        rcases Option.or_eq_some_iff.mp hRun with
          hOld | ⟨-, hNew⟩
        · exact hUntil.first_run run hOld
        · cases hNew
          exact ⟨hUntil.release_le, le_refl _⟩
    | ready => exact hUntil.first_run
    | sleeping => exact hUntil.first_run

structure Sequenced
    (now : Int)
    (grouping : Grouping) : Prop where
  apart :
    grouping.rows.Pairwise (fun first second =>
      first.completionNs ≤ second.releaseNs)
  spans :
    ∀ row ∈ grouping.rows,
      row.toOpenActivation.Until row.completionNs
  completed :
    ∀ row ∈ grouping.rows, row.completionNs ≤ now
  released :
    ∀ current ∈ grouping.current,
      current.Until now ∧
        ∀ row ∈ grouping.rows,
          row.completionNs ≤ current.releaseNs

theorem Sequenced.mono
    {now later : Int}
    (hSequenced : Sequenced now grouping)
    (hLe : now ≤ later) :
    Sequenced later grouping := by
  refine ⟨hSequenced.apart, hSequenced.spans, ?_, ?_⟩
  · intro row hRow
    exact (hSequenced.completed row hRow).trans hLe
  · intro current hCurrent
    rcases hSequenced.released current hCurrent with
      ⟨hUntil, hRows⟩
    exact ⟨hUntil.mono hLe, hRows⟩

/- The row of the activation that is completed now. -/
theorem Sequenced.complete
    {now : Int}
    (hSequenced : Sequenced now grouping)
    (hCurrent : grouping.current = some current)
    (partialEnd precededBySleep : Bool) :
    Sequenced now
      { rows :=
          grouping.rows ++ [current.complete now partialEnd]
        current := none
        precededBySleep := precededBySleep } := by
  rcases hSequenced.released current (by rw [hCurrent]; rfl)
    with ⟨hUntil, hRows⟩
  refine ⟨?_, ?_, ?_, by simp⟩
  · rw [List.pairwise_append]
    refine ⟨hSequenced.apart, List.pairwise_singleton _ _, ?_⟩
    intro row hRow last hLast
    rw [List.mem_singleton.mp hLast]
    exact hRows row hRow
  · intro row hRow
    rcases List.mem_append.mp hRow with hOld | hNew
    · exact hSequenced.spans row hOld
    · rw [List.mem_singleton.mp hNew]
      exact ⟨hUntil.release_le, hUntil.first_run⟩
  · intro row hRow
    rcases List.mem_append.mp hRow with hOld | hNew
    · exact hSequenced.completed row hOld
    · rw [List.mem_singleton.mp hNew]
      exact le_refl now

theorem Sequenced.step
    {interval : Interval}
    (hSequenced : Sequenced interval.startNs grouping)
    (tid : Int)
    (name : String) :
    Sequenced interval.startNs
      (grouping.step tid name interval) := by
  rcases grouping.step_cases tid name interval with
    ⟨-, -, hStep⟩ | ⟨current, -, hSome, hStep⟩ |
      ⟨released, -, -, hRelease, hNoRun, -, -, -, hStep⟩ |
      ⟨current, -, hSome, hStep⟩
  · rw [hStep]
    exact ⟨hSequenced.apart, hSequenced.spans,
      hSequenced.completed, by simp⟩
  · rw [hStep]
    exact hSequenced.complete hSome false true
  · rw [hStep]
    refine ⟨hSequenced.apart, hSequenced.spans,
      hSequenced.completed, ?_⟩
    intro current hCurrent
    cases hCurrent
    refine ⟨OpenActivation.Until.charge ⟨hRelease.le, ?_⟩, ?_⟩
    · rw [hNoRun]
      simp
    · intro row hRow
      rw [charge_releaseNs, hRelease]
      exact hSequenced.completed row hRow
  · rw [hStep]
    rcases hSequenced.released current (by rw [hSome]; rfl)
      with ⟨hUntil, hRows⟩
    refine ⟨hSequenced.apart, hSequenced.spans,
      hSequenced.completed, ?_⟩
    intro charged hCharged
    cases hCharged
    refine ⟨hUntil.charge, ?_⟩
    rw [charge_releaseNs]
    exact hRows

theorem Sequenced.run
    (tid : Int)
    (name : String)
    {finish : Int}
    {sorted : List Interval}
    (hSorted :
      sorted.Pairwise (fun first second =>
        first.startNs ≤ second.startNs))
    (hFinish :
      ∀ interval ∈ sorted, interval.startNs ≤ finish)
    {now : Int}
    (hNow : now ≤ finish)
    (hAfter : ∀ interval ∈ sorted, now ≤ interval.startNs)
    (hSequenced : Sequenced now grouping) :
    Sequenced finish
      (sorted.foldl (Grouping.step tid name) grouping) := by
  induction sorted generalizing now grouping with
  | nil => exact hSequenced.mono hNow
  | cons interval rest ih =>
      rw [List.pairwise_cons] at hSorted
      have hHere :=
        hSequenced.mono (hAfter interval List.mem_cons_self)
      exact ih hSorted.2
        (fun other hOther =>
          hFinish other (List.mem_cons_of_mem _ hOther))
        (hFinish interval List.mem_cons_self) hSorted.1
        (hHere.step tid name)

theorem groupIntervals_sequenced
    (tid : Int)
    (name : String)
    {finish : Int}
    {sorted : List Interval}
    (hSorted :
      sorted.Pairwise (fun first second =>
        first.startNs ≤ second.startNs))
    (hFinish :
      ∀ interval ∈ sorted, interval.startNs ≤ finish) :
    (groupIntervals tid name sorted finish).Pairwise
        (fun first second =>
          first.completionNs ≤ second.releaseNs) ∧
      ∀ row ∈ groupIntervals tid name sorted finish,
        row.toOpenActivation.Until row.completionNs := by
  have hRun :
      Sequenced finish
        (sorted.foldl (Grouping.step tid name) {}) := by
    have hStart : ∀ now, Sequenced now {} := by
      intro now
      exact ⟨List.Pairwise.nil, by simp, by simp, by simp⟩
    cases hIntervals : sorted with
    | nil => exact hStart finish
    | cons interval rest =>
        rw [hIntervals] at hSorted hFinish
        refine Sequenced.run tid name hSorted hFinish
          (hFinish interval List.mem_cons_self) ?_
          (hStart interval.startNs)
        intro other hOther
        rcases List.mem_cons.mp hOther with hIs | hRest
        · rw [hIs]
        · exact (List.pairwise_cons.mp hSorted).1 other hRest
  unfold groupIntervals Grouping.close
  split
  · exact ⟨hRun.apart, hRun.spans⟩
  · rename_i current hSome
    have hDone := hRun.complete hSome true false
    exact ⟨hDone.apart, hDone.spans⟩

/- Only what is first can have started before the window. -/
structure Flagged
    (grouping : Grouping) : Prop where
  whole : ∀ row ∈ grouping.rows, row.partialEnd = false
  later : ∀ row ∈ grouping.rows.tail, row.partialStart = false
  current :
    grouping.rows ≠ [] →
      ∀ current ∈ grouping.current,
        current.partialStart = false
  asleep :
    grouping.rows ≠ [] → grouping.current = none →
      grouping.precededBySleep = true

theorem mem_tail_append_singleton
    {rows : List ActivationRow}
    {last row : ActivationRow}
    (hRow : row ∈ (rows ++ [last]).tail) :
    row ∈ rows.tail ∨ rows ≠ [] ∧ row = last := by
  cases rows with
  | nil => cases hRow
  | cons first rest =>
      rcases List.mem_append.mp hRow with hRest | hLast
      · exact Or.inl hRest
      · exact Or.inr
          ⟨List.cons_ne_nil _ _, List.mem_singleton.mp hLast⟩

theorem Flagged.later_complete
    (hFlagged : Flagged grouping)
    (hCurrent : grouping.current = some current)
    (completionNs : Int)
    (partialEnd : Bool) :
    ∀ row ∈
        (grouping.rows ++
          [current.complete completionNs partialEnd]).tail,
      row.partialStart = false := by
  intro row hRow
  rcases mem_tail_append_singleton hRow with
    hOld | ⟨hSome, hNew⟩
  · exact hFlagged.later row hOld
  · rw [hNew]
    exact hFlagged.current hSome current (by rw [hCurrent]; rfl)

theorem Flagged.step
    (hFlagged : Flagged grouping)
    (tid : Int)
    (name : String)
    (interval : Interval) :
    Flagged (grouping.step tid name interval) := by
  rcases grouping.step_cases tid name interval with
    ⟨-, -, hStep⟩ | ⟨current, -, hSome, hStep⟩ |
      ⟨released, -, hNone, -, -, -, -, hPartial, hStep⟩ |
      ⟨current, -, hSome, hStep⟩
  · rw [hStep]
    exact ⟨hFlagged.whole, hFlagged.later, by simp,
      fun _ _ => rfl⟩
  · rw [hStep]
    refine ⟨?_, hFlagged.later_complete hSome _ _, by simp,
      fun _ _ => rfl⟩
    intro row hRow
    rcases List.mem_append.mp hRow with hOld | hNew
    · exact hFlagged.whole row hOld
    · rw [List.mem_singleton.mp hNew]
      rfl
  · rw [hStep]
    refine ⟨hFlagged.whole, hFlagged.later, ?_, by simp⟩
    intro hRows current hCurrent
    cases hCurrent
    rw [charge_partialStart, hPartial,
      hFlagged.asleep hRows hNone]
    rfl
  · rw [hStep]
    refine ⟨hFlagged.whole, hFlagged.later, ?_, by simp⟩
    intro hRows charged hCharged
    cases hCharged
    rw [charge_partialStart]
    exact hFlagged.current hRows current (by rw [hSome]; rfl)

theorem groupIntervals_flagged
    (tid : Int)
    (name : String)
    (sorted : List Interval)
    (windowEnd : Int) :
    (∀ row ∈ (groupIntervals tid name sorted windowEnd).tail,
        row.partialStart = false) ∧
      ∀ row ∈
          (groupIntervals tid name sorted windowEnd).dropLast,
        row.partialEnd = false := by
  have hRun :
      Flagged (sorted.foldl (Grouping.step tid name) {}) := by
    induction sorted using List.reverseRecOn with
    | nil => exact ⟨by simp, by simp, by simp, by simp⟩
    | append_singleton seen interval ih =>
        rw [List.foldl_concat]
        exact ih.step tid name interval
  unfold groupIntervals Grouping.close
  split
  · exact ⟨hRun.later, fun row hRow =>
      hRun.whole row (List.dropLast_subset _ hRow)⟩
  · rename_i current hSome
    refine ⟨hRun.later_complete hSome _ _, ?_⟩
    simp only [List.dropLast_concat]
    exact hRun.whole

end

------------------------------------------------------------
-- Responses
------------------------------------------------------------

/- Activations that ran or were ready all the time. -/
structure Filled
    (now : Int)
    (grouping : Grouping) : Prop where
  rows :
    ∀ row ∈ grouping.rows,
      row.responseMs = row.executionMs + row.readyMs
  current :
    ∀ current ∈ grouping.current,
      ((now - current.releaseNs : Int) : ℚ) / 1000000 =
        current.executionMs + current.readyMs

theorem Filled.complete
    {now : Int}
    {grouping : Grouping}
    (hFilled : Filled now grouping)
    {current : OpenActivation}
    (hCurrent : grouping.current = some current)
    (partialEnd : Bool) :
    ∀ row ∈
        grouping.rows ++ [current.complete now partialEnd],
      row.responseMs = row.executionMs + row.readyMs := by
  intro row hRow
  rcases List.mem_append.mp hRow with hOld | hNew
  · exact hFilled.rows row hOld
  · rw [List.mem_singleton.mp hNew]
    exact hFilled.current current (by rw [hCurrent]; rfl)

/- The time of an interval is added to what was filled. -/
theorem charge_filled
    {finish : Int}
    {interval : Interval}
    (hRecorded : Recorded finish interval)
    (hState : interval.state ≠ .sleeping)
    {current : OpenActivation}
    (hBefore :
      ((interval.startNs - current.releaseNs : Int) : ℚ) /
          1000000 =
        current.executionMs + current.readyMs) :
    ((interval.endNs -
        (current.charge interval).releaseNs : Int) : ℚ) /
          1000000 =
      (current.charge interval).executionMs +
        (current.charge interval).readyMs := by
  have hSplit :
      ((interval.endNs - current.releaseNs : Int) : ℚ) /
          1000000 =
        ((interval.startNs - current.releaseNs : Int) : ℚ) /
            1000000 + interval.durationMs := by
    rw [hRecorded.exact]
    push_cast
    ring
  rw [charge_releaseNs, hSplit, hBefore]
  unfold OpenActivation.charge
  cases hIs : interval.state with
  | running =>
      simp only
      ring
  | ready =>
      simp only
      ring
  | sleeping => exact absurd hIs hState

theorem Filled.step
    {interval : Interval}
    {grouping : Grouping}
    (hFilled : Filled interval.startNs grouping)
    (tid : Int)
    (name : String)
    {finish : Int}
    (hRecorded : Recorded finish interval) :
    Filled interval.endNs
      (grouping.step tid name interval) := by
  rcases grouping.step_cases tid name interval with
    ⟨-, -, hStep⟩ | ⟨current, -, hSome, hStep⟩ |
      ⟨released, hState, -, hRelease, -, hExecution, hReady, -,
        hStep⟩ |
      ⟨current, hState, hSome, hStep⟩
  · rw [hStep]
    exact ⟨hFilled.rows, by simp⟩
  · rw [hStep]
    exact ⟨hFilled.complete hSome false, by simp⟩
  · rw [hStep]
    refine ⟨hFilled.rows, ?_⟩
    intro current hCurrent
    cases hCurrent
    apply charge_filled hRecorded hState
    rw [hRelease, hExecution, hReady]
    simp
  · rw [hStep]
    refine ⟨hFilled.rows, ?_⟩
    intro charged hCharged
    cases hCharged
    apply charge_filled hRecorded hState
    exact hFilled.current current (by rw [hSome]; rfl)

theorem Filled.run
    (tid : Int)
    (name : String)
    {finish lower upper : Int}
    {intervals : List Interval}
    (hTiles :
      Spans.Tiles Interval.startNs Interval.endNs lower upper
        intervals)
    (hRecorded :
      ∀ interval ∈ intervals, Recorded finish interval)
    {grouping : Grouping}
    (hFilled : Filled lower grouping) :
    Filled upper
      (intervals.foldl (Grouping.step tid name) grouping) := by
  induction intervals generalizing lower grouping with
  | nil =>
      have hIs : lower = upper := hTiles
      rw [← hIs]
      exact hFilled
  | cons interval rest ih =>
      rcases hTiles with ⟨hStart, -, hRest⟩
      rw [hStart] at hFilled
      exact ih hRest
        (fun other hOther =>
          hRecorded other (List.mem_cons_of_mem _ hOther))
        (hFilled.step tid name
          (hRecorded interval List.mem_cons_self))

theorem groupIntervals_filled
    (tid : Int)
    (name : String)
    {lower finish : Int}
    {intervals : List Interval}
    (hTiles :
      Spans.Tiles Interval.startNs Interval.endNs lower finish
        intervals)
    (hRecorded :
      ∀ interval ∈ intervals, Recorded finish interval) :
    ∀ row ∈ groupIntervals tid name intervals finish,
      row.responseMs = row.executionMs + row.readyMs := by
  have hStart : Filled lower {} := ⟨by simp, by simp⟩
  have hRun := Filled.run tid name hTiles hRecorded hStart
  unfold groupIntervals Grouping.close
  split
  · exact hRun.rows
  · rename_i current hSome
    exact hRun.complete hSome true

------------------------------------------------------------
-- Activations Of A Thread
------------------------------------------------------------

/- The activations of a thread in a window of its trace. -/
def threadActivations
    (events : List LimeEvent)
    (begin finish : Int)
    (labels : IntervalLabels) : List Activation :=
  activationsFromIntervals
    (schedulerIntervals events begin finish labels).1
    labels.tid labels.name finish

theorem sum_charged
    {groups : List (List Interval)}
    {rows : List ActivationRow}
    (hCharged :
      List.Forall₂
        (fun group row => Charged group row.toOpenActivation)
        groups rows) :
    (rows.map (fun row => row.executionMs)).sum =
        (stateNs .running groups.flatten : ℚ) / 1000000 ∧
      (rows.map (fun row => row.readyMs)).sum =
        (stateNs .ready groups.flatten : ℚ) / 1000000 := by
  induction hCharged with
  | nil => simp [stateNs]
  | cons hHead _ ih =>
      rw [List.map_cons, List.map_cons, List.sum_cons,
        List.sum_cons, ih.1, ih.2, hHead.execution,
        hHead.ready, List.flatten_cons, stateNs_append,
        stateNs_append]
      push_cast
      exact ⟨by ring, by ring⟩

/- What is true of the rows is true of the activations. -/
theorem mem_rows
    {activations : List Activation}
    {rows : List ActivationRow}
    (hRows :
      activations.map Activation.toActivationRow = rows)
    {activation : Activation}
    (hActivation : activation ∈ activations) :
    activation.toActivationRow ∈ rows := by
  rw [← hRows]
  exact List.mem_map_of_mem hActivation

theorem filled_rows
    {events : List LimeEvent}
    (hSorted :
      events.Pairwise (fun first second =>
        first.ts ≤ second.ts))
    {begin finish : Int}
    (hNoExit :
      ∀ event ∈ events, begin ≤ event.ts →
        event.ts ≤ finish →
        event.event ≠ "sched_process_exit")
    (labels : IntervalLabels) :
    ∀ row ∈
        groupIntervals labels.tid labels.name
          ((schedulerIntervals events begin finish
            labels).1.insertionSort (fun first second =>
              first.startNs ≤ second.startNs))
          finish,
      row.responseMs = row.executionMs + row.readyMs := by
  have hTiled :=
    schedulerIntervals_tiled hSorted begin finish labels
  have hRecorded :=
    schedulerIntervals_recorded events begin finish labels
  have hFilled := hTiled.filled (by
    intro event hEvent hKind
    rcases mem_relevantEvents.mp hEvent with
      ⟨hIn, hFrom, hTo⟩
    exact hNoExit event hIn hFrom hTo
      (kind_eq_exit_iff.mp hKind))
  have hStarts :=
    hTiled.apart.imp (fun hApart => hApart.1)
  rw [hStarts.insertionSort_eq]
  split at hFilled
  · rw [hFilled]
    intro row hRow
    cases hRow
  · exact groupIntervals_filled _ _ hFilled hRecorded

/- The intervals in the order of their starts. -/
theorem sortedIntervals_starts
    (intervals : List Interval) :
    (intervals.insertionSort (fun first second =>
      first.startNs ≤ second.startNs)).Pairwise
        (fun first second => first.startNs ≤ second.startNs) :=
  List.pairwise_insertionSort _ _

theorem sortedIntervals_recorded
    (events : List LimeEvent)
    (begin finish : Int)
    (labels : IntervalLabels) :
    ∀ interval ∈
        (schedulerIntervals events begin finish
          labels).1.insertionSort (fun first second =>
            first.startNs ≤ second.startNs),
      Recorded finish interval :=
  fun interval hInterval =>
    schedulerIntervals_recorded events begin finish labels
      interval ((List.mem_insertionSort _).mp hInterval)

/- Activations of a thread follow one another. -/
theorem threadActivations_sequenced
    (events : List LimeEvent)
    (begin finish : Int)
    (labels : IntervalLabels) :
    (threadActivations events begin finish labels).Pairwise
        (fun first second =>
          first.completionNs ≤ second.releaseNs) ∧
      ∀ row ∈ threadActivations events begin finish labels,
        row.toOpenActivation.Until row.completionNs := by
  rcases groupIntervals_sequenced labels.tid labels.name
    (sortedIntervals_starts
      (schedulerIntervals events begin finish labels).1)
    (fun interval hInterval =>
      (sortedIntervals_recorded events begin finish labels
        interval hInterval).start_le) with
    ⟨hApart, hSpans⟩
  have hRows :
      (threadActivations events begin finish labels).map
          Activation.toActivationRow = _ :=
    numberRows_toActivationRow _
  rw [← hRows, List.pairwise_map] at hApart
  exact ⟨hApart, fun row hRow =>
    hSpans _ (mem_rows hRows hRow)⟩

/-
  Every interval in which the thread ran or was ready is
  charged to one activation.  Activations follow one another,
  and only those at the ends of the window can be partial.
  Without an exit an activation is ready or running until it
  completes.
-/
theorem threadActivations_account
    (events : List LimeEvent)
    (begin finish : Int)
    (labels : IntervalLabels) :
    (∃ groups : List (List Interval),
        groups.flatten.Perm
            ((schedulerIntervals events begin finish
              labels).1.filter (fun interval =>
                interval.state ≠ .sleeping)) ∧
          List.Forall₂
            (fun group row =>
              row.executionMs =
                  (stateNs .running group : ℚ) / 1000000 ∧
                row.readyMs =
                  (stateNs .ready group : ℚ) / 1000000)
            groups
            (threadActivations events begin finish labels)) ∧
      ((threadActivations events begin finish labels).map
          (fun row => row.executionMs)).sum =
        (stateNs .running
          (schedulerIntervals events begin finish labels).1 :
            ℚ) / 1000000 ∧
      ((threadActivations events begin finish labels).map
          (fun row => row.readyMs)).sum =
        (stateNs .ready
          (schedulerIntervals events begin finish labels).1 :
            ℚ) / 1000000 ∧
      (threadActivations events begin finish labels).Pairwise
        (fun first second =>
          first.completionNs ≤ second.releaseNs) ∧
      (∀ row ∈ threadActivations events begin finish labels,
        row.releaseNs ≤ row.completionNs ∧
          ∀ run ∈ row.firstRunNs,
            row.releaseNs ≤ run ∧ run ≤ row.completionNs) ∧
      (∀ row ∈
          (threadActivations events begin finish labels).tail,
        row.partialStart = false) ∧
      (∀ row ∈
          (threadActivations events begin finish
            labels).dropLast,
        row.partialEnd = false) ∧
      (events.Pairwise (fun first second =>
          first.ts ≤ second.ts) →
        (∀ event ∈ events, begin ≤ event.ts →
          event.ts ≤ finish →
          event.event ≠ "sched_process_exit") →
        ∀ row ∈ threadActivations events begin finish labels,
          row.responseMs = row.executionMs + row.readyMs) := by
  obtain ⟨sorted, hSorted⟩ :
      ∃ sorted,
        (schedulerIntervals events begin finish
          labels).1.insertionSort (fun first second =>
            first.startNs ≤ second.startNs) = sorted :=
    ⟨_, rfl⟩
  have hPerm :
      sorted.Perm
        (schedulerIntervals events begin finish labels).1 := by
    rw [← hSorted]
    exact List.perm_insertionSort _ _
  have hRecorded :
      ∀ interval ∈ sorted, Recorded finish interval := by
    rw [← hSorted]
    exact sortedIntervals_recorded events begin finish labels
  have hRows :
      (threadActivations events begin finish labels).map
          Activation.toActivationRow =
        groupIntervals labels.tid labels.name sorted
          finish := by
    rw [← hSorted]
    exact numberRows_toActivationRow _
  rcases groupIntervals_charged labels.tid labels.name
    hRecorded finish with ⟨groups, hShared, hCharged⟩
  rcases threadActivations_sequenced events begin finish
    labels with ⟨hApart, hSpans⟩
  rcases groupIntervals_flagged labels.tid labels.name sorted
    finish with ⟨hStartFlags, hEndFlags⟩
  have hSums := sum_charged hCharged
  rw [← hRows] at hCharged hSums hStartFlags hEndFlags
  rw [List.map_map, List.map_map, hShared,
    stateNs_awake (by decide), stateNs_awake (by decide),
    stateNs_perm _ hPerm, stateNs_perm _ hPerm] at hSums
  rw [List.forall₂_map_right_iff] at hCharged
  rw [← List.map_tail] at hStartFlags
  rw [← List.map_dropLast] at hEndFlags
  refine ⟨⟨groups, ?_, ?_⟩, hSums.1, hSums.2, hApart, ?_, ?_,
    ?_, ?_⟩
  · rw [hShared]
    exact hPerm.filter _
  · exact hCharged.imp (fun group row hRow =>
      ⟨hRow.execution, hRow.ready⟩)
  · intro row hRow
    have hUntil := hSpans row hRow
    exact ⟨hUntil.release_le, hUntil.first_run⟩
  · intro row hRow
    exact hStartFlags _ (List.mem_map_of_mem hRow)
  · intro row hRow
    exact hEndFlags _ (List.mem_map_of_mem hRow)
  · intro hOrdered hNoExit row hRow
    apply filled_rows hOrdered hNoExit labels
    rw [hSorted]
    exact mem_rows hRows hRow

/- A thread that wakes up, runs, is preempted and sleeps. -/
def wokenThread : List LimeEvent :=
  [{ ts := 1, event := "sched_switched_in", cpu := some 1 },
    { ts := 4, event := "sched_switched_out", state := some 1 },
    { ts := 6, event := "sched_wake_up" },
    { ts := 7, event := "sched_switched_in", cpu := some 1 },
    { ts := 9, event := "sched_switched_out", state := some 0 }]

theorem wokenThread_account :
    ((threadActivations wokenThread 0 12
          { cycle := 0, tid := 7, name := "a",
            origin := 0 }).map
        (fun row =>
          (row.releaseNs, row.firstRunNs, row.completionNs,
            row.partialStart, row.partialEnd)) =
      [(1, some 1, 4, true, false),
        (6, some 7, 12, false, true)]) ∧
      ∀ row ∈ threadActivations wokenThread 0 12
          { cycle := 0, tid := 7, name := "a", origin := 0 },
        row.responseMs = row.executionMs + row.readyMs :=
  ⟨by decide,
    (threadActivations_account wokenThread 0 12
      { cycle := 0, tid := 7, name := "a",
        origin := 0 }).2.2.2.2.2.2.2 (by decide) (by decide)⟩

end Trace

end RsCamera
