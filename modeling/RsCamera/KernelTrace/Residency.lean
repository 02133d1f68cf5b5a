import RsCamera.KernelTrace.Stages
import RsCamera.Lib.Containers
import RsCamera.Trace.Intervals

/-
  Two reconstructions of the times a thread was on a
  processor, from the same scheduler events:
  `running_intervals` in `analyze_capture_residual.py` and the
  running intervals of `scheduler_intervals` in
  `parse_startup_trace.py`.

  Both are compared with one walk over the switch events. It
  has a switch for the only difference that shows: whether a
  switch-in ends the interval of a switch-in before it, whose
  switch-out was lost.

  Key definitions include:
    * `runningStep`, `runningIntervals`
    * `residency`
    * `positiveRuns`
    * `NeverRestarts`

  Key theorems include:
    * `runningIntervals_eq_residency`
    * `positiveRuns_eq_residency`
    * `residency_eq_iff`
    * `runningIntervals_agree_iff`
-/

------------------------------------------------------------
-- Running Intervals
------------------------------------------------------------

namespace RsCamera

namespace KernelTrace

section

open Trace

/- The intervals so far and the open one with its processor. -/
structure Running where
  intervals : List RunInterval := []
  active : Option (Int × Int) := none
deriving Repr, DecidableEq

/- A switch-in without a processor is a missing key. -/
def runningStep
    (running : Running)
    (event : LimeEvent) : Except String Running :=
  if event.event = "sched_switched_in" then
    match event.cpu with
    | none => .error "cpu"
    | some cpu =>
        .ok { running with active := some (event.ts, cpu) }
  else if event.event = "sched_switched_out" then
    match running.active with
    | none => .ok running
    | some (beginNs, cpu) =>
        .ok
          { intervals :=
              if beginNs < event.ts then
                running.intervals ++
                  [⟨beginNs, event.ts, cpu⟩]
              else
                running.intervals
            active := none }
  else
    .ok running

/- `running_intervals`: the events are sorted by time first. -/
def runningIntervals
    (events : List LimeEvent) :
    Except String (List RunInterval) := do
  let running ←
    (events.insertionSort (fun first next =>
      first.ts ≤ next.ts)).foldlM runningStep {}
  return running.intervals

end

------------------------------------------------------------
-- A Walk Over The Switches
------------------------------------------------------------

section

open Trace

/- A time on a processor that may be unknown. -/
structure Residence where
  beginNs : Int
  endNs : Int
  cpu : Option Int
deriving Repr, DecidableEq

/- The residence that ends at a time, if it has a length. -/
def residenceUntil
    (active : Option (Int × Option Int))
    (timestamp : Int) : List Residence :=
  match active with
  | none => []
  | some (beginNs, cpu) =>
      if beginNs < timestamp then
        [⟨beginNs, timestamp, cpu⟩]
      else
        []

/-
  The residences that the switch events tell, with or without
  those that only another switch-in ends.
-/
def residency
    (keepsRestarts : Bool) :
    Option (Int × Option Int) → List LimeEvent →
      List Residence
| _, [] => []
| active, event :: rest =>
    match event.kind with
    | .switchedIn =>
        (if keepsRestarts then
          residenceUntil active event.ts
        else
          []) ++
          residency keepsRestarts (some (event.ts, event.cpu))
            rest
    | .switchedOut =>
        residenceUntil active event.ts ++
          residency keepsRestarts none rest
    | _ => residency keepsRestarts active rest

/- The interval without its thread. -/
def RunInterval.residence (run : RunInterval) : Residence :=
  ⟨run.beginNs, run.endNs, some run.cpu⟩

/- The running intervals that have a length. -/
def positiveRuns (intervals : List Interval) : List Residence :=
  (intervals.filter (fun interval =>
    interval.state = .running ∧
      interval.startNs < interval.endNs)).map
    (fun interval =>
      ⟨interval.startNs, interval.endNs, interval.cpu⟩)

/- An event that begins or ends a run. -/
def isSwitch (event : LimeEvent) : Bool :=
  event.kind = .switchedIn || event.kind = .switchedOut

theorem residency_of_switchedIn
    (keepsRestarts : Bool)
    (active : Option (Int × Option Int))
    {event : LimeEvent}
    (hKind : event.kind = .switchedIn)
    (rest : List LimeEvent) :
    residency keepsRestarts active (event :: rest) =
      (if keepsRestarts then
        residenceUntil active event.ts
      else
        []) ++
        residency keepsRestarts (some (event.ts, event.cpu))
          rest := by
  simp [residency, hKind]

theorem residency_of_switchedOut
    (keepsRestarts : Bool)
    (active : Option (Int × Option Int))
    {event : LimeEvent}
    (hKind : event.kind = .switchedOut)
    (rest : List LimeEvent) :
    residency keepsRestarts active (event :: rest) =
      residenceUntil active event.ts ++
        residency keepsRestarts none rest := by
  simp [residency, hKind]

theorem residency_of_not_switch
    (keepsRestarts : Bool)
    (active : Option (Int × Option Int))
    {event : LimeEvent}
    (hIn : event.kind ≠ .switchedIn)
    (hOut : event.kind ≠ .switchedOut)
    (rest : List LimeEvent) :
    residency keepsRestarts active (event :: rest) =
      residency keepsRestarts active rest := by
  cases hKind : event.kind
  all_goals simp_all [residency]

/- No switch-in follows an earlier one without a switch-out. -/
def NeverRestarts (events : List LimeEvent) : Prop :=
  (events.filter isSwitch).IsChain (fun first next =>
    first.kind = .switchedIn → next.kind = .switchedIn →
      next.ts ≤ first.ts)

end

------------------------------------------------------------
-- Running Intervals Follow The Walk
------------------------------------------------------------

section

open Trace

theorem kind_eq_switchedIn_iff
    (event : LimeEvent) :
    event.kind = .switchedIn ↔
      event.event = "sched_switched_in" := by
  unfold LimeEvent.kind
  constructor
  · intro hKind
    by_contra hOther
    simp only [if_neg hOther] at hKind
    split_ifs at hKind
  · intro hIs
    have hFree : "sched_switched_in" ∉ blockingEvents := by
      decide
    simp [hIs, hFree]

theorem kind_eq_switchedOut_iff
    (event : LimeEvent) :
    event.kind = .switchedOut ↔
      event.event = "sched_switched_out" := by
  unfold LimeEvent.kind
  constructor
  · intro hKind
    by_contra hOther
    simp only [if_neg hOther] at hKind
    split_ifs at hKind
  · intro hIs
    have hFree : "sched_switched_out" ∉ blockingEvents := by
      decide
    simp [hIs, hFree]

/- The open interval, with a processor that is known. -/
def Running.residing (running : Running) :
    Option (Int × Option Int) :=
  running.active.map (fun (beginNs, cpu) =>
    (beginNs, some cpu))

/- A step adds the residence that ends there. -/
theorem runningStep_ok
    {running after : Running}
    {event : LimeEvent}
    (hStep : runningStep running event = .ok after)
    (rest : List LimeEvent) :
    after.intervals.map RunInterval.residence ++
        residency false after.residing rest =
      running.intervals.map RunInterval.residence ++
        residency false running.residing (event :: rest) := by
  unfold runningStep at hStep
  split at hStep
  next hIn =>
    rw [residency_of_switchedIn _ _
      ((kind_eq_switchedIn_iff event).mpr hIn)]
    split at hStep
    · cases hStep
    next cpu hCpu =>
      cases Except.ok.inj hStep
      simp [Running.residing, hCpu]
  next hNotIn =>
    have hKindIn : event.kind ≠ .switchedIn := by
      intro hKind
      exact hNotIn ((kind_eq_switchedIn_iff event).mp hKind)
    split at hStep
    next hOut =>
      rw [residency_of_switchedOut _ _
        ((kind_eq_switchedOut_iff event).mpr hOut)]
      split at hStep
      next hNone =>
        cases Except.ok.inj hStep
        simp [Running.residing, hNone, residenceUntil]
      next beginNs cpu hSome =>
        cases Except.ok.inj hStep
        simp only [Running.residing, hSome, residenceUntil,
          Option.map_some, Option.map_none]
        split
        · simp [RunInterval.residence]
        · simp
    next hNotOut =>
      have hKindOut : event.kind ≠ .switchedOut := by
        intro hKind
        exact hNotOut
          ((kind_eq_switchedOut_iff event).mp hKind)
      cases Except.ok.inj hStep
      rw [residency_of_not_switch _ _ hKindIn hKindOut]

/- Only a switch-in without a processor stops the loop. -/
theorem runningStep_isOk_iff
    (running : Running)
    (event : LimeEvent) :
    (∃ after, runningStep running event = .ok after) ↔
      (event.kind = .switchedIn → event.cpu ≠ none) := by
  rw [kind_eq_switchedIn_iff]
  unfold runningStep
  split
  next hIn =>
    cases hCpu : event.cpu with
    | none => simp [hIn]
    | some cpu => simp
  next hNotIn =>
    simp only [hNotIn, false_implies, iff_true]
    split
    · cases running.active with
      | none => exact ⟨_, rfl⟩
      | some active => exact ⟨_, rfl⟩
    · exact ⟨_, rfl⟩

theorem runningLoop_ok
    {events : List LimeEvent}
    {running after : Running}
    (hOk : events.foldlM runningStep running = .ok after) :
    after.intervals.map RunInterval.residence =
      running.intervals.map RunInterval.residence ++
        residency false running.residing events := by
  induction events generalizing running with
  | nil =>
      cases Except.ok.inj hOk
      simp [residency]
  | cons event rest ih =>
      rw [List.foldlM_cons] at hOk
      rcases bind_eq_ok.mp hOk with ⟨next, hStep, hRest⟩
      rw [ih hRest, runningStep_ok hStep]

theorem runningLoop_isOk_iff
    (events : List LimeEvent)
    (running : Running) :
    (∃ after, events.foldlM runningStep running = .ok after) ↔
      ∀ event ∈ events,
        event.kind = .switchedIn → event.cpu ≠ none := by
  induction events generalizing running with
  | nil => simp [pure, Except.pure]
  | cons event rest ih =>
      simp only [List.foldlM_cons, List.forall_mem_cons,
        ← runningStep_isOk_iff running event]
      constructor
      · intro hOk
        rcases hOk with ⟨after, hAfter⟩
        rcases bind_eq_ok.mp hAfter with ⟨next, hStep, hRest⟩
        exact ⟨⟨next, hStep⟩, (ih next).mp ⟨after, hRest⟩⟩
      · intro hBoth
        rcases hBoth with ⟨⟨next, hStep⟩, hAll⟩
        rcases (ih next).mpr hAll with ⟨after, hRest⟩
        exact ⟨after, bind_eq_ok.mpr ⟨next, hStep, hRest⟩⟩

/-
  On events in order the intervals are the residences that a
  switch-out ends, if every switch-in has a processor.
-/
theorem runningIntervals_eq_residency
    {events : List LimeEvent}
    (hSorted :
      events.Pairwise (fun first next =>
        first.ts ≤ next.ts))
    (residences : List Residence) :
    (∃ runs, runningIntervals events = .ok runs ∧
        runs.map RunInterval.residence = residences) ↔
      (∀ event ∈ events,
        event.kind = .switchedIn → event.cpu ≠ none) ∧
        residency false none events = residences := by
  have hOrder :
      events.insertionSort (fun first next =>
        first.ts ≤ next.ts) = events :=
    hSorted.insertionSort_eq
  rw [← runningLoop_isOk_iff events {}]
  unfold runningIntervals
  rw [hOrder]
  constructor
  · intro hOk
    rcases hOk with ⟨runs, hRuns, hSame⟩
    rcases bind_eq_ok.mp hRuns with ⟨after, hLoop, hPure⟩
    cases Except.ok.inj hPure
    have hWalk := runningLoop_ok hLoop
    exact ⟨⟨after, hLoop⟩, by
      simpa [Running.residing] using hWalk.symm.trans hSame⟩
  · intro hBoth
    rcases hBoth with ⟨⟨after, hLoop⟩, hSame⟩
    have hWalk := runningLoop_ok hLoop
    refine ⟨after.intervals, ?_, ?_⟩
    · rw [hLoop]
      rfl
    · rw [hWalk, ← hSame]
      simp [Running.residing]

end

------------------------------------------------------------
-- The Tracker Follows The Walk
------------------------------------------------------------

section

open Trace

/- The open interval of the tracker, if the thread runs. -/
def residing (tracker : Tracker) : Option (Int × Option Int) :=
  if tracker.currentState = some .running then
    tracker.currentStart.map (fun start =>
      (start, tracker.currentCpu))
  else
    none

theorem positiveRuns_append
    (first second : List Interval) :
    positiveRuns (first ++ second) =
      positiveRuns first ++ positiveRuns second := by
  simp [positiveRuns]

/- Closing at a time ends the open residence there. -/
theorem positiveRuns_close
    (labels : IntervalLabels)
    {tracker : Tracker}
    {timestamp : Int}
    (hLe : ∀ start ∈ tracker.currentStart, start ≤ timestamp) :
    positiveRuns (tracker.close labels timestamp).intervals =
      positiveRuns tracker.intervals ++
        residenceUntil (residing tracker) timestamp := by
  unfold Tracker.close residing
  split
  next state start hState hStart =>
    have hNot : ¬ timestamp < start :=
      not_lt.mpr (hLe start hStart)
    rw [if_neg hNot]
    simp only [positiveRuns_append, hState, hStart]
    congr 1
    by_cases hRuns : state = .running
    · simp [positiveRuns, Tracker.interval, hRuns,
        residenceUntil, List.filter_cons]
      split <;> simp
    · simp [positiveRuns, Tracker.interval, hRuns,
        residenceUntil]
  next hEither =>
    cases hState : tracker.currentState with
    | none => simp [residenceUntil]
    | some state =>
        cases hStart : tracker.currentStart with
        | none => simp [residenceUntil]
        | some start =>
            exact absurd hStart (hEither state start hState)

/- A wake-up does not touch a residence. -/
theorem positiveRuns_wake
    (labels : IntervalLabels)
    {tracker : Tracker}
    {event : LimeEvent}
    (hLe : ∀ start ∈ tracker.currentStart, start ≤ event.ts) :
    positiveRuns (tracker.wake labels event).intervals =
        positiveRuns tracker.intervals ∧
      residing (tracker.wake labels event) =
        residing tracker := by
  have hClose := positiveRuns_close labels hLe
  unfold Tracker.wake
  by_cases hSleeping : tracker.currentState = some .sleeping
  · have hAway : residing tracker = none := by
      simp [residing, hSleeping]
    have hSame :
        positiveRuns
            (tracker.close labels event.ts).intervals =
          positiveRuns tracker.intervals := by
      simpa [hAway, residenceUntil] using hClose
    simp only [if_pos hSleeping]
    split
    · exact ⟨hSame, by simp [residing, hSleeping]⟩
    next hLeft =>
      -- The sleep could not be closed, and goes on.
      have hStill :
          (tracker.close labels event.ts) = tracker := by
        unfold Tracker.close at hLeft ⊢
        split
        next state start hState hStart =>
          split
          · rfl
          next hInOrder =>
            simp [hState, hStart, if_neg hInOrder] at hLeft
        · rfl
      rw [hStill]
      exact ⟨rfl, rfl⟩
  · simp only [if_neg hSleeping]
    split
    next hNone => exact ⟨rfl, by simp [residing, hNone]⟩
    · exact ⟨rfl, rfl⟩

/- An event that is no exit adds what the walk adds. -/
theorem positiveRuns_step
    (labels : IntervalLabels)
    {tracker : Tracker}
    {event : LimeEvent}
    (hLe : ∀ start ∈ tracker.currentStart, start ≤ event.ts)
    (hNoExit : event.kind ≠ .exit)
    (rest : List LimeEvent) :
    positiveRuns (tracker.step labels event).intervals ++
        residency true
          (residing (tracker.step labels event)) rest =
      positiveRuns tracker.intervals ++
        residency true (residing tracker)
          (event :: rest) := by
  have hClose := positiveRuns_close labels hLe
  unfold Tracker.step
  cases hKind : event.kind with
  | switchedIn =>
      rw [residency_of_switchedIn _ _ hKind]
      simp only [Tracker.switchIn, hClose, if_true,
        List.append_assoc]
      rfl
  | switchedOut =>
      rw [residency_of_switchedOut _ _ hKind]
      simp only [Tracker.switchOut, hClose,
        List.append_assoc]
      have hAway :
          ∀ state : Int,
            ¬ some (if state = 0 then SchedState.ready
              else SchedState.sleeping) =
                some SchedState.running := by
        intro state
        split <;> simp
      simp only [residing, if_neg (hAway _)]
  | wakeUp =>
      rcases positiveRuns_wake labels hLe with ⟨hRuns, hSame⟩
      rw [residency_of_not_switch _ _ (by simp [hKind])
        (by simp [hKind])]
      simp only [hRuns, hSame]
  | blocking =>
      rw [residency_of_not_switch _ _ (by simp [hKind])
        (by simp [hKind])]
      rfl
  | exit => exact absurd hKind hNoExit
  | other =>
      rw [residency_of_not_switch _ _ (by simp [hKind])
        (by simp [hKind])]

/- The start of the open interval is a time already seen. -/
theorem currentStart_step_le
    (labels : IntervalLabels)
    {tracker : Tracker}
    (hPaired : tracker.Paired)
    {event : LimeEvent}
    (hLe : ∀ start ∈ tracker.currentStart, start ≤ event.ts) :
    ∀ start ∈ (tracker.step labels event).currentStart,
      start ≤ event.ts := by
  intro start hStart
  rcases (tracker.step_cases labels hPaired hLe).2 with
    ⟨-, hSame, -⟩ | ⟨-, hNow, -⟩ | ⟨-, hNone, -⟩
  · exact hLe start (hSame ▸ hStart)
  · rw [hNow] at hStart
    exact (Option.some.inj hStart).ge
  · rw [hNone] at hStart
    cases hStart

/- What an event makes of the open residence. -/
def switched
    (active : Option (Int × Option Int))
    (event : LimeEvent) : Option (Int × Option Int) :=
  match event.kind with
  | .switchedIn => some (event.ts, event.cpu)
  | .switchedOut => none
  | _ => active

theorem residing_step
    (labels : IntervalLabels)
    {tracker : Tracker}
    {event : LimeEvent}
    (hLe : ∀ start ∈ tracker.currentStart, start ≤ event.ts)
    (hNoExit : event.kind ≠ .exit) :
    residing (tracker.step labels event) =
      switched (residing tracker) event := by
  unfold Tracker.step switched
  cases hKind : event.kind with
  | switchedIn => simp [Tracker.switchIn, residing]
  | switchedOut =>
      simp only [Tracker.switchOut, residing]
      split <;> simp
  | wakeUp => exact (positiveRuns_wake labels hLe).2
  | blocking => rfl
  | exit => exact absurd hKind hNoExit
  | other => rfl

/-
  What a run over events in order without an exit leaves: the
  residences that any switch ended, and the one still open.
-/
theorem tracker_follows
    (labels : IntervalLabels)
    {events : List LimeEvent}
    (hSorted :
      events.Pairwise (fun first next =>
        first.ts ≤ next.ts))
    (hNoExit : ∀ event ∈ events, event.kind ≠ .exit)
    {finish : Int}
    (hFinish : ∀ event ∈ events, event.ts ≤ finish)
    {tracker : Tracker}
    (hPaired : tracker.Paired)
    (hStarted : ∀ start ∈ tracker.currentStart, start ≤ finish)
    (hLe :
      ∀ event ∈ events, ∀ start ∈ tracker.currentStart,
        start ≤ event.ts) :
    let after := events.foldl (Tracker.step labels) tracker
    positiveRuns after.intervals =
        positiveRuns tracker.intervals ++
          residency true (residing tracker) events ∧
      residing after = events.foldl switched
        (residing tracker) ∧
      ∀ start ∈ after.currentStart, start ≤ finish := by
  induction events generalizing tracker with
  | nil => exact ⟨by simp [residency], rfl, hStarted⟩
  | cons event rest ih =>
      rcases List.pairwise_cons.mp hSorted with ⟨hFirst, hRest⟩
      have hNow := hLe event List.mem_cons_self
      have hKind := hNoExit event List.mem_cons_self
      have hStart :=
        currentStart_step_le labels hPaired hNow
      have hLater :=
        ih hRest
          (fun later hIn =>
            hNoExit later (List.mem_cons_of_mem _ hIn))
          (fun later hIn =>
            hFinish later (List.mem_cons_of_mem _ hIn))
          (tracker.step_cases labels hPaired hNow).1
          (fun start hIs =>
            (hStart start hIs).trans
              (hFinish event List.mem_cons_self))
          (fun later hIn start hIs =>
            (hStart start hIs).trans (hFirst later hIn))
      refine ⟨?_, ?_, hLater.2.2⟩
      · exact hLater.1.trans
          (positiveRuns_step labels hNow hKind rest)
      · have hStep := residing_step labels hNow hKind
        simpa only [List.foldl_cons, hStep] using hLater.2.1

/- After a last switch-out nothing is open. -/
theorem foldl_switched_eq_none
    {events : List LimeEvent}
    (hLast :
      ∀ event ∈ (events.filter isSwitch).getLast?,
        event.kind = .switchedOut) :
    events.foldl switched none = none := by
  induction events using List.reverseRecOn with
  | nil => rfl
  | append_singleton events event ih =>
      rw [List.foldl_append]
      by_cases hSwitch : isSwitch event = true
      · have hOut : event.kind = .switchedOut := by
          apply hLast
          simp [hSwitch]
        simp [switched, hOut]
      · have hSame :
            (events ++ [event]).filter isSwitch =
              events.filter isSwitch := by
          simp [hSwitch]
        rw [hSame] at hLast
        rw [ih hLast]
        simp only [isSwitch, Bool.or_eq_true,
          decide_eq_true_eq, not_or] at hSwitch
        cases hKind : event.kind
        all_goals simp_all [switched]

/-
  The positive running intervals of a window are the
  residences that any switch ends, if the last switch is a
  switch-out.
-/
theorem positiveRuns_eq_residency
    {events : List LimeEvent}
    {begin finish : Int}
    (labels : IntervalLabels)
    (hSorted :
      events.Pairwise (fun first next =>
        first.ts ≤ next.ts))
    (hNoExit : ∀ event ∈ events, event.kind ≠ .exit)
    (hLast :
      ∀ event ∈ (events.filter isSwitch).getLast?,
        event.kind = .switchedOut)
    (hWindow :
      ∀ event ∈ events, begin ≤ event.ts ∧ event.ts ≤ finish) :
    positiveRuns
        (schedulerIntervals events begin finish labels).1 =
      residency true none events := by
  have hAll :
      relevantEvents events begin finish = events := by
    apply List.filter_eq_self.mpr
    intro event hEvent
    simpa using hWindow event hEvent
  rcases @tracker_follows labels events hSorted hNoExit finish
      (fun event hEvent => (hWindow event hEvent).2) {}
      (by simp [Tracker.Paired]) (by simp) (by simp) with
    ⟨hRuns, hResiding, hStarted⟩
  have hAway :
      residing (events.foldl (Tracker.step labels) {}) =
        none :=
    hResiding.trans (foldl_switched_eq_none hLast)
  simp only [schedulerIntervals, hAll]
  rw [positiveRuns_close labels hStarted, hRuns, hAway]
  simp [residenceUntil, positiveRuns, residing]

end

------------------------------------------------------------
-- Agreement
------------------------------------------------------------

open Trace

theorem residenceUntil_eq_nil_iff
    (active : Option (Int × Option Int))
    (timestamp : Int) :
    residenceUntil active timestamp = [] ↔
      ∀ beginNs cpu, active = some (beginNs, cpu) →
        timestamp ≤ beginNs := by
  unfold residenceUntil
  split
  · simp
  next beginNs cpu =>
    split
    next hLt =>
      simp only [List.cons_ne_nil, false_iff, not_forall]
      exact ⟨beginNs, cpu, rfl, by omega⟩
    next hLe =>
      simp only [true_iff, Option.some.injEq, Prod.mk.injEq]
      rintro _ _ ⟨hBegin, -⟩
      omega

/- With the restarts there are no fewer residences. -/
theorem residency_length_le
    (active : Option (Int × Option Int))
    (events : List LimeEvent) :
    (residency false active events).length ≤
      (residency true active events).length := by
  induction events generalizing active with
  | nil => exact le_refl _
  | cons event rest ih =>
      by_cases hIn : event.kind = .switchedIn
      · have hRest := ih (some (event.ts, event.cpu))
        simp only [residency_of_switchedIn _ _ hIn, if_true,
          List.length_append]
        simp only [Bool.false_eq_true, if_false,
          List.length_nil]
        omega
      · by_cases hOut : event.kind = .switchedOut
        · have hRest := ih none
          simp only [residency_of_switchedOut _ _ hOut,
            List.length_append]
          omega
        · simp only [residency_of_not_switch _ _ hIn hOut]
          exact ih active

/-
  The two walks agree unless a switch-in ends a residence
  that has a length.
-/
theorem residency_eq_iff
    (active : Option (Int × Option Int))
    (events : List LimeEvent) :
    residency false active events =
        residency true active events ↔
      (∀ beginNs cpu, active = some (beginNs, cpu) →
        ∀ next ∈ (events.filter isSwitch).head?,
          next.kind = .switchedIn → next.ts ≤ beginNs) ∧
        NeverRestarts events := by
  unfold NeverRestarts
  induction events generalizing active with
  | nil => simp [residency]
  | cons event rest ih =>
      by_cases hIn : event.kind = .switchedIn
      · have hSwitch : isSwitch event = true := by
          simp [isSwitch, hIn]
        have hRest := ih (some (event.ts, event.cpu))
        simp only [residency_of_switchedIn _ _ hIn,
          Bool.false_eq_true, if_false, if_true,
          List.nil_append]
        rw [List.filter_cons_of_pos hSwitch,
          List.isChain_cons]
        constructor
        · intro hSame
          -- The restart would be one residence too many.
          have hLength := congrArg List.length hSame
          have hMore := residency_length_le
            (some (event.ts, event.cpu)) rest
          rw [List.length_append] at hLength
          have hNone :
              residenceUntil active event.ts = [] :=
            List.eq_nil_of_length_eq_zero (by omega)
          rw [hNone, List.nil_append] at hSame
          rcases hRest.mp hSame with ⟨hHead, hChain⟩
          refine ⟨?_, ?_, hChain⟩
          · intro beginNs cpu hActive next hNext _
            cases Option.some.inj hNext
            exact (residenceUntil_eq_nil_iff _ _).mp hNone
              beginNs cpu hActive
          · intro next hNext _ hNextIn
            exact hHead event.ts event.cpu rfl next hNext
              hNextIn
        · intro hBoth
          rcases hBoth with ⟨hActive, hHead, hChain⟩
          have hNone :
              residenceUntil active event.ts = [] := by
            apply (residenceUntil_eq_nil_iff _ _).mpr
            intro beginNs cpu hIs
            exact hActive beginNs cpu hIs event rfl hIn
          rw [hNone, List.nil_append]
          apply hRest.mpr
          refine ⟨?_, hChain⟩
          intro beginNs cpu hIs next hNext hNextIn
          cases Option.some.inj hIs
          exact hHead next hNext hIn hNextIn
      · by_cases hOut : event.kind = .switchedOut
        · have hSwitch : isSwitch event = true := by
            simp [isSwitch, hOut]
          simp only [residency_of_switchedOut _ _ hOut,
            List.append_cancel_left_eq, ih none,
            List.filter_cons_of_pos hSwitch,
            List.isChain_cons]
          simp [hOut]
        · have hOther : ¬ isSwitch event = true := by
            simp [isSwitch, hIn, hOut]
          simp only [residency_of_not_switch _ _ hIn hOut,
            List.filter_cons_of_neg hOther]
          exact ih active

/-
  The two reconstructions agree exactly if every switch-in
  names its processor and none follows an earlier switch-in
  without a switch-out between them.
-/
theorem runningIntervals_agree_iff
    (events : List LimeEvent)
    (begin finish : Int)
    (labels : IntervalLabels)
    (hSorted :
      events.Pairwise (fun first next =>
        first.ts ≤ next.ts))
    (hNoExit : ∀ event ∈ events, event.kind ≠ .exit)
    (hLast :
      ∀ event ∈ (events.filter isSwitch).getLast?,
        event.kind = .switchedOut)
    (hWindow :
      ∀ event ∈ events, begin ≤ event.ts ∧ event.ts ≤ finish) :
    (∃ runs, runningIntervals events = .ok runs ∧
        runs.map RunInterval.residence =
          positiveRuns
            (schedulerIntervals events begin finish
              labels).1) ↔
      (∀ event ∈ events,
        event.kind = .switchedIn → event.cpu ≠ none) ∧
        NeverRestarts events := by
  rw [positiveRuns_eq_residency labels hSorted hNoExit hLast
      hWindow,
    runningIntervals_eq_residency hSorted, residency_eq_iff]
  simp

/- Two switch-ins whose switch-out between them was lost. -/
def lostSwitchOut : List LimeEvent :=
  [{ ts := 1, event := "sched_switched_in", cpu := some 0 },
    { ts := 5, event := "sched_switched_in", cpu := some 0 },
    { ts := 9, event := "sched_switched_out", cpu := some 0 }]

/- The first of the two times is known to one side only. -/
theorem lostSwitchOut_disagrees :
    lostSwitchOut.Pairwise (fun first next =>
        first.ts ≤ next.ts) ∧
      (∀ event ∈ lostSwitchOut, event.kind ≠ .exit) ∧
      (∀ event ∈ (lostSwitchOut.filter isSwitch).getLast?,
        event.kind = .switchedOut) ∧
      (∀ event ∈ lostSwitchOut,
        0 ≤ event.ts ∧ event.ts ≤ 10) ∧
      (runningIntervals lostSwitchOut).map
          (List.map RunInterval.residence) =
        .ok [⟨5, 9, some 0⟩] ∧
      positiveRuns
          (schedulerIntervals lostSwitchOut 0 10
            ⟨1, 7, "worker", 0⟩).1 =
        [⟨1, 5, some 0⟩, ⟨5, 9, some 0⟩] ∧
      (runningIntervals lostSwitchOut).map
          (List.map RunInterval.residence) ≠
        .ok (positiveRuns
          (schedulerIntervals lostSwitchOut 0 10
            ⟨1, 7, "worker", 0⟩).1) := by
  decide +kernel

/- A thread that was preempted once. -/
def preemptedOnce : List LimeEvent :=
  [{ ts := 1, event := "sched_switched_in", cpu := some 0 },
    { ts := 5, event := "sched_switched_out", cpu := some 0 },
    { ts := 6, event := "sched_switched_in", cpu := some 1 },
    { ts := 9, event := "sched_switched_out", cpu := some 1 }]

theorem preemptedOnce_agrees :
    ∃ runs, runningIntervals preemptedOnce = .ok runs ∧
      runs.map RunInterval.residence =
        positiveRuns
          (schedulerIntervals preemptedOnce 0 10
            ⟨1, 7, "worker", 0⟩).1 :=
  (runningIntervals_agree_iff preemptedOnce 0 10
    ⟨1, 7, "worker", 0⟩ (by decide) (by decide) (by decide)
    (by decide)).mpr
    ⟨by decide, by simp [NeverRestarts, preemptedOnce]; decide⟩

end KernelTrace

end RsCamera
