import Mathlib.Algebra.BigOperators.Group.List.Basic
import Mathlib.Data.List.Chain
import Mathlib.Data.Rat.Defs
import RsCamera.Lib.Spans

/-
  The scheduling intervals of a traced thread inside a window
  (`scheduler_intervals` in `parse_startup_trace.py`).

  The tracker keeps one open interval.  Every event that sets
  a state closes it and opens the next one at the same time;
  only an exit leaves the thread without an interval.  The
  intervals therefore tile the window from the first such
  event on, but for the gaps behind exits.

  Times in milliseconds are rational.  An absent field of an
  event is `none`, and so is the empty text that stands for a
  missing processor.

  Key definitions include:
    * `LimeEvent`, `Interval`
    * `Tracker`, `Tracker.close`, `Tracker.step`
    * `schedulerIntervals`
    * `Tiled`

  Key theorems include:
    * `Tracker.step_cases`
    * `Tiled.step`, `Tiled.finished`
    * `schedulerIntervals_tiled`, `schedulerIntervals_tile`
    * `schedulerIntervals_recorded`
-/

------------------------------------------------------------
-- Events And Intervals
------------------------------------------------------------

namespace RsCamera

namespace Trace

/- The states of a thread. -/
inductive SchedState
| running
| ready
| sleeping
deriving Repr, DecidableEq

/- The fields of a scheduler event that are read. -/
structure LimeEvent where
  ts : Int
  event : String := ""
  cpu : Option Int := none
  state : Option Int := none
deriving Repr, DecidableEq

/- The calls in which a thread may wait. -/
def blockingEvents : List String :=
  ["enter_accept", "enter_clock_nano_sleep",
    "enter_epoll_pwait", "enter_futex",
    "enter_mq_timedreceive", "enter_msgrcv",
    "enter_nanosleep", "enter_pause", "enter_poll",
    "enter_pselect6", "enter_read_blk", "enter_read_chr",
    "enter_read_fifo", "enter_read_sock", "enter_recv",
    "enter_recvfrom", "enter_recvmsg", "enter_recvmmsg",
    "enter_rt_sigsuspend", "enter_select", "enter_semop",
    "enter_sig_timed_wait"]

/- What an event says of the scheduler. -/
inductive LimeKind
| blocking
| switchedIn
| switchedOut
| wakeUp
| exit
| other
deriving Repr, DecidableEq

/- The branch of the loop that an event takes. -/
def LimeEvent.kind (event : LimeEvent) : LimeKind :=
  if event.event ∈ blockingEvents then .blocking
  else if event.event = "sched_switched_in" then .switchedIn
  else if event.event = "sched_switched_out" then .switchedOut
  else if event.event = "sched_wake_up" ∨
      event.event = "sched_wake_up_new" then .wakeUp
  else if event.event = "sched_process_exit" then .exit
  else .other

/- An interval of the table. -/
structure Interval where
  cycle : Int
  tid : Int
  name : String
  state : SchedState
  startNs : Int
  endNs : Int
  startMs : ℚ
  endMs : ℚ
  durationMs : ℚ
  cpu : Option Int
  reason : String
deriving Repr, DecidableEq

/- What all intervals of a call are labelled with. -/
structure IntervalLabels where
  cycle : Int
  tid : Int
  name : String
  origin : Int
deriving Repr, DecidableEq

------------------------------------------------------------
-- The Tracker
------------------------------------------------------------

/- The variables of the loop. -/
structure Tracker where
  intervals : List Interval := []
  currentState : Option SchedState := none
  currentStart : Option Int := none
  currentCpu : Option Int := none
  currentReason : String := ""
  lastBlocking : String := ""
  firstRun : Option Int := none
  firstSleep : Option Int := none
deriving Repr, DecidableEq

/- The interval that is closed at a time. -/
def Tracker.interval
    (labels : IntervalLabels)
    (tracker : Tracker)
    (state : SchedState)
    (start timestamp : Int) : Interval where
  cycle := labels.cycle
  tid := labels.tid
  name := labels.name
  state := state
  startNs := start
  endNs := timestamp
  startMs := ((start - labels.origin : Int) : ℚ) / 1000000
  endMs := ((timestamp - labels.origin : Int) : ℚ) / 1000000
  durationMs := ((timestamp - start : Int) : ℚ) / 1000000
  cpu := tracker.currentCpu
  reason := tracker.currentReason

/- The open interval ends. -/
def Tracker.close
    (labels : IntervalLabels)
    (tracker : Tracker)
    (timestamp : Int) : Tracker :=
  match tracker.currentState, tracker.currentStart with
  | some state, some start =>
      if timestamp < start then
        tracker
      else
        { tracker with
          intervals :=
            tracker.intervals ++
              [tracker.interval labels state start timestamp]
          currentState := none
          currentStart := none }
  | _, _ => tracker

/- The thread begins to run. -/
def Tracker.switchIn
    (labels : IntervalLabels)
    (tracker : Tracker)
    (event : LimeEvent) : Tracker :=
  let closed := tracker.close labels event.ts
  { closed with
    currentState := some .running
    currentStart := some event.ts
    currentCpu := event.cpu
    currentReason := ""
    firstRun := closed.firstRun.or (some event.ts) }

/- The thread is ready or sleeps. -/
def Tracker.switchOut
    (labels : IntervalLabels)
    (tracker : Tracker)
    (event : LimeEvent) : Tracker :=
  let closed := tracker.close labels event.ts
  let state := event.state.getD 0
  { closed with
    currentState :=
      some (if state = 0 then .ready else .sleeping)
    currentStart := some event.ts
    currentCpu := event.cpu.or closed.currentCpu
    currentReason :=
      if state = 0 then
        "preempted"
      else if closed.lastBlocking ≠ "" then
        closed.lastBlocking
      else
        "task_state_" ++ toString state
    firstSleep :=
      if state ≠ 0 then
        closed.firstSleep.or (some event.ts)
      else
        closed.firstSleep }

/- A wake-up ends a sleep and is ignored while running. -/
def Tracker.wake
    (labels : IntervalLabels)
    (tracker : Tracker)
    (event : LimeEvent) : Tracker :=
  let closed :=
    if tracker.currentState = some .sleeping then
      tracker.close labels event.ts
    else
      tracker
  if closed.currentState = none then
    { closed with
      currentState := some .ready
      currentStart := some event.ts
      currentCpu := event.cpu
      currentReason := event.event }
  else
    closed

/- One event of the loop. -/
def Tracker.step
    (labels : IntervalLabels)
    (tracker : Tracker)
    (event : LimeEvent) : Tracker :=
  match event.kind with
  | .blocking => { tracker with lastBlocking := event.event }
  | .switchedIn => tracker.switchIn labels event
  | .switchedOut => tracker.switchOut labels event
  | .wakeUp => tracker.wake labels event
  | .exit => tracker.close labels event.ts
  | .other => tracker

/- The events that fall into a window. -/
def relevantEvents
    (events : List LimeEvent)
    (begin finish : Int) : List LimeEvent :=
  events.filter (fun event =>
    begin ≤ event.ts && event.ts ≤ finish)

/- `scheduler_intervals`. -/
def schedulerIntervals
    (events : List LimeEvent)
    (begin finish : Int)
    (labels : IntervalLabels) :
    List Interval × Option Int × Option Int :=
  let walked :=
    (relevantEvents events begin finish).foldl
      (Tracker.step labels) {}
  let closed := walked.close labels finish
  (closed.intervals, closed.firstRun, closed.firstSleep)

------------------------------------------------------------
-- Steps
------------------------------------------------------------

/- Events that leave the thread in a state. -/
def LimeEvent.setsState (event : LimeEvent) : Bool :=
  event.kind = .switchedIn || event.kind = .switchedOut ||
    event.kind = .wakeUp

/- The interval that is open is closed at a time. -/
structure Closes
    (tracker : Tracker)
    (timestamp : Int)
    (after : List Interval) : Prop where
  appended :
    ∃ interval start,
      tracker.currentStart = some start ∧
        interval.startNs = start ∧
        interval.endNs = timestamp ∧
        interval.durationMs =
          ((timestamp - start : Int) : ℚ) / 1000000 ∧
        after = tracker.intervals ++ [interval]

/- Nothing is open and nothing is closed. -/
structure Idle
    (tracker : Tracker)
    (after : List Interval) : Prop where
  start_none : tracker.currentStart = none
  same : after = tracker.intervals

/- A state and a start are known together. -/
def Tracker.Paired (tracker : Tracker) : Prop :=
  tracker.currentState = none ↔ tracker.currentStart = none

theorem Tracker.close_cases
    (labels : IntervalLabels)
    {tracker : Tracker}
    (hPaired : tracker.Paired)
    {timestamp : Int}
    (hLe : ∀ start ∈ tracker.currentStart, start ≤ timestamp) :
    (tracker.close labels timestamp).currentState = none ∧
      (tracker.close labels timestamp).currentStart = none ∧
      (Idle tracker (tracker.close labels timestamp).intervals ∨
        Closes tracker timestamp
          (tracker.close labels timestamp).intervals) := by
  unfold Tracker.close
  cases hState : tracker.currentState with
  | none =>
      have hStart := hPaired.mp hState
      simp only [hState, hStart, true_and]
      exact Or.inl ⟨hStart, rfl⟩
  | some state =>
      cases hStart : tracker.currentStart with
      | none =>
          rw [hPaired.mpr hStart] at hState
          cases hState
      | some start =>
          have hNot : ¬ timestamp < start := by
            have hStartLe := hLe start (by rw [hStart]; rfl)
            omega
          simp only [if_neg hNot, true_and]
          exact Or.inr
            ⟨⟨_, start, hStart, rfl, rfl, rfl, rfl⟩⟩

/-
  What an event does to the intervals: nothing, or it opens
  an interval behind those that are closed now, or it is an
  exit and leaves none open.
-/
theorem Tracker.step_cases
    (labels : IntervalLabels)
    {tracker : Tracker}
    (hPaired : tracker.Paired)
    {event : LimeEvent}
    (hLe : ∀ start ∈ tracker.currentStart, start ≤ event.ts) :
    (tracker.step labels event).Paired ∧
      (((tracker.step labels event).intervals =
            tracker.intervals ∧
          (tracker.step labels event).currentStart =
            tracker.currentStart ∧
          (event.setsState = true →
            tracker.currentStart ≠ none)) ∨
        (event.setsState = true ∧
          (tracker.step labels event).currentStart =
            some event.ts ∧
          (Idle tracker
              (tracker.step labels event).intervals ∨
            Closes tracker event.ts
              (tracker.step labels event).intervals)) ∨
        (event.kind = .exit ∧
          (tracker.step labels event).currentStart = none ∧
          Closes tracker event.ts
            (tracker.step labels event).intervals)) := by
  rcases tracker.close_cases labels hPaired hLe with
    ⟨hNoState, hNoStart, hClosed⟩
  unfold Tracker.step
  cases hKind : event.kind with
  | blocking =>
      refine ⟨hPaired, Or.inl ⟨rfl, rfl, ?_⟩⟩
      simp [LimeEvent.setsState, hKind]
  | switchedIn =>
      refine ⟨by simp [Tracker.Paired, Tracker.switchIn],
        Or.inr (Or.inl ⟨?_, rfl, hClosed⟩)⟩
      simp [LimeEvent.setsState, hKind]
  | switchedOut =>
      refine ⟨by simp [Tracker.Paired, Tracker.switchOut],
        Or.inr (Or.inl ⟨?_, rfl, hClosed⟩)⟩
      simp [LimeEvent.setsState, hKind]
  | wakeUp =>
      have hSets : event.setsState = true := by
        simp [LimeEvent.setsState, hKind]
      simp only
      unfold Tracker.wake
      by_cases hSleeping : tracker.currentState = some .sleeping
      · -- The sleep ends here.
        simp only [if_pos hSleeping, if_pos hNoState]
        exact ⟨by simp [Tracker.Paired],
          Or.inr (Or.inl ⟨hSets, trivial, hClosed⟩)⟩
      · simp only [if_neg hSleeping]
        by_cases hIdle : tracker.currentState = none
        · rw [if_pos hIdle]
          exact ⟨by simp [Tracker.Paired],
            Or.inr (Or.inl ⟨hSets, rfl,
              Or.inl ⟨hPaired.mp hIdle, rfl⟩⟩)⟩
        · rw [if_neg hIdle]
          refine ⟨hPaired, Or.inl ⟨rfl, rfl, ?_⟩⟩
          intro _ hNone
          exact hIdle (hPaired.mpr hNone)
  | exit =>
      refine ⟨by simp [Tracker.Paired, hNoState, hNoStart], ?_⟩
      rcases hClosed with hIdle | hCloses
      · left
        refine ⟨hIdle.same, ?_, ?_⟩
        · rw [hNoStart, hIdle.start_none]
        · simp [LimeEvent.setsState, hKind]
      · exact Or.inr (Or.inr ⟨rfl, hNoStart, hCloses⟩)
  | other =>
      refine ⟨hPaired, Or.inl ⟨rfl, rfl, ?_⟩⟩
      simp [LimeEvent.setsState, hKind]

------------------------------------------------------------
-- Tiled Windows
------------------------------------------------------------

/- One time is the other, or an exit lies between them. -/
def Reaches
    (seen : List LimeEvent)
    (earlier later : Int) : Prop :=
  earlier = later ∨
    ∃ event ∈ seen,
      event.kind = .exit ∧ earlier ≤ event.ts ∧
        event.ts ≤ later

section

variable {seen : List LimeEvent}
variable {begin now : Int}
variable {tracker next : Tracker}
variable {event : LimeEvent}

theorem Reaches.append
    {earlier later : Int}
    (hReaches : Reaches seen earlier later)
    (more : List LimeEvent) :
    Reaches (seen ++ more) earlier later := by
  rcases hReaches with hSame | ⟨event, hEvent, hExit⟩
  · exact Or.inl hSame
  · exact Or.inr
      ⟨event, List.mem_append_left _ hEvent, hExit⟩

/- Whether every closed interval reaches what comes next. -/
def LastReaches
    (seen : List LimeEvent)
    (now : Int)
    (tracker : Tracker) : Prop :=
  ∀ last ∈ tracker.intervals.getLast?,
    match tracker.currentStart with
    | some start => Reaches seen last.endNs start
    | none =>
        ∃ event ∈ seen,
          event.kind = .exit ∧ last.endNs ≤ event.ts ∧
            event.ts ≤ now

/- Without an exit the intervals fill the time. -/
def Gapless
    (seen : List LimeEvent)
    (tracker : Tracker) : Prop :=
  (∀ event ∈ seen, event.kind ≠ .exit) →
    match seen.find? LimeEvent.setsState with
    | none =>
        tracker.intervals = [] ∧ tracker.currentStart = none
    | some first =>
        ∃ start,
          tracker.currentStart = some start ∧
            Spans.Tiles Interval.startNs Interval.endNs
              first.ts start tracker.intervals

/- The intervals follow each other without gaps. -/
structure Tiled
    (begin now : Int)
    (seen : List LimeEvent)
    (tracker : Tracker) : Prop where
  paired : tracker.Paired
  within :
    Spans.Within Interval.startNs Interval.endNs begin
      (tracker.currentStart.getD now) tracker.intervals
  start_le : ∀ start ∈ tracker.currentStart, start ≤ now
  linked :
    tracker.intervals.IsChain (fun first second =>
      Reaches seen first.endNs second.startNs)
  last_reaches : LastReaches seen now tracker
  gapless : Gapless seen tracker
  exact :
    ∀ interval ∈ tracker.intervals,
      interval.durationMs =
        ((interval.endNs - interval.startNs : Int) : ℚ) /
          1000000

theorem tiled_start
    (begin : Int) :
    Tiled begin begin [] {} := by
  constructor
  · simp [Tracker.Paired]
  · exact le_refl begin
  · simp
  · exact List.isChain_nil
  · simp [LastReaches]
  · simp [Gapless]
  · simp

/- The intervals after one more was closed. -/
theorem Tiled.closes
    {tracker : Tracker}
    (hTiled : Tiled begin now seen tracker)
    {timestamp : Int}
    (hNow : now ≤ timestamp)
    {after : List Interval}
    (hCloses : Closes tracker timestamp after) :
    Spans.Within Interval.startNs Interval.endNs begin
        timestamp after ∧
      after.IsChain (fun first second =>
        Reaches seen first.endNs second.startNs) ∧
      (∀ last ∈ after.getLast?, last.endNs = timestamp) ∧
      (∀ interval ∈ after,
        interval.durationMs =
          ((interval.endNs - interval.startNs : Int) : ℚ) /
            1000000) ∧
      ((∀ event ∈ seen, event.kind ≠ .exit) →
        ∃ first,
          seen.find? LimeEvent.setsState = some first ∧
            Spans.Tiles Interval.startNs Interval.endNs
              first.ts timestamp after) := by
  rcases hCloses.appended with
    ⟨interval, start, hStart, hFrom, hTo, hDuration, hAfter⟩
  have hWithin := hTiled.within
  have hStartLe := hTiled.start_le start (by rw [hStart]; rfl)
  rw [hStart, Option.getD_some, ← hFrom] at hWithin
  have hSpan : interval.startNs ≤ interval.endNs := by
    omega
  subst hAfter
  refine ⟨?_, ?_, ?_, ?_, ?_⟩
  · rw [← hTo]
    exact hWithin.snoc hSpan (le_refl _)
  · rw [List.isChain_append]
    refine ⟨hTiled.linked, List.isChain_singleton _, ?_⟩
    intro last hLast next hNext
    cases hNext
    have hReaches := hTiled.last_reaches last hLast
    rw [hStart] at hReaches
    rw [hFrom]
    exact hReaches
  · intro last hLast
    rw [List.getLast?_concat] at hLast
    cases hLast
    exact hTo
  · intro other hOther
    rcases List.mem_append.mp hOther with hOld | hNew
    · exact hTiled.exact other hOld
    · rw [List.mem_singleton.mp hNew, hDuration, hFrom, hTo]
  · intro hNoExit
    have hFilled := hTiled.gapless hNoExit
    cases hFirst : seen.find? LimeEvent.setsState with
    | none =>
        rw [hFirst] at hFilled
        rw [hFilled.2] at hStart
        cases hStart
    | some first =>
        rw [hFirst] at hFilled
        rcases hFilled with ⟨opened, hOpened, hTiles⟩
        rw [hStart] at hOpened
        cases hOpened
        refine ⟨first, rfl, ?_⟩
        rw [← hFrom] at hTiles
        rw [← hTo]
        exact hTiles.snoc hSpan

theorem find?_append_singleton
    (seen : List LimeEvent)
    (event : LimeEvent) :
    (seen ++ [event]).find? LimeEvent.setsState =
      (seen.find? LimeEvent.setsState).or
        (if event.setsState then some event else none) := by
  rw [List.find?_append, List.find?_singleton]

/- Chains are kept when more events have been seen. -/
theorem linked_append
    {intervals : List Interval}
    (hLinked :
      intervals.IsChain (fun first second =>
        Reaches seen first.endNs second.startNs))
    (more : List LimeEvent) :
    intervals.IsChain (fun first second =>
      Reaches (seen ++ more) first.endNs second.startNs) :=
  hLinked.imp (fun _ _ hReaches => hReaches.append more)

/- An event that leaves the intervals as they are. -/
theorem Tiled.step_same
    (hTiled : Tiled begin now seen tracker)
    (hNow : now ≤ event.ts)
    (hPaired : next.Paired)
    (hIntervals : next.intervals = tracker.intervals)
    (hStart : next.currentStart = tracker.currentStart)
    (hSets :
      event.setsState = true → tracker.currentStart ≠ none) :
    Tiled begin event.ts (seen ++ [event]) next := by
  refine
    { paired := hPaired
      within := ?_
      start_le := ?_
      linked := ?_
      last_reaches := ?_
      gapless := ?_
      exact := by rw [hIntervals]; exact hTiled.exact }
  · rw [hStart, hIntervals]
    have hWithin := hTiled.within
    cases hOpen : tracker.currentStart with
    | some start =>
        rw [hOpen] at hWithin
        exact hWithin
    | none =>
        rw [hOpen] at hWithin
        exact hWithin.mono hNow
  · rw [hStart]
    intro start hOpen
    exact (hTiled.start_le start hOpen).trans hNow
  · rw [hIntervals]
    exact linked_append hTiled.linked [event]
  · intro last hLast
    rw [hIntervals] at hLast
    have hReaches := hTiled.last_reaches last hLast
    rw [hStart]
    cases hOpen : tracker.currentStart with
    | some start =>
        rw [hOpen] at hReaches
        exact hReaches.append [event]
    | none =>
        rw [hOpen] at hReaches
        rcases hReaches with
          ⟨exit, hExit, hKind, hBefore, hAfter⟩
        exact ⟨exit, List.mem_append_left _ hExit, hKind,
          hBefore, hAfter.trans hNow⟩
  · intro hNoExit
    have hFilled := hTiled.gapless
      (fun other hOther =>
        hNoExit other (List.mem_append_left _ hOther))
    rw [find?_append_singleton, hIntervals, hStart]
    cases hFirst : seen.find? LimeEvent.setsState with
    | some first =>
        rw [hFirst] at hFilled
        exact hFilled
    | none =>
        rw [hFirst] at hFilled
        have hQuiet : event.setsState = false := by
          rw [Bool.eq_false_iff]
          intro hIs
          exact hSets hIs hFilled.2
        rw [hQuiet]
        exact hFilled

/- An event that opens an interval where none was open. -/
theorem Tiled.step_open
    (hTiled : Tiled begin now seen tracker)
    (hNow : now ≤ event.ts)
    (hPaired : next.Paired)
    (hSets : event.setsState = true)
    (hStart : next.currentStart = some event.ts)
    (hIdle : Idle tracker next.intervals) :
    Tiled begin event.ts (seen ++ [event]) next := by
  have hNone := hIdle.start_none
  refine
    { paired := hPaired
      within := ?_
      start_le := ?_
      linked := ?_
      last_reaches := ?_
      gapless := ?_
      exact := by rw [hIdle.same]; exact hTiled.exact }
  · have hWithin := hTiled.within
    rw [hNone] at hWithin
    rw [hStart, hIdle.same]
    exact hWithin.mono hNow
  · rw [hStart]
    intro start hIs
    cases hIs
    exact le_refl _
  · rw [hIdle.same]
    exact linked_append hTiled.linked [event]
  · intro last hLast
    rw [hIdle.same] at hLast
    have hExit := hTiled.last_reaches last hLast
    rw [hNone] at hExit
    rcases hExit with ⟨exit, hExit, hKind, hBefore, hAfter⟩
    rw [hStart]
    exact Or.inr ⟨exit, List.mem_append_left _ hExit, hKind,
      hBefore, hAfter.trans hNow⟩
  · intro hNoExit
    have hFilled := hTiled.gapless
      (fun other hOther =>
        hNoExit other (List.mem_append_left _ hOther))
    rw [find?_append_singleton, hSets]
    cases hFirst : seen.find? LimeEvent.setsState with
    | some first =>
        rw [hFirst] at hFilled
        rcases hFilled with ⟨start, hOpen, -⟩
        rw [hNone] at hOpen
        cases hOpen
    | none =>
        rw [hFirst] at hFilled
        refine ⟨event.ts, hStart, ?_⟩
        rw [hIdle.same, hFilled.1]
        rfl

/- An event that closes an interval, and may open another. -/
theorem Tiled.step_close
    (hTiled : Tiled begin now seen tracker)
    (hNow : now ≤ event.ts)
    (hPaired : next.Paired)
    (hNext :
      next.currentStart = some event.ts ∨
        (next.currentStart = none ∧ event.kind = .exit))
    (hCloses : Closes tracker event.ts next.intervals) :
    Tiled begin event.ts (seen ++ [event]) next := by
  rcases hTiled.closes hNow hCloses with
    ⟨hWithin, hLinked, hLast, hExact, hFilled⟩
  have hGet : next.currentStart.getD event.ts = event.ts := by
    rcases hNext with hStart | hStart
    · rw [hStart]
      rfl
    · rw [hStart.1]
      rfl
  refine
    { paired := hPaired
      within := by rw [hGet]; exact hWithin
      start_le := ?_
      linked := linked_append hLinked [event]
      last_reaches := ?_
      gapless := ?_
      exact := hExact }
  · intro start hIs
    rcases hNext with hStart | hStart
    · rw [hStart] at hIs
      cases hIs
      exact le_refl _
    · rw [hStart.1] at hIs
      cases hIs
  · intro last hMember
    rcases hNext with hStart | hStart
    · rw [hStart]
      exact Or.inl (hLast last hMember)
    · rw [hStart.1]
      exact ⟨event, by simp, hStart.2,
        (hLast last hMember).le, le_refl _⟩
  · intro hNoExit
    rcases hNext with hStart | hStart
    · rcases hFilled (fun other hOther =>
        hNoExit other (List.mem_append_left _ hOther)) with
        ⟨first, hFirst, hTiles⟩
      rw [find?_append_singleton, hFirst]
      exact ⟨event.ts, hStart, hTiles⟩
    · exact absurd hStart.2 (hNoExit event (by simp))

theorem Tiled.step
    {tracker : Tracker}
    (hTiled : Tiled begin now seen tracker)
    (labels : IntervalLabels)
    (hNow : now ≤ event.ts) :
    Tiled begin event.ts (seen ++ [event])
      (tracker.step labels event) := by
  have hLe : ∀ start ∈ tracker.currentStart,
      start ≤ event.ts :=
    fun start hStart =>
      (hTiled.start_le start hStart).trans hNow
  rcases Tracker.step_cases labels hTiled.paired hLe with
    ⟨hPaired, hCases⟩
  rcases hCases with hSame | hOpens | hExit
  · rcases hSame with ⟨hIntervals, hStart, hSets⟩
    exact hTiled.step_same hNow hPaired hIntervals hStart hSets
  · rcases hOpens with ⟨hSets, hStart, hIdle | hCloses⟩
    · exact hTiled.step_open hNow hPaired hSets hStart hIdle
    · exact hTiled.step_close hNow hPaired (Or.inl hStart)
        hCloses
  · rcases hExit with ⟨hKind, hStart, hCloses⟩
    exact hTiled.step_close hNow hPaired
      (Or.inr ⟨hStart, hKind⟩) hCloses

end

------------------------------------------------------------
-- Whole Windows
------------------------------------------------------------

/- The intervals of a window, its last one closed. -/
structure TiledWindow
    (begin finish : Int)
    (relevant : List LimeEvent)
    (intervals : List Interval) : Prop where
  within :
    begin ≤ finish →
      Spans.Within Interval.startNs Interval.endNs begin
        finish intervals
  empty : finish < begin → intervals = []
  linked :
    intervals.IsChain (fun first second =>
      Reaches relevant first.endNs second.startNs)
  exact :
    ∀ interval ∈ intervals,
      interval.durationMs =
        ((interval.endNs - interval.startNs : Int) : ℚ) /
          1000000
  filled :
    (∀ event ∈ relevant, event.kind ≠ .exit) →
      match relevant.find? LimeEvent.setsState with
      | none => intervals = []
      | some first =>
          Spans.Tiles Interval.startNs Interval.endNs
            first.ts finish intervals

/- The time that a walk over sorted events has reached. -/
theorem tiled_walk
    (labels : IntervalLabels)
    {begin : Int}
    {relevant : List LimeEvent}
    (hSorted :
      relevant.Pairwise (fun first second =>
        first.ts ≤ second.ts))
    (hBegin : ∀ event ∈ relevant, begin ≤ event.ts) :
    ∃ now,
      Tiled begin now relevant
          (relevant.foldl (Tracker.step labels) {}) ∧
        (now = begin ∨ ∃ event ∈ relevant, now = event.ts) := by
  induction relevant using List.reverseRecOn with
  | nil => exact ⟨begin, tiled_start begin, Or.inl rfl⟩
  | append_singleton seen event ih =>
      rw [List.pairwise_append] at hSorted
      rcases hSorted with ⟨hSeen, -, hLast⟩
      rcases ih hSeen
        (fun other hOther =>
          hBegin other (List.mem_append_left _ hOther)) with
        ⟨now, hTiled, hNow⟩
      have hLe : now ≤ event.ts := by
        rcases hNow with hIs | ⟨other, hOther, hIs⟩
        · rw [hIs]
          exact hBegin event (by simp)
        · rw [hIs]
          exact hLast other hOther event (by simp)
      rw [List.foldl_concat]
      exact ⟨event.ts, hTiled.step labels hLe,
        Or.inr ⟨event, by simp, rfl⟩⟩

/- What closing the last interval makes of a walk. -/
theorem Tiled.finished
    {begin now finish : Int}
    {relevant : List LimeEvent}
    {tracker : Tracker}
    (hTiled : Tiled begin now relevant tracker)
    (labels : IntervalLabels)
    (hNow : now ≤ finish) :
    TiledWindow begin finish relevant
      (tracker.close labels finish).intervals := by
  have hBegin : begin ≤ finish := by
    have hLe := hTiled.within.le
    cases hOpen : tracker.currentStart with
    | none =>
        rw [hOpen] at hLe
        exact hLe.trans hNow
    | some start =>
        have hStart := hTiled.start_le start (by rw [hOpen]; rfl)
        rw [hOpen] at hLe
        exact (hLe.trans hStart).trans hNow
  have hBefore : ∀ start ∈ tracker.currentStart,
      start ≤ finish :=
    fun start hStart =>
      (hTiled.start_le start hStart).trans hNow
  rcases tracker.close_cases labels hTiled.paired hBefore with
    ⟨-, -, hIdle | hCloses⟩
  · have hWithin := hTiled.within
    rw [hIdle.start_none] at hWithin
    rw [hIdle.same]
    refine
      { within := fun _ => hWithin.mono hNow
        empty := fun hLt => absurd hLt (not_lt.mpr hBegin)
        linked := hTiled.linked
        exact := hTiled.exact
        filled := ?_ }
    intro hNoExit
    have hFilled := hTiled.gapless hNoExit
    cases hFirst : relevant.find? LimeEvent.setsState with
    | none =>
        rw [hFirst] at hFilled
        exact hFilled.1
    | some first =>
        rw [hFirst] at hFilled
        rcases hFilled with ⟨start, hOpen, -⟩
        rw [hIdle.start_none] at hOpen
        cases hOpen
  · rcases hTiled.closes hNow hCloses with
      ⟨hWithin, hLinked, -, hExact, hFilled⟩
    refine
      { within := fun _ => hWithin
        empty := fun hLt => absurd hLt (not_lt.mpr hBegin)
        linked := hLinked
        exact := hExact
        filled := ?_ }
    intro hNoExit
    rcases hFilled hNoExit with ⟨first, hFirst, hTiles⟩
    rw [hFirst]
    exact hTiles

theorem mem_relevantEvents
    {events : List LimeEvent}
    {begin finish : Int}
    {event : LimeEvent} :
    event ∈ relevantEvents events begin finish ↔
      event ∈ events ∧ begin ≤ event.ts ∧
        event.ts ≤ finish := by
  simp [relevantEvents]

theorem schedulerIntervals_tiled
    {events : List LimeEvent}
    (hSorted :
      events.Pairwise (fun first second =>
        first.ts ≤ second.ts))
    (begin finish : Int)
    (labels : IntervalLabels) :
    TiledWindow begin finish
      (relevantEvents events begin finish)
      (schedulerIntervals events begin finish labels).1 := by
  have hRelevant :
      (relevantEvents events begin finish).Pairwise
        (fun first second => first.ts ≤ second.ts) :=
    hSorted.filter _
  rcases tiled_walk labels hRelevant
    (fun event hEvent => (mem_relevantEvents.mp hEvent).2.1)
    with ⟨now, hTiled, hNow⟩
  rcases lt_or_ge finish now with hLt | hLe
  · -- The window is turned around and no event lies in it.
    have hNone : relevantEvents events begin finish = [] := by
      rw [List.eq_nil_iff_forall_not_mem]
      intro event hEvent
      have hIn := (mem_relevantEvents.mp hEvent).2
      rcases hNow with hIs | ⟨other, hOther, hIs⟩
      · omega
      · have hOtherIn := (mem_relevantEvents.mp hOther).2
        omega
    have hBegin : now = begin := by
      rcases hNow with hIs | ⟨other, hOther, -⟩
      · exact hIs
      · rw [hNone] at hOther
        cases hOther
    have hEmpty :
        (schedulerIntervals events begin finish labels).1 =
          [] := by
      unfold schedulerIntervals
      rw [hNone]
      rfl
    rw [hNone, hEmpty]
    refine
      { within := fun hWindow => by omega
        empty := fun _ => rfl
        linked := List.isChain_nil
        exact := by simp
        filled := fun _ => rfl }
  · exact hTiled.finished labels hLe

------------------------------------------------------------
-- Events In Any Order
------------------------------------------------------------

/- What holds of an interval whatever the order of events. -/
structure Recorded
    (finish : Int)
    (interval : Interval) : Prop where
  start_le : interval.startNs ≤ finish
  exact :
    interval.durationMs =
      ((interval.endNs - interval.startNs : Int) : ℚ) /
        1000000

/- Nothing reaches beyond the window. -/
structure Tracker.Bounded
    (finish : Int)
    (tracker : Tracker) : Prop where
  recorded :
    ∀ interval ∈ tracker.intervals, Recorded finish interval
  start_le : ∀ start ∈ tracker.currentStart, start ≤ finish

theorem Tracker.Bounded.close
    {finish : Int}
    {tracker : Tracker}
    (hBounded : tracker.Bounded finish)
    (labels : IntervalLabels)
    (timestamp : Int) :
    (tracker.close labels timestamp).Bounded finish := by
  unfold Tracker.close
  split
  · rename_i state start hState hStart
    split
    · exact hBounded
    · constructor
      · intro interval hInterval
        rcases List.mem_append.mp hInterval with hOld | hNew
        · exact hBounded.recorded interval hOld
        · rw [List.mem_singleton.mp hNew]
          exact ⟨hBounded.start_le start (by rw [hStart]; rfl),
            rfl⟩
      · simp
  · exact hBounded

theorem Tracker.Bounded.step
    {finish : Int}
    {tracker : Tracker}
    (hBounded : tracker.Bounded finish)
    (labels : IntervalLabels)
    {event : LimeEvent}
    (hEvent : event.ts ≤ finish) :
    (tracker.step labels event).Bounded finish := by
  have hClosed := hBounded.close labels event.ts
  unfold Tracker.step
  cases event.kind with
  | blocking => exact ⟨hBounded.recorded, hBounded.start_le⟩
  | switchedIn =>
      exact ⟨hClosed.recorded,
        by simpa [Tracker.switchIn] using hEvent⟩
  | switchedOut =>
      exact ⟨hClosed.recorded,
        by simpa [Tracker.switchOut] using hEvent⟩
  | wakeUp =>
      simp only [Tracker.wake]
      split_ifs
      · exact ⟨hClosed.recorded, by simpa using hEvent⟩
      · exact hClosed
      · exact ⟨hBounded.recorded, by simpa using hEvent⟩
      · exact hBounded
  | exit => exact hClosed
  | other => exact hBounded

theorem schedulerIntervals_recorded
    (events : List LimeEvent)
    (begin finish : Int)
    (labels : IntervalLabels) :
    ∀ interval ∈
        (schedulerIntervals events begin finish labels).1,
      Recorded finish interval := by
  have hWalked :
      ∀ relevant : List LimeEvent,
        (∀ event ∈ relevant, event.ts ≤ finish) →
          (relevant.foldl (Tracker.step labels)
            {}).Bounded finish := by
    intro relevant
    induction relevant using List.reverseRecOn with
    | nil =>
        intro _
        exact ⟨by simp, by simp⟩
    | append_singleton seen event ih =>
        intro hRelevant
        rw [List.foldl_concat]
        refine Tracker.Bounded.step (ih ?_) labels
          (hRelevant event (by simp))
        intro other hOther
        exact hRelevant other (List.mem_append_left _ hOther)
  have hBounded :=
    (hWalked (relevantEvents events begin finish)
      (fun event hEvent =>
        (mem_relevantEvents.mp hEvent).2.2)).close labels
      finish
  exact hBounded.recorded

------------------------------------------------------------
-- Durations
------------------------------------------------------------

theorem TiledWindow.bounds
    {begin finish : Int}
    {relevant : List LimeEvent}
    {intervals : List Interval}
    (hTiled : TiledWindow begin finish relevant intervals) :
    ∀ interval ∈ intervals,
      begin ≤ interval.startNs ∧
        interval.startNs ≤ interval.endNs ∧
        interval.endNs ≤ finish := by
  intro interval hInterval
  rcases lt_or_ge finish begin with hLt | hLe
  · rw [hTiled.empty hLt] at hInterval
    cases hInterval
  · exact (hTiled.within hLe).mem hInterval

theorem TiledWindow.apart
    {begin finish : Int}
    {relevant : List LimeEvent}
    {intervals : List Interval}
    (hTiled : TiledWindow begin finish relevant intervals) :
    intervals.Pairwise (fun first second =>
      first.startNs ≤ second.startNs ∧
        first.endNs ≤ second.startNs) := by
  rcases lt_or_ge finish begin with hLt | hLe
  · rw [hTiled.empty hLt]
    exact List.Pairwise.nil
  · refine (hTiled.within hLe).pairwise.imp_of_mem ?_
    intro first second hFirst _ hBefore
    exact ⟨(hTiled.bounds first hFirst).2.1.trans hBefore,
      hBefore⟩

/- The nanoseconds that are spent in a state. -/
def stateNs
    (state : SchedState)
    (intervals : List Interval) : Int :=
  ((intervals.filter (fun interval =>
      interval.state = state)).map
    (fun interval => interval.endNs - interval.startNs)).sum

theorem stateNs_cons
    (state : SchedState)
    (interval : Interval)
    (intervals : List Interval) :
    stateNs state (interval :: intervals) =
      (if interval.state = state then
        interval.endNs - interval.startNs else 0) +
        stateNs state intervals := by
  unfold stateNs
  by_cases hState : interval.state = state
  · simp [hState]
  · simp [hState]

/- Every interval is in one of the three states. -/
theorem stateNs_total
    (intervals : List Interval) :
    stateNs .running intervals + stateNs .ready intervals +
        stateNs .sleeping intervals =
      Spans.length Interval.startNs Interval.endNs
        intervals := by
  induction intervals with
  | nil => rfl
  | cons interval rest ih =>
      rw [Spans.length, List.map_cons, List.sum_cons,
        ← Spans.length, ← ih]
      simp only [stateNs_cons]
      cases interval.state with
      | running => simp only [if_true, reduceCtorEq, if_false]; omega
      | ready => simp only [if_true, reduceCtorEq, if_false]; omega
      | sleeping => simp only [if_true, reduceCtorEq, if_false]; omega

theorem kind_eq_exit_iff
    {event : LimeEvent} :
    event.kind = .exit ↔
      event.event = "sched_process_exit" := by
  constructor
  · intro hKind
    unfold LimeEvent.kind at hKind
    split_ifs at hKind
    assumption
  · intro hEvent
    rw [LimeEvent.kind, hEvent]
    rfl

/-
  The intervals are in order and inside the window, and they
  follow one another without a gap where no exit separates
  them.  The times of the three states therefore add up to
  no more than the window, and without an exit to all of it
  from the first event on that sets a state.
-/
theorem schedulerIntervals_tile
    (events : List LimeEvent)
    (hSorted :
      events.Pairwise (fun first second =>
        first.ts ≤ second.ts))
    (begin finish : Int)
    (labels : IntervalLabels) :
    (schedulerIntervals events begin finish labels).1.Pairwise
        (fun first second =>
          first.startNs ≤ second.startNs ∧
            first.endNs ≤ second.startNs) ∧
      (∀ interval ∈
          (schedulerIntervals events begin finish labels).1,
        begin ≤ interval.startNs ∧
          interval.startNs ≤ interval.endNs ∧
          interval.endNs ≤ finish) ∧
      (schedulerIntervals events begin finish labels).1.IsChain
        (fun first second =>
          first.endNs = second.startNs ∨
            ∃ event ∈ events,
              event.event = "sched_process_exit" ∧
                begin ≤ event.ts ∧ event.ts ≤ finish ∧
                first.endNs ≤ event.ts ∧
                event.ts ≤ second.startNs) ∧
      (begin ≤ finish →
        stateNs .running
              (schedulerIntervals events begin finish labels).1 +
            stateNs .ready
              (schedulerIntervals events begin finish labels).1 +
            stateNs .sleeping
              (schedulerIntervals events begin finish labels).1 ≤
          finish - begin) ∧
      ((∀ event ∈ events, begin ≤ event.ts →
          event.ts ≤ finish →
          event.event ≠ "sched_process_exit") →
        stateNs .running
              (schedulerIntervals events begin finish labels).1 +
            stateNs .ready
              (schedulerIntervals events begin finish labels).1 +
            stateNs .sleeping
              (schedulerIntervals events begin finish labels).1 =
          match (relevantEvents events begin finish).find?
            LimeEvent.setsState with
          | some first => finish - first.ts
          | none => 0) := by
  have hTiled :=
    schedulerIntervals_tiled hSorted begin finish labels
  revert hTiled
  generalize
    (schedulerIntervals events begin finish labels).1 =
      intervals
  intro hTiled
  refine ⟨hTiled.apart, hTiled.bounds, ?_, ?_, ?_⟩
  · refine hTiled.linked.imp ?_
    intro first second hReaches
    rcases hReaches with
      hSame | ⟨event, hEvent, hKind, hBefore, hAfter⟩
    · exact Or.inl hSame
    · rcases mem_relevantEvents.mp hEvent with
        ⟨hIn, hFrom, hTo⟩
      exact Or.inr ⟨event, hIn, kind_eq_exit_iff.mp hKind,
        hFrom, hTo, hBefore, hAfter⟩
  · intro hWindow
    rw [stateNs_total]
    exact (hTiled.within hWindow).length_le
  · intro hNoExit
    have hFilled := hTiled.filled (by
      intro event hEvent hKind
      rcases mem_relevantEvents.mp hEvent with
        ⟨hIn, hFrom, hTo⟩
      exact hNoExit event hIn hFrom hTo
        (kind_eq_exit_iff.mp hKind))
    rw [stateNs_total]
    split
    · rename_i first hFirst
      rw [hFirst] at hFilled
      exact hFilled.length_eq
    · rename_i hNone
      rw [hNone] at hFilled
      rw [hFilled]
      rfl

/- A thread that runs, is woken while it runs and exits. -/
def exitedThread : List LimeEvent :=
  [{ ts := 2, event := "sched_wake_up_new" },
    { ts := 3, event := "sched_switched_in", cpu := some 1 },
    { ts := 5, event := "sched_wake_up" },
    { ts := 6, event := "sched_process_exit" },
    { ts := 8, event := "sched_switched_in", cpu := some 2 }]

theorem exitedThread_tile :
    ((schedulerIntervals exitedThread 1 9
          { cycle := 0, tid := 7, name := "a", origin := 0 }).1.map
        (fun interval =>
          (interval.state, interval.startNs, interval.endNs)) =
      [(.ready, 2, 3), (.running, 3, 6), (.running, 8, 9)]) ∧
      stateNs .running
            (schedulerIntervals exitedThread 1 9
              { cycle := 0, tid := 7, name := "a",
                origin := 0 }).1 +
          stateNs .ready
            (schedulerIntervals exitedThread 1 9
              { cycle := 0, tid := 7, name := "a",
                origin := 0 }).1 +
          stateNs .sleeping
            (schedulerIntervals exitedThread 1 9
              { cycle := 0, tid := 7, name := "a",
                origin := 0 }).1 ≤ 8 :=
  ⟨by decide,
    (schedulerIntervals_tile exitedThread (by decide) 1 9
      { cycle := 0, tid := 7, name := "a",
        origin := 0 }).2.2.2.1 (by decide)⟩

end Trace

end RsCamera
