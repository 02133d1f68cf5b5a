import Mathlib.Algebra.Order.Field.Rat
import Mathlib.Data.List.Forall2
import Mathlib.Data.List.Induction
import Mathlib.Data.Rat.Defs
import Mathlib.Logic.Function.Basic
import Mathlib.Tactic.Linarith
import RsCamera.Lib.Since

/-
  The delay from the wake-up of an xHCI interrupt thread to
  its run (`analyze_kernel` in `analyze_full_receive_path.py`).

  The pass over the trace keeps, for each thread, the first
  wake-up that it counts and takes it at the next switch to
  the thread. A wake-up of a thread that it saw running is not
  counted. It sees the window only, so a thread may run, or be
  woken already, without its knowing.

  The lines of the trace are decoded here, and timestamps are
  rational. What the pass collects besides, about transfers
  and their callbacks, does not touch the wake-ups.

  Key definitions include:
    * `SchedEvent`, `KernelPass`
    * `KernelPass.step`, `analyzeKernel`
    * `Watch`, `watch`
    * `ShownRunning`, `Uncollected`, `WokenSince`
    * `InSight`, `Collects`

  Key theorems include:
    * `running_iff`
    * `uncollected_of_pending`, `pending_of_uncollected`
    * `pending_first_iff`
    * `wakeupToRun_first_wakeup`
-/

------------------------------------------------------------
-- Events
------------------------------------------------------------

namespace RsCamera

namespace KernelTrace

/-
  What a line says about interrupt threads of the xHCI. A
  switch names the thread that leaves, whether its name is
  one of an xHCI interrupt thread and whether it blocks; the
  thread that follows, with its interrupt number, is given if
  the line is read as a switch to such a thread.
-/
inductive SchedWhat
| wakeup (target : Int)
| switch
    (pid : Int)
    (fromXhci blocks : Bool)
    (next : Option (Int × Option Int))
| other
deriving Repr, DecidableEq

/- A line of the trace, decoded. -/
structure SchedEvent where
  timestamp : ℚ
  cpu : Int
  what : SchedWhat
deriving Repr, DecidableEq

/- A thread that leaves its processor. -/
def SchedEvent.leaver (event : SchedEvent) : Option Int :=
  match event.what with
  | .switch pid _ _ _ => some pid
  | _ => none

/- A thread that leaves under the name of an xHCI thread. -/
def SchedEvent.xhciLeaver (event : SchedEvent) : Option Int :=
  match event.what with
  | .switch pid true _ _ => some pid
  | _ => none

theorem SchedEvent.leaver_of_xhci
    (event : SchedEvent)
    {pid : Int}
    (hLeaves : event.xhciLeaver = some pid) :
    event.leaver = some pid := by
  unfold SchedEvent.xhciLeaver at hLeaves
  split at hLeaves
  next hWhat =>
    simpa [SchedEvent.leaver, hWhat] using hLeaves
  · cases hLeaves

/- A thread that is switched to. -/
def SchedEvent.runner (event : SchedEvent) : Option Int :=
  match event.what with
  | .switch _ _ _ next => next.map Prod.fst
  | _ => none

------------------------------------------------------------
-- The Pass Over The Trace
------------------------------------------------------------

/- A run of an interrupt thread that has not ended. -/
structure RunningIrq where
  release : Option ℚ
  run : ℚ
  cpu : Int
  irqNumber : Option Int
deriving Repr, DecidableEq

/- A run from the switch to the thread to the one from it. -/
structure ThreadedInterval where
  run : ℚ
  finish : ℚ
  release : Option ℚ
  pid : Int
  cpu : Int
  irqNumber : Option Int
deriving Repr, DecidableEq

/- The variables of the pass that concern interrupt threads. -/
structure KernelPass where
  pendingIrqWakeup : Int → Option ℚ := fun _ => none
  activeIrqRelease : Int → Option ℚ := fun _ => none
  runningIrq : Int → Option RunningIrq := fun _ => none
  xhciIrqWakeupToRun : List ℚ := []
  threadedIntervals : List ThreadedInterval := []

/-
  A wake-up of a thread that runs adds to its activation. Of
  several wake-ups of one that does not, the first counts.
-/
def KernelPass.wakeUp
    (pass : KernelPass)
    (timestamp : ℚ)
    (target : Int) : KernelPass :=
  if pass.runningIrq target = none then
    { pass with
      pendingIrqWakeup :=
        Function.update pass.pendingIrqWakeup target
          ((pass.pendingIrqWakeup target).or
            (some timestamp)) }
  else
    pass

/- A switch to a thread takes the wake-up that is pending. -/
def KernelPass.switchTo
    (pass : KernelPass)
    (timestamp : ℚ)
    (cpu target : Int)
    (irqNumber : Option Int) : KernelPass :=
  match pass.pendingIrqWakeup target with
  | some release =>
      { pass with
        pendingIrqWakeup :=
          Function.update pass.pendingIrqWakeup target none
        xhciIrqWakeupToRun :=
          pass.xhciIrqWakeupToRun ++ [timestamp - release]
        activeIrqRelease :=
          Function.update pass.activeIrqRelease target
            (some release)
        runningIrq :=
          Function.update pass.runningIrq target
            (some ⟨some release, timestamp, cpu,
              irqNumber⟩) }
  | none =>
      { pass with
        runningIrq :=
          Function.update pass.runningIrq target
            (some ⟨pass.activeIrqRelease target, timestamp,
              cpu, irqNumber⟩) }

/- A switch from a thread ends its run, if one is known. -/
def KernelPass.switchFrom
    (pass : KernelPass)
    (timestamp : ℚ)
    (pid : Int)
    (blocks : Bool) : KernelPass :=
  { pass with
    runningIrq := Function.update pass.runningIrq pid none
    threadedIntervals :=
      match pass.runningIrq pid with
      | some active =>
          pass.threadedIntervals ++
            [⟨active.run, timestamp, active.release, pid,
              active.cpu, active.irqNumber⟩]
      | none => pass.threadedIntervals
    activeIrqRelease :=
      if blocks then
        Function.update pass.activeIrqRelease pid none
      else
        pass.activeIrqRelease }

/- On a switch the thread that follows is looked at first. -/
def KernelPass.look
    (pass : KernelPass)
    (event : SchedEvent) : KernelPass :=
  match event.what with
  | .wakeup target => pass.wakeUp event.timestamp target
  | .switch pid fromXhci blocks next =>
      let taken :=
        match next with
        | some (target, irqNumber) =>
            pass.switchTo event.timestamp event.cpu target
              irqNumber
        | none => pass
      if fromXhci then
        taken.switchFrom event.timestamp pid blocks
      else
        taken
  | .other => pass

/- Lines outside the window are passed over. -/
def KernelPass.step
    (begin finish : ℚ)
    (pass : KernelPass)
    (event : SchedEvent) : KernelPass :=
  if event.timestamp < begin ∨ finish < event.timestamp then
    pass
  else
    pass.look event

/- The pass over the lines of the trace. -/
def analyzeKernel
    (begin finish : ℚ)
    (events : List SchedEvent) : KernelPass :=
  events.foldl (KernelPass.step begin finish) {}

------------------------------------------------------------
-- What Really Happens
------------------------------------------------------------

/-
  A thread as the whole trace shows it: whether it is on a
  processor, and the first wake-up since it last left one,
  with whether it was off the processor then.
-/
structure Watch where
  onCpu : Bool := false
  woken : Option (ℚ × Bool) := none
deriving Repr, DecidableEq

/-
  What one event changes for a thread; a leave forgets its wake-
  ups.
-/
def Watch.step
    (pid : Int)
    (seen : Watch)
    (event : SchedEvent) : Watch :=
  match event.what with
  | .wakeup target =>
      if target = pid then
        { seen with
          woken :=
            seen.woken.or
              (some (event.timestamp, !seen.onCpu)) }
      else
        seen
  | .switch leaver _ _ next =>
      let left : Watch :=
        if leaver = pid then {} else seen
      if next.map Prod.fst = some pid then
        { left with onCpu := true }
      else
        left
  | .other => seen

/- A thread after the events. -/
def watch
    (pid : Int)
    (events : List SchedEvent) : Watch :=
  events.foldl (Watch.step pid) {}

section Window

variable (begin finish : ℚ)
variable (pid : Int)

/- An event of the window. -/
def SchedEvent.Within (event : SchedEvent) : Prop :=
  begin ≤ event.timestamp ∧ event.timestamp ≤ finish

instance decidableWithin
    (event : SchedEvent) :
    Decidable (event.Within begin finish) :=
  inferInstanceAs (Decidable (_ ∧ _))

/-
  The window shows a switch to the thread and, from there on,
  none from it.
-/
def ShownRunning : List SchedEvent → Prop :=
  Since
    (fun _ event =>
      event.Within begin finish ∧ event.runner = some pid ∧
        event.xhciLeaver ≠ some pid)
    (fun event =>
      event.Within begin finish →
        event.xhciLeaver ≠ some pid)

/-
  A wake-up of the window, of a thread that is not shown
  running, with no switch of the window to it since.
-/
def Uncollected
    (wake : SchedEvent) : List SchedEvent → Prop :=
  Since
    (fun before event =>
      event = wake ∧ event.what = .wakeup pid ∧
        event.Within begin finish ∧
        ¬ ShownRunning begin finish pid before)
    (fun event =>
      event.Within begin finish → event.runner ≠ some pid)

/- A wake-up since the thread last left its processor. -/
def WokenSince
    (wake : SchedEvent) : List SchedEvent → Prop :=
  Since
    (fun _ event => event = wake ∧ event.what = .wakeup pid)
    (fun event => event.leaver ≠ some pid)

/-
  Nothing happened out of sight: the thread is off the
  processor, no wake-up since it left lies before the window,
  and none that is uncollected lies before it left, in a run
  whose beginning the window does not show.  Wake-ups of one
  timestamp cannot be told apart.
-/
structure InSight (log : List SchedEvent) : Prop where
  off : (watch pid log).onCpu = false
  opened :
    ∀ wake, WokenSince pid wake log → begin ≤ wake.timestamp
  shown :
    ∀ wake, Uncollected begin finish pid wake log →
      ∃ since, WokenSince pid since log ∧
        since.timestamp = wake.timestamp

end Window

------------------------------------------------------------
-- One Event
------------------------------------------------------------

theorem KernelPass.switchTo_pending
    (pass : KernelPass)
    (timestamp : ℚ)
    (cpu target : Int)
    (irqNumber : Option Int) :
    (pass.switchTo timestamp cpu target
        irqNumber).pendingIrqWakeup =
      Function.update pass.pendingIrqWakeup target none := by
  unfold KernelPass.switchTo
  split
  · rfl
  next hNone =>
    funext pid
    by_cases hIs : pid = target
    · simp [hIs, hNone]
    · simp [hIs]

/- What an event leaves pending. -/
theorem KernelPass.look_pending
    (pass : KernelPass)
    (event : SchedEvent)
    (pid : Int) :
    (pass.look event).pendingIrqWakeup pid =
      if event.runner = some pid then
        none
      else if event.what = .wakeup pid ∧
          pass.runningIrq pid = none then
        (pass.pendingIrqWakeup pid).or (some event.timestamp)
      else
        pass.pendingIrqWakeup pid := by
  unfold KernelPass.look SchedEvent.runner
  cases hWhat : event.what with
  | wakeup target =>
      simp only [KernelPass.wakeUp, reduceCtorEq, if_false,
        SchedWhat.wakeup.injEq]
      by_cases hIs : target = pid
      · subst hIs
        by_cases hIdle : pass.runningIrq target = none
        · simp [hIdle]
        · simp [hIdle]
      · have hOther : ¬ pid = target := fun h => hIs h.symm
        split
        · simp [hIs, hOther]
        · simp [hIs]
  | switch leaver fromXhci blocks next =>
      have hKeeps :
          ∀ taken : KernelPass,
            (if fromXhci then
              taken.switchFrom event.timestamp leaver blocks
            else
              taken).pendingIrqWakeup =
              taken.pendingIrqWakeup := by
        intro taken
        split <;> rfl
      simp only [hKeeps, reduceCtorEq, false_and, if_false]
      cases next with
      | none => simp
      | some next =>
          simp only [KernelPass.switchTo_pending,
            Option.map_some, Option.some.injEq]
          by_cases hIs : next.1 = pid
          · simp [hIs]
          · have hOther : ¬ pid = next.1 :=
              fun h => hIs h.symm
            simp [hIs, hOther]
  | other => simp

/- What an event shows of a run. -/
theorem KernelPass.look_running
    (pass : KernelPass)
    (event : SchedEvent)
    (pid : Int) :
    (pass.look event).runningIrq pid = none ↔
      event.xhciLeaver = some pid ∨
        (event.runner ≠ some pid ∧
          pass.runningIrq pid = none) := by
  unfold KernelPass.look SchedEvent.runner
    SchedEvent.xhciLeaver
  cases hWhat : event.what with
  | wakeup target =>
      simp only [KernelPass.wakeUp, reduceCtorEq, false_or,
        ne_eq, not_false_eq_true, true_and]
      split <;> rfl
  | switch leaver fromXhci blocks next =>
      have hTaken :
          (match next with
            | some (target, irqNumber) =>
                pass.switchTo event.timestamp event.cpu target
                  irqNumber
            | none => pass).runningIrq pid = none ↔
            next.map Prod.fst ≠ some pid ∧
              pass.runningIrq pid = none := by
        cases next with
        | none => simp
        | some next =>
            simp only [KernelPass.switchTo, Option.map_some,
              ne_eq, Option.some.injEq]
            by_cases hIs : next.1 = pid
            · subst hIs
              cases pass.pendingIrqWakeup next.1 <;> simp
            · have hOther : ¬ pid = next.1 :=
                fun h => hIs h.symm
              cases pass.pendingIrqWakeup next.1 <;>
                simp [hIs, hOther]
      cases fromXhci with
      | false => simpa using hTaken
      | true =>
          simp only [if_true, KernelPass.switchFrom,
            Option.some.injEq]
          by_cases hIs : leaver = pid
          · simp [hIs]
          · have hOther : ¬ pid = leaver := fun h => hIs h.symm
            rw [Function.update_of_ne hOther, hTaken]
            simp [hIs]
  | other => simp

/- A switch to a thread adds one sample at most. -/
theorem KernelPass.look_samples
    (pass : KernelPass)
    (event : SchedEvent) :
    (pass.look event).xhciIrqWakeupToRun =
      pass.xhciIrqWakeupToRun ++
        ((event.runner.bind
          pass.pendingIrqWakeup).map
            (fun release =>
              event.timestamp - release)).toList := by
  unfold KernelPass.look SchedEvent.runner
  cases hWhat : event.what with
  | wakeup target =>
      simp only [KernelPass.wakeUp]
      split <;> simp
  | switch leaver fromXhci blocks next =>
      have hKeeps :
          ∀ taken : KernelPass,
            (if fromXhci then
              taken.switchFrom event.timestamp leaver blocks
            else
              taken).xhciIrqWakeupToRun =
              taken.xhciIrqWakeupToRun := by
        intro taken
        split <;> rfl
      simp only [hKeeps]
      cases next with
      | none => simp
      | some next =>
          simp only [KernelPass.switchTo, Option.map_some,
            Option.bind_some]
          cases pass.pendingIrqWakeup next.1 with
          | none => simp
          | some release => simp
  | other => simp

theorem analyzeKernel_append
    (begin finish : ℚ)
    (events : List SchedEvent)
    (event : SchedEvent) :
    analyzeKernel begin finish (events ++ [event]) =
      (analyzeKernel begin finish events).step begin finish
        event := by
  simp [analyzeKernel]

theorem watch_append
    (pid : Int)
    (events : List SchedEvent)
    (event : SchedEvent) :
    watch pid (events ++ [event]) =
      (watch pid events).step pid event := by
  simp [watch]

------------------------------------------------------------
-- Pending Wake-Ups
------------------------------------------------------------

/- Events in the order of their timestamps. -/
def InOrder (events : List SchedEvent) : Prop :=
  events.Pairwise (fun first next =>
    first.timestamp ≤ next.timestamp)

/- The last of events in order bounds the others. -/
theorem InOrder.le_last
    {events : List SchedEvent}
    {event : SchedEvent}
    (hOrder : InOrder (events ++ [event]))
    {earlier : SchedEvent}
    (hEarlier : earlier ∈ events) :
    earlier.timestamp ≤ event.timestamp :=
  (List.pairwise_append.mp hOrder).2.2 earlier hEarlier event
    List.mem_cons_self

theorem InOrder.of_append
    {events : List SchedEvent}
    {event : SchedEvent}
    (hOrder : InOrder (events ++ [event])) :
    InOrder events :=
  (List.pairwise_append.mp hOrder).1

section Pass

variable {begin finish : ℚ}
variable {events : List SchedEvent}
variable {event : SchedEvent}
variable {pid : Int}

/- The pass, with a line of the window or outside of it. -/
theorem analyzeKernel_concat :
    (event.Within begin finish →
        analyzeKernel begin finish (events ++ [event]) =
          (analyzeKernel begin finish events).look event) ∧
      (¬ event.Within begin finish →
        analyzeKernel begin finish (events ++ [event]) =
          analyzeKernel begin finish events) := by
  rw [analyzeKernel_append, KernelPass.step]
  unfold SchedEvent.Within
  constructor
  · rintro ⟨hBegin, hFinish⟩
    rw [if_neg]
    exact not_or.mpr ⟨not_lt.mpr hBegin, not_lt.mpr hFinish⟩
  · intro hOutside
    rw [if_pos]
    by_contra hInside
    rcases not_or.mp hInside with ⟨hBegin, hFinish⟩
    exact hOutside ⟨not_lt.mp hBegin, not_lt.mp hFinish⟩

/- The pass knows of the runs that the window shows. -/
theorem running_iff :
    (analyzeKernel begin finish events).runningIrq pid ≠ none ↔
      ShownRunning begin finish pid events := by
  unfold ShownRunning
  induction events using List.reverseRecOn with
  | nil => simp [analyzeKernel]
  | append_singleton events event ih =>
      rw [since_concat, ← ih]
      by_cases hWithin : event.Within begin finish
      · rw [analyzeKernel_concat.1 hWithin, ne_eq,
          KernelPass.look_running]
        simp only [hWithin, true_and, true_implies]
        by_cases hLeaves : event.xhciLeaver = some pid
        · simp [hLeaves]
        · by_cases hRuns : event.runner = some pid
          · simp [hLeaves, hRuns]
          · simp [hLeaves, hRuns]
      · rw [analyzeKernel_concat.2 hWithin]
        simp [hWithin]

/- A wake-up is not pending while its thread is known to run. -/
theorem idle_of_pending
    (hPending :
      (analyzeKernel begin finish events).pendingIrqWakeup
        pid ≠ none) :
    (analyzeKernel begin finish events).runningIrq pid =
      none := by
  induction events using List.reverseRecOn with
  | nil => rfl
  | append_singleton events event ih =>
      by_cases hWithin : event.Within begin finish
      · rw [analyzeKernel_concat.1 hWithin] at hPending ⊢
        rw [KernelPass.look_pending] at hPending
        rw [KernelPass.look_running]
        split at hPending
        · exact absurd rfl hPending
        next hNotRun =>
          refine Or.inr ⟨hNotRun, ?_⟩
          split at hPending
          next hWakes => exact hWakes.2
          · exact ih hPending
      · rw [analyzeKernel_concat.2 hWithin] at hPending ⊢
        exact ih hPending

/- What is pending is a wake-up that nothing has collected. -/
theorem uncollected_of_pending
    {release : ℚ}
    (hPending :
      (analyzeKernel begin finish events).pendingIrqWakeup
        pid = some release) :
    ∃ wake, Uncollected begin finish pid wake events ∧
      wake.timestamp = release := by
  unfold Uncollected
  induction events using List.reverseRecOn with
  | nil => cases hPending
  | append_singleton events event ih =>
      by_cases hWithin : event.Within begin finish
      · rw [analyzeKernel_concat.1 hWithin,
          KernelPass.look_pending] at hPending
        split at hPending
        · cases hPending
        next hNotRun =>
          have hEarlier :
              (analyzeKernel begin finish
                  events).pendingIrqWakeup pid =
                some release →
              ∃ wake, Uncollected begin finish pid wake
                  (events ++ [event]) ∧
                wake.timestamp = release := by
            intro hBefore
            rcases ih hBefore with ⟨wake, hWake, hIs⟩
            exact ⟨wake,
              since_concat.mpr
                (Or.inr ⟨fun _ => hNotRun, hWake⟩), hIs⟩
          split at hPending
          next hWakes =>
            -- The wake-up counts unless one is pending.
            cases hBefore :
                (analyzeKernel begin finish
                  events).pendingIrqWakeup pid with
            | some earlier =>
                rw [hBefore] at hPending
                cases Option.some.inj hPending
                exact hEarlier hBefore
            | none =>
                rw [hBefore] at hPending
                cases Option.some.inj hPending
                refine ⟨event, since_concat.mpr (Or.inl ?_),
                  rfl⟩
                refine ⟨rfl, hWakes.1, hWithin, ?_⟩
                rw [← running_iff, not_ne_iff]
                exact hWakes.2
          · exact hEarlier hPending
      · rw [analyzeKernel_concat.2 hWithin] at hPending
        rcases ih hPending with ⟨wake, hWake, hIs⟩
        exact ⟨wake,
          since_concat.mpr
            (Or.inr ⟨fun hIn => absurd hIn hWithin, hWake⟩),
          hIs⟩

/- The first wake-up that nothing has collected is pending. -/
theorem pending_of_uncollected
    (hOrder : InOrder events)
    {wake : SchedEvent}
    (hWake : Uncollected begin finish pid wake events) :
    ∃ release,
      (analyzeKernel begin finish events).pendingIrqWakeup
          pid = some release ∧
        release ≤ wake.timestamp := by
  unfold Uncollected at hWake
  induction events using List.reverseRecOn with
  | nil => exact absurd hWake since_nil
  | append_singleton events event ih =>
      rcases since_concat.mp hWake with
        ⟨rfl, hWhat, hWithin, hIdle⟩ | ⟨hKeeps, hBefore⟩
      · have hRunner : event.runner ≠ some pid := by
          simp [SchedEvent.runner, hWhat]
        rw [← running_iff, not_ne_iff] at hIdle
        rw [analyzeKernel_concat.1 hWithin,
          KernelPass.look_pending, if_neg hRunner,
          if_pos ⟨hWhat, hIdle⟩]
        cases hPending :
            (analyzeKernel begin finish
              events).pendingIrqWakeup pid with
        | none => exact ⟨event.timestamp, rfl, le_refl _⟩
        | some release =>
            rcases uncollected_of_pending hPending with
              ⟨first, hFirst, hIs⟩
            rcases Since.mem hFirst with
              ⟨_, recorded, hIn, hRecorded, -⟩
            refine ⟨release, rfl, ?_⟩
            rw [← hIs, ← hRecorded]
            exact hOrder.le_last hIn
      · rcases ih hOrder.of_append hBefore with
          ⟨release, hPending, hLe⟩
        refine ⟨release, ?_, hLe⟩
        by_cases hWithin : event.Within begin finish
        · rw [analyzeKernel_concat.1 hWithin,
            KernelPass.look_pending,
            if_neg (hKeeps hWithin), hPending]
          split <;> rfl
        · rw [analyzeKernel_concat.2 hWithin]
          exact hPending

end Pass

------------------------------------------------------------
-- Wake-Ups Since A Thread Left
------------------------------------------------------------

section Watches

variable {begin finish : ℚ}
variable {events : List SchedEvent}
variable {pid : Int}

/- The parts of a watch behind one more event. -/
theorem watch_concat
    (event : SchedEvent) :
    ((watch pid (events ++ [event])).onCpu =
        if event.runner = some pid then
          true
        else if event.leaver = some pid then
          false
        else
          (watch pid events).onCpu) ∧
      (watch pid (events ++ [event])).woken =
        if event.leaver = some pid then
          none
        else if event.what = .wakeup pid then
          (watch pid events).woken.or
            (some (event.timestamp,
              !(watch pid events).onCpu))
        else
          (watch pid events).woken := by
  rw [watch_append]
  unfold Watch.step SchedEvent.runner SchedEvent.leaver
  cases hWhat : event.what with
  | wakeup target =>
      by_cases hIs : target = pid
      · simp [hIs]
      · simp [hIs]
  | switch leaver fromXhci blocks next =>
      by_cases hNext : next.map Prod.fst = some pid
      · by_cases hLeaves : leaver = pid
        · simp [hNext, hLeaves]
        · simp [hNext, hLeaves]
      · by_cases hLeaves : leaver = pid
        · simp [hNext, hLeaves]
        · simp [hNext, hLeaves]
  | other => simp

theorem wokenSince_concat
    {wake event : SchedEvent} :
    WokenSince pid wake (events ++ [event]) ↔
      (event = wake ∧ event.what = .wakeup pid) ∨
        (event.leaver ≠ some pid ∧
          WokenSince pid wake events) :=
  since_concat

/- A thread was woken before, or is woken now. -/
theorem woken_concat
    {event : SchedEvent}
    {time : ℚ}
    {off : Bool}
    (hWoken :
      (watch pid (events ++ [event])).woken =
        some (time, off)) :
    event.leaver ≠ some pid ∧
      ((watch pid events).woken = some (time, off) ∨
        event.what = .wakeup pid ∧ event.timestamp = time ∧
          (watch pid events).onCpu = !off) := by
  rw [(watch_concat event).2] at hWoken
  split at hWoken
  · cases hWoken
  next hStays =>
    refine ⟨hStays, ?_⟩
    split at hWoken
    next hWakes =>
      cases hBefore : (watch pid events).woken with
      | none =>
          rw [hBefore] at hWoken
          rcases Prod.mk.inj (Option.some.inj hWoken) with
            ⟨hTime, hOff⟩
          exact Or.inr ⟨hWakes, hTime, by simp [← hOff]⟩
      | some first =>
          rw [hBefore] at hWoken
          exact Or.inl hWoken
    · exact Or.inl hWoken

theorem wokenSince_of_woken
    {time : ℚ}
    {off : Bool}
    (hWoken : (watch pid events).woken = some (time, off)) :
    ∃ wake, WokenSince pid wake events ∧
      wake.timestamp = time := by
  induction events using List.reverseRecOn with
  | nil => cases hWoken
  | append_singleton events event ih =>
      rcases woken_concat hWoken with
        ⟨hStays, hBefore | ⟨hWakes, hIs, -⟩⟩
      · rcases ih hBefore with ⟨wake, hWake, hIs⟩
        exact ⟨wake,
          wokenSince_concat.mpr (Or.inr ⟨hStays, hWake⟩), hIs⟩
      · exact ⟨event,
          wokenSince_concat.mpr (Or.inl ⟨rfl, hWakes⟩), hIs⟩

theorem woken_of_wokenSince
    (hOrder : InOrder events)
    {wake : SchedEvent}
    (hWake : WokenSince pid wake events) :
    ∃ time off,
      (watch pid events).woken = some (time, off) ∧
        time ≤ wake.timestamp := by
  induction events using List.reverseRecOn with
  | nil => exact absurd hWake since_nil
  | append_singleton events event ih =>
      rw [(watch_concat event).2]
      rcases wokenSince_concat.mp hWake with
        ⟨rfl, hWhat⟩ | ⟨hStays, hBefore⟩
      · rw [if_neg (by simp [SchedEvent.leaver, hWhat]),
          if_pos hWhat]
        cases hWoken : (watch pid events).woken with
        | none => exact ⟨_, _, rfl, le_refl _⟩
        | some first =>
            rcases wokenSince_of_woken hWoken with
              ⟨earlier, hEarlier, hIs⟩
            rcases Since.mem hEarlier with
              ⟨_, recorded, hIn, hRecorded, -⟩
            refine ⟨first.1, first.2, rfl, ?_⟩
            rw [← hIs, ← hRecorded]
            exact hOrder.le_last hIn
      · rcases ih hOrder.of_append hBefore with
          ⟨time, off, hWoken, hLe⟩
        refine ⟨time, off, ?_, hLe⟩
        rw [if_neg hStays, hWoken]
        split <;> rfl

/- A thread woken on its processor stays there till it leaves. -/
theorem onCpu_of_woken
    {time : ℚ}
    (hWoken : (watch pid events).woken = some (time, false)) :
    (watch pid events).onCpu = true := by
  induction events using List.reverseRecOn with
  | nil => cases hWoken
  | append_singleton events event ih =>
      rcases woken_concat hWoken with
        ⟨hStays, hBefore | ⟨-, -, hOn⟩⟩
      · rw [(watch_concat event).1, if_neg hStays,
          ih hBefore]
        exact ite_self _
      · rw [(watch_concat event).1, if_neg hStays, hOn]
        exact ite_self _

/-
  A thread that was woken in the window and then switched to
  is shown running.
-/
theorem running_of_onCpu
    (hOrder : InOrder events)
    (hFinish : ∀ event ∈ events, event.timestamp ≤ finish)
    {time : ℚ}
    (hBegin : begin ≤ time)
    (hOn : (watch pid events).onCpu = true)
    (hWoken : (watch pid events).woken = some (time, true)) :
    (analyzeKernel begin finish events).runningIrq pid ≠
      none := by
  induction events using List.reverseRecOn with
  | nil => cases hWoken
  | append_singleton events event ih =>
      have hEarlier :=
        ih hOrder.of_append (fun earlier hIn =>
          hFinish earlier (List.mem_append_left _ hIn))
      rcases woken_concat hWoken with ⟨hStays, hBefore⟩
      have hNotLeft : event.xhciLeaver ≠ some pid :=
        fun hLeft => hStays (event.leaver_of_xhci hLeft)
      rw [(watch_concat event).1, if_neg hStays] at hOn
      rw [running_iff]
      by_cases hRuns : event.runner = some pid
      · rcases hBefore with hBefore | ⟨hWhat, -⟩
        · rcases wokenSince_of_woken hBefore with
            ⟨wake, hWake, hIs⟩
          rcases Since.mem hWake with
            ⟨_, recorded, hIn, hRecorded, -⟩
          have hLe := hOrder.le_last hIn
          rw [hRecorded, hIs] at hLe
          refine since_concat.mpr (Or.inl ⟨⟨?_, ?_⟩, hRuns,
            hNotLeft⟩)
          · exact hBegin.trans hLe
          · exact hFinish event (by simp)
        · simp [SchedEvent.runner, hWhat] at hRuns
      · rw [if_neg hRuns] at hOn
        rcases hBefore with hBefore | ⟨-, -, hOff⟩
        · have hShown := hEarlier hOn hBefore
          rw [running_iff] at hShown
          exact since_concat.mpr
            (Or.inr ⟨fun _ => hNotLeft, hShown⟩)
        · rw [hOn] at hOff
          cases hOff

/-
  A thread that was woken in the window, off its processor,
  has a wake-up pending, unless it is shown running.
-/
theorem pending_of_woken
    (hOrder : InOrder events)
    (hFinish : ∀ event ∈ events, event.timestamp ≤ finish)
    {time : ℚ}
    (hBegin : begin ≤ time)
    (hOff : (watch pid events).onCpu = false)
    (hWoken : (watch pid events).woken = some (time, true))
    (hIdle :
      (analyzeKernel begin finish events).runningIrq pid =
        none) :
    ∃ wake, Uncollected begin finish pid wake events ∧
      wake.timestamp ≤ time := by
  unfold Uncollected
  induction events using List.reverseRecOn with
  | nil => cases hWoken
  | append_singleton events event ih =>
      have hShown :
          ¬ ShownRunning begin finish pid
            (events ++ [event]) := by
        rw [← running_iff, not_ne_iff]
        exact hIdle
      rcases woken_concat hWoken with ⟨hStays, hBefore⟩
      have hNotLeft : event.xhciLeaver ≠ some pid :=
        fun hLeft => hStays (event.leaver_of_xhci hLeft)
      have hNotShown : ¬ ShownRunning begin finish pid events := by
        intro hEarlier
        exact hShown (since_concat.mpr
          (Or.inr ⟨fun _ => hNotLeft, hEarlier⟩))
      rw [(watch_concat event).1, if_neg hStays] at hOff
      split at hOff
      · cases hOff
      next hNotRun =>
        rcases hBefore with hBefore | ⟨hWakes, hTime, -⟩
        · rw [← running_iff, not_ne_iff] at hNotShown
          rcases ih hOrder.of_append
            (fun earlier hIn =>
              hFinish earlier (List.mem_append_left _ hIn))
            hOff hBefore hNotShown with ⟨wake, hWake, hLe⟩
          exact ⟨wake,
            since_concat.mpr
              (Or.inr ⟨fun _ => hNotRun, hWake⟩), hLe⟩
        · refine ⟨event, since_concat.mpr (Or.inl
            ⟨rfl, hWakes, ⟨?_, ?_⟩, hNotShown⟩), hTime.le⟩
          · rw [hTime]
            exact hBegin
          · exact hFinish event (by simp)

/- A wake-up from before the thread left is not a later one. -/
theorem uncollected_cases
    (hOrder : InOrder events)
    {wake : SchedEvent}
    (hWake : Uncollected begin finish pid wake events) :
    WokenSince pid wake events ∨
      ∀ since, WokenSince pid since events →
        wake.timestamp ≤ since.timestamp := by
  unfold Uncollected at hWake
  induction events using List.reverseRecOn with
  | nil => exact absurd hWake since_nil
  | append_singleton events event ih =>
      rcases since_concat.mp hWake with
        ⟨hIs, hWhat, -⟩ | ⟨-, hBefore⟩
      · exact Or.inl
          (wokenSince_concat.mpr (Or.inl ⟨hIs, hWhat⟩))
      · rcases Since.mem hBefore with
          ⟨_, recorded, hIn, hRecorded, -⟩
        have hLast := hOrder.le_last hIn
        rw [hRecorded] at hLast
        by_cases hLeaves : event.leaver = some pid
        · right
          intro since hSince
          rcases wokenSince_concat.mp hSince with
            ⟨rfl, -⟩ | ⟨hStays, -⟩
          · exact hLast
          · exact absurd hLeaves hStays
        · rcases ih hOrder.of_append hBefore with
            hSince | hEarlier
          · exact Or.inl
              (wokenSince_concat.mpr
                (Or.inr ⟨hLeaves, hSince⟩))
          · right
            intro since hSince
            rcases wokenSince_concat.mp hSince with
              ⟨rfl, -⟩ | ⟨-, hOld⟩
            · exact hLast
            · exact hEarlier since hOld

/-
  What is pending is the first wake-up since the thread left,
  off its processor, exactly if nothing happened out of sight.
-/
theorem pending_first_iff
    (hOrder : InOrder events)
    (hFinish : ∀ event ∈ events, event.timestamp ≤ finish)
    {release : ℚ}
    (hPending :
      (analyzeKernel begin finish events).pendingIrqWakeup
        pid = some release) :
    (watch pid events).woken = some (release, true) ↔
      InSight begin finish pid events := by
  have hIdle :
      (analyzeKernel begin finish events).runningIrq pid =
        none := by
    apply idle_of_pending
    rw [hPending]
    exact Option.some_ne_none release
  have hFirst :
      ∀ wake, Uncollected begin finish pid wake events →
        release ≤ wake.timestamp := by
    intro wake hWake
    rcases pending_of_uncollected hOrder hWake with
      ⟨first, hIs, hLe⟩
    rw [hPending] at hIs
    cases hIs
    exact hLe
  rcases uncollected_of_pending hPending with
    ⟨taken, hTaken, hRelease⟩
  constructor
  · intro hWoken
    have hBegin : begin ≤ release := by
      rcases Since.mem hTaken with
        ⟨_, recorded, -, hRecorded, -, hWithin, -⟩
      rw [← hRelease, ← hRecorded]
      exact hWithin.1
    refine ⟨?_, ?_, ?_⟩
    · rw [← Bool.not_eq_true]
      intro hOn
      exact running_of_onCpu hOrder hFinish hBegin hOn hWoken
        hIdle
    · intro wake hWake
      rcases woken_of_wokenSince hOrder hWake with
        ⟨time, off, hIs, hLe⟩
      rw [hWoken] at hIs
      cases hIs
      exact hBegin.trans hLe
    · intro wake hWake
      rcases uncollected_cases hOrder hWake with
        hSince | hBefore
      · exact ⟨wake, hSince, rfl⟩
      · rcases wokenSince_of_woken hWoken with
          ⟨first, hSince, hIs⟩
        refine ⟨first, hSince, le_antisymm ?_ ?_⟩
        · rw [hIs]
          exact hFirst wake hWake
        · exact hBefore first hSince
  · intro hSight
    rcases hSight.shown taken hTaken with
      ⟨since, hSince, hSame⟩
    rcases woken_of_wokenSince hOrder hSince with
      ⟨time, off, hWoken, hLe⟩
    have hOff : off = true := by
      cases off with
      | true => rfl
      | false =>
          have hOn := onCpu_of_woken hWoken
          rw [hSight.off] at hOn
          cases hOn
    subst hOff
    rcases wokenSince_of_woken hWoken with
      ⟨first, hIsSince, hTime⟩
    have hBegin := hSight.opened first hIsSince
    rw [hTime] at hBegin
    rcases pending_of_woken hOrder hFinish hBegin hSight.off
      hWoken hIdle with ⟨wake, hWake, hWakeLe⟩
    have hEq : time = release := by
      apply le_antisymm
      · rw [← hRelease, ← hSame]
        exact hLe
      · exact (hFirst wake hWake).trans hWakeLe
    rw [hWoken, hEq]

end Watches

------------------------------------------------------------
-- Samples
------------------------------------------------------------

/-
  A switch of the window to a thread with a wake-up that
  nothing has collected.
-/
def Collects
    (begin finish : ℚ)
    (events : List SchedEvent)
    (i : Nat) : Prop :=
  ∃ event pid wake,
    events[i]? = some event ∧
      event.runner = some pid ∧
      event.Within begin finish ∧
      Uncollected begin finish pid wake (events.take i)

/-
  A sample is taken at a switch to a thread in the window and
  is not negative.  It counts from the first wake-up since
  the thread left a processor, which it was off then, exactly
  if nothing happened out of sight of the window.
-/
def SampledAt
    (begin finish : ℚ)
    (events : List SchedEvent)
    (sample : ℚ)
    (i : Nat) : Prop :=
  ∃ event pid release,
    events[i]? = some event ∧
      event.runner = some pid ∧
      event.Within begin finish ∧
      sample = event.timestamp - release ∧
      0 ≤ sample ∧
      ((watch pid (events.take i)).woken =
          some (release, true) ↔
        InSight begin finish pid (events.take i))

section Samples

variable {begin finish : ℚ}
variable {events : List SchedEvent}

theorem SampledAt.append
    {sample : ℚ}
    {i : Nat}
    (hSample : SampledAt begin finish events sample i)
    (event : SchedEvent) :
    SampledAt begin finish (events ++ [event]) sample i := by
  rcases hSample with ⟨switch, pid, release, hAt, hRest⟩
  have hInside : i < events.length :=
    (List.getElem?_eq_some_iff.mp hAt).1
  refine ⟨switch, pid, release, ?_, ?_⟩
  · rw [List.getElem?_append_left hInside]
    exact hAt
  · rw [List.take_append_of_le_length hInside.le]
    exact hRest

/- The places of a log with one more event. -/
theorem collects_concat_iff
    {event : SchedEvent}
    {i : Nat} :
    Collects begin finish (events ++ [event]) i ↔
      Collects begin finish events i ∨
        (i = events.length ∧
          event.Within begin finish ∧
          ∃ pid release,
            event.runner = some pid ∧
              Uncollected begin finish pid release events) := by
  unfold Collects
  constructor
  · rintro ⟨switch, pid, wake, hAt, hRuns, hWithin, hWake⟩
    by_cases hInside : i < events.length
    · rw [List.getElem?_append_left hInside] at hAt
      rw [List.take_append_of_le_length hInside.le] at hWake
      exact Or.inl ⟨switch, pid, wake, hAt, hRuns, hWithin,
        hWake⟩
    · have hLast : i = events.length := by
        have hLess := (List.getElem?_eq_some_iff.mp hAt).1
        simp only [List.length_append, List.length_cons,
          List.length_nil] at hLess
        omega
      subst hLast
      rw [List.getElem?_concat_length] at hAt
      cases hAt
      rw [List.take_left] at hWake
      exact Or.inr ⟨rfl, hWithin, pid, wake, hRuns, hWake⟩
  · rintro (⟨switch, pid, wake, hAt, hRest⟩ |
      ⟨rfl, hWithin, pid, wake, hRuns, hWake⟩)
    · have hInside : i < events.length :=
        (List.getElem?_eq_some_iff.mp hAt).1
      refine ⟨switch, pid, wake, ?_, ?_⟩
      · rw [List.getElem?_append_left hInside]
        exact hAt
      · rw [List.take_append_of_le_length hInside.le]
        exact hRest
    · refine ⟨event, pid, wake, by simp, hRuns, hWithin, ?_⟩
      rw [List.take_left]
      exact hWake

/-
  The switches of a log at which a pass takes its samples, in
  their order.
-/
structure SwitchIns
    (begin finish : ℚ)
    (events : List SchedEvent)
    (switchIns : List Nat) : Prop where
  increasing : switchIns.Pairwise (· < ·)
  places :
    ∀ i, i ∈ switchIns ↔ Collects begin finish events i
  samples :
    List.Forall₂ (SampledAt begin finish events)
      (analyzeKernel begin finish events).xhciIrqWakeupToRun
      switchIns

namespace SwitchIns

variable {switchIns : List Nat}
variable {event : SchedEvent}
variable {pid : Int}
variable {release : ℚ}

/- An event that collects nothing and adds no sample. -/
theorem skip
    (hSwitches : SwitchIns begin finish events switchIns)
    (hNone :
      ¬ (event.Within begin finish ∧
        ∃ pid wake, event.runner = some pid ∧
          Uncollected begin finish pid wake events))
    (hSame :
      (analyzeKernel begin finish
          (events ++ [event])).xhciIrqWakeupToRun =
        (analyzeKernel begin finish
          events).xhciIrqWakeupToRun) :
    SwitchIns begin finish (events ++ [event]) switchIns where
  increasing := hSwitches.increasing
  places := by
    intro i
    rw [collects_concat_iff, hSwitches.places i]
    refine ⟨Or.inl, ?_⟩
    rintro (hCollects | ⟨-, hIs⟩)
    · exact hCollects
    · exact absurd hIs hNone
  samples := by
    rw [hSame]
    exact hSwitches.samples.imp
      (fun _ _ hSample => hSample.append event)

/- A switch to a thread with a pending wake-up. -/
theorem collect
    (hSwitches : SwitchIns begin finish events switchIns)
    (hOrder : InOrder (events ++ [event]))
    (hWithin : event.Within begin finish)
    (hPid : event.runner = some pid)
    (hPending :
      (analyzeKernel begin finish
        events).pendingIrqWakeup pid = some release)
    (hAdds :
      (analyzeKernel begin finish
          (events ++ [event])).xhciIrqWakeupToRun =
        (analyzeKernel begin finish
          events).xhciIrqWakeupToRun ++
            [event.timestamp - release]) :
    SwitchIns begin finish (events ++ [event])
      (switchIns ++ [events.length]) := by
  rcases uncollected_of_pending hPending with
    ⟨wake, hWake, hRelease⟩
  rcases Since.mem hWake with ⟨_, recorded, hIn, hRecorded, -⟩
  have hLe := hOrder.le_last hIn
  rw [hRecorded, hRelease] at hLe
  have hNew :
      SampledAt begin finish (events ++ [event])
        (event.timestamp - release) events.length := by
    refine ⟨event, pid, release, by simp, hPid, hWithin, rfl,
      by linarith, ?_⟩
    rw [List.take_left]
    exact pending_first_iff hOrder.of_append
      (fun earlier hEarlier =>
        (hOrder.le_last hEarlier).trans hWithin.2)
      hPending
  constructor
  case increasing =>
    apply List.pairwise_append.mpr
    refine ⟨hSwitches.increasing, List.pairwise_singleton _ _,
      ?_⟩
    intro i hI j hJ
    rw [List.mem_singleton.mp hJ]
    rcases (hSwitches.places i).mp hI with ⟨_, _, _, hAt, -⟩
    exact (List.getElem?_eq_some_iff.mp hAt).1
  case places =>
    intro i
    rw [List.mem_append, List.mem_singleton,
      collects_concat_iff, hSwitches.places i]
    apply or_congr_right
    constructor
    · intro hLast
      exact ⟨hLast, hWithin, pid, wake, hPid, hWake⟩
    · exact And.left
  case samples =>
    rw [hAdds]
    exact List.rel_append
      (hSwitches.samples.imp
        (fun _ _ hSample => hSample.append event))
      (List.Forall₂.cons hNew List.Forall₂.nil)

end SwitchIns

theorem exists_switchIns
    (hOrder : InOrder events) :
    ∃ switchIns,
      SwitchIns begin finish events switchIns := by
  induction events using List.reverseRecOn with
  | nil =>
      refine ⟨[], List.Pairwise.nil, ?_, List.Forall₂.nil⟩
      simp [Collects]
  | append_singleton events event ih =>
      rcases ih hOrder.of_append with ⟨switchIns, hSwitches⟩
      by_cases hWithin : event.Within begin finish
      · have hLook :
            analyzeKernel begin finish (events ++ [event]) =
              (analyzeKernel begin finish events).look event :=
          analyzeKernel_concat.1 hWithin
        have hAdds :=
          (analyzeKernel begin finish events).look_samples event
        rw [← hLook] at hAdds
        cases hRunner : event.runner.bind
            (analyzeKernel begin finish
              events).pendingIrqWakeup with
        | none =>
            refine ⟨switchIns, hSwitches.skip ?_ ?_⟩
            · rintro ⟨-, pid, wake, hPid, hWake⟩
              rcases pending_of_uncollected hOrder.of_append
                hWake with ⟨release, hPending, -⟩
              rw [hPid, Option.bind_some, hPending] at hRunner
              cases hRunner
            · rw [hAdds, hRunner]
              simp
        | some release =>
            rcases Option.bind_eq_some_iff.mp hRunner with
              ⟨pid, hPid, hPending⟩
            rw [hRunner] at hAdds
            exact ⟨_, hSwitches.collect hOrder hWithin hPid
              hPending hAdds⟩
      · refine ⟨switchIns, hSwitches.skip ?_ ?_⟩
        · exact fun hIs => hWithin hIs.1
        · rw [analyzeKernel_concat.2 hWithin]

end Samples

/-
  In every trace in order and for every window: the samples
  belong to the switches of the window that collect a
  wake-up, one each, in their order.  A sample is not
  negative, and counts from the first wake-up since the
  thread last left a processor exactly if nothing happened to
  the thread out of sight of the window.
-/
theorem wakeupToRun_first_wakeup
    (begin finish : ℚ)
    (events : List SchedEvent)
    (hOrder : InOrder events) :
    ∃ switchIns : List Nat,
      switchIns.Pairwise (· < ·) ∧
        (∀ i, i ∈ switchIns ↔
          Collects begin finish events i) ∧
        List.Forall₂ (SampledAt begin finish events)
          (analyzeKernel begin finish
            events).xhciIrqWakeupToRun switchIns := by
  rcases exists_switchIns hOrder with ⟨switchIns, hSwitches⟩
  exact ⟨switchIns, hSwitches.increasing, hSwitches.places,
    hSwitches.samples⟩

/-
  A window that opens while interrupt thread 50 runs. It is
  woken then, leaves, is woken again and runs.
-/
def openingMidRun : List SchedEvent :=
  [⟨5, 0, .switch 1 false false (some (50, some 40))⟩,
    ⟨12, 0, .wakeup 50⟩,
    ⟨15, 0, .switch 50 true true none⟩,
    ⟨20, 0, .wakeup 50⟩,
    ⟨21, 0, .switch 1 false false (some (50, some 40))⟩]

/- The sample counts from the wake-up during the run. -/
theorem openingMidRun_counts_early :
    openingMidRun.Pairwise (fun first next =>
        first.timestamp ≤ next.timestamp) ∧
      (watch 50 (openingMidRun.take 1)).onCpu = true ∧
      (watch 50 (openingMidRun.take 4)).woken =
        some (20, true) ∧
      (analyzeKernel 10 100
        openingMidRun).xhciIrqWakeupToRun = [21 - 12] := by
  decide +kernel

/-
  Interrupt thread 50 is woken and runs, is woken once more
  while it runs, leaves, is woken twice and runs again.
-/
def wokenTwice : List SchedEvent :=
  [⟨12, 0, .wakeup 50⟩,
    ⟨15, 0, .switch 1 false false (some (50, some 40))⟩,
    ⟨16, 1, .wakeup 50⟩,
    ⟨18, 0, .switch 50 true true none⟩,
    ⟨20, 0, .wakeup 50⟩,
    ⟨21, 1, .wakeup 50⟩,
    ⟨23, 0, .switch 1 false false (some (50, some 40))⟩]

/- The run in between is shown, with the wake-up in it. -/
theorem wokenTwice_inSight :
    InSight 10 100 50 (wokenTwice.take 6) := by
  have hLog :
      wokenTwice.take 6 =
        [] ++ [⟨12, 0, .wakeup 50⟩] ++
          [⟨15, 0, .switch 1 false false (some (50, some 40))⟩] ++
          [⟨16, 1, .wakeup 50⟩] ++
          [⟨18, 0, .switch 50 true true none⟩] ++
          [⟨20, 0, .wakeup 50⟩] ++ [⟨21, 1, .wakeup 50⟩] :=
    rfl
  refine ⟨by decide, ?_, ?_⟩
  · intro wake hWake
    rcases Since.mem hWake with
      ⟨_, recorded, hIn, hRecorded, -⟩
    have hAll :
        ∀ event ∈ wokenTwice.take 6, 10 ≤ event.timestamp := by
      simp [wokenTwice]
      norm_num
    rw [← hRecorded]
    exact hAll recorded hIn
  · intro wake hWake
    rw [hLog] at hWake ⊢
    simp only [Uncollected, WokenSince, ShownRunning,
      since_concat, since_nil, SchedEvent.Within,
      SchedEvent.runner, SchedEvent.xhciLeaver,
      SchedEvent.leaver] at hWake ⊢
    norm_num at hWake ⊢
    simp only [reduceCtorEq, not_false_eq_true, and_false,
      or_false, true_and] at hWake ⊢
    rcases hWake with rfl | rfl
    · exact Or.inl rfl
    · exact Or.inr ⟨_, rfl, rfl⟩

theorem wokenTwice_sampled :
    (analyzeKernel 10 100
        wokenTwice).xhciIrqWakeupToRun = [3, 3] ∧
      InSight 10 100 50 (wokenTwice.take 6) ∧
      ∃ switchIns : List Nat,
        switchIns.Pairwise (· < ·) ∧
          (∀ i, i ∈ switchIns ↔ Collects 10 100 wokenTwice i) ∧
          List.Forall₂ (SampledAt 10 100 wokenTwice)
            (analyzeKernel 10 100
              wokenTwice).xhciIrqWakeupToRun switchIns := by
  refine ⟨by decide +kernel, wokenTwice_inSight, ?_⟩
  apply wakeupToRun_first_wakeup
  simp [InOrder, wokenTwice]
  norm_num

end KernelTrace

end RsCamera
