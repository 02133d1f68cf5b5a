import RsCamera.Probe.Steps

/-
  The host times of the recorded events lie in the measured
  interval.

  The host time of a delivery is read before the camera is
  locked.  The upper bounds hold in every run, since the
  deadline is checked and the end is read after the flag has
  been cleared.  Nothing checks the lower bound: it holds in
  the runs where no older delivery is still on its way when
  the measurement is enabled (`EnabledSettled`), and fails in
  others.

  Main declarations:
    * `WindowInvariant`, `EnabledSettled`
    * `step_windowInvariant`
    * `run_events_in_window`
-/

------------------------------------------------------------
-- The Window
------------------------------------------------------------

namespace RsCamera

namespace Probe

section

open Steady

variable {n m : Nat}

/- A recorded host time, as far as the run has come. -/
structure InWindow
    (s : State n m)
    (hostNs : Nat) : Prop where
  start_le : s.measurementStartNs ≤ hostNs
  le_clock : hostNs ≤ s.clock
  le_end :
    20 ≤ position s.main → hostNs ≤ s.measurementEndNs

/- The length of a fixed-duration measurement. -/
def durationNs (opts : Options) : Nat :=
  opts.measurementDurationMs.toNat * 1000000

structure WindowInvariant
    (cfg : Config n)
    (s : State n m) : Prop where
  facts : MainFacts cfg s
  clock_lt : s.clock < 2 ^ 64
  arrived_le :
    ∀ id d, s.threads id = .arrived d → d.hostNs ≤ s.clock
  arrived_start :
    17 ≤ position s.main → position s.main ≤ 18 →
    ∀ id d, s.threads id = .arrived d →
      s.measurementStartNs ≤ d.hostNs
  before_measuring :
    position s.main ≤ 16 →
    ∀ id d, s.threads id ≠ .measuring d
  before_events :
    position s.main ≤ 16 →
    ∀ camera, (s.cameras camera).events.items = []
  measuring :
    ∀ id d, s.threads id = .measuring d →
      InWindow s d.hostNs
  deadline :
    ∀ id d, s.threads id = .measuring d →
    fixedDurationMeasurement cfg.opts = true →
      s.control.measurementDeadlineNs =
        measurementDeadline cfg.opts s.measurementStartNs
  events :
    ∀ camera, ∀ event ∈ (s.cameras camera).events.items,
      InWindow s event.hostBoottimeNs ∧
        (fixedDurationMeasurement cfg.opts = true →
          event.hostBoottimeNs ≤
            s.measurementStartNs + durationNs cfg.opts)

/-
  A delivery that passes the deadline check was read within
  the duration, also where the deadline has wrapped.
-/
theorem le_duration_of_inTime
    {opts : Options}
    {startNs hostNs deadlineNs : Nat}
    (hFixed : fixedDurationMeasurement opts = true)
    (hDeadline :
      deadlineNs = measurementDeadline opts startNs)
    (hHost : hostNs < 2 ^ 64)
    (hInTime : deadlineNs = 0 ∨ hostNs ≤ deadlineNs) :
    hostNs ≤ startNs + durationNs opts := by
  have hPositive : 0 < durationNs opts := by
    simp only [fixedDurationMeasurement,
      decide_eq_true_eq] at hFixed
    unfold durationNs
    omega
  simp only [measurementDeadline, hFixed, if_true,
    u64] at hDeadline
  unfold durationNs at hPositive ⊢
  omega

/- The window moves on with the clock. -/
theorem InWindow.of_thread
    {s t : State n m}
    {hostNs : Nat}
    (hWindow : InWindow s hostNs)
    (hFrame : ThreadFrame s t) :
    InWindow t hostNs where
  start_le := by
    rw [hFrame.start_eq]
    exact hWindow.start_le
  le_clock := by
    rw [hFrame.clock_eq]
    exact hWindow.le_clock
  le_end := by
    rw [hFrame.main_eq, hFrame.end_eq]
    exact hWindow.le_end

/- The start is read once, before any delivery is measured. -/
theorem MainFrame.start_kept
    {s t : State n m}
    (hFrame : MainFrame s t)
    (hFrom : 17 ≤ position s.main) :
    t.measurementStartNs = s.measurementStartNs := by
  rcases hFrame.start_eq with hSame | hOther
  · exact hSame
  · omega

/- Once there are records, the start time stays. -/
theorem InWindow.of_main
    {s t : State n m}
    {hostNs : Nat}
    (hWindow : InWindow s hostNs)
    (hFrame : MainFrame s t)
    (hMeasured : 17 ≤ position s.main) :
    InWindow t hostNs := by
  have hStart := hFrame.start_kept hMeasured
  constructor
  · rw [hStart]
    exact hWindow.start_le
  · rw [hFrame.clock_eq]
    exact hWindow.le_clock
  · intro hAfter
    rcases hFrame.after hAfter with
      ⟨hFrom, hEnd⟩ | ⟨_, hEnd⟩ | hBefore
    · rw [hEnd]
      exact hWindow.le_end hFrom
    · rw [hEnd]
      exact hWindow.le_clock
    · omega

end

------------------------------------------------------------
-- Steps
------------------------------------------------------------

section

open Steady

variable {n m : Nat}

/- A delivery a thread has taken was read after a time. -/
def ThreadPhase.settledSince
    (startNs : Nat) : ThreadPhase n → Bool
| .arrived d => startNs ≤ d.hostNs
| _ => true

def Action.isMain : Action n m → Bool
| .main _ => true
| _ => false

/-
  The measurement is enabled only when every delivery still
  on its way was read after the measurement had started.
-/
def EnabledSettled
    (s : State n m)
    (action : Action n m) : Prop :=
  action.isMain = true → s.main = .enable →
    ∀ id,
      (s.threads id).settledSince s.measurementStartNs = true

/- A free thread carries no delivery. -/
theorem arrived_not_free
    {phase : ThreadPhase n}
    {d : Delivery n}
    (hPhase : phase = .arrived d) :
    phase.free = false := by
  rw [hPhase]
  rfl

theorem measuring_not_free
    {phase : ThreadPhase n}
    {d : Delivery n}
    (hPhase : phase = .measuring d) :
    phase.free = false := by
  rw [hPhase]
  rfl

/- A delivery under way was under way before the step. -/
theorem MainFrame.thread_kept
    {s t : State n m}
    {id : ThreadId n m}
    (hFrame : MainFrame s t)
    (hBusy : (t.threads id).free = false) :
    t.threads id = s.threads id := by
  rcases hFrame.threads id with hSame | hFree
  · exact hSame
  · rw [hBusy] at hFree
    cases hFree

theorem MainFrame.arrived
    {s t : State n m}
    {id : ThreadId n m}
    {d : Delivery n}
    (hFrame : MainFrame s t)
    (hThread : t.threads id = .arrived d) :
    s.threads id = .arrived d := by
  rw [← hFrame.thread_kept (arrived_not_free hThread)]
  exact hThread

theorem MainFrame.measuring
    {s t : State n m}
    {id : ThreadId n m}
    {d : Delivery n}
    (hFrame : MainFrame s t)
    (hThread : t.threads id = .measuring d) :
    s.threads id = .measuring d := by
  rw [← hFrame.thread_kept (measuring_not_free hThread)]
  exact hThread

theorem main_windowInvariant
    {cfg : Config n}
    {s t : State n m}
    {input : MainInput}
    (hInv : WindowInvariant cfg s)
    (hSettled : EnabledSettled s (.main input))
    (hStep : mainStep cfg s input = some t) :
    WindowInvariant cfg t := by
  have hFrame := mainStep_frame hInv.facts hStep
  have hLater :
      ∀ id d, t.threads id = .measuring d →
        17 ≤ position s.main := by
    intro id d hThread
    by_contra hEarly
    exact hInv.before_measuring (by omega) id d
      (hFrame.measuring hThread)
  refine
    { facts := mainStep_facts hInv.facts hStep
      clock_lt := by
        rw [hFrame.clock_eq]
        exact hInv.clock_lt
      arrived_le := ?_
      arrived_start := ?_
      before_measuring := ?_
      before_events := ?_
      measuring := ?_
      deadline := ?_
      events := ?_ }
  · intro id d hThread
    rw [hFrame.clock_eq]
    exact hInv.arrived_le id d (hFrame.arrived hThread)
  · intro hFrom hTo id d hThread
    rcases hFrame.during hFrom hTo with
      hEnable | ⟨hSince, hUntil⟩
    · have hSame :
          t.measurementStartNs = s.measurementStartNs := by
        rcases hFrame.start_eq with hSame | hOther
        · exact hSame
        · simp [hEnable] at hOther
      rw [hSame]
      have hSince := hSettled rfl hEnable id
      rw [hFrame.arrived hThread] at hSince
      simpa [ThreadPhase.settledSince] using hSince
    · rw [hFrame.start_kept hSince]
      exact hInv.arrived_start hSince hUntil id d
        (hFrame.arrived hThread)
  · intro hBefore id d hThread
    exact hInv.before_measuring (hFrame.before hBefore) id d
      (hFrame.measuring hThread)
  · intro hBefore camera
    rw [hFrame.cameras_eq]
    exact hInv.before_events (hFrame.before hBefore) camera
  · intro id d hThread
    exact (hInv.measuring id d
      (hFrame.measuring hThread)).of_main hFrame
        (hLater id d hThread)
  · intro id d hThread hFixed
    have hPosition := hLater id d hThread
    have hDeadline :
        t.control.measurementDeadlineNs =
          s.control.measurementDeadlineNs := by
      rcases hFrame.deadline_eq with hSame | hOther
      · exact hSame
      · omega
    rw [hDeadline, hFrame.start_kept hPosition]
    exact hInv.deadline id d (hFrame.measuring hThread) hFixed
  · intro camera event hEvent
    rw [hFrame.cameras_eq] at hEvent
    have hPosition : 17 ≤ position s.main := by
      by_contra hEarly
      rw [hInv.before_events (by omega) camera] at hEvent
      cases hEvent
    rcases hInv.events camera event hEvent with
      ⟨hWindow, hDuration⟩
    rw [hFrame.start_kept hPosition]
    exact ⟨hWindow.of_main hFrame hPosition, hDuration⟩

/- What a new record must satisfy. -/
def MayRecord
    (cfg : Config n)
    (s : State n m)
    (hostNs : Nat) : Prop :=
  17 ≤ position s.main ∧ InWindow s hostNs ∧
    (fixedDurationMeasurement cfg.opts = true →
      hostNs ≤ s.measurementStartNs + durationNs cfg.opts)

/-
  A thread keeps the invariant when the delivery it takes,
  the delivery it measures and the events it adds are all in
  order.
-/
theorem WindowInvariant.of_thread
    {cfg : Config n}
    {s t : State n m}
    {id : ThreadId n m}
    (hInv : WindowInvariant cfg s)
    (hFrame : ThreadFrame s t)
    (hOthers :
      ∀ other, other ≠ id →
        t.threads other = s.threads other)
    (hArrived :
      ∀ d, t.threads id = .arrived d → d.hostNs = s.clock)
    (hMeasuring :
      ∀ d, t.threads id = .measuring d →
        17 ≤ position s.main ∧ position s.main ≤ 18 ∧
          InWindow s d.hostNs)
    (hEvents :
      ∀ camera, ∀ event ∈ (t.cameras camera).events.items,
        event ∈ (s.cameras camera).events.items ∨
          MayRecord cfg s event.hostBoottimeNs) :
    WindowInvariant cfg t := by
  have hArrivedLe :
      ∀ other d, t.threads other = .arrived d →
        d.hostNs ≤ s.clock := by
    intro other d hThread
    by_cases hOther : other = id
    · subst hOther
      exact Nat.le_of_eq (hArrived d hThread)
    · rw [hOthers other hOther] at hThread
      exact hInv.arrived_le other d hThread
  refine
    { facts := hFrame.facts hInv.facts
      clock_lt := by
        rw [hFrame.clock_eq]
        exact hInv.clock_lt
      arrived_le := by
        rw [hFrame.clock_eq]
        exact hArrivedLe
      arrived_start := ?_
      before_measuring := ?_
      before_events := ?_
      measuring := ?_
      deadline := ?_
      events := ?_ }
  · rw [hFrame.main_eq, hFrame.start_eq]
    intro hFrom hTo other d hThread
    by_cases hOther : other = id
    · subst hOther
      rw [hArrived d hThread]
      exact hInv.facts.start_le (by omega) (by omega)
    · rw [hOthers other hOther] at hThread
      exact hInv.arrived_start hFrom hTo other d hThread
  · rw [hFrame.main_eq]
    intro hBefore other d hThread
    by_cases hOther : other = id
    · subst hOther
      have hPosition := (hMeasuring d hThread).1
      omega
    · rw [hOthers other hOther] at hThread
      exact hInv.before_measuring hBefore other d hThread
  · rw [hFrame.main_eq]
    intro hBefore camera
    rw [List.eq_nil_iff_forall_not_mem]
    intro event hEvent
    rcases hEvents camera event hEvent with hOld | hNew
    · rw [hInv.before_events hBefore camera] at hOld
      cases hOld
    · have hPosition := hNew.1
      omega
  · intro other d hThread
    by_cases hOther : other = id
    · subst hOther
      exact (hMeasuring d hThread).2.2.of_thread hFrame
    · rw [hOthers other hOther] at hThread
      exact (hInv.measuring other d hThread).of_thread hFrame
  · rw [hFrame.start_eq, hFrame.grows.deadline_eq]
    intro other d hThread hFixed
    by_cases hOther : other = id
    · subst hOther
      have hPosition := hMeasuring d hThread
      exact hInv.facts.deadline_eq (by omega) (by omega)
        hFixed
    · rw [hOthers other hOther] at hThread
      exact hInv.deadline other d hThread hFixed
  · rw [hFrame.start_eq]
    intro camera event hEvent
    rcases hEvents camera event hEvent with hOld | hNew
    · rcases hInv.events camera event hOld with
        ⟨hWindow, hDuration⟩
      exact ⟨hWindow.of_thread hFrame, hDuration⟩
    · exact ⟨hNew.2.1.of_thread hFrame, hNew.2.2⟩

/- Changing one camera without adding events. -/
theorem events_update_of_eq
    {s : State n m}
    {camera : Fin n}
    {metrics : CameraMetrics}
    (hEvents :
      metrics.events = (s.cameras camera).events)
    (other : Fin n) :
    (Function.update s.cameras camera metrics
      other).events = (s.cameras other).events := by
  by_cases hOther : other = camera
  · subst hOther
    simpa using hEvents
  · simp [hOther]

theorem countTimeout_sameMeasurement
    (metrics : CameraMetrics)
    (wasEnabled : Bool) :
    SameMeasurement metrics
      (countTimeout metrics wasEnabled) := by
  unfold countTimeout
  split
  · exact ⟨rfl, rfl, rfl, rfl, rfl, rfl, rfl⟩
  · exact ⟨rfl, rfl, rfl, rfl, rfl, rfl, rfl⟩

/- A thread that neither holds nor measures a delivery. -/
theorem WindowInvariant.of_free
    {cfg : Config n}
    {s t : State n m}
    {id : ThreadId n m}
    {phase : ThreadPhase n}
    (hInv : WindowInvariant cfg s)
    (hFrame : ThreadFrame s t)
    (hThreads : t.threads = Function.update s.threads id phase)
    (hFree : phase.free = true)
    (hEvents :
      ∀ camera,
        (t.cameras camera).events =
          (s.cameras camera).events) :
    WindowInvariant cfg t := by
  refine @WindowInvariant.of_thread _ _ cfg s t id hInv hFrame
    ?_ ?_ ?_ ?_
  · intro other hOther
    rw [hThreads, Function.update_of_ne hOther]
  · intro d hThread
    rw [hThreads, Function.update_self] at hThread
    rw [arrived_not_free hThread] at hFree
    cases hFree
  · intro d hThread
    rw [hThreads, Function.update_self] at hThread
    rw [measuring_not_free hThread] at hFree
    cases hFree
  · intro camera event hEvent
    rw [hEvents camera] at hEvent
    exact Or.inl hEvent

theorem thread_windowInvariant
    {cfg : Config n}
    {s t : State n m}
    {id : ThreadId n m}
    (hInv : WindowInvariant cfg s)
    (hEffect : ThreadEffect cfg s id t) :
    WindowInvariant cfg t := by
  have hFrame := hEffect.frame
  have hOthers :
      ∀ phase other, other ≠ id →
        Function.update s.threads id phase other =
          s.threads other := by
    intro phase other hOther
    simp [hOther]
  cases hEffect with
  | quiet phase _ hTo =>
      exact hInv.of_free hFrame rfl hTo (fun _ => rfl)
  | arrive d _ hHost =>
      refine hInv.of_thread hFrame (hOthers _) ?_ ?_
        (fun _ _ hEvent => Or.inl hEvent)
      · intro other hThread
        simp only [setThread_threads, Function.update_self,
          ThreadPhase.arrived.injEq] at hThread
        exact hThread ▸ hHost
      · simp
  | timeout camera wasEnabled phase _ hTo =>
      refine hInv.of_free hFrame rfl hTo ?_
      intro other
      simp only [setThread_cameras, setCamera_cameras]
      exact events_update_of_eq
        (countTimeout_sameMeasurement _ _).events_eq other
  | report camera failure =>
      exact hInv.of_thread hFrame (hOthers _) (by simp)
        (by simp) (fun _ _ hEvent => Or.inl hEvent)
  | skip d =>
      exact hInv.of_thread hFrame (hOthers _) (by simp)
        (by simp) (fun _ _ hEvent => Or.inl hEvent)
  | warm d =>
      refine hInv.of_thread hFrame (hOthers _) (by simp)
        (by simp) ?_
      intro other event hEvent
      left
      simp only [setThread_cameras,
        setCamera_cameras] at hEvent
      rwa [events_update_of_eq
        (recordWarmupDelivery_spec _ _ _ _).same.events_eq]
        at hEvent
  | lock d hFrom _ _ _ hEnabled =>
      have hPosition := hInv.facts.enabled_position hEnabled
      have hStart :=
        hInv.arrived_start (by omega) (by omega) id d hFrom
      have hClock := hInv.arrived_le id d hFrom
      refine hInv.of_thread hFrame (hOthers _) (by simp) ?_
        (fun _ _ hEvent => Or.inl hEvent)
      intro other hThread
      simp only [setThread_threads, Function.update_self,
        ThreadPhase.measuring.injEq] at hThread
      subst hThread
      exact ⟨by omega, by omega, hStart, hClock, by omega⟩
  | late d =>
      exact hInv.of_thread hFrame (hOthers _) (by simp)
        (by simp) (fun _ _ hEvent => Or.inl hEvent)
  | record d hFrom hInTime =>
      have hWindow := hInv.measuring id d hFrom
      have hPosition : 17 ≤ position s.main := by
        by_contra hEarly
        exact hInv.before_measuring (by omega) id d hFrom
      refine hInv.of_thread hFrame (hOthers _) (by simp)
        (by simp) ?_
      intro other event hEvent
      by_cases hOther : other = d.camera
      · subst hOther
        simp only [setThread_cameras, State.setLocked,
          setCamera_cameras, Function.update_self] at hEvent
        rcases (recordMeasuredDelivery_spec _ _ _ _ _
            _).events_host event hEvent with hOld | hNew
        · exact Or.inl hOld
        · right
          rw [hNew]
          refine ⟨hPosition, hWindow, ?_⟩
          intro hFixed
          refine le_duration_of_inTime hFixed
            (hInv.deadline id d hFrom hFixed) ?_ hInTime
          exact Nat.lt_of_le_of_lt hWindow.le_clock
            hInv.clock_lt
      · left
        simpa [State.setLocked, hOther] using hEvent
  | signal camera op ops exits =>
      exact hInv.of_thread hFrame (hOthers _) (by simp)
        (by simp) (fun _ _ hEvent => Or.inl hEvent)

theorem tick_windowInvariant
    {cfg : Config n}
    {s : State n m}
    {now : Nat}
    (hInv : WindowInvariant cfg s)
    (hNow : s.clock ≤ now)
    (hBound : now < 2 ^ 64) :
    WindowInvariant cfg { s with clock := now } := by
  have hWindow :
      ∀ hostNs, InWindow s hostNs →
        InWindow { s with clock := now } hostNs := by
    intro hostNs hOld
    exact ⟨hOld.start_le, Nat.le_trans hOld.le_clock hNow,
      hOld.le_end⟩
  exact
    { facts :=
        hInv.facts.of_grows rfl hNow rfl (.inl rfl)
          hInv.facts.ops_shape (fun hFailing => hFailing)
      clock_lt := hBound
      arrived_le := fun id d hThread =>
        Nat.le_trans (hInv.arrived_le id d hThread) hNow
      arrived_start := hInv.arrived_start
      before_measuring := hInv.before_measuring
      before_events := hInv.before_events
      measuring := fun id d hThread =>
        hWindow _ (hInv.measuring id d hThread)
      deadline := hInv.deadline
      events := fun camera event hEvent =>
        ⟨hWindow _ (hInv.events camera event hEvent).1,
          (hInv.events camera event hEvent).2⟩ }

theorem step_windowInvariant
    {cfg : Config n}
    {s t : State n m}
    {action : Action n m}
    (hInv : WindowInvariant cfg s)
    (hSettled : EnabledSettled s action)
    (hStep : step cfg s action = some t) :
    WindowInvariant cfg t := by
  cases action with
  | tick now =>
      simp only [step] at hStep
      split at hStep
      next hNow =>
        cases hStep
        exact tick_windowInvariant hInv hNow.1 hNow.2
      · cases hStep
  | thread id action =>
      exact thread_windowInvariant hInv
        (threadStep_effect hStep)
  | main input =>
      exact main_windowInvariant hInv hSettled hStep

end

------------------------------------------------------------
-- Runs
------------------------------------------------------------

section

open Steady

variable {n m : Nat}

/- A prepared camera has recorded nothing. -/
theorem start_events
    (cfg : Config n)
    (camera : Fin n) :
    ((start cfg m).cameras camera).events.items = [] := by
  rcases (prepareCameraMetrics_prepared cfg.opts.streamMode
      cfg.plan).fresh with ⟨_, _, hFresh⟩
  change (prepareCameraMetrics {} cfg.opts.streamMode
    cfg.plan).events.items = []
  rw [hFresh]
  rfl

/- No thread has a delivery before the first pipeline starts. -/
theorem start_threads_free
    (cfg : Config n)
    (id : ThreadId n m) :
    ((start cfg m).threads id).free = true := by
  cases id <;> rfl

theorem start_windowInvariant
    (cfg : Config n) :
    WindowInvariant cfg (start cfg m) := by
  have hArrived :
      ∀ id d, (start cfg m).threads id ≠ .arrived d := by
    intro id d hThread
    have hFree := start_threads_free cfg id
    rw [arrived_not_free hThread] at hFree
    cases hFree
  have hMeasuring :
      ∀ id d, (start cfg m).threads id ≠ .measuring d := by
    intro id d hThread
    have hFree := start_threads_free cfg id
    rw [measuring_not_free hThread] at hFree
    cases hFree
  exact
    { facts := start_facts cfg
      clock_lt := by
        change 0 < 2 ^ 64
        decide
      arrived_le := fun id d hThread =>
        absurd hThread (hArrived id d)
      arrived_start := fun _ _ id d hThread =>
        absurd hThread (hArrived id d)
      before_measuring := fun _ => hMeasuring
      before_events := fun _ => start_events cfg
      measuring := fun id d hThread =>
        absurd hThread (hMeasuring id d)
      deadline := fun id d hThread =>
        absurd hThread (hMeasuring id d)
      events := by
        intro camera event hEvent
        rw [start_events cfg camera] at hEvent
        cases hEvent }

/-
  In every run that enables the measurement only when the
  older deliveries are settled, every recorded event lies in
  the measured interval: not before its start, not after its
  end once that has been read, and not after the duration.
-/
theorem run_events_in_window
    (cfg : Config n)
    (actions : List (Action n m))
    (s : State n m)
    (hSettled :
      (probe cfg m).StepsSatisfy EnabledSettled
        (start cfg m) actions)
    (hRun :
      (probe cfg m).run (start cfg m) actions = some s) :
    ∀ camera, ∀ event ∈ (s.cameras camera).events.items,
      s.measurementStartNs ≤ event.hostBoottimeNs ∧
      (position (.endRead : MainPoint n) <
          position s.main →
        event.hostBoottimeNs ≤ s.measurementEndNs) ∧
      (fixedDurationMeasurement cfg.opts = true →
        event.hostBoottimeNs ≤
          s.measurementStartNs + durationNs cfg.opts) := by
  have hInv : WindowInvariant cfg s :=
    (probe cfg m).run_invariant_of_stepsSatisfy
      (fun _ _ _ hBefore hTaken hStep =>
        step_windowInvariant hBefore hTaken hStep)
      (start_windowInvariant cfg) hSettled hRun
  intro camera event hEvent
  rcases hInv.events camera event hEvent with
    ⟨hWindow, hDuration⟩
  refine ⟨hWindow.start_le, ?_, hDuration⟩
  intro hEnd
  exact hWindow.le_end hEnd

end

------------------------------------------------------------
-- Two Runs Of One Camera
------------------------------------------------------------

open Steady

instance
    {n m : Nat}
    (s : State n m)
    (action : Action n m) :
    Decidable (EnabledSettled s action) :=
  inferInstanceAs (Decidable (_ → _ → _))

/- One depth camera that measures a single delivery. -/
def depthConfig : Config 1 where
  args :=
    ["--stream-mode", "depth", "--frames", "1",
      "--warmup-frames", "2"]
  opts :=
    { streamMode := "depth"
      frames := 1
      warmupFrames := 2 }
  parsed := rfl
  serials _ := "0001"
  plan := ⟨1, 1, 1⟩
  planned := rfl
  startOrder := [0]
  ordered := rfl

def goMain (steps : Nat) : List (Action 1 0) :=
  List.replicate steps (.main .proceed)

def goThread (steps : Nat) : List (Action 1 0) :=
  List.replicate steps (.thread (.inl 0) .proceed)

/- The wait thread takes a frame and reads its host time. -/
def takeFrame (frameNumber : Nat) : List (Action 1 0) :=
  goThread 3 ++
    [.thread (.inl 0)
      (.frameReturned
        (.frameset [some (depthFrame frameNumber)]) 0)]

/- The run up to the end of the warm-up. -/
def warmRun : List (Action 1 0) :=
  [.tick 1000] ++ goMain 5 ++ takeFrame 1 ++ goThread 2 ++
    takeFrame 2 ++ goThread 3

/-
  The third delivery is read while the measurement is still
  closed and is recorded after it has been enabled.
-/
def staleRun : List (Action 1 0) :=
  warmRun ++ takeFrame 3 ++ goMain 4 ++ [.tick 2000] ++
    goMain 3 ++ goThread 4 ++ goMain 9

/- The third delivery is read after the start. -/
def settledRun : List (Action 1 0) :=
  warmRun ++ goMain 4 ++ [.tick 2000] ++ goMain 3 ++
    [.tick 3000] ++ takeFrame 3 ++ goThread 4 ++ goMain 9

/- A recorded event can be older than the measurement. -/
theorem staleRun_event_before_start :
    ∃ s,
      (probe depthConfig 0).run (start depthConfig 0)
          staleRun = some s ∧
      s.main = .done ∧
      ∃ event ∈ (s.cameras 0).events.items,
        event.hostBoottimeNs < s.measurementStartNs := by
  have hEnd :
      ((probe depthConfig 0).run (start depthConfig 0)
        staleRun).map (fun s =>
          (decide (s.main = .done), s.measurementStartNs,
            (s.cameras 0).events.items.map
              FrameEvent.hostBoottimeNs)) =
        some (true, 2000, [1000]) := by
    decide +kernel
  rcases Option.map_eq_some_iff.mp hEnd with
    ⟨s, hRun, hFinal⟩
  simp only [Prod.mk.injEq, decide_eq_true_eq] at hFinal
  rcases hFinal with ⟨hDone, hStart, hHosts⟩
  have hHost :
      1000 ∈ (s.cameras 0).events.items.map
        FrameEvent.hostBoottimeNs := by
    rw [hHosts]
    exact List.mem_singleton_self 1000
  rcases List.mem_map.mp hHost with ⟨event, hEvent, hEq⟩
  refine ⟨s, hRun, hDone, event, hEvent, ?_⟩
  rw [hEq, hStart]
  decide

theorem settledRun_events_in_window :
    ∃ s,
      (probe depthConfig 0).run (start depthConfig 0)
          settledRun = some s ∧
      s.main = .done ∧
      (s.cameras 0).events.items ≠ [] ∧
      ∀ camera, ∀ event ∈ (s.cameras camera).events.items,
        s.measurementStartNs ≤ event.hostBoottimeNs ∧
          event.hostBoottimeNs ≤ s.measurementEndNs := by
  have hEnd :
      ((probe depthConfig 0).run (start depthConfig 0)
        settledRun).map (fun s =>
          (decide (s.main = .done),
            (s.cameras 0).events.items.length)) =
        some (true, 1) := by
    decide +kernel
  rcases Option.map_eq_some_iff.mp hEnd with
    ⟨s, hRun, hFinal⟩
  simp only [Prod.mk.injEq, decide_eq_true_eq] at hFinal
  rcases hFinal with ⟨hDone, hLength⟩
  have hWindow :=
    run_events_in_window depthConfig settledRun s
      (by decide +kernel) hRun
  refine ⟨s, hRun, hDone, ?_, ?_⟩
  · intro hNil
    rw [hNil] at hLength
    cases hLength
  · intro camera event hEvent
    rcases hWindow camera event hEvent with
      ⟨hStart, hUntil, _⟩
    exact ⟨hStart, hUntil (by simp [hDone])⟩

end Probe

end RsCamera
