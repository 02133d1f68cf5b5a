import RsCamera.Probe.Machine

/-
  What a step of the probe can do, said once for every
  invariant: the effects of a camera thread, the frame of a
  step of the main thread, and the facts about the barriers
  that follow from where the main thread stands.

  Key definitions include:
    * `ThreadEffect`, `position`
    * `Failing`, `MainFacts`, `MainFrame`

  Key theorems include:
    * `threadStep_effect`
    * `mainStep_facts`, `mainStep_frame`
    * `step_facts`
-/

------------------------------------------------------------
-- Updates
------------------------------------------------------------

namespace RsCamera

namespace Probe

section

open Steady

variable {n m : Nat}

section Updates

variable (s : State n m)
variable (id : ThreadId n m)
variable (phase : ThreadPhase n)
variable (camera : Fin n)

@[simp] theorem setThread_clock :
    (s.setThread id phase).clock = s.clock := rfl

@[simp] theorem setThread_cameras :
    (s.setThread id phase).cameras = s.cameras := rfl

@[simp] theorem setThread_locked :
    (s.setThread id phase).locked = s.locked := rfl

@[simp] theorem setThread_control :
    (s.setThread id phase).control = s.control := rfl

@[simp] theorem setThread_main :
    (s.setThread id phase).main = s.main := rfl

@[simp] theorem setThread_mainOps :
    (s.setThread id phase).mainOps = s.mainOps := rfl

@[simp] theorem setThread_measurementStartNs :
    (s.setThread id phase).measurementStartNs =
      s.measurementStartNs := rfl

@[simp] theorem setThread_measurementEndNs :
    (s.setThread id phase).measurementEndNs =
      s.measurementEndNs := rfl

@[simp] theorem setThread_threads :
    (s.setThread id phase).threads =
      Function.update s.threads id phase := rfl

@[simp] theorem setCamera_cameras
    (metrics : CameraMetrics) :
    (s.setCamera camera metrics).cameras =
      Function.update s.cameras camera metrics := rfl

@[simp] theorem setLocked_locked
    (locked : Bool) :
    (s.setLocked camera locked).locked =
      Function.update s.locked camera locked := rfl

end Updates

end

------------------------------------------------------------
-- Effects Of The Camera Threads
------------------------------------------------------------

section

open Steady

variable {n m : Nat}

/- A thread with no delivery in hand and nothing to signal. -/
def ThreadPhase.free : ThreadPhase n → Bool
| .arrived _ => false
| .measuring _ => false
| .signalling _ ops _ => ops.isEmpty
| _ => true

/-
  What a step of a camera thread does to the shared state,
  with the guards under which it is taken.
-/
inductive ThreadEffect
    (cfg : Config n)
    (s : State n m)
    (id : ThreadId n m) : State n m → Prop
| quiet
    (phase : ThreadPhase n)
    (hFrom : (s.threads id).free = true)
    (hTo : phase.free = true) :
    ThreadEffect cfg s id (s.setThread id phase)
| arrive
    (d : Delivery n)
    (hFrom : (s.threads id).free = true)
    (hHost : d.hostNs = s.clock) :
    ThreadEffect cfg s id (s.setThread id (.arrived d))
| timeout
    (camera : Fin n)
    (wasEnabled : Bool)
    (phase : ThreadPhase n)
    (hFrom : (s.threads id).free = true)
    (hTo : phase.free = true) :
    ThreadEffect cfg s id
      ((s.setCamera camera
        (countTimeout (s.cameras camera)
          wasEnabled)).setThread id phase)
| report
    (camera : Fin n)
    (failure : Failure)
    (hFrom : (s.threads id).free = true) :
    ThreadEffect cfg s id
      (s.setThread id
        (.signalling camera (setFailure failure) true))
| skip
    (d : Delivery n)
    (hFrom : s.threads id = .arrived d) :
    ThreadEffect cfg s id
      (s.setThread id (.signalling d.camera [] false))
| warm
    (d : Delivery n)
    (hFrom : s.threads id = .arrived d)
    (hUnlocked : s.locked d.camera = false)
    (hCompleted : (s.cameras d.camera).completed = false)
    (hWarmed : (s.cameras d.camera).warmed = false) :
    ThreadEffect cfg s id
      ((s.setCamera d.camera
        (recordWarmupDelivery cfg.opts (s.cameras d.camera)
          d.payload d.hostNs).1).setThread id
        (.signalling d.camera
          ((recordWarmupDelivery cfg.opts
            (s.cameras d.camera) d.payload
            d.hostNs).2.ops (cfg.serials d.camera)) false))
| lock
    (d : Delivery n)
    (hFrom : s.threads id = .arrived d)
    (hUnlocked : s.locked d.camera = false)
    (hCompleted : (s.cameras d.camera).completed = false)
    (hWarmed : (s.cameras d.camera).warmed = true)
    (hEnabled : s.control.measurementEnabled = true) :
    ThreadEffect cfg s id
      ((s.setLocked d.camera true).setThread id
        (.measuring d))
| late
    (d : Delivery n)
    (hFrom : s.threads id = .measuring d)
    (hLate :
      s.control.measurementDeadlineNs ≠ 0 ∧
        s.control.measurementDeadlineNs < d.hostNs) :
    ThreadEffect cfg s id
      ((s.setLocked d.camera false).setThread id
        (.signalling d.camera [] false))
| record
    (d : Delivery n)
    (hFrom : s.threads id = .measuring d)
    (hInTime :
      s.control.measurementDeadlineNs = 0 ∨
        d.hostNs ≤ s.control.measurementDeadlineNs) :
    ThreadEffect cfg s id
      (((s.setCamera d.camera
          (recordMeasuredDelivery cfg.opts
            (s.cameras d.camera) d.payload d.hostNs
            d.hostRealtimeNs d.waitMs).1).setLocked d.camera
          false).setThread id
        (.signalling d.camera
          ((recordMeasuredDelivery cfg.opts
            (s.cameras d.camera) d.payload d.hostNs
            d.hostRealtimeNs d.waitMs).2.ops
              (cfg.serials d.camera)) false))
| signal
    (camera : Fin n)
    (op : ControlOp)
    (ops : List ControlOp)
    (exits : Bool)
    (hFrom :
      s.threads id = .signalling camera (op :: ops) exits) :
    ThreadEffect cfg s id
      (({ s with control := s.control.apply op }).setThread
        id (.signalling camera ops exits))

variable {cfg : Config n}
variable {s t : State n m}
variable {id : ThreadId n m}
variable {action : ThreadAction n}

theorem enterDelivery_effect
    {d : Delivery n}
    (hFrom : s.threads id = .arrived d)
    (hStep : enterDelivery cfg s id d = some t) :
    ThreadEffect cfg s id t := by
  simp only [enterDelivery] at hStep
  split at hStep
  · cases hStep
  next hLocked =>
    have hUnlocked : s.locked d.camera = false := by
      simpa using hLocked
    split at hStep
    · cases hStep
      exact .skip d hFrom
    next hCompleted =>
      have hOpen :
          (s.cameras d.camera).completed = false := by
        simpa using hCompleted
      split at hStep
      next hCold =>
        cases hStep
        exact .warm d hFrom hUnlocked hOpen (by
          simpa using hCold)
      next hWarm =>
        split at hStep
        next hEnabled =>
          cases hStep
          exact .lock d hFrom hUnlocked hOpen (by
            simpa using hWarm) hEnabled
        · cases hStep
          exact .skip d hFrom

theorem measureDelivery_effect
    {s : State n m}
    {d : Delivery n}
    (hFrom : s.threads id = .measuring d) :
    ThreadEffect cfg s id (measureDelivery cfg s id d) := by
  simp only [measureDelivery]
  split
  next hLate => exact .late d hFrom hLate
  next hInTime =>
    refine .record d hFrom ?_
    by_cases hZero : s.control.measurementDeadlineNs = 0
    · exact Or.inl hZero
    · exact Or.inr (by
        by_contra hLate
        exact hInTime ⟨hZero, Nat.lt_of_not_le hLate⟩)

theorem waitLoopStep_effect
    {camera : Fin n}
    (hStep : waitLoopStep cfg s camera action = some t) :
    ThreadEffect cfg s (.inl camera) t := by
  unfold waitLoopStep at hStep
  split at hStep
  next hFrom =>
    cases hStep
    refine .quiet _ (by simp [hFrom, ThreadPhase.free]) ?_
    split <;> rfl
  next hFrom =>
    cases hStep
    exact .quiet _ (by simp [hFrom, ThreadPhase.free]) rfl
  next hFrom =>
    cases hStep
    exact .quiet _ (by simp [hFrom, ThreadPhase.free]) rfl
  next hFrom =>
    cases hStep
    exact .arrive _ (by simp [hFrom, ThreadPhase.free]) rfl
  next hFrom =>
    cases hStep
    exact .quiet _ (by simp [hFrom, ThreadPhase.free]) rfl
  next hFrom =>
    split at hStep
    · cases hStep
    · cases hStep
      exact .timeout _ _ _
        (by simp [hFrom, ThreadPhase.free]) rfl
  next hFrom =>
    cases hStep
    refine .quiet _ (by simp [hFrom, ThreadPhase.free]) ?_
    split
    · split <;> rfl
    · split <;> rfl
  next hFrom =>
    cases hStep
    exact .report _ _ (by simp [hFrom, ThreadPhase.free])
  next hFrom =>
    cases hStep
    exact .quiet _ (by simp [hFrom, ThreadPhase.free]) rfl
  next hFrom =>
    split at hStep
    · cases hStep
    · cases hStep
      refine .quiet _ (by simp [hFrom, ThreadPhase.free]) ?_
      split <;> rfl
  · cases hStep

theorem callbackStep_effect
    {worker : Fin m}
    (hStep : callbackStep s worker action = some t) :
    ThreadEffect cfg s (.inr worker) t := by
  unfold callbackStep at hStep
  split at hStep
  next hFrom =>
    split at hStep
    · cases hStep
      exact .arrive _ (by simp [hFrom, ThreadPhase.free]) rfl
    · cases hStep
  next hFrom =>
    cases hStep
    exact .quiet _ (by simp [hFrom, ThreadPhase.free]) rfl
  · cases hStep

/- Every step of a camera thread has one of the effects. -/
theorem threadStep_effect
    (hStep : threadStep cfg s id action = some t) :
    ThreadEffect cfg s id t := by
  unfold threadStep at hStep
  split at hStep
  next hFrom => exact enterDelivery_effect hFrom hStep
  next hFrom =>
    cases hStep
    exact measureDelivery_effect hFrom
  next hFrom =>
    cases hStep
    exact .signal _ _ _ _ hFrom
  · split at hStep
    · exact waitLoopStep_effect hStep
    · split at hStep
      · exact callbackStep_effect hStep
      · cases hStep

end

------------------------------------------------------------
-- Positions Of The Main Thread
------------------------------------------------------------

section

variable {n m : Nat}

/-
  How far the main thread has come.  An aborted run counts
  as one that has not reached the measurement.
-/
def position : MainPoint n → Nat
| .startPipelines _ => 0
| .spawnThreads _ => 1
| .schedulerWait => 2
| .schedulerCheck => 3
| .schedulerApply => 4
| .warmCheck => 5
| .warmWait => 6
| .readyCheck => 7
| .readyRead => 8
| .publishReady => 9
| .gatePoll => 10
| .gateInspect => 11
| .gateClose => 12
| .startCheck => 13
| .startRead => 14
| .deadlineStore => 15
| .enable => 16
| .measureWait => 17
| .disable => 18
| .endRead => 19
| .stopStore => 20
| .stopPipelines _ => 21
| .stopFailed _ _ _ => 21
| .joinThreads _ => 22
| .restoreSync => 23
| .restoreFailed _ => 23
| .done => 24
| .aborted => 0

/- A failure is stored, or is about to be. -/
def Failing (s : State n m) : Prop :=
  s.control.failed = true ∨
    ∃ failure, s.mainOps = setFailure failure

/-
  What is known of the shared control from the position of
  the main thread.
-/
structure MainFacts
    (cfg : Config n)
    (s : State n m) : Prop where
  ops_shape :
    s.mainOps = [] ∨ s.mainOps = [.raiseStop] ∨
      ∃ failure, s.mainOps = setFailure failure
  enabled_position :
    s.control.measurementEnabled = true →
      position s.main = 17 ∨ position s.main = 18
  warmed_or_failing :
    7 ≤ position s.main →
      Failing s ∨ n ≤ s.control.warmedCameras
  warmed_measured :
    14 ≤ position s.main → position s.main ≤ 19 →
      n ≤ s.control.warmedCameras
  completed_or_failing :
    18 ≤ position s.main →
    fixedDurationMeasurement cfg.opts = false →
      Failing s ∨ n ≤ s.control.completedCameras
  start_le :
    15 ≤ position s.main → position s.main ≤ 19 →
      s.measurementStartNs ≤ s.clock
  deadline_eq :
    16 ≤ position s.main → position s.main ≤ 19 →
    fixedDurationMeasurement cfg.opts = true →
      s.control.measurementDeadlineNs =
        measurementDeadline cfg.opts s.measurementStartNs

/- Without a `set_failure` under way, failing is failed. -/
theorem failing_iff_of_no_ops
    {s : State n m}
    (hOps : s.mainOps = []) :
    Failing s ↔ s.control.failed = true := by
  simp [Failing, hOps, setFailure]

/- What a step of the main thread leaves alone. -/
structure MainFrame (s t : State n m) : Prop where
  clock_eq : t.clock = s.clock
  cameras_eq : t.cameras = s.cameras
  locked_eq : t.locked = s.locked
  threads :
    ∀ id, t.threads id = s.threads id ∨
      (t.threads id).free = true
  count_eq :
    ∀ counter,
      t.control.count counter = s.control.count counter
  start_eq :
    t.measurementStartNs = s.measurementStartNs ∨
      position s.main = 14
  deadline_eq :
    t.control.measurementDeadlineNs =
        s.control.measurementDeadlineNs ∨
      position s.main = 15
  end_eq :
    t.measurementEndNs = s.measurementEndNs ∨
      position s.main = 19
  before :
    position t.main ≤ 16 → position s.main ≤ 16
  during :
    17 ≤ position t.main → position t.main ≤ 18 →
      s.main = .enable ∨
        (17 ≤ position s.main ∧ position s.main ≤ 18)
  after :
    20 ≤ position t.main →
      (20 ≤ position s.main ∧
        t.measurementEndNs = s.measurementEndNs) ∨
      (position s.main = 19 ∧
        t.measurementEndNs = s.clock) ∨
      position s.main ≤ 16

theorem mainStep_cases
    {cfg : Config n}
    {s t : State n m}
    {input : MainInput}
    (hStep : mainStep cfg s input = some t) :
    (∃ op ops, s.mainOps = op :: ops ∧
      t =
        { s with
          control := s.control.apply op
          mainOps := ops }) ∨
    (s.mainOps = [] ∧
      (startupStep cfg s input = some t ∨
        barrierStep cfg s input = some t ∨
        measurementStep cfg s input = some t ∨
        teardownStep cfg s input = some t)) := by
  unfold mainStep at hStep
  split at hStep
  next op ops hOps =>
    split at hStep
    · cases hStep
      exact Or.inl ⟨op, ops, hOps, rfl⟩
    · cases hStep
  next hOps =>
    right
    refine ⟨hOps, ?_⟩
    simp only [Option.or_eq_some_iff] at hStep
    rcases hStep with
      hStep | ⟨_, hStep | ⟨_, hStep | ⟨_, hStep⟩⟩⟩
    · exact Or.inl hStep
    · exact Or.inr (Or.inl hStep)
    · exact Or.inr (Or.inr (Or.inl hStep))
    · exact Or.inr (Or.inr (Or.inr hStep))

end

------------------------------------------------------------
-- Steps Outside The Measurement
------------------------------------------------------------

section

variable {n m : Nat}

attribute [simp] position

@[simp] theorem position_ite
    (condition : Prop)
    [Decidable condition]
    (p q : MainPoint n) :
    position (if condition then p else q) =
      if condition then position p else position q := by
  split <;> rfl

/-
  Where a step outside the measurement can lead: on towards
  the barriers, through them, past the measurement when the
  run has failed, or on through the teardown.
-/
def OutsideMove (s t : State n m) : Prop :=
  (position s.main ≤ 13 ∧ position t.main ≤ 13 ∧
    (7 ≤ position t.main →
      7 ≤ position s.main ∨ Failing t ∨
        n ≤ s.control.warmedCameras)) ∨
  (position s.main = 13 ∧ s.control.failed = false ∧
    position t.main = 14) ∨
  (position s.main = 13 ∧ s.control.failed = true ∧
    position t.main = 20) ∨
  (20 ≤ position s.main ∧ 20 ≤ position t.main)

/- A step outside the measurement. -/
structure OutsideStep (s t : State n m) : Prop where
  clock_eq : t.clock = s.clock
  cameras_eq : t.cameras = s.cameras
  locked_eq : t.locked = s.locked
  threads :
    ∀ id, t.threads id = s.threads id ∨
      (t.threads id).free = true
  enabled_eq :
    t.control.measurementEnabled =
      s.control.measurementEnabled
  deadline_eq :
    t.control.measurementDeadlineNs =
      s.control.measurementDeadlineNs
  failed_eq : t.control.failed = s.control.failed
  count_eq :
    ∀ counter,
      t.control.count counter = s.control.count counter
  start_eq : t.measurementStartNs = s.measurementStartNs
  end_eq : t.measurementEndNs = s.measurementEndNs
  ops_shape :
    t.mainOps = [] ∨ ∃ failure, t.mainOps = setFailure failure
  move : OutsideMove s t

/- The fields a step outside the measurement may change. -/
theorem outsideStep_update
    {s : State n m}
    {running : Fin n → Bool}
    {noise stop : Bool}
    {main : MainPoint n}
    {ops : List ControlOp}
    {readyNs openNs : Nat}
    (hOps :
      ops = [] ∨ ∃ failure, ops = setFailure failure)
    (hMove :
      OutsideMove s { s with main := main, mainOps := ops }) :
    OutsideStep s
      { s with
        running := running
        control :=
          { s.control with
            noiseTransitionActive := noise
            stop := stop }
        main := main
        mainOps := ops
        warmupReadyNs := readyNs
        measurementGateOpenNs := openNs } where
  clock_eq := rfl
  cameras_eq := rfl
  locked_eq := rfl
  threads _ := Or.inl rfl
  enabled_eq := rfl
  deadline_eq := rfl
  failed_eq := rfl
  count_eq counter := by cases counter <;> rfl
  start_eq := rfl
  end_eq := rfl
  ops_shape := hOps
  move := hMove

variable {cfg : Config n}
variable {s t : State n m}
variable {input : MainInput}

theorem startupStep_outside
    (hOps : s.mainOps = [])
    (hStep : startupStep cfg s input = some t) :
    OutsideStep s t := by
  unfold startupStep at hStep
  split at hStep
  next hMain =>
    cases hStep
    exact outsideStep_update (.inl hOps) (.inl (by
      simp [hMain]))
  next hMain =>
    cases hStep
    exact outsideStep_update (.inl hOps) (.inl (by
      simp [hMain]))
  next hMain =>
    cases hStep
    refine outsideStep_update (.inl hOps) (.inl ?_)
    simp only [hMain, position_ite]
    split <;> simp
  next camera rest hMain =>
    cases hStep
    refine
      { clock_eq := rfl
        cameras_eq := rfl
        locked_eq := rfl
        threads := ?_
        enabled_eq := rfl
        deadline_eq := rfl
        failed_eq := rfl
        count_eq := fun _ => rfl
        start_eq := rfl
        end_eq := rfl
        ops_shape := .inl hOps
        move := .inl (by simp [hMain]) }
    intro id
    by_cases hId : id = .inl camera
    · subst hId
      right
      simp [ThreadPhase.free]
    · left
      simp [hId]
  next hMain =>
    cases hStep
    refine outsideStep_update (.inl hOps) (.inl ?_)
    simp only [hMain, position_ite]
    split <;> simp
  · cases hStep

theorem waitFor_eq
    {condition : Bool}
    {next : MainPoint n}
    {late : List ControlOp}
    (hOps : s.mainOps = [])
    (hStep : waitFor s condition next late input = some t) :
    t =
      { s with
        main := next
        mainOps := if condition then [] else late } := by
  unfold waitFor at hStep
  split at hStep
  · split at hStep
    next hCondition =>
      cases hStep
      simp [hCondition, hOps]
    · cases hStep
  · cases hStep
    rfl
  · cases hStep

theorem setFailure_shape
    (condition : Bool)
    (failure : Failure) :
    (if condition then [] else setFailure failure) = [] ∨
      ∃ other,
        (if condition then [] else setFailure failure) =
          setFailure other := by
  cases condition with
  | true => exact Or.inl rfl
  | false => exact Or.inr ⟨failure, rfl⟩

theorem inspectGate_outside
    {s : State n m}
    (hOps : s.mainOps = [])
    (hMain : s.main = .gateInspect)
    (look : GateLook) :
    OutsideStep s (inspectGate s look) := by
  cases look with
  | errorFile text =>
      exact outsideStep_update (.inr ⟨_, rfl⟩) (.inl (by
        simp [hMain]))
  | gateFile timestamp =>
      simp only [inspectGate]
      split
      · exact outsideStep_update (.inl hOps) (.inl (by
          simp [hMain]))
      · exact outsideStep_update (.inr ⟨_, rfl⟩) (.inl (by
          simp [hMain]))
  | nothing =>
      exact outsideStep_update (.inl hOps) (.inl (by
        simp [hMain]))
  | timedOut =>
      exact outsideStep_update (.inr ⟨_, rfl⟩) (.inl (by
        simp [hMain]))

theorem barrierStep_outside
    (hOps : s.mainOps = [])
    (hStep : barrierStep cfg s input = some t) :
    OutsideStep s t := by
  unfold barrierStep at hStep
  split at hStep
  next hMain =>
    rw [waitFor_eq hOps hStep]
    exact outsideStep_update (setFailure_shape _ _) (.inl (by
      simp [hMain]))
  next hMain =>
    cases hStep
    refine outsideStep_update (.inl hOps) (.inl ?_)
    simp only [hMain, position_ite]
    split <;> simp
  next hMain =>
    cases hStep
    exact outsideStep_update (.inl hOps) (.inl (by
      simp [hMain]))
  next hMain =>
    cases hStep
    exact outsideStep_update (.inr ⟨_, rfl⟩) (.inl (by
      simp [hMain]))
  next hMain =>
    -- The warm-up barrier is skipped after a failure.
    cases hStep
    refine outsideStep_update (.inl hOps) (.inl ?_)
    cases hFailed : s.control.failed with
    | true => simp [hMain, Failing, hFailed]
    | false => simp [hMain]
  next hMain =>
    -- The barrier opens when all cameras are warm.
    rw [waitFor_eq hOps hStep]
    refine outsideStep_update (setFailure_shape _ _)
      (.inl ⟨by simp [hMain], by simp, ?_⟩)
    intro _
    right
    cases hFailed : s.control.failed with
    | true => exact Or.inl (Or.inl hFailed)
    | false =>
        by_cases hWarm : s.control.warmedCameras = n
        · exact Or.inr (Nat.le_of_eq hWarm.symm)
        · left
          right
          exact ⟨.warmupTimeout, by simp [hWarm]⟩
  next hMain =>
    cases hStep
    refine outsideStep_update (.inl hOps) (.inl ?_)
    simp only [hMain, position_ite]
    split <;> simp
  next hMain =>
    split at hStep
    · cases hStep
      exact outsideStep_update (.inl hOps) (.inl (by
        simp [hMain]))
    · cases hStep
      exact outsideStep_update (.inl hOps) (.inl (by
        simp [hMain]))
  next hMain =>
    cases hStep
    exact outsideStep_update (.inl hOps) (.inl (by
      simp [hMain]))
  next hMain =>
    cases hStep
    exact outsideStep_update (.inl hOps) (.inl (by
      simp [hMain]))
  next hMain =>
    cases hStep
    refine outsideStep_update (.inl hOps) (.inl ?_)
    simp only [hMain, position_ite]
    split <;> simp
  next hMain =>
    cases hStep
    exact inspectGate_outside hOps hMain _
  next hMain =>
    cases hStep
    exact outsideStep_update (.inl hOps) (.inl (by
      simp [hMain]))
  next hMain =>
    cases hStep
    refine outsideStep_update (.inl hOps) (.inr ?_)
    cases hFailed : s.control.failed with
    | true =>
        exact Or.inr (Or.inl ⟨by simp [hMain], rfl, by
          simp⟩)
    | false =>
        exact Or.inl ⟨by simp [hMain], rfl, by simp⟩
  · cases hStep

theorem teardownStep_outside
    (hOps : s.mainOps = [])
    (hStep : teardownStep cfg s input = some t) :
    OutsideStep s t := by
  have hLater :
      ∀ {running noise stop readyNs openNs main ops},
        (ops = [] ∨ ∃ failure, ops = setFailure failure) →
        20 ≤ position s.main →
        20 ≤ position main →
        OutsideStep s
          { s with
            running := running
            control :=
              { s.control with
                noiseTransitionActive := noise
                stop := stop }
            main := main
            mainOps := ops
            warmupReadyNs := readyNs
            measurementGateOpenNs := openNs } := by
    intro running noise stop readyNs openNs main ops hShape
      hFrom hTo
    exact outsideStep_update hShape
      (.inr (.inr (.inr ⟨hFrom, hTo⟩)))
  unfold teardownStep at hStep
  split at hStep
  next hMain =>
    cases hStep
    exact hLater (.inl hOps) (by simp [hMain]) (by simp)
  next hMain =>
    cases hStep
    exact hLater (.inl hOps) (by simp [hMain]) (by simp)
  next hMain =>
    cases hStep
    exact hLater (.inl hOps) (by simp [hMain]) (by simp)
  next hMain =>
    cases hStep
    exact hLater (setFailure_shape _ _) (by simp [hMain])
      (by simp)
  next hMain =>
    cases hStep
    exact hLater (.inl hOps) (by simp [hMain]) (by simp)
  next hMain =>
    split at hStep
    · cases hStep
      exact hLater (.inl hOps) (by simp [hMain]) (by simp)
    · cases hStep
  next hMain =>
    cases hStep
    exact hLater (.inl hOps) (by simp [hMain]) (by simp)
  next hMain =>
    cases hStep
    exact hLater (.inl hOps) (by simp [hMain]) (by simp)
  next hMain =>
    cases hStep
    exact hLater (.inl hOps) (by simp [hMain]) (by simp)
  next hMain =>
    cases hStep
    exact hLater (setFailure_shape _ _) (by simp [hMain])
      (by simp)
  · cases hStep

end

------------------------------------------------------------
-- Facts About The Barriers
------------------------------------------------------------

section

variable {n m : Nat}

section Operations

variable (control : Control)
variable (op : ControlOp)

@[simp] theorem apply_measurementEnabled :
    (control.apply op).measurementEnabled =
      control.measurementEnabled := by
  unfold Control.apply
  split
  · split <;> rfl
  all_goals rfl

@[simp] theorem apply_measurementDeadlineNs :
    (control.apply op).measurementDeadlineNs =
      control.measurementDeadlineNs := by
  unfold Control.apply
  split
  · split <;> rfl
  all_goals rfl

theorem apply_failed_of_failed
    (hFailed : control.failed = true) :
    (control.apply op).failed = true := by
  unfold Control.apply
  split
  · simp [hFailed]
  all_goals exact hFailed

/- A counter changes only when one is added to it. -/
@[simp] theorem count_apply
    (counter : Counter) :
    (control.apply op).count counter =
      control.count counter +
        if op = .add counter then 1 else 0 := by
  unfold Control.apply
  split
  · split <;> simp [Control.count]
  · cases counter <;> simp [Control.count]
  · cases counter <;> simp [Control.count]
  · cases counter <;> simp [Control.count]
  · cases counter <;> simp [Control.count]

theorem count_le_count_apply
    (counter : Counter) :
    control.count counter ≤
      (control.apply op).count counter := by
  rw [count_apply]
  exact Nat.le_add_right _ _

end Operations

/- The control changed at most by one critical section. -/
def ControlGrows (before after : Control) : Prop :=
  after = before ∨ ∃ op, after = before.apply op

variable {before after : Control}
variable {cfg : Config n}
variable {op : ControlOp}
variable {ops : List ControlOp}

theorem ControlGrows.count_le
    (hGrows : ControlGrows before after)
    (counter : Counter) :
    before.count counter ≤ after.count counter := by
  rcases hGrows with hSame | ⟨op, hOp⟩
  · rw [hSame]
  · rw [hOp]
    exact count_le_count_apply before op counter

theorem ControlGrows.failed
    (hGrows : ControlGrows before after)
    (hFailed : before.failed = true) :
    after.failed = true := by
  rcases hGrows with hSame | ⟨op, hOp⟩
  · rw [hSame]
    exact hFailed
  · rw [hOp]
    exact apply_failed_of_failed before op hFailed

theorem ControlGrows.enabled_eq
    (hGrows : ControlGrows before after) :
    after.measurementEnabled = before.measurementEnabled := by
  rcases hGrows with hSame | ⟨op, hOp⟩
  · rw [hSame]
  · rw [hOp, apply_measurementEnabled]

theorem ControlGrows.deadline_eq
    (hGrows : ControlGrows before after) :
    after.measurementDeadlineNs =
      before.measurementDeadlineNs := by
  rcases hGrows with hSame | ⟨op, hOp⟩
  · rw [hSame]
  · rw [hOp, apply_measurementDeadlineNs]

/-
  The facts survive every step that leaves the main thread
  where it is and only lets the control and the clock grow.
-/
theorem MainFacts.of_grows
    {s t : State n m}
    (hFacts : MainFacts cfg s)
    (hMain : t.main = s.main)
    (hClock : s.clock ≤ t.clock)
    (hStart : t.measurementStartNs = s.measurementStartNs)
    (hGrows : ControlGrows s.control t.control)
    (hShape :
      t.mainOps = [] ∨ t.mainOps = [.raiseStop] ∨
        ∃ failure, t.mainOps = setFailure failure)
    (hFailing : Failing s → Failing t) :
    MainFacts cfg t := by
  have hWarm := hGrows.count_le .warmed
  have hComplete := hGrows.count_le .completed
  simp only [Control.count] at hWarm hComplete
  refine
    { ops_shape := hShape
      enabled_position := ?_
      warmed_or_failing := ?_
      warmed_measured := ?_
      completed_or_failing := ?_
      start_le := ?_
      deadline_eq := ?_ }
  · rw [hMain, hGrows.enabled_eq]
    exact hFacts.enabled_position
  · rw [hMain]
    intro hPosition
    rcases hFacts.warmed_or_failing hPosition with
      hFail | hCount
    · exact Or.inl (hFailing hFail)
    · exact Or.inr (Nat.le_trans hCount hWarm)
  · rw [hMain]
    intro hFrom hTo
    exact Nat.le_trans (hFacts.warmed_measured hFrom hTo) hWarm
  · rw [hMain]
    intro hPosition hMode
    rcases hFacts.completed_or_failing hPosition hMode with
      hFail | hCount
    · exact Or.inl (hFailing hFail)
    · exact Or.inr (Nat.le_trans hCount hComplete)
  · rw [hMain, hStart]
    intro hFrom hTo
    exact Nat.le_trans (hFacts.start_le hFrom hTo) hClock
  · rw [hMain, hStart, hGrows.deadline_eq]
    exact hFacts.deadline_eq

/- A `set_failure` that is under way ends in a failed run. -/
theorem mainOp_failing
    {s : State n m}
    (hOps : s.mainOps = op :: ops)
    (hFailing : Failing s) :
    Failing
      { s with
        control := s.control.apply op
        mainOps := ops } := by
  left
  rcases hFailing with hFailed | ⟨failure, hFail⟩
  · exact apply_failed_of_failed _ _ hFailed
  · rw [hFail] at hOps
    cases hOps
    simp only [Control.apply]
    split
    · assumption
    · rfl

/- The main thread takes one step of a `set_failure`. -/
theorem mainOp_facts
    {s : State n m}
    (hFacts : MainFacts cfg s)
    (hOps : s.mainOps = op :: ops) :
    MainFacts cfg
      { s with
        control := s.control.apply op
        mainOps := ops } := by
  refine hFacts.of_grows rfl (Nat.le_refl _) rfl
    (.inr ⟨op, rfl⟩) ?_ (mainOp_failing hOps)
  rcases hFacts.ops_shape with hNone | hStop | ⟨_, hFail⟩
  · rw [hNone] at hOps
    cases hOps
  · rw [hStop] at hOps
    cases hOps
    exact Or.inl rfl
  · rw [hFail] at hOps
    cases hOps
    exact Or.inr (Or.inl rfl)

theorem mainOp_frame
    {s : State n m}
    (hFacts : MainFacts cfg s)
    (hOps : s.mainOps = op :: ops) :
    MainFrame s
      { s with
        control := s.control.apply op
        mainOps := ops } := by
  have hNotAdd : ∀ counter, op ≠ .add counter := by
    intro counter hAdd
    rcases hFacts.ops_shape with hNone | hStop | ⟨_, hFail⟩
    · rw [hNone] at hOps
      cases hOps
    · rw [hStop, hAdd] at hOps
      cases hOps
    · rw [hFail, hAdd] at hOps
      cases hOps
  exact
    { clock_eq := rfl
      cameras_eq := rfl
      locked_eq := rfl
      threads := fun _ => Or.inl rfl
      count_eq := fun counter => by simp [hNotAdd counter]
      start_eq := Or.inl rfl
      deadline_eq := Or.inl (by simp)
      end_eq := Or.inl rfl
      before := fun hBefore => hBefore
      during := fun hFrom hTo => Or.inr ⟨hFrom, hTo⟩
      after := by
        intro hAfter
        exact Or.inl ⟨hAfter, rfl⟩ }

theorem OutsideStep.failing
    {s t : State n m}
    (hStep : OutsideStep s t)
    (hOps : s.mainOps = [])
    (hFailing : Failing s) :
    Failing t := by
  left
  rw [hStep.failed_eq]
  exact (failing_iff_of_no_ops hOps).mp hFailing

theorem OutsideStep.facts
    {s t : State n m}
    (hStep : OutsideStep s t)
    (hOps : s.mainOps = [])
    (hFacts : MainFacts cfg s) :
    MainFacts cfg t := by
  have hWarm := hStep.count_eq .warmed
  have hComplete := hStep.count_eq .completed
  simp only [Control.count] at hWarm hComplete
  have hFailing := hStep.failing hOps
  have hShape := hStep.ops_shape
  have hDisabled :
      t.control.measurementEnabled = true →
        position t.main = 17 ∨ position t.main = 18 := by
    rw [hStep.enabled_eq]
    intro hEnabled
    have hPosition := hFacts.enabled_position hEnabled
    rcases hStep.move with hMove | hMove | hMove | hMove
    all_goals omega
  have hKnown : 7 ≤ position s.main →
      Failing t ∨ n ≤ t.control.warmedCameras := by
    intro hPosition
    rcases hFacts.warmed_or_failing hPosition with
      hFail | hCount
    · exact Or.inl (hFailing hFail)
    · exact Or.inr (hWarm ▸ hCount)
  refine
    { ops_shape := ?_
      enabled_position := hDisabled
      warmed_or_failing := ?_
      warmed_measured := ?_
      completed_or_failing := ?_
      start_le := ?_
      deadline_eq := ?_ }
  · rcases hShape with hNone | hFail
    · exact Or.inl hNone
    · exact Or.inr (Or.inr hFail)
  · intro hPosition
    rcases hStep.move with
      ⟨_, _, hMove⟩ | hMove | hMove | hMove
    · rcases hMove hPosition with hFrom | hFail | hCount
      · exact hKnown hFrom
      · exact Or.inl hFail
      · exact Or.inr (hWarm ▸ hCount)
    all_goals exact hKnown (by omega)
  · intro hFrom hTo
    rcases hStep.move with hMove | hMove | hMove | hMove
    · omega
    · -- The measurement starts only without a failure.
      rcases hFacts.warmed_or_failing (by omega) with
        hFail | hCount
      · have hFailed := (failing_iff_of_no_ops hOps).mp hFail
        rw [hMove.2.1] at hFailed
        cases hFailed
      · exact hWarm ▸ hCount
    · omega
    · omega
  · intro hPosition hMode
    rcases hStep.move with hMove | hMove | hMove | hMove
    · omega
    · omega
    · left
      left
      rw [hStep.failed_eq]
      exact hMove.2.1
    · rcases hFacts.completed_or_failing (by omega) hMode with
        hFail | hCount
      · exact Or.inl (hFailing hFail)
      · exact Or.inr (hComplete ▸ hCount)
  · intro hFrom hTo
    rcases hStep.move with hMove | hMove | hMove | hMove
    all_goals omega
  · intro hFrom hTo
    rcases hStep.move with hMove | hMove | hMove | hMove
    all_goals omega

theorem OutsideStep.frame
    {s t : State n m}
    (hStep : OutsideStep s t) :
    MainFrame s t := by
  have hMove : OutsideMove s t := hStep.move
  refine
    { clock_eq := hStep.clock_eq
      cameras_eq := hStep.cameras_eq
      locked_eq := hStep.locked_eq
      threads := hStep.threads
      count_eq := hStep.count_eq
      start_eq := Or.inl hStep.start_eq
      deadline_eq := Or.inl hStep.deadline_eq
      end_eq := Or.inl hStep.end_eq
      before := ?_
      during := ?_
      after := ?_ }
  · intro hBefore
    rcases hMove with hMove | hMove | hMove | hMove
    all_goals omega
  · intro hFrom hTo
    rcases hMove with hMove | hMove | hMove | hMove
    all_goals omega
  · intro hAfter
    rcases hMove with hMove | hMove | hMove | hMove
    · omega
    · omega
    · exact Or.inr (Or.inr (by omega))
    · exact Or.inl ⟨hMove.1, hStep.end_eq⟩

end

------------------------------------------------------------
-- Steps Of The Measurement
------------------------------------------------------------

section

variable {n m : Nat}

/- What a step of the measurement does. -/
inductive MeasurementStep
    (cfg : Config n)
    (s : State n m) : State n m → Prop
| startRead
    (hMain : s.main = .startRead) :
    MeasurementStep cfg s
      { s with
        measurementStartNs := s.clock
        main := .deadlineStore }
| deadlineStore
    (hMain : s.main = .deadlineStore) :
    MeasurementStep cfg s
      { s with
        control :=
          { s.control with
            measurementDeadlineNs :=
              if fixedDurationMeasurement cfg.opts then
                measurementDeadline cfg.opts
                  s.measurementStartNs
              else
                s.control.measurementDeadlineNs }
        main := .enable }
| enable
    (hMain : s.main = .enable) :
    MeasurementStep cfg s
      { s with
        control :=
          { s.control with measurementEnabled := true }
        main := .measureWait }
| measureWait
    (ops : List ControlOp)
    (hMain : s.main = .measureWait)
    (hShape : ops = [] ∨ ∃ failure, ops = setFailure failure)
    (hComplete :
      fixedDurationMeasurement cfg.opts = false →
        s.control.failed = true ∨
          s.control.completedCameras = n ∨
          ∃ failure, ops = setFailure failure) :
    MeasurementStep cfg s
      { s with
        main := .disable
        mainOps := ops }
| disable
    (hMain : s.main = .disable) :
    MeasurementStep cfg s
      { s with
        control :=
          { s.control with measurementEnabled := false }
        main := .endRead }
| endRead
    (hMain : s.main = .endRead) :
    MeasurementStep cfg s
      { s with
        measurementEndNs := s.clock
        main := .stopStore }

variable {cfg : Config n}
variable {s t : State n m}
variable {input : MainInput}

theorem measurementStep_effect
    (hOps : s.mainOps = [])
    (hStep : measurementStep cfg s input = some t) :
    MeasurementStep cfg s t := by
  unfold measurementStep at hStep
  split at hStep
  next hMain =>
    cases hStep
    exact .startRead hMain
  next hMain =>
    cases hStep
    exact .deadlineStore hMain
  next hMain =>
    cases hStep
    exact .enable hMain
  next hMain =>
    split at hStep
    next hFixed =>
      rw [waitFor_eq hOps hStep]
      refine .measureWait _ hMain ?_ ?_
      · left
        split <;> rfl
      · intro hMode
        rw [hFixed] at hMode
        cases hMode
    · rw [waitFor_eq hOps hStep]
      refine .measureWait _ hMain (setFailure_shape _ _) ?_
      intro _
      cases hFailed : s.control.failed with
      | true => exact Or.inl rfl
      | false =>
          right
          by_cases hCount : s.control.completedCameras = n
          · exact Or.inl hCount
          · exact Or.inr ⟨.measurementTimeout, by
              simp [hCount]⟩
  next hMain =>
    cases hStep
    exact .disable hMain
  next hMain =>
    cases hStep
    exact .endRead hMain
  · cases hStep

theorem MainFacts.not_enabled
    {s : State n m}
    (hFacts : MainFacts cfg s)
    (hPosition : position s.main ≠ 17 ∧ position s.main ≠ 18) :
    s.control.measurementEnabled ≠ true := by
  intro hEnabled
  rcases hFacts.enabled_position hEnabled with hAt | hAt
  · exact hPosition.1 hAt
  · exact hPosition.2 hAt

theorem MeasurementStep.facts
    (hStep : MeasurementStep cfg s t)
    (hOps : s.mainOps = [])
    (hFacts : MainFacts cfg s) :
    MainFacts cfg t := by
  have hPosition : 14 ≤ position s.main ∧
      position s.main ≤ 19 := by
    cases hStep with
    | startRead hMain => simp [hMain]
    | deadlineStore hMain => simp [hMain]
    | enable hMain => simp [hMain]
    | measureWait _ hMain => simp [hMain]
    | disable hMain => simp [hMain]
    | endRead hMain => simp [hMain]
  have hWarm :=
    hFacts.warmed_measured hPosition.1 hPosition.2
  cases hStep with
  | startRead hMain =>
      have hOff := hFacts.not_enabled (by simp [hMain])
      exact
        { ops_shape := Or.inl hOps
          enabled_position := fun hEnabled =>
            absurd hEnabled hOff
          warmed_or_failing := fun _ => Or.inr hWarm
          warmed_measured := fun _ _ => hWarm
          completed_or_failing := by simp
          start_le := fun _ _ => Nat.le_refl _
          deadline_eq := by simp }
  | deadlineStore hMain =>
      have hOff := hFacts.not_enabled (by simp [hMain])
      have hStart := hFacts.start_le
      refine
        { ops_shape := Or.inl hOps
          enabled_position := fun hEnabled =>
            absurd hEnabled hOff
          warmed_or_failing := fun _ => Or.inr hWarm
          warmed_measured := fun _ _ => hWarm
          completed_or_failing := by simp
          start_le := fun _ _ => ?_
          deadline_eq := ?_ }
      · exact hStart (by simp [hMain]) (by simp [hMain])
      · intro _ _ hFixed
        simp [hFixed]
  | enable hMain =>
      have hStart := hFacts.start_le
      have hDeadline := hFacts.deadline_eq
      simp only [hMain] at hStart hDeadline
      exact
        { ops_shape := Or.inl hOps
          enabled_position := fun _ => Or.inl rfl
          warmed_or_failing := fun _ => Or.inr hWarm
          warmed_measured := fun _ _ => hWarm
          completed_or_failing := by simp
          start_le := fun _ _ => hStart (by simp) (by simp)
          deadline_eq := fun _ _ =>
            hDeadline (by simp) (by simp) }
  | measureWait ops hMain hShape hComplete =>
      have hStart := hFacts.start_le
      have hDeadline := hFacts.deadline_eq
      simp only [hMain] at hStart hDeadline
      refine
        { ops_shape := ?_
          enabled_position := fun _ => Or.inr rfl
          warmed_or_failing := fun _ => Or.inr hWarm
          warmed_measured := fun _ _ => hWarm
          completed_or_failing := ?_
          start_le := fun _ _ => hStart (by simp) (by simp)
          deadline_eq := fun _ _ =>
            hDeadline (by simp) (by simp) }
      · rcases hShape with hNone | hFail
        · exact Or.inl hNone
        · exact Or.inr (Or.inr hFail)
      · intro _ hMode
        rcases hComplete hMode with hFailed | hCount | hFail
        · exact Or.inl (Or.inl hFailed)
        · exact Or.inr (Nat.le_of_eq hCount.symm)
        · exact Or.inl (Or.inr hFail)
  | disable hMain =>
      have hStart := hFacts.start_le
      have hDeadline := hFacts.deadline_eq
      have hComplete := hFacts.completed_or_failing
      simp only [hMain] at hStart hDeadline hComplete
      exact
        { ops_shape := Or.inl hOps
          enabled_position := by simp
          warmed_or_failing := fun _ => Or.inr hWarm
          warmed_measured := fun _ _ => hWarm
          completed_or_failing := fun _ =>
            hComplete (by simp)
          start_le := fun _ _ => hStart (by simp) (by simp)
          deadline_eq := fun _ _ =>
            hDeadline (by simp) (by simp) }
  | endRead hMain =>
      have hOff := hFacts.not_enabled (by simp [hMain])
      have hComplete := hFacts.completed_or_failing
      simp only [hMain] at hComplete
      exact
        { ops_shape := Or.inl hOps
          enabled_position := fun hEnabled =>
            absurd hEnabled hOff
          warmed_or_failing := fun _ => Or.inr hWarm
          warmed_measured := by simp
          completed_or_failing := fun _ =>
            hComplete (by simp)
          start_le := by simp
          deadline_eq := by simp }

theorem MeasurementStep.frame
    (hStep : MeasurementStep cfg s t) :
    MainFrame s t := by
  cases hStep with
  | startRead hMain =>
      constructor <;> simp [hMain, Control.count]
  | deadlineStore hMain =>
      constructor <;> simp [hMain]
      intro counter
      cases counter <;> rfl
  | enable hMain =>
      constructor <;> simp [hMain]
      intro counter
      cases counter <;> rfl
  | measureWait ops hMain =>
      constructor <;> simp [hMain]
  | disable hMain =>
      constructor <;> simp [hMain]
      intro counter
      cases counter <;> rfl
  | endRead hMain =>
      constructor <;> simp [hMain]

theorem mainStep_facts
    (hFacts : MainFacts cfg s)
    (hStep : mainStep cfg s input = some t) :
    MainFacts cfg t := by
  rcases mainStep_cases hStep with
    ⟨op, ops, hOps, hNext⟩ |
    ⟨hOps, hStep | hStep | hStep | hStep⟩
  · rw [hNext]
    exact mainOp_facts hFacts hOps
  · exact (startupStep_outside hOps hStep).facts hOps hFacts
  · exact (barrierStep_outside hOps hStep).facts hOps hFacts
  · exact (measurementStep_effect hOps hStep).facts hOps hFacts
  · exact (teardownStep_outside hOps hStep).facts hOps hFacts

theorem mainStep_frame
    (hFacts : MainFacts cfg s)
    (hStep : mainStep cfg s input = some t) :
    MainFrame s t := by
  rcases mainStep_cases hStep with
    ⟨op, ops, hOps, hNext⟩ |
    ⟨hOps, hStep | hStep | hStep | hStep⟩
  · rw [hNext]
    exact mainOp_frame hFacts hOps
  · exact (startupStep_outside hOps hStep).frame
  · exact (barrierStep_outside hOps hStep).frame
  · exact (measurementStep_effect hOps hStep).frame
  · exact (teardownStep_outside hOps hStep).frame

end

------------------------------------------------------------
-- Facts Along Runs
------------------------------------------------------------

open Steady

variable {n m : Nat}

/- What a step of a camera thread leaves alone. -/
structure ThreadFrame (s t : State n m) : Prop where
  clock_eq : t.clock = s.clock
  main_eq : t.main = s.main
  mainOps_eq : t.mainOps = s.mainOps
  start_eq : t.measurementStartNs = s.measurementStartNs
  end_eq : t.measurementEndNs = s.measurementEndNs
  grows : ControlGrows s.control t.control

variable {cfg : Config n}
variable {s t : State n m}

theorem ThreadEffect.frame
    {id : ThreadId n m}
    (hEffect : ThreadEffect cfg s id t) :
    ThreadFrame s t := by
  cases hEffect with
  | signal camera op =>
      exact ⟨rfl, rfl, rfl, rfl, rfl, .inr ⟨op, rfl⟩⟩
  | _ => exact ⟨rfl, rfl, rfl, rfl, rfl, .inl rfl⟩

theorem ThreadFrame.failing
    (hFrame : ThreadFrame s t)
    (hFailing : Failing s) :
    Failing t := by
  unfold Failing at hFailing ⊢
  rw [hFrame.mainOps_eq]
  rcases hFailing with hFailed | hFail
  · exact Or.inl (hFrame.grows.failed hFailed)
  · exact Or.inr hFail

theorem ThreadFrame.facts
    (hFrame : ThreadFrame s t)
    (hFacts : MainFacts cfg s) :
    MainFacts cfg t := by
  refine hFacts.of_grows hFrame.main_eq
    (Nat.le_of_eq hFrame.clock_eq.symm) hFrame.start_eq
    hFrame.grows ?_ hFrame.failing
  rw [hFrame.mainOps_eq]
  exact hFacts.ops_shape

theorem start_facts
    (cfg : Config n) :
    MainFacts cfg (start cfg m) := by
  constructor <;> simp [start]

theorem step_facts
    {action : Action n m}
    (hFacts : MainFacts cfg s)
    (hStep : step cfg s action = some t) :
    MainFacts cfg t := by
  cases action with
  | tick now =>
      simp only [step] at hStep
      split at hStep
      next hNow =>
        cases hStep
        exact hFacts.of_grows rfl hNow.1 rfl (.inl rfl)
          hFacts.ops_shape (fun hFailing => hFailing)
      · cases hStep
  | thread id action =>
      exact (threadStep_effect hStep).frame.facts hFacts
  | main input => exact mainStep_facts hFacts hStep

end Probe

end RsCamera
