import RsCamera.Noise.Transition

/-
  What the two processes of the noise transition can rely on:
  the gate that the probe reads is the one the coordinator
  has published, and the times of both are in order.

  Key definitions include:
    * `GateFrame`
    * `CoordinatorFacts`
    * `Handshake`

  Key theorems include:
    * `step_gateFrame`
    * `coordinatorStep_facts`
    * `Handshake.probe`
-/

------------------------------------------------------------
-- The Probe At The Gate
------------------------------------------------------------

namespace RsCamera

namespace Noise

section

open Probe

variable {n m : Nat}

/- What the probe has looked at in a step. -/
def lookOf : Action n m → Option GateLook
| .main (.gate look) => some look
| _ => none

/-
  What a step of the probe does to its times, and how it
  comes to the points around the gate.
-/
structure GateFrame
    (s t : State n m)
    (action : Action n m) : Prop where
  clock : s.clock ≤ t.clock
  failing : Failing s → Failing t
  ready :
    t.warmupReadyNs = s.warmupReadyNs ∨
      (position s.main = 8 ∧ position t.main = 9 ∧
        t.warmupReadyNs = s.clock)
  opened :
    t.measurementGateOpenNs = s.measurementGateOpenNs ∨
      ∃ timestamp,
        lookOf action = some (.gateFile (some timestamp)) ∧
        t.measurementGateOpenNs = timestamp ∧
        position s.main = 11
  started :
    t.measurementStartNs = s.measurementStartNs ∨
      (position s.main = 14 ∧
        t.measurementStartNs = s.clock)
  publishing :
    position t.main = 9 →
      position s.main = 9 ∨ t.warmupReadyNs = s.clock
  published :
    10 ≤ position t.main →
      10 ≤ position s.main ∨ publishes s action = true ∨
        (position t.main = 13 ∧ Failing t)
  forward :
    10 ≤ position s.main → 10 ≤ position t.main
  closing :
    12 ≤ position t.main → position t.main ≤ 13 →
      Failing t ∨ 12 ≤ position s.main ∧ position s.main ≤ 13 ∨
        ∃ timestamp,
          lookOf action = some (.gateFile (some timestamp)) ∧
          t.measurementGateOpenNs = timestamp
  measuring :
    14 ≤ position t.main → position t.main ≤ 19 →
      14 ≤ position s.main ∧ position s.main ≤ 19 ∨
        position s.main = 13 ∧ ¬ Failing s
  measured :
    15 ≤ position t.main → position t.main ≤ 19 →
      15 ≤ position s.main ∧ position s.main ≤ 19 ∨
        position s.main = 14 ∧
          t.measurementStartNs = s.clock

variable {s t : State n m}
variable {action : Action n m}
variable {cfg : Config n}
variable {input : MainInput}

/- A step that leaves the main thread and its times alone. -/
theorem GateFrame.of_same
    (hMain : t.main = s.main)
    (hClock : s.clock ≤ t.clock)
    (hFailing : Failing s → Failing t)
    (hReady : t.warmupReadyNs = s.warmupReadyNs)
    (hOpen :
      t.measurementGateOpenNs = s.measurementGateOpenNs)
    (hStart :
      t.measurementStartNs = s.measurementStartNs) :
    GateFrame s t action where
  clock := hClock
  failing := hFailing
  ready := Or.inl hReady
  opened := Or.inl hOpen
  started := Or.inl hStart
  publishing := by
    rw [hMain]
    exact Or.inl
  published := by
    rw [hMain]
    exact Or.inl
  forward := by
    rw [hMain]
    exact id
  closing := by
    rw [hMain]
    intro hFrom hTo
    exact Or.inr (Or.inl ⟨hFrom, hTo⟩)
  measuring := by
    rw [hMain]
    intro hFrom hTo
    exact Or.inl ⟨hFrom, hTo⟩
  measured := by
    rw [hMain]
    intro hFrom hTo
    exact Or.inl ⟨hFrom, hTo⟩

/- A step before the gate, or after the measurement. -/
theorem GateFrame.away
    (hAway :
      position s.main ≤ 8 ∧ position t.main ≤ 8 ∨
        20 ≤ position s.main ∧ 20 ≤ position t.main)
    (hClock : s.clock ≤ t.clock)
    (hFailing : Failing s → Failing t)
    (hReady : t.warmupReadyNs = s.warmupReadyNs)
    (hOpen :
      t.measurementGateOpenNs = s.measurementGateOpenNs)
    (hStart :
      t.measurementStartNs = s.measurementStartNs) :
    GateFrame s t action := by
  constructor
  case clock => exact hClock
  case failing => exact hFailing
  case ready => exact Or.inl hReady
  case opened => exact Or.inl hOpen
  case started => exact Or.inl hStart
  all_goals
    intros
    omega

theorem startupStep_gateFrame
    (hOps : s.mainOps = [])
    (hStep : startupStep cfg s input = some t) :
    GateFrame s t (.main input) := by
  have hOutside := startupStep_outside hOps hStep
  have hClock : s.clock ≤ t.clock :=
    Nat.le_of_eq hOutside.clock_eq.symm
  have hFailing := hOutside.failing hOps
  unfold startupStep at hStep
  split at hStep
  next hMain =>
    cases hStep
    exact GateFrame.away (.inl (by simp [hMain]))
      hClock hFailing rfl rfl rfl
  next hMain =>
    cases hStep
    exact GateFrame.away (.inl (by simp [hMain]))
      hClock hFailing rfl rfl rfl
  next hMain =>
    cases hStep
    refine GateFrame.away (.inl ⟨by simp [hMain], ?_⟩)
      hClock hFailing rfl rfl rfl
    simp only [position_ite]
    split <;> simp
  next hMain =>
    cases hStep
    exact GateFrame.away (.inl (by simp [hMain]))
      hClock hFailing rfl rfl rfl
  next hMain =>
    cases hStep
    refine GateFrame.away (.inl ⟨by simp [hMain], ?_⟩)
      hClock hFailing rfl rfl rfl
    simp only [position_ite]
    split <;> simp
  · cases hStep

theorem teardownStep_gateFrame
    (hOps : s.mainOps = [])
    (hStep : teardownStep cfg s input = some t) :
    GateFrame s t (.main input) := by
  have hOutside := teardownStep_outside hOps hStep
  have hClock : s.clock ≤ t.clock :=
    Nat.le_of_eq hOutside.clock_eq.symm
  have hFailing := hOutside.failing hOps
  unfold teardownStep at hStep
  split at hStep
  next hMain =>
    cases hStep
    exact GateFrame.away (.inr (by simp [hMain]))
      hClock hFailing rfl rfl rfl
  next hMain =>
    cases hStep
    exact GateFrame.away (.inr (by simp [hMain]))
      hClock hFailing rfl rfl rfl
  next hMain =>
    cases hStep
    exact GateFrame.away (.inr (by simp [hMain]))
      hClock hFailing rfl rfl rfl
  next hMain =>
    cases hStep
    exact GateFrame.away (.inr (by simp [hMain]))
      hClock hFailing rfl rfl rfl
  next hMain =>
    cases hStep
    exact GateFrame.away (.inr (by simp [hMain]))
      hClock hFailing rfl rfl rfl
  next hMain =>
    split at hStep
    · cases hStep
      exact GateFrame.away (.inr (by simp [hMain]))
        hClock hFailing rfl rfl rfl
    · cases hStep
  next hMain =>
    cases hStep
    exact GateFrame.away (.inr (by simp [hMain]))
      hClock hFailing rfl rfl rfl
  next hMain =>
    cases hStep
    exact GateFrame.away (.inr (by simp [hMain]))
      hClock hFailing rfl rfl rfl
  next hMain =>
    cases hStep
    exact GateFrame.away (.inr (by simp [hMain]))
      hClock hFailing rfl rfl rfl
  next hMain =>
    cases hStep
    exact GateFrame.away (.inr (by simp [hMain]))
      hClock hFailing rfl rfl rfl
  · cases hStep

theorem measurementStep_gateFrame
    (hOps : s.mainOps = [])
    (hStep : measurementStep cfg s input = some t) :
    GateFrame s t (.main input) := by
  have hEffect := measurementStep_effect hOps hStep
  have hFailing : Failing s → Failing t := by
    intro hFailing
    have hFailed := (failing_iff_of_no_ops hOps).mp hFailing
    left
    cases hEffect <;> exact hFailed
  cases hEffect with
  | startRead hMain =>
      constructor <;> simp_all
  | deadlineStore hMain =>
      constructor <;> simp_all
  | enable hMain =>
      constructor <;> simp_all
  | measureWait ops hMain hShape hComplete =>
      constructor <;> simp_all
  | disable hMain =>
      constructor <;> simp_all
  | endRead hMain =>
      constructor <;> simp_all

/- One look at the gate. -/
theorem inspectGate_gateFrame
    {s : State n m}
    (hOps : s.mainOps = [])
    (hMain : s.main = .gateInspect)
    (look : GateLook) :
    GateFrame s (inspectGate s look)
      (.main (.gate look)) := by
  have hOutside := inspectGate_outside hOps hMain look
  have hFailing := hOutside.failing hOps
  cases look with
  | errorFile text =>
      constructor <;> simp_all [inspectGate, Failing, lookOf]
  | gateFile timestamp =>
      cases timestamp with
      | none =>
          constructor <;> simp_all [inspectGate, Failing, lookOf]
      | some timestamp =>
          by_cases hPositive : 0 < timestamp
          · constructor <;>
              simp_all [inspectGate, lookOf]
          · constructor <;>
              simp_all [inspectGate, Failing, lookOf]
  | nothing =>
      constructor <;> simp_all [inspectGate, lookOf]
  | timedOut =>
      constructor <;> simp_all [inspectGate, Failing, lookOf]

theorem barrierStep_gateFrame
    (hGate : cfg.opts.measurementStartGate ≠ "")
    (hOps : s.mainOps = [])
    (hStep : barrierStep cfg s input = some t) :
    GateFrame s t (.main input) := by
  have hOutside := barrierStep_outside hOps hStep
  have hClock : s.clock ≤ t.clock :=
    Nat.le_of_eq hOutside.clock_eq.symm
  have hFailing := hOutside.failing hOps
  unfold barrierStep at hStep
  split at hStep
  next hMain =>
    rw [waitFor_eq hOps hStep] at hClock hFailing ⊢
    exact GateFrame.away (.inl (by simp [hMain]))
      hClock hFailing rfl rfl rfl
  next hMain =>
    cases hStep
    refine GateFrame.away (.inl ⟨by simp [hMain], ?_⟩)
      hClock hFailing rfl rfl rfl
    simp only [position_ite]
    split <;> simp
  next hMain =>
    cases hStep
    exact GateFrame.away (.inl (by simp [hMain]))
      hClock hFailing rfl rfl rfl
  next hMain =>
    cases hStep
    exact GateFrame.away (.inl (by simp [hMain]))
      hClock hFailing rfl rfl rfl
  next hMain =>
    cases hStep
    refine GateFrame.away (.inl ⟨by simp [hMain], ?_⟩)
      hClock hFailing rfl rfl rfl
    simp only [position_ite]
    split <;> simp
  next hMain =>
    rw [waitFor_eq hOps hStep] at hClock hFailing ⊢
    exact GateFrame.away (.inl (by simp [hMain]))
      hClock hFailing rfl rfl rfl
  next hMain =>
    -- A failed run goes on past the gate.
    cases hStep
    cases hFailed : s.control.failed with
    | true => constructor <;> simp_all [Failing]
    | false => constructor <;> simp_all
  next hMain =>
    rw [if_neg hGate] at hStep
    cases hStep
    constructor <;> simp_all
  next hMain =>
    cases hStep
    constructor <;> simp_all [publishes]
  next hMain =>
    cases hStep
    constructor <;> simp_all
  next hMain =>
    cases hStep
    cases hFailed : s.control.failed with
    | true => constructor <;> simp_all [Failing]
    | false => constructor <;> simp_all
  next hMain =>
    cases hStep
    exact inspectGate_gateFrame hOps hMain _
  next hMain =>
    cases hStep
    constructor <;> simp_all
  next hMain =>
    cases hStep
    cases hFailed : s.control.failed with
    | true => constructor <;> simp_all
    | false =>
        have hSound : ¬ Failing s := by
          rw [failing_iff_of_no_ops hOps, hFailed]
          exact Bool.false_ne_true
        constructor <;> simp_all
  · cases hStep

/- The camera threads leave the times of the barriers alone. -/
theorem threadEffect_times
    {id : ThreadId n m}
    (hEffect : ThreadEffect cfg s id t) :
    t.warmupReadyNs = s.warmupReadyNs ∧
      t.measurementGateOpenNs = s.measurementGateOpenNs := by
  cases hEffect <;> exact ⟨rfl, rfl⟩

/- What any step of the probe does at the gate. -/
theorem step_gateFrame
    (hGate : cfg.opts.measurementStartGate ≠ "")
    (hStep : step cfg s action = some t) :
    GateFrame s t action := by
  cases action with
  | tick now =>
      simp only [step] at hStep
      split at hStep
      next hNow =>
        cases hStep
        exact GateFrame.of_same rfl hNow.1
          (fun hFailing => hFailing) rfl rfl rfl
      · cases hStep
  | thread id action =>
      have hEffect := threadStep_effect hStep
      have hFrame := hEffect.frame
      rcases threadEffect_times hEffect with ⟨hReady, hOpen⟩
      exact GateFrame.of_same hFrame.main_eq
        (Nat.le_of_eq hFrame.clock_eq.symm) hFrame.failing
        hReady hOpen hFrame.start_eq
  | main input =>
      rcases mainStep_cases hStep with
        ⟨op, ops, hOps, hNext⟩ |
        ⟨hOps, hStep | hStep | hStep | hStep⟩
      · rw [hNext]
        exact GateFrame.of_same rfl (Nat.le_refl _)
          (mainOp_failing hOps) rfl rfl rfl
      · exact startupStep_gateFrame hOps hStep
      · exact barrierStep_gateFrame hGate hOps hStep
      · exact measurementStep_gateFrame hOps hStep
      · exact teardownStep_gateFrame hOps hStep

end

------------------------------------------------------------
-- The Coordinator On Its Way
------------------------------------------------------------

/- The warm-up file has been read. -/
def NoisePoint.afterWarmup : NoisePoint → Bool
| .readStart => true
| .startWorkloads _ => true
| .checkDone => true
| .readReady => true
| .writeGate => true
| .renameGate => true
| _ => false

/- The start of the noise has been noted. -/
def NoisePoint.afterStart : NoisePoint → Bool
| .startWorkloads _ => true
| .checkDone => true
| .readReady => true
| .writeGate => true
| .renameGate => true
| _ => false

/- The noise has started. -/
def NoisePoint.afterNoise : NoisePoint → Bool
| .checkDone => true
| .readReady => true
| .writeGate => true
| .renameGate => true
| _ => false

/- The time of the gate has been noted. -/
def NoisePoint.gateNoted : NoisePoint → Bool
| .writeGate => true
| .renameGate => true
| _ => false

/- No gate has been published yet. -/
def NoisePoint.beforeGate : NoisePoint → Bool
| .writeState => false
| .writeError _ => false
| .renameError _ => false
| .writeErrorState => false
| .finished => false
| .dead => false
| _ => true

attribute [simp] NoisePoint.afterWarmup
  NoisePoint.afterStart NoisePoint.afterNoise
  NoisePoint.gateNoted NoisePoint.beforeGate

/- The times of the coordinator are in order up to the gate. -/
structure InOrder
    (readyNs clock : Nat)
    (coordinator : Coordinator) : Prop where
  returned : coordinator.startAllReturned = true
  ready_le_start : readyNs ≤ coordinator.noiseStartNs
  start_le_gate :
    coordinator.noiseStartNs ≤ coordinator.noiseReadyNs
  gate_le_clock : coordinator.noiseReadyNs ≤ clock

/- What the coordinator knows where it stands. -/
structure CoordinatorFacts
    (readyNs clock : Nat)
    (coordinator : Coordinator)
    (files : Files) : Prop where
  warm :
    coordinator.point.afterWarmup = true →
      files.warmupReady ≠ none
  started :
    coordinator.point.afterStart = true →
      readyNs ≤ coordinator.noiseStartNs ∧
        coordinator.noiseStartNs ≤ clock
  returned :
    coordinator.point.afterNoise = true →
      coordinator.startAllReturned = true
  noted :
    coordinator.point.gateNoted = true →
      coordinator.noiseStartNs ≤ coordinator.noiseReadyNs ∧
        coordinator.noiseReadyNs ≤ clock
  gateless :
    coordinator.point.beforeGate = true → files.gate = none
  gate :
    ∀ text, files.gate = some text →
      text = timestampLine coordinator.noiseReadyNs ∧
        files.warmupReady ≠ none ∧
        InOrder readyNs clock coordinator

theorem initial_coordinatorFacts :
    CoordinatorFacts 0 0 {} {} := by
  constructor <;> simp

/- There is nothing more to know at one point than at another. -/
def NoisePoint.KnowsLess (next now : NoisePoint) : Prop :=
  (next.afterWarmup = true → now.afterWarmup = true) ∧
  (next.afterStart = true → now.afterStart = true) ∧
  (next.afterNoise = true → now.afterNoise = true) ∧
  (next.gateNoted = true → now.gateNoted = true) ∧
  (next.beforeGate = true → now.beforeGate = true)

attribute [simp] NoisePoint.KnowsLess

section

variable {readyNs clock : Nat}
variable {coordinator next : Coordinator}
variable {files after : Files}
variable {workloads : List String}
variable {input : NoiseInput}

/- Steps that neither take a time nor publish the gate. -/
theorem CoordinatorFacts.move
    (hFacts :
      CoordinatorFacts readyNs clock coordinator files)
    (hLess : next.point.KnowsLess coordinator.point)
    (hStart : next.noiseStartNs = coordinator.noiseStartNs)
    (hNoted : next.noiseReadyNs = coordinator.noiseReadyNs)
    (hReturned :
      next.startAllReturned = coordinator.startAllReturned)
    (hWarmup : after.warmupReady = files.warmupReady)
    (hGate : after.gate = files.gate) :
    CoordinatorFacts readyNs clock next after := by
  rcases hLess with ⟨hLess₁, hLess₂, hLess₃, hLess₄, hLess₅⟩
  refine ⟨?_, ?_, ?_, ?_, ?_, ?_⟩
  · rw [hWarmup]
    exact fun hPoint => hFacts.warm (hLess₁ hPoint)
  · rw [hStart]
    exact fun hPoint => hFacts.started (hLess₂ hPoint)
  · rw [hReturned]
    exact fun hPoint => hFacts.returned (hLess₃ hPoint)
  · rw [hStart, hNoted]
    exact fun hPoint => hFacts.noted (hLess₄ hPoint)
  · rw [hGate]
    exact fun hPoint => hFacts.gateless (hLess₅ hPoint)
  · intro text hText
    rw [hGate] at hText
    rcases hFacts.gate text hText with ⟨hLine, hReady, hOrder⟩
    rw [hNoted, hWarmup]
    refine ⟨hLine, hReady, ?_⟩
    exact
      { returned := hReturned.trans hOrder.returned
        ready_le_start := hStart ▸ hOrder.ready_le_start
        start_le_gate := by
          rw [hStart, hNoted]
          exact hOrder.start_le_gate
        gate_le_clock := hNoted ▸ hOrder.gate_le_clock }

theorem coordinatorRaise_facts
    {coordinator : Coordinator}
    {files : Files}
    (hFacts :
      CoordinatorFacts readyNs clock coordinator files)
    {error : String}
    {point : NoisePoint}
    (hRaise : coordinator.point.onRaise error = some point) :
    CoordinatorFacts readyNs clock
      { coordinator with point := point } files := by
  refine hFacts.move ?_ rfl rfl rfl rfl rfl
  cases hPoint : coordinator.point <;>
    rw [hPoint] at hRaise <;> cases hRaise <;> simp

/- A turn of the wait ends only with a warm-up file. -/
theorem lookForWarmup_facts
    {coordinator : Coordinator}
    {files : Files}
    (hFacts :
      CoordinatorFacts readyNs clock coordinator files)
    (hPoint : coordinator.point = .looking) :
    CoordinatorFacts readyNs clock
      (lookForWarmup coordinator files) files := by
  have hNone : files.gate = none :=
    hFacts.gateless (by simp [hPoint])
  have hPolling :
      CoordinatorFacts readyNs clock
        { coordinator with point := .polling } files :=
    hFacts.move (by simp [hPoint]) rfl rfl rfl rfl rfl
  unfold lookForWarmup
  cases hFile : files.warmupReady with
  | none => exact hPolling
  | some text =>
      simp only
      split
      · exact hPolling
      · split
        · constructor <;> simp [hFile, hNone]
        · exact hPolling

theorem coordinatorProceed_facts
    (hFacts :
      CoordinatorFacts readyNs clock coordinator files)
    (hReady : files.warmupReady ≠ none → readyNs ≤ clock)
    (hStep :
      coordinatorProceed workloads clock coordinator files =
        some (next, after)) :
    CoordinatorFacts readyNs clock next after := by
  unfold coordinatorProceed at hStep
  split at hStep
  next hPoint =>
    cases hStep
    exact hFacts.move (by simp [hPoint]) rfl rfl rfl rfl rfl
  next hPoint =>
    cases hStep
    refine hFacts.move ?_ rfl rfl rfl rfl rfl
    cases coordinator.probeDone <;> simp [hPoint]
  next hPoint =>
    cases hStep
    exact lookForWarmup_facts hFacts hPoint
  next hPoint =>
    -- The noise starts after the warm-up file was read.
    cases hStep
    have hFile := hFacts.warm (by simp [hPoint])
    have hNone := hFacts.gateless (by simp [hPoint])
    constructor <;> simp [hFile, hNone, hReady hFile]
  next hPoint =>
    cases hStep
    exact hFacts.move (by simp [hPoint]) rfl rfl rfl rfl rfl
  next hPoint =>
    cases hStep
    have hFile := hFacts.warm (by simp [hPoint])
    have hNone := hFacts.gateless (by simp [hPoint])
    have hStarted := hFacts.started (by simp [hPoint])
    constructor <;> simp [hFile, hNone, hStarted]
  next hPoint =>
    cases hStep
    exact hFacts.move (by simp) rfl rfl rfl rfl rfl
  next hPoint =>
    cases hStep
    refine hFacts.move ?_ rfl rfl rfl rfl rfl
    cases coordinator.probeDone <;> simp [hPoint]
  next hPoint =>
    -- The time of the gate is read after the start.
    cases hStep
    have hFile := hFacts.warm (by simp [hPoint])
    have hNone := hFacts.gateless (by simp [hPoint])
    have hStarted := hFacts.started (by simp [hPoint])
    have hReturned := hFacts.returned (by simp [hPoint])
    constructor <;> simp [hFile, hNone, hStarted, hReturned]
  next hPoint =>
    cases hStep
    exact hFacts.move (by simp [hPoint]) rfl rfl rfl rfl rfl
  next hPoint =>
    -- The gate is published.
    cases hStep
    have hFile := hFacts.warm (by simp [hPoint])
    have hStarted := hFacts.started (by simp [hPoint])
    have hReturned := hFacts.returned (by simp [hPoint])
    have hNoted := hFacts.noted (by simp [hPoint])
    constructor
    case gate =>
      intro text hText
      exact ⟨(Option.some.inj hText).symm, hFile,
        ⟨hReturned, hStarted.1, hNoted.1, hNoted.2⟩⟩
    all_goals simp
  next hPoint =>
    cases hStep
    exact hFacts.move (by simp) rfl rfl rfl rfl rfl
  next hPoint =>
    cases hStep
    exact hFacts.move (by simp) rfl rfl rfl rfl rfl
  next hPoint =>
    cases hStep
    exact hFacts.move (by simp) rfl rfl rfl rfl rfl
  next hPoint =>
    cases hStep
    exact hFacts.move (by simp) rfl rfl rfl rfl rfl
  · cases hStep
  · cases hStep

theorem coordinatorStep_facts
    (hFacts :
      CoordinatorFacts readyNs clock coordinator files)
    (hReady : files.warmupReady ≠ none → readyNs ≤ clock)
    (hStep :
      coordinatorStep workloads clock coordinator files input =
        some (next, after)) :
    CoordinatorFacts readyNs clock next after := by
  cases input with
  | proceed => exact coordinatorProceed_facts hFacts hReady hStep
  | unreadable =>
      simp only [coordinatorStep] at hStep
      split at hStep
      next hPoint =>
        cases hStep
        exact hFacts.move (by simp [hPoint]) rfl rfl rfl rfl rfl
      · cases hStep
  | raised error =>
      simp only [coordinatorStep, Option.map_eq_some_iff,
        Prod.mk.injEq] at hStep
      rcases hStep with ⟨point, hRaise, rfl, rfl⟩
      exact coordinatorRaise_facts hFacts hRaise

/- A step of the coordinator publishes at most one file. -/
theorem coordinatorStep_files
    {clock : Nat}
    (hStep :
      coordinatorStep workloads clock coordinator files input =
        some (next, after)) :
    after = files ∨
      (coordinator.point = .renameGate ∧
        next.point = .writeState ∧
        after =
          { files with
            gate :=
              some
                (timestampLine coordinator.noiseReadyNs) }) ∨
      ∃ error, coordinator.point = .renameError error ∧
        next.point = .writeErrorState ∧
        after =
          { files with error := some (error ++ "\n") } := by
  cases input with
  | proceed =>
      simp only [coordinatorStep, coordinatorProceed] at hStep
      split at hStep
      case h_11 hPoint =>
        cases hStep
        exact Or.inr (Or.inl ⟨hPoint, rfl, rfl⟩)
      case h_14 error hPoint =>
        cases hStep
        exact Or.inr (Or.inr ⟨error, hPoint, rfl, rfl⟩)
      all_goals
        cases hStep
        try exact Or.inl rfl
  | unreadable =>
      simp only [coordinatorStep] at hStep
      split at hStep <;> cases hStep
      exact Or.inl rfl
  | raised error =>
      simp only [coordinatorStep, Option.map_eq_some_iff,
        Prod.mk.injEq] at hStep
      rcases hStep with ⟨point, -, -, hSame⟩
      exact Or.inl hSame.symm

theorem coordinatorStep_warmupReady
    {clock : Nat}
    (hStep :
      coordinatorStep workloads clock coordinator files input =
        some (next, after)) :
    after.warmupReady = files.warmupReady := by
  rcases coordinatorStep_files hStep with
    hSame | ⟨-, -, hSame⟩ | ⟨error, -, -, hSame⟩
  all_goals rw [hSame]

/- The gate is published once. -/
theorem coordinatorStep_gate
    (hFacts :
      CoordinatorFacts readyNs clock coordinator files)
    (hGate : files.gate ≠ none)
    (hStep :
      coordinatorStep workloads clock coordinator files input =
        some (next, after)) :
    after.gate = files.gate := by
  rcases coordinatorStep_files hStep with
    hSame | ⟨hPoint, -, -⟩ | ⟨error, -, -, hSame⟩
  · rw [hSame]
  · exact absurd (hFacts.gateless (by simp [hPoint])) hGate
  · rw [hSame]

end

------------------------------------------------------------
-- The Two Together
------------------------------------------------------------

open Probe

variable {n m : Nat}

theorem readGate_timestampLine
    {timestampNs : Nat}
    (hWord : timestampNs < 2 ^ 64) :
    readGate (timestampLine timestampNs) =
      some timestampNs := by
  unfold readGate timestampLine
  rw [stoull_line hWord]

theorem timestampLine_injective :
    Function.Injective timestampLine := by
  intro left right hEq
  have hLeft := pyInt_line left
  unfold timestampLine at hEq
  rw [hEq, pyInt_line] at hLeft
  exact_mod_cast (Except.ok.inj hLeft).symm

/- The gate that the probe has read is the published one. -/
def Opened (s : Joint n m) : Prop :=
  s.files.gate =
    some (timestampLine s.probe.measurementGateOpenNs)

/- What holds in every state of every run. -/
structure Handshake (s : Joint n m) : Prop where
  word : s.probe.clock < 2 ^ 64
  pending :
    position s.probe.main = 9 →
      s.probe.warmupReadyNs ≤ s.probe.clock
  published :
    ∀ text, s.files.warmupReady = some text →
      text = timestampLine s.probe.warmupReadyNs ∧
        10 ≤ position s.probe.main ∧
        s.probe.warmupReadyNs ≤ s.probe.clock
  coordinator :
    CoordinatorFacts s.probe.warmupReadyNs s.probe.clock
      s.coordinator s.files
  closing :
    12 ≤ position s.probe.main →
    position s.probe.main ≤ 13 →
      Failing s.probe ∨ Opened s
  measuring :
    14 ≤ position s.probe.main →
    position s.probe.main ≤ 19 →
      Opened s
  started :
    15 ≤ position s.probe.main →
    position s.probe.main ≤ 19 →
      s.probe.measurementGateOpenNs ≤
        s.probe.measurementStartNs

theorem start_handshake
    (cfg : Config n) :
    Handshake (startJoint cfg m) := by
  refine
    { word := by simp [startJoint, start]
      pending := by simp [startJoint, start]
      published := by simp [startJoint]
      coordinator := initial_coordinatorFacts
      closing := by simp [startJoint, start]
      measuring := by simp [startJoint, start]
      started := by simp [startJoint, start] }

variable {cfg : Config n}
variable {action : Action n m}

/- The clock of the probe stays a word. -/
theorem step_word
    {s t : State n m}
    (hFacts : MainFacts cfg s)
    (hWord : s.clock < 2 ^ 64)
    (hStep : step cfg s action = some t) :
    t.clock < 2 ^ 64 := by
  cases action with
  | tick now =>
      simp only [step] at hStep
      split at hStep
      next hNow =>
        cases hStep
        exact hNow.2
      · cases hStep
  | thread id action =>
      rw [(threadStep_effect hStep).frame.clock_eq]
      exact hWord
  | main input =>
      rw [(mainStep_frame hFacts hStep).clock_eq]
      exact hWord

/- The facts of the coordinator survive a step of the probe. -/
theorem CoordinatorFacts.probe
    {readyNs later clock now : Nat}
    {coordinator : Coordinator}
    {files after : Files}
    (hFacts :
      CoordinatorFacts readyNs clock coordinator files)
    (hSame : files.warmupReady ≠ none → later = readyNs)
    (hClock : clock ≤ now)
    (hWarmup :
      files.warmupReady ≠ none → after.warmupReady ≠ none)
    (hGate : after.gate = files.gate) :
    CoordinatorFacts later now coordinator after := by
  refine ⟨?_, ?_, hFacts.returned, ?_, ?_, ?_⟩
  · exact fun hPoint => hWarmup (hFacts.warm hPoint)
  · intro hPoint
    have hWarm : coordinator.point.afterWarmup = true := by
      cases hAt : coordinator.point <;>
        rw [hAt] at hPoint <;> simp_all
    rw [hSame (hFacts.warm hWarm)]
    rcases hFacts.started hPoint with ⟨hReady, hStarted⟩
    exact ⟨hReady, hStarted.trans hClock⟩
  · intro hPoint
    rcases hFacts.noted hPoint with ⟨hStarted, hNoted⟩
    exact ⟨hStarted, hNoted.trans hClock⟩
  · rw [hGate]
    exact hFacts.gateless
  · intro text hText
    rw [hGate] at hText
    rcases hFacts.gate text hText with ⟨hLine, hFile, hOrder⟩
    rw [hSame hFile]
    exact ⟨hLine, hWarmup hFile,
      { hOrder with
        gate_le_clock := hOrder.gate_le_clock.trans hClock }⟩

/- Publishing the file leads on to the gate. -/
theorem step_of_publishes
    {s t : State n m}
    (hPublishes : publishes s action = true)
    (hStep : step cfg s action = some t) :
    position s.main = 9 ∧ position t.main = 10 := by
  simp only [publishes, Bool.and_eq_true,
    decide_eq_true_eq] at hPublishes
  rcases hPublishes with ⟨⟨hOps, hMain⟩, hAction⟩
  subst hAction
  rcases mainStep_cases hStep with
    ⟨op, ops, hSome, -⟩ |
    ⟨-, hStep | hStep | hStep | hStep⟩
  · rw [hOps] at hSome
    cases hSome
  · simp [startupStep, hMain] at hStep
  · simp only [barrierStep, hMain, Option.some.injEq] at hStep
    subst hStep
    exact ⟨by simp [hMain], by simp⟩
  · simp [measurementStep, hMain] at hStep
  · simp [teardownStep, hMain] at hStep

/- The files after a step of the probe. -/
def publishedFiles
    (s : Joint n m)
    (action : Action n m) : Files :=
  if publishes s.probe action then
    { s.files with
      warmupReady :=
        some (timestampLine s.probe.warmupReadyNs) }
  else
    s.files

@[simp]
theorem publishedFiles_gate
    (s : Joint n m)
    (action : Action n m) :
    (publishedFiles s action).gate = s.files.gate := by
  unfold publishedFiles
  split <;> rfl

@[simp]
theorem publishedFiles_error
    (s : Joint n m)
    (action : Action n m) :
    (publishedFiles s action).error = s.files.error := by
  unfold publishedFiles
  split <;> rfl

/- Once published, the time of the warm-up stays. -/
theorem Handshake.warmupReadyNs_eq
    {s : Joint n m}
    {probe : State n m}
    (hShake : Handshake s)
    (hFrame : GateFrame s.probe probe action)
    (hReady : s.files.warmupReady ≠ none) :
    probe.warmupReadyNs = s.probe.warmupReadyNs := by
  obtain ⟨text, hText⟩ := Option.ne_none_iff_exists'.mp hReady
  have hPosition := (hShake.published text hText).2.1
  rcases hFrame.ready with hSame | ⟨hAt, -, -⟩
  · exact hSame
  · omega

/- The file of the warm-up after a step of the probe. -/
theorem Handshake.published_step
    {s : Joint n m}
    {probe : State n m}
    (hShake : Handshake s)
    (hFrame : GateFrame s.probe probe action)
    (hStep : step cfg s.probe action = some probe)
    {text : String}
    (hText : (publishedFiles s action).warmupReady = some text) :
    text = timestampLine probe.warmupReadyNs ∧
      10 ≤ position probe.main ∧
      probe.warmupReadyNs ≤ probe.clock := by
  have hClock := hFrame.clock
  unfold publishedFiles at hText
  split at hText
  next hPublishes =>
    rcases step_of_publishes hPublishes hStep with
      ⟨hFrom, hTo⟩
    have hPending := hShake.pending hFrom
    have hSame :
        probe.warmupReadyNs = s.probe.warmupReadyNs := by
      rcases hFrame.ready with hSame | ⟨hAt, -, -⟩
      · exact hSame
      · omega
    rw [hSame]
    exact ⟨(Option.some.inj hText).symm, by omega,
      hPending.trans hClock⟩
  next hPublishes =>
    have hSame := hShake.warmupReadyNs_eq hFrame (by simp [hText])
    rcases hShake.published text hText with
      ⟨hLine, hPosition, hReady⟩
    rw [hSame]
    exact ⟨hLine, hFrame.forward hPosition,
      hReady.trans hClock⟩

/-
  A step of the probe keeps the agreement, provided that a
  gate it looks at is the published one.
-/
theorem Handshake.probe
    {s : Joint n m}
    {probe : State n m}
    (absent : Bool)
    (hGate : cfg.opts.measurementStartGate ≠ "")
    (hFacts : MainFacts cfg s.probe)
    (hShake : Handshake s)
    (hStep : step cfg s.probe action = some probe)
    (hLook :
      ∀ timestamp,
        lookOf action = some (.gateFile (some timestamp)) →
          s.files.gate = some (timestampLine timestamp)) :
    Handshake
      { s with
        probe := probe
        files := publishedFiles s action
        errorAbsent := absent } := by
  have hFrame := step_gateFrame hGate hStep
  have hClock := hFrame.clock
  -- Away from the gate the time that was read stays.
  have hKept :
      12 ≤ position s.probe.main →
        probe.measurementGateOpenNs =
          s.probe.measurementGateOpenNs := by
    intro hFrom
    rcases hFrame.opened with hSame | ⟨timestamp, -, -, hAt⟩
    · exact hSame
    · omega
  have hMeasuring :
      14 ≤ position probe.main → position probe.main ≤ 19 →
        s.files.gate =
          some (timestampLine probe.measurementGateOpenNs) := by
    intro hFrom hTo
    rcases hFrame.measuring hFrom hTo with
      ⟨hWasFrom, hWasTo⟩ | ⟨hAt, hSound⟩
    · rw [hKept (by omega)]
      exact hShake.measuring hWasFrom hWasTo
    · rw [hKept (by omega)]
      exact (hShake.closing (by omega) (by omega)).resolve_left
        hSound
  refine
    { word := step_word hFacts hShake.word hStep
      pending := ?_
      published := fun text hText =>
        hShake.published_step hFrame hStep hText
      coordinator := ?_
      closing := ?_
      measuring := ?_
      started := ?_ }
  · -- The time of the warm-up is read before it is published.
    intro hAt
    rcases hFrame.publishing hAt with hWas | hRead
    · rcases hFrame.ready with hSame | ⟨hBefore, -, -⟩
      · exact hSame ▸ (hShake.pending hWas).trans hClock
      · omega
    · exact hRead ▸ hClock
  · refine hShake.coordinator.probe
      (hShake.warmupReadyNs_eq hFrame) hClock ?_ (by simp)
    intro hReady
    unfold publishedFiles
    split
    · simp
    · exact hReady
  · intro hFrom hTo
    rcases hFrame.closing hFrom hTo with
      hFailing | ⟨hWasFrom, hWasTo⟩ | ⟨timestamp, hRead, hOpen⟩
    · exact Or.inl hFailing
    · rcases hShake.closing hWasFrom hWasTo with
        hFailing | hOpened
      · exact Or.inl (hFrame.failing hFailing)
      · right
        unfold Opened
        simp only [publishedFiles_gate, hKept hWasFrom]
        exact hOpened
    · right
      unfold Opened
      simp only [publishedFiles_gate, hOpen]
      exact hLook timestamp hRead
  · intro hFrom hTo
    unfold Opened
    simp only [publishedFiles_gate]
    exact hMeasuring hFrom hTo
  · intro hFrom hTo
    have hOpened :=
      hMeasuring (Nat.le_trans (by decide) hFrom) hTo
    rcases hFrame.measured hFrom hTo with
      ⟨hWasFrom, hWasTo⟩ | ⟨hAt, hRead⟩
    · have hSame :
          probe.measurementStartNs =
            s.probe.measurementStartNs := by
        rcases hFrame.started with hSame | ⟨hBefore, -⟩
        · exact hSame
        · omega
      simp only [hSame, hKept (by omega)]
      exact hShake.started hWasFrom hWasTo
    · -- The start is read after the gate was published.
      rcases hShake.coordinator.gate _ hOpened with
        ⟨hLine, -, hOrder⟩
      simp only [timestampLine_injective hLine, hRead]
      exact hOrder.gate_le_clock

end Noise

end RsCamera
