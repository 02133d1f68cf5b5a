import RsCamera.Noise.Handshake
import RsCamera.Probe.Window

/-
  The decision of the probe at the gate, over whole runs of
  the noise transition.

  The measurement starts only with warm cameras and started
  noise, and the times of the start are in order.  The gate
  and the error are not both published in a run where
  writing the state after the gate does not raise.

  Key definitions include:
    * `Exclusive`, `decisionOf`
    * `LateFailure`

  Key theorems include:
    * `joint_cases`
    * `step_jointInvariant`
    * `coordinatorStep_exclusive`
    * `run_handshake`
-/

------------------------------------------------------------
-- Steps Of The Two Processes
------------------------------------------------------------

namespace RsCamera

namespace Noise

section

open Probe

variable {n m : Nat}

/- Every step of the two processes, by its effect. -/
inductive JointEffect
    (cfg : Config n)
    (workloads : List String)
    (s : Joint n m) :
    JointAction n m → Joint n m → Prop
| probe
    (action : JointAction n m)
    (taken : Action n m)
    (probe : State n m)
    (absent : Bool)
    (hStep : step cfg s.probe taken = some probe)
    (hLook :
      ∀ timestamp,
        lookOf taken = some (.gateFile (some timestamp)) →
          ∃ text, s.files.gate = some text ∧
            readGate text = some timestamp) :
    JointEffect cfg workloads s action
      { s with
        probe := probe
        files := publishedFiles s taken
        errorAbsent := absent }
| noError
    (action : JointAction n m) :
    JointEffect cfg workloads s action
      { s with errorAbsent := true }
| noise
    (input : NoiseInput)
    (next : Coordinator)
    (after : Files)
    (hStep :
      coordinatorStep workloads s.probe.clock s.coordinator
        s.files input = some (next, after)) :
    JointEffect cfg workloads s (.noise input)
      { s with coordinator := next, files := after }
| finish
    (action : JointAction n m) :
    JointEffect cfg workloads s action
      { s with
        coordinator :=
          { s.coordinator with probeDone := true } }

/- A look at the gate publishes nothing. -/
theorem publishedFiles_look
    (s : Joint n m)
    (look : GateLook) :
    publishedFiles s (.main (.gate look)) = s.files := by
  simp [publishedFiles, publishes]

variable {cfg : Config n}
variable {workloads : List String}

/- A look at the gate, by what was seen. -/
theorem JointEffect.look
    {s : Joint n m}
    {action : JointAction n m}
    {look : GateLook}
    {probe : State n m}
    (absent : Bool)
    (hStep :
      step cfg s.probe (.main (.gate look)) = some probe)
    (hLook :
      ∀ timestamp,
        look = .gateFile (some timestamp) →
          ∃ text, s.files.gate = some text ∧
            readGate text = some timestamp) :
    JointEffect cfg workloads s action
      { s with probe := probe, errorAbsent := absent } := by
  have hEffect :
      JointEffect cfg workloads s action
        { s with
          probe := probe
          files := publishedFiles s (.main (.gate look))
          errorAbsent := absent } := by
    refine JointEffect.probe action _ probe absent hStep ?_
    intro timestamp hSeen
    exact hLook timestamp (Option.some.inj hSeen)
  rw [publishedFiles_look] at hEffect
  exact hEffect

theorem probeStep_effect
    {s t : Joint n m}
    {action : Action n m}
    (hStep : probeStep cfg s action = some t) :
    JointEffect cfg workloads s (.probe action) t := by
  unfold probeStep at hStep
  split at hStep
  · cases hStep
  next hNoLook =>
    rcases Option.map_eq_some_iff.mp hStep with
      ⟨probe, hTaken, hNext⟩
    subst hNext
    refine JointEffect.probe _ action probe s.errorAbsent
      hTaken ?_
    intro timestamp hLook
    unfold lookOf at hLook
    split at hLook
    · exact absurd rfl hNoLook
    · cases hLook

theorem lookErrorStep_effect
    {s t : Joint n m}
    (hStep : lookErrorStep cfg s = some t) :
    JointEffect cfg workloads s .lookError t := by
  unfold lookErrorStep at hStep
  split at hStep
  · split at hStep
    next text hError =>
      rcases Option.map_eq_some_iff.mp hStep with
        ⟨probe, hTaken, hNext⟩
      subst hNext
      exact JointEffect.look s.errorAbsent hTaken (by simp)
    · cases hStep
      exact JointEffect.noError _
  · cases hStep

theorem lookGateStep_effect
    {s t : Joint n m}
    {late : Bool}
    (hStep : lookGateStep cfg s late = some t) :
    JointEffect cfg workloads s (.lookGate late) t := by
  unfold lookGateStep at hStep
  split at hStep
  · rcases Option.map_eq_some_iff.mp hStep with
      ⟨probe, hTaken, hNext⟩
    subst hNext
    refine JointEffect.look false hTaken ?_
    intro timestamp hLook
    cases hGate : s.files.gate with
    | none =>
        rw [hGate] at hLook
        cases late <;> cases hLook
    | some text =>
        rw [hGate] at hLook
        exact ⟨text, rfl, GateLook.gateFile.inj hLook⟩
  · cases hStep

theorem joint_cases
    {s t : Joint n m}
    {action : JointAction n m}
    (hStep :
      (noiseTransition cfg m workloads).step s action =
        some t) :
    JointEffect cfg workloads s action t := by
  cases action with
  | probe action => exact probeStep_effect hStep
  | lookError => exact lookErrorStep_effect hStep
  | lookGate late => exact lookGateStep_effect hStep
  | noise input =>
      rcases Option.map_eq_some_iff.mp hStep with
        ⟨⟨next, after⟩, hTaken, hNext⟩
      subst hNext
      exact JointEffect.noise input next after hTaken
  | finish =>
      cases hStep
      exact JointEffect.finish _

/- What the probe and the coordinator rely on together. -/
structure JointInvariant
    (cfg : Config n)
    (s : Joint n m) : Prop where
  shake : Handshake s
  barriers : ∃ log, BarrierInvariant cfg log s.probe

theorem start_jointInvariant
    (cfg : Config n) :
    JointInvariant cfg (startJoint cfg m) where
  shake := start_handshake cfg
  barriers := ⟨[], start_barrierInvariant cfg⟩

/- A published gate that the probe can read holds its time. -/
theorem Handshake.gate_read
    {s : Joint n m}
    (hShake : Handshake s)
    {text : String}
    {timestamp : Nat}
    (hGate : s.files.gate = some text)
    (hRead : readGate text = some timestamp) :
    s.files.gate = some (timestampLine timestamp) := by
  rcases hShake.coordinator.gate text hGate with
    ⟨hLine, -, hOrder⟩
  have hWord :=
    Nat.lt_of_le_of_lt hOrder.gate_le_clock hShake.word
  rw [hLine, readGate_timestampLine hWord] at hRead
  rw [hGate, hLine, Option.some.inj hRead]

/- The coordinator leaves the probe alone. -/
theorem Handshake.noise
    {s : Joint n m}
    {input : NoiseInput}
    {next : Coordinator}
    {after : Files}
    (hShake : Handshake s)
    (hStep :
      coordinatorStep workloads s.probe.clock s.coordinator
        s.files input = some (next, after)) :
    Handshake
      { s with coordinator := next, files := after } := by
  have hWarmup := coordinatorStep_warmupReady hStep
  have hOpened :
      Opened s →
        Opened
          { s with coordinator := next, files := after } := by
    intro hOpen
    unfold Opened at hOpen ⊢
    have hSame :=
      coordinatorStep_gate hShake.coordinator
        (by rw [hOpen]; simp) hStep
    simp only [hSame]
    exact hOpen
  refine
    { word := hShake.word
      pending := hShake.pending
      published := ?_
      coordinator := ?_
      closing := ?_
      measuring := ?_
      started := hShake.started }
  · simp only [hWarmup]
    exact hShake.published
  · refine coordinatorStep_facts hShake.coordinator ?_ hStep
    intro hReady
    obtain ⟨text, hText⟩ := Option.ne_none_iff_exists'.mp hReady
    exact (hShake.published text hText).2.2
  · intro hFrom hTo
    exact (hShake.closing hFrom hTo).imp_right hOpened
  · intro hFrom hTo
    exact hOpened (hShake.measuring hFrom hTo)

/- Fields that the agreement does not speak about. -/
theorem Handshake.of_same
    {s t : Joint n m}
    (hShake : Handshake s)
    (hProbe : t.probe = s.probe)
    (hFiles : t.files = s.files)
    (hDone :
      t.coordinator =
        { s.coordinator with
          probeDone := t.coordinator.probeDone }) :
    Handshake t := by
  rcases t with ⟨probe, coordinator, files, absent⟩
  simp only at hProbe hFiles hDone
  subst hProbe
  subst hFiles
  rw [hDone]
  exact
    { word := hShake.word
      pending := hShake.pending
      published := hShake.published
      coordinator :=
        hShake.coordinator.move (by simp) rfl rfl rfl rfl rfl
      closing := hShake.closing
      measuring := hShake.measuring
      started := hShake.started }

theorem step_jointInvariant
    {s t : Joint n m}
    {action : JointAction n m}
    (hGate : cfg.opts.measurementStartGate ≠ "")
    (hInv : JointInvariant cfg s)
    (hEffect : JointEffect cfg workloads s action t) :
    JointInvariant cfg t := by
  rcases hInv with ⟨hShake, log, hBarriers⟩
  cases hEffect with
  | probe action taken probe absent hStep hLook =>
      refine ⟨?_, _, step_barrierInvariant hBarriers hStep⟩
      refine hShake.probe absent hGate hBarriers.facts hStep ?_
      intro timestamp hSeen
      rcases hLook timestamp hSeen with ⟨text, hText, hRead⟩
      exact hShake.gate_read hText hRead
  | noError =>
      exact ⟨hShake.of_same rfl rfl rfl, log, hBarriers⟩
  | noise input next after hStep =>
      exact ⟨hShake.noise hStep, log, hBarriers⟩
  | finish =>
      exact ⟨hShake.of_same rfl rfl rfl, log, hBarriers⟩

end

------------------------------------------------------------
-- The Gate Or The Error
------------------------------------------------------------

/- A poll that finds a file, by the file that decides it. -/
inductive Decision
| fail (detail : String)
| start (timestampNs : Option Nat)
deriving Repr, DecidableEq

/- The error is looked for before the gate. -/
def decisionOf (files : Files) : Option Decision :=
  match files.error with
  | some text => some (.fail text)
  | none =>
      files.gate.map (fun text => .start (readGate text))

/- Where the coordinator stands once the gate is open. -/
def NoisePoint.gateSettled : NoisePoint → Bool
| .writeState => true
| .finished => true
| _ => false

/- Where it stands once the error is published. -/
def NoisePoint.errorSettled : NoisePoint → Bool
| .writeErrorState => true
| .finished => true
| .dead => true
| _ => false

attribute [simp] NoisePoint.gateSettled
  NoisePoint.errorSettled

/- At most one of the two files is published. -/
structure Exclusive
    (coordinator : Coordinator)
    (files : Files) : Prop where
  gate :
    files.gate ≠ none →
      files.error = none ∧
        coordinator.point.gateSettled = true
  error :
    files.error ≠ none →
      coordinator.point.errorSettled = true

/- Writing the state raises after the gate was published. -/
def LateFailure
    (coordinator : Coordinator) : NoiseInput → Prop
| .raised _ => coordinator.point = .writeState
| _ => False

instance
    (coordinator : Coordinator) :
    ∀ input, Decidable (LateFailure coordinator input)
| .proceed => inferInstanceAs (Decidable False)
| .unreadable => inferInstanceAs (Decidable False)
| .raised _ => inferInstanceAs (Decidable (_ = _))

theorem decisionOf_ne_none
    {files : Files}
    (hDecided : decisionOf files ≠ none) :
    files.gate ≠ none ∨ files.error ≠ none := by
  cases hError : files.error with
  | some text => exact Or.inr (by simp)
  | none =>
      left
      intro hGate
      apply hDecided
      simp [decisionOf, hError, hGate]

section

variable {workloads : List String}
variable {clock : Nat}
variable {coordinator next : Coordinator}
variable {files after : Files}
variable {input : NoiseInput}

/- Steps away from the two renames publish nothing. -/
theorem coordinatorStep_settled
    (hExclusive : Exclusive coordinator files)
    (hDecided : decisionOf files ≠ none)
    (hStep :
      coordinatorStep workloads clock coordinator files input =
        some (next, after)) :
    after = files := by
  rcases coordinatorStep_files hStep with
    hSame | ⟨hPoint, -, -⟩ | ⟨error, hPoint, -, -⟩
  · exact hSame
  · rcases decisionOf_ne_none hDecided with hGate | hError
    · have hSettled := (hExclusive.gate hGate).2
      simp [hPoint] at hSettled
    · have hSettled := hExclusive.error hError
      simp [hPoint] at hSettled
  · rcases decisionOf_ne_none hDecided with hGate | hError
    · have hSettled := (hExclusive.gate hGate).2
      simp [hPoint] at hSettled
    · have hSettled := hExclusive.error hError
      simp [hPoint] at hSettled

/- A settled coordinator stays settled. -/
theorem coordinatorStep_point
    (hEarly : ¬ LateFailure coordinator input)
    (hStep :
      coordinatorStep workloads clock coordinator files input =
        some (next, after)) :
    (coordinator.point.gateSettled = true →
      next.point.gateSettled = true) ∧
    (coordinator.point.errorSettled = true →
      next.point.errorSettled = true) := by
  cases input with
  | proceed =>
      cases hPoint : coordinator.point <;>
        simp [coordinatorStep, coordinatorProceed,
          hPoint] at hStep ⊢
      all_goals simp [← hStep]
  | unreadable =>
      simp only [coordinatorStep] at hStep
      split at hStep
      next hPoint => simp [hPoint]
      · cases hStep
  | raised error =>
      simp only [coordinatorStep, Option.map_eq_some_iff,
        Prod.mk.injEq] at hStep
      rcases hStep with ⟨point, hRaise, hNext, -⟩
      subst hNext
      simp only [LateFailure] at hEarly
      cases hPoint : coordinator.point <;>
        rw [hPoint] at hRaise <;> cases hRaise <;>
        simp_all

theorem coordinatorStep_exclusive
    (hExclusive : Exclusive coordinator files)
    (hEarly : ¬ LateFailure coordinator input)
    (hStep :
      coordinatorStep workloads clock coordinator files input =
        some (next, after)) :
    Exclusive next after := by
  rcases coordinatorStep_point hEarly hStep with
    ⟨hGateKept, hErrorKept⟩
  rcases coordinatorStep_files hStep with
    hSame | ⟨hPoint, hNext, hSame⟩ |
    ⟨error, hPoint, hNext, hSame⟩
  · subst hSame
    refine ⟨?_, ?_⟩
    · intro hGate
      rcases hExclusive.gate hGate with ⟨hError, hSettled⟩
      exact ⟨hError, hGateKept hSettled⟩
    · intro hError
      exact hErrorKept (hExclusive.error hError)
  · -- No error is published where the gate is.
    have hNoError : files.error = none := by
      by_contra hError
      have hSettled := hExclusive.error hError
      simp [hPoint] at hSettled
    subst hSame
    refine ⟨fun _ => ⟨hNoError, by simp [hNext]⟩, ?_⟩
    intro hError
    exact absurd hNoError hError
  · have hNoGate : files.gate = none := by
      by_contra hGate
      have hSettled := (hExclusive.gate hGate).2
      simp [hPoint] at hSettled
    subst hSame
    refine ⟨?_, fun _ => by simp [hNext]⟩
    intro hGate
    exact absurd hNoGate hGate

end

------------------------------------------------------------
-- Runs
------------------------------------------------------------

open Probe

variable {n m : Nat}

/- The start of the measurement has been read. -/
def Measuring (s : Joint n m) : Prop :=
  15 ≤ position s.probe.main ∧ position s.probe.main ≤ 19

/- A step that is not a late failure. -/
def NoLateFailure
    (s : Joint n m) : JointAction n m → Prop
| .noise input => ¬ LateFailure s.coordinator input
| _ => True

instance
    (s : Joint n m) :
    ∀ action, Decidable (NoLateFailure s action)
| .probe _ => inferInstanceAs (Decidable True)
| .lookError => inferInstanceAs (Decidable True)
| .lookGate _ => inferInstanceAs (Decidable True)
| .noise _ => inferInstanceAs (Decidable (¬ _))
| .finish => inferInstanceAs (Decidable True)

/- The probe reads and writes neither of the two files. -/
theorem decisionOf_publishedFiles
    (s : Joint n m)
    (action : Action n m) :
    decisionOf (publishedFiles s action) =
      decisionOf s.files := by
  simp [decisionOf]

variable {cfg : Config n}
variable {workloads : List String}
variable {s t : Joint n m}

theorem step_exclusive
    {action : JointAction n m}
    (hExclusive : Exclusive s.coordinator s.files)
    (hEarly : NoLateFailure s action)
    (hEffect : JointEffect cfg workloads s action t) :
    Exclusive t.coordinator t.files := by
  cases hEffect with
  | probe action taken probe absent hStep hLook =>
      refine ⟨?_, ?_⟩
      · simp only [publishedFiles_gate, publishedFiles_error]
        exact hExclusive.gate
      · simp only [publishedFiles_error]
        exact hExclusive.error
  | noError => exact hExclusive
  | noise input next after hStep =>
      exact coordinatorStep_exclusive hExclusive hEarly hStep
  | finish => exact ⟨hExclusive.gate, hExclusive.error⟩

/- A decision once found stays. -/
theorem step_decision
    {action : JointAction n m}
    (hExclusive : Exclusive s.coordinator s.files)
    (hDecided : decisionOf s.files ≠ none)
    (hEffect : JointEffect cfg workloads s action t) :
    decisionOf t.files = decisionOf s.files := by
  cases hEffect with
  | probe action taken probe absent hStep hLook =>
      exact decisionOf_publishedFiles s taken
  | noError => rfl
  | noise input next after hStep =>
      simp only [
        coordinatorStep_settled hExclusive hDecided hStep]
  | finish => rfl

/- What holds of the two files along a run. -/
theorem run_exclusive
    {actions : List (JointAction n m)}
    (hExclusive : Exclusive s.coordinator s.files)
    (hRun :
      (noiseTransition cfg m workloads).run s actions = some t)
    (hSteps :
      (noiseTransition cfg m workloads).StepsSatisfy
        NoLateFailure s actions) :
    Exclusive t.coordinator t.files ∧
      (decisionOf s.files ≠ none →
        decisionOf t.files = decisionOf s.files) := by
  refine
    (noiseTransition cfg m workloads).run_invariant_of_stepsSatisfy
      (P := fun t =>
        Exclusive t.coordinator t.files ∧
          (decisionOf s.files ≠ none →
            decisionOf t.files = decisionOf s.files))
      ?_ ⟨hExclusive, fun _ => rfl⟩ hSteps hRun
  intro u action v hBefore hEarly hStep
  have hEffect := joint_cases hStep
  refine ⟨step_exclusive hBefore.1 hEarly hEffect, ?_⟩
  intro hDecided
  have hSame := hBefore.2 hDecided
  rw [step_decision hBefore.1 (hSame ▸ hDecided) hEffect]
  exact hSame

/- The files and times of a probe that measures. -/
theorem JointInvariant.measured
    {s : Joint n m}
    (hInv : JointInvariant cfg s)
    (hMeasuring : Measuring s) :
    (∀ camera, (s.probe.cameras camera).warmed = true) ∧
    s.coordinator.startAllReturned = true ∧
    s.probe.warmupReadyNs ≤ s.coordinator.noiseStartNs ∧
    s.coordinator.noiseStartNs ≤
      s.probe.measurementGateOpenNs ∧
    s.probe.measurementGateOpenNs ≤
      s.probe.measurementStartNs := by
  rcases hInv with ⟨hShake, log, hBarriers⟩
  rcases hMeasuring with ⟨hFrom, hTo⟩
  have hWarm :=
    hBarriers.facts.warmed_measured (by omega) hTo
  have hOpened := hShake.measuring (by omega) hTo
  rcases hShake.coordinator.gate _ hOpened with
    ⟨hLine, -, hOrder⟩
  have hGate := timestampLine_injective hLine
  refine ⟨?_, hOrder.returned, hOrder.ready_le_start, ?_,
    hShake.started hFrom hTo⟩
  · exact fun camera =>
      hBarriers.counted.all_reached .warmed hWarm camera
  · rw [hGate]
    exact hOrder.start_le_gate

theorem JointInvariant.decision
    {s : Joint n m}
    (hInv : JointInvariant cfg s)
    (hExclusive : Exclusive s.coordinator s.files)
    (hMeasuring : Measuring s) :
    decisionOf s.files =
      some (.start (some s.probe.measurementGateOpenNs)) := by
  have hShake := hInv.shake
  have hOpened :=
    hShake.measuring
      (Nat.le_trans (by decide) hMeasuring.1) hMeasuring.2
  have hNoError :=
    (hExclusive.gate (by rw [hOpened]; simp)).1
  rcases hShake.coordinator.gate _ hOpened with
    ⟨hLine, -, hOrder⟩
  have hWord :
      s.probe.measurementGateOpenNs < 2 ^ 64 := by
    rw [timestampLine_injective hLine]
    exact
      Nat.lt_of_le_of_lt hOrder.gate_le_clock hShake.word
  simp [decisionOf, hNoError, show s.files.gate = _ from hOpened,
    readGate_timestampLine hWord]

/-
  The measurement starts after the noise, and the noise
  after the cameras.  Unless writing the state raises after
  the gate was published, the gate and the error are not
  both there, and what a poll finds stays.
-/
theorem run_handshake
    (cfg : Config n)
    (workloads : List String)
    (actions : List (JointAction n m))
    (s : Joint n m)
    (hGate : cfg.opts.measurementStartGate ≠ "")
    (hRun :
      (noiseTransition cfg m workloads).run (startJoint cfg m)
        actions = some s) :
    (Measuring s →
      (∀ camera, (s.probe.cameras camera).warmed = true) ∧
      s.coordinator.startAllReturned = true ∧
      s.probe.warmupReadyNs ≤ s.coordinator.noiseStartNs ∧
      s.coordinator.noiseStartNs ≤
        s.probe.measurementGateOpenNs ∧
      s.probe.measurementGateOpenNs ≤
        s.probe.measurementStartNs) ∧
    ((noiseTransition cfg m workloads).StepsSatisfy
        NoLateFailure (startJoint cfg m) actions →
      (s.files.gate = none ∨ s.files.error = none) ∧
      (Measuring s →
        decisionOf s.files =
          some (.start (some s.probe.measurementGateOpenNs))) ∧
      ∀ earlier later t,
        actions = earlier ++ later →
        (noiseTransition cfg m workloads).run
            (startJoint cfg m) earlier = some t →
        decisionOf t.files ≠ none →
          decisionOf s.files = decisionOf t.files) := by
  have hInv : JointInvariant cfg s :=
    (noiseTransition cfg m workloads).run_invariant
      (fun _ _ _ hBefore hStep =>
        step_jointInvariant hGate hBefore (joint_cases hStep))
      (start_jointInvariant cfg) hRun
  have hFresh :
      Exclusive (startJoint cfg m).coordinator
        (startJoint cfg m).files := by
    constructor <;> simp [startJoint]
  refine ⟨hInv.measured, ?_⟩
  intro hSteps
  have hExclusive := (run_exclusive hFresh hRun hSteps).1
  refine ⟨?_, hInv.decision hExclusive, ?_⟩
  · by_cases hNone : s.files.gate = none
    · exact Or.inl hNone
    · exact Or.inr (hExclusive.gate hNone).1
  · intro earlier later t hSplit hFirst hDecided
    subst hSplit
    rcases TransitionSystem.stepsSatisfy_append _ hSteps hFirst
      with ⟨hStepsFirst, hStepsSecond⟩
    have hBetween := (run_exclusive hFresh hFirst hStepsFirst).1
    have hSecond :
        (noiseTransition cfg m workloads).run t later =
          some s := by
      rw [TransitionSystem.run_append, hFirst] at hRun
      exact hRun
    exact (run_exclusive hBetween hSecond hStepsSecond).2
      hDecided

/- A probe with one camera and a gate. -/
def gateConfig : Config 1 where
  args :=
    ["--stream-mode", "depth", "--frames", "1",
      "--warmup-frames", "2", "--warmup-ready-file", "ready",
      "--measurement-start-gate", "gate",
      "--measurement-gate-timeout-ms", "5000"]
  opts :=
    { streamMode := "depth"
      frames := 1
      warmupFrames := 2
      warmupReadyFile := "ready"
      measurementStartGate := "gate"
      measurementGateTimeoutMs := 5000 }
  parsed := by decide +kernel
  serials _ := "0001"
  plan := ⟨1, 1, 1⟩
  planned := rfl
  startOrder := [⟨0, Nat.one_pos⟩]
  ordered := rfl

def goProbe
    (actions : List (Action 1 0)) : List (JointAction 1 0) :=
  actions.map .probe

def goNoise (steps : Nat) : List (JointAction 1 0) :=
  List.replicate steps (.noise .proceed)

/- The run up to the published gate. -/
def gateRun : List (JointAction 1 0) :=
  goProbe (warmRun ++ goMain 5 ++ [.tick 2000]) ++
    goNoise 5 ++ goProbe [.tick 3000] ++ goNoise 5

/- The probe finds the gate and starts to measure. -/
def measuredRun : List (JointAction 1 0) :=
  gateRun ++ goNoise 1 ++ [.lookError, .lookGate false] ++
    goProbe ([.tick 4000] ++ goMain 3)

theorem measuredRun_handshake :
    ∃ s,
      (noiseTransition gateConfig 0 ["memory"]).run
          (startJoint gateConfig 0) measuredRun = some s ∧
      Measuring s ∧
      (s.probe.cameras 0).warmed = true ∧
      s.probe.warmupReadyNs = 1000 ∧
      s.coordinator.noiseStartNs = 2000 ∧
      s.probe.measurementStartNs = 4000 ∧
      decisionOf s.files = some (.start (some 3000)) := by
  have hEnd :
      ((noiseTransition gateConfig 0 ["memory"]).run
        (startJoint gateConfig 0) measuredRun).map (fun s =>
          (position s.probe.main, s.probe.warmupReadyNs,
            s.coordinator.noiseStartNs,
            s.probe.measurementGateOpenNs,
            s.probe.measurementStartNs)) =
        some (15, 1000, 2000, 3000, 4000) := by
    decide +kernel
  rcases Option.map_eq_some_iff.mp hEnd with
    ⟨s, hRun, hFinal⟩
  simp only [Prod.mk.injEq] at hFinal
  rcases hFinal with ⟨hMain, hReady, hNoise, hOpen, hStart⟩
  have hMeasuring : Measuring s := by
    unfold Measuring
    omega
  rcases run_handshake gateConfig ["memory"] measuredRun s
      (by decide) hRun with ⟨hMeasured, hExclusive⟩
  have hDecision :=
    (hExclusive (by decide +kernel)).2.1 hMeasuring
  rw [hOpen] at hDecision
  exact ⟨s, hRun, hMeasuring, (hMeasured hMeasuring).1 0,
    hReady, hNoise, hStart, hDecision⟩

/- Writing the state raises, and the error is published. -/
def lateErrorRun : List (JointAction 1 0) :=
  gateRun ++
    [.noise
      (.raised "OSError: [Errno 28] No space left on device")] ++
    goNoise 2

/- Both files are there, and the later poll fails. -/
theorem lateErrorRun_publishes_both :
    ∃ s t,
      (noiseTransition gateConfig 0 ["memory"]).run
          (startJoint gateConfig 0) gateRun = some s ∧
      (noiseTransition gateConfig 0 ["memory"]).run
          (startJoint gateConfig 0) lateErrorRun = some t ∧
      t.files.gate ≠ none ∧ t.files.error ≠ none ∧
      decisionOf s.files = some (.start (some 3000)) ∧
      decisionOf t.files =
        some (.fail
          "OSError: [Errno 28] No space left on device\n") := by
  have hGate :
      ((noiseTransition gateConfig 0 ["memory"]).run
        (startJoint gateConfig 0) gateRun).map (fun s =>
          decisionOf s.files) =
        some (some (.start (some 3000))) := by
    decide +kernel
  have hBoth :
      ((noiseTransition gateConfig 0 ["memory"]).run
        (startJoint gateConfig 0) lateErrorRun).map (fun t =>
          (t.files.gate, t.files.error)) =
        some (some "3000\n",
          some
            "OSError: [Errno 28] No space left on device\n") := by
    decide +kernel
  rcases Option.map_eq_some_iff.mp hGate with
    ⟨s, hFirst, hDecision⟩
  rcases Option.map_eq_some_iff.mp hBoth with
    ⟨t, hSecond, hFiles⟩
  simp only [Prod.mk.injEq] at hFiles
  rcases hFiles with ⟨hOpen, hError⟩
  refine ⟨s, t, hFirst, hSecond, ?_, ?_, hDecision, ?_⟩
  · simp [hOpen]
  · simp [hError]
  · simp [decisionOf, hError]

end Noise

end RsCamera
