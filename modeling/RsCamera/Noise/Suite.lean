import RsCamera.Lib.Effect
import RsCamera.Lib.Transition
import RsCamera.Noise.Workloads

/-
  The noise suite (`NoiseSuite` in `noise_workloads.py`).

  Workloads are started in order and stopped in reverse
  order, and the first exception ends either loop.  Each
  round concerns its own workload only, so what a loop leaves
  behind is said workload by workload: the round either took
  place or was never reached.

  In a run of the suite calls follow each other in any order,
  and processes end on their own in between.  A call accounts
  for every process exactly if the plans, and what is held
  when the call begins, let every stop that is reached end
  its process and leave none unasked behind the first one
  that raises.

  Key definitions include:
    * `startAll`, `stopAll`
    * `Reached`, `Stoppable`, `Recoverable`
    * `SuiteStep`, `suiteSystem`

  Key theorems include:
    * `eachWorkload_after`, `eachWorkload_returns_iff`
    * `stopAll_accounted_iff`, `startAll_accounted_iff`
    * `noiseSuite_accounted_iff`
-/

------------------------------------------------------------
-- The Suite
------------------------------------------------------------

namespace RsCamera

namespace Noise

/- The workloads of `_by_key`. -/
abbrev Suite : Type :=
  NoiseKey → Managed

/- Let one workload of the suite do something. -/
def onWorkload
    (key : NoiseKey)
    (act : Managed → Managed × Except String Unit) :
    Effect Suite Unit :=
  fun suite =>
    let acted := act (suite key)
    let after := Function.update suite key acted.1
    match acted.2 with
    | .ok _ => .ok () after
    | .error error => .error error after

/- One loop, with nothing that isolates its rounds. -/
def stopAll
    (plans : NoiseKey → StopPlan)
    (recordDir : Bool) : Effect Suite Unit :=
  Effect.forEach
    (fun key =>
      onWorkload key (Managed.stop (plans key) recordDir))
    NoiseKey.all.reverse

/- Start a workload and write its configuration. -/
def startWorkload
    (modes : NoiseKey → String)
    (plans : NoiseKey → StartPlan)
    (key : NoiseKey) : Effect Suite Unit := do
  onWorkload key
    (Managed.start key (modes key) (plans key))
  Effect.perform (plans key).configure id

/- The body of the `try` of `start_all`. -/
def startEach
    (modes : NoiseKey → String)
    (plans : NoiseKey → StartPlan) : Effect Suite Unit :=
  Effect.forEach (startWorkload modes plans) NoiseKey.all

/- An exception of the handler replaces the first one. -/
def startAll
    (modes : NoiseKey → String)
    (plans : NoiseKey → StartPlan)
    (stopPlans : NoiseKey → StopPlan) : Effect Suite Unit :=
  fun suite =>
    match startEach modes plans suite with
    | .ok _ started => .ok () started
    | .error error failed =>
        match stopAll stopPlans true failed with
        | .ok _ stopped => .error error stopped
        | .error error' stopped => .error error' stopped

/- The suite before its first call. -/
def newSuite : Suite :=
  fun _ => {}

------------------------------------------------------------
-- A Loop That Visits Each Workload Once
------------------------------------------------------------

/- A workload is reached if no earlier one is in the way. -/
def Reached
    (passes : NoiseKey → Prop)
    (order : List NoiseKey)
    (key : NoiseKey) : Prop :=
  key ∈ order ∧
    ∀ earlier ∈ order.takeWhile (fun other => other ≠ key),
      passes earlier

instance decidableReached
    (passes : NoiseKey → Prop)
    [DecidablePred passes]
    (order : List NoiseKey)
    (key : NoiseKey) :
    Decidable (Reached passes order key) :=
  inferInstanceAs (Decidable (_ ∧ _))

theorem reached_cons
    {passes : NoiseKey → Prop}
    {first key : NoiseKey}
    {rest : List NoiseKey} :
    Reached passes (first :: rest) key ↔
      key = first ∨
        (key ≠ first ∧ passes first ∧
          Reached passes rest key) := by
  unfold Reached
  by_cases hKey : key = first
  · simp [hKey]
  · simp only [List.takeWhile_cons, ne_eq, Ne.symm hKey,
      not_false_eq_true, decide_true, if_true]
    rw [List.mem_cons, List.forall_mem_cons]
    constructor
    · intro hReached
      rcases hReached with ⟨hMember, hPasses, hEarlier⟩
      exact Or.inr ⟨hKey, hPasses,
        hMember.resolve_left hKey, hEarlier⟩
    · intro hCases
      rcases hCases with hIs | ⟨-, hPasses, hMember, hEarlier⟩
      · exact absurd hIs hKey
      · exact ⟨Or.inr hMember, hPasses, hEarlier⟩

/- Only the workloads of the order matter. -/
theorem reached_congr
    {passes passes' : NoiseKey → Prop}
    {order : List NoiseKey}
    (hSame : ∀ key ∈ order, (passes key ↔ passes' key))
    (key : NoiseKey) :
    Reached passes order key ↔ Reached passes' order key := by
  unfold Reached
  apply and_congr_right
  intro _
  apply forall₂_congr
  intro earlier hEarlier
  exact hSame earlier (List.takeWhile_subset _ hEarlier)

section Loops

variable (act : NoiseKey → Managed → Managed × Except String Unit)

/- Let every workload of a list do something, in order. -/
def eachWorkload (order : List NoiseKey) : Effect Suite Unit :=
  Effect.forEach (fun key => onWorkload key (act key)) order

/- Nothing is in the way of the rounds up to the first raise. -/
def Acts
    (suite : Suite)
    (order : List NoiseKey) : NoiseKey → Prop :=
  Reached (fun key => (act key (suite key)).2 = .ok ()) order

theorem onWorkload_of_ok
    {key : NoiseKey}
    {suite : Suite}
    (hReturns : (act key (suite key)).2 = .ok ()) :
    onWorkload key (act key) suite =
      .ok ()
        (Function.update suite key (act key (suite key)).1) := by
  simp only [onWorkload, hReturns]

theorem onWorkload_of_error
    {key : NoiseKey}
    {suite : Suite}
    {error : String}
    (hRaises : (act key (suite key)).2 = .error error) :
    onWorkload key (act key) suite =
      .error error
        (Function.update suite key (act key (suite key)).1) := by
  simp only [onWorkload, hRaises]

/- The rounds to come do not see what one of them has done. -/
theorem update_of_not_mem
    {first key : NoiseKey}
    {rest : List NoiseKey}
    (hFirst : first ∉ rest)
    (hKey : key ∈ rest)
    (suite : Suite)
    (managed : Managed) :
    Function.update suite first managed key = suite key := by
  apply Function.update_of_ne
  rintro rfl
  exact hFirst hKey

/-
  By induction on the order: a reached workload has acted on
  its state at the start, and every other one is unchanged.
-/
theorem eachWorkload_after
    {order : List NoiseKey}
    (hOrder : order.Nodup)
    (suite : Suite)
    (key : NoiseKey) :
    (Acts act suite order key →
        Effect.after (eachWorkload act order) suite key =
          (act key (suite key)).1) ∧
      (¬ Acts act suite order key →
        Effect.after (eachWorkload act order) suite key =
          suite key) := by
  induction order generalizing suite with
  | nil =>
      refine ⟨fun hReached => ?_, fun _ => rfl⟩
      cases hReached.1
  | cons first rest ih =>
      rcases List.nodup_cons.mp hOrder with ⟨hFirst, hRest⟩
      rw [eachWorkload, Effect.after_forEach_cons,
        ← eachWorkload]
      unfold Acts at ih ⊢
      cases hResult : (act first (suite first)).2 with
      | error error =>
          rw [onWorkload_of_error act hResult]
          simp only [reached_cons, hResult, reduceCtorEq,
            false_and, and_false, or_false]
          refine ⟨fun hKey => ?_, fun hKey => ?_⟩
          · rw [hKey, Function.update_self]
          · rw [Function.update_of_ne hKey]
      | ok done =>
          rw [onWorkload_of_ok act hResult]
          rcases ih hRest
            (Function.update suite first
              (act first (suite first)).1) with ⟨hIn, hOut⟩
          have hSame :
              Reached
                  (fun other =>
                    (act other
                      (Function.update suite first
                        (act first (suite first)).1
                        other)).2 = .ok ())
                  rest key ↔
                Reached
                  (fun other =>
                    (act other (suite other)).2 = .ok ())
                  rest key := by
            apply reached_congr
            intro other hOther
            rw [update_of_not_mem hFirst hOther]
          rw [hSame] at hIn hOut
          simp only [reached_cons, hResult, true_and]
          by_cases hKey : key = first
          · have hNot :
                ¬ Reached (fun other =>
                  (act other (suite other)).2 = .ok ())
                    rest key := by
              intro hReached
              exact hFirst (hKey ▸ hReached.1)
            refine ⟨fun _ => ?_, fun hNo => ?_⟩
            · rw [hOut hNot, hKey, Function.update_self]
            · exact absurd (Or.inl hKey) hNo
          · rw [Function.update_of_ne hKey] at hIn hOut
            refine ⟨fun hYes => ?_, fun hNo => ?_⟩
            · rcases hYes with hIs | hReached
              · exact absurd hIs hKey
              · exact hIn hReached.2
            · exact hOut (fun hReached =>
                hNo (Or.inr ⟨hKey, hReached⟩))

/- A loop returns exactly if each of its rounds does. -/
theorem eachWorkload_returns_iff
    {order : List NoiseKey}
    (hOrder : order.Nodup)
    (suite : Suite) :
    Effect.Returns (eachWorkload act order) suite ↔
      ∀ key ∈ order, (act key (suite key)).2 = .ok () := by
  induction order generalizing suite with
  | nil => exact iff_of_true ⟨(), suite, rfl⟩ (by simp)
  | cons first rest ih =>
      rcases List.nodup_cons.mp hOrder with ⟨hFirst, hRest⟩
      rw [eachWorkload, Effect.forEach,
        Effect.returns_bind_iff, List.forall_mem_cons,
        ← eachWorkload]
      cases hResult : (act first (suite first)).2 with
      | error error =>
          rw [onWorkload_of_error act hResult]
          simp
      | ok done =>
          rw [onWorkload_of_ok act hResult]
          constructor
          · rintro ⟨_, after, hAfter, hReturns⟩
            cases hAfter
            refine ⟨rfl, fun key hKey => ?_⟩
            have hRound := (ih hRest _).mp hReturns key hKey
            rwa [update_of_not_mem hFirst hKey] at hRound
          · rintro ⟨-, hAll⟩
            refine ⟨(), _, rfl, (ih hRest _).mpr ?_⟩
            intro key hKey
            rw [update_of_not_mem hFirst hKey]
            exact hAll key hKey

end Loops

------------------------------------------------------------
-- What Stops And Failed Starts Leave
------------------------------------------------------------

/-
  Processes whose stop is reached end, and none that was not
  asked to is held behind the first stop that raises.
-/
structure Stoppable
    (plans : NoiseKey → StopPlan)
    (recordDir : Bool)
    (held : NoiseKey → Option NoiseProcess) : Prop where
  reached :
    ∀ key,
      Reached
          (fun other =>
            (plans other).Quiet recordDir (held other))
          NoiseKey.all.reverse key →
        ∀ process ∈ held key, (plans key).Ends process
  unreached :
    ∀ key,
      ¬ Reached
          (fun other =>
            (plans other).Quiet recordDir (held other))
          NoiseKey.all.reverse key →
        ∀ process ∈ held key, process.Asked

section Plans

variable (modes : NoiseKey → String)
variable (startPlans : NoiseKey → StartPlan)
variable (held : NoiseKey → Option NoiseProcess)

/- The round of a workload in `start_all` raises. -/
def StartFails (key : NoiseKey) : Prop :=
  ¬ (startPlans key).Returns key (modes key) (held key) ∨
    (startPlans key).configure ≠ none

instance decidableStartFails
    (key : NoiseKey) :
    Decidable (StartFails modes startPlans held key) :=
  inferInstanceAs (Decidable (_ ∨ _))

/- No earlier round raises. -/
def Tried : NoiseKey → Prop :=
  Reached
    (fun other => ¬ StartFails modes startPlans held other)
    NoiseKey.all

instance decidableTried
    (key : NoiseKey) :
    Decidable (Tried modes startPlans held key) :=
  inferInstanceAs (Decidable (Reached _ _ _))

/- What is held when the first round has raised. -/
def heldThen (key : NoiseKey) : Option NoiseProcess :=
  if Tried modes startPlans held key then
    (startPlans key).heldAfter key (modes key) (held key)
  else
    held key

/-
  A process that was launched and not ready in time ends when
  it is given up, and what is held then can be stopped.
-/
structure Recoverable
    (stopPlans : NoiseKey → StopPlan) : Prop where
  timedOut :
    ∀ key,
      Tried modes startPlans held key →
        (startPlans key).TimesOut key (modes key) (held key) →
          (startPlans key).giveUp.Ends (startPlans key).left
  stoppable :
    Stoppable stopPlans true (heldThen modes startPlans held)

end Plans

/- Everything is accounted for exactly if it can be stopped. -/
theorem stopAll_accounted_iff
    (plans : NoiseKey → StopPlan)
    (recordDir : Bool)
    {suite : Suite}
    (hKept : ∀ key, (suite key).Kept) :
    (∀ key,
        (Effect.after (stopAll plans recordDir) suite
          key).Accounted) ↔
      Stoppable plans recordDir (fun key => (suite key).held) := by
  have hOrder : NoiseKey.all.reverse.Nodup := by decide
  have hAfter :=
    eachWorkload_after
      (fun key => Managed.stop (plans key) recordDir)
      hOrder suite
  have hActs :
      ∀ key,
        Acts (fun key => Managed.stop (plans key) recordDir)
            suite NoiseKey.all.reverse key ↔
          Reached
            (fun other =>
              (plans other).Quiet recordDir (suite other).held)
            NoiseKey.all.reverse key := by
    intro key
    exact reached_congr
      (fun other _ =>
        ((suite other).stop_cases (plans other) recordDir).1)
      key
  have hStopped :
      ∀ key,
        ((suite key).stop (plans key)
            recordDir).1.Accounted ↔
          ∀ process ∈ (suite key).held,
            (plans key).Ends process := by
    intro key
    have hNone :=
      ((suite key).stop_cases (plans key) recordDir).2.1
    rw [Managed.accounted_iff, hNone,
      Managed.kept_stop_iff (hKept key)]
    simp
  have hLeft :
      ∀ key,
        (suite key).Accounted ↔
          ∀ process ∈ (suite key).held, process.Asked := by
    intro key
    rw [Managed.accounted_iff]
    simp [hKept key]
  constructor
  · intro hAccounted
    refine ⟨fun key hReached => ?_, fun key hNot => ?_⟩
    · have hKey := hAccounted key
      rw [stopAll, ← eachWorkload,
        (hAfter key).1 ((hActs key).mpr hReached)] at hKey
      exact (hStopped key).mp hKey
    · have hKey := hAccounted key
      rw [stopAll, ← eachWorkload,
        (hAfter key).2 (fun hActed =>
          hNot ((hActs key).mp hActed))] at hKey
      exact (hLeft key).mp hKey
  · intro hStoppable key
    by_cases hReached :
        Reached
          (fun other =>
            (plans other).Quiet recordDir (suite other).held)
          NoiseKey.all.reverse key
    · rw [stopAll, ← eachWorkload,
        (hAfter key).1 ((hActs key).mpr hReached)]
      exact (hStopped key).mpr
        (hStoppable.reached key hReached)
    · rw [stopAll, ← eachWorkload,
        (hAfter key).2 (fun hActed =>
          hReached ((hActs key).mp hActed))]
      exact (hLeft key).mpr
        (hStoppable.unreached key hReached)

section Starts

variable (modes : NoiseKey → String)
variable (startPlans : NoiseKey → StartPlan)

/- A round of `start_all` as what it does to its workload. -/
def startRound
    (key : NoiseKey)
    (managed : Managed) : Managed × Except String Unit :=
  let started :=
    managed.start key (modes key) (startPlans key)
  match started.2 with
  | .error error => (started.1, .error error)
  | .ok _ =>
      match (startPlans key).configure with
      | some error => (started.1, .error error)
      | none => (started.1, .ok ())

theorem startWorkload_eq
    (key : NoiseKey) :
    startWorkload modes startPlans key =
      onWorkload key (startRound modes startPlans key) := by
  funext suite
  simp only [startWorkload, startRound, onWorkload, bind,
    EStateM.bind]
  cases ((suite key).start key (modes key)
    (startPlans key)).2 with
  | error error => rfl
  | ok done =>
      cases hConfigure : (startPlans key).configure with
      | none => simp [Effect.perform]
      | some error => simp [Effect.perform]

theorem startEach_eq :
    startEach modes startPlans =
      eachWorkload (startRound modes startPlans)
        NoiseKey.all := by
  unfold startEach eachWorkload
  congr 1
  funext key
  exact startWorkload_eq modes startPlans key

/- A round, by its plan and what is held before it. -/
theorem startRound_cases
    {managed : Managed}
    (hKept : managed.Kept)
    (held : NoiseKey → Option NoiseProcess)
    (key : NoiseKey)
    (hHeld : managed.held = held key) :
    let round := startRound modes startPlans key managed
    (round.2 = .ok () ↔
        ¬ StartFails modes startPlans held key) ∧
      round.1.held =
        (startPlans key).heldAfter key (modes key)
          (held key) ∧
      (round.1.Kept ↔
        ((startPlans key).TimesOut key (modes key) (held key) →
          (startPlans key).giveUp.Ends
            (startPlans key).left)) := by
  have hStart :=
    Managed.start_cases key (modes key) (startPlans key) hKept
  rw [hHeld] at hStart
  unfold StartFails startRound
  rw [not_or, not_not, not_ne_iff, ← hStart.1]
  cases hResult :
      (managed.start key (modes key) (startPlans key)).2 with
  | error error =>
      simpa [hResult] using hStart.2
  | ok done =>
      cases hConfigure : (startPlans key).configure with
      | none => simpa [hResult] using hStart.2
      | some error => simpa [hResult] using hStart.2

/- The suite when the handler of `start_all` begins. -/
theorem startEach_after
    {suite : Suite}
    (hKept : ∀ key, (suite key).Kept)
    (key : NoiseKey) :
    let held := fun key => (suite key).held
    let failed :=
      Effect.after (startEach modes startPlans) suite
    (failed key).held = heldThen modes startPlans held key ∧
      ((failed key).Kept ↔
        (Tried modes startPlans held key →
          (startPlans key).TimesOut key (modes key)
              (held key) →
            (startPlans key).giveUp.Ends
              (startPlans key).left)) := by
  intro held failed
  have hRound :=
    fun other =>
      startRound_cases modes startPlans (hKept other) held
        other rfl
  have hTried :
      Acts (startRound modes startPlans) suite NoiseKey.all
          key ↔
        Tried modes startPlans held key :=
    reached_congr (fun other _ => (hRound other).1) key
  have hOrder : NoiseKey.all.Nodup := by decide
  have hAfter :=
    eachWorkload_after (startRound modes startPlans) hOrder
      suite key
  rw [hTried, ← startEach_eq] at hAfter
  unfold heldThen
  by_cases hIs : Tried modes startPlans held key
  · rw [if_pos hIs]
    simp only [failed, hAfter.1 hIs, hIs, true_implies]
    exact (hRound key).2
  · rw [if_neg hIs]
    simp only [failed, hAfter.2 hIs, hIs, false_implies,
      iff_true]
    exact ⟨rfl, hKept key⟩

theorem startEach_returns_iff
    {suite : Suite}
    (hKept : ∀ key, (suite key).Kept) :
    Effect.Returns (startEach modes startPlans) suite ↔
      ∀ key,
        ¬ StartFails modes startPlans
          (fun key => (suite key).held) key := by
  rw [startEach_eq,
    eachWorkload_returns_iff _ (by decide) suite]
  have hAll : ∀ key, key ∈ NoiseKey.all := by
    intro key
    cases key <;> decide
  constructor
  · intro hRounds key
    exact (startRound_cases modes startPlans (hKept key) _ key
      rfl).1.mp (hRounds key (hAll key))
  · intro hNone key _
    exact (startRound_cases modes startPlans (hKept key) _ key
      rfl).1.mpr (hNone key)

end Starts

------------------------------------------------------------
-- Runs Of The Suite
------------------------------------------------------------

/- A call of the suite, or a process that ends on its own. -/
inductive SuiteStep
| startAll
    (modes : NoiseKey → String)
    (plans : NoiseKey → StartPlan)
    (stopPlans : NoiseKey → StopPlan)
| stopAll
    (plans : NoiseKey → StopPlan)
    (recordDir : Bool)
| exits
    (key : NoiseKey)
    (place : Nat)
    (returncode : Int)

/- The suite after a step, whether a call raised or not. -/
def SuiteStep.perform
    (suite : Suite) :
    SuiteStep → Suite
| .startAll modes plans stopPlans =>
    Effect.after (Noise.startAll modes plans stopPlans) suite
| .stopAll plans recordDir =>
    Effect.after (Noise.stopAll plans recordDir) suite
| .exits key place returncode =>
    Function.update suite key
      ((suite key).exits place returncode)

/- The suite and the steps it may take. -/
def suiteSystem : TransitionSystem Suite SuiteStep where
  step suite step := some (step.perform suite)

/-
  A start that raises and any stop account for every process
  of every workload.
-/
def SuiteStep.Accounts
    (suite : Suite) :
    SuiteStep → Prop
| .startAll modes plans stopPlans =>
    ∀ error raised,
      Noise.startAll modes plans stopPlans suite =
          .error error raised →
        ∀ key, (raised key).Accounted
| .stopAll plans recordDir =>
    ∀ key,
      (Effect.after (Noise.stopAll plans recordDir) suite
        key).Accounted
| .exits _ _ _ => True

/- The plans of a call suit what is held when it begins. -/
def SuiteStep.Suits
    (suite : Suite) :
    SuiteStep → Prop
| .startAll modes plans stopPlans =>
    let held := fun key => (suite key).held
    (∃ key, StartFails modes plans held key) →
      Recoverable modes plans held stopPlans
| .stopAll plans recordDir =>
    Stoppable plans recordDir (fun key => (suite key).held)
| .exits _ _ _ => True

section Steps

variable (modes : NoiseKey → String)
variable (startPlans : NoiseKey → StartPlan)
variable (stopPlans : NoiseKey → StopPlan)

/- A start that raises leaves what its handler leaves. -/
theorem startAll_error_iff
    {suite raised : Suite} :
    (∃ error,
        startAll modes startPlans stopPlans suite =
          .error error raised) ↔
      ¬ Effect.Returns (startEach modes startPlans) suite ∧
        raised =
          Effect.after (stopAll stopPlans true)
            (Effect.after (startEach modes startPlans)
              suite) := by
  unfold startAll Effect.Returns Effect.after
  cases startEach modes startPlans suite with
  | ok done started => simp
  | error error failed =>
      cases hStop : stopAll stopPlans true failed with
      | ok done stopped => simp [hStop, eq_comm]
      | error error' stopped => simp [hStop, eq_comm]

theorem startAll_accounted_iff
    {suite : Suite}
    (hKept : ∀ key, (suite key).Kept) :
    (SuiteStep.startAll modes startPlans stopPlans).Accounts
        suite ↔
      (SuiteStep.startAll modes startPlans stopPlans).Suits
        suite := by
  have hFailed := startEach_after modes startPlans hKept
  have hReturns := startEach_returns_iff modes startPlans hKept
  simp only [SuiteStep.Accounts, SuiteStep.Suits]
  have hRaises :
      (∃ key,
          StartFails modes startPlans
            (fun key => (suite key).held) key) ↔
        ¬ Effect.Returns (startEach modes startPlans)
          suite := by
    rw [hReturns]
    push Not
    rfl
  have hStopped :
      (∀ key, (Effect.after (startEach modes startPlans)
          suite key).Kept) →
        ((∀ key,
            (Effect.after (stopAll stopPlans true)
              (Effect.after (startEach modes startPlans)
                suite) key).Accounted) ↔
          Stoppable stopPlans true
            (heldThen modes startPlans
              (fun key => (suite key).held))) := by
    intro hAll
    rw [stopAll_accounted_iff stopPlans true hAll]
    have hHeld := funext (fun key => (hFailed key).1)
    rw [hHeld]
  rw [hRaises]
  constructor
  · intro hAccounts hNot
    have hLeft :=
      (startAll_error_iff modes startPlans stopPlans).mpr
        ⟨hNot, rfl⟩
    rcases hLeft with ⟨error, hError⟩
    have hAccounted := hAccounts error _ hError
    have hAll :
        ∀ key, (Effect.after (startEach modes startPlans)
          suite key).Kept := by
      intro key
      have hOwned := (hAccounted key).owned
      have hOrder : NoiseKey.all.reverse.Nodup := by decide
      have hAfter :=
        eachWorkload_after
          (fun key => Managed.stop (stopPlans key) true) hOrder
          (Effect.after (startEach modes startPlans) suite) key
      rw [stopAll, ← eachWorkload] at hOwned
      by_cases hActs :
          Acts (fun key => Managed.stop (stopPlans key) true)
            (Effect.after (startEach modes startPlans) suite)
            NoiseKey.all.reverse key
      · rw [hAfter.1 hActs] at hOwned
        exact Managed.kept_of_kept_stop hOwned
      · rw [hAfter.2 hActs] at hOwned
        exact hOwned
    exact
      { timedOut := fun key => (hFailed key).2.mp (hAll key)
        stoppable := (hStopped hAll).mp hAccounted }
  · intro hSuits error raised hError
    rcases (startAll_error_iff modes startPlans
      stopPlans).mp ⟨error, hError⟩ with ⟨hNot, hRaised⟩
    have hRecoverable := hSuits hNot
    have hAll :
        ∀ key, (Effect.after (startEach modes startPlans)
          suite key).Kept := by
      intro key
      exact (hFailed key).2.mpr (hRecoverable.timedOut key)
    rw [hRaised]
    exact (hStopped hAll).mpr hRecoverable.stoppable

/- A start that returns has given up nothing. -/
theorem kept_startAll
    {suite : Suite}
    (hKept : ∀ key, (suite key).Kept)
    (hAccounts :
      (SuiteStep.startAll modes startPlans stopPlans).Accounts
        suite)
    (key : NoiseKey) :
    (Effect.after (startAll modes startPlans stopPlans) suite
      key).Kept := by
  cases hRun : startAll modes startPlans stopPlans suite with
  | error error raised =>
      unfold Effect.after
      rw [hRun]
      exact (hAccounts error raised hRun key).owned
  | ok done started =>
      have hStart :
          startEach modes startPlans suite =
            .ok () started := by
        unfold startAll at hRun
        cases hEach : startEach modes startPlans suite with
        | ok done other =>
            rw [hEach] at hRun
            exact hRun
        | error error failed =>
            rw [hEach] at hRun
            simp only at hRun
            split at hRun <;> cases hRun
      have hSame :
          Effect.after (startAll modes startPlans stopPlans)
              suite =
            Effect.after (startEach modes startPlans) suite := by
        unfold Effect.after
        rw [hRun, hStart]
      have hNone :=
        (startEach_returns_iff modes startPlans hKept).mp
          ⟨(), started, hStart⟩ key
      rw [hSame, (startEach_after modes startPlans hKept key).2]
      rintro - ⟨hLaunches, hSeen⟩
      -- A round that returns either launches nothing or sees
      -- its process ready.
      rw [StartFails, not_or, not_not] at hNone
      rcases hNone.1 with hMode | ⟨-, hReady⟩
      · rw [hLaunches.1] at hMode
        exact absurd hMode key.supportedMode_ne_none
      · rw [hSeen] at hReady
        cases hReady

end Steps

/- One step, as long as nothing was given up before it. -/
theorem SuiteStep.accounts_iff
    {suite : Suite}
    (hKept : ∀ key, (suite key).Kept)
    (step : SuiteStep) :
    step.Accounts suite ↔ step.Suits suite := by
  cases step with
  | startAll modes plans stopPlans =>
      exact startAll_accounted_iff modes plans stopPlans hKept
  | stopAll plans recordDir =>
      exact stopAll_accounted_iff plans recordDir hKept
  | exits key place returncode => exact Iff.rfl

theorem SuiteStep.kept_perform
    {suite : Suite}
    (hKept : ∀ key, (suite key).Kept)
    {step : SuiteStep}
    (hAccounts : step.Accounts suite)
    (key : NoiseKey) :
    (step.perform suite key).Kept := by
  cases step with
  | startAll modes plans stopPlans =>
      exact kept_startAll modes plans stopPlans hKept hAccounts
        key
  | stopAll plans recordDir => exact (hAccounts key).owned
  | exits ended place returncode =>
      simp only [SuiteStep.perform]
      by_cases hKey : key = ended
      · subst hKey
        rw [Function.update_self]
        exact Managed.kept_exits (hKept key) place returncode
      · rw [Function.update_of_ne hKey]
        exact hKept key

/-
  In every run of the suite, each start that raises and each
  stop accounts for every process exactly if the plans of
  each call suit what is held when it begins.
-/
theorem noiseSuite_accounted_iff
    (steps : List SuiteStep) :
    suiteSystem.StepsSatisfy
        (fun suite step => step.Accounts suite) newSuite
        steps ↔
      suiteSystem.StepsSatisfy
        (fun suite step => step.Suits suite) newSuite
        steps := by
  apply suiteSystem.stepsSatisfy_congr
    (P := fun suite => ∀ key, (suite key).Kept)
  · intro suite step hKept
    exact SuiteStep.accounts_iff hKept step
  · intro suite step after hKept hAccounts hStep key
    cases hStep
    exact SuiteStep.kept_perform hKept hAccounts key
  · intro key place process hAt
    cases hAt

/- The CPU and the GPU noise of a case. -/
def cpuAndGpu : NoiseKey → String
| .cpu => "busy_loop"
| .memory => "none"
| .usbStorage => "none"
| .gpu => "mobilenet_v2_vulkan"

/- Every process ends when it is asked to. -/
def obedient (write : Option String) : NoiseKey → StopPlan
| .cpu => { wait := .exited 0, lastWait := .timeout }
| .memory => { wait := .exited 0, lastWait := .timeout }
| .usbStorage => { wait := .exited 0, lastWait := .timeout }
| .gpu =>
    { wait := .exited 0, lastWait := .timeout, write := write }

/- Everything is ready at once, the GPU after some rounds. -/
def launching (gpu : List Observed) : NoiseKey → StartPlan
| .cpu => { rounds := [.ready], giveUp := obedient none .cpu }
| .memory =>
    { rounds := [.ready], giveUp := obedient none .memory }
| .usbStorage =>
    { rounds := [.ready], giveUp := obedient none .usbStorage }
| .gpu =>
    { rounds := gpu
      timeoutText := "20.0"
      giveUp :=
        { wait := .timeout, lastWait := .exited (-9) } }

/-
  A GPU that is late and has to be killed, a start where both
  become ready, and a stop.
-/
def lateThenReady : List SuiteStep :=
  [.startAll cpuAndGpu (launching [.pending]) (obedient none),
    .startAll cpuAndGpu (launching [.pending, .ready])
      (obedient none),
    .stopAll (obedient none) true]

theorem lateThenReady_accounted :
    (∃ raised,
        startAll cpuAndGpu (launching [.pending])
            (obedient none) newSuite =
          .error
            "GPU-NOISE did not become ready within 20.0 seconds"
            raised ∧
        (raised .cpu).started =
          [{ requested := true, returncode := some 0 }] ∧
        (raised .gpu).started =
          [{ requested := true, returncode := some (-9) }]) ∧
      suiteSystem.StepsSatisfy
        (fun suite step => step.Accounts suite) newSuite
        lateThenReady := by
  refine ⟨⟨_, rfl, rfl, rfl⟩, ?_⟩
  have hEnds :
      ∀ key process, (obedient none key).Ends process := by
    intro key process
    right
    cases key <;> exact ⟨rfl, Or.inl rfl⟩
  -- A stop that cannot raise reaches every workload.
  have hStoppable :
      ∀ held, Stoppable (obedient none) true held := by
    intro held
    have hReached :
        ∀ key,
          Reached
            (fun other =>
              (obedient none other).Quiet true (held other))
            NoiseKey.all.reverse key := by
      intro key
      refine ⟨by cases key <;> decide, ?_⟩
      intro earlier _ process _
      refine ⟨hEnds earlier process, fun _ => ?_⟩
      cases earlier <;> rfl
    refine ⟨fun key _ process _ => hEnds key process, ?_⟩
    intro key hNot
    exact absurd (hReached key) hNot
  refine (noiseSuite_accounted_iff lateThenReady).mpr ?_
  refine ⟨fun _ => ⟨?_, hStoppable _⟩, ?_⟩
  · intro key _ hLate
    cases key with
    | gpu => decide
    | cpu => cases hLate.2
    | memory => cases hLate.2
    | usbStorage => cases hLate.2
  · intro suite hFirst
    cases hFirst
    refine ⟨fun _ => ⟨?_, hStoppable _⟩, ?_⟩
    · intro key _ hLate
      cases key with
      | gpu => cases hLate.2
      | cpu => cases hLate.2
      | memory => cases hLate.2
      | usbStorage => cases hLate.2
    · intro suite hSecond
      cases hSecond
      exact ⟨hStoppable _, fun _ _ => trivial⟩

/- Both run, and the GPU's record cannot be written. -/
def fullDisk : List SuiteStep :=
  [.startAll cpuAndGpu (launching [.ready]) (obedient none),
    .stopAll (obedient (some "No space left on device")) true]

/- The CPU noise goes on, and was never asked to end. -/
theorem fullDisk_cpu_unasked :
    ¬ suiteSystem.StepsSatisfy
      (fun suite step => step.Accounts suite) newSuite
      fullDisk := by
  intro hAccounts
  have hStop := (hAccounts.2 _ rfl).1 .cpu
  have hCpu :=
    hStop.asked {} (List.mem_of_getElem? (i := 0) rfl)
  rcases hCpu with hAsked | hEnded
  · cases hAsked
  · exact hEnded rfl

end Noise

end RsCamera
