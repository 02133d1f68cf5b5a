import RsCamera.Attempts.Loop
import RsCamera.Lib.Numeral
import RsCamera.Lib.Containers

/-
  The attempts of a steady-state run
  (`steady_attempts.py`).

  The classifier and the builder of the records read values
  of any type and may raise.  The callbacks of the loop are
  these two, where they can read what the probe has answered.

  Key definitions include:
    * `measurementStarted`, `classifyAttempt`
    * `steadyAttemptRecord`
    * `steadyCallbacks`

  Key theorems include:
    * `steadyAttempts_report`
-/

------------------------------------------------------------
-- The Adapter
------------------------------------------------------------

namespace RsCamera

namespace Attempts

/- `int` of a value, or of zero when the value is false. -/
def intOrZero (value : Value) : Except String Int :=
  if value.truthy then
    match value with
    | .bool _ => .ok 1
    | .int number => .ok number
    | .float number => .ok (number.num.tdiv number.den)
    | .str text => pyInt text
    | _ =>
        .error
          ("int() argument must be a string, a bytes-like " ++
            "object or a real number")
  else
    .ok 0

/- The member of a value that has to be a mapping. -/
def getMember
    (value : Value)
    (key : String)
    (fallback : Value) : Except String Value :=
  match value with
  | .dict members =>
      .ok ((members.lookup key).getD fallback)
  | _ => .error "object has no attribute 'get'"

/- Whether the probe has come to its measurement. -/
def measurementStarted (summary : Record) : Except String Bool := do
  let value ←
    getMember (summary.getD "measurement" (.dict []))
      "start_boottime_ns" (.int 0)
  let number ← intOrZero value
  .ok (number ≠ 0)

/- `text.startswith(start)`. -/
def startsWith (text start : String) : Bool :=
  start.toList.isPrefixOf text.toList

/- Setup errors by their texts, the others by the measurement. -/
def failurePhase
    (success hasMeasurementStarted : Bool)
    (error : String) : String :=
  if success then
    "none"
  else if startsWith error "SCHED_DEADLINE setup failed:" ||
      startsWith error "Rate-monotonic setup failed:" then
    "scheduler_setup"
  else if startsWith error "Noise setup failed:" then
    "noise_setup"
  else if startsWith error "Noise transition frame failure:" then
    "noise_transition"
  else if hasMeasurementStarted then
    "measurement"
  else
    "startup"

/- Failures that another attempt may not meet again. -/
def retryablePhases : List String :=
  ["startup", "noise_transition", "measurement"]

/- `_classify_attempt`. -/
def classifyAttempt
    (shown : Value → String)
    (summary : Record) : Except String AttemptDecision := do
  let success := memberTruthy summary "success"
  let hasMeasurementStarted ← measurementStarted summary
  let error := (summary.getD "error" (.str "")).text shown
  let phase := failurePhase success hasMeasurementStarted error
  .ok
    { success := success
      failurePhase := phase
      retry := !success && retryablePhases.contains phase
      recover := !success && retryablePhases.contains phase
      error := error
      metadata :=
        (∅ : Record).set "measurement_started"
          (.bool hasMeasurementStarted) }

/- What a record keeps of a camera. -/
def cameraEntry (camera : Value) : Except String Value := do
  let serial ← getMember camera "serial" (.str "")
  let warmup ← getMember camera "warmup_deliveries" (.int 0)
  let timeouts ← getMember camera "timeouts" (.int 0)
  .ok
    (.dict
      [("serial", serial), ("warmup_deliveries", warmup),
        ("timeouts", timeouts)])

/- What a loop over a value goes through. -/
def elementsOf : Value → Except String (List Value)
| .list elements => .ok elements
| .dict members =>
    .ok (members.map (fun member => .str member.1))
| .str text =>
    .ok (text.toList.map (fun c => .str (String.singleton c)))
| _ => .error "object is not iterable"

/- `_steady_attempt_record`. -/
def steadyAttemptRecord
    (summary : Record) : Except String Record := do
  let cameras ← elementsOf (summary.getD "cameras" (.list []))
  let entries ← cameras.mapM cameraEntry
  .ok ((∅ : Record).set "cameras" (.list entries))

------------------------------------------------------------
-- Steady Runs
------------------------------------------------------------

/- What a decision is, by what it is made from. -/
structure Classified (decision : AttemptDecision) : Prop where
  retry :
    decision.retry =
      (!decision.success &&
        retryablePhases.contains decision.failurePhase)
  recover : decision.recover = decision.retry
  metadata : "success" ∉ decision.metadata.keys

theorem classified_of_ok
    {shown : Value → String}
    {summary : Record}
    {decision : AttemptDecision}
    (hOk : classifyAttempt shown summary = .ok decision) :
    Classified decision := by
  unfold classifyAttempt at hOk
  rcases bind_eq_ok.mp hOk with ⟨started, -, hDecision⟩
  rw [← Except.ok.inj hDecision]
  refine ⟨rfl, rfl, ?_⟩
  rw [Dict.mem_keys_set]
  simp [Dict.keys]

theorem steadyAttemptRecord_eq_ok
    {summary record : Record}
    (hOk : steadyAttemptRecord summary = .ok record) :
    "success" ∉ record.keys := by
  unfold steadyAttemptRecord at hOk
  rcases bind_eq_ok.mp hOk with ⟨cameras, -, hEntries⟩
  rcases bind_eq_ok.mp hEntries with ⟨entries, -, hRecord⟩
  rw [← Except.ok.inj hRecord, Dict.mem_keys_set]
  simp [Dict.keys]

/- A decision that no loop gets to see. -/
def unread : AttemptDecision where
  success := false
  failurePhase := ""
  retry := false

/-
  The arguments that `run_steady_attempts` gives the loop: an
  answer that one of the two raises on is left to `Readable`.
-/
def steadyCallbacks
    (shown : Value → String)
    (runAttempt : Nat → Path → String × Record)
    (recover : Record → Path → Record)
    (recoverOnFailure : String) : Callbacks where
  runAttempt := runAttempt
  classifyAttempt _ summary :=
    (classifyAttempt shown summary).toOption.getD unread
  recoverAttempt :=
    if recoverOnFailure = "full-reset" then
      some (fun _ summary dir _ => recover summary dir)
    else
      none
  beforeAttempt := false
  buildAttemptRecord :=
    some (fun _ summary _ =>
      (steadyAttemptRecord summary).toOption.getD ∅)

/- Answers of the probe that the adapter does not raise on. -/
structure Readable
    (shown : Value → String)
    (runAttempt : Nat → Path → String × Record)
    (config : Config) : Prop where
  classify :
    ∀ attempt, ∃ decision,
      classifyAttempt shown
          (runAttempt attempt (attemptDir config attempt)).2 =
        .ok decision
  build :
    ∀ attempt, ∃ record,
      steadyAttemptRecord
          (runAttempt attempt (attemptDir config attempt)).2 =
        .ok record

section Steady

variable {shown : Value → String}
variable {runAttempt : Nat → Path → String × Record}
variable {config : Config}

theorem Readable.classified
    (hReadable : Readable shown runAttempt config)
    (recover : Record → Path → Record)
    (recoverOnFailure : String)
    (attempt : Nat) :
    Classified
      (attemptDecision
        (steadyCallbacks shown runAttempt recover
          recoverOnFailure) config attempt) := by
  rcases hReadable.classify attempt with ⟨decision, hOk⟩
  change Classified
    ((classifyAttempt shown
      (runAttempt attempt
        (attemptDir config attempt)).2).toOption.getD unread)
  rw [hOk]
  exact classified_of_ok hOk

theorem Readable.keepsSuccess
    (hReadable : Readable shown runAttempt config)
    (recover : Record → Path → Record)
    (recoverOnFailure : String) :
    KeepsSuccess
      (steadyCallbacks shown runAttempt recover
        recoverOnFailure) config := by
  constructor
  case metadata =>
    intro attempt
    exact (hReadable.classified recover recoverOnFailure
      attempt).metadata
  case builder =>
    intro buildAttemptRecord hBuilder attempt
    rw [← Option.some.inj hBuilder]
    rcases hReadable.build attempt with ⟨record, hOk⟩
    change "success" ∉
      ((steadyAttemptRecord
        (runAttempt attempt
          (attemptDir config attempt)).2).toOption.getD ∅).keys
    rw [hOk]
    exact steadyAttemptRecord_eq_ok hOk

/-
  The loop goes on over failures that may not come again, with
  a full reset after each where that is asked for.  It does not
  go on over a failure of the setup.
-/
theorem steadyAttempts_report
    (hMax : 1 ≤ config.maxAttempts)
    (hReadable : Readable shown runAttempt config)
    (recover : Record → Path → Record)
    {callbacks : Callbacks}
    (hCallbacks :
      callbacks =
        steadyCallbacks shown runAttempt recover
          config.recoveryMethod) :
    ∃ n result calls,
      runAttemptLoop shown callbacks config =
          .ok (result, calls) ∧
        Reports callbacks config n result calls ∧
        (∀ k, 1 ≤ k → k < n →
          (attemptDecision callbacks config k).failurePhase ∈
              retryablePhases ∧
            (config.recoveryMethod = "full-reset" →
              AsksRecovery callbacks config k)) ∧
        ((attemptDecision callbacks config n).success = false →
          n < config.maxAttempts →
            (attemptDecision callbacks config n).failurePhase ∉
              retryablePhases) := by
  have hKeeps :=
    hReadable.keepsSuccess recover config.recoveryMethod
  have hClassified :=
    hReadable.classified recover config.recoveryMethod
  rw [← hCallbacks] at hKeeps hClassified
  rcases @attemptLoop_ended callbacks config hMax with
    ⟨more, hEnded⟩
  refine ⟨1 + more, _, _, hEnded.run hMax shown,
    hEnded.reports hKeeps shown, ?_, ?_⟩
  · intro k hOne hLess
    have hAgain := hEnded.before (k - 1) (by omega)
    rw [Nat.add_sub_cancel' hOne] at hAgain
    unfold Stops at hAgain
    simp only [not_or, Bool.not_eq_true, Bool.not_eq_false]
      at hAgain
    have hRetry := (hClassified k).retry
    rw [hAgain.2.1, eq_comm, Bool.and_eq_true,
      List.contains_iff_mem] at hRetry
    refine ⟨hRetry.2, ?_⟩
    intro hMethod
    refine ⟨hAgain.1, ?_, ?_, ?_⟩
    · rw [(hClassified k).recover]
      exact hAgain.2.1
    · simp [hMethod]
    · rw [hCallbacks]
      simp [steadyCallbacks, hMethod]
  · intro hFailed hLess hPhase
    have hRetry := (hClassified (1 + more)).retry
    rw [hFailed, Bool.not_false, Bool.true_and,
      List.contains_iff_mem.mpr hPhase] at hRetry
    rcases hEnded.here with hSuccess | hStop | hLast
    · rw [hFailed] at hSuccess
      cases hSuccess
    · rw [hRetry] at hStop
      cases hStop
    · omega

end Steady

end Attempts

end RsCamera
