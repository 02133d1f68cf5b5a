import Mathlib.Algebra.Order.Ring.Rat
import Mathlib.Order.Bounds.Defs
import RsCamera.Lib.Dict

/-
  Attempts, recoveries and retries of one benchmark point
  (`run_attempt_loop` in `attempts.py`).

  The callbacks of a benchmark may answer differently in
  each attempt, so each of them gets the attempt as an
  argument.  What the loop does to the outside is the list of
  its calls, in order.

  Key definitions include:
    * `Value`, `Record`
    * `AttemptDecision`, `Callbacks`, `Call`
    * `aggregateRecoveries`
    * `executeAttempt`, `attemptLoop`, `runAttemptLoop`
    * `Stops`, `Reports`

  Key theorems include:
    * `attemptLoop_range`
    * `runAttemptLoop_reports`
-/

------------------------------------------------------------
-- Values
------------------------------------------------------------

namespace RsCamera

namespace Attempts

/- The values of summaries and records. -/
inductive Value
| none
| bool (flag : Bool)
| int (number : Int)
| float (number : ℚ)
| str (text : String)
| list (elements : List Value)
| dict (members : List (String × Value))

/- `bool` of a value. -/
def Value.truthy : Value → Bool
| .none => false
| .bool flag => flag
| .int number => number ≠ 0
| .float number => number ≠ 0
| .str text => text ≠ ""
| .list elements => !elements.isEmpty
| .dict members => !members.isEmpty

/- `str` of a value; the texts of the others are given. -/
def Value.text (shown : Value → String) : Value → String
| .str text => text
| value => shown value

/- A dictionary of JSON values. -/
abbrev Record : Type :=
  Dict String Value

/- The truth of a member, with a default. -/
def memberTruthy
    (record : Record)
    (key : String) : Bool :=
  (record.getD key (.bool false)).truthy

/- A path as its parts, without `.` and empty ones. -/
structure Path where
  absolute : Bool
  parts : List String
deriving DecidableEq

/- `path / name`. -/
def Path.join (path : Path) (name : String) : Path :=
  { path with parts := path.parts ++ [name] }

/- `str(path)`. -/
def Path.text (path : Path) : String :=
  if path.absolute then
    "/" ++ String.intercalate "/" path.parts
  else if path.parts = [] then
    "."
  else
    String.intercalate "/" path.parts

------------------------------------------------------------
-- Callbacks
------------------------------------------------------------

/- What `classify_attempt` answers, with its defaults. -/
structure AttemptDecision where
  success : Bool
  failurePhase : String
  retry : Bool
  recover : Bool := true
  error : String := ""
  metadata : Record := ∅

/- `before_attempt` returns nothing. -/
structure Callbacks where
  runAttempt : Nat → Path → String × Record
  classifyAttempt : Nat → Record → AttemptDecision
  recoverAttempt :
    Option (Nat → Record → Path → AttemptDecision → Record)
  beforeAttempt : Bool
  buildAttemptRecord :
    Option (Nat → Record → AttemptDecision → Record)

/- The arguments of `run_attempt_loop` besides the callbacks. -/
structure Config where
  recordDir : Path
  maxAttempts : Nat
  recoveryMethod : String
  recoverySettleSeconds : ℚ

/- A call of a callback or of the library, with its arguments. -/
inductive Call
| beforeAttempt (attempt : Nat) (attemptDir : Path)
| runAttempt (attempt : Nat) (attemptDir : Path)
| classifyAttempt (summary : Record)
| buildAttemptRecord
    (summary : Record)
    (decision : AttemptDecision)
| recoverAttempt
    (summary : Record)
    (attemptDir : Path)
    (decision : AttemptDecision)
| print (text : String)
| sleep (seconds : ℚ)

/- The fields of the result. -/
structure AttemptLoopResult where
  output : String
  summary : Record
  selectedAttempt : Nat
  selectedAttemptDir : Path
  attempts : List Record
  recoveries : List Record
  recovery : Record

------------------------------------------------------------
-- One Attempt
------------------------------------------------------------

section Attempt

variable (callbacks : Callbacks)
variable (config : Config)
variable (attempt : Nat)

/- `record_dir / f"attempt-{attempt}"`. -/
def attemptDir : Path :=
  config.recordDir.join ("attempt-" ++ toString attempt)

/- The output of the run of an attempt. -/
def attemptOutput : String :=
  (callbacks.runAttempt attempt
    (attemptDir config attempt)).1

/- The summary of the run of an attempt. -/
def attemptSummary : Record :=
  (callbacks.runAttempt attempt
    (attemptDir config attempt)).2

/- How the attempt is classified. -/
def attemptDecision : AttemptDecision :=
  callbacks.classifyAttempt attempt
    (attemptSummary callbacks config attempt)

/- The recovery of a failed attempt, when there is one. -/
def attemptRecovery : Option Record :=
  let decision := attemptDecision callbacks config attempt
  if !decision.success && decision.recover &&
      config.recoveryMethod ≠ "none" then
    callbacks.recoverAttempt.map (fun recoverAttempt =>
      recoverAttempt attempt
        (attemptSummary callbacks config attempt)
        (attemptDir config attempt) decision)
  else
    none

/- The record before the recovery is added to it. -/
def builtRecord : Record :=
  let decision := attemptDecision callbacks config attempt
  let record : Record :=
    ((∅ : Record).update
      [("attempt", .int attempt),
        ("success", .bool decision.success),
        ("failure_phase", .str decision.failurePhase),
        ("error", .str decision.error),
        ("record_data_dir",
          .str (attemptDir config attempt).text)]).update
      decision.metadata.items
  match callbacks.buildAttemptRecord with
  | none => record
  | some buildAttemptRecord =>
      record.update
        (buildAttemptRecord attempt
          (attemptSummary callbacks config attempt)
          decision).items

/-
  The record that is kept, with the recovery after the attempt.
-/
def attemptRecord : Record :=
  match attemptRecovery callbacks config attempt with
  | none => builtRecord callbacks config attempt
  | some recovery =>
      (builtRecord callbacks config attempt).set "recovery"
        (.dict recovery.items)

/- The line that announces a recovery. -/
def recoveryText (decision : AttemptDecision) : String :=
  "[RECOVERY] attempt " ++ toString attempt ++ "/" ++
    toString config.maxAttempts ++ " failed during " ++
    decision.failurePhase ++ ": " ++
    (if decision.error ≠ "" then
      decision.error
    else
      "workload failed")

/- The calls of an attempt, in order. -/
def attemptCalls : List Call :=
  let dir := attemptDir config attempt
  let summary := attemptSummary callbacks config attempt
  let decision := attemptDecision callbacks config attempt
  (if callbacks.beforeAttempt then
      [.beforeAttempt attempt dir]
    else
      []) ++
    [.runAttempt attempt dir, .classifyAttempt summary] ++
    (if callbacks.buildAttemptRecord.isSome then
      [.buildAttemptRecord summary decision]
    else
      []) ++
    (if (attemptRecovery callbacks config attempt).isSome then
      [.print (recoveryText config attempt decision),
        .recoverAttempt summary dir decision]
    else
      [])

/- What stands between an attempt and the next one. -/
def retryCalls : List Call :=
  .print
      ("[RETRY] repeating the same benchmark point as " ++
        "attempt " ++ toString (attempt + 1) ++ "/" ++
        toString config.maxAttempts) ::
    (if config.recoverySettleSeconds > 0 then
      [.sleep config.recoverySettleSeconds]
    else
      [])

end Attempt

------------------------------------------------------------
-- The Loop
------------------------------------------------------------

/- The variables `final_*` and `selected_*`. -/
structure Final where
  output : String
  summary : Record
  decision : AttemptDecision
  selectedAttempt : Nat
  selectedAttemptDir : Path

/- The variables of the loop, and the calls so far. -/
structure State where
  calls : List Call
  attempts : List Record
  recoveries : List Record
  final : Option Final

/- Before the first attempt. -/
def State.empty : State where
  calls := []
  attempts := []
  recoveries := []
  final := none

section Loop

variable (callbacks : Callbacks)
variable (config : Config)

/- What the loop remembers of its last attempt. -/
def finalOf (attempt : Nat) : Final where
  output := attemptOutput callbacks config attempt
  summary := attemptSummary callbacks config attempt
  decision := attemptDecision callbacks config attempt
  selectedAttempt := attempt
  selectedAttemptDir := attemptDir config attempt

/- One round, without the decision to go on. -/
def executeAttempt (attempt : Nat) (state : State) : State where
  calls := state.calls ++ attemptCalls callbacks config attempt
  attempts :=
    state.attempts ++ [attemptRecord callbacks config attempt]
  recoveries :=
    state.recoveries ++
      (attemptRecovery callbacks config attempt).toList
  final := some (finalOf callbacks config attempt)

/- The `for` loop with its `break`. -/
def attemptLoop : List Nat → State → State
| [], state => state
| attempt :: rest, state =>
    let decision := attemptDecision callbacks config attempt
    let state := executeAttempt callbacks config attempt state
    if !decision.success && decision.retry &&
        attempt < config.maxAttempts then
      attemptLoop rest
        { state with
          calls := state.calls ++ retryCalls config attempt }
    else
      state

end Loop

/-
  `aggregate_recoveries`: the errors in one text, and the last
  recovery on top.
-/
def aggregateRecoveries
    (shown : Value → String)
    (recoveryMethod : String)
    (recoveries : List Record) : Record :=
  let errors :=
    (recoveries.filter (fun item =>
      memberTruthy item "error")).map (fun item =>
        (item.getD "error" (.str "")).text shown)
  let aggregate : Record :=
    (∅ : Record).update
      [("attempted", .bool (!recoveries.isEmpty)),
        ("method", .str recoveryMethod),
        ("count", .int recoveries.length)]
  let aggregate :=
    if !recoveries.isEmpty then
      aggregate.set "success"
        (.bool (recoveries.all (fun item =>
          memberTruthy item "success")))
    else
      aggregate
  if !errors.isEmpty then
    aggregate.set "error"
      (.str (String.intercalate " | " errors))
  else
    aggregate

/- The seven entries that are added to the summary. -/
def summaryEntries
    (attempts : List Record)
    (final : Final)
    (recovery : Record) : List (String × Value) :=
  [("attempt_count", .int attempts.length),
    ("failed_attempt_count",
      .int (attempts.countP (fun item =>
        !memberTruthy item "success"))),
    ("initial_attempt_success",
      .bool ((attempts.head?.map (fun item =>
        memberTruthy item "success")).getD false)),
    ("eventual_success", .bool final.decision.success),
    ("selected_attempt", .int final.selectedAttempt),
    ("attempts",
      .list (attempts.map (fun item => .dict item.items))),
    ("recovery", .dict recovery.items)]

/- The end of `run_attempt_loop`. -/
def loopResult
    (shown : Value → String)
    (config : Config)
    (state : State)
    (final : Final) : AttemptLoopResult :=
  let recovery :=
    aggregateRecoveries shown config.recoveryMethod
      state.recoveries
  { output := final.output
    summary :=
      final.summary.update
        (summaryEntries state.attempts final recovery)
    selectedAttempt := final.selectedAttempt
    selectedAttemptDir := final.selectedAttemptDir
    attempts := state.attempts
    recoveries := state.recoveries
    recovery := recovery }

/- The result comes with the calls that were made. -/
def runAttemptLoop
    (shown : Value → String)
    (callbacks : Callbacks)
    (config : Config) :
    Except String (AttemptLoopResult × List Call) :=
  if config.maxAttempts < 1 then
    .error "max_attempts must be at least one"
  else
    let state :=
      attemptLoop callbacks config
        (List.range' 1 config.maxAttempts) State.empty
    match state.final with
    | none => .error "No benchmark attempt was executed"
    | some final =>
        .ok (loopResult shown config state final, state.calls)

------------------------------------------------------------
-- A Run Of The Loop
------------------------------------------------------------

section Run

variable (callbacks : Callbacks)
variable (config : Config)

/- The loop ends with this attempt when it gets to it. -/
def Stops (attempt : Nat) : Prop :=
  (attemptDecision callbacks config attempt).success = true ∨
    (attemptDecision callbacks config attempt).retry = false ∨
      attempt = config.maxAttempts

/- An attempt that failed and is to be recovered from. -/
def AsksRecovery (attempt : Nat) : Prop :=
  (attemptDecision callbacks config attempt).success = false ∧
    (attemptDecision callbacks config attempt).recover = true ∧
      config.recoveryMethod ≠ "none" ∧
        callbacks.recoverAttempt.isSome = true

instance (attempt : Nat) :
    Decidable (AsksRecovery callbacks config attempt) :=
  inferInstanceAs (Decidable (_ ∧ _ ∧ _ ∧ _))

/- The runs and the recoveries among the calls. -/
def Call.isAttempt : Call → Bool
| .runAttempt _ _ => true
| .recoverAttempt _ _ _ => true
| _ => false

/- The runs and the recoveries of one attempt. -/
def attemptSteps (attempt : Nat) : List Call :=
  .runAttempt attempt (attemptDir config attempt) ::
    (if AsksRecovery callbacks config attempt then
      [.recoverAttempt
        (attemptSummary callbacks config attempt)
        (attemptDir config attempt)
        (attemptDecision callbacks config attempt)]
    else
      [])

theorem attemptRecovery_isSome
    (attempt : Nat) :
    (attemptRecovery callbacks config attempt).isSome = true ↔
      AsksRecovery callbacks config attempt := by
  unfold attemptRecovery AsksRecovery
  simp only [Bool.and_eq_true, Bool.not_eq_true',
    decide_eq_true_eq]
  split
  next hAsks =>
    simp [hAsks]
  next hAsks =>
    simp only [Option.isSome_none, Bool.false_eq_true,
      false_iff]
    tauto

theorem filter_attemptCalls
    (attempt : Nat) :
    (attemptCalls callbacks config attempt).filter
        Call.isAttempt =
      attemptSteps callbacks config attempt := by
  have hRecovery :=
    attemptRecovery_isSome callbacks config attempt
  unfold attemptCalls attemptSteps
  simp only [List.filter_append, hRecovery]
  split <;> split <;> split <;>
    simp [Call.isAttempt, List.filter_cons]

theorem filter_retryCalls
    (attempt : Nat) :
    (retryCalls config attempt).filter Call.isAttempt = [] := by
  unfold retryCalls
  split <;> simp [Call.isAttempt]

/-
  The attempts from one of them to the last one.  The
  induction is on the number of attempts that are left.
-/
theorem attemptLoop_range
    (first count : Nat)
    (hLast : first + count = config.maxAttempts)
    (state : State) :
    ∃ more, more ≤ count ∧
      (∀ k < more, ¬Stops callbacks config (first + k)) ∧
      Stops callbacks config (first + more) ∧
      attemptLoop callbacks config
          (List.range' first (count + 1)) state =
        { calls :=
            state.calls ++
              ((List.range' first more).flatMap (fun k =>
                attemptCalls callbacks config k ++
                  retryCalls config k) ++
                attemptCalls callbacks config (first + more))
          attempts :=
            state.attempts ++
              (List.range' first (more + 1)).map
                (attemptRecord callbacks config)
          recoveries :=
            state.recoveries ++
              (List.range' first (more + 1)).flatMap (fun k =>
                (attemptRecovery callbacks config k).toList)
          final :=
            some (finalOf callbacks config (first + more)) } := by
  induction count generalizing first state with
  | zero =>
      refine ⟨0, le_refl 0, by simp, Or.inr (Or.inr hLast), ?_⟩
      have hEnd : ¬first < config.maxAttempts := by omega
      simp [attemptLoop, executeAttempt, hEnd]
  | succ count ih =>
      by_cases hStops : Stops callbacks config first
      · refine ⟨0, Nat.zero_le _, by simp, hStops, ?_⟩
        have hEnd :
            (!(attemptDecision callbacks config first).success &&
              (attemptDecision callbacks config first).retry &&
              decide (first < config.maxAttempts)) = false := by
          rcases hStops with hSuccess | hRetry | hMax
          · simp [hSuccess]
          · simp [hRetry]
          · simp [hMax]
        rw [List.range'_succ, attemptLoop]
        simp [hEnd, executeAttempt]
      · have hAgain :
            (!(attemptDecision callbacks config first).success &&
              (attemptDecision callbacks config first).retry &&
              decide (first < config.maxAttempts)) = true := by
          unfold Stops at hStops
          simp only [not_or, Bool.not_eq_true,
            Bool.not_eq_false] at hStops
          simp only [hStops.1, hStops.2.1, Bool.not_false,
            Bool.true_and, decide_eq_true_eq]
          omega
        rcases ih (first + 1) (by omega)
          { executeAttempt callbacks config first state with
            calls :=
              (executeAttempt callbacks config first
                state).calls ++ retryCalls config first } with
          ⟨more, hMore, hBefore, hHere, hRun⟩
        refine ⟨more + 1, by omega, ?_, ?_, ?_⟩
        · intro k hk
          cases k with
          | zero => exact hStops
          | succ k =>
              have hEarlier := hBefore k (by omega)
              rwa [Nat.add_right_comm] at hEarlier
        · rwa [Nat.add_right_comm] at hHere
        · rw [List.range'_succ, attemptLoop]
          simp only [hAgain, if_true]
          rw [hRun]
          simp [executeAttempt, List.range'_succ,
            Nat.add_assoc, Nat.add_comm 1 more]

end Run

------------------------------------------------------------
-- The Report
------------------------------------------------------------

/- Neither the metadata nor a builder redefines the key. -/
structure KeepsSuccess
    (callbacks : Callbacks)
    (config : Config) : Prop where
  metadata :
    ∀ attempt,
      "success" ∉
        (attemptDecision callbacks config
          attempt).metadata.keys
  builder :
    ∀ buildAttemptRecord ∈ callbacks.buildAttemptRecord,
      ∀ attempt,
        "success" ∉
          (buildAttemptRecord attempt
            (attemptSummary callbacks config attempt)
            (attemptDecision callbacks config attempt)).keys

/- The keys that the loop adds to the summary. -/
def reportedKeys : List String :=
  ["attempt_count", "failed_attempt_count",
    "initial_attempt_success", "eventual_success",
    "selected_attempt", "attempts", "recovery"]

/- What is returned and what was done when attempt `n` is last. -/
structure Reports
    (callbacks : Callbacks)
    (config : Config)
    (n : Nat)
    (result : AttemptLoopResult)
    (calls : List Call) : Prop where
  least : IsLeast {k | 1 ≤ k ∧ Stops callbacks config k} n
  steps :
    calls.filter Call.isAttempt =
      (List.range' 1 n).flatMap
        (attemptSteps callbacks config)
  output : result.output = attemptOutput callbacks config n
  summary :
    ∀ key, key ∉ reportedKeys →
      result.summary.get? key =
        (attemptSummary callbacks config n).get? key
  selectedAttempt : result.selectedAttempt = n
  selectedAttemptDir :
    result.selectedAttemptDir = attemptDir config n
  attempts :
    result.attempts =
      (List.range' 1 n).map (attemptRecord callbacks config)
  attemptCount :
    result.summary.get? "attempt_count" = some (.int n)
  initialAttemptSuccess :
    result.summary.get? "initial_attempt_success" =
      some (.bool (attemptDecision callbacks config 1).success)
  eventualSuccess :
    result.summary.get? "eventual_success" =
      some (.bool (attemptDecision callbacks config n).success)
  failedAttemptCount :
    result.summary.get? "failed_attempt_count" =
      some
        (.int
          (if (attemptDecision callbacks config n).success then
            n - 1
          else
            n))
  summarySelectedAttempt :
    result.summary.get? "selected_attempt" = some (.int n)

section Report

variable {callbacks : Callbacks}
variable {config : Config}

theorem builtRecord_success
    (hKeeps : KeepsSuccess callbacks config)
    (attempt : Nat) :
    (builtRecord callbacks config attempt).get? "success" =
      some
        (.bool
          (attemptDecision callbacks config attempt).success) := by
  have hMetadata := hKeeps.metadata attempt
  unfold builtRecord
  cases hBuilder : callbacks.buildAttemptRecord with
  | none =>
      simp only
      rw [Dict.get?_update_of_not_mem hMetadata]
      simp [Dict.update, Dict.get?_set]
  | some buildAttemptRecord =>
      have hRecord :=
        hKeeps.builder buildAttemptRecord hBuilder attempt
      simp only
      rw [Dict.get?_update_of_not_mem hRecord,
        Dict.get?_update_of_not_mem hMetadata]
      simp [Dict.update, Dict.get?_set]

theorem attemptRecord_success
    (hKeeps : KeepsSuccess callbacks config)
    (attempt : Nat) :
    memberTruthy (attemptRecord callbacks config attempt)
        "success" =
      (attemptDecision callbacks config attempt).success := by
  unfold memberTruthy attemptRecord Dict.getD
  cases attemptRecovery callbacks config attempt with
  | none =>
      simp [builtRecord_success hKeeps, Value.truthy]
  | some recovery =>
      simp [Dict.get?_set, builtRecord_success hKeeps,
        Value.truthy]

/- All attempts before the last one failed. -/
theorem countP_failed
    (hKeeps : KeepsSuccess callbacks config)
    {more : Nat}
    (hBefore :
      ∀ k < more, ¬Stops callbacks config (1 + k)) :
    ((List.range' 1 (more + 1)).map
        (attemptRecord callbacks config)).countP
        (fun item => !memberTruthy item "success") =
      if (attemptDecision callbacks config (1 + more)).success
      then more else more + 1 := by
  have hFailed :
      ∀ k ∈ List.range' 1 more,
        (attemptDecision callbacks config k).success =
          false := by
    intro k hk
    simp only [List.mem_range'_1] at hk
    have hNot := hBefore (k - 1) (by omega)
    rw [Nat.add_sub_cancel' hk.1] at hNot
    unfold Stops at hNot
    simp only [not_or, Bool.not_eq_true] at hNot
    exact hNot.1
  have hAll :
      (List.range' 1 more).countP (fun k =>
        !(attemptDecision callbacks config k).success) =
        more := by
    rw [List.countP_eq_length.mpr]
    · simp
    · intro k hk
      simp [hFailed k hk]
  rw [List.countP_map, List.range'_concat,
    List.countP_append]
  simp only [Function.comp_def, attemptRecord_success hKeeps,
    hAll, Nat.one_mul, List.countP_singleton,
    Bool.not_eq_true']
  split <;> simp_all

theorem get?_summaryEntries
    (summary : Record)
    (attempts : List Record)
    (final : Final)
    (recovery : Record)
    {key : String}
    (hKey : key ∉ reportedKeys) :
    (summary.update
        (summaryEntries attempts final recovery)).get? key =
      summary.get? key := by
  apply Dict.get?_update_of_not_mem
  simpa [summaryEntries, reportedKeys] using hKey

/- The state of a loop that has come to its end. -/
structure Ended
    (callbacks : Callbacks)
    (config : Config)
    (more : Nat)
    (state : State) : Prop where
  before : ∀ k < more, ¬Stops callbacks config (1 + k)
  here : Stops callbacks config (1 + more)
  final : state.final = some (finalOf callbacks config (1 + more))
  steps :
    state.calls.filter Call.isAttempt =
      (List.range' 1 (1 + more)).flatMap
        (attemptSteps callbacks config)
  attempts :
    state.attempts =
      (List.range' 1 (1 + more)).map
        (attemptRecord callbacks config)

theorem attemptLoop_ended
    (hMax : 1 ≤ config.maxAttempts) :
    ∃ more, Ended callbacks config more
      (attemptLoop callbacks config
        (List.range' 1 config.maxAttempts) State.empty) := by
  rcases attemptLoop_range callbacks config 1
    (config.maxAttempts - 1) (by omega) State.empty with
    ⟨more, hMore, hBefore, hHere, hRun⟩
  rw [Nat.sub_add_cancel hMax] at hRun
  refine ⟨more, ?_⟩
  rw [hRun]
  constructor
  case before => exact hBefore
  case here => exact hHere
  case final => rfl
  case steps =>
    simp only [State.empty, List.nil_append,
      List.filter_append, List.filter_flatMap,
      filter_attemptCalls, filter_retryCalls,
      List.append_nil]
    rw [Nat.add_comm 1 more, List.range'_concat,
      List.flatMap_append]
    simp [Nat.add_comm]
  case attempts => simp [State.empty, Nat.add_comm]

/- What the end of a loop reports. -/
theorem Ended.reports
    {more : Nat}
    {state : State}
    (hEnded : Ended callbacks config more state)
    (hKeeps : KeepsSuccess callbacks config)
    (shown : Value → String) :
    Reports callbacks config (1 + more)
      (loopResult shown config state
        (finalOf callbacks config (1 + more)))
      state.calls := by
  unfold loopResult
  constructor
  case least =>
    refine ⟨⟨Nat.le_add_right 1 more, hEnded.here⟩, ?_⟩
    rintro k ⟨hOne, hStops⟩
    by_contra hLess
    apply hEnded.before (k - 1) (by omega)
    rwa [Nat.add_sub_cancel' hOne]
  case steps => exact hEnded.steps
  case output => rfl
  case summary =>
    intro key hKey
    exact get?_summaryEntries _ _ _ _ hKey
  case selectedAttempt => rfl
  case selectedAttemptDir => rfl
  case attempts => exact hEnded.attempts
  case attemptCount =>
    simp [Dict.update, summaryEntries, Dict.get?_set,
      hEnded.attempts]
  case initialAttemptSuccess =>
    simp [Dict.update, summaryEntries, Dict.get?_set,
      hEnded.attempts, Nat.add_comm 1 more, List.range'_succ,
      attemptRecord_success hKeeps]
  case eventualSuccess =>
    simp [Dict.update, summaryEntries, Dict.get?_set,
      finalOf]
  case failedAttemptCount =>
    have hFailed := countP_failed hKeeps hEnded.before
    rw [Nat.add_comm more 1] at hFailed
    simp only [Dict.update, summaryEntries, hEnded.attempts,
      hFailed]
    split <;> simp [Dict.get?_set]
  case summarySelectedAttempt =>
    simp [Dict.update, summaryEntries, Dict.get?_set,
      finalOf]

theorem Ended.run
    {more : Nat}
    (hMax : 1 ≤ config.maxAttempts)
    (hEnded :
      Ended callbacks config more
        (attemptLoop callbacks config
          (List.range' 1 config.maxAttempts) State.empty))
    (shown : Value → String) :
    runAttemptLoop shown callbacks config =
      .ok
        (loopResult shown config
          (attemptLoop callbacks config
            (List.range' 1 config.maxAttempts) State.empty)
          (finalOf callbacks config (1 + more)),
        (attemptLoop callbacks config
          (List.range' 1 config.maxAttempts)
            State.empty).calls) := by
  unfold runAttemptLoop
  rw [if_neg (by omega)]
  simp only [hEnded.final]

/-
  For every sequence of outcomes the loop runs up to the
  first attempt that stops it and reports on it.
-/
theorem runAttemptLoop_reports
    (shown : Value → String)
    (callbacks : Callbacks)
    (config : Config)
    (hMax : 1 ≤ config.maxAttempts)
    (hKeeps : KeepsSuccess callbacks config) :
    ∃ n result calls,
      runAttemptLoop shown callbacks config =
        .ok (result, calls) ∧
      Reports callbacks config n result calls := by
  rcases attemptLoop_ended hMax with ⟨more, hEnded⟩
  exact ⟨1 + more, _, _, hEnded.run hMax shown,
    hEnded.reports hKeeps shown⟩

end Report

/- A startup that fails once and succeeds after a recovery. -/
def secondSucceeds : Callbacks where
  runAttempt attempt _ :=
    ("attempt " ++ toString attempt,
      (∅ : Record).set "success" (.bool (attempt = 2)))
  classifyAttempt _ summary :=
    let success := memberTruthy summary "success"
    { success := success
      failurePhase := if success then "none" else "startup"
      retry := !success }
  recoverAttempt :=
    some (fun _ _ _ _ =>
      (∅ : Record).set "success" (.bool true))
  beforeAttempt := false
  buildAttemptRecord := none

/- Three attempts, and no pause after a recovery. -/
def threeAttempts : Config where
  recordDir := { absolute := true, parts := ["data"] }
  maxAttempts := 3
  recoveryMethod := "full-reset"
  recoverySettleSeconds := 0

theorem secondSucceeds_reports :
    ∃ n result calls,
      runAttemptLoop (fun _ => "") secondSucceeds
          threeAttempts =
        .ok (result, calls) ∧
      Reports secondSucceeds threeAttempts n result calls := by
  apply runAttemptLoop_reports (fun _ => "") secondSucceeds
    threeAttempts (by decide)
  constructor
  · intro attempt
    simp [attemptDecision, secondSucceeds, Dict.keys]
  · simp [secondSucceeds]

end Attempts

end RsCamera
