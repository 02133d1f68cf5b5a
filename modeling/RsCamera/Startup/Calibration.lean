import Mathlib.Data.Rat.Floor
import Mathlib.Data.List.Sort
import Mathlib.Tactic.Linarith
import RsCamera.Lib.Containers

/-
  The calibration of the startup timings
  (`calibrate_startup_timings.py`).

  Four stages try candidates for one setting each, and a
  last stage validates the selected values together.  The
  timeouts are selected once more behind it, because they
  have to cover the waits of the validation as well.

  The outcome of a trial is given by the number of trials
  before it.

  Key definitions include:
    * `Outcome`, `TrialRow`, `executeStage`
    * `summarizeCandidates`
    * `calibrate`

  Key theorems include:
    * `executeStage_eq`
    * `selected_mono`
    * `calibrate_validated`
-/

------------------------------------------------------------
-- Trials
------------------------------------------------------------

namespace RsCamera

namespace Startup

/- The stages of the calibration. -/
inductive CalibrationStage
| settle
| frame
| join
| cycle
| validation
deriving DecidableEq, Repr

/- The name of a stage in the rows. -/
def CalibrationStage.name : CalibrationStage → String
| .settle => "recovery_settle_ms"
| .frame => "frame_timeout_ms"
| .join => "join_timeout_ms"
| .cycle => "cycle_delay_ms"
| .validation => "combined_validation"

/- The timings that a trial runs with. -/
structure TimingSettings where
  frameTimeoutMs : Int
  joinTimeoutMs : Int
  cycleDelayMs : Int
deriving DecidableEq, Repr

/- The waits that the probe reports for a cycle. -/
structure CycleTimes where
  firstFrameWaitMs : Option ℚ
  joinWaitMs : Option ℚ

/- `metric` with the operation `max`. -/
def metricMax
    (field : CycleTimes → Option ℚ)
    (cycles : List CycleTimes) : ℚ :=
  (cycles.filterMap field).max?.getD 0

/- The reset of the camera, and the probe when it was run. -/
structure Outcome where
  resetSuccess : Bool
  hardwareResetMs : ℚ
  enumerationMs : ℚ
  success : Bool
  cyclesCompleted : Nat
  elapsedMs : ℚ
  cycles : List CycleTimes

/- The row of a trial. -/
structure TrialRow where
  stage : CalibrationStage
  candidateMs : Int
  trial : Nat
  success : Bool
  cyclesCompleted : Nat
  elapsedMs : ℚ
  cycles : List CycleTimes
  hardwareResetMs : ℚ
  enumerationMs : ℚ
  settleMs : Int
  settings : TimingSettings

/- The longest wait for a first frame. -/
def TrialRow.firstFrameWaitMsMax (row : TrialRow) : ℚ :=
  metricMax CycleTimes.firstFrameWaitMs row.cycles

/- The longest wait for the threads to end. -/
def TrialRow.joinWaitMsMax (row : TrialRow) : ℚ :=
  metricMax CycleTimes.joinWaitMs row.cycles

/- The settings with the candidate of the stage. -/
def currentSettings
    (stage : CalibrationStage)
    (candidate : Int)
    (settings : TimingSettings) : TimingSettings :=
  match stage with
  | .frame => { settings with frameTimeoutMs := candidate }
  | .join => { settings with joinTimeoutMs := candidate }
  | .cycle => { settings with cycleDelayMs := candidate }
  | _ => settings

/- `run_trial`; the outcome is an input. -/
def runTrial
    (stage : CalibrationStage)
    (settings : TimingSettings)
    (defaultSettleMs : Int)
    (candidate : Int)
    (trial : Nat)
    (outcome : Outcome) : TrialRow where
  stage := stage
  candidateMs := candidate
  trial := trial
  success := outcome.resetSuccess && outcome.success
  cyclesCompleted :=
    if outcome.resetSuccess then outcome.cyclesCompleted else 0
  elapsedMs :=
    if outcome.resetSuccess then outcome.elapsedMs else 0
  cycles := if outcome.resetSuccess then outcome.cycles else []
  hardwareResetMs := outcome.hardwareResetMs
  enumerationMs := outcome.enumerationMs
  settleMs :=
    if stage = .settle then candidate else defaultSettleMs
  settings := currentSettings stage candidate settings

/- The two loops of `execute_stage`. -/
def stageTrials
    (candidates : List Int)
    (trials : Nat) : List (Int × Nat) :=
  candidates.flatMap (fun candidate =>
    (List.range' 1 trials).map (fun trial =>
      (candidate, trial)))

/- The rows with those of a stage behind them. -/
def executeStage
    (outcomes : Nat → Outcome)
    (stage : CalibrationStage)
    (candidates : List Int)
    (settings : TimingSettings)
    (defaultSettleMs : Int)
    (trials : Nat)
    (rows : List TrialRow) : List TrialRow :=
  (stageTrials candidates trials).foldl
    (fun rows pair =>
      rows ++
        [runTrial stage settings defaultSettleMs pair.1 pair.2
          (outcomes rows.length)])
    rows

------------------------------------------------------------
-- Candidates
------------------------------------------------------------

/- `unique_candidates`. -/
def uniqueCandidates
    (values : List Int)
    (allowZero : Bool) : Except String (List Int) :=
  let result :=
    values.dedup.insertionSort (fun left right => left ≤ right)
  let minimum : Int := if allowZero then 0 else 1
  if result = [] then
    .error "candidate list cannot be empty"
  else if result.any (fun value => value < minimum) then
    .error
      ("candidate values must be " ++
        (if allowZero then "non-negative" else "positive"))
  else
    .ok result

/- The summary of a candidate. -/
structure CandidateSummary where
  stage : CalibrationStage
  candidateMs : Int
  trials : Nat
  successfulTrials : Nat
  cyclesRequested : Nat
  cyclesCompleted : Nat
  observedSuccess : Bool
  headroomRequiredMs : Int
  qualified : Bool
  firstFrameWaitMsMax : ℚ
  joinWaitMsMax : ℚ
  elapsedMsTotal : ℚ

/- The greatest value of a column, zero without rows. -/
def columnMax
    (column : TrialRow → ℚ)
    (rows : List TrialRow) : ℚ :=
  (rows.map column).max?.getD 0

/- The probe looks every five milliseconds. -/
def joinPollMs : ℚ := 5

/- The time that a stage needs, with the safety factor. -/
def headroomRequired
    (stage : CalibrationStage)
    (safetyFactor : ℚ)
    (headroomRows : List TrialRow) : Int :=
  match stage with
  | .frame =>
      ⌈columnMax TrialRow.firstFrameWaitMsMax headroomRows *
        safetyFactor⌉
  | .join =>
      ⌈columnMax TrialRow.joinWaitMsMax headroomRows *
        safetyFactor + joinPollMs⌉
  | _ => 0

/- A candidate passes if its trials do, with headroom. -/
def summarizeCandidate
    (stage : CalibrationStage)
    (rows : List TrialRow)
    (trials cyclesPerTrial : Nat)
    (safetyFactor : ℚ)
    (headroomRows : Option (List TrialRow))
    (candidate : Int) : CandidateSummary :=
  let selected :=
    rows.filter (fun row =>
      row.stage = stage ∧ row.candidateMs = candidate)
  let successfulTrials := selected.countP TrialRow.success
  let cyclesCompleted :=
    (selected.map TrialRow.cyclesCompleted).sum
  let observedSuccess :=
    selected.length = trials ∧ successfulTrials = trials ∧
      cyclesCompleted = trials * cyclesPerTrial
  let required :=
    headroomRequired stage safetyFactor
      (headroomRows.getD selected)
  { stage := stage
    candidateMs := candidate
    trials := selected.length
    successfulTrials := successfulTrials
    cyclesRequested := trials * cyclesPerTrial
    cyclesCompleted := cyclesCompleted
    observedSuccess := observedSuccess
    headroomRequiredMs := required
    qualified := observedSuccess ∧ candidate ≥ required
    firstFrameWaitMsMax :=
      columnMax TrialRow.firstFrameWaitMsMax selected
    joinWaitMsMax := columnMax TrialRow.joinWaitMsMax selected
    elapsedMsTotal := (selected.map TrialRow.elapsedMs).sum }

/- `summarize_candidates`: the first that passes is selected. -/
def summarizeCandidates
    (stage : CalibrationStage)
    (candidates : List Int)
    (rows : List TrialRow)
    (trials cyclesPerTrial : Nat)
    (safetyFactor : ℚ)
    (headroomRows : Option (List TrialRow)) :
    List CandidateSummary × Option Int :=
  let summaries :=
    candidates.map
      (summarizeCandidate stage rows trials cyclesPerTrial
        safetyFactor headroomRows)
  (summaries,
    ((summaries.filter CandidateSummary.qualified).map
      CandidateSummary.candidateMs).min?)

/- The value, rounded up to full hundreds. -/
def roundedTimeout
    (observedMs safetyFactor : ℚ)
    (floorMs : Int) : Int :=
  let value := max floorMs ⌈observedMs * safetyFactor + 1000⌉
  ⌈(value : ℚ) / 100⌉ * 100

------------------------------------------------------------
-- The Calibration
------------------------------------------------------------

/- The options of the command line. -/
structure CalibrationOptions where
  frames : Nat
  cyclesPerTrial : Nat
  trials : Nat
  validationTrials : Nat
  safetyFactor : ℚ
  settleCandidatesMs : List Int
  frameTimeoutCandidatesMs : List Int
  joinTimeoutCandidatesMs : List Int
  cycleDelayCandidatesMs : List Int
  resetTimeoutMs : Nat
  enumerationTimeoutMs : Nat

/- The checks of `main`, in their order. -/
def checkOptions
    (options : CalibrationOptions) : Except String Unit :=
  if options.frames < 1 ∨ options.cyclesPerTrial < 1 then
    .error "--frames and --cycles-per-trial must be positive"
  else if options.trials < 1 ∨ options.validationTrials < 1 then
    .error "--trials and --validation-trials must be positive"
  else if options.safetyFactor < 1 then
    .error "--safety-factor must be at least 1"
  else if options.resetTimeoutMs < 1 ∨
      options.enumerationTimeoutMs < 1 then
    .error "reset and enumeration timeouts must be positive"
  else
    .ok ()

/- The timings that were selected. -/
structure TimingSelection where
  frameTimeoutMs : Option Int
  joinTimeoutMs : Option Int
  cycleDelayMs : Option Int
  recoverySettleMs : Option Int
  resetTimeoutMs : Int
  enumerationTimeoutMs : Int

/- The rows and what `recommendation.json` says. -/
structure Calibration where
  rows : List TrialRow
  validated : Bool
  successfulValidationTrials : Nat
  selection : TimingSelection
  validationSettings : TimingSettings
  validationSettleMs : Int

/- The largest candidate. -/
def greatest (candidates : List Int) : Int :=
  candidates.max?.getD 0

/- The rows of the last stage. -/
def validationRows (rows : List TrialRow) : List TrialRow :=
  rows.filter (fun row => row.stage = .validation)

/- The sorted candidates of the four stages. -/
structure StageCandidates where
  settle : List Int
  frame : List Int
  join : List Int
  cycle : List Int

/- Timings that are surely long enough. -/
def safeSettings (candidates : StageCandidates) : TimingSettings where
  frameTimeoutMs := max 3000 (greatest candidates.frame)
  joinTimeoutMs := max 100 (greatest candidates.join)
  cycleDelayMs := greatest candidates.cycle

section Stages

variable (options : CalibrationOptions)
variable (outcomes : Nat → Outcome)
variable (candidates : StageCandidates)

/- The selection of a stage from the rows. -/
def selectCandidate
    (stage : CalibrationStage)
    (values : List Int)
    (rows : List TrialRow)
    (headroomRows : Option (List TrialRow)) : Option Int :=
  (summarizeCandidates stage values rows options.trials
    options.cyclesPerTrial options.safetyFactor
    headroomRows).2

/- What the four stages give. -/
structure StageResults where
  rows : List TrialRow
  selectedSettle : Option Int
  effectiveSettle : Int
  selectedCycle : Option Int
  effectiveCycle : Int

/- The stages, each with what was selected before. -/
def runStages : StageResults :=
  let safe := safeSettings candidates
  let settleRows :=
    executeStage outcomes .settle candidates.settle safe
      (greatest candidates.settle) options.trials []
  let selectedSettle :=
    selectCandidate options .settle candidates.settle
      settleRows none
  let effectiveSettle :=
    selectedSettle.getD (greatest candidates.settle)
  let frameRows :=
    executeStage outcomes .frame candidates.frame safe
      effectiveSettle options.trials settleRows
  let effectiveFrame :=
    (selectCandidate options .frame candidates.frame frameRows
      none).getD (max 3000 (greatest candidates.frame))
  let joinSettings :=
    { safe with frameTimeoutMs := effectiveFrame }
  let joinRows :=
    executeStage outcomes .join candidates.join joinSettings
      effectiveSettle options.trials frameRows
  let effectiveJoin :=
    (selectCandidate options .join candidates.join joinRows
      none).getD (max 100 (greatest candidates.join))
  let cycleSettings :=
    { joinSettings with joinTimeoutMs := effectiveJoin }
  let cycleRows :=
    executeStage outcomes .cycle candidates.cycle cycleSettings
      effectiveSettle options.trials joinRows
  let selectedCycle :=
    selectCandidate options .cycle candidates.cycle cycleRows
      none
  { rows := cycleRows
    selectedSettle := selectedSettle
    effectiveSettle := effectiveSettle
    selectedCycle := selectedCycle
    effectiveCycle :=
      selectedCycle.getD (greatest candidates.cycle) }

/- The timeouts that cover all rows. -/
def selectFrame (rows : List TrialRow) : Option Int :=
  selectCandidate options .frame candidates.frame rows
    (some rows)

/- The time for the threads to end. -/
def selectJoin (rows : List TrialRow) : Option Int :=
  selectCandidate options .join candidates.join rows
    (some rows)

/- The settings that are validated. -/
def validationSettings
    (stages : StageResults) : TimingSettings where
  frameTimeoutMs :=
    (selectFrame options candidates stages.rows).getD
      (max 3000 (greatest candidates.frame))
  joinTimeoutMs :=
    (selectJoin options candidates stages.rows).getD
      (max 100 (greatest candidates.join))
  cycleDelayMs := stages.effectiveCycle

/- The selected timings together. -/
def validate (stages : StageResults) : List TrialRow :=
  executeStage outcomes .validation [0]
    (validationSettings options candidates stages)
    stages.effectiveSettle options.validationTrials stages.rows

/- What follows from the rows of all five stages. -/
def recommend
    (stages : StageResults)
    (rows : List TrialRow) : Calibration :=
  let selectedFrame := selectFrame options candidates rows
  let selectedJoin := selectJoin options candidates rows
  { rows := rows
    validated :=
      (validationRows rows).length = options.validationTrials ∧
        (validationRows rows).all TrialRow.success ∧
        selectedFrame.isSome ∧ selectedJoin.isSome ∧
        stages.selectedCycle.isSome ∧
        stages.selectedSettle.isSome
    successfulValidationTrials :=
      (validationRows rows).countP TrialRow.success
    selection :=
      { frameTimeoutMs := selectedFrame
        joinTimeoutMs := selectedJoin
        cycleDelayMs := stages.selectedCycle
        recoverySettleMs := stages.selectedSettle
        resetTimeoutMs :=
          roundedTimeout
            (columnMax TrialRow.hardwareResetMs rows)
            options.safetyFactor 5000
        enumerationTimeoutMs :=
          roundedTimeout
            (columnMax TrialRow.enumerationMs rows)
            options.safetyFactor 1000 }
    validationSettings :=
      validationSettings options candidates stages
    validationSettleMs := stages.effectiveSettle }

end Stages

/- The candidates of all stages. -/
def stageCandidates
    (options : CalibrationOptions) :
    Except String StageCandidates := do
  let settle ← uniqueCandidates options.settleCandidatesMs true
  let frame ←
    uniqueCandidates options.frameTimeoutCandidatesMs false
  let join ←
    uniqueCandidates options.joinTimeoutCandidatesMs true
  let cycle ←
    uniqueCandidates options.cycleDelayCandidatesMs true
  .ok
    { settle := settle
      frame := frame
      join := join
      cycle := cycle }

/- `main`, without the files. -/
def calibrate
    (options : CalibrationOptions)
    (outcomes : Nat → Outcome) : Except String Calibration := do
  checkOptions options
  let candidates ← stageCandidates options
  let stages := runStages options outcomes candidates
  .ok
    (recommend options candidates stages
      (validate options outcomes candidates stages))

------------------------------------------------------------
-- Rows And Maxima
------------------------------------------------------------

/- A stage adds its rows behind those that are there. -/
theorem executeStage_eq
    (outcomes : Nat → Outcome)
    (stage : CalibrationStage)
    (candidates : List Int)
    (settings : TimingSettings)
    (defaultSettleMs : Int)
    (trials : Nat)
    (rows : List TrialRow) :
    ∃ new,
      executeStage outcomes stage candidates settings
          defaultSettleMs trials rows =
        rows ++ new ∧
      new.length = (stageTrials candidates trials).length ∧
      ∀ row ∈ new, ∃ candidate trial outcome,
        row =
          runTrial stage settings defaultSettleMs candidate
            trial outcome := by
  unfold executeStage
  induction stageTrials candidates trials generalizing rows with
  | nil => exact ⟨[], by simp, rfl, by simp⟩
  | cons pair pairs ih =>
      rcases ih (rows ++
        [runTrial stage settings defaultSettleMs pair.1 pair.2
          (outcomes rows.length)]) with
        ⟨new, hRows, hLength, hNew⟩
      refine ⟨runTrial stage settings defaultSettleMs pair.1
        pair.2 (outcomes rows.length) :: new, ?_, ?_, ?_⟩
      · rw [List.foldl_cons, hRows]
        simp
      · simp [hLength]
      · intro row hRow
        rcases List.mem_cons.mp hRow with hFirst | hLater
        · exact ⟨_, _, _, hFirst⟩
        · exact hNew row hLater

theorem le_max?_getD
    {values : List ℚ}
    {value : ℚ}
    (hValue : value ∈ values) :
    value ≤ values.max?.getD 0 := by
  cases hMax : values.max? with
  | none =>
      rw [List.max?_eq_none_iff] at hMax
      simp [hMax] at hValue
  | some top =>
      exact (List.max?_eq_some_iff.mp hMax).2 value hValue

section Columns

variable {column : TrialRow → ℚ}
variable {rows : List TrialRow}

theorem le_columnMax
    {row : TrialRow}
    (hRow : row ∈ rows) :
    column row ≤ columnMax column rows :=
  le_max?_getD (List.mem_map_of_mem hRow)

theorem columnMax_mem
    (hRows : rows ≠ []) :
    ∃ row ∈ rows, column row = columnMax column rows := by
  unfold columnMax
  cases hMax : (rows.map column).max? with
  | none =>
      rw [List.max?_eq_none_iff] at hMax
      exact absurd (List.map_eq_nil_iff.mp hMax) hRows
  | some top =>
      have hTop := (List.max?_eq_some_iff.mp hMax).1
      exact List.mem_map.mp hTop

theorem columnMax_mono
    (hRows : rows ≠ [])
    (more : List TrialRow) :
    columnMax column rows ≤ columnMax column (rows ++ more) := by
  rcases @columnMax_mem column rows hRows with
    ⟨row, hRow, hTop⟩
  rw [← hTop]
  exact le_columnMax (List.mem_append_left _ hRow)

end Columns

/- The headroom that a column of waits asks for. -/
theorem headroomRequired_mono
    (stage : CalibrationStage)
    {safetyFactor : ℚ}
    (hFactor : 0 ≤ safetyFactor)
    {rows : List TrialRow}
    (hRows : rows ≠ [])
    (more : List TrialRow) :
    headroomRequired stage safetyFactor rows ≤
      headroomRequired stage safetyFactor (rows ++ more) := by
  cases stage with
  | frame =>
      apply Int.ceil_mono
      exact mul_le_mul_of_nonneg_right
        (columnMax_mono hRows more) hFactor
  | join =>
      apply Int.ceil_mono
      have hMax :=
        mul_le_mul_of_nonneg_right
          (@columnMax_mono TrialRow.joinWaitMsMax rows hRows
            more) hFactor
      linarith
  | settle => exact le_refl _
  | cycle => exact le_refl _
  | validation => exact le_refl _

------------------------------------------------------------
-- Selections
------------------------------------------------------------

section

variable {options : CalibrationOptions}
variable {stage : CalibrationStage}
variable {values : List Int}

/- All trials of a candidate were complete. -/
def ObservedSuccess
    (options : CalibrationOptions)
    (stage : CalibrationStage)
    (rows : List TrialRow)
    (candidate : Int) : Prop :=
  let selected :=
    rows.filter (fun row =>
      row.stage = stage ∧ row.candidateMs = candidate)
  selected.length = options.trials ∧
    selected.countP TrialRow.success = options.trials ∧
    (selected.map TrialRow.cyclesCompleted).sum =
      options.trials * options.cyclesPerTrial

/- The least candidate that qualifies is selected. -/
theorem selectCandidate_eq_some
    {rows headroomRows : List TrialRow}
    {candidate : Int} :
    selectCandidate options stage values rows
        (some headroomRows) = some candidate ↔
      (candidate ∈ values ∧
        ObservedSuccess options stage rows candidate ∧
        headroomRequired stage options.safetyFactor
            headroomRows ≤ candidate) ∧
      ∀ other ∈ values,
        ObservedSuccess options stage rows other →
        headroomRequired stage options.safetyFactor
            headroomRows ≤ other →
        candidate ≤ other := by
  unfold selectCandidate summarizeCandidates
  simp only [List.min?_eq_some_iff, List.mem_map,
    List.mem_filter]
  constructor
  · rintro ⟨⟨summary, ⟨⟨value, hValue, hIs⟩, hQualified⟩,
      hCandidate⟩, hLeast⟩
    subst hIs
    simp only [summarizeCandidate, Option.getD_some,
      decide_eq_true_eq] at hCandidate hQualified
    subst hCandidate
    refine ⟨⟨hValue, hQualified⟩, ?_⟩
    intro other hOther hObserved hHeadroom
    apply hLeast
    refine ⟨_, ⟨⟨other, hOther, rfl⟩, ?_⟩, rfl⟩
    simp only [summarizeCandidate, Option.getD_some,
      decide_eq_true_eq]
    exact ⟨hObserved, hHeadroom⟩
  · rintro ⟨⟨hValue, hObserved, hHeadroom⟩, hLeast⟩
    constructor
    · refine ⟨_, ⟨⟨candidate, hValue, rfl⟩, ?_⟩, rfl⟩
      simp only [summarizeCandidate, Option.getD_some,
        decide_eq_true_eq]
      exact ⟨hObserved, hHeadroom⟩
    · rintro other ⟨summary, ⟨⟨value, hOther, hIs⟩,
        hQualified⟩, hCandidate⟩
      subst hIs
      simp only [summarizeCandidate, Option.getD_some,
        decide_eq_true_eq] at hCandidate hQualified
      subst hCandidate
      exact hLeast value hOther hQualified.1 hQualified.2

/- Without a selection no candidate qualifies. -/
theorem selectCandidate_eq_none
    {rows headroomRows : List TrialRow}
    (hNone :
      selectCandidate options stage values rows
        (some headroomRows) = none)
    {candidate : Int}
    (hCandidate : candidate ∈ values)
    (hObserved :
      ObservedSuccess options stage rows candidate) :
    ¬headroomRequired stage options.safetyFactor
        headroomRows ≤ candidate := by
  intro hHeadroom
  unfold selectCandidate summarizeCandidates at hNone
  simp only [List.min?_eq_none_iff, List.map_eq_nil_iff,
    List.filter_eq_nil_iff] at hNone
  apply hNone _ (List.mem_map_of_mem hCandidate)
  simp only [summarizeCandidate, Option.getD_some,
    decide_eq_true_eq]
  exact ⟨hObserved, hHeadroom⟩

/- Rows of another stage do not count as observations. -/
theorem observedSuccess_append
    {rows more : List TrialRow}
    (hMore : ∀ row ∈ more, row.stage ≠ stage)
    (candidate : Int) :
    ObservedSuccess options stage (rows ++ more) candidate ↔
      ObservedSuccess options stage rows candidate := by
  have hNone :
      more.filter (fun row =>
        row.stage = stage ∧ row.candidateMs = candidate) =
        [] := by
    rw [List.filter_eq_nil_iff]
    intro row hRow
    simp [hMore row hRow]
  unfold ObservedSuccess
  simp only [List.filter_append, hNone, List.append_nil]

/-
  More rows ask for more headroom: a selection that still
  stands is not smaller than the one before.
-/
theorem selected_mono
    (hTrials : 1 ≤ options.trials)
    (hFactor : 0 ≤ options.safetyFactor)
    {rows more : List TrialRow}
    (hMore : ∀ row ∈ more, row.stage ≠ stage)
    {final : Int}
    (hFinal :
      selectCandidate options stage values (rows ++ more)
        (some (rows ++ more)) = some final) :
    ∃ early,
      selectCandidate options stage values rows
        (some rows) = some early ∧
      early ≤ final ∧
      (early = final ↔
        headroomRequired stage options.safetyFactor
          (rows ++ more) ≤ early) := by
  rcases selectCandidate_eq_some.mp hFinal with
    ⟨⟨hMem, hObserved, hHeadroom⟩, hLeast⟩
  have hBefore :=
    (observedSuccess_append hMore final).mp hObserved
  have hRows : rows ≠ [] := by
    intro hEmpty
    have hCount := hBefore.1
    simp only [hEmpty, List.filter_nil, List.length_nil]
      at hCount
    omega
  have hLess :=
    headroomRequired_mono stage hFactor hRows more
  cases hSelected :
      selectCandidate options stage values rows (some rows) with
  | none =>
      exact absurd (hLess.trans hHeadroom)
        (selectCandidate_eq_none hSelected hMem hBefore)
  | some early =>
      rcases selectCandidate_eq_some.mp hSelected with
        ⟨⟨hEarly, hEarlyObserved, -⟩, hEarlyLeast⟩
      have hLe : early ≤ final :=
        hEarlyLeast final hMem hBefore
          (hLess.trans hHeadroom)
      refine ⟨early, rfl, hLe, ?_⟩
      constructor
      · intro hSame
        rw [hSame]
        exact hHeadroom
      · intro hEnough
        have hBack :=
          hLeast early hEarly
            ((observedSuccess_append hMore early).mpr
              hEarlyObserved) hEnough
        omega

end

------------------------------------------------------------
-- What A Validated Recommendation Promises
------------------------------------------------------------

section Headroom

variable {safetyFactor : ℚ}
variable {rows : List TrialRow}
variable {candidate : Int}

theorem headroomRequired_frame_le
    (hFactor : 0 ≤ safetyFactor)
    (hRows : rows ≠ []) :
    headroomRequired .frame safetyFactor rows ≤ candidate ↔
      ∀ row ∈ rows,
        safetyFactor * row.firstFrameWaitMsMax ≤ candidate := by
  unfold headroomRequired
  rw [Int.ceil_le]
  constructor
  · intro hMax row hRow
    have hLe :=
      mul_le_mul_of_nonneg_right
        (@le_columnMax TrialRow.firstFrameWaitMsMax rows row
          hRow) hFactor
    linarith
  · intro hAll
    rcases @columnMax_mem TrialRow.firstFrameWaitMsMax rows
      hRows with ⟨row, hRow, hTop⟩
    rw [← hTop, mul_comm]
    exact hAll row hRow

theorem headroomRequired_join_le
    (hFactor : 0 ≤ safetyFactor)
    (hRows : rows ≠ []) :
    headroomRequired .join safetyFactor rows ≤ candidate ↔
      ∀ row ∈ rows,
        safetyFactor * row.joinWaitMsMax + joinPollMs ≤
          candidate := by
  unfold headroomRequired
  rw [Int.ceil_le]
  constructor
  · intro hMax row hRow
    have hLe :=
      mul_le_mul_of_nonneg_right
        (@le_columnMax TrialRow.joinWaitMsMax rows row
          hRow) hFactor
    linarith
  · intro hAll
    rcases @columnMax_mem TrialRow.joinWaitMsMax rows
      hRows with ⟨row, hRow, hTop⟩
    rw [← hTop, mul_comm]
    exact hAll row hRow

end Headroom

/- The first four stages leave no rows of the validation. -/
theorem executeStage_ne_validation
    (outcomes : Nat → Outcome)
    {stage : CalibrationStage}
    (hStage : stage ≠ .validation)
    (candidates : List Int)
    (settings : TimingSettings)
    (defaultSettleMs : Int)
    (trials : Nat)
    {rows : List TrialRow}
    (hRows : ∀ row ∈ rows, row.stage ≠ .validation) :
    ∀ row ∈ executeStage outcomes stage candidates settings
        defaultSettleMs trials rows,
      row.stage ≠ .validation := by
  rcases executeStage_eq outcomes stage candidates settings
    defaultSettleMs trials rows with ⟨new, hAll, -, hNew⟩
  rw [hAll]
  intro row hRow
  rcases List.mem_append.mp hRow with hOld | hLater
  · exact hRows row hOld
  · rcases hNew row hLater with
      ⟨candidate, trial, outcome, hIs⟩
    rw [hIs]
    exact hStage

theorem runStages_ne_validation
    (options : CalibrationOptions)
    (outcomes : Nat → Outcome)
    (candidates : StageCandidates) :
    ∀ row ∈ (runStages options outcomes candidates).rows,
      row.stage ≠ .validation := by
  unfold runStages
  simp only
  apply executeStage_ne_validation _ (by decide)
  apply executeStage_ne_validation _ (by decide)
  apply executeStage_ne_validation _ (by decide)
  apply executeStage_ne_validation _ (by decide)
  simp

theorem runStages_effective
    (options : CalibrationOptions)
    (outcomes : Nat → Outcome)
    (candidates : StageCandidates) :
    (runStages options outcomes candidates).effectiveSettle =
        (runStages options outcomes
          candidates).selectedSettle.getD
          (greatest candidates.settle) ∧
      (runStages options outcomes candidates).effectiveCycle =
        (runStages options outcomes
          candidates).selectedCycle.getD
          (greatest candidates.cycle) :=
  ⟨rfl, rfl⟩

/- The rows of the validation, under its settings. -/
theorem validate_eq
    (options : CalibrationOptions)
    (outcomes : Nat → Outcome)
    (candidates : StageCandidates)
    (stages : StageResults) :
    ∃ new,
      validate options outcomes candidates stages =
        stages.rows ++ new ∧
      new.length = options.validationTrials ∧
      ∀ row ∈ new,
        row.stage = .validation ∧
        row.settings =
          validationSettings options candidates stages ∧
        row.settleMs = stages.effectiveSettle := by
  rcases executeStage_eq outcomes .validation [0]
    (validationSettings options candidates stages)
    stages.effectiveSettle options.validationTrials
    stages.rows with ⟨new, hAll, hLength, hNew⟩
  refine ⟨new, hAll, by simpa [stageTrials] using hLength, ?_⟩
  intro row hRow
  rcases hNew row hRow with ⟨candidate, trial, outcome, hIs⟩
  subst hIs
  exact ⟨rfl, rfl, rfl⟩

/-
  What holds of a recommendation: the delays are the
  validated ones, and the timeouts are at least the validated
  ones.  A timeout is greater only when a wait of the
  validation has used up the headroom of the validated one.
-/
structure Recommended
    (options : CalibrationOptions)
    (calibration : Calibration)
    (frame join cycle settle : Int) : Prop where
  frameSelected :
    calibration.selection.frameTimeoutMs = some frame
  joinSelected :
    calibration.selection.joinTimeoutMs = some join
  cycleSelected :
    calibration.selection.cycleDelayMs = some cycle
  settleSelected :
    calibration.selection.recoverySettleMs = some settle
  trials :
    (validationRows calibration.rows).length =
      options.validationTrials
  succeeded :
    ∀ row ∈ validationRows calibration.rows,
      row.success = true
  delays :
    ∀ row ∈ validationRows calibration.rows,
      row.settings.cycleDelayMs = cycle ∧
        row.settleMs = settle
  frameTimeout :
    ∀ row ∈ validationRows calibration.rows,
      row.settings.frameTimeoutMs ≤ frame ∧
        (row.settings.frameTimeoutMs = frame ↔
          ∀ other ∈ calibration.rows,
            options.safetyFactor *
                other.firstFrameWaitMsMax ≤
              row.settings.frameTimeoutMs)
  joinTimeout :
    ∀ row ∈ validationRows calibration.rows,
      row.settings.joinTimeoutMs ≤ join ∧
        (row.settings.joinTimeoutMs = join ↔
          ∀ other ∈ calibration.rows,
            options.safetyFactor * other.joinWaitMsMax + 5 ≤
              row.settings.joinTimeoutMs)
  firstFrameWaits :
    ∀ row ∈ calibration.rows, ∀ times ∈ row.cycles,
      ∀ wait ∈ times.firstFrameWaitMs,
        options.safetyFactor * wait ≤ frame
  joinWaits :
    ∀ row ∈ calibration.rows, ∀ times ∈ row.cycles,
      ∀ wait ∈ times.joinWaitMs,
        options.safetyFactor * wait + 5 ≤ join

theorem le_metricMax
    {field : CycleTimes → Option ℚ}
    {cycles : List CycleTimes}
    {times : CycleTimes}
    (hTimes : times ∈ cycles)
    {wait : ℚ}
    (hWait : wait ∈ field times) :
    wait ≤ metricMax field cycles :=
  le_max?_getD (List.mem_filterMap.mpr ⟨times, hTimes, hWait⟩)

theorem validationRows_append
    {rows new : List TrialRow}
    (hRows : ∀ row ∈ rows, row.stage ≠ .validation)
    (hNew : ∀ row ∈ new, row.stage = .validation) :
    validationRows (rows ++ new) = new := by
  have hNone :
      rows.filter (fun row => row.stage = .validation) = [] := by
    rw [List.filter_eq_nil_iff]
    intro row hRow
    simpa using hRows row hRow
  have hAll :
      new.filter (fun row => row.stage = .validation) = new := by
    rw [List.filter_eq_self]
    intro row hRow
    simpa using hNew row hRow
  unfold validationRows
  rw [List.filter_append, hNone, hAll, List.nil_append]

theorem checkOptions_eq_ok
    {options : CalibrationOptions}
    (hOk : checkOptions options = .ok ()) :
    1 ≤ options.trials ∧ 1 ≤ options.validationTrials ∧
      1 ≤ options.safetyFactor := by
  unfold checkOptions at hOk
  split at hOk
  next => cases hOk
  next =>
    split at hOk
    next => cases hOk
    next hTrials =>
      split at hOk
      next => cases hOk
      next hFactor =>
        rw [not_or] at hTrials
        exact ⟨by omega, by omega, not_lt.mp hFactor⟩

theorem calibrate_validated
    (options : CalibrationOptions)
    (outcomes : Nat → Outcome)
    (calibration : Calibration)
    (hRun : calibrate options outcomes = .ok calibration)
    (hValidated : calibration.validated = true) :
    ∃ frame join cycle settle,
      Recommended options calibration frame join cycle
        settle := by
  unfold calibrate at hRun
  rcases bind_eq_ok.mp hRun with ⟨_, hOptions, hRest⟩
  rcases bind_eq_ok.mp hRest with ⟨candidates, -, hIs⟩
  rcases checkOptions_eq_ok hOptions with
    ⟨hTrials, hMany, hFactor⟩
  have hNonneg : 0 ≤ options.safetyFactor := by linarith
  have hEffective :=
    runStages_effective options outcomes candidates
  have hEarlier :=
    runStages_ne_validation options outcomes candidates
  generalize hStages :
    runStages options outcomes candidates = stages at *
  rcases validate_eq options outcomes candidates stages with
    ⟨new, hRows, hLength, hNew⟩
  simp only [Except.ok.injEq] at hIs
  rw [hRows] at hIs
  subst hIs
  have hValidation :=
    validationRows_append hEarlier (fun row hRow =>
      (hNew row hRow).1)
  have hStage :
      ∀ stage, stage ≠ .validation →
        ∀ row ∈ new, row.stage ≠ stage := by
    intro stage hNe row hRow hSame
    exact hNe (hSame ▸ (hNew row hRow).1)
  have hSome : stages.rows ++ new ≠ [] := by
    intro hEmpty
    rw [List.append_eq_nil_iff] at hEmpty
    rw [hEmpty.2, List.length_nil] at hLength
    omega
  simp only [recommend, hValidation,
    decide_eq_true_eq] at hValidated
  rcases hValidated with
    ⟨-, hAll, hFrame, hJoin, hCycle, hSettle⟩
  rcases Option.isSome_iff_exists.mp hFrame with
    ⟨frame, hFrame⟩
  rcases Option.isSome_iff_exists.mp hJoin with ⟨join, hJoin⟩
  rcases Option.isSome_iff_exists.mp hCycle with
    ⟨cycle, hCycle⟩
  rcases Option.isSome_iff_exists.mp hSettle with
    ⟨settle, hSettle⟩
  rcases selected_mono hTrials hNonneg
    (hStage .frame (by decide)) hFrame with
    ⟨earlyFrame, hEarlyFrame, hFrameLe, hFrameIff⟩
  rcases selected_mono hTrials hNonneg
    (hStage .join (by decide)) hJoin with
    ⟨earlyJoin, hEarlyJoin, hJoinLe, hJoinIff⟩
  rw [headroomRequired_frame_le hNonneg hSome] at hFrameIff
  rw [headroomRequired_join_le hNonneg hSome] at hJoinIff
  have hFrameHead :=
    (headroomRequired_frame_le hNonneg hSome).mp
      (selectCandidate_eq_some.mp hFrame).1.2.2
  have hJoinHead :=
    (headroomRequired_join_le hNonneg hSome).mp
      (selectCandidate_eq_some.mp hJoin).1.2.2
  have hFrameIs :
      (validationSettings options candidates
        stages).frameTimeoutMs = earlyFrame := by
    simp [validationSettings, selectFrame, hEarlyFrame]
  have hJoinIs :
      (validationSettings options candidates
        stages).joinTimeoutMs = earlyJoin := by
    simp [validationSettings, selectJoin, hEarlyJoin]
  refine ⟨frame, join, cycle, settle, hFrame, hJoin, hCycle,
    hSettle, ?_, ?_, ?_, ?_, ?_, ?_, ?_⟩
  · simp only [recommend, hValidation]
    exact hLength
  · simp only [recommend, hValidation]
    simpa using hAll
  · simp only [recommend, hValidation]
    intro row hRow
    rw [(hNew row hRow).2.1, (hNew row hRow).2.2,
      hEffective.1, hSettle]
    simp [validationSettings, hEffective.2, hCycle]
  · simp only [recommend, hValidation]
    intro row hRow
    rw [(hNew row hRow).2.1, hFrameIs]
    exact ⟨hFrameLe, hFrameIff⟩
  · simp only [recommend, hValidation]
    intro row hRow
    rw [(hNew row hRow).2.1, hJoinIs]
    exact ⟨hJoinLe, hJoinIff⟩
  · intro row hRow times hTimes wait hWait
    have hLe :=
      mul_le_mul_of_nonneg_left
        (@le_metricMax CycleTimes.firstFrameWaitMs _ _ hTimes
          _ hWait) hNonneg
    exact hLe.trans (hFrameHead row hRow)
  · intro row hRow times hTimes wait hWait
    have hLe :=
      mul_le_mul_of_nonneg_left
        (@le_metricMax CycleTimes.joinWaitMs _ _ hTimes
          _ hWait) hNonneg
    have hHead := hJoinHead row hRow
    unfold joinPollMs TrialRow.joinWaitMsMax at hHead
    linarith

/- Two frame timeouts to choose from, one of all else. -/
def twoTimeouts : CalibrationOptions where
  frames := 1
  cyclesPerTrial := 1
  trials := 1
  validationTrials := 1
  safetyFactor := 3 / 2
  settleCandidatesMs := [0]
  frameTimeoutCandidatesMs := [100, 200]
  joinTimeoutCandidatesMs := [10]
  cycleDelayCandidatesMs := [0]
  resetTimeoutMs := 5000
  enumerationTimeoutMs := 1200

/- Fifty milliseconds everywhere but in the validation. -/
def waitsOf (validationWaitMs : ℚ) (trial : Nat) : Outcome where
  resetSuccess := true
  hardwareResetMs := 2600
  enumerationMs := 130
  success := true
  cyclesCompleted := 1
  elapsedMs := 1000
  cycles :=
    [{ firstFrameWaitMs :=
         some (if trial = 5 then validationWaitMs else 50)
       joinWaitMs := some 1 }]

theorem calibrate_twoTimeouts :
    ∃ calibration,
      calibrate twoTimeouts (waitsOf 50) = .ok calibration ∧
      ∃ frame join cycle settle,
        Recommended twoTimeouts calibration frame join cycle
          settle := by
  have hCheck :
      (match calibrate twoTimeouts (waitsOf 50) with
        | .ok calibration => calibration.validated
        | .error _ => false) = true := by
    decide +kernel
  cases hRun : calibrate twoTimeouts (waitsOf 50) with
  | error message =>
      rw [hRun] at hCheck
      cases hCheck
  | ok calibration =>
      rw [hRun] at hCheck
      exact ⟨calibration, rfl,
        calibrate_validated twoTimeouts (waitsOf 50)
          calibration hRun hCheck⟩

/-
  A wait of eighty milliseconds in the validation: the
  timeout that was validated is a hundred, the one that is
  recommended two hundred.
-/
theorem calibrate_outlier :
    ¬∀ calibration,
      calibrate twoTimeouts (waitsOf 80) = .ok calibration →
      calibration.validated = true →
      ∀ row ∈ validationRows calibration.rows,
        calibration.selection.frameTimeoutMs =
          some row.settings.frameTimeoutMs := by
  intro hSame
  have hCheck :
      (match calibrate twoTimeouts (waitsOf 80) with
        | .ok calibration =>
            calibration.validated &&
              (validationRows calibration.rows).any (fun row =>
                calibration.selection.frameTimeoutMs ≠
                  some row.settings.frameTimeoutMs)
        | .error _ => false) = true := by
    decide +kernel
  cases hRun : calibrate twoTimeouts (waitsOf 80) with
  | error message =>
      rw [hRun] at hCheck
      cases hCheck
  | ok calibration =>
      rw [hRun] at hCheck
      simp only [Bool.and_eq_true, List.any_eq_true,
        decide_eq_true_eq] at hCheck
      rcases hCheck with ⟨hValidated, row, hRow, hOther⟩
      exact hOther (hSame calibration hRun hValidated row hRow)

end Startup

end RsCamera
