import RsCamera.Lib.Arguments
import RsCamera.Lib.Containers
import RsCamera.Probe.Options

/-
  The command line that the campaign writes for the steady
  probe: `scheduler_prefix` and `traced_command`
  (`commands.py`), `RealSenseSteadyBench._scheduled_probe`
  (`steady_benchmark.py`) and
  `NoiseTransition.probe_arguments` (`noise_transition.py`),
  and what `parse_args` of the probe reads from it.

  Key definitions include:
    * `ProbeCase`, `Policy`, `Transition`
    * `probeArguments`, `scheduledProbe`, `tracedCommand`
    * `caseOptions`

  Key theorems include:
    * `stores_probeArguments`
    * `scheduledProbe_readBack`
    * `probeArguments_accepted_iff`
-/

------------------------------------------------------------
-- Cases
------------------------------------------------------------

namespace RsCamera

namespace Probe

/- A field that holds one text or a list of them. -/
inductive Texts
| one (text : String)
| many (texts : List String)
deriving Repr, DecidableEq

/-
  The fields of a case's `probe` object, and the number of
  cameras of its `physical` object.
-/
structure ProbeCase where
  serials : Option Texts := none
  serial : Option Texts := none
  hardwareSyncMaster : Option String := none
  hardwareSyncSlaves : Option Texts := none
  cameraCount : Option Int := none
  physicalCameraCount : Option Int := none
  streamMode : Option String := none
  delivery : Option String := none
  frames : Option Int := none
  measurementDurationMs : Option Int := none
  warmupFrames : Option Int := none
  warmupHealthWindowFrames : Option Int := none
  deadlineApplyAfterFrames : Option Int := none
  frameTimeoutMs : Option Int := none
  startupTimeoutMs : Option Int := none
  measurementTimeoutMs : Option Int := none
  fps : Option Int := none
  depthWidth : Option Int := none
  depthHeight : Option Int := none
  colorWidth : Option Int := none
  colorHeight : Option Int := none
  deadlineAllowPartialProfile : Bool := false
deriving Repr, DecidableEq

/- The policies of `POLICY_NAMES`. -/
inductive Policy
| other
| rr
| fifo
| deadline
| rrRm
| fifoRm
deriving Repr, DecidableEq

/- The policies of `MODELED_POLICIES`. -/
def Policy.modeled : Policy → Bool
| .deadline => true
| .rrRm => true
| .fifoRm => true
| _ => false

/- The files and the timeout of an enabled transition. -/
structure Transition where
  recordDir : PathText
  gateTimeoutMs : Int
deriving Repr, DecidableEq

/- What the benchmark gives besides the case. -/
structure Launch where
  priority : Int
  probe : PathText
  schedulerProfile : PathText
  transition : Option Transition
  summaryPath : PathText
  eventsPath : PathText
deriving Repr, DecidableEq

------------------------------------------------------------
-- Command Lines
------------------------------------------------------------

/- `scheduler_prefix`. -/
def schedulerPrefix
    (policy : Policy)
    (priority : Int) : List String :=
  match policy with
  | .other => ["chrt", "--other", "0"]
  | .rr => ["chrt", "--rr", toString priority]
  | .fifo => ["chrt", "--fifo", toString priority]
  | .deadline => ["chrt", "--other", "0"]
  | .rrRm => ["chrt", "--other", "0"]
  | .fifoRm => ["chrt", "--other", "0"]

/- A single serial may be empty, and then there is none. -/
def ProbeCase.serialList (case : ProbeCase) : List String :=
  match case.serials.getD (case.serial.getD (.many [])) with
  | .one text => if text = "" then [] else [text]
  | .many texts => texts

/- The serials of the slaves. -/
def ProbeCase.slaveList (case : ProbeCase) : List String :=
  match case.hardwareSyncSlaves.getD (.many []) with
  | .one text => [text]
  | .many texts => texts

/- An empty master is no master. -/
def ProbeCase.master? (case : ProbeCase) : Option String :=
  case.hardwareSyncMaster.filter (fun text => text ≠ "")

/- The number of cameras. -/
def ProbeCase.cameras (case : ProbeCase) : Int :=
  case.cameraCount.getD (case.physicalCameraCount.getD 1)

/- An option with a text. -/
def textField
    (flag : String)
    (value? : Option String) : List String :=
  givenArguments flag id value?

/- An option with a number. -/
def intField
    (flag : String)
    (value? : Option Int) : List String :=
  givenArguments flag toString value?

/- The loop over `fields`. -/
def fieldArguments (case : ProbeCase) : List String :=
  textField "--stream-mode" case.streamMode ++
  (textField "--delivery" case.delivery ++
  (intField "--frames" case.frames ++
  (intField "--measurement-duration-ms"
    case.measurementDurationMs ++
  (intField "--warmup-frames" case.warmupFrames ++
  (intField "--warmup-health-window-frames"
    case.warmupHealthWindowFrames ++
  (intField "--deadline-apply-after-frames"
    case.deadlineApplyAfterFrames ++
  (intField "--frame-timeout-ms" case.frameTimeoutMs ++
  (intField "--startup-timeout-ms" case.startupTimeoutMs ++
  (intField "--measurement-timeout-ms"
    case.measurementTimeoutMs ++
  (intField "--fps" case.fps ++
  (intField "--depth-width" case.depthWidth ++
  (intField "--depth-height" case.depthHeight ++
  (intField "--color-width" case.colorWidth ++
  intField "--color-height" case.colorHeight)))))))))))))

/- The options of the policy. -/
def schedulerArguments
    (case : ProbeCase)
    (policy : Policy)
    (launch : Launch) : List String :=
  match policy with
  | .deadline =>
      ["--deadline-profile", launch.schedulerProfile.text] ++
      (if case.deadlineAllowPartialProfile then
        ["--deadline-allow-partial-profile"]
      else
        [])
  | .rrRm =>
      ["--rate-monotonic-profile",
        launch.schedulerProfile.text,
        "--rate-monotonic-policy", "rr",
        "--rate-monotonic-highest-priority",
        toString launch.priority]
  | .fifoRm =>
      ["--rate-monotonic-profile",
        launch.schedulerProfile.text,
        "--rate-monotonic-policy", "fifo",
        "--rate-monotonic-highest-priority",
        toString launch.priority]
  | _ => []

/- The file that says ready. -/
def Transition.warmupReadyPath
    (transition : Transition) : PathText :=
  transition.recordDir.file "camera_warmup_ready"

/- The file that opens the gate. -/
def Transition.measurementGatePath
    (transition : Transition) : PathText :=
  transition.recordDir.file "measurement_start_gate"

/- Nothing, unless the transition is enabled. -/
def transitionArguments :
    Option Transition → List String
| none => []
| some transition =>
    ["--warmup-ready-file", transition.warmupReadyPath.text,
      "--measurement-start-gate",
      transition.measurementGatePath.text,
      "--measurement-gate-timeout-ms",
      toString transition.gateTimeoutMs]

/- The arguments after the path of the probe. -/
def probeArguments
    (case : ProbeCase)
    (policy : Policy)
    (launch : Launch) : List String :=
  case.serialList.flatMap (fun serial =>
    ["--serial", serial]) ++
  (textField "--hardware-sync-master" case.master? ++
  (case.slaveList.flatMap (fun serial =>
    ["--hardware-sync-slave", serial]) ++
  (["--camera-count", toString case.cameras] ++
  (fieldArguments case ++
  (schedulerArguments case policy launch ++
  (transitionArguments launch.transition ++
  ["--summary-output", launch.summaryPath.text,
    "--events-output", launch.eventsPath.text]))))))

/- `_scheduled_probe`. -/
def scheduledProbe
    (case : ProbeCase)
    (policy : Policy)
    (launch : Launch) : List String :=
  schedulerPrefix policy launch.priority ++
    launch.probe.text :: probeArguments case policy launch

/- What `traced_command` is given besides the command. -/
structure Tracing where
  tracer : PathText
  lifecyclePath : PathText
  lime : PathText
  limeDir : PathText
  useLime : Bool
  useSudo : Bool
  targetEnvironment : List (String × String)
deriving Repr, DecidableEq

/- `traced_command`. -/
def tracedCommand
    (tracing : Tracing)
    (scheduledCommand : List String) : List String :=
  let target :=
    ["env", "LD_PRELOAD=" ++ tracing.tracer.text,
      "RS_THREAD_TRACE_FILE=" ++ tracing.lifecyclePath.text] ++
    tracing.targetEnvironment.map (fun entry =>
      entry.1 ++ "=" ++ entry.2) ++
    scheduledCommand
  let command :=
    if tracing.useLime then
      [tracing.lime.text, "trace", "--best-effort", "-o",
        tracing.limeDir.text, "--"] ++ target
    else
      target
  if tracing.useSudo then
    ["sudo", "--preserve-env=LD_LIBRARY_PATH"] ++ command
  else
    command

------------------------------------------------------------
-- Options of a Case
------------------------------------------------------------

/- The policies that install a rate-monotonic profile. -/
def Policy.rateMonotonic? : Policy → Option String
| .rrRm => some "rr"
| .fifoRm => some "fifo"
| _ => none

/- The options that a case asks the probe for. -/
def caseOptions
    (case : ProbeCase)
    (policy : Policy)
    (launch : Launch) : Options where
  serials := case.serialList
  streamMode := case.streamMode.getD "stereo_all"
  delivery := case.delivery.getD "wait"
  summaryOutput := launch.summaryPath.text
  eventsOutput := launch.eventsPath.text
  deadlineProfile :=
    if policy = .deadline then launch.schedulerProfile.text
    else ""
  rateMonotonicProfile :=
    if policy.rateMonotonic?.isSome then
      launch.schedulerProfile.text
    else
      ""
  rateMonotonicPolicy := policy.rateMonotonic?.getD ""
  warmupReadyFile :=
    (launch.transition.map
      (fun files => files.warmupReadyPath.text)).getD ""
  measurementStartGate :=
    (launch.transition.map
      (fun files => files.measurementGatePath.text)).getD ""
  hardwareSyncMaster := case.master?.getD ""
  hardwareSyncSlaves := case.slaveList
  deadlineAllowPartialProfile :=
    decide (policy = .deadline) &&
      case.deadlineAllowPartialProfile
  schedulerApplyAfterFrames :=
    case.deadlineApplyAfterFrames.getD 0
  rateMonotonicHighestPriority :=
    if policy.rateMonotonic?.isSome then launch.priority
    else 80
  cameraCount := case.cameras
  depthWidth := case.depthWidth.getD 848
  depthHeight := case.depthHeight.getD 480
  colorWidth := case.colorWidth.getD 640
  colorHeight := case.colorHeight.getD 480
  fps := case.fps.getD 30
  frames := case.frames.getD 10000
  warmupFrames := case.warmupFrames.getD 30
  warmupHealthWindowFrames :=
    case.warmupHealthWindowFrames.getD 0
  frameTimeoutMs := case.frameTimeoutMs.getD 1500
  startupTimeoutMs := case.startupTimeoutMs.getD 15000
  measurementDurationMs := case.measurementDurationMs.getD 0
  measurementTimeoutMs := case.measurementTimeoutMs.getD 0
  measurementGateTimeoutMs :=
    (launch.transition.map
      (fun files => files.gateTimeoutMs)).getD 0

/- The integers of the fields. -/
def ProbeCase.integers (case : ProbeCase) : List Int :=
  case.frames.toList ++
  (case.measurementDurationMs.toList ++
  (case.warmupFrames.toList ++
  (case.warmupHealthWindowFrames.toList ++
  (case.deadlineApplyAfterFrames.toList ++
  (case.frameTimeoutMs.toList ++
  (case.startupTimeoutMs.toList ++
  (case.measurementTimeoutMs.toList ++
  (case.fps.toList ++
  (case.depthWidth.toList ++
  (case.depthHeight.toList ++
  (case.colorWidth.toList ++ case.colorHeight.toList)))))))))))

/- Every integer that stands on the command line. -/
def caseIntegers
    (case : ProbeCase)
    (policy : Policy)
    (launch : Launch) : List Int :=
  case.cameras :: (case.integers ++
    ((if policy.rateMonotonic?.isSome then [launch.priority]
      else []) ++
    (launch.transition.map
      (fun files => files.gateTimeoutMs)).toList))

------------------------------------------------------------
-- Reading the Arguments
------------------------------------------------------------

/- The only thing that stops the loop at these arguments. -/
def outOfRange : Except ParseStop Options :=
  .error (.error "stoi")

theorem stores_setText
    (flag : String)
    {put : String → Options → Options}
    (hText :
      ∀ value opts, setText flag value opts =
        some (put value opts))
    (value : String) :
    Stores parseArgsLoop outOfRange [flag, value] True
      (put value) where
  accepts := by
    intro _ rest opts
    have hTakes : takesValue flag = true := by
      simp [takesValue, hText]
    have hValue : setValue flag value opts =
        .ok (put value opts) := by
      simp [setValue, hText]
    change parseArgsLoop (flag :: value :: rest) opts = _
    rw [parseArgsLoop, if_pos hTakes, hValue]
  refuses := fun hNot => absurd trivial hNot

theorem stores_setInt
    (flag : String)
    {put : Int → Options → Options}
    (hText : ∀ value opts, setText flag value opts = none)
    (hInt :
      ∀ value opts, setInt flag value opts =
        some (put value opts))
    (value : Int) :
    Stores parseArgsLoop outOfRange [flag, toString value]
      (CInt value) (put value) := by
  have hTakes : takesValue flag = true := by
    simp [takesValue, hInt]
  have hValue :
      ∀ opts, setValue flag (toString value) opts =
        if CInt value then .ok (put value opts)
        else outOfRange := by
    intro opts
    unfold setValue
    rw [hText]
    simp only
    rw [stoi_toString]
    by_cases hRange : CInt value
    · rw [if_pos hRange, if_pos hRange]
      simp [hInt]
    · rw [if_neg hRange, if_neg hRange]
      rfl
  constructor
  · intro hRange rest opts
    change
      parseArgsLoop (flag :: toString value :: rest) opts = _
    rw [parseArgsLoop, if_pos hTakes, hValue, if_pos hRange]
  · intro hNot rest opts
    change
      parseArgsLoop (flag :: toString value :: rest) opts = _
    rw [parseArgsLoop, if_pos hTakes, hValue, if_neg hNot]
    rfl

/- A field of the options that keeps what stands in it. -/
theorem stores_textField
    (flag : String)
    (put : String → Options → Options)
    (get : Options → String)
    (hText :
      ∀ value opts, setText flag value opts =
        some (put value opts))
    (hKeep : ∀ opts, put (get opts) opts = opts)
    (value? : Option String) :
    Stores parseArgsLoop outOfRange (textField flag value?)
      True (fun opts => put (value?.getD (get opts)) opts) := by
  refine (stores_given (stores_setText flag hText) value?).congr
    (by simp) ?_
  intro opts
  cases value? with
  | none => exact (hKeep opts).symm
  | some value => rfl

theorem stores_intField
    (flag : String)
    (put : Int → Options → Options)
    (get : Options → Int)
    (hText : ∀ value opts, setText flag value opts = none)
    (hInt :
      ∀ value opts, setInt flag value opts =
        some (put value opts))
    (hKeep : ∀ opts, put (get opts) opts = opts)
    (value? : Option Int) :
    Stores parseArgsLoop outOfRange (intField flag value?)
      (∀ value ∈ value?.toList, CInt value)
      (fun opts => put (value?.getD (get opts)) opts) := by
  refine
    (stores_given (stores_setInt flag hText hInt) value?).congr
      (by simp) ?_
  intro opts
  cases value? with
  | none => exact (hKeep opts).symm
  | some value => rfl

/- A list whose texts are added one by one. -/
theorem stores_texts
    (flag : String)
    {add : String → Options → Options}
    (addAll : List String → Options → Options)
    (hText :
      ∀ value opts, setText flag value opts =
        some (add value opts))
    (hNil : ∀ opts, addAll [] opts = opts)
    (hCons :
      ∀ value values opts,
        addAll (value :: values) opts =
          addAll values (add value opts))
    (values : List String) :
    Stores parseArgsLoop outOfRange
      (values.flatMap (fun value => [flag, value]))
      True (addAll values) := by
  refine
    (Stores.flatMap values
      (fun value _ => stores_setText flag hText value)).congr
      (by simp) ?_
  induction values with
  | nil => exact fun opts => (hNil opts).symm
  | cons value values ih =>
      intro opts
      rw [List.foldl_cons, ih, hCons]

------------------------------------------------------------
-- Reading a Case
------------------------------------------------------------

/- The options with the fields of a case. -/
def storeFields
    (case : ProbeCase)
    (opts : Options) : Options :=
  { opts with
    streamMode := case.streamMode.getD opts.streamMode
    delivery := case.delivery.getD opts.delivery
    frames := case.frames.getD opts.frames
    measurementDurationMs :=
      case.measurementDurationMs.getD
        opts.measurementDurationMs
    warmupFrames := case.warmupFrames.getD opts.warmupFrames
    warmupHealthWindowFrames :=
      case.warmupHealthWindowFrames.getD
        opts.warmupHealthWindowFrames
    schedulerApplyAfterFrames :=
      case.deadlineApplyAfterFrames.getD
        opts.schedulerApplyAfterFrames
    frameTimeoutMs :=
      case.frameTimeoutMs.getD opts.frameTimeoutMs
    startupTimeoutMs :=
      case.startupTimeoutMs.getD
        opts.startupTimeoutMs
    measurementTimeoutMs :=
      case.measurementTimeoutMs.getD
        opts.measurementTimeoutMs
    fps := case.fps.getD opts.fps
    depthWidth := case.depthWidth.getD opts.depthWidth
    depthHeight := case.depthHeight.getD opts.depthHeight
    colorWidth := case.colorWidth.getD opts.colorWidth
    colorHeight := case.colorHeight.getD opts.colorHeight }

/- Every field is stored, or left as it is. -/
theorem stores_fieldArguments
    (case : ProbeCase) :
    Stores parseArgsLoop outOfRange (fieldArguments case)
      (∀ value ∈ case.integers, CInt value)
      (storeFields case) := by
  have hStreamMode := stores_textField "--stream-mode"
    (fun value opts => { opts with streamMode := value })
    Options.streamMode (fun _ _ => rfl) (fun _ => rfl)
    case.streamMode
  have hDelivery := stores_textField "--delivery"
    (fun value opts => { opts with delivery := value })
    Options.delivery (fun _ _ => rfl) (fun _ => rfl)
    case.delivery
  have hFrames := stores_intField "--frames"
    (fun value opts => { opts with frames := value })
    Options.frames
    (fun _ _ => rfl) (fun _ _ => rfl) (fun _ => rfl)
    case.frames
  have hMeasurementDurationMs :=
    stores_intField "--measurement-duration-ms"
      (fun value opts =>
        { opts with measurementDurationMs := value })
      Options.measurementDurationMs
      (fun _ _ => rfl) (fun _ _ => rfl) (fun _ => rfl)
      case.measurementDurationMs
  have hWarmupFrames := stores_intField "--warmup-frames"
    (fun value opts => { opts with warmupFrames := value })
    Options.warmupFrames
    (fun _ _ => rfl) (fun _ _ => rfl) (fun _ => rfl)
    case.warmupFrames
  have hWarmupHealthWindowFrames :=
    stores_intField "--warmup-health-window-frames"
      (fun value opts =>
        { opts with warmupHealthWindowFrames := value })
      Options.warmupHealthWindowFrames
      (fun _ _ => rfl) (fun _ _ => rfl) (fun _ => rfl)
      case.warmupHealthWindowFrames
  have hSchedulerApplyAfterFrames :=
    stores_intField "--deadline-apply-after-frames"
      (fun value opts =>
        { opts with schedulerApplyAfterFrames := value })
      Options.schedulerApplyAfterFrames
      (fun _ _ => rfl) (fun _ _ => rfl) (fun _ => rfl)
      case.deadlineApplyAfterFrames
  have hFrameTimeoutMs := stores_intField "--frame-timeout-ms"
    (fun value opts => { opts with frameTimeoutMs := value })
    Options.frameTimeoutMs
    (fun _ _ => rfl) (fun _ _ => rfl) (fun _ => rfl)
    case.frameTimeoutMs
  have hStartupTimeoutMs := stores_intField "--startup-timeout-ms"
    (fun value opts => { opts with startupTimeoutMs := value })
    Options.startupTimeoutMs
    (fun _ _ => rfl) (fun _ _ => rfl) (fun _ => rfl)
    case.startupTimeoutMs
  have hMeasurementTimeoutMs :=
    stores_intField "--measurement-timeout-ms"
      (fun value opts =>
        { opts with measurementTimeoutMs := value })
      Options.measurementTimeoutMs
      (fun _ _ => rfl) (fun _ _ => rfl) (fun _ => rfl)
      case.measurementTimeoutMs
  have hFps := stores_intField "--fps"
    (fun value opts => { opts with fps := value })
    Options.fps
    (fun _ _ => rfl) (fun _ _ => rfl) (fun _ => rfl)
    case.fps
  have hDepthWidth := stores_intField "--depth-width"
    (fun value opts => { opts with depthWidth := value })
    Options.depthWidth
    (fun _ _ => rfl) (fun _ _ => rfl) (fun _ => rfl)
    case.depthWidth
  have hDepthHeight := stores_intField "--depth-height"
    (fun value opts => { opts with depthHeight := value })
    Options.depthHeight
    (fun _ _ => rfl) (fun _ _ => rfl) (fun _ => rfl)
    case.depthHeight
  have hColorWidth := stores_intField "--color-width"
    (fun value opts => { opts with colorWidth := value })
    Options.colorWidth
    (fun _ _ => rfl) (fun _ _ => rfl) (fun _ => rfl)
    case.colorWidth
  have hColorHeight := stores_intField "--color-height"
    (fun value opts => { opts with colorHeight := value })
    Options.colorHeight
    (fun _ _ => rfl) (fun _ _ => rfl) (fun _ => rfl)
    case.colorHeight
  refine
    (hStreamMode.append (hDelivery.append (hFrames.append (
      hMeasurementDurationMs.append (hWarmupFrames.append (
      hWarmupHealthWindowFrames.append (
      hSchedulerApplyAfterFrames.append (
      hFrameTimeoutMs.append (hStartupTimeoutMs.append (
      hMeasurementTimeoutMs.append (hFps.append (
      hDepthWidth.append (hDepthHeight.append (
      hColorWidth.append hColorHeight)))))))))))))).congr
      ?_ (fun _ => rfl)
  simp only [ProbeCase.integers, List.forall_mem_append,
    true_and]

/- The options with the scheduler of a policy. -/
def storeScheduler
    (case : ProbeCase)
    (policy : Policy)
    (launch : Launch)
    (opts : Options) : Options :=
  match policy with
  | .deadline =>
      { opts with
        deadlineProfile := launch.schedulerProfile.text
        deadlineAllowPartialProfile :=
          opts.deadlineAllowPartialProfile ||
            case.deadlineAllowPartialProfile }
  | .rrRm =>
      { opts with
        rateMonotonicProfile := launch.schedulerProfile.text
        rateMonotonicPolicy := "rr"
        rateMonotonicHighestPriority := launch.priority }
  | .fifoRm =>
      { opts with
        rateMonotonicProfile := launch.schedulerProfile.text
        rateMonotonicPolicy := "fifo"
        rateMonotonicHighestPriority := launch.priority }
  | _ => opts

theorem stores_partialProfile
    (allow : Bool) :
    Stores parseArgsLoop outOfRange
      (if allow then ["--deadline-allow-partial-profile"]
      else [])
      True
      (fun opts =>
        { opts with
          deadlineAllowPartialProfile :=
            opts.deadlineAllowPartialProfile || allow }) := by
  refine ⟨fun _ rest opts => ?_,
    fun hNot => absurd trivial hNot⟩
  cases allow with
  | false =>
      simp only [Bool.false_eq_true, if_false, List.nil_append,
        Bool.or_false]
  | true =>
      have hTakes :
          takesValue "--deadline-allow-partial-profile" =
            false :=
        rfl
      simp only [if_true, Bool.or_true]
      change
        parseArgsLoop
          ("--deadline-allow-partial-profile" :: rest) opts = _
      rw [parseArgsLoop.eq_def]
      simp only [hTakes, Bool.false_eq_true, if_false, if_true]

/- The three options of a rate-monotonic profile. -/
theorem stores_rateMonotonic
    (profile name : String)
    (priority : Int) :
    Stores parseArgsLoop outOfRange
      ["--rate-monotonic-profile", profile,
        "--rate-monotonic-policy", name,
        "--rate-monotonic-highest-priority", toString priority]
      (CInt priority)
      (fun opts =>
        { opts with
          rateMonotonicProfile := profile
          rateMonotonicPolicy := name
          rateMonotonicHighestPriority := priority }) := by
  have hProfile :=
    stores_setText "--rate-monotonic-profile"
      (fun _ _ => rfl) profile
  have hName :=
    stores_setText "--rate-monotonic-policy"
      (fun _ _ => rfl) name
  have hPriority :=
    stores_setInt "--rate-monotonic-highest-priority"
      (fun _ _ => rfl) (fun _ _ => rfl) priority
  exact (hProfile.append (hName.append hPriority)).congr
    (by simp) (fun _ => rfl)

theorem stores_schedulerArguments
    (case : ProbeCase)
    (policy : Policy)
    (launch : Launch) :
    Stores parseArgsLoop outOfRange
      (schedulerArguments case policy launch)
      (∀ value ∈
        (if policy.rateMonotonic?.isSome then [launch.priority]
        else []), CInt value)
      (storeScheduler case policy launch) := by
  cases policy with
  | deadline =>
      have hProfile :=
        stores_setText "--deadline-profile"
          (fun _ _ => rfl) launch.schedulerProfile.text
      have hPartial :=
        stores_partialProfile case.deadlineAllowPartialProfile
      exact (hProfile.append hPartial).congr
        (by simp [Policy.rateMonotonic?]) (fun _ => rfl)
  | rrRm =>
      have hThree :=
        stores_rateMonotonic launch.schedulerProfile.text "rr"
          launch.priority
      exact hThree.congr (by simp [Policy.rateMonotonic?])
        (fun _ => rfl)
  | fifoRm =>
      have hThree :=
        stores_rateMonotonic launch.schedulerProfile.text "fifo"
          launch.priority
      exact hThree.congr (by simp [Policy.rateMonotonic?])
        (fun _ => rfl)
  | other =>
      exact Stores.nil.congr (by simp [Policy.rateMonotonic?])
        (fun _ => rfl)
  | rr =>
      exact Stores.nil.congr (by simp [Policy.rateMonotonic?])
        (fun _ => rfl)
  | fifo =>
      exact Stores.nil.congr (by simp [Policy.rateMonotonic?])
        (fun _ => rfl)

/- The options with the files of a transition. -/
def storeTransition
    (transition? : Option Transition)
    (opts : Options) : Options :=
  match transition? with
  | none => opts
  | some transition =>
      { opts with
        warmupReadyFile := transition.warmupReadyPath.text
        measurementStartGate :=
          transition.measurementGatePath.text
        measurementGateTimeoutMs := transition.gateTimeoutMs }

theorem stores_transitionArguments
    (transition? : Option Transition) :
    Stores parseArgsLoop outOfRange
      (transitionArguments transition?)
      (∀ value ∈
        (transition?.map (fun files =>
          files.gateTimeoutMs)).toList, CInt value)
      (storeTransition transition?) := by
  cases transition? with
  | none => exact Stores.nil.congr (by simp) (fun _ => rfl)
  | some transition =>
      have hReady :=
        stores_setText "--warmup-ready-file"
          (fun _ _ => rfl) transition.warmupReadyPath.text
      have hGate :=
        stores_setText "--measurement-start-gate"
          (fun _ _ => rfl) transition.measurementGatePath.text
      have hTimeout :=
        stores_setInt "--measurement-gate-timeout-ms"
          (fun _ _ => rfl) (fun _ _ => rfl)
          transition.gateTimeoutMs
      exact (hReady.append (hGate.append hTimeout)).congr
        (by simp) (fun _ => rfl)

/- The options that the whole command line leaves. -/
def storeCase
    (case : ProbeCase)
    (policy : Policy)
    (launch : Launch)
    (opts : Options) : Options :=
  let selected : Options :=
    { opts with
      serials := opts.serials ++ case.serialList
      hardwareSyncMaster :=
        case.master?.getD opts.hardwareSyncMaster
      hardwareSyncSlaves :=
        opts.hardwareSyncSlaves ++ case.slaveList
      cameraCount := case.cameras }
  { storeTransition launch.transition
      (storeScheduler case policy launch
        (storeFields case selected)) with
    summaryOutput := launch.summaryPath.text
    eventsOutput := launch.eventsPath.text }

/- The probe reads back what the campaign has written. -/
theorem stores_probeArguments
    (case : ProbeCase)
    (policy : Policy)
    (launch : Launch) :
    Stores parseArgsLoop outOfRange
      (probeArguments case policy launch)
      (∀ value ∈ caseIntegers case policy launch, CInt value)
      (storeCase case policy launch) := by
  have hSerials :=
    stores_texts "--serial"
      (fun values opts =>
        { opts with serials := opts.serials ++ values })
      (fun _ _ => rfl) (by simp) (by simp) case.serialList
  have hMaster := stores_textField "--hardware-sync-master"
    (fun value opts => { opts with hardwareSyncMaster := value })
    Options.hardwareSyncMaster (fun _ _ => rfl) (fun _ => rfl)
    case.master?
  have hSlaves :=
    stores_texts "--hardware-sync-slave"
      (fun values opts =>
        { opts with
          hardwareSyncSlaves :=
            opts.hardwareSyncSlaves ++ values })
      (fun _ _ => rfl) (by simp) (by simp) case.slaveList
  have hCount :=
    stores_setInt "--camera-count"
      (fun _ _ => rfl) (fun _ _ => rfl) case.cameras
  have hFields := stores_fieldArguments case
  have hScheduler := stores_schedulerArguments case policy launch
  have hTransition :=
    stores_transitionArguments launch.transition
  have hSummary :=
    stores_setText "--summary-output"
      (fun _ _ => rfl) launch.summaryPath.text
  have hEvents :=
    stores_setText "--events-output"
      (fun _ _ => rfl) launch.eventsPath.text
  refine
    (hSerials.append (hMaster.append (hSlaves.append (
      hCount.append (hFields.append (hScheduler.append (
      hTransition.append (hSummary.append hEvents)))))))).congr
      ?_ (fun _ => rfl)
  simp only [caseIntegers, List.forall_mem_cons,
    List.forall_mem_append, true_and, and_true]

theorem storeCase_default
    (case : ProbeCase)
    (policy : Policy)
    (launch : Launch) :
    storeCase case policy launch {} =
      caseOptions case policy launch := by
  rcases launch with ⟨_, _, _, transition, _, _⟩
  cases policy <;> cases transition <;> rfl

------------------------------------------------------------
-- Accepted Cases
------------------------------------------------------------

variable {case : ProbeCase} {policy : Policy} {launch : Launch}

/- The hardware-sync roles of a case, where it has any. -/
structure RolesFit (case : ProbeCase) (master : String) : Prop where
  slaves : case.slaveList ≠ []
  serials : case.serialList ≠ []
  slaves_nodup : case.slaveList.Nodup
  master_notMem : master ∉ case.slaveList
  serials_nodup : case.serialList.Nodup
  all_roles :
    ∀ serial, serial ∈ case.serialList ↔
      serial = master ∨ serial ∈ case.slaveList

/- Explicit serials give the number of cameras. -/
def ProbeCase.cameraTotal (case : ProbeCase) : Int :=
  if case.serialList ≠ [] then
    (case.serialList.length : Int).bmod (2 ^ 32)
  else
    case.cameras

/- The cases that the probe runs. -/
structure Runnable
    (case : ProbeCase)
    (policy : Policy)
    (launch : Launch) : Prop where
  integers :
    ∀ value ∈ caseIntegers case policy launch, CInt value
  cameras : 0 < case.cameraTotal
  frames : 0 < case.frames.getD 10000
  fps : 0 < case.fps.getD 30
  duration : 0 ≤ case.measurementDurationMs.getD 0
  one_limit :
    case.measurementDurationMs.getD 0 = 0 ∨
      case.measurementTimeoutMs.getD 0 ≤ 0
  warmup : 0 ≤ case.warmupFrames.getD 30
  frame_timeout : 0 < case.frameTimeoutMs.getD 1500
  startup_timeout : 0 < case.startupTimeoutMs.getD 15000
  health : 0 ≤ case.warmupHealthWindowFrames.getD 0
  health_le :
    case.warmupHealthWindowFrames.getD 0 ≤
      case.warmupFrames.getD 30
  delivery :
    case.delivery.getD "wait" = "wait" ∨
      case.delivery.getD "wait" = "callback"
  apply_after : 0 ≤ case.deadlineApplyAfterFrames.getD 0
  gate :
    ∀ transition ∈ launch.transition,
      0 < transition.gateTimeoutMs
  roles :
    case.master? = none ∧ case.slaveList = [] ∨
      ∃ master, case.master? = some master ∧
        RolesFit case master
  priority :
    policy.rateMonotonic?.isSome → 0 < launch.priority
  modeled :
    policy.modeled →
      2 ≤ case.warmupFrames.getD 30 ∧
        case.deadlineApplyAfterFrames.getD 0 <
          case.warmupFrames.getD 30

/- The number of cameras has no part in these checks. -/
theorem validateHardwareSync_countSerials
    (opts : Options) :
    validateHardwareSync (countSerials opts) =
      validateHardwareSync opts := by
  unfold countSerials
  split
  · simp only [validateHardwareSync]
  · rfl

theorem validateScheduler_countSerials
    (opts : Options) :
    validateScheduler (countSerials opts) =
      validateScheduler opts := by
  unfold countSerials
  split
  · simp only [validateScheduler, modeledSchedulerRequested]
  · rfl

theorem master?_nonempty
    {master : String}
    (hMaster : case.master? = some master) :
    master ≠ "" := by
  unfold ProbeCase.master? at hMaster
  have hBoth := Option.filter_eq_some_iff.mp hMaster
  simpa using hBoth.2

/- The roles are checked as they are stated. -/
theorem validateHardwareSync_caseOptions :
    validateHardwareSync
        (countSerials (caseOptions case policy launch)) =
      .ok () ↔
    case.master? = none ∧ case.slaveList = [] ∨
      ∃ master, case.master? = some master ∧
        RolesFit case master := by
  rw [validateHardwareSync_countSerials]
  unfold validateHardwareSync
  cases hMaster : case.master? with
  | none =>
      have hEmpty :
          (caseOptions case policy launch).hardwareSyncMaster =
            "" := by
        simp [caseOptions, hMaster]
      have hSlaves :
          (caseOptions case policy launch).hardwareSyncSlaves =
            case.slaveList :=
        rfl
      rw [hEmpty, hSlaves]
      by_cases hNone : case.slaveList = []
      · simp [hNone]
      · simp [hNone]
  | some master =>
      have hText :
          (caseOptions case policy launch).hardwareSyncMaster =
            master := by
        simp [caseOptions, hMaster]
      have hSlaves :
          (caseOptions case policy launch).hardwareSyncSlaves =
            case.slaveList :=
        rfl
      have hSerials :
          (caseOptions case policy launch).serials =
            case.serialList :=
        rfl
      have hNonempty := master?_nonempty hMaster
      rw [hText, hSlaves, hSerials,
        if_pos (Or.inl hNonempty)]
      simp only [refuseIf_bind_eq_ok, refuseIf_eq_ok,
        Bool.or_eq_false_iff, decide_eq_false_iff_not, not_not]
      constructor
      · rintro ⟨⟨-, hSlave⟩, hSerial, hNodup, hMem, hAll, hRoles⟩
        refine Or.inr ⟨master, rfl, hSlave, hSerial, hNodup,
          hMem, hAll, fun serial => ?_⟩
        rw [← List.mem_toFinset, ← hRoles, Finset.mem_insert,
          List.mem_toFinset]
      · rintro (⟨hNone, -⟩ | ⟨other, hOther, hFit⟩)
        · cases hNone
        · cases hOther
          refine ⟨⟨hNonempty, hFit.slaves⟩, hFit.serials,
            hFit.slaves_nodup, hFit.master_notMem,
            hFit.serials_nodup, ?_⟩
          apply Finset.ext
          intro serial
          rw [Finset.mem_insert, List.mem_toFinset,
            List.mem_toFinset, hFit.all_roles]

/-
  A policy asks for one scheduler, with all of its options;
  what can be refused are the numbers.
-/
theorem validateScheduler_caseOptions :
    validateScheduler
        (countSerials (caseOptions case policy launch)) =
      .ok () ↔
    (policy.rateMonotonic?.isSome → 0 < launch.priority) ∧
      (policy.modeled →
        2 ≤ case.warmupFrames.getD 30 ∧
          case.deadlineApplyAfterFrames.getD 0 <
            case.warmupFrames.getD 30) := by
  have hProfile := launch.schedulerProfile.nonempty
  have hTwo :
      2 ≤ case.warmupFrames.getD 30 ↔
        1 < case.warmupFrames.getD 30 := Iff.rfl
  rw [validateScheduler_countSerials]
  unfold validateScheduler
  simp only [refuseIf_bind_eq_ok, refuseIf_eq_ok]
  cases policy with
  | other =>
      simp [caseOptions, Policy.rateMonotonic?, Policy.modeled,
        modeledSchedulerRequested]
  | rr =>
      simp [caseOptions, Policy.rateMonotonic?, Policy.modeled,
        modeledSchedulerRequested]
  | fifo =>
      simp [caseOptions, Policy.rateMonotonic?, Policy.modeled,
        modeledSchedulerRequested]
  | deadline =>
      simp [caseOptions, Policy.rateMonotonic?, Policy.modeled,
        modeledSchedulerRequested, hProfile, hTwo]
  | rrRm =>
      simp [caseOptions, Policy.rateMonotonic?, Policy.modeled,
        modeledSchedulerRequested, hProfile, hTwo]
  | fifoRm =>
      simp [caseOptions, Policy.rateMonotonic?, Policy.modeled,
        modeledSchedulerRequested, hProfile, hTwo]

theorem modeledSchedulerRequested_caseOptions :
    modeledSchedulerRequested (caseOptions case policy launch) =
      policy.modeled := by
  have hProfile := launch.schedulerProfile.nonempty
  cases policy <;>
    simp [caseOptions, Policy.rateMonotonic?, Policy.modeled,
      modeledSchedulerRequested, hProfile]

/- The checks of `parse_args`, one by one. -/
structure Valid (opts : Options) : Prop where
  cameras : 0 < opts.cameraCount
  frames : 0 < opts.frames
  fps : 0 < opts.fps
  duration : 0 ≤ opts.measurementDurationMs
  one_limit :
    opts.measurementDurationMs ≤ 0 ∨
      opts.measurementTimeoutMs ≤ 0
  warmup : 0 ≤ opts.warmupFrames
  frame_timeout : 0 < opts.frameTimeoutMs
  startup_timeout : 0 < opts.startupTimeoutMs
  health : 0 ≤ opts.warmupHealthWindowFrames
  health_le : opts.warmupHealthWindowFrames ≤ opts.warmupFrames
  delivery : opts.delivery = "wait" ∨ opts.delivery = "callback"
  apply_after : 0 ≤ opts.schedulerApplyAfterFrames
  gate_pair :
    opts.warmupReadyFile = "" ↔ opts.measurementStartGate = ""
  gate_timeout :
    opts.measurementStartGate = "" ∨
      0 < opts.measurementGateTimeoutMs
  roles : validateHardwareSync opts = .ok ()
  scheduler : validateScheduler opts = .ok ()

theorem validateOptions_iff
    {opts : Options} :
    validateOptions opts = .ok () ↔ Valid opts := by
  have hLast :
      (validateHardwareSync opts >>= fun _ =>
          validateScheduler opts) = .ok () ↔
        validateHardwareSync opts = .ok () ∧
          validateScheduler opts = .ok () := by
    cases validateHardwareSync opts with
    | error stop => simp [bind, Except.bind]
    | ok _ => simp [bind, Except.bind]
  unfold validateOptions
  simp only [refuseIf_bind_eq_ok, hLast,
    Bool.or_eq_false_iff, Bool.and_eq_false_iff,
    decide_eq_false_iff_not, bne_eq_false_iff_eq, Int.not_le,
    Int.not_lt, ne_eq, not_not, decide_eq_decide]
  constructor
  · rintro ⟨⟨⟨hCameras, hFrames⟩, hFps⟩, hDuration, hLimit,
      ⟨⟨hWarmup, hFrame⟩, hStartup⟩, ⟨hHealth, hLe⟩, hDelivery,
      hAfter, hPair, hTimeout, hRoles, hScheduler⟩
    exact ⟨hCameras, hFrames, hFps, hDuration, hLimit, hWarmup,
      hFrame, hStartup, hHealth, hLe, hDelivery, hAfter,
      not_iff_not.mp hPair, hTimeout, hRoles, hScheduler⟩
  · intro hValid
    exact ⟨⟨⟨hValid.cameras, hValid.frames⟩, hValid.fps⟩,
      hValid.duration, hValid.one_limit,
      ⟨⟨hValid.warmup, hValid.frame_timeout⟩,
        hValid.startup_timeout⟩,
      ⟨hValid.health, hValid.health_le⟩, hValid.delivery,
      hValid.apply_after, not_congr hValid.gate_pair,
      hValid.gate_timeout, hValid.roles, hValid.scheduler⟩

theorem parseArgs_probeArguments :
    parseArgs (probeArguments case policy launch) =
      if ∀ value ∈ caseIntegers case policy launch,
          CInt value then do
        validateOptions
          (countSerials (caseOptions case policy launch))
        return countSerials (caseOptions case policy launch)
      else
        .error (.error "stoi") := by
  unfold parseArgs
  rw [(stores_probeArguments case policy launch).run_eq,
    storeCase_default]
  split
  · rfl
  · rfl

/- The counted options are the options of the case. -/
theorem countSerials_caseOptions :
    countSerials (caseOptions case policy launch) =
      { caseOptions case policy launch with
        cameraCount := case.cameraTotal } := by
  have hSerials :
      (caseOptions case policy launch).serials =
        case.serialList :=
    rfl
  unfold countSerials ProbeCase.cameraTotal
  rw [hSerials]
  split
  · rfl
  · rfl

theorem valid_caseOptions :
    Valid (countSerials (caseOptions case policy launch)) ∧
        (∀ value ∈ caseIntegers case policy launch,
          CInt value) ↔
      Runnable case policy launch := by
  have hGate :
      ∀ files : Transition,
        files.warmupReadyPath.text ≠ "" ∧
          files.measurementGatePath.text ≠ "" :=
    fun files =>
      ⟨files.warmupReadyPath.nonempty,
        files.measurementGatePath.nonempty⟩
  constructor
  · rintro ⟨hValid, hIntegers⟩
    have hRoles :=
      validateHardwareSync_caseOptions.mp hValid.roles
    have hScheduler :=
      validateScheduler_caseOptions.mp hValid.scheduler
    rw [countSerials_caseOptions] at hValid
    have hDuration := hValid.duration
    exact
      { integers := hIntegers
        cameras := hValid.cameras
        frames := hValid.frames
        fps := hValid.fps
        duration := hDuration
        one_limit := hValid.one_limit.imp
          (fun hLess => Int.le_antisymm hLess hDuration) id
        warmup := hValid.warmup
        frame_timeout := hValid.frame_timeout
        startup_timeout := hValid.startup_timeout
        health := hValid.health
        health_le := hValid.health_le
        delivery := hValid.delivery
        apply_after := hValid.apply_after
        gate := by
          intro transition hMem
          have hTimeout := hValid.gate_timeout
          simp only [caseOptions, Option.mem_def.mp hMem,
            Option.map_some, Option.getD_some] at hTimeout
          exact hTimeout.resolve_left (hGate transition).2
        roles := hRoles
        priority := hScheduler.1
        modeled := hScheduler.2 }
  · intro hRun
    refine ⟨?_, hRun.integers⟩
    have hRoles :
        validateHardwareSync
            (countSerials (caseOptions case policy launch)) =
          .ok () :=
      validateHardwareSync_caseOptions.mpr hRun.roles
    have hScheduler :
        validateScheduler
            (countSerials (caseOptions case policy launch)) =
          .ok () :=
      validateScheduler_caseOptions.mpr
        ⟨hRun.priority, hRun.modeled⟩
    rw [countSerials_caseOptions] at hRoles hScheduler ⊢
    exact
      { cameras := hRun.cameras
        frames := hRun.frames
        fps := hRun.fps
        duration := hRun.duration
        one_limit := hRun.one_limit.imp le_of_eq id
        warmup := hRun.warmup
        frame_timeout := hRun.frame_timeout
        startup_timeout := hRun.startup_timeout
        health := hRun.health
        health_le := hRun.health_le
        delivery := hRun.delivery
        apply_after := hRun.apply_after
        gate_pair := by
          cases hTransition : launch.transition with
          | none => simp [caseOptions, hTransition]
          | some files =>
              simp [caseOptions, hTransition, hGate files]
        gate_timeout := by
          cases hTransition : launch.transition with
          | none => simp [caseOptions, hTransition]
          | some files =>
              have hTimeout := hRun.gate files hTransition
              simp [caseOptions, hTransition, hTimeout]
        roles := hRoles
        scheduler := hScheduler }

/- The traced command ends with the probe and its arguments. -/
theorem scheduledProbe_suffix
    (tracing : Tracing) :
    launch.probe.text :: probeArguments case policy launch <:+
      tracedCommand tracing
        (scheduledProbe case policy launch) := by
  have hTarget (front : List String) :
      launch.probe.text :: probeArguments case policy launch <:+
        front ++ scheduledProbe case policy launch :=
    (List.suffix_append _ _).trans (List.suffix_append _ _)
  unfold tracedCommand
  cases tracing.useLime <;> cases tracing.useSudo
  · exact hTarget _
  · exact (hTarget _).trans (List.suffix_append _ _)
  · exact (hTarget _).trans (List.suffix_append _ _)
  · exact ((hTarget _).trans (List.suffix_append _ _)).trans
      (List.suffix_append _ _)

/-
  Whatever the wrappers, the probe reads the command line as
  the options of the case, and asks for a modeled scheduler
  exactly under a modeled policy; only an integer outside
  the range of `int` stops its option loop.
-/
theorem scheduledProbe_readBack
    (case : ProbeCase)
    (policy : Policy)
    (launch : Launch)
    (tracing : Tracing) :
    launch.probe.text :: probeArguments case policy launch <:+
        tracedCommand tracing
          (scheduledProbe case policy launch) ∧
      parseArgsLoop (probeArguments case policy launch) {} =
        (if ∀ value ∈ caseIntegers case policy launch,
            CInt value then
          .ok (caseOptions case policy launch)
        else
          .error (.error "stoi")) ∧
      modeledSchedulerRequested
          (caseOptions case policy launch) =
        policy.modeled := by
  refine ⟨scheduledProbe_suffix tracing, ?_,
    modeledSchedulerRequested_caseOptions⟩
  rw [(stores_probeArguments case policy launch).run_eq,
    storeCase_default]
  rfl

/-
  The probe runs a case exactly if its fields are fit, those
  that are compared with each other included; the options are
  then those of the case.
-/
theorem probeArguments_accepted_iff
    (case : ProbeCase)
    (policy : Policy)
    (launch : Launch)
    (opts : Options) :
    parseArgs (probeArguments case policy launch) = .ok opts ↔
      Runnable case policy launch ∧
        opts =
          { caseOptions case policy launch with
            cameraCount := case.cameraTotal } := by
  rw [parseArgs_probeArguments, ← valid_caseOptions,
    ← countSerials_caseOptions]
  by_cases hIntegers :
      ∀ value ∈ caseIntegers case policy launch, CInt value
  · rw [if_pos hIntegers, bind_eq_ok]
    constructor
    · rintro ⟨_, hValid, hSame⟩
      cases hSame
      exact ⟨⟨validateOptions_iff.mp hValid, hIntegers⟩, rfl⟩
    · rintro ⟨⟨hValid, -⟩, hSame⟩
      exact ⟨(), validateOptions_iff.mpr hValid, by rw [hSame]; rfl⟩
  · rw [if_neg hIntegers]
    constructor
    · intro hNone
      cases hNone
    · rintro ⟨⟨-, hAll⟩, -⟩
      exact absurd hAll hIntegers

end Probe

end RsCamera
