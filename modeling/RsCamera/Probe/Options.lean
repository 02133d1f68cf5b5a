import Mathlib.Data.Finset.Dedup
import Mathlib.Data.Finset.Insert
import RsCamera.Lib.Numeral

/-
  The command line of the steady probe: the option loop of
  `parse_args` and the checks after it
  (`realsense_steady_probe.cpp`).

  Key definitions include:
    * `Options`
    * `parseArgsLoop`, `validateOptions`, `parseArgs`
    * `modeledSchedulerRequested`, `fixedDurationMeasurement`
    * `schedulerApplyThreshold`

  Key theorems include:
    * `parseArgs_accepted`
-/

------------------------------------------------------------
-- Options
------------------------------------------------------------

namespace RsCamera

namespace Probe

/- The options, with their defaults. -/
structure Options where
  serials : List String := []
  streamMode : String := "stereo_all"
  delivery : String := "wait"
  summaryOutput : String := ""
  eventsOutput : String := ""
  deadlineProfile : String := ""
  rateMonotonicProfile : String := ""
  rateMonotonicPolicy : String := ""
  warmupReadyFile : String := ""
  measurementStartGate : String := ""
  hardwareSyncMaster : String := ""
  hardwareSyncSlaves : List String := []
  deadlineAllowPartialProfile : Bool := false
  schedulerApplyAfterFrames : Int := 0
  rateMonotonicHighestPriority : Int := 80
  cameraCount : Int := 1
  depthWidth : Int := 848
  depthHeight : Int := 480
  colorWidth : Int := 640
  colorHeight : Int := 480
  fps : Int := 30
  frames : Int := 10000
  warmupFrames : Int := 30
  warmupHealthWindowFrames : Int := 0
  frameTimeoutMs : Int := 1500
  startupTimeoutMs : Int := 15000
  measurementDurationMs : Int := 0
  measurementTimeoutMs : Int := 0
  measurementGateTimeoutMs : Int := 0
deriving Repr, DecidableEq

/- Why `parse_args` does not return options. -/
inductive ParseStop
| help
| error (message : String)
deriving Repr, DecidableEq

/- `modeled_scheduler_requested`. -/
def modeledSchedulerRequested (opts : Options) : Bool :=
  opts.deadlineProfile ≠ "" || opts.rateMonotonicProfile ≠ ""

/- `fixed_duration_measurement`. -/
def fixedDurationMeasurement (opts : Options) : Bool :=
  0 < opts.measurementDurationMs

/- `scheduler_apply_threshold`. -/
def schedulerApplyThreshold (opts : Options) : Int :=
  if 0 < opts.schedulerApplyAfterFrames then
    opts.schedulerApplyAfterFrames
  else
    min opts.fps (max 1 (opts.warmupFrames / 10))

------------------------------------------------------------
-- Option Loop
------------------------------------------------------------

/- The arguments that take a text or a list entry. -/
def setText
    (arg value : String)
    (opts : Options) : Option Options :=
  match arg with
  | "--serial" =>
      some { opts with serials := opts.serials ++ [value] }
  | "--stream-mode" => some { opts with streamMode := value }
  | "--delivery" => some { opts with delivery := value }
  | "--summary-output" =>
      some { opts with summaryOutput := value }
  | "--events-output" =>
      some { opts with eventsOutput := value }
  | "--deadline-profile" =>
      some { opts with deadlineProfile := value }
  | "--rate-monotonic-profile" =>
      some { opts with rateMonotonicProfile := value }
  | "--rate-monotonic-policy" =>
      some { opts with rateMonotonicPolicy := value }
  | "--warmup-ready-file" =>
      some { opts with warmupReadyFile := value }
  | "--measurement-start-gate" =>
      some { opts with measurementStartGate := value }
  | "--hardware-sync-master" =>
      some { opts with hardwareSyncMaster := value }
  | "--hardware-sync-slave" =>
      some { opts with
        hardwareSyncSlaves :=
          opts.hardwareSyncSlaves ++ [value] }
  | _ => none

/- The arguments that take an integer. -/
def setInt
    (arg : String)
    (value : Int)
    (opts : Options) : Option Options :=
  match arg with
  | "--camera-count" => some { opts with cameraCount := value }
  | "--frames" => some { opts with frames := value }
  | "--warmup-frames" =>
      some { opts with warmupFrames := value }
  | "--warmup-health-window-frames" =>
      some { opts with warmupHealthWindowFrames := value }
  | "--frame-timeout-ms" =>
      some { opts with frameTimeoutMs := value }
  | "--startup-timeout-ms" =>
      some { opts with startupTimeoutMs := value }
  | "--measurement-duration-ms" =>
      some { opts with measurementDurationMs := value }
  | "--measurement-timeout-ms" =>
      some { opts with measurementTimeoutMs := value }
  | "--fps" => some { opts with fps := value }
  | "--depth-width" => some { opts with depthWidth := value }
  | "--depth-height" => some { opts with depthHeight := value }
  | "--color-width" => some { opts with colorWidth := value }
  | "--color-height" => some { opts with colorHeight := value }
  | "--deadline-apply-after-frames" =>
      some { opts with schedulerApplyAfterFrames := value }
  | "--scheduler-apply-after-frames" =>
      some { opts with schedulerApplyAfterFrames := value }
  | "--rate-monotonic-highest-priority" =>
      some { opts with rateMonotonicHighestPriority := value }
  | "--measurement-gate-timeout-ms" =>
      some { opts with measurementGateTimeoutMs := value }
  | _ => none

/- Whether an argument is followed by a value. -/
def takesValue (arg : String) : Bool :=
  (setText arg "" {}).isSome || (setInt arg 0 {}).isSome

/- Store the value of one argument. -/
def setValue
    (arg value : String)
    (opts : Options) : Except ParseStop Options :=
  match setText arg value opts with
  | some next => .ok next
  | none =>
      match stoi value with
      | .error message => .error (.error message)
      | .ok number => .ok ((setInt arg number opts).getD opts)

/- The loop of `parse_args`. -/
def parseArgsLoop :
    List String → Options → Except ParseStop Options
| [], opts => .ok opts
| arg :: rest, opts =>
    if takesValue arg then
      match rest with
      | [] => .error (.error ("Missing value for " ++ arg))
      | value :: rest =>
          match setValue arg value opts with
          | .error stop => .error stop
          | .ok next => parseArgsLoop rest next
    else if arg = "--deadline-allow-partial-profile" then
      parseArgsLoop rest
        { opts with deadlineAllowPartialProfile := true }
    else if arg = "--help" ∨ arg = "-h" then
      .error .help
    else
      .error (.error ("Unknown argument: " ++ arg))

------------------------------------------------------------
-- Checks
------------------------------------------------------------

/- Refuse the options with a message. -/
def refuseIf
    (bad : Bool)
    (message : String) : Except ParseStop Unit :=
  if bad then .error (.error message) else .ok ()

/- The checks on the hardware-sync roles. -/
def validateHardwareSync
    (opts : Options) : Except ParseStop Unit :=
  if opts.hardwareSyncMaster ≠ "" ∨
      opts.hardwareSyncSlaves ≠ [] then do
    refuseIf
      (opts.hardwareSyncMaster = "" ||
        opts.hardwareSyncSlaves = [])
      "Hardware sync requires one master and at least one slave"
    refuseIf (opts.serials = [])
      "Hardware sync requires explicit --serial arguments"
    refuseIf (¬ opts.hardwareSyncSlaves.Nodup)
      "Hardware-sync slave serials must be unique"
    refuseIf
      (opts.hardwareSyncMaster ∈ opts.hardwareSyncSlaves)
      "The hardware-sync master cannot also be a slave"
    refuseIf (¬ opts.serials.Nodup)
      "Selected camera serials must be unique"
    refuseIf
      (insert opts.hardwareSyncMaster
          opts.hardwareSyncSlaves.toFinset ≠
        opts.serials.toFinset)
      "Every selected camera must have exactly one hardware-sync role"
  else
    .ok ()

/- The checks on the requested scheduler. -/
def validateScheduler
    (opts : Options) : Except ParseStop Unit := do
  let deadlineRequested : Bool := opts.deadlineProfile ≠ ""
  let profileRequested : Bool :=
    opts.rateMonotonicProfile ≠ ""
  let policyRequested : Bool := opts.rateMonotonicPolicy ≠ ""
  refuseIf
    (deadlineRequested &&
      (profileRequested || policyRequested))
    "SCHED_DEADLINE and rate-monotonic scheduling are mutually exclusive"
  refuseIf (profileRequested != policyRequested)
    "rate-monotonic-profile and rate-monotonic-policy must be used together"
  refuseIf
    (policyRequested && opts.rateMonotonicPolicy ≠ "rr" &&
      opts.rateMonotonicPolicy ≠ "fifo")
    "rate-monotonic-policy must be rr or fifo"
  refuseIf
    (policyRequested && opts.rateMonotonicHighestPriority ≤ 0)
    "rate-monotonic-highest-priority must be positive"
  refuseIf
    (modeledSchedulerRequested opts && opts.warmupFrames < 2)
    "Modeled scheduling requires at least two warm-up deliveries"
  refuseIf
    (modeledSchedulerRequested opts &&
      opts.warmupFrames ≤ opts.schedulerApplyAfterFrames)
    "scheduler-apply-after-frames must be less than warmup-frames"

/- The checks behind the loop. -/
def validateOptions
    (opts : Options) : Except ParseStop Unit := do
  refuseIf
    (opts.cameraCount ≤ 0 || opts.frames ≤ 0 || opts.fps ≤ 0)
    "camera-count, frames, and fps must be positive"
  refuseIf (opts.measurementDurationMs < 0)
    "measurement-duration-ms must be non-negative"
  refuseIf
    (0 < opts.measurementDurationMs &&
      0 < opts.measurementTimeoutMs)
    "measurement-duration-ms and measurement-timeout-ms are mutually exclusive"
  refuseIf
    (opts.warmupFrames < 0 || opts.frameTimeoutMs ≤ 0 ||
      opts.startupTimeoutMs ≤ 0)
    "Invalid warm-up or timeout value"
  refuseIf
    (opts.warmupHealthWindowFrames < 0 ||
      opts.warmupFrames < opts.warmupHealthWindowFrames)
    "warmup-health-window-frames must be zero or no larger than warmup-frames"
  refuseIf
    (opts.delivery ≠ "wait" && opts.delivery ≠ "callback")
    ("Unsupported delivery mode: " ++ opts.delivery)
  refuseIf (opts.schedulerApplyAfterFrames < 0)
    "scheduler-apply-after-frames must be non-negative"
  let hasWarmupFile : Bool := opts.warmupReadyFile ≠ ""
  let hasMeasurementGate : Bool :=
    opts.measurementStartGate ≠ ""
  refuseIf (hasWarmupFile != hasMeasurementGate)
    "warmup-ready-file and measurement-start-gate must be used together"
  refuseIf
    (hasMeasurementGate && opts.measurementGateTimeoutMs ≤ 0)
    "measurement-gate-timeout-ms must be positive when a gate is used"
  validateHardwareSync opts
  validateScheduler opts

/- Explicit serials determine the number of cameras. -/
def countSerials (opts : Options) : Options :=
  if opts.serials ≠ [] then
    { opts with
      cameraCount := (opts.serials.length : Int).bmod (2 ^ 32) }
  else
    opts

/- `parse_args`. -/
def parseArgs
    (args : List String) : Except ParseStop Options := do
  let opts ← parseArgsLoop args {}
  validateOptions (countSerials opts)
  return countSerials opts

------------------------------------------------------------
-- Accepted Options
------------------------------------------------------------

/- What every accepted set of options satisfies. -/
structure Accepted (opts : Options) : Prop where
  frames_pos : 0 < opts.frames
  frames_lt : opts.frames < 2 ^ 31
  fps_pos : 0 < opts.fps
  fps_lt : opts.fps < 2 ^ 31
  duration_nonneg : 0 ≤ opts.measurementDurationMs
  duration_lt : opts.measurementDurationMs < 2 ^ 31
  warmup_nonneg : 0 ≤ opts.warmupFrames
  health_le :
    opts.warmupHealthWindowFrames ≤ opts.warmupFrames
  delivery_mode :
    opts.delivery = "wait" ∨ opts.delivery = "callback"
  threshold_lt :
    modeledSchedulerRequested opts = true →
      schedulerApplyThreshold opts < opts.warmupFrames

/- The integer options keep the range of `int`. -/
structure InRange (opts : Options) : Prop where
  frames_lt : opts.frames < 2 ^ 31
  fps_lt : opts.fps < 2 ^ 31
  duration_lt : opts.measurementDurationMs < 2 ^ 31

@[simp] theorem refuseIf_bind_eq_ok
    {bad : Bool}
    {message : String}
    {k : Unit → Except ParseStop Unit} :
    ((refuseIf bad message) >>= k) = .ok () ↔
      bad = false ∧ k () = .ok () := by
  cases bad <;> simp [refuseIf, bind, Except.bind]

@[simp] theorem refuseIf_eq_ok
    {bad : Bool}
    {message : String} :
    refuseIf bad message = .ok () ↔ bad = false := by
  cases bad <;> simp [refuseIf]

theorem setText_inRange
    {arg value : String}
    {opts next : Options}
    (hRange : InRange opts)
    (hNext : setText arg value opts = some next) :
    InRange next := by
  unfold setText at hNext
  split at hNext
  all_goals cases hNext
  all_goals exact ⟨hRange.1, hRange.2, hRange.3⟩

theorem setInt_inRange
    {arg : String}
    {value : Int}
    {opts next : Options}
    (hRange : InRange opts)
    (hValue : value < 2 ^ 31)
    (hNext : setInt arg value opts = some next) :
    InRange next := by
  unfold setInt at hNext
  split at hNext
  all_goals cases hNext
  all_goals constructor
  all_goals first
    | exact hValue
    | exact hRange.frames_lt
    | exact hRange.fps_lt
    | exact hRange.duration_lt

theorem setValue_inRange
    {arg value : String}
    {opts next : Options}
    (hRange : InRange opts)
    (hNext : setValue arg value opts = .ok next) :
    InRange next := by
  unfold setValue at hNext
  split at hNext
  · next hText =>
      cases hNext
      exact setText_inRange hRange hText
  · split at hNext
    · cases hNext
    · next number hNumber =>
        cases hNext
        cases hInt : setInt arg number opts with
        | none => exact hRange
        | some next =>
            exact setInt_inRange hRange
              (stoi_range hNumber).2 hInt

theorem parseArgsLoop_inRange
    {args : List String}
    {opts next : Options}
    (hRange : InRange opts)
    (hNext : parseArgsLoop args opts = .ok next) :
    InRange next := by
  fun_induction parseArgsLoop args opts with
  | case1 opts =>
      cases hNext
      exact hRange
  | case2 => cases hNext
  | case3 => cases hNext
  | case4 opts arg _ value rest middle hMiddle ih =>
      exact ih (setValue_inRange hRange hMiddle) hNext
  | case5 opts rest _ ih =>
      exact ih ⟨hRange.1, hRange.2, hRange.3⟩ hNext
  | case6 => cases hNext
  | case7 => cases hNext

/-
  The scheduler is applied strictly before the warm-up ends.
-/
theorem schedulerApplyThreshold_lt
    {opts : Options}
    (hWarmup : 2 ≤ opts.warmupFrames)
    (hAfter :
      opts.schedulerApplyAfterFrames < opts.warmupFrames) :
    schedulerApplyThreshold opts < opts.warmupFrames := by
  unfold schedulerApplyThreshold
  split
  · exact hAfter
  · omega

theorem validateOptions_accepted
    {opts : Options}
    (hRange : InRange opts)
    (hValid : validateOptions opts = .ok ()) :
    Accepted opts := by
  simp only [validateOptions, refuseIf_bind_eq_ok] at hValid
  rcases hValid with
    ⟨hPositive, hDuration, _, hWarmup, hHealth, hDelivery,
      _, _, _, hRest⟩
  have hScheduler : validateScheduler opts = .ok () := by
    cases hSync : validateHardwareSync opts with
    | error stop =>
        simp [hSync, bind, Except.bind] at hRest
    | ok _ => simpa [hSync, bind, Except.bind] using hRest
  simp only [validateScheduler, refuseIf_bind_eq_ok,
    refuseIf_eq_ok] at hScheduler
  rcases hScheduler with ⟨_, _, _, _, hTwo, hAfter⟩
  simp only [Bool.or_eq_false_iff,
    decide_eq_false_iff_not] at hPositive hDuration
  simp only [Bool.or_eq_false_iff,
    decide_eq_false_iff_not] at hWarmup hHealth
  constructor
  · omega
  · exact hRange.frames_lt
  · omega
  · exact hRange.fps_lt
  · omega
  · exact hRange.duration_lt
  · omega
  · omega
  · by_cases hWait : opts.delivery = "wait"
    · exact Or.inl hWait
    · right
      simpa [hWait] using hDelivery
  · intro hModeled
    simp only [hModeled, Bool.true_and,
      decide_eq_false_iff_not] at hTwo hAfter
    exact schedulerApplyThreshold_lt (by omega) (by omega)

/- Everything `parse_args` returns has passed its checks. -/
theorem parseArgs_accepted
    {args : List String}
    {opts : Options}
    (hParse : parseArgs args = .ok opts) :
    Accepted opts := by
  unfold parseArgs at hParse
  cases hLoop : parseArgsLoop args {} with
  | error stop => simp [hLoop, bind, Except.bind] at hParse
  | ok parsed =>
      have hRange : InRange parsed :=
        parseArgsLoop_inRange
          ⟨by decide, by decide, by decide⟩ hLoop
      have hCounted : InRange (countSerials parsed) := by
        unfold countSerials
        split
        · exact ⟨hRange.1, hRange.2, hRange.3⟩
        · exact hRange
      cases hValid : validateOptions (countSerials parsed) with
      | error stop =>
          simp [hLoop, hValid, bind, Except.bind] at hParse
      | ok _ =>
          simp only [hLoop, hValid, bind, Except.bind, pure,
            Except.pure, Except.ok.injEq] at hParse
          exact hParse ▸
            validateOptions_accepted hCounted hValid

end Probe

end RsCamera
