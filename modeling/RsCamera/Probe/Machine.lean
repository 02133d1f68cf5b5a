import RsCamera.Lib.Transition
import RsCamera.Probe.Delivery

/-
  One run of the steady probe as a transition system: the
  wait threads or the callback threads of any number of
  cameras, and the main thread that passes the warm-up
  barrier, opens and closes the measurement and tears the
  cameras down (`record_delivery`, `wait_loop`, `main`).

  Each step reads or writes shared memory at most once, or
  runs inside one critical section.  A thread that holds a
  camera's mutex across two steps has the camera `locked`.
  What comes from outside (frames, timeouts, library errors,
  the gate file, the clock) is an input of the step.

  Key definitions include:
    * `Control`, `ControlOp`, `Failure`
    * `ThreadPhase`, `MainPoint`, `State`
    * `threadStep`, `mainStep`, `probe`
    * `Config`, `start`
-/

------------------------------------------------------------
-- Shared Control
------------------------------------------------------------

namespace RsCamera

namespace Probe

section

open Steady

/- Why a run is declared failed. -/
inductive Failure
| schedulerTransitionTimeout
| schedulerSetup (deadlineProfile : Bool) (what : String)
| warmupTimeout
| noiseSetup (detail : String)
| measurementTimeout
| warmupFreshness (serial : String) (error : HealthError)
| measurementStorage
    (serial : String)
    (error : StorageError)
| frameWait
    (noiseTransition : Bool)
    (serial error : String)
| pipelineStop (serial what : String)
| hardwareSyncRestore (what : String)
deriving Repr, DecidableEq

/- The text of a failure. -/
def Failure.message : Failure → String
| .schedulerTransitionTimeout =>
    "Timed out before the modeled-scheduler warm-up transition"
| .schedulerSetup true what =>
    "SCHED_DEADLINE setup failed: " ++ what
| .schedulerSetup false what =>
    "Rate-monotonic setup failed: " ++ what
| .warmupTimeout =>
    "Timed out while waiting for all cameras to warm up"
| .noiseSetup detail => "Noise setup failed: " ++ detail
| .measurementTimeout =>
    "Timed out during steady-state measurement"
| .warmupFreshness serial error =>
    "Warm-up freshness check failed: " ++ error.text serial
| .measurementStorage serial error =>
    "Measurement storage failure for " ++ serial ++ ": " ++
      error.text
| .frameWait noiseTransition serial error =>
    (if noiseTransition then
      "Noise transition frame failure: "
    else
      "") ++ serial ++ ": " ++ error
| .pipelineStop serial what => serial ++ " stop: " ++ what
| .hardwareSyncRestore what =>
    "Hardware-sync restore failed: " ++ what

/- The counters of cameras that reached a milestone. -/
inductive Counter
| schedulerReady
| warmed
| completed
deriving Repr, DecidableEq

/- What the threads share. -/
structure Control where
  measurementEnabled : Bool := false
  measurementDeadlineNs : Nat := 0
  noiseTransitionActive : Bool := false
  stop : Bool := false
  schedulerReadyCameras : Nat := 0
  warmedCameras : Nat := 0
  completedCameras : Nat := 0
  failed : Bool := false
  error : String := ""
deriving Repr, DecidableEq

/- The value of a counter. -/
def Control.count (control : Control) : Counter → Nat
| .schedulerReady => control.schedulerReadyCameras
| .warmed => control.warmedCameras
| .completed => control.completedCameras

/- One critical section on the shared control. -/
inductive ControlOp
| fail (failure : Failure)
| raiseStop
| add (counter : Counter)
deriving Repr, DecidableEq

/- The first failure is kept. -/
def Control.apply
    (control : Control) : ControlOp → Control
| .fail failure =>
    if control.failed then
      control
    else
      { control with
        failed := true
        error := failure.message }
| .raiseStop => { control with stop := true }
| .add .schedulerReady =>
    { control with
      schedulerReadyCameras :=
        control.schedulerReadyCameras + 1 }
| .add .warmed =>
    { control with
      warmedCameras := control.warmedCameras + 1 }
| .add .completed =>
    { control with
      completedCameras := control.completedCameras + 1 }

/- `set_failure` stores the failure, then the stop flag. -/
def setFailure (failure : Failure) : List ControlOp :=
  [.fail failure, .raiseStop]

/- What a camera thread does after it unlocked its camera. -/
def DeliveryOutcome.ops
    (outcome : DeliveryOutcome)
    (serial : String) : List ControlOp :=
  match outcome.healthError, outcome.storageError with
  | some error, _ =>
      setFailure (.warmupFreshness serial error)
  | none, some error =>
      setFailure (.measurementStorage serial error)
  | none, none =>
      (if outcome.becameSchedulerReady then
        [.add .schedulerReady]
      else
        []) ++
      (if outcome.becameWarm then [.add .warmed] else []) ++
      (if outcome.becameComplete then
        [.add .completed]
      else
        [])

end

------------------------------------------------------------
-- Threads And States
------------------------------------------------------------

section

open Steady

/- A delivery with its times, on its way to the records. -/
structure Delivery (n : Nat) where
  camera : Fin n
  payload : Payload
  hostNs : Nat
  hostRealtimeNs : Nat
  waitMs : ℚ
deriving Repr, DecidableEq

/-
  The threads that record deliveries: the wait thread of
  each camera, and the library's callback threads.
-/
abbrev ThreadId (n m : Nat) := Fin n ⊕ Fin m

/- Where a camera thread stands. -/
inductive ThreadPhase (n : Nat)
| unborn
| idle
| looping
| starting
| opening (wasEnabled : Bool)
| waiting (wasEnabled : Bool) (beginNs : Nat)
| failedWait (wasEnabled : Bool) (error : String)
| countedTimeout (wasEnabled : Bool) (error : String)
| reporting (error : String)
| arrived (delivery : Delivery n)
| measuring (delivery : Delivery n)
| signalling
    (camera : Fin n)
    (ops : List ControlOp)
    (exits : Bool)
| finished
deriving Repr, DecidableEq

/- What looking for the gate file finds. -/
inductive GateLook
| errorFile (text : String)
| gateFile (timestamp : Option Nat)
| nothing
| timedOut
deriving Repr, DecidableEq

/- Where the main thread stands. -/
inductive MainPoint (n : Nat)
| startPipelines (rest : List (Fin n))
| spawnThreads (rest : List (Fin n))
| schedulerWait
| schedulerCheck
| schedulerApply
| warmCheck
| warmWait
| readyCheck
| readyRead
| publishReady
| gatePoll
| gateInspect
| gateClose
| startCheck
| startRead
| deadlineStore
| enable
| measureWait
| disable
| endRead
| stopStore
| stopPipelines (rest : List (Fin n))
| stopFailed
    (camera : Fin n)
    (what : String)
    (rest : List (Fin n))
| joinThreads (rest : List (Fin n))
| restoreSync
| restoreFailed (what : String)
| done
| aborted
deriving Repr, DecidableEq

/- The cameras, the threads and the main thread. -/
structure State (n m : Nat) where
  clock : Nat := 0
  cameras : Fin n → CameraMetrics
  locked : Fin n → Bool := fun _ => false
  running : Fin n → Bool := fun _ => false
  control : Control := {}
  threads : ThreadId n m → ThreadPhase n
  main : MainPoint n
  mainOps : List ControlOp := []
  warmupReadyNs : Nat := 0
  measurementGateOpenNs : Nat := 0
  measurementStartNs : Nat := 0
  measurementEndNs : Nat := 0

/- What a delivery thread may do. -/
inductive ThreadAction (n : Nat)
| proceed
| frameReturned (payload : Payload) (realtimeNs : Nat)
| waitFailed (error : String)
| callback
    (camera : Fin n)
    (payload : Payload)
    (realtimeNs : Nat)
deriving Repr, DecidableEq

/- What the main thread may meet. -/
inductive MainInput
| proceed
| timedOut
| raised (what : String)
| gate (look : GateLook)
deriving Repr, DecidableEq

/- A step of the probe. -/
inductive Action (n m : Nat)
| tick (now : Nat)
| thread (id : ThreadId n m) (action : ThreadAction n)
| main (input : MainInput)
deriving Repr, DecidableEq

/- The camera with a serial. -/
def cameraIndex
    {n : Nat}
    (serials : Fin n → String)
    (serial : String) : Except String (Fin n) :=
  match (List.finRange n).find?
      (fun camera => serials camera = serial) with
  | some camera => .ok camera
  | none =>
      .error ("Selected camera is unavailable: " ++ serial)

/- The slaves are started before the master. -/
def pipelineStartOrder
    {n : Nat}
    (opts : Options)
    (serials : Fin n → String) :
    Except String (List (Fin n)) :=
  if opts.hardwareSyncMaster = "" then
    .ok (List.finRange n)
  else
    (opts.hardwareSyncSlaves ++
      [opts.hardwareSyncMaster]).mapM (cameraIndex serials)

/-
  What is fixed before the first pipeline starts.  None of
  the functions that compute it may have thrown.
-/
structure Config (n : Nat) where
  args : List String
  opts : Options
  parsed : parseArgs args = .ok opts
  serials : Fin n → String
  plan : StoragePlan
  planned :
    makeStoragePlan opts.frames opts.measurementDurationMs
      opts.fps (expectedStreamCount opts.streamMode)
      (opts.delivery = "callback") = .ok plan
  startOrder : List (Fin n)
  ordered : pipelineStartOrder opts serials = .ok startOrder

/- The state before the first pipeline starts. -/
def start
    {n : Nat}
    (cfg : Config n)
    (m : Nat) : State n m where
  cameras _ :=
    prepareCameraMetrics {} cfg.opts.streamMode cfg.plan
  threads id :=
    match id with
    | .inl _ => .unborn
    | .inr _ => .idle
  main := .startPipelines cfg.startOrder

end

------------------------------------------------------------
-- Steps Of The Camera Threads
------------------------------------------------------------

section

open Steady

variable {n m : Nat}

/- One thread goes on. -/
def State.setThread
    (s : State n m)
    (id : ThreadId n m)
    (phase : ThreadPhase n) : State n m :=
  { s with threads := Function.update s.threads id phase }

/- One camera has other metrics. -/
def State.setCamera
    (s : State n m)
    (camera : Fin n)
    (metrics : CameraMetrics) : State n m :=
  { s with
    cameras := Function.update s.cameras camera metrics }

/- The mutex of one camera. -/
def State.setLocked
    (s : State n m)
    (camera : Fin n)
    (locked : Bool) : State n m :=
  { s with locked := Function.update s.locked camera locked }

/- Account a wait that returned no frame. -/
def countTimeout
    (metrics : CameraMetrics)
    (wasEnabled : Bool) : CameraMetrics :=
  if wasEnabled then
    { metrics with
      timeouts := metrics.timeouts + 1
      measurementTimeouts := metrics.measurementTimeouts + 1 }
  else
    { metrics with
      timeouts := metrics.timeouts + 1
      preMeasurementTimeouts :=
        metrics.preMeasurementTimeouts + 1 }

/-
  The first half of `record_delivery`: take the camera's
  mutex, and either finish the critical section or stop
  before the deadline is loaded.
-/
def enterDelivery
    (cfg : Config n)
    (s : State n m)
    (id : ThreadId n m)
    (d : Delivery n) : Option (State n m) :=
  let metrics := s.cameras d.camera
  if s.locked d.camera then
    none
  else if metrics.completed then
    some (s.setThread id (.signalling d.camera [] false))
  else if !metrics.warmed then
    let recorded :=
      recordWarmupDelivery cfg.opts metrics d.payload d.hostNs
    some
      ((s.setCamera d.camera recorded.1).setThread id
        (.signalling d.camera
          (recorded.2.ops (cfg.serials d.camera)) false))
  else if s.control.measurementEnabled then
    some
      ((s.setLocked d.camera true).setThread id
        (.measuring d))
  else
    some (s.setThread id (.signalling d.camera [] false))

/-
  The second half: load the deadline, record the delivery
  unless it is late, and release the camera's mutex.
-/
def measureDelivery
    (cfg : Config n)
    (s : State n m)
    (id : ThreadId n m)
    (d : Delivery n) : State n m :=
  let deadlineNs := s.control.measurementDeadlineNs
  if deadlineNs ≠ 0 ∧ deadlineNs < d.hostNs then
    (s.setLocked d.camera false).setThread id
      (.signalling d.camera [] false)
  else
    let recorded :=
      recordMeasuredDelivery cfg.opts (s.cameras d.camera)
        d.payload d.hostNs d.hostRealtimeNs d.waitMs
    ((s.setCamera d.camera recorded.1).setLocked d.camera
        false).setThread id
      (.signalling d.camera
        (recorded.2.ops (cfg.serials d.camera)) false)

/- The control flow of `wait_loop` around `record_delivery`. -/
def waitLoopStep
    (cfg : Config n)
    (s : State n m)
    (camera : Fin n)
    (action : ThreadAction n) : Option (State n m) :=
  match s.threads (.inl camera), action with
  | .looping, .proceed =>
      some (s.setThread (.inl camera)
        (if s.control.stop then .finished else .starting))
  | .starting, .proceed =>
      some (s.setThread (.inl camera)
        (.opening s.control.measurementEnabled))
  | .opening wasEnabled, .proceed =>
      some (s.setThread (.inl camera)
        (.waiting wasEnabled s.clock))
  | .waiting _ beginNs, .frameReturned payload realtimeNs =>
      some (s.setThread (.inl camera)
        (.arrived
          { camera := camera
            payload := payload
            hostNs := s.clock
            hostRealtimeNs := realtimeNs
            waitMs := nsToMs (u64Sub s.clock beginNs) }))
  | .waiting wasEnabled _, .waitFailed error =>
      some (s.setThread (.inl camera)
        (.failedWait wasEnabled error))
  | .failedWait wasEnabled error, .proceed =>
      if s.locked camera then
        none
      else
        some
          ((s.setCamera camera
              (countTimeout (s.cameras camera)
                wasEnabled)).setThread
            (.inl camera) (.countedTimeout wasEnabled error))
  | .countedTimeout wasEnabled error, .proceed =>
      -- The stop and failure flags only rise and the
      -- measurement flag falls once, so the two loads of
      -- each condition have the value of a single one.
      some (s.setThread (.inl camera)
        (if wasEnabled then
          if !s.control.measurementEnabled ||
              s.control.stop then
            .finished
          else
            .looping
        else if s.control.stop && s.control.failed then
          .finished
        else
          .reporting error))
  | .reporting error, .proceed =>
      some (s.setThread (.inl camera)
        (.signalling camera
          (setFailure
            (.frameWait s.control.noiseTransitionActive
              (cfg.serials camera) error)) true))
  | .signalling _ [] true, .proceed =>
      some (s.setThread (.inl camera) .finished)
  | .signalling _ [] false, .proceed =>
      if s.locked camera then
        none
      else
        some (s.setThread (.inl camera)
          (if (s.cameras camera).completed then
            .finished
          else
            .looping))
  | _, _ => none

/- A callback thread is lent to one delivery at a time. -/
def callbackStep
    (s : State n m)
    (worker : Fin m)
    (action : ThreadAction n) : Option (State n m) :=
  match s.threads (.inr worker), action with
  | .idle, .callback camera payload realtimeNs =>
      if s.running camera then
        some (s.setThread (.inr worker)
          (.arrived
            { camera := camera
              payload := payload
              hostNs := s.clock
              hostRealtimeNs := realtimeNs
              waitMs := -1 }))
      else
        none
  | .signalling _ [] _, .proceed =>
      some (s.setThread (.inr worker) .idle)
  | _, _ => none

/- A step of a delivery thread. -/
def threadStep
    (cfg : Config n)
    (s : State n m)
    (id : ThreadId n m)
    (action : ThreadAction n) : Option (State n m) :=
  match s.threads id, action with
  | .arrived d, .proceed => enterDelivery cfg s id d
  | .measuring d, .proceed =>
      some (measureDelivery cfg s id d)
  | .signalling camera (op :: ops) exits, .proceed =>
      some
        (({ s with control := s.control.apply op }).setThread
          id (.signalling camera ops exits))
  | _, _ =>
      match id with
      | .inl camera => waitLoopStep cfg s camera action
      | .inr worker =>
          if cfg.opts.delivery = "callback" then
            callbackStep s worker action
          else
            none

end

------------------------------------------------------------
-- Steps Of The Main Thread
------------------------------------------------------------

open Steady

variable {n m : Nat}

/- The line ends that close an error file are dropped. -/
def gateErrorDetail (text : String) : String :=
  let kept :=
    (text.toList.reverse.dropWhile
      (fun c => c = '\n' || c = '\r')).reverse
  if kept = [] then "unknown error" else String.ofList kept

/- The time after which deliveries are not measured. -/
def measurementDeadline
    (opts : Options)
    (startNs : Nat) : Nat :=
  if fixedDurationMeasurement opts then
    u64 (startNs +
      opts.measurementDurationMs.toNat * 1000000)
  else
    0

/-
  Wait until a condition holds or the time is up.  The
  condition is looked at once more when the time is up.
-/
def waitFor
    (s : State n m)
    (condition : Bool)
    (next : MainPoint n)
    (late : List ControlOp)
    (input : MainInput) : Option (State n m) :=
  match input with
  | .proceed =>
      if condition then
        some { s with main := next }
      else
        none
  | .timedOut =>
      some
        { s with
          main := next
          mainOps := if condition then [] else late }
  | _ => none

/- One look of `wait_for_measurement_gate`. -/
def inspectGate
    (s : State n m)
    (look : GateLook) : State n m :=
  match look with
  | .errorFile text =>
      { s with
        main := .gateClose
        mainOps :=
          setFailure (.noiseSetup (gateErrorDetail text)) }
  | .gateFile timestamp =>
      if 0 < timestamp.getD 0 then
        { s with
          main := .gateClose
          measurementGateOpenNs := timestamp.getD 0 }
      else
        { s with
          main := .gateClose
          mainOps :=
            setFailure
              (.noiseSetup "invalid measurement gate") }
  | .nothing => { s with main := .gatePoll }
  | .timedOut =>
      { s with
        main := .gateClose
        mainOps :=
          setFailure
            (.noiseSetup "measurement gate timed out") }

/- Starting the pipelines and the threads. -/
def startupStep
    (cfg : Config n)
    (s : State n m)
    (input : MainInput) : Option (State n m) :=
  match s.main, input with
  | .startPipelines (camera :: rest), .proceed =>
      some
        { s with
          running := Function.update s.running camera true
          main := .startPipelines rest }
  | .startPipelines (_ :: _), .raised _ =>
      some { s with main := .aborted }
  | .startPipelines [], .proceed =>
      some
        { s with
          main :=
            if cfg.opts.delivery = "wait" then
              .spawnThreads (List.finRange n)
            else
              .spawnThreads [] }
  | .spawnThreads (camera :: rest), .proceed =>
      some
        { s.setThread (.inl camera) .looping with
          main := .spawnThreads rest }
  | .spawnThreads [], .proceed =>
      some
        { s with
          main :=
            if modeledSchedulerRequested cfg.opts then
              .schedulerWait
            else
              .warmCheck }
  | _, _ => none

/- The barriers before the measurement. -/
def barrierStep
    (cfg : Config n)
    (s : State n m)
    (input : MainInput) : Option (State n m) :=
  match s.main, input with
  | .schedulerWait, input =>
      waitFor s
        (s.control.failed ||
          s.control.schedulerReadyCameras = n)
        .schedulerCheck
        (setFailure .schedulerTransitionTimeout) input
  | .schedulerCheck, .proceed =>
      some
        { s with
          main :=
            if s.control.failed then
              .warmCheck
            else
              .schedulerApply }
  | .schedulerApply, .proceed =>
      some { s with main := .warmCheck }
  | .schedulerApply, .raised what =>
      some
        { s with
          main := .warmCheck
          mainOps :=
            setFailure
              (.schedulerSetup
                (cfg.opts.deadlineProfile ≠ "") what) }
  | .warmCheck, .proceed =>
      some
        { s with
          main :=
            if s.control.failed then
              .readyCheck
            else
              .warmWait }
  | .warmWait, input =>
      waitFor s
        (s.control.failed || s.control.warmedCameras = n)
        .readyCheck (setFailure .warmupTimeout) input
  | .readyCheck, .proceed =>
      some
        { s with
          main :=
            if s.control.failed then
              .startCheck
            else
              .readyRead }
  | .readyRead, .proceed =>
      if cfg.opts.measurementStartGate = "" then
        some
          { s with
            warmupReadyNs := s.clock
            measurementGateOpenNs := s.clock
            main := .startCheck }
      else
        some
          { s with
            warmupReadyNs := s.clock
            main := .publishReady }
  | .publishReady, .proceed =>
      some
        { s with
          control :=
            { s.control with noiseTransitionActive := true }
          main := .gatePoll }
  | .publishReady, .raised _ =>
      some { s with main := .aborted }
  | .gatePoll, .proceed =>
      some
        { s with
          main :=
            if s.control.failed then
              .gateClose
            else
              .gateInspect }
  | .gateInspect, .gate look => some (inspectGate s look)
  | .gateClose, .proceed =>
      some
        { s with
          control :=
            { s.control with noiseTransitionActive := false }
          main := .startCheck }
  | .startCheck, .proceed =>
      some
        { s with
          main :=
            if s.control.failed then
              .stopStore
            else
              .startRead }
  | _, _ => none

/- The measurement. -/
def measurementStep
    (cfg : Config n)
    (s : State n m)
    (input : MainInput) : Option (State n m) :=
  match s.main, input with
  | .startRead, .proceed =>
      some
        { s with
          measurementStartNs := s.clock
          main := .deadlineStore }
  | .deadlineStore, .proceed =>
      some
        { s with
          control :=
            { s.control with
              measurementDeadlineNs :=
                if fixedDurationMeasurement cfg.opts then
                  measurementDeadline cfg.opts
                    s.measurementStartNs
                else
                  s.control.measurementDeadlineNs }
          main := .enable }
  | .enable, .proceed =>
      some
        { s with
          control :=
            { s.control with measurementEnabled := true }
          main := .measureWait }
  | .measureWait, input =>
      if fixedDurationMeasurement cfg.opts then
        waitFor s s.control.failed .disable [] input
      else
        waitFor s
          (s.control.failed ||
            s.control.completedCameras = n)
          .disable (setFailure .measurementTimeout) input
  | .disable, .proceed =>
      some
        { s with
          control :=
            { s.control with measurementEnabled := false }
          main := .endRead }
  | .endRead, .proceed =>
      some
        { s with
          measurementEndNs := s.clock
          main := .stopStore }
  | _, _ => none

/- Stopping the cameras and joining their threads. -/
def teardownStep
    (cfg : Config n)
    (s : State n m)
    (input : MainInput) : Option (State n m) :=
  match s.main, input with
  | .stopStore, .proceed =>
      some
        { s with
          control := { s.control with stop := true }
          main :=
            .stopPipelines
              (if cfg.opts.hardwareSyncMaster ≠ "" then
                cfg.startOrder.reverse
              else
                cfg.startOrder) }
  | .stopPipelines (camera :: rest), .proceed =>
      some
        { s with
          running := Function.update s.running camera false
          main := .stopPipelines rest }
  | .stopPipelines (camera :: rest), .raised what =>
      some { s with main := .stopFailed camera what rest }
  | .stopFailed camera what rest, .proceed =>
      some
        { s with
          main := .stopPipelines rest
          mainOps :=
            if s.control.failed then
              []
            else
              setFailure
                (.pipelineStop (cfg.serials camera) what) }
  | .stopPipelines [], .proceed =>
      some { s with main := .joinThreads (List.finRange n) }
  | .joinThreads (camera :: rest), .proceed =>
      if s.threads (.inl camera) = .finished ∨
          s.threads (.inl camera) = .unborn then
        some { s with main := .joinThreads rest }
      else
        none
  | .joinThreads [], .proceed =>
      some { s with main := .restoreSync }
  | .restoreSync, .proceed => some { s with main := .done }
  | .restoreSync, .raised what =>
      some { s with main := .restoreFailed what }
  | .restoreFailed what, .proceed =>
      some
        { s with
          main := .done
          mainOps :=
            if s.control.failed then
              []
            else
              setFailure (.hardwareSyncRestore what) }
  | _, _ => none

/-
  The main thread first finishes a `set_failure` it is in.
  The four tables of steps cover disjoint points.
-/
def mainStep
    (cfg : Config n)
    (s : State n m)
    (input : MainInput) : Option (State n m) :=
  match s.mainOps with
  | op :: ops =>
      if input = .proceed then
        some
          { s with
            control := s.control.apply op
            mainOps := ops }
      else
        none
  | [] =>
      (startupStep cfg s input).or
        ((barrierStep cfg s input).or
          ((measurementStep cfg s input).or
            (teardownStep cfg s input)))

/- One step of the probe.  The clock never goes back. -/
def step
    (cfg : Config n)
    (s : State n m) : Action n m → Option (State n m)
| .tick now =>
    if s.clock ≤ now ∧ now < 2 ^ 64 then
      some { s with clock := now }
    else
      none
| .thread id action => threadStep cfg s id action
| .main input => mainStep cfg s input

/- The runs of the probe. -/
def probe
    (cfg : Config n)
    (m : Nat) :
    TransitionSystem (State n m) (Action n m) where
  step := step cfg

end Probe

end RsCamera
