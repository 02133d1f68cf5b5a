import RsCamera.Lib.Numeral
import RsCamera.Lib.Transition

/-
  The controller of a full reproduction (`pipeline.py`): the
  worker that runs the stages of a campaign one boot after
  another, and the operator who stops and resumes it.

  The campaign is what survives the worker: the state file,
  the completion markers and the adapters.  Each step of the
  worker writes at most one file, so a worker that is killed
  leaves the campaign as it stands between two steps.  The
  service runs one worker at a time.

  Key definitions include:
    * `phases`, `bootMatches`, `complete`, `nextPhase`
    * `Pipeline`, `WorkerPoint`, `Campaign`
    * `openCampaign`, `workerProceed`
    * `controlStop`, `controlResume`
    * `campaign`
-/

------------------------------------------------------------
-- Stages And Kernels
------------------------------------------------------------

namespace RsCamera

namespace Reproduction

/- The stages of the campaign. -/
inductive Stage
| startup
| ablation
| e1
| e2Calibrate
| e2Urb5
| e2Urb16
| e3
| e4Calibrate
| e4StandardHardirq
| e4StandardThreaded
| e4RtThreaded
| overhead
| diagnosis
deriving Repr, DecidableEq

/- The name of a stage, and of its script. -/
def Stage.name : Stage → String
| .startup => "startup"
| .ablation => "ablation"
| .e1 => "e1"
| .e2Calibrate => "e2-calibrate"
| .e2Urb5 => "e2-urb5"
| .e2Urb16 => "e2-urb16"
| .e3 => "e3"
| .e4Calibrate => "e4-calibrate"
| .e4StandardHardirq => "e4-standard-hardirq"
| .e4StandardThreaded => "e4-standard-threaded"
| .e4RtThreaded => "e4-rt-threaded"
| .overhead => "overhead"
| .diagnosis => "diagnosis"

/- The keys of `VARIANTS`, with the release of each kernel. -/
inductive Variant
| standardUrb5
| standardUrb16
| rtUrb16
deriving Repr, DecidableEq

/- The name of a kernel. -/
def Variant.name : Variant → String
| .standardUrb5 => "standard-urb5"
| .standardUrb16 => "standard-urb16"
| .rtUrb16 => "rt-urb16"

/- `uname -r` of a kernel. -/
def Variant.release : Variant → String
| .standardUrb5 => "6.12.96-rpi5-standard-btf+"
| .standardUrb16 => "6.12.96-rpi5-standard-btf-uvc16+"
| .rtUrb16 => "6.12.96-rpi5-rt-btf-uvc16+"

/- The stages of one boot. -/
structure Phase where
  variant : Variant
  threaded : Bool
  stages : List Stage
deriving Repr, DecidableEq

/- `PHASES`. -/
def allPhases : List Phase :=
  [⟨.rtUrb16, false, [.e1, .e2Calibrate]⟩,
    ⟨.standardUrb16, true,
      [.ablation, .e3, .e4Calibrate, .e4StandardThreaded]⟩,
    ⟨.standardUrb5, false, [.e2Urb5]⟩,
    ⟨.standardUrb16, false,
      [.startup, .e2Urb16, .e4StandardHardirq, .overhead,
        .diagnosis]⟩,
    ⟨.rtUrb16, false, [.e4RtThreaded]⟩]

/- The stages that a smoke campaign leaves out. -/
def supplements : List Stage :=
  [.startup, .ablation, .overhead, .diagnosis]

/- A smoke test leaves out the supplements. -/
def phases (smoke : Bool) : List Phase :=
  if smoke then
    allPhases.map (fun phase =>
      { phase with
        stages :=
          phase.stages.filter (fun stage =>
            stage ∉ supplements) })
  else
    allPhases

/- A running kernel. -/
structure Boot where
  release : String
  cmdline : String
  bootId : String
deriving Repr, DecidableEq

/- `boot_matches`. -/
def bootMatches
    (variant : Variant)
    (threaded : Bool)
    (boot : Boot) : Bool :=
  boot.release = variant.release &&
    (variant.name.startsWith "rt-" ||
      decide ("threadirqs" ∈ pySplit boot.cmdline) = threaded)

------------------------------------------------------------
-- The Campaign
------------------------------------------------------------

/- The values of `status`. -/
inductive Status
| queued
| running
| rebooting
| failed
| stopped
| complete
deriving Repr, DecidableEq

/- A reboot that was asked for. -/
structure PendingBoot where
  variant : Variant
  threaded : Bool
  bootId : String
deriving Repr, DecidableEq

/- The fields of `pipeline.json` that the controller reads. -/
structure Pipeline where
  status : Status
  smoke : Bool
  activeStage : Option Stage
  pendingBoot : Option PendingBoot
  error : String
deriving Repr, DecidableEq

/- A completion marker. -/
structure Marker where
  stage : Stage
  adapterSha256 : String
deriving Repr, DecidableEq

/-
  Where the worker stands.  A point with a phase belongs to
  the loop over its pending stages.
-/
inductive WorkerPoint
| verifying
| opening
| saveRunning
| refreshing
| choosing
| selecting (phase : Phase)
| savePending
| requesting
| stages (phase : Phase) (rest : List Stage)
| saveActive (phase : Phase) (stage : Stage) (rest : List Stage)
| running (phase : Phase) (stage : Stage) (rest : List Stage)
| acquiring (phase : Phase) (stage : Stage) (rest : List Stage)
| acquired (phase : Phase) (stage : Stage) (rest : List Stage)
| saveDone (phase : Phase) (rest : List Stage)
| analysing
| saveComplete
| disabling
| saveFailed
| restoring
deriving Repr, DecidableEq

/- `state` is the dictionary that the worker holds. -/
structure Worker where
  point : WorkerPoint
  state : Pipeline
  bootId : String
deriving Repr, DecidableEq

/- The files, the boot and the worker. -/
structure Campaign where
  pipeline : Pipeline
  markers : Stage → Option Marker
  adapters : Stage → String
  boot : Boot
  worker : Option Worker

/- The campaign that `full` leaves behind. -/
def queuedCampaign
    (smoke : Bool)
    (adapters : Stage → String)
    (boot : Boot) : Campaign where
  pipeline :=
    { status := .queued
      smoke := smoke
      activeStage := none
      pendingBoot := none
      error := "" }
  markers _ := none
  adapters := adapters
  boot := boot
  worker := none

------------------------------------------------------------
-- The Next Phase
------------------------------------------------------------

/- `root` is the directory of the campaign. -/
def Campaign.complete
    (root : String)
    (s : Campaign)
    (stage : Stage) : Except String Bool :=
  match s.markers stage with
  | none => .ok false
  | some record =>
      if record.stage ≠ stage ∨
          record.adapterSha256 ≠ s.adapters stage then
        .error
          ("Invalid completion marker: " ++ root ++
            "/completed/" ++ stage.name ++ ".json")
      else
        .ok true

/- The stages that are not complete. -/
def Campaign.pendingStages
    (root : String)
    (s : Campaign) :
    List Stage → Except String (List Stage)
| [] => .ok []
| stage :: rest => do
    let done ← s.complete root stage
    let later ← s.pendingStages root rest
    .ok (if done then later else stage :: later)

/- The first phase with a stage to do. -/
def Campaign.nextPhase
    (root : String)
    (s : Campaign) :
    List Phase → Except String (Option Phase)
| [] => .ok none
| phase :: rest => do
    let pending ← s.pendingStages root phase.stages
    if pending = [] then
      s.nextPhase root rest
    else
      .ok (some { phase with stages := pending })

------------------------------------------------------------
-- The Worker
------------------------------------------------------------

/- A stage that was cut off has left nothing. -/
def Campaign.checkInterrupted
    (root : String)
    (s : Campaign)
    (state : Pipeline) : Except String Unit :=
  match state.activeStage with
  | none => .ok ()
  | some stage => do
      let done ← s.complete root stage
      if done then
        .ok ()
      else
        .error
          (stage.name ++
            " was interrupted without a completion marker; " ++
            "keep partial data and start a new campaign")

/- A reboot that took place is forgotten. -/
def clearPending
    (boot : Boot)
    (state : Pipeline) : Except String Pipeline :=
  match state.pendingBoot with
  | none => .ok state
  | some pending =>
      if pending.bootId = boot.bootId ∨
          bootMatches pending.variant pending.threaded boot =
            false then
        .error
          ("Requested kernel boot did not complete; " ++
            "automatic reboot retry disabled")
      else
        .ok { state with pendingBoot := none }

/- The checks of a worker that has read the state file. -/
def Campaign.openCampaign
    (root : String)
    (s : Campaign)
    (state : Pipeline) : Except String Pipeline := do
  s.checkInterrupted root state
  let cleared ← clearPending s.boot state
  .ok { cleared with status := .running, activeStage := none }

/- An exception leads to the handler around the worker. -/
def Worker.fail (w : Worker) (error : String) : Worker :=
  { w with
    point := .saveFailed
    state := { w.state with status := .failed, error := error } }

/- The worker goes on to a point. -/
def Worker.at (w : Worker) (point : WorkerPoint) : Worker :=
  { w with point := point }

/- The campaign with that worker. -/
def Campaign.withWorker (s : Campaign) (w : Worker) : Campaign :=
  { s with worker := some w }

/- The worker writes the state file. -/
def Campaign.save
    (s : Campaign)
    (w : Worker)
    (point : WorkerPoint) : Campaign :=
  { s with
    pipeline := w.state
    worker := some (w.at point) }

/- The choice of what to do next. -/
def Campaign.choose
    (root : String)
    (s : Campaign)
    (w : Worker) : Worker :=
  match s.nextPhase root (phases s.pipeline.smoke) with
  | .error error => w.fail error
  | .ok none => w.at .analysing
  | .ok (some phase) =>
      if bootMatches phase.variant phase.threaded s.boot then
        w.at (.stages phase phase.stages)
      else
        w.at (.selecting phase)

/- A statement of the worker that does what it should. -/
def workerProceed
    (root : String)
    (s : Campaign)
    (w : Worker) : Campaign :=
  match w.point with
  | .verifying => s.withWorker (w.at .opening)
  | .opening =>
      match s.openCampaign root w.state with
      | .error error => s.withWorker (w.fail error)
      | .ok state =>
          s.withWorker ⟨.saveRunning, state, s.boot.bootId⟩
  | .saveRunning => s.save w .refreshing
  | .refreshing => s.withWorker (w.at .choosing)
  | .choosing => s.withWorker (s.choose root w)
  | .selecting phase =>
      s.withWorker
        { w with
          point := .savePending
          state :=
            { w.state with
              status := .rebooting
              pendingBoot :=
                some ⟨phase.variant, phase.threaded, w.bootId⟩ } }
  | .savePending => s.save w .requesting
  | .requesting => { s with worker := none }
  | .stages _ [] => s.withWorker (w.at .choosing)
  | .stages phase (stage :: rest) =>
      s.withWorker
        { w with
          point := .saveActive phase stage rest
          state := { w.state with activeStage := some stage } }
  | .saveActive phase stage rest =>
      s.save w (.running phase stage rest)
  | .running phase stage rest =>
      match s.markers stage with
      | some _ => s.withWorker (w.at (.acquired phase stage rest))
      | none => s.withWorker (w.at (.acquiring phase stage rest))
  | .acquiring phase stage rest =>
      { s with
        markers :=
          Function.update s.markers stage
            (some ⟨stage, s.adapters stage⟩)
        worker := some (w.at (.acquired phase stage rest)) }
  | .acquired phase stage rest =>
      match s.complete root stage with
      | .error error => s.withWorker (w.fail error)
      | .ok false =>
          s.withWorker
            (w.fail
              ("No valid completion marker for " ++ stage.name))
      | .ok true =>
          s.withWorker
            { w with
              point := .saveDone phase rest
              state := { w.state with activeStage := none } }
  | .saveDone phase rest => s.save w (.stages phase rest)
  | .analysing =>
      s.withWorker
        { w with
          point := .saveComplete
          state := { w.state with status := .complete } }
  | .saveComplete => s.save w .disabling
  | .disabling => { s with worker := none }
  | .saveFailed => s.save w .restoring
  | .restoring => { s with worker := none }

/- An exception inside the handler ends the worker. -/
def workerRaise
    (s : Campaign)
    (w : Worker)
    (error : String) : Campaign :=
  match w.point with
  | .saveFailed => { s with worker := none }
  | .restoring => { s with worker := none }
  | _ => s.withWorker (w.fail error)

------------------------------------------------------------
-- The Operator
------------------------------------------------------------

/- Stopping the service kills the worker. -/
def controlStop (s : Campaign) : Campaign :=
  if s.pipeline.status = .complete then
    s
  else
    { s with
      pipeline := { s.pipeline with status := .stopped }
      worker := none }

/- The worker starts again later. -/
def Campaign.requeue (s : Campaign) : Campaign :=
  { s with
    pipeline :=
      { s.pipeline with
        status := .queued
        pendingBoot := none } }

/- Resuming is refused while the service is active. -/
def controlResume
    (root : String)
    (s : Campaign) : Except String Campaign :=
  if s.pipeline.status = .complete then
    .error "Campaign already complete"
  else if s.worker.isSome then
    .error
      "A full reproduction is already running; inspect status first"
  else
    match s.pipeline.activeStage with
    | none => .ok s.requeue
    | some stage => do
        let done ← s.complete root stage
        if done then
          .ok s.requeue
        else
          .error
            ("Interrupted acquisition cannot be resumed " ++
              "safely; use a new output")

/-
  `rewrite` is a write of the IRQ refresh, which may leave
  any adapters behind; `reboot` is a boot of any kernel, also
  one that nobody requested.
-/
inductive CampaignAction
| start
| proceed
| raised (error : String)
| rewrite (adapters : Stage → String)
| kill
| reboot (boot : Boot)
| stop
| resume

/- One action of a campaign. -/
def campaignStep
    (root : String)
    (s : Campaign) : CampaignAction → Option Campaign
| .start =>
    match s.worker with
    | some _ => none
    | none =>
        some (s.withWorker ⟨.verifying, s.pipeline, ""⟩)
| .proceed => s.worker.map (workerProceed root s)
| .raised error =>
    s.worker.map (fun w => workerRaise s w error)
| .rewrite adapters =>
    match s.worker with
    | some ⟨.refreshing, _, _⟩ =>
        some { s with adapters := adapters }
    | _ => none
| .kill => some { s with worker := none }
| .reboot boot => some { s with boot := boot, worker := none }
| .stop => some (controlStop s)
| .resume => (controlResume root s).toOption

/- The runs of a campaign. -/
def campaign
    (root : String) :
    TransitionSystem Campaign CampaignAction where
  step := campaignStep root

end Reproduction

end RsCamera
