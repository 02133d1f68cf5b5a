import Mathlib.Logic.Function.Basic
import RsCamera.Controls.CpuList
import RsCamera.Lib.Dict
import RsCamera.Lib.Effect

/-
  CPU isolation for a benchmark campaign (`CpuIsolation`).

  `prepare` takes a series of changes to the machine: the
  cpuset controller, a cgroup, the affinities of the camera
  interrupts and the cgroup of the process.  It notes each
  change in the object, and `restore` undoes what is noted.

  A privileged command is done as a whole or fails without
  any effect.  Which commands and which reads fail is left
  open.

  Key definitions include:
    * `Machine`, `Command`, `Host`
    * `CpuIsolation`, `prepare`, `restore`

  Key theorems include:
    * `discoverCameraXhciIrqs_nodup`
-/

------------------------------------------------------------
-- The Machine
------------------------------------------------------------

namespace RsCamera

namespace Controls

/- The fields of the configuration that the isolation reads. -/
structure IsolationConfig where
  enabled : Bool
  housekeepingCpus : String
  benchmarkCpus : String
  cgroupRoot : String
  procRoot : String
  /- The number of the process, `os.getpid()`. -/
  pid : Nat
deriving Repr, DecidableEq

/- The state that a campaign changes. -/
@[ext] structure Machine where
  processCgroup : String
  affinity : Nat → String
  benchmarkCgroup : Bool
  cpusetController : Bool

/- The files that are written. -/
inductive Target
| subtreeControl
| mems
| cpus
| partition
| affinity (irq : Nat)
| procs (cgroup : String)
deriving Repr, DecidableEq

/- A privileged command that changes the machine. -/
inductive Command
| write (target : Target) (value : String)
| mkdir
| rmdir
deriving Repr, DecidableEq

/- The cgroup of the benchmark, named after the process. -/
def benchmarkPath (config : IsolationConfig) : String :=
  config.cgroupRoot ++ "/rs-camera-benchmark-" ++
    toString config.pid

/- The file that a write goes to. -/
def Target.path (config : IsolationConfig) : Target → String
| .subtreeControl =>
    config.cgroupRoot ++ "/cgroup.subtree_control"
| .mems => benchmarkPath config ++ "/cpuset.mems"
| .cpus => benchmarkPath config ++ "/cpuset.cpus"
| .partition =>
    benchmarkPath config ++ "/cpuset.cpus.partition"
| .affinity irq =>
    config.procRoot ++ "/irq/" ++ toString irq ++
      "/smp_affinity_list"
| .procs cgroup => cgroup ++ "/cgroup.procs"

/- The settings of the benchmark cgroup vanish with it. -/
def Command.apply
    (command : Command)
    (machine : Machine) : Machine :=
  match command with
  | .write .subtreeControl value =>
      if value = "+cpuset" then
        { machine with cpusetController := true }
      else if value = "-cpuset" then
        { machine with cpusetController := false }
      else
        machine
  | .write (.affinity irq) value =>
      { machine with
        affinity := Function.update machine.affinity irq value }
  | .write (.procs cgroup) _ =>
      { machine with processCgroup := cgroup }
  | .write _ _ => machine
  | .mkdir => { machine with benchmarkCgroup := true }
  | .rmdir => { machine with benchmarkCgroup := false }

/- The text of the exception of a failed command. -/
def Command.failure
    (config : IsolationConfig)
    (command : Command)
    (detail : String) : String :=
  match command with
  | .write target value =>
      "failed to write " ++ target.path config ++ "=" ++
        value ++ ": " ++ detail
  | .mkdir =>
      "mkdir " ++ benchmarkPath config ++ " failed: " ++ detail
  | .rmdir =>
      "rmdir " ++ benchmarkPath config ++ " failed: " ++ detail

/- The commands that fail, with what they print. -/
abbrev Failures : Type :=
  Command → Option String

------------------------------------------------------------
-- The Camera Interrupts
------------------------------------------------------------

/- A connected camera and the controller it hangs on. -/
structure CameraDevice where
  name : String
  resolved : String
  controller : Option String
  rootHubs : List String
deriving Repr, DecidableEq

/- The cameras and the actions of `/proc/interrupts`. -/
structure Survey where
  devices : List CameraDevice
  actions : List (String × Nat)
deriving Repr, DecidableEq

/- The record of an interrupt, without its number. -/
structure IrqRecord where
  action : String
  controller : String
  usbDevices : List String
deriving Repr, DecidableEq

/- The loop that gives each action its only interrupt. -/
def interruptActions :
    List (String × Nat) → Dict String Nat →
      Except String (Dict String Nat)
| [], actions => .ok actions
| (action, irq) :: rest, actions =>
    match actions.get? action with
    | none => interruptActions rest (actions.set action irq)
    | some other =>
        if other ≠ irq then
          .error
            ("xHCI action " ++ action ++
              " maps to multiple IRQs")
        else
          interruptActions rest (actions.set action irq)

/- The text of a list of matches. -/
def matchesText (found : List (String × Nat)) : String :=
  "[" ++
    String.intercalate ", "
      (found.map (fun hit =>
        "(" ++ pyRepr hit.1.toList ++ ", " ++
          toString hit.2 ++ ")")) ++
    "]"

/- Add one camera to the records by interrupt. -/
def addCamera
    (actions : Dict String Nat)
    (byIrq : Dict Nat IrqRecord)
    (device : CameraDevice) :
    Except String (Dict Nat IrqRecord) :=
  match device.controller with
  | none =>
      .error
        ("cannot find the xHCI controller for " ++
          device.name ++ ": " ++ device.resolved)
  | some controller =>
      let found :=
        device.rootHubs.filterMap (fun bus =>
          (actions.get? bus).map (fun irq => (bus, irq)))
      match found with
      | [(bus, irq)] =>
          let record :=
            byIrq.getD irq
              { action := "xhci-hcd:" ++ bus
                controller := controller
                usbDevices := [] }
          .ok
            (byIrq.set irq
              { record with
                usbDevices :=
                  record.usbDevices ++ [device.name] })
      | _ =>
          .error
            ("expected one xHCI IRQ for " ++ device.name ++
              " via " ++ controller ++ ", found " ++
              matchesText found)

/- The records in the order of the interrupts. -/
def discoverCameraXhciIrqs
    (survey : Survey) :
    Except String (List (Nat × IrqRecord)) := do
  if survey.devices = [] then
    .error
      ("CPU isolation requires at least one connected" ++
        " RealSense camera")
  else
    let actions ← interruptActions survey.actions ∅
    let byIrq ← survey.devices.foldlM (addCamera actions) ∅
    .ok
      (byIrq.items.insertionSort
        (fun left right => left.1 ≤ right.1))

/- No interrupt is listed twice. -/
theorem discoverCameraXhciIrqs_nodup
    {survey : Survey}
    {records : List (Nat × IrqRecord)}
    (hFound : discoverCameraXhciIrqs survey = .ok records) :
    (records.map Prod.fst).Nodup := by
  unfold discoverCameraXhciIrqs at hFound
  split at hFound
  · cases hFound
  · cases hActions : interruptActions survey.actions ∅ with
    | error error =>
        simp [hActions, Bind.bind, Except.bind] at hFound
    | ok actions =>
        cases hByIrq :
            survey.devices.foldlM (addCamera actions) ∅ with
        | error error =>
            simp [hActions, hByIrq, Bind.bind, Except.bind]
              at hFound
        | ok byIrq =>
            simp only [hActions, hByIrq, Bind.bind,
              Except.bind, Except.ok.injEq] at hFound
            have hPerm :=
              (List.perm_insertionSort
                (fun left right : Nat × IrqRecord =>
                  left.1 ≤ right.1) byIrq.items).map Prod.fst
            rw [← hFound]
            exact hPerm.nodup_iff.mpr byIrq.nodup

------------------------------------------------------------
-- The Environment Of A Call
------------------------------------------------------------

/- The checks of a placement come twice in `prepare`. -/
inductive Moment
| setUp
| verify
deriving Repr, DecidableEq

/-
  Files whose contents are not part of the machine state.
  They are read without the space around the text.
-/
inductive TextFile
| online
| controllers
| isolatedAtStart
| memsEffective
| benchmarkEffective (moment : Moment)
| rootEffective (moment : Moment)
| isolated (moment : Moment)
| processAffinity (moment : Moment)
deriving Repr, DecidableEq

/- Reads of the machine state, each of which may raise. -/
inductive MachineRead
| validateCgroup
| benchmarkCgroup
| processCgroup
| subtreeControl
| affinity (irq : Nat)
| affinityWritten (irq : Nat)
| affinityVerified (irq : Nat)
| thread (irq : Nat) (moment : Moment)
deriving Repr, DecidableEq

/- Everything outside the machine state that a call meets. -/
structure Host where
  missing : List String
  text : TextFile → Except String String
  raises : MachineRead → Option String
  surveyValidated : Except String Survey
  survey : Except String Survey
  commands : Failures
  recordWritten : Except String Unit

/- The object and the machine it works on. -/
structure CpuIsolation where
  active : Bool
  controllerEnabledByUs : Bool
  cgroupCreated : Bool
  processMoved : Bool
  cgroupPath : Option String
  originalCgroupPath : Option String
  originalIrqAffinities : Dict Nat String
  /- The interrupts under `xhci_irqs` of the state. -/
  irqs : List Nat

/- The object, and the machine that it controls. -/
structure Controlled where
  object : CpuIsolation
  machine : Machine

/- `__init__`: nothing was changed yet. -/
def CpuIsolation.init : CpuIsolation where
  active := false
  controllerEnabledByUs := false
  cgroupCreated := false
  processMoved := false
  cgroupPath := none
  originalCgroupPath := none
  originalIrqAffinities := ∅
  irqs := []

/- The test at the top of `restore`. -/
def CpuIsolation.Idle (object : CpuIsolation) : Prop :=
  object.active = false ∧
    object.controllerEnabledByUs = false ∧
    object.cgroupCreated = false ∧
    object.processMoved = false ∧
    object.originalIrqAffinities.items = []
deriving Decidable

/- A read of the machine state. -/
def observe
    {A : Type}
    (raised : Option String)
    (value : Machine → A) :
    Effect Controlled A :=
  Effect.ask (fun world =>
    match raised with
    | some error => .error error
    | none => .ok (value world.machine))

/- A privileged command. -/
def issue
    (config : IsolationConfig)
    (failures : Failures)
    (command : Command) :
    Effect Controlled Unit :=
  Effect.perform
    ((failures command).map (command.failure config))
    (fun world =>
      { world with machine := command.apply world.machine })

/- An assignment to fields of the object. -/
def note
    (f : CpuIsolation → CpuIsolation) :
    Effect Controlled Unit :=
  Effect.perform none
    (fun world => { world with object := f world.object })

------------------------------------------------------------
-- Checks
------------------------------------------------------------

/- The words of a text. -/
def words (text : String) : List (List Char) :=
  (text.toList.splitBy
    (fun a b => isPySpace a == isPySpace b)).filter
      (fun word => !word.all isPySpace)

/- `validate_environment`, the checks in their order. -/
def validateEnvironment
    (config : IsolationConfig)
    (host : Host) : Except String Unit := do
  if ¬ config.enabled then
    .ok ()
  else
    let housekeeping ← parseCpuList config.housekeepingCpus
    let benchmark ← parseCpuList config.benchmarkCpus
    let online ← parseCpuList (← host.text .online)
    if housekeeping = ∅ ∨ benchmark = ∅ then
      .error "CPU isolation requires two non-empty CPU sets"
    else if housekeeping ∩ benchmark ≠ ∅ then
      .error "housekeeping and benchmark CPU sets overlap"
    else if housekeeping ∪ benchmark ≠ online then
      .error
        ("housekeeping and benchmark CPU sets must exactly" ++
          " partition online CPUs " ++ formatCpuList online)
    else if host.missing ≠ [] then
      .error
        ("cgroup-v2 cpuset support is unavailable: " ++
          String.intercalate ", " host.missing)
    else
      let controllers ← host.text .controllers
      if "cpuset".toList ∉ words controllers then
        .error
          "the cgroup-v2 cpuset controller is unavailable"
      else
        let isolated ← host.text .isolatedAtStart
        if isolated ≠ "" then
          .error
            ("an existing isolated cpuset partition is" ++
              " already active")
        else
          match host.raises .validateCgroup with
          | some error => .error error
          | none =>
              let survey ← host.surveyValidated
              let _ ← discoverCameraXhciIrqs survey
              .ok ()

/- One comparison of CPU sets, with its complaint. -/
def cpuComplaint
    (actual expected : String)
    (complaint : String) : Except String (List String) := do
  let left ← parseCpuList actual
  let right ← parseCpuList expected
  .ok (if left ≠ right then [complaint] else [])

/- The check of the placement at the end of the set-up. -/
def checkPlacement
    (host : Host)
    (housekeeping benchmark : String) :
    Except String Unit := do
  let effective ← host.text (.benchmarkEffective .setUp)
  let root ← host.text (.rootEffective .setUp)
  let isolated ← host.text (.isolated .setUp)
  let process ← host.text (.processAffinity .setUp)
  let first ←
    cpuComplaint effective benchmark
      ("benchmark effective CPUs=" ++ effective)
  let second ←
    cpuComplaint root housekeeping
      ("root effective CPUs=" ++ root)
  let third ←
    cpuComplaint isolated benchmark
      ("isolated CPUs=" ++ isolated)
  let fourth ←
    cpuComplaint process benchmark
      ("process affinity=" ++ process)
  let errors := first ++ second ++ third ++ fourth
  if errors ≠ [] then
    .error
      ("CPU isolation verification failed: " ++
        String.intercalate " | " errors)
  else
    .ok ()

/- The complaints of `verify` about the placement. -/
def verifyPlacement
    (host : Host)
    (housekeeping benchmark : String) :
    Except String (List String) := do
  let root ← host.text (.rootEffective .verify)
  let effective ← host.text (.benchmarkEffective .verify)
  let isolated ← host.text (.isolated .verify)
  let process ← host.text (.processAffinity .verify)
  let check (key actual expected : String) :=
    cpuComplaint actual expected
      (key ++ "=" ++ actual ++ ", expected " ++ expected)
  let first ← check "root_effective_cpus" root housekeeping
  let second ←
    check "benchmark_effective_cpus" effective benchmark
  let third ← check "isolated_cpus" isolated benchmark
  let fourth ← check "process_affinity" process benchmark
  .ok (first ++ second ++ third ++ fourth)

/- The complaints of `verify` about the interrupts. -/
def verifyIrqs
    (host : Host)
    (machine : Machine)
    (housekeeping : String) :
    List Nat → Except String (List String)
| [] => .ok []
| irq :: irqs => do
    match host.raises (.affinityVerified irq),
        host.raises (.thread irq .verify) with
    | none, none =>
        let affinity := machine.affinity irq
        let errors ←
          cpuComplaint affinity housekeeping
            ("IRQ " ++ toString irq ++ " affinity=" ++
              affinity ++ ", expected " ++ housekeeping)
        let rest ← verifyIrqs host machine housekeeping irqs
        .ok (errors ++ rest)
    | some error, _ => .error error
    | none, some error => .error error

/- `verify` without an output file. -/
def verify
    (config : IsolationConfig)
    (host : Host) :
    Effect Controlled Unit :=
  Effect.ask (fun world => do
    if ¬ config.enabled then
      .ok ()
    else if ¬ world.object.active ∨
        world.object.cgroupPath = none then
      .error "the configured CPU isolation is not active"
    else
      let benchmark :=
        formatCpuList (← parseCpuList config.benchmarkCpus)
      let housekeeping :=
        formatCpuList (← parseCpuList config.housekeepingCpus)
      let placement ←
        verifyPlacement host housekeeping benchmark
      let interrupts ←
        verifyIrqs host world.machine housekeeping
          world.object.irqs
      let errors := placement ++ interrupts
      if errors ≠ [] then
        .error
          ("CPU isolation verification failed: " ++
            String.intercalate " | " errors)
      else
        .ok ())

------------------------------------------------------------
-- Restoring
------------------------------------------------------------

/- Move the process back. -/
def restoreProcess
    (config : IsolationConfig)
    (failures : Failures) :
    Effect Controlled (List String) := do
  let world ← get
  if world.object.processMoved then
    Effect.attempt "restore process cgroup" (do
      issue config failures
        (.write
          (.procs
            (world.object.originalCgroupPath.getD
              config.cgroupRoot))
          (toString config.pid))
      note (fun object =>
        { object with processMoved := false }))
  else
    return []

/- Write the saved affinities back, whatever each write does. -/
def restoreIrqs
    (config : IsolationConfig)
    (failures : Failures) :
    List (Nat × String) → Effect Controlled (List String)
| [] => pure []
| (irq, affinity) :: rest => do
    let errors ←
      Effect.attempt
        ("restore IRQ " ++ toString irq ++ " affinity")
        (issue config failures (.write (.affinity irq) affinity))
    let more ← restoreIrqs config failures rest
    return errors ++ more

/- Remove the benchmark cgroup. -/
def restoreCgroup
    (config : IsolationConfig)
    (failures : Failures) :
    Effect Controlled (List String) := do
  let world ← get
  if world.object.cgroupCreated ∧
      world.object.cgroupPath ≠ none then
    Effect.attempt "remove benchmark cpuset" (do
      issue config failures (.write .partition "member")
      issue config failures .rmdir
      note (fun object =>
        { object with cgroupCreated := false }))
  else
    return []

/- Disable the cpuset controller. -/
def restoreController
    (config : IsolationConfig)
    (failures : Failures) :
    Effect Controlled (List String) := do
  let world ← get
  if world.object.controllerEnabledByUs then
    Effect.attempt "disable cpuset controller" (do
      issue config failures (.write .subtreeControl "-cpuset")
      note (fun object =>
        { object with controllerEnabledByUs := false }))
  else
    return []

/- The saved affinities are dropped in any case. -/
def restore
    (config : IsolationConfig)
    (failures : Failures) :
    Effect Controlled Unit := do
  let world ← get
  if world.object.Idle then
    return ()
  else
    let first ← restoreProcess config failures
    let second ←
      restoreIrqs config failures
        world.object.originalIrqAffinities.items
    note (fun object =>
      { object with originalIrqAffinities := ∅ })
    let third ← restoreCgroup config failures
    let fourth ← restoreController config failures
    note (fun object => { object with active := false })
    Effect.report (first ++ second ++ third ++ fourth)

------------------------------------------------------------
-- Preparing
------------------------------------------------------------

/- Enable the cpuset controller when it is not enabled. -/
def enableController
    (config : IsolationConfig)
    (host : Host)
    (enabled : Bool) :
    Effect Controlled Unit :=
  if enabled then
    pure ()
  else do
    issue config host.commands
      (.write .subtreeControl "+cpuset")
    note (fun object =>
      { object with controllerEnabledByUs := true })

/- Create the cgroup and partition its CPUs. -/
def createCgroup
    (config : IsolationConfig)
    (host : Host)
    (benchmark : String) :
    Effect Controlled Unit := do
  issue config host.commands .mkdir
  note (fun object => { object with cgroupCreated := true })
  let mems ← Effect.ask (fun _ => host.text .memsEffective)
  issue config host.commands (.write .mems mems)
  issue config host.commands (.write .cpus benchmark)
  issue config host.commands (.write .partition "isolated")

/- Save the affinity of an interrupt, then change it. -/
def pinIrq
    (config : IsolationConfig)
    (host : Host)
    (housekeeping : String)
    (irq : Nat) :
    Effect Controlled Unit := do
  let original ←
    observe (host.raises (.affinity irq))
      (fun machine => machine.affinity irq)
  note (fun object =>
    { object with
      originalIrqAffinities :=
        object.originalIrqAffinities.set irq original })
  issue config host.commands
    (.write (.affinity irq) housekeeping)
  let _ ←
    observe (host.raises (.affinityWritten irq))
      (fun machine => machine.affinity irq)
  observe (host.raises (.thread irq .setUp)) (fun _ => ())

/- Move the process into the cgroup. -/
def moveProcess
    (config : IsolationConfig)
    (host : Host) :
    Effect Controlled Unit := do
  issue config host.commands
    (.write (.procs (benchmarkPath config))
      (toString config.pid))
  note (fun object => { object with processMoved := true })

/- The guarded part of `prepare`. -/
def setUp
    (config : IsolationConfig)
    (host : Host)
    (enabled : Bool)
    (irqs : List Nat)
    (housekeeping benchmark : String) :
    Effect Controlled Unit := do
  enableController config host enabled
  createCgroup config host benchmark
  Effect.forEach (pinIrq config host housekeeping) irqs
  moveProcess config host
  Effect.ask (fun _ =>
    checkPlacement host housekeeping benchmark)
  note (fun object =>
    { object with active := true, irqs := irqs })
  verify config host
  Effect.ask (fun _ => host.recordWritten)

/- `failures` are those of the commands of the clean-up. -/
def prepare
    (config : IsolationConfig)
    (host : Host)
    (failures : Failures) :
    Effect Controlled Unit := do
  if ¬ config.enabled then
    return ()
  else if (← get).object.active then
    return ()
  else
    Effect.ask (fun _ => validateEnvironment config host)
    let existing ←
      observe (host.raises .benchmarkCgroup)
        Machine.benchmarkCgroup
    if existing then
      throw
        ("benchmark cpuset already exists: " ++
          benchmarkPath config)
    else
      note (fun object =>
        { object with cgroupPath := some (benchmarkPath config) })
      let original ←
        observe (host.raises .processCgroup)
          Machine.processCgroup
      note (fun object =>
        { object with originalCgroupPath := some original })
      let enabled ←
        observe (host.raises .subtreeControl)
          Machine.cpusetController
      let records ←
        Effect.ask (fun _ => do
          discoverCameraXhciIrqs (← host.survey))
      let housekeeping ←
        Effect.ask (fun _ => do
          .ok (formatCpuList
            (← parseCpuList config.housekeepingCpus)))
      let benchmark ←
        Effect.ask (fun _ => do
          .ok (formatCpuList
            (← parseCpuList config.benchmarkCpus)))
      Effect.onRaise
        ("CPU isolation setup failed and cleanup also" ++
          " failed: ")
        (setUp config host enabled (records.map Prod.fst)
          housekeeping benchmark)
        (restore config failures)

end Controls

end RsCamera
