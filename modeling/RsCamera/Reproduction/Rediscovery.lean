import RsCamera.Reproduction.Discovery

/-
  Runs of the discovery: `main` (`discover.py`), with the
  files of one configuration, and the refresh after a boot
  that calls it (`refresh_boot_config`, `pipeline.py`).

  A run may be killed after any of its writes.  The paths on
  which the files stand are those of `Reproduction.Disk`.

  Key definitions include:
    * `Live`, `Files`, `Write`
    * `discover`, `Step`, `after`
    * `discoveredOnBoot`, `refreshOn`

  Key theorems include:
    * `discover_then_check`
    * `after_config`, `after_loads`
    * `campaign_boots`
-/

------------------------------------------------------------
-- One Run
------------------------------------------------------------

namespace RsCamera

namespace Reproduction

namespace Discovery

/-
  What the probe, USB and `/proc/interrupts` show to a run,
  the release of its kernel, and the letters and numbers of
  its interpreter.
-/
structure Live where
  probe : Except String (List SdkDevice)
  usb : List UsbDevice
  survey : Controls.Survey
  kernel : String
  isAlnum : Char → Bool

/- A path that is resolved, with its last part apart. -/
structure Path where
  parent : List String
  name : String
deriving DecidableEq, Repr

/- The options of a run, but for the program it probes with. -/
structure Arguments where
  check : Bool
  newSelection : Bool
  output : Path
  inventory : Path
deriving DecidableEq, Repr

/- The options that `main` does not refuse. -/
structure Arguments.Allowed (args : Arguments) : Prop where
  combined : (args.check && args.newSelection) = false
  different : args.output ≠ args.inventory

/- The clock of a run: at its inventory, and at its backup. -/
structure Times where
  observedAt : String
  stamp : String

/- `inventory.json`. -/
structure InventoryFile where
  observedAt : String
  kernel : String
  devices : List Device
  issues : List String
  ready : Bool
deriving DecidableEq

/- What a run writes: a backup goes by the time in its name. -/
inductive Write
| inventory (file : InventoryFile)
| backup (stamp : String) (saved : SavedConfig)
| config (saved : SavedConfig)

/- The files of one `--output` and one `--inventory`. -/
structure Files where
  config : Option SavedConfig
  inventory : Option InventoryFile
  backups : Dict String SavedConfig

/- What a write changes. -/
def Files.write (files : Files) : Write → Files
| .inventory file => { files with inventory := some file }
| .backup stamp saved =>
    { files with backups := files.backups.set stamp saved }
| .config saved => { files with config := some saved }

/- Several writes, in order. -/
def Files.writes (files : Files) (list : List Write) : Files :=
  list.foldl Files.write files

/- The error that a run notes down and goes on with. -/
def issueOf {X : Type} : Except String X → List String
| .error error => [error]
| .ok _ => []

/- Interrupts that cannot be found are none. -/
def Live.irqs (live : Live) : Irqs :=
  match Controls.discoverCameraXhciIrqs live.survey with
  | .error _ => []
  | .ok irqs => irqs

/- `config != previous`, for dictionaries. -/
def differs
    (config : SavedConfig)
    (previous : Option SavedConfig) : Bool :=
  previous.map SavedConfig.toConfig ≠ some config.toConfig

/- The backup of the file that is there, and the new file. -/
def replaced
    (stamp : String)
    (config : SavedConfig)
    (previous : Option SavedConfig) : List Write :=
  if differs config previous then
    (previous.toList.map (Write.backup stamp)) ++
      [.config config]
  else
    []

/- What a run writes, and how it ends. -/
structure Plan where
  writes : List Write
  outcome : Except String Unit

/- A run that has read the devices of the SDK. -/
def discoverFrom
    (args : Arguments)
    (times : Times)
    (live : Live)
    (previous : Option SavedConfig)
    (sdk : List SdkDevice) : Plan :=
  let found := inventory live.isAlnum sdk live.usb live.irqs
  let made :=
    makeConfig found.1
      (if args.newSelection then none else previous)
  let issues :=
    issueOf (Controls.discoverCameraXhciIrqs live.survey) ++
      found.2 ++ issueOf made
  let recorded : List Write :=
    if args.check then
      []
    else
      [.inventory
        ⟨times.observedAt, live.kernel, found.1, issues,
          issues.isEmpty⟩]
  match issues, made with
  | [], .ok config =>
      if args.check then
        if differs config previous then
          ⟨[], .error
            ("Live camera/IRQ configuration differs from" ++
              " saved config")⟩
        else
          ⟨[], .ok ()⟩
      else
        ⟨recorded ++ replaced times.stamp config previous,
          .ok ()⟩
  | _, _ =>
      ⟨recorded, .error (String.intercalate "; " issues)⟩

/- `main`, on the configuration that stands at its output. -/
def discover
    (args : Arguments)
    (times : Times)
    (live : Live)
    (previous : Option SavedConfig) : Plan :=
  if args.check && args.newSelection then
    ⟨[], .error "--check and --new-selection cannot be combined"⟩
  else if args.output = args.inventory then
    ⟨[], .error "Config and inventory paths must differ"⟩
  else
    match live.probe with
    | .error error => ⟨[], .error error⟩
    | .ok sdk => discoverFrom args times live previous sdk

------------------------------------------------------------
-- How A Run Ends
------------------------------------------------------------

section

variable {args : Arguments}
variable {times : Times}
variable {live : Live}
variable {previous : Option SavedConfig}

/- What is there when a run finds nothing amiss. -/
structure Ready
    (newSelection : Bool)
    (live : Live)
    (previous : Option SavedConfig)
    (sdk : List SdkDevice)
    (irqs : Irqs)
    (config : SavedConfig) : Prop where
  probe : live.probe = .ok sdk
  surveyed :
    Controls.discoverCameraXhciIrqs live.survey = .ok irqs
  issues : (inventory live.isAlnum sdk live.usb irqs).2 = []
  made :
    makeConfig (inventory live.isAlnum sdk live.usb irqs).1
      (if newSelection then none else previous) = .ok config

/- The record of an inventory without issues. -/
def readyFile
    (times : Times)
    (live : Live)
    (sdk : List SdkDevice)
    (irqs : Irqs) : InventoryFile where
  observedAt := times.observedAt
  kernel := live.kernel
  devices := (inventory live.isAlnum sdk live.usb irqs).1
  issues := []
  ready := true

/- The run that finds nothing amiss. -/
theorem discover_of_ready
    {sdk : List SdkDevice}
    {irqs : Irqs}
    {config : SavedConfig}
    (hArgs : args.Allowed)
    (hReady :
      Ready args.newSelection live previous sdk irqs config) :
    discover args times live previous =
      if args.check then
        if differs config previous then
          ⟨[], .error
            ("Live camera/IRQ configuration differs from" ++
              " saved config")⟩
        else
          ⟨[], .ok ()⟩
      else
        ⟨.inventory (readyFile times live sdk irqs) ::
          replaced times.stamp config previous, .ok ()⟩ := by
  have hIrqs : live.irqs = irqs := by
    unfold Live.irqs
    rw [hReady.surveyed]
  unfold discover discoverFrom
  rw [if_neg (by rw [hArgs.combined]; exact Bool.false_ne_true),
    if_neg hArgs.different, hReady.probe]
  simp only [hIrqs, hReady.surveyed, hReady.issues, hReady.made,
    issueOf, List.append_nil]
  cases args.check
  · rfl
  · rfl

/-
  What a run may do: it ends in an error and leaves the
  configuration and the backups alone, or finds nothing amiss.
-/
theorem discover_cases
    (args : Arguments)
    (times : Times)
    (live : Live)
    (previous : Option SavedConfig) :
    (∃ error, (discover args times live previous).outcome =
        .error error ∧
      ∀ write ∈ (discover args times live previous).writes,
        ∃ file, write = .inventory file) ∨
      (args.Allowed ∧
        ∃ sdk irqs config,
          Ready args.newSelection live previous sdk irqs
            config) := by
  unfold discover
  split
  · left
    exact ⟨_, rfl, by simp⟩
  next hArgs =>
  split
  · left
    exact ⟨_, rfl, by simp⟩
  next hDifferent =>
    cases hProbe : live.probe with
    | error error =>
        left
        exact ⟨error, rfl, by simp⟩
    | ok sdk =>
        simp only
        unfold discoverFrom
        simp only
        split
        next config hIssues hMade =>
          right
          rw [Bool.not_eq_true] at hArgs
          simp only [List.append_eq_nil_iff] at hIssues
          rcases hIssues with ⟨⟨hSurvey, hFound⟩, -⟩
          cases hIrqs :
              Controls.discoverCameraXhciIrqs live.survey with
          | error error =>
              rw [hIrqs] at hSurvey
              cases hSurvey
          | ok irqs =>
              have hLive : live.irqs = irqs := by
                unfold Live.irqs
                rw [hIrqs]
              rw [hLive] at hFound hMade
              exact ⟨⟨hArgs, hDifferent⟩, sdk, irqs, config,
                ⟨hProbe, hIrqs, hFound, hMade⟩⟩
        next =>
          left
          refine ⟨_, rfl, ?_⟩
          intro write hWrite
          simp only at hWrite
          split at hWrite
          · cases hWrite
          · exact ⟨_, List.mem_singleton.mp hWrite⟩

/- A run that succeeds has found nothing amiss. -/
theorem ready_of_ok
    (hOk : (discover args times live previous).outcome =
      .ok ()) :
    args.Allowed ∧
      ∃ sdk irqs config,
        Ready args.newSelection live previous sdk irqs
          config := by
  rcases discover_cases args times live previous with
    ⟨error, hError, -⟩ | hReady
  · rw [hOk] at hError
    cases hError
  · exact hReady

end

------------------------------------------------------------
-- A Machine
------------------------------------------------------------

/- Two controllers, a D435 on each and a D455 on the first. -/
def benchDevices : List Controls.CameraDevice :=
  [⟨"1-1", "/sys/xhci-hcd.0/usb1/1-1",
      some "/sys/xhci-hcd.0", ["usb1"]⟩,
    ⟨"1-2", "/sys/xhci-hcd.0/usb1/1-2",
      some "/sys/xhci-hcd.0", ["usb1"]⟩,
    ⟨"3-1", "/sys/xhci-hcd.1/usb3/3-1",
      some "/sys/xhci-hcd.1", ["usb3"]⟩]

/- Two controllers with their interrupts. -/
def benchSurvey (irq : Nat) : Controls.Survey where
  devices := benchDevices
  actions := [("usb1", irq), ("usb3", irq + 5)]

/- Three cameras on USB 3. -/
def benchUsb : List UsbDevice :=
  [⟨"1-1", ["sys", "xhci-hcd.0", "usb1", "1-1"], .mbps 5000⟩,
    ⟨"1-2", ["sys", "xhci-hcd.0", "usb1", "1-2"], .mbps 5000⟩,
    ⟨"3-1", ["sys", "xhci-hcd.1", "usb3", "3-1"], .mbps 5000⟩]

/- The same cameras, as the SDK lists them. -/
def benchSdk : List SdkDevice :=
  [⟨"Intel RealSense D455", "201",
      ["sys", "xhci-hcd.0", "usb1", "1-2", "video4"]⟩,
    ⟨"Intel RealSense D435", "102",
      ["sys", "xhci-hcd.1", "usb3", "3-1", "video2"]⟩,
    ⟨"Intel RealSense D435", "101",
      ["sys", "xhci-hcd.0", "usb1", "1-1", "video0"]⟩]

/- What a discovery sees of them. -/
def benchLive (irq : Nat) (sdk : List SdkDevice) : Live where
  probe := .ok sdk
  usb := benchUsb
  survey := benchSurvey irq
  kernel := "6.12.47-rpi"
  isAlnum := fun _ => true

/- Where the configuration goes. -/
def benchOutput : Path :=
  ⟨["reproduction", "setup"], "config.json"⟩

/- Where the inventory goes. -/
def benchInventory : Path :=
  ⟨["reproduction", "setup"], "inventory.json"⟩

/- The times of a run on some day. -/
def benchTimes (day : String) : Times :=
  ⟨"2026-01-0" ++ day ++ "T00:00:00+00:00",
    "2026010" ++ day ++ "T000000000000Z"⟩

/- The configuration that is found. -/
def benchSaved (irq : Int) : SavedConfig where
  cameras :=
    { items := (benchConfig irq).cameras.entries
      nodup := by
        change ["a", "b", "c"].Nodup
        decide }
  selection := (benchConfig irq).selection

theorem benchSurvey_hubs
    (irq : Nat) :
    HubsNamed (benchSurvey irq) := by
  change ∀ device ∈ benchDevices, ∀ bus ∈ device.rootHubs,
    isXhciLabel ("xhci-hcd:" ++ bus) = true
  decide +kernel

------------------------------------------------------------
-- The Same Hardware
------------------------------------------------------------

section

/-
  The SDK may list the same devices in another order, and the
  kernel may be another one.
-/
structure SameHardware (live live' : Live) : Prop where
  isAlnum : live'.isAlnum = live.isAlnum
  usb : live'.usb = live.usb
  survey : live'.survey = live.survey
  probe :
    ∀ sdk, live.probe = .ok sdk →
      ∃ sdk', live'.probe = .ok sdk' ∧ sdk'.Perm sdk

variable {files : Files}
variable {live live' : Live}
variable {times : Times}
variable {previous : Option SavedConfig}
variable {sdk : List SdkDevice}
variable {irqs : Irqs}
variable {config current : SavedConfig}

theorem differs_eq_false_iff :
    differs config previous = false ↔
      ∃ current, previous = some current ∧
        current.toConfig = config.toConfig := by
  unfold differs
  rw [decide_eq_false_iff_not, ne_eq, not_not]
  exact Option.map_eq_some_iff

/- On the same hardware, what was found is found again. -/
theorem Ready.again
    {newSelection : Bool}
    (hReady :
      Ready newSelection live previous sdk irqs config)
    (hSame : SameHardware live live')
    (hCurrent : current.toConfig = config.toConfig) :
    ∃ sdk', Ready false live' (some current) sdk' irqs config ∧
      inventory live'.isAlnum sdk' live'.usb irqs =
        inventory live.isAlnum sdk live.usb irqs := by
  rcases hSame.probe sdk hReady.probe with
    ⟨sdk', hProbe, hPerm⟩
  have hInventory :
      inventory live'.isAlnum sdk' live'.usb irqs =
        inventory live.isAlnum sdk live.usb irqs := by
    rw [hSame.usb, hSame.isAlnum]
    exact inventory_perm hReady.issues hPerm
  refine ⟨sdk', ⟨hProbe, ?_, ?_, ?_⟩, hInventory⟩
  · rw [hSame.survey]
    exact hReady.surveyed
  · rw [hInventory]
    exact hReady.issues
  · rw [hInventory]
    exact makeConfig_again (usableSerials_nodup hReady.issues)
      hReady.made hCurrent

/- The writes of a run that finds nothing amiss. -/
theorem writes_replaced
    (files : Files)
    (stamp : String)
    (config : SavedConfig)
    (file : InventoryFile) :
    ∃ current,
      (files.writes (.inventory file ::
          replaced stamp config files.config)).config =
        some current ∧
      current.toConfig = config.toConfig ∧
      (files.writes (.inventory file ::
          replaced stamp config files.config)).inventory =
        some file := by
  unfold replaced Files.writes
  split
  next =>
    cases files.config with
    | none => exact ⟨config, rfl, rfl, rfl⟩
    | some old => exact ⟨config, rfl, rfl, rfl⟩
  next hSame =>
    rw [Bool.not_eq_true, differs_eq_false_iff] at hSame
    rcases hSame with ⟨current, hCurrent, hEq⟩
    exact ⟨current, hCurrent, hEq, rfl⟩

/- A later look at what an inventory without issues shows. -/
def InventoryFile.seenAgain
    (file : InventoryFile)
    (times : Times)
    (live : Live) : InventoryFile :=
  { file with
    observedAt := times.observedAt
    kernel := live.kernel }

/-
  After a discovery that succeeds, a check of the same
  hardware passes and writes nothing.  Another discovery
  leaves the configuration and its backups as they are, and
  of the inventory all but its time and its kernel.
-/
theorem discover_then_check
    {newSelection : Bool}
    {output inventory : Path}
    (hOk :
      (discover ⟨false, newSelection, output, inventory⟩ times
        live files.config).outcome = .ok ())
    (hSame : SameHardware live live')
    (times' : Times) :
    let files' :=
      files.writes
        (discover ⟨false, newSelection, output, inventory⟩ times
          live files.config).writes
    let second :=
      discover ⟨false, false, output, inventory⟩ times' live'
        files'.config
    discover ⟨true, false, output, inventory⟩ times' live'
        files'.config = ⟨[], .ok ()⟩ ∧
      second.outcome = .ok () ∧
      ∃ file, files'.inventory = some file ∧
        files'.writes second.writes =
          { files' with
            inventory := some (file.seenAgain times' live') } := by
  intro files' second
  rcases ready_of_ok hOk with
    ⟨hArgs, sdk, irqs, config, hReady⟩
  have hFirst :
      files' =
        files.writes
          (.inventory (readyFile times live sdk irqs) ::
            replaced times.stamp config files.config) :=
    congrArg (fun plan => files.writes plan.writes)
      (discover_of_ready hArgs hReady)
  rcases writes_replaced files times.stamp config
      (readyFile times live sdk irqs) with
    ⟨current, hConfig, hCurrent, hInventory⟩
  rw [← hFirst] at hConfig hInventory
  rcases hReady.again hSame hCurrent with
    ⟨sdk', hAgain, hFound⟩
  have hSettled : differs config (some current) = false :=
    differs_eq_false_iff.mpr ⟨current, rfl, hCurrent⟩
  have hFile :
      readyFile times' live' sdk' irqs =
        (readyFile times live sdk irqs).seenAgain times'
          live' := by
    unfold readyFile
    rw [hFound]
    rfl
  have hSecond :
      second =
        ⟨[.inventory
          ((readyFile times live sdk irqs).seenAgain times'
            live')], .ok ()⟩ := by
    have hWrite :
        (⟨false, false, output, inventory⟩ : Arguments).Allowed :=
      ⟨rfl, hArgs.different⟩
    change discover _ times' live' files'.config = _
    rw [hConfig, discover_of_ready hWrite hAgain, hFile]
    unfold replaced
    rw [hSettled]
    rfl
  refine ⟨?_, ?_, readyFile times live sdk irqs, hInventory, ?_⟩
  · have hCheck :
        (⟨true, false, output, inventory⟩ : Arguments).Allowed :=
      ⟨rfl, hArgs.different⟩
    rw [hConfig, discover_of_ready hCheck hAgain, hSettled]
    rfl
  · rw [hSecond]
  · rw [hSecond]
    rfl

theorem benchLive_same :
    SameHardware (benchLive 130 benchSdk)
      { benchLive 130 benchSdk.reverse with
        kernel := "6.12.48-rpi" } where
  isAlnum := rfl
  usb := rfl
  survey := rfl
  probe := by
    intro sdk hProbe
    cases hProbe
    exact ⟨benchSdk.reverse, rfl, List.reverse_perm _⟩

theorem discover_then_check_bench :
    let files : Files := ⟨none, none, ∅⟩
    let files' :=
      files.writes
        (discover ⟨false, false, benchOutput, benchInventory⟩
          (benchTimes "1") (benchLive 130 benchSdk) none).writes
    let second :=
      discover ⟨false, false, benchOutput, benchInventory⟩
        (benchTimes "2")
        { benchLive 130 benchSdk.reverse with
          kernel := "6.12.48-rpi" } files'.config
    second.outcome = .ok () ∧
      (files'.writes second.writes).inventory.map
          InventoryFile.observedAt =
        some "2026-01-02T00:00:00+00:00" ∧
      (files'.writes second.writes).config = files'.config := by
  intro files files' second
  have hOk :
      (discover ⟨false, false, benchOutput, benchInventory⟩
        (benchTimes "1") (benchLive 130 benchSdk)
          files.config).outcome = .ok () := by
    decide +kernel
  rcases discover_then_check hOk benchLive_same
      (benchTimes "2") with
    ⟨-, hSecond, file, -, hFiles⟩
  refine ⟨hSecond, ?_, ?_⟩
  · rw [hFiles]
    rfl
  · rw [hFiles]

end

------------------------------------------------------------
-- Killed Runs
------------------------------------------------------------

/- A run, and how many of its writes it makes. -/
structure Step where
  args : Arguments
  times : Times
  live : Live
  written : Nat

/- A run, up to where it is killed. -/
def Files.step (files : Files) (run : Step) : Files :=
  files.writes
    ((discover run.args run.times run.live
      files.config).writes.take run.written)

/- Run after run. -/
def after (files : Files) (runs : List Step) : Files :=
  runs.foldl Files.step files

/- Writes that do not concern the configuration. -/
theorem writes_inventories
    (files : Files)
    {list : List Write}
    (hAll : ∀ write ∈ list, ∃ file, write = .inventory file) :
    (files.writes list).config = files.config ∧
      (files.writes list).backups = files.backups := by
  induction list generalizing files with
  | nil => exact ⟨rfl, rfl⟩
  | cons write list ih =>
      rcases hAll write List.mem_cons_self with ⟨file, hFile⟩
      subst hFile
      exact ih _ (fun other hOther =>
        hAll other (List.mem_cons_of_mem _ hOther))

/-
  What a killed run may do to the configuration and to the
  backups: a new one is written when the old one is kept.
-/
theorem step_cases
    (files : Files)
    (run : Step) :
    ((files.step run).backups = files.backups ∨
      ∃ old, files.config = some old ∧
        (files.step run).backups =
          files.backups.set run.times.stamp old) ∧
    ((files.step run).config = files.config ∨
      ∃ sdk irqs config,
        Ready run.args.newSelection run.live files.config sdk
          irqs config ∧
        (files.step run).config = some config ∧
        ∀ old, files.config = some old →
          (files.step run).backups.get? run.times.stamp =
            some old) := by
  unfold Files.step
  rcases discover_cases run.args run.times run.live
      files.config with
    ⟨_, -, hInventories⟩ |
    ⟨hArgs, sdk, irqs, config, hReady⟩
  · have hSame := writes_inventories files
      (fun write hWrite =>
        hInventories write
          (List.mem_of_mem_take (i := run.written) hWrite))
    exact ⟨Or.inl hSame.2, Or.inl hSame.1⟩
  · rw [discover_of_ready hArgs hReady]
    split
    · split
      · rw [List.take_nil]
        exact ⟨Or.inl rfl, Or.inl rfl⟩
      · rw [List.take_nil]
        exact ⟨Or.inl rfl, Or.inl rfl⟩
    · unfold replaced
      split
      next =>
        -- the inventory, the backup and the file, in this order
        cases hConfig : files.config with
        | none =>
            rcases run.written with _ | _ | written
            · exact ⟨Or.inl rfl, Or.inl hConfig⟩
            · exact ⟨Or.inl rfl, Or.inl hConfig⟩
            · rw [List.take_of_length_le (by simp)]
              refine ⟨Or.inl rfl, Or.inr
                ⟨sdk, irqs, config, hConfig ▸ hReady, rfl,
                  ?_⟩⟩
              intro old hOld
              cases hOld
        | some saved =>
            rcases run.written with _ | _ | _ | written
            · exact ⟨Or.inl rfl, Or.inl hConfig⟩
            · exact ⟨Or.inl rfl, Or.inl hConfig⟩
            · exact ⟨Or.inr ⟨saved, rfl, rfl⟩, Or.inl hConfig⟩
            · rw [List.take_of_length_le (by simp)]
              refine ⟨Or.inr ⟨saved, rfl, rfl⟩, Or.inr
                ⟨sdk, irqs, config, hConfig ▸ hReady, rfl,
                  ?_⟩⟩
              intro old hOld
              change (files.backups.set run.times.stamp
                saved).get? run.times.stamp = some old
              rw [Dict.get?_set, if_pos rfl]
              exact hOld
      next =>
        rcases run.written with _ | written
        · exact ⟨Or.inl rfl, Or.inl rfl⟩
        · rw [List.take_succ_cons, List.take_nil]
          exact ⟨Or.inl rfl, Or.inl rfl⟩

/- A configuration that stands, or that a backup holds. -/
def Held (files : Files) (saved : SavedConfig) : Prop :=
  files.config = some saved ∨
    ∃ stamp, files.backups.get? stamp = some saved

/- Times of runs that are those of no other backup. -/
structure Fresh (files : Files) (stamps : List String) : Prop where
  distinct : stamps.Nodup
  unused : ∀ stamp ∈ stamps, stamp ∉ files.backups.keys

theorem Fresh.tail
    {files : Files}
    {run : Step}
    {stamps : List String}
    (hFresh : Fresh files (run.times.stamp :: stamps)) :
    Fresh (files.step run) stamps := by
  have hNodup := List.nodup_cons.mp hFresh.distinct
  refine ⟨hNodup.2, ?_⟩
  intro stamp hStamp hKey
  have hOld :=
    hFresh.unused stamp (List.mem_cons_of_mem _ hStamp)
  rcases (step_cases files run).1 with hSame | ⟨old, -, hSet⟩
  · exact hOld (hSame ▸ hKey)
  · rw [hSet, Dict.mem_keys_set] at hKey
    rcases hKey with hKey | hKey
    · exact hOld hKey
    · exact hNodup.1 (hKey ▸ hStamp)

theorem step_held
    {files : Files}
    {run : Step}
    {saved : SavedConfig}
    (hUnused : run.times.stamp ∉ files.backups.keys)
    (hHeld : Held files saved) :
    Held (files.step run) saved := by
  rcases step_cases files run with ⟨hBackups, hConfig⟩
  rcases hHeld with hHere | ⟨stamp, hStamp⟩
  · rcases hConfig with hSame | ⟨_, _, _, -, -, hKept⟩
    · exact Or.inl (hSame.trans hHere)
    · exact Or.inr ⟨run.times.stamp, hKept saved hHere⟩
  · refine Or.inr ⟨stamp, ?_⟩
    rcases hBackups with hSame | ⟨old, -, hSet⟩
    · rw [hSame]
      exact hStamp
    · have hOther : stamp ≠ run.times.stamp := by
        intro hEq
        exact hUnused
          (hEq ▸ Dict.mem_keys_iff.mpr ⟨saved, hStamp⟩)
      rw [hSet, Dict.get?_set, if_neg hOther]
      exact hStamp

/-
  No run loses a configuration, wherever it is killed: what
  is held once is held ever after.
-/
theorem after_held
    (files : Files)
    (runs : List Step)
    (saved : SavedConfig)
    (hFresh :
      Fresh files (runs.map (fun run => run.times.stamp)))
    (hHeld : Held files saved) :
    Held (after files runs) saved := by
  induction runs generalizing files with
  | nil => exact hHeld
  | cons run runs ih =>
      have hUnused : run.times.stamp ∉ files.backups.keys :=
        hFresh.unused _ List.mem_cons_self
      exact ih (files.step run) hFresh.tail
        (step_held hUnused hHeld)

/- A first boot, and one with other numbers that is killed. -/
def benchRuns : List Step :=
  [⟨⟨false, false, benchOutput, benchInventory⟩,
      benchTimes "1", benchLive 130 benchSdk, 3⟩,
    ⟨⟨false, false, benchOutput, benchInventory⟩,
      benchTimes "2", benchLive 140 benchSdk, 2⟩]

------------------------------------------------------------
-- Configurations That Load
------------------------------------------------------------

section

/-
  What holds of the first file and of each that a run makes
  holds of the file that stands, wherever the runs are killed.
-/
theorem after_config
    {P : SavedConfig → Prop}
    (files : Files)
    (runs : List Step)
    (hFirst : ∀ saved, files.config = some saved → P saved)
    (hMade :
      ∀ run ∈ runs, ∀ newSelection previous sdk irqs config,
        Ready newSelection run.live previous sdk irqs config →
          P config) :
    ∀ saved, (after files runs).config = some saved →
      P saved := by
  induction runs generalizing files with
  | nil => exact hFirst
  | cons run runs ih =>
      refine ih (files.step run) ?_ (fun other hOther =>
        hMade other (List.mem_cons_of_mem _ hOther))
      intro saved hSaved
      rcases (step_cases files run).2 with
        hSame | ⟨_, _, config, hReady, hConfig, -⟩
      · exact hFirst saved (hSame.symm.trans hSaved)
      · rw [hConfig] at hSaved
        rw [← Option.some.inj hSaved]
        exact hMade run List.mem_cons_self _ _ _ _ _ hReady

/- The file is not there, or the runner accepts it. -/
def Loads (files : Files) : Prop :=
  ∀ saved, files.config = some saved →
    loadConfig saved.toConfig = .ok saved.toConfig

/- The SDK gives its serials in ASCII. -/
def Live.AsciiSerials (live : Live) : Prop :=
  ∀ sdk, live.probe = .ok sdk →
    ∀ item ∈ sdk, ∀ c ∈ item.serial.toList, c.toNat < 128

variable {newSelection : Bool}
variable {live : Live}
variable {previous : Option SavedConfig}
variable {sdk : List SdkDevice}
variable {irqs : Irqs}
variable {config : SavedConfig}

/- The runner asks for one thing more than the discovery. -/
theorem Ready.loads_iff
    (hHubs : HubsNamed live.survey)
    (hReady :
      Ready newSelection live previous sdk irqs config) :
    loadConfig config.toConfig = .ok config.toConfig ↔
      Numbered config.serials := by
  constructor
  · intro hLoads
    exact numbered_of_loads hLoads
  · intro hNumbered
    exact makeConfig_loads (usableSerials_nodup hReady.issues)
      (inventory_labelled live.isAlnum sdk live.usb
        (discoverCameraXhciIrqs_labelled hHubs hReady.surveyed))
      hNumbered hReady.made

/- ASCII digits are digits to both. -/
theorem Ready.numbered
    (hAscii : live.AsciiSerials)
    (hReady :
      Ready newSelection live previous sdk irqs config) :
    Numbered config.serials := by
  have hMade := makeConfig_eq_ok_iff.mp hReady.made
  intro serial hSerial
  rw [hMade.serials_eq] at hSerial
  rcases List.mem_map.mp hSerial with ⟨d, hDevice, hEq⟩
  have hDigits :=
    (checkDevice_eq_ok (hMade.checked d hDevice)).1
  have hListed :
      serial ∈ (bySerial sdk).map SdkDevice.serial := by
    rw [← inventory_serials live.isAlnum sdk live.usb irqs, ← hEq]
    exact List.mem_map_of_mem (List.mem_filter.mp hDevice).1
  rcases List.mem_map.mp hListed with ⟨item, hItem, hName⟩
  rw [hEq] at hDigits
  refine isNumber_of_isDigits ?_ hDigits
  intro c hChar
  rw [← hName] at hChar
  exact hAscii sdk hReady.probe item
    ((bySerial_perm sdk).mem_iff.mp hItem) c hChar

/-
  Whatever the runs find and wherever they are killed, the
  runner accepts the file that stands after them when its
  serials are in ASCII digits, and only then.
-/
theorem after_loads
    (files : Files)
    (runs : List Step)
    (hHubs : ∀ run ∈ runs, HubsNamed run.live.survey)
    (hLoads : Loads files) :
    (∀ saved, (after files runs).config = some saved →
      (loadConfig saved.toConfig = .ok saved.toConfig ↔
        Numbered saved.serials)) ∧
      ((∀ run ∈ runs, run.live.AsciiSerials) →
        Loads (after files runs)) := by
  refine ⟨?_, ?_⟩
  · refine after_config files runs ?_ ?_
    · intro saved hSaved
      have hFirst := hLoads saved hSaved
      exact iff_of_true hFirst (numbered_of_loads hFirst)
    · intro run hRun _ _ _ _ _ hReady
      exact hReady.loads_iff (hHubs run hRun)
  · intro hAscii
    refine after_config files runs hLoads ?_
    intro run hRun _ _ _ _ _ hReady
    exact (hReady.loads_iff (hHubs run hRun)).mpr
      (hReady.numbered (hAscii run hRun))

theorem benchLive_ascii
    (irq : Nat) :
    (benchLive irq benchSdk).AsciiSerials := by
  intro sdk hProbe
  cases hProbe
  simp [benchSdk]

theorem after_loads_bench :
    Loads (after ⟨none, none, ∅⟩ benchRuns) := by
  refine (after_loads ⟨none, none, ∅⟩ benchRuns ?_ ?_).2 ?_
  · intro run hRun
    rcases List.mem_cons.mp hRun with hFirst | hSecond
    · rw [hFirst]
      exact benchSurvey_hubs 130
    · rw [List.mem_singleton.mp hSecond]
      exact benchSurvey_hubs 140
  · intro saved hSaved
    cases hSaved
  · intro run hRun
    rcases List.mem_cons.mp hRun with hFirst | hSecond
    · rw [hFirst]
      exact benchLive_ascii 130
    · rw [List.mem_singleton.mp hSecond]
      exact benchLive_ascii 140

end

------------------------------------------------------------
-- The Next Boots
------------------------------------------------------------

/- The devices that an inventory of the machine lists. -/
def Live.devices (live : Live) : List Device :=
  match live.probe with
  | .error _ => []
  | .ok sdk =>
      (inventory live.isAlnum sdk live.usb live.irqs).1

/- A boot: where its discovery writes, when, and what it sees. -/
structure Boot where
  folder : List String
  times : Times
  live : Live

/- The options that `refresh_boot_config` gives. -/
def Boot.args (boot : Boot) : Arguments where
  check := false
  newSelection := false
  output := ⟨boot.folder, "config.json"⟩
  inventory := ⟨boot.folder, "inventory.json"⟩

theorem Boot.args_allowed
    (boot : Boot) :
    boot.args.Allowed := by
  refine ⟨rfl, ?_⟩
  intro hSame
  have hName : "config.json" = "inventory.json" :=
    congrArg Path.name hSame
  exact absurd hName (by decide)

/- A discovery on a copy of the camera configuration. -/
def discoveredOnBoot
    (old : SavedConfig)
    (boot : Boot) : Except String SavedConfig := do
  let plan :=
    discover boot.args boot.times boot.live (some old)
  plan.outcome
  let files : Files := ⟨some old, none, ∅⟩
  .ok ((files.writes plan.writes).config.getD old)

/- The camera configuration, and the files of the campaign. -/
structure Campaign where
  saved : SavedConfig
  files : CampaignFiles

/- The start of the worker on a boot. -/
def refreshOn
    (setup : Setup)
    (campaign : Campaign)
    (boot : Boot) : Except String Campaign := do
  let new ← discoveredOnBoot campaign.saved boot
  let files ←
    setup.refreshBootConfig campaign.files new.toConfig
  .ok ⟨new, files⟩

end Discovery

end Reproduction

end RsCamera

------------------------------------------------------------
-- One Boot
------------------------------------------------------------

namespace RsCamera

namespace Reproduction

variable {setup : Setup}
variable {protocol : Protocol}

/- A refresh of the same cameras prepares the campaign anew. -/
theorem refresh_preparedFiles
    {old new : CameraConfig}
    (hLoads : loadConfig old = .ok old)
    (hSame : SameCameras old new) :
    setup.refreshBootConfig (setup.preparedFiles protocol old)
        new =
      .ok (setup.preparedFiles protocol new) := by
  have hOld : SameCameras old old := ⟨hLoads, rfl⟩
  have hRelated : Related old ⟨old, old, old⟩ :=
    ⟨hOld, hOld, hOld⟩
  rw [preparedFiles_eq, preparedFiles_eq]
  refine bind_eq_ok.mpr
    ⟨_, refreshWrites_filesOf hRelated hSame rfl, ?_⟩
  by_cases hCamera : old = new
  · subst hCamera
    rw [if_pos rfl]
    rfl
  · rw [if_neg hCamera]
    have hWrites :
        setup.writes protocol new
            (setup.filesOf protocol ⟨old, old, old⟩)
            (refreshOrder.take refreshOrder.length) = _ :=
      writes_filesOf setup hSame.identity refreshOrder.length
    rw [List.take_length] at hWrites
    exact congrArg Except.ok hWrites

/- Other cameras are refused. -/
theorem sameCameras_of_refresh
    {old new : CameraConfig}
    {files : CampaignFiles}
    (hLoads : loadConfig old = .ok old)
    (hOk :
      setup.refreshBootConfig (setup.preparedFiles protocol old)
        new = .ok files) :
    SameCameras old new := by
  have hOld : SameCameras old old := ⟨hLoads, rfl⟩
  have hRelated : Related old ⟨old, old, old⟩ :=
    ⟨hOld, hOld, hOld⟩
  rw [preparedFiles_eq] at hOk
  rcases bind_eq_ok.mp hOk with ⟨planned, hPlanned, -⟩
  exact (refreshWrites_eq_ok hRelated hPlanned).1

namespace Discovery

variable {old new : SavedConfig}
variable {boot : Boot}

/- The configuration that a boot finds. -/
theorem discoveredOnBoot_of_ready
    (boot : Boot)
    {sdk : List SdkDevice}
    {irqs : Irqs}
    {config : SavedConfig}
    (hReady :
      Ready false boot.live (some old) sdk irqs config) :
    ∃ new, discoveredOnBoot old boot = .ok new ∧
      new.toConfig = config.toConfig := by
  have hPlan :
      discover boot.args boot.times boot.live (some old) =
        ⟨.inventory (readyFile boot.times boot.live sdk irqs) ::
          replaced boot.times.stamp config (some old), .ok ()⟩ :=
    discover_of_ready boot.args_allowed hReady
  rcases writes_replaced ⟨some old, none, ∅⟩ boot.times.stamp
      config (readyFile boot.times boot.live sdk irqs) with
    ⟨current, hCurrent, hSame, -⟩
  refine ⟨current, ?_, hSame⟩
  unfold discoveredOnBoot
  rw [hPlan]
  refine bind_eq_ok.mpr ⟨(), rfl, ?_⟩
  simp only [hCurrent, Option.getD_some]

theorem ready_of_discoveredOnBoot
    (hFound : discoveredOnBoot old boot = .ok new) :
    ∃ sdk irqs config,
      Ready false boot.live (some old) sdk irqs config ∧
        new.toConfig = config.toConfig := by
  rcases bind_eq_ok.mp hFound with ⟨_, hOutcome, -⟩
  rcases ready_of_ok hOutcome with
    ⟨-, sdk, irqs, config, hReady⟩
  rcases discoveredOnBoot_of_ready boot hReady with
    ⟨new', hFound', hSame⟩
  rw [hFound] at hFound'
  rw [Except.ok.inj hFound']
  exact ⟨sdk, irqs, config, hReady, hSame⟩

theorem Ready.devices_eq
    {newSelection : Bool}
    {live : Live}
    {previous : Option SavedConfig}
    {sdk : List SdkDevice}
    {irqs : Irqs}
    {config : SavedConfig}
    (hReady :
      Ready newSelection live previous sdk irqs config) :
    live.devices =
      (inventory live.isAlnum sdk live.usb irqs).1 := by
  unfold Live.devices Live.irqs
  rw [hReady.probe, hReady.surveyed]

/- The serials of a configuration that the runner accepts. -/
theorem serials_nodup_of_loads
    {saved : SavedConfig}
    (hLoads :
      loadConfig saved.toConfig = .ok saved.toConfig) :
    saved.serials.Nodup := by
  rcases bind_eq_ok.mp hLoads with ⟨_, hSerials, -⟩
  rw [checkThat_eq_ok, decide_eq_true_eq] at hSerials
  have hPerm :=
    ((sortedEntries_perm saved.cameras).map Prod.snd).map
      Camera.serial
  unfold SavedConfig.serials
  have hNodup := hPerm.nodup_iff.mp hSerials
  rw [List.map_map] at hNodup
  exact hNodup

/- The serials of cameras that were there before. -/
theorem SameConnected.numbered
    {devices : List Device}
    {previous : Option SavedConfig}
    {config : SavedConfig}
    (hConnected : SameConnected devices old)
    (hMade : Made devices previous config)
    (hLoads : loadConfig old.toConfig = .ok old.toConfig) :
    Numbered config.serials := by
  intro serial hSerial
  rw [hMade.serials_eq] at hSerial
  rcases List.mem_map.mp hSerial with ⟨d, hDevice, hEq⟩
  rw [List.mem_filter] at hDevice
  rcases (hConnected serial d.model).mp
      ⟨d, hDevice.1, hDevice.2, hEq, rfl⟩ with
    ⟨entry, hEntry, hOld, -⟩
  refine numbered_of_loads hLoads serial ?_
  rw [← hOld]
  exact List.mem_map_of_mem
    (f := fun entry : String × Camera => entry.2.serial) hEntry

/- A boot with the same cameras, and one with others. -/
theorem refreshOn_eq_ok_iff
    (hLoads : loadConfig old.toConfig = .ok old.toConfig)
    (hHubs : HubsNamed boot.live.survey)
    {campaign : Campaign} :
    refreshOn setup
        ⟨old, setup.preparedFiles protocol old.toConfig⟩ boot =
          .ok campaign ↔
      discoveredOnBoot old boot = .ok campaign.saved ∧
        SameConnected boot.live.devices old ∧
        campaign.files =
          setup.preparedFiles protocol
            campaign.saved.toConfig := by
  have hSerials := serials_nodup_of_loads hLoads
  have hSame
      {new : SavedConfig}
      (hFound : discoveredOnBoot old boot = .ok new) :
      SameCameras old.toConfig new.toConfig ↔
        SameConnected boot.live.devices old := by
    rcases ready_of_discoveredOnBoot hFound with
      ⟨sdk, irqs, config, hReady, hNew⟩
    rw [hNew, hReady.devices_eq,
      ← identity_eq_iff hSerials
        (makeConfig_eq_ok_iff.mp hReady.made)]
    constructor
    · intro hCameras
      exact hCameras.identity
    · intro hIdentity
      have hMade := makeConfig_eq_ok_iff.mp hReady.made
      have hConnected :=
        (identity_eq_iff hSerials hMade).mp hIdentity
      exact ⟨(hReady.loads_iff hHubs).mpr
        (hConnected.numbered hMade hLoads), hIdentity⟩
  unfold refreshOn
  rw [bind_eq_ok]
  constructor
  · rintro ⟨new, hFound, hOk⟩
    rcases bind_eq_ok.mp hOk with ⟨files, hRefresh, hEnd⟩
    rw [← Except.ok.inj hEnd]
    have hCameras := sameCameras_of_refresh hLoads hRefresh
    rw [refresh_preparedFiles hLoads hCameras] at hRefresh
    exact ⟨hFound, (hSame hFound).mp hCameras,
      (Except.ok.inj hRefresh).symm⟩
  · rintro ⟨hFound, hConnected, hFiles⟩
    refine ⟨campaign.saved, hFound, bind_eq_ok.mpr
      ⟨campaign.files, ?_, rfl⟩⟩
    rw [hFiles]
    exact refresh_preparedFiles hLoads
      ((hSame hFound).mpr hConnected)

/- Whether a boot finds a configuration is in the identity. -/
theorem found_of_identity
    {found : SavedConfig}
    (hOld : old.serials.Nodup)
    (hNew : new.serials.Nodup)
    (hIdentity :
      cameraIdentity new.toConfig =
        cameraIdentity old.toConfig)
    (hFound : discoveredOnBoot old boot = .ok found) :
    ∃ other, discoveredOnBoot new boot = .ok other := by
  rcases ready_of_discoveredOnBoot hFound with
    ⟨sdk, irqs, config, hReady, -⟩
  have hMade := hReady.made
  rw [if_neg Bool.false_ne_true,
    ← makeConfig_congr hOld hNew hIdentity] at hMade
  rcases discoveredOnBoot_of_ready boot
      ⟨hReady.probe, hReady.surveyed, hReady.issues, hMade⟩ with
    ⟨other, hOther, -⟩
  exact ⟨other, hOther⟩

/- A boot on which a campaign goes on. -/
def GoesOn (old : SavedConfig) (boot : Boot) : Prop :=
  (∃ new, discoveredOnBoot old boot = .ok new) ∧
    SameConnected boot.live.devices old

theorem goesOn_congr
    (hOld : old.serials.Nodup)
    (hNew : new.serials.Nodup)
    (hIdentity :
      cameraIdentity new.toConfig =
        cameraIdentity old.toConfig) :
    GoesOn new boot ↔ GoesOn old boot := by
  unfold GoesOn
  rw [sameConnected_congr hIdentity]
  refine and_congr_left' ⟨?_, ?_⟩
  · rintro ⟨found, hFound⟩
    exact found_of_identity hNew hOld hIdentity.symm hFound
  · rintro ⟨found, hFound⟩
    exact found_of_identity hOld hNew hIdentity hFound

variable {setup : Setup}
variable {protocol : Protocol}

/- What a boot leaves behind, for the boots after it. -/
theorem refreshOn_keeps
    {campaign : Campaign}
    (hLoads : loadConfig old.toConfig = .ok old.toConfig)
    (hHubs : HubsNamed boot.live.survey)
    (hOk :
      refreshOn setup
        ⟨old, setup.preparedFiles protocol old.toConfig⟩ boot =
          .ok campaign) :
    campaign =
        ⟨campaign.saved,
          setup.preparedFiles protocol campaign.saved.toConfig⟩ ∧
      SameCameras old.toConfig campaign.saved.toConfig := by
  rcases (refreshOn_eq_ok_iff hLoads hHubs).mp hOk with
    ⟨hFound, hConnected, hFiles⟩
  refine ⟨?_, ?_⟩
  · rw [← hFiles]
  · rcases ready_of_discoveredOnBoot hFound with
      ⟨sdk, irqs, config, hReady, hNew⟩
    have hMade := makeConfig_eq_ok_iff.mp hReady.made
    rw [hReady.devices_eq] at hConnected
    rw [hNew]
    exact
      ⟨(hReady.loads_iff hHubs).mpr
        (hConnected.numbered hMade hLoads),
      (identity_eq_iff (serials_nodup_of_loads hLoads)
        hMade).mpr hConnected⟩

/-
  A campaign goes on over its boots when the same cameras are
  there on each of them, and only then.  Its files are then
  those of a campaign prepared anew, of the same identity.
-/
theorem campaign_boots
    (setup : Setup)
    (protocol : Protocol)
    (boots : List Boot)
    (old : SavedConfig)
    (hLoads : loadConfig old.toConfig = .ok old.toConfig)
    (hHubs : ∀ boot ∈ boots, HubsNamed boot.live.survey) :
    let start : Campaign :=
      ⟨old, setup.preparedFiles protocol old.toConfig⟩
    (∀ last, boots.foldlM (refreshOn setup) start = .ok last →
      last.files =
          setup.preparedFiles protocol last.saved.toConfig ∧
        cameraIdentity last.saved.toConfig =
          cameraIdentity old.toConfig) ∧
      ((∃ last,
        boots.foldlM (refreshOn setup) start = .ok last) ↔
          ∀ boot ∈ boots, GoesOn old boot) := by
  induction boots generalizing old with
  | nil =>
      intro start
      refine ⟨?_, ?_⟩
      · intro last hLast
        rw [List.foldlM_nil] at hLast
        rw [← Except.ok.inj hLast]
        exact ⟨rfl, rfl⟩
      · refine ⟨?_, ?_⟩
        · intro _ boot hBoot
          cases hBoot
        · intro _
          exact ⟨start, rfl⟩
  | cons boot boots ih =>
      intro start
      have hFirst := hHubs boot List.mem_cons_self
      have hRest : ∀ other ∈ boots, HubsNamed other.live.survey :=
        fun other hOther =>
          hHubs other (List.mem_cons_of_mem _ hOther)
      have hOld := serials_nodup_of_loads hLoads
      refine ⟨?_, ?_, ?_⟩
      · intro last hLast
        rw [List.foldlM_cons] at hLast
        rcases bind_eq_ok.mp hLast with ⟨next, hNext, hLast⟩
        rcases refreshOn_keeps hLoads hFirst hNext with
          ⟨hShape, hSame⟩
        rw [hShape] at hLast
        rcases (ih next.saved hSame.loads hRest).1 last hLast with
          ⟨hFiles, hIdentity⟩
        exact ⟨hFiles, hIdentity.trans hSame.identity⟩
      · rintro ⟨last, hLast⟩
        rw [List.foldlM_cons] at hLast
        rcases bind_eq_ok.mp hLast with ⟨next, hNext, hLast⟩
        rcases refreshOn_keeps hLoads hFirst hNext with
          ⟨hShape, hSame⟩
        rcases (refreshOn_eq_ok_iff hLoads hFirst).mp hNext with
          ⟨hFound, hConnected, -⟩
        rw [hShape] at hLast
        have hLater :=
          (ih next.saved hSame.loads hRest).2.mp ⟨last, hLast⟩
        have hNew := serials_nodup_of_loads hSame.loads
        refine List.forall_mem_cons.mpr
          ⟨⟨⟨next.saved, hFound⟩, hConnected⟩, ?_⟩
        intro other hOther
        exact (goesOn_congr hOld hNew hSame.identity).mp
          (hLater other hOther)
      · intro hAll
        rcases hAll boot List.mem_cons_self with
          ⟨⟨new, hFound⟩, hConnected⟩
        have hNext :
            refreshOn setup start boot =
              .ok
                ⟨new, setup.preparedFiles protocol
                  new.toConfig⟩ :=
          (refreshOn_eq_ok_iff hLoads hFirst).mpr
            ⟨hFound, hConnected, rfl⟩
        have hSame := (refreshOn_keeps hLoads hFirst hNext).2
        have hNew := serials_nodup_of_loads hSame.loads
        have hLater : ∀ other ∈ boots, GoesOn new other :=
          fun other hOther =>
            (goesOn_congr hOld hNew hSame.identity).mpr
              (hAll other (List.mem_cons_of_mem _ hOther))
        rcases (ih new hSame.loads hRest).2.mpr hLater with
          ⟨last, hLast⟩
        exact ⟨last, by
          rw [List.foldlM_cons]
          exact bind_eq_ok.mpr ⟨_, hNext, hLast⟩⟩

/- A boot with the same cameras and other interrupts. -/
def benchBoot : Boot where
  folder := ["root", "boot-inventories", "b1"]
  times := benchTimes "2"
  live := benchLive 140 benchSdk

theorem benchBoot_found :
    ∃ new, discoveredOnBoot (benchSaved 130) benchBoot =
        .ok new ∧
      new.toConfig = (benchSaved 140).toConfig := by
  have hFound :
      (discoveredOnBoot (benchSaved 130) benchBoot).map
          SavedConfig.toConfig =
        .ok (benchSaved 140).toConfig := by
    decide +kernel
  cases hNew : discoveredOnBoot (benchSaved 130) benchBoot with
  | error error =>
      rw [hNew] at hFound
      cases hFound
  | ok new =>
      rw [hNew] at hFound
      exact ⟨new, rfl, Except.ok.inj hFound⟩

theorem benchBoot_goesOn :
    GoesOn (benchSaved 130) benchBoot := by
  rcases benchBoot_found with ⟨new, hFound, hNew⟩
  refine ⟨⟨new, hFound⟩, ?_⟩
  rcases ready_of_discoveredOnBoot hFound with
    ⟨sdk, irqs, config, hReady, hConfig⟩
  rw [hReady.devices_eq]
  refine (identity_eq_iff ?_
    (makeConfig_eq_ok_iff.mp hReady.made)).mp ?_
  · decide +kernel
  · rw [← hConfig, hNew]
    decide +kernel

theorem campaign_boots_bench :
    ∃ last,
      [benchBoot].foldlM (refreshOn benchSetup)
        ⟨benchSaved 130,
          benchSetup.preparedFiles ⟨false, 30⟩
            (benchSaved 130).toConfig⟩ = .ok last ∧
      last.files =
        benchSetup.preparedFiles ⟨false, 30⟩
          (benchSaved 140).toConfig := by
  have hLoads :
      loadConfig (benchSaved 130).toConfig =
        .ok (benchSaved 130).toConfig := by
    decide +kernel
  have hHubs : ∀ boot ∈ [benchBoot], HubsNamed boot.live.survey := by
    intro boot hBoot
    rw [List.mem_singleton.mp hBoot]
    exact benchSurvey_hubs 140
  rcases campaign_boots benchSetup ⟨false, 30⟩ [benchBoot]
      (benchSaved 130) hLoads hHubs with
    ⟨hFiles, hGoes⟩
  rcases hGoes.mpr (by
      intro boot hBoot
      rw [List.mem_singleton.mp hBoot]
      exact benchBoot_goesOn) with
    ⟨last, hLast⟩
  refine ⟨last, hLast, ?_⟩
  rw [(hFiles last hLast).1]
  rw [List.foldlM_cons] at hLast
  rcases bind_eq_ok.mp hLast with ⟨next, hNext, hEnd⟩
  rw [← Except.ok.inj hEnd]
  rcases bind_eq_ok.mp hNext with ⟨new, hNew, hRefresh⟩
  rcases bind_eq_ok.mp hRefresh with ⟨files, -, hIs⟩
  rcases benchBoot_found with ⟨found, hFound, hSame⟩
  rw [hFound] at hNew
  rw [← Except.ok.inj hIs, ← Except.ok.inj hNew, hSame]

end Discovery

end Reproduction

end RsCamera
