import RsCamera.Lib.Containers
import RsCamera.Lib.Transition
import Mathlib.Data.List.Sort

/-
  The refresh of the IRQ numbers after a boot
  (`refresh_boot_config`, with `prepare`, `load_config` and
  `camera_identity`).

  A refresh reads the cameras of the boot, compares them with
  the files of the campaign and, where the numbers of the
  interrupts have changed, writes the adapters, the manifest
  and the camera configuration again, one file after another.
  The files under `boot-inventories` are written only for the
  reader of the campaign and are left out here.

  Key definitions include:
    * `CameraConfig`, `loadConfig`, `cameraIdentity`
    * `Adapter`, `Setup`, `CampaignFiles`
    * `refreshWrites`, `refreshBootConfig`, `killedRefresh`
-/

------------------------------------------------------------
-- Cameras
------------------------------------------------------------

namespace RsCamera

namespace Reproduction

/- A camera of a configuration. -/
structure Camera where
  model : String
  serial : String
  xhciIrq : Int
  xhciLabel : String
deriving Repr, DecidableEq

/- The roles of the cameras. -/
structure Selection where
  d435Pair : List String
  singleD435 : String
  singleD455 : String
  startupD435 : String
deriving Repr, DecidableEq

/- A dictionary of cameras: the entries by name. -/
structure Cameras where
  entries : List (String × Camera)
  sorted : (entries.map Prod.fst).Pairwise (· < ·)
deriving DecidableEq

/- A configuration file. -/
structure CameraConfig where
  cameras : Cameras
  selection : Selection
deriving DecidableEq

/- A camera by its name. -/
def CameraConfig.lookup
    (cfg : CameraConfig)
    (name : String) : Option Camera :=
  cfg.cameras.entries.lookup name

/- `re.fullmatch(r'[0-9]+', text)`. -/
def isNumber (text : List Char) : Bool :=
  !text.isEmpty && text.all Char.isDigit

/- `re.fullmatch(r'xhci-hcd:usb[0-9]+', text)`. -/
def isXhciLabel (text : String) : Bool :=
  let stem := "xhci-hcd:usb".toList
  stem.isPrefixOf text.toList &&
    isNumber (text.toList.drop stem.length)

/- `if not holds: raise ValueError(error)`. -/
def checkThat
    (holds : Bool)
    (error : String) : Except String Unit :=
  if holds then .ok () else .error error

theorem checkThat_eq_ok
    {holds : Bool}
    {error : String} :
    checkThat holds error = .ok () ↔ holds = true := by
  unfold checkThat
  split <;> simp_all

/- The interrupt of a camera and its label. -/
def checkCamera (camera : Camera) : Except String Unit := do
  checkThat (0 < camera.xhciIrq)
    "Set the E3 IRQ numbers from this Pi, not from the paper"
  checkThat (isXhciLabel camera.xhciLabel)
    "Set the matching E3 xHCI IRQ labels"

/- A name that is not there raises a `KeyError`. -/
def CameraConfig.modelOf
    (cfg : CameraConfig)
    (name : String) : Except String String :=
  match cfg.lookup name with
  | none => .error ("'" ++ name ++ "'")
  | some camera => .ok camera.model

/- A role for a D435. -/
def CameraConfig.checkD435
    (cfg : CameraConfig)
    (name : String) : Except String Unit := do
  let model ← cfg.modelOf name
  checkThat (model = "D435") (name ++ " is not a D435")

/-
  The fields that `load_config` adds are functions of the
  others; those of the E3 interrupts follow below.
-/
def loadConfig
    (cfg : CameraConfig) : Except String CameraConfig := do
  let cameras := cfg.cameras.entries.map Prod.snd
  let serials := cameras.map Camera.serial
  let selection := cfg.selection
  let pair := selection.d435Pair
  checkThat (decide serials.Nodup)
    "Camera SDK serials must be distinct"
  checkThat
    (serials.all (fun serial => isNumber serial.toList))
    "Replace serial placeholders with the actual numeric serials"
  cameras.forM checkCamera
  checkThat (pair.length = 2 && decide pair.Nodup)
    "Select two different D435 cameras for E4"
  (pair ++ [selection.singleD435, selection.startupD435]).forM
    cfg.checkD435
  let model ← cfg.modelOf selection.singleD455
  checkThat (model = "D455" || model = "D455F")
    "Select a D455/D455F"
  .ok cfg

/- The number and label of an interrupt of E3. -/
def CameraConfig.irqOf
    (cfg : CameraConfig)
    (name : String) : Option (Int × String) :=
  (cfg.lookup name).map (fun camera =>
    (camera.xhciIrq, camera.xhciLabel))

/- `e3_irqs`, for the D435 and for the D455. -/
def CameraConfig.e3Irqs
    (cfg : CameraConfig) :
    Option (Int × String) × Option (Int × String) :=
  (cfg.irqOf cfg.selection.singleD435,
    cfg.irqOf cfg.selection.singleD455)

/- What is left of a configuration without its interrupts. -/
structure Identity where
  cameras : List (String × String × String)
  selection : Selection
deriving Repr, DecidableEq

/- `camera_identity`: all but the interrupts. -/
def cameraIdentity (cfg : CameraConfig) : Identity where
  cameras :=
    cfg.cameras.entries.map (fun entry =>
      (entry.1, entry.2.model, entry.2.serial))
  selection := cfg.selection

------------------------------------------------------------
-- Adapters
------------------------------------------------------------

/- The files of `entrypoints`. -/
inductive Adapter
| d1H1SingleD435
| h1SingleD455
| p1V2Cases
| ablationCases
| e1
| e2Calibrate
| e2Urb5
| e2Urb16
| e3One
| e3
| e4Calibrate
| e4StandardHardirq
| e4StandardThreaded
| e4RtThreaded
| ablation
| startup
| overhead
| diagnosis
deriving Repr, DecidableEq

/- The name of an adapter in the directory. -/
def Adapter.name : Adapter → String
| .d1H1SingleD435 => "d1_h1_single_d435_20260819.json"
| .h1SingleD455 => "h1_single_d455_20260819.json"
| .p1V2Cases => "p1_v2_cases_20260820.json"
| .ablationCases => "model_stream_ablation_cases_20260812.json"
| .e1 => "e1.sh"
| .e2Calibrate => "e2-calibrate.sh"
| .e2Urb5 => "e2-urb5.sh"
| .e2Urb16 => "e2-urb16.sh"
| .e3One => "e3-one.sh"
| .e3 => "e3.sh"
| .e4Calibrate => "e4-calibrate.sh"
| .e4StandardHardirq => "e4-standard-hardirq.sh"
| .e4StandardThreaded => "e4-standard-threaded.sh"
| .e4RtThreaded => "e4-rt-threaded.sh"
| .ablation => "ablation.sh"
| .startup => "startup.sh"
| .overhead => "overhead.sh"
| .diagnosis => "diagnosis.sh"

/- The order in which `prepare` writes them. -/
def adapterOrder : List Adapter :=
  [.d1H1SingleD435, .h1SingleD455, .p1V2Cases, .ablationCases,
    .e1, .e2Calibrate, .e2Urb5, .e2Urb16, .e3One, .e3,
    .e4Calibrate, .e4StandardHardirq, .e4StandardThreaded,
    .e4RtThreaded, .ablation, .startup, .overhead, .diagnosis]

/- The order in which the manifest lists them. -/
def sortedAdapters : List Adapter :=
  adapterOrder.insertionSort (fun left right =>
    left.name ≤ right.name)

/- How the measurements are taken. -/
structure Protocol where
  smoke : Bool
  calibrationSeconds : Nat
deriving Repr, DecidableEq

/-
  The repository, its digest function and its templates.
  Only the adapter of E3 mentions interrupts: `prepare` fills
  the others from the names, models and serials alone.
-/
structure Setup where
  repo : String
  digest : String → String
  template : Protocol → Identity → Adapter → String
  e3Template :
    Protocol → Identity →
      Option (Int × String) × Option (Int × String) → String

/- The text that `prepare` makes of an adapter. -/
def Setup.adapterText
    (setup : Setup)
    (protocol : Protocol)
    (cfg : CameraConfig)
    (adapter : Adapter) : String :=
  match adapter with
  | .e3One =>
      setup.e3Template protocol (cameraIdentity cfg) cfg.e3Irqs
  | other =>
      setup.template protocol (cameraIdentity cfg) other

------------------------------------------------------------
-- Preparing
------------------------------------------------------------

section

/- `prepared.json`. -/
structure Prepared where
  repo : String
  config : CameraConfig
  protocol : Protocol
  entrypoints : List (Adapter × String)

/- The files of a prepared campaign. -/
structure CampaignFiles where
  cameraConfig : CameraConfig
  prepared : Option Prepared
  adapters : Adapter → Option String

/- A write of `prepare` or of the refresh. -/
inductive FileWrite
| adapter (adapter : Adapter)
| manifest
| cameraConfig
deriving Repr, DecidableEq

variable (setup : Setup)

/- The manifest records what stands in the directory. -/
def Setup.manifest
    (protocol : Protocol)
    (cfg : CameraConfig)
    (adapters : Adapter → Option String) : Prepared where
  repo := setup.repo
  config := cfg
  protocol := protocol
  entrypoints :=
    sortedAdapters.filterMap (fun adapter =>
      (adapters adapter).map (fun text =>
        (adapter, setup.digest text)))

/- One write, which replaces the file. -/
def Setup.write
    (protocol : Protocol)
    (cfg : CameraConfig)
    (files : CampaignFiles) : FileWrite → CampaignFiles
| .adapter adapter =>
    { files with
      adapters :=
        Function.update files.adapters adapter
          (some (setup.adapterText protocol cfg adapter)) }
| .manifest =>
    { files with
      prepared :=
        some (setup.manifest protocol cfg files.adapters) }
| .cameraConfig => { files with cameraConfig := cfg }

/- Several writes, in order. -/
def Setup.writes
    (protocol : Protocol)
    (cfg : CameraConfig)
    (files : CampaignFiles)
    (list : List FileWrite) : CampaignFiles :=
  list.foldl (setup.write protocol cfg) files

/- What an earlier run in the directory permits. -/
def Setup.checkPrior
    (prior : Prepared)
    (cfg : CameraConfig)
    (allowIrqRefresh : Bool)
    (protocol : Protocol) : Except String Unit := do
  checkThat (prior.protocol = protocol)
    "Use a new output directory for a different capture protocol"
  let same : Bool :=
    if allowIrqRefresh then
      cameraIdentity prior.config = cameraIdentity cfg
    else
      prior.config = cfg
  checkThat (same && prior.repo = setup.repo)
    ("Use a new output directory for a different " ++
      "configuration/repository")

/- The writes of `prepare`, after its checks. -/
def Setup.prepare
    (files : CampaignFiles)
    (cfg : CameraConfig)
    (allowIrqRefresh : Bool)
    (protocol : Protocol) : Except String (List FileWrite) := do
  match files.prepared with
  | none => .ok ()
  | some prior =>
      setup.checkPrior prior cfg allowIrqRefresh protocol
  .ok (adapterOrder.map .adapter ++ [.manifest])

end

------------------------------------------------------------
-- The Refresh
------------------------------------------------------------

variable (setup : Setup)

/- An adapter is still the one that was prepared. -/
def Setup.checkEntrypoint
    (files : CampaignFiles)
    (entry : Adapter × String) : Except String Unit :=
  match files.adapters entry.1 with
  | none =>
      .error ("No such file or directory: " ++ entry.1.name)
  | some text =>
      checkThat (setup.digest text = entry.2)
        ("Prepared adapter was modified: " ++ entry.1.name)

/-
  The writes of a refresh, with the configuration they write.
  `discovered` is what the discovery finds on this boot.
-/
def Setup.refreshWrites
    (files : CampaignFiles)
    (discovered : CameraConfig) :
    Except String (Protocol × CameraConfig × List FileWrite) := do
  let old ← loadConfig files.cameraConfig
  let new ← loadConfig discovered
  checkThat (cameraIdentity old = cameraIdentity new)
    ("Camera identities/roles changed across boots; " ++
      "refusing to combine experiments")
  match files.prepared with
  | none => .error "No such file or directory: prepared.json"
  | some previous => do
      previous.entrypoints.forM (setup.checkEntrypoint files)
      if old = new then
        .ok (previous.protocol, new, [])
      else do
        let prepared ←
          setup.prepare files new true previous.protocol
        .ok (previous.protocol, new, prepared ++ [.cameraConfig])

/- `refresh_boot_config`, when it is not killed. -/
def Setup.refreshBootConfig
    (files : CampaignFiles)
    (discovered : CameraConfig) :
    Except String CampaignFiles := do
  let planned ← setup.refreshWrites files discovered
  .ok (setup.writes planned.1 planned.2.1 files planned.2.2)

/- A refresh that is killed after some of its writes. -/
def Setup.killedRefresh
    (files : CampaignFiles)
    (discovered : CameraConfig)
    (written : Nat) : CampaignFiles :=
  match setup.refreshWrites files discovered with
  | .error _ => files
  | .ok planned =>
      setup.writes planned.1 planned.2.1 files
        (planned.2.2.take written)

/- The files of a new campaign. -/
def Setup.preparedFiles
    (protocol : Protocol)
    (cfg : CameraConfig) : CampaignFiles :=
  setup.writes protocol cfg
    { cameraConfig := cfg
      prepared := none
      adapters := fun _ => none }
    (adapterOrder.map .adapter ++ [.manifest])

/- A refresh on some boot, and how many of its writes it makes. -/
structure Attempt where
  discovered : CameraConfig
  written : Nat

/- Refreshes on boot after boot, each killed anywhere. -/
def refreshes : TransitionSystem CampaignFiles Attempt where
  step files attempt :=
    some
      (setup.killedRefresh files attempt.discovered
        attempt.written)

/-
  What `run` requires: the manifest is that of the camera
  configuration, and the adapters are those it records.
-/
structure Consistent (files : CampaignFiles) : Prop where
  prepared :
    ∃ manifest, files.prepared = some manifest ∧
      loadConfig files.cameraConfig = .ok manifest.config ∧
      ∀ entry ∈ manifest.entrypoints,
        (files.adapters entry.1).map setup.digest =
          some entry.2

end Reproduction

end RsCamera
