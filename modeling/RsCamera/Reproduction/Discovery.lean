import Mathlib.Algebra.Order.Ring.Rat
import Mathlib.Data.String.Basic
import RsCamera.Controls.Isolation
import RsCamera.Lib.Sorted
import RsCamera.Reproduction.Recovery

/-
  The camera configuration of a machine: `inventory` and
  `make_config` (`discover.py`).

  The devices of the SDK are joined with those of USB by the
  ancestry of their paths, and with the interrupts of the
  controllers.  A configuration that is there already keeps
  its aliases and roles.

  Key definitions include:
    * `SdkDevice`, `UsbDevice`, `Device`, `inventory`
    * `SavedConfig`, `makeConfig`

  Key theorems include:
    * `makeConfig_again`
    * `makeConfig_loads`
    * `inventory_perm`
-/

------------------------------------------------------------
-- The Inventory
------------------------------------------------------------

namespace RsCamera

namespace Reproduction

namespace Discovery

/- The file `speed` of a device, as `float` reads it. -/
inductive Speed
| absent
| mbps (value : ℚ)
| other (text : String)
deriving DecidableEq

/- `float(speed)`. -/
def Speed.value : Speed → Except String ℚ
| .absent => .ok 0
| .mbps value => .ok value
| .other text =>
    .error
      ("could not convert string to float: " ++
        Controls.pyRepr text.toList)

/- Paths are resolved, and lists of their parts. -/
structure SdkDevice where
  name : String
  serial : String
  physicalPort : List String
deriving DecidableEq, Repr

/- A device as sysfs shows it. -/
structure UsbDevice where
  usbDevice : String
  resolvedSysfsPath : List String
  speedMbps : Speed
deriving DecidableEq

/- The records of `discover_camera_xhci_irqs`. -/
abbrev Irqs : Type :=
  List (Nat × Controls.IrqRecord)

/- A device of the inventory. -/
structure Device where
  serial : String
  model : String
  usb : Option UsbDevice
  xhci : Option (Nat × Controls.IrqRecord)
deriving DecidableEq

/-
  A character of a word.  Which ones beyond ASCII are letters
  or numbers is for the tables of the interpreter to say.
-/
def isWordChar
    (isAlnum : Char → Bool)
    (c : Char) : Bool :=
  c == '_' ||
    (if c.toNat < 128 then c.isAlphanum else isAlnum c)

/- A model that begins here and ends with its word. -/
def modelHere
    (isAlnum : Char → Bool)
    (rest : List Char) : Option String :=
  ["D435", "D455F", "D455"].find? (fun model =>
    model.toList.isPrefixOf rest &&
      !(rest.drop model.toList.length).head?.any
        (isWordChar isAlnum))

/- `re.search(r'\b(D435|D455F|D455)\b', name)`. -/
def searchModel
    (isAlnum : Char → Bool) : Bool → List Char → Option String
| _, [] => none
| inWord, c :: rest =>
    match
      if inWord then none else modelHere isAlnum (c :: rest)
    with
    | some model => some model
    | none => searchModel isAlnum (isWordChar isAlnum c) rest

/- The model of a device, by the name that the SDK gives it. -/
def modelOfName
    (isAlnum : Char → Bool)
    (name : String) : String :=
  (searchModel isAlnum false name.toList).getD "unsupported"

/- One device of the SDK, with its issues. -/
def inventoryDevice
    (isAlnum : Char → Bool)
    (usb : List UsbDevice)
    (irqs : Irqs)
    (item : SdkDevice) : Device × List String :=
  let model := modelOfName isAlnum item.name
  let candidates :=
    usb.filter (fun u =>
      u.resolvedSysfsPath.isPrefixOf item.physicalPort)
  match candidates with
  | [found] =>
      let mappings :=
        irqs.filter (fun irq =>
          irq.2.usbDevices.contains found.usbDevice)
      match mappings with
      | [mapping] =>
          (⟨item.serial, model, some found, some mapping⟩, [])
      | _ =>
          (⟨item.serial, model, some found, none⟩,
            [item.serial ++
              ": cannot identify exactly one xHCI IRQ"])
  | _ =>
      (⟨item.serial, model, none, none⟩,
        [item.serial ++
          ": SDK physical port does not identify exactly" ++
          " one USB device"])

/- The devices of the SDK, joined with USB, and the issues. -/
def inventory
    (isAlnum : Char → Bool)
    (sdk : List SdkDevice)
    (usb : List UsbDevice)
    (irqs : Irqs) : List Device × List String :=
  let rows :=
    (sdk.insertionSort (fun left right =>
      left.serial ≤ right.serial)).map
        (inventoryDevice isAlnum usb irqs)
  let devices := rows.map Prod.fst
  let seen := devices.map Device.serial
  let mapped :=
    devices.map (fun d => d.usb.map UsbDevice.usbDevice)
  (devices,
    rows.flatMap Prod.snd ++
      (if seen.Nodup then
        []
      else
        ["SDK returned duplicate serials"]) ++
      (usb.filter (fun u =>
        !mapped.contains (some u.usbDevice))).map (fun u =>
          "USB camera " ++ u.usbDevice ++
            " is not visible to the SDK;" ++
            " check udev permissions"))

------------------------------------------------------------
-- The Configuration
------------------------------------------------------------

/- The file of a configuration, its cameras in their order. -/
structure SavedConfig where
  cameras : Dict String Camera
  selection : Selection

/- `sorted(cameras.items())`. -/
def sortedEntries
    (cameras : Dict String Camera) : List (String × Camera) :=
  cameras.items.insertionSort (fun left right =>
    left.1 ≤ right.1)

theorem sortedEntries_perm
    (cameras : Dict String Camera) :
    (sortedEntries cameras).Perm cameras.items :=
  List.perm_insertionSort _ _

theorem sortedEntries_sorted
    (cameras : Dict String Camera) :
    ((sortedEntries cameras).map Prod.fst).Pairwise
      (· < ·) :=
  keys_lt_insertionSort cameras.nodup

/- Two dictionaries are equal whatever their orders are. -/
def SavedConfig.toConfig (saved : SavedConfig) : CameraConfig where
  cameras :=
    { entries := sortedEntries saved.cameras
      sorted := sortedEntries_sorted saved.cameras }
  selection := saved.selection

/- `d.get('xhci_irq')`, which is false where it is 0. -/
def Device.xhciIrq (d : Device) : Nat :=
  (d.xhci.map Prod.fst).getD 0

/- The camera of a device. -/
def Device.camera (d : Device) : Camera where
  model := d.model
  serial := d.serial
  xhciIrq := d.xhciIrq
  xhciLabel :=
    (d.xhci.map (fun mapping => mapping.2.action)).getD ""

/- A model that has a role. -/
def isUsable (d : Device) : Bool :=
  ["D435", "D455", "D455F"].contains d.model

/- Serial, interrupt and speed of a device. -/
def checkDevice (d : Device) : Except String Unit := do
  checkThat
    (Controls.isDigits d.serial.toList && d.xhciIrq != 0)
    (d.serial ++ ": missing SDK serial or IRQ mapping")
  let speed ←
    ((d.usb.map UsbDevice.speedMbps).getD .absent).value
  checkThat (5000 ≤ speed)
    (d.serial ++
      ": requires USB SuperSpeed; check cable/hub/port")

/- The names of the cameras that are known, by serial. -/
def aliases (previous : Option SavedConfig) : Dict String String :=
  match previous with
  | none => ∅
  | some saved =>
      (∅ : Dict String String).update
        (saved.cameras.items.map (fun entry =>
          (entry.2.serial, entry.1)))

/- The name before, or model and serial. -/
def cameraName
    (previous : Option SavedConfig)
    (d : Device) : String :=
  (aliases previous).getD d.serial
    (d.model.toLower ++ "_" ++ d.serial)

/- A camera under a name that is new. -/
def addCamera
    (previous : Option SavedConfig)
    (cameras : Dict String Camera)
    (d : Device) : Except String (Dict String Camera) := do
  let name := cameraName previous d
  checkThat (!cameras.keys.contains name)
    ("Duplicate camera alias: " ++ name)
  .ok (cameras.set name d.camera)

/- The cameras with a role. -/
def selected (selection : Selection) : List String :=
  selection.d435Pair ++
    [selection.singleD435, selection.singleD455,
      selection.startupD435]

/- The roles of the file before, where its cameras are there. -/
def keptSelection
    (cameras : Dict String Camera)
    (selection : Selection) : Except String Selection := do
  checkThat
    ((selected selection).all cameras.keys.contains)
    ("A previously selected camera is missing; reconnect it" ++
      " or use --new-selection")
  .ok selection

/- `combinations(names, 2)`. -/
def combinations : List String → List (String × String)
| [] => []
| name :: rest =>
    rest.map (fun other => (name, other)) ++ combinations rest

/- The cameras of some models, by name. -/
def namesOf
    (cameras : Dict String Camera)
    (models : List String) : List String :=
  ((cameras.items.filter (fun entry =>
    models.contains entry.2.model)).map Prod.fst).insertionSort
      (· ≤ ·)

/- The interrupt of a camera. -/
def irqAt
    (cameras : Dict String Camera)
    (name : String) : Option Int :=
  (cameras.get? name).map Camera.xhciIrq

/- Two D435 on different controllers, and the first D455. -/
def newSelection
    (cameras : Dict String Camera) : Except String Selection :=
  let d435 := namesOf cameras ["D435"]
  let pairs :=
    (combinations d435).filter (fun pair =>
      irqAt cameras pair.1 != irqAt cameras pair.2)
  let d455 := namesOf cameras ["D455", "D455F"]
  match pairs, d455 with
  | (a, b) :: _, single :: _ =>
      .ok
        { d435Pair := [a, b]
          singleD435 := b
          singleD455 := single
          startupD435 := a }
  | _, _ =>
      .error
        ("Full reproduction needs two D435 cameras on separate" ++
          " controllers and one D455/D455F")

/- The two branches of `if previous`. -/
def selectionFor
    (previous : Option SavedConfig)
    (cameras : Dict String Camera) : Except String Selection :=
  match previous with
  | some saved => keptSelection cameras saved.selection
  | none => newSelection cameras

/- A name that is not there raises a `KeyError`. -/
def cameraAt
    (cameras : Dict String Camera)
    (name : String) : Except String Camera :=
  match cameras.get? name with
  | none => .error ("'" ++ name ++ "'")
  | some camera => .ok camera

/- A role asks for a model. -/
def checkModel
    (cameras : Dict String Camera)
    (models : List String)
    (error : String)
    (name : String) : Except String Unit := do
  let camera ← cameraAt cameras name
  checkThat (models.contains camera.model) error

/- The models of all roles. -/
def checkRoles
    (cameras : Dict String Camera)
    (selection : Selection) : Except String Unit :=
  match selection.d435Pair with
  | [a, b] => do
      let error :=
        "D435 roles must select the appropriate distinct cameras"
      checkThat (a != b) error
      [a, b, selection.singleD435, selection.startupD435].forM
        (checkModel cameras ["D435"] error)
      checkModel cameras ["D455", "D455F"]
        "The D455 role must select a D455/D455F"
        selection.singleD455
      let first ← cameraAt cameras a
      let second ← cameraAt cameras b
      checkThat (first.xhciIrq != second.xhciIrq)
        ("The selected D435 pair shares a controller; move one" ++
          " to the other Pi USB3 port")
  | pair =>
      if pair.length < 2 then
        .error
          ("not enough values to unpack (expected 2, got " ++
            toString pair.length ++ ")")
      else
        .error "too many values to unpack (expected 2)"

/- `make_config`. -/
def makeConfig
    (devices : List Device)
    (previous : Option SavedConfig) : Except String SavedConfig := do
  let usable := devices.filter isUsable
  usable.forM checkDevice
  let cameras ← usable.foldlM (addCamera previous) ∅
  let selection ← selectionFor previous cameras
  checkRoles cameras selection
  .ok ⟨cameras, selection⟩

------------------------------------------------------------
-- Steps Of A Configuration
------------------------------------------------------------

/- The cameras of a configuration, in the order of devices. -/
theorem addCameras_iff
    {previous : Option SavedConfig}
    {devices : List Device}
    {first last : Dict String Camera} :
    devices.foldlM (addCamera previous) first = .ok last ↔
      last.items =
        first.items ++
          devices.map (fun d =>
            (cameraName previous d, d.camera)) := by
  induction devices generalizing first with
  | nil =>
      rw [List.foldlM_nil, List.map_nil, List.append_nil]
      constructor
      · intro hOk
        rw [Except.ok.inj hOk]
      · intro hItems
        rcases first with ⟨items, hNodup⟩
        rcases last with ⟨items', hNodup'⟩
        simp only at hItems
        subst hItems
        rfl
  | cons d devices ih =>
      rw [List.foldlM_cons, bind_eq_ok, List.map_cons]
      constructor
      · rintro ⟨next, hAdd, hRest⟩
        rcases bind_eq_ok.mp hAdd with ⟨_, hNew, hNext⟩
        rw [checkThat_eq_ok, Bool.not_eq_true',
          List.contains_eq_mem, decide_eq_false_iff_not] at hNew
        rw [ih.mp hRest, ← Except.ok.inj hNext,
          Dict.items_set_of_not_mem hNew, List.append_assoc]
        rfl
      · intro hItems
        have hNew : cameraName previous d ∉ first.keys := by
          intro hOld
          have hNodup := last.nodup
          rw [hItems, List.map_append, List.nodup_append]
            at hNodup
          exact hNodup.2.2 _ hOld _ List.mem_cons_self rfl
        refine ⟨first.set (cameraName previous d) d.camera,
          bind_eq_ok.mpr ⟨(), ?_, rfl⟩, ih.mpr ?_⟩
        · rw [checkThat_eq_ok, Bool.not_eq_true',
            List.contains_eq_mem, decide_eq_false_iff_not]
          exact hNew
        · rw [hItems, Dict.items_set_of_not_mem hNew,
            List.append_assoc]
          rfl

/- What the checks of a configuration have found. -/
structure Made
    (devices : List Device)
    (previous : Option SavedConfig)
    (saved : SavedConfig) : Prop where
  checked :
    ∀ d ∈ devices.filter isUsable, checkDevice d = .ok ()
  cameras :
    saved.cameras.items =
      (devices.filter isUsable).map (fun d =>
        (cameraName previous d, d.camera))
  selection :
    selectionFor previous saved.cameras = .ok saved.selection
  roles : checkRoles saved.cameras saved.selection = .ok ()

theorem makeConfig_eq_ok_iff
    {devices : List Device}
    {previous : Option SavedConfig}
    {saved : SavedConfig} :
    makeConfig devices previous = .ok saved ↔
      Made devices previous saved := by
  unfold makeConfig
  constructor
  · intro hOk
    rcases bind_eq_ok.mp hOk with ⟨_, hChecked, hOk⟩
    rcases bind_eq_ok.mp hOk with ⟨cameras, hCameras, hOk⟩
    rcases bind_eq_ok.mp hOk with ⟨selection, hSelection, hOk⟩
    rcases bind_eq_ok.mp hOk with ⟨_, hRoles, hOk⟩
    cases hOk
    exact
      ⟨forM_eq_ok_iff.mp hChecked, addCameras_iff.mp hCameras,
        hSelection, hRoles⟩
  · intro hMade
    refine bind_eq_ok.mpr
      ⟨(), forM_eq_ok_iff.mpr hMade.checked, ?_⟩
    refine bind_eq_ok.mpr
      ⟨saved.cameras, addCameras_iff.mpr hMade.cameras, ?_⟩
    exact bind_eq_ok.mpr
      ⟨saved.selection, hMade.selection,
        bind_eq_ok.mpr ⟨(), hMade.roles, rfl⟩⟩

section

variable {cameras : Dict String Camera}

theorem keptSelection_eq_ok_iff
    {selection kept : Selection} :
    keptSelection cameras selection = .ok kept ↔
      kept = selection ∧
        ∀ name ∈ selected selection, name ∈ cameras.keys := by
  have hCheck (error : String) :
      checkThat
          ((selected selection).all cameras.keys.contains)
          error = .ok () ↔
        ∀ name ∈ selected selection, name ∈ cameras.keys := by
    rw [checkThat_eq_ok, List.all_eq_true]
    simp only [List.contains_eq_mem, decide_eq_true_eq]
  unfold keptSelection
  rw [bind_eq_ok]
  constructor
  · rintro ⟨_, hAll, hSame⟩
    exact ⟨(Except.ok.inj hSame).symm, (hCheck _).mp hAll⟩
  · rintro ⟨hSame, hAll⟩
    exact ⟨(), (hCheck _).mpr hAll, congrArg Except.ok hSame.symm⟩

theorem cameraAt_eq_ok_iff
    {name : String}
    {camera : Camera} :
    cameraAt cameras name = .ok camera ↔
      cameras.get? name = some camera := by
  unfold cameraAt
  cases cameras.get? name with
  | none => simp
  | some other => simp

theorem checkModel_eq_ok_iff
    {models : List String}
    {error name : String} :
    checkModel cameras models error name = .ok () ↔
      ∃ camera, cameras.get? name = some camera ∧
        camera.model ∈ models := by
  unfold checkModel
  rw [bind_eq_ok]
  simp only [cameraAt_eq_ok_iff, checkThat_eq_ok,
    List.contains_eq_mem, decide_eq_true_eq]

/- What the roles of a configuration are. -/
structure Cast
    (cameras : Dict String Camera)
    (selection : Selection)
    (a b : String) : Prop where
  pair : selection.d435Pair = [a, b]
  distinct : a ≠ b
  d435 :
    ∀ name ∈ [a, b, selection.singleD435,
        selection.startupD435],
      ∃ camera, cameras.get? name = some camera ∧
        camera.model = "D435"
  d455 :
    ∃ camera, cameras.get? selection.singleD455 = some camera ∧
      (camera.model = "D455" ∨ camera.model = "D455F")
  apart : irqAt cameras a ≠ irqAt cameras b

theorem checkRoles_eq_ok_iff
    {selection : Selection} :
    checkRoles cameras selection = .ok () ↔
      ∃ a b, Cast cameras selection a b := by
  unfold checkRoles
  split
  next a b hPair =>
    constructor
    · intro hOk
      rcases bind_eq_ok.mp hOk with ⟨_, hDistinct, hOk⟩
      rcases bind_eq_ok.mp hOk with ⟨_, hD435, hOk⟩
      rcases bind_eq_ok.mp hOk with ⟨_, hD455, hOk⟩
      rcases bind_eq_ok.mp hOk with ⟨first, hFirst, hOk⟩
      rcases bind_eq_ok.mp hOk with ⟨second, hSecond, hApart⟩
      rw [checkThat_eq_ok, bne_iff_ne] at hDistinct hApart
      refine ⟨a, b, hPair, hDistinct, ?_, ?_, ?_⟩
      · intro name hName
        have hModel := checkModel_eq_ok_iff.mp
          (forM_eq_ok_iff.mp hD435 name hName)
        simpa only [List.mem_singleton] using hModel
      · have hModel := checkModel_eq_ok_iff.mp hD455
        simpa only [List.mem_cons, List.not_mem_nil, or_false]
          using hModel
      · unfold irqAt
        rw [cameraAt_eq_ok_iff.mp hFirst,
          cameraAt_eq_ok_iff.mp hSecond]
        intro hSame
        exact hApart (Option.some.inj hSame)
    · rintro ⟨a', b', hCast⟩
      have hNames := hPair.symm.trans hCast.pair
      simp only [List.cons.injEq, and_true] at hNames
      rcases hNames with ⟨hA, hB⟩
      subst hA
      subst hB
      rcases hCast.d435 a (by simp) with ⟨first, hFirst, -⟩
      rcases hCast.d435 b (by simp) with ⟨second, hSecond, -⟩
      have hApart := hCast.apart
      unfold irqAt at hApart
      rw [hFirst, hSecond] at hApart
      refine bind_eq_ok.mpr
        ⟨(), checkThat_eq_ok.mpr (bne_iff_ne.mpr hCast.distinct),
          ?_⟩
      refine bind_eq_ok.mpr ⟨(), ?_, ?_⟩
      · refine forM_eq_ok_iff.mpr ?_
        intro name hName
        rw [checkModel_eq_ok_iff]
        simpa only [List.mem_singleton] using
          hCast.d435 name hName
      · refine bind_eq_ok.mpr ⟨(), ?_, ?_⟩
        · rw [checkModel_eq_ok_iff]
          simpa only [List.mem_cons, List.not_mem_nil, or_false]
            using hCast.d455
        · refine bind_eq_ok.mpr
            ⟨first, cameraAt_eq_ok_iff.mpr hFirst, ?_⟩
          refine bind_eq_ok.mpr
            ⟨second, cameraAt_eq_ok_iff.mpr hSecond, ?_⟩
          rw [checkThat_eq_ok, bne_iff_ne]
          intro hSame
          exact hApart (congrArg some hSame)
  next pair hPair =>
    constructor
    · intro hOk
      split at hOk <;> cases hOk
    · rintro ⟨a, b, hCast⟩
      exact absurd hCast.pair (hPair a b)

/- The roles are played by cameras that are there. -/
theorem Cast.selected_mem
    {selection : Selection}
    {a b name : String}
    (hCast : Cast cameras selection a b)
    (hName : name ∈ selected selection) :
    name ∈ cameras.keys := by
  rw [Dict.mem_keys_iff]
  unfold selected at hName
  rw [hCast.pair] at hName
  by_cases hD455 : name = selection.singleD455
  · rcases hCast.d455 with ⟨camera, hCamera, -⟩
    exact ⟨camera, hD455 ▸ hCamera⟩
  · have hD435 :
        name ∈ [a, b, selection.singleD435,
          selection.startupD435] := by
      simp only [List.cons_append, List.nil_append,
        List.mem_cons, List.not_mem_nil, or_false] at hName ⊢
      tauto
    rcases hCast.d435 name hD435 with ⟨camera, hCamera, -⟩
    exact ⟨camera, hCamera⟩

end

------------------------------------------------------------
-- Known Cameras
------------------------------------------------------------

section

/- The cameras that a configuration is made of. -/
def usableSerials (devices : List Device) : List String :=
  (devices.filter isUsable).map Device.serial

/- The serials of a configuration, in its order. -/
def SavedConfig.serials (saved : SavedConfig) : List String :=
  saved.cameras.items.map (fun entry => entry.2.serial)

/- The names that are known are those of the cameras. -/
theorem aliases_eq_some_iff
    {old : SavedConfig}
    {serial name : String}
    (hSerials : old.serials.Nodup) :
    (aliases (some old)).get? serial = some name ↔
      ∃ camera, (name, camera) ∈ old.cameras.items ∧
        camera.serial = serial := by
  change (Dict.update ∅ _).get? serial = _ ↔ _
  have hNodup :
      ((old.cameras.items.map (fun entry =>
        (entry.2.serial, entry.1))).map Prod.fst).Nodup := by
    rw [List.map_map]
    exact hSerials
  constructor
  · intro hGet
    rcases Dict.get?_update_cases hGet with hOld | hItem
    · cases hOld
    · rcases List.mem_map.mp hItem with ⟨entry, hEntry, hEq⟩
      rw [Prod.mk.injEq] at hEq
      rcases hEq with ⟨hSerial, hName⟩
      subst hName
      exact ⟨entry.2, hEntry, hSerial⟩
  · rintro ⟨camera, hEntry, hSerial⟩
    refine Dict.get?_update_of_mem hNodup ?_
    rw [← hSerial]
    exact List.mem_map_of_mem hEntry

/- A camera that is known keeps its name. -/
theorem cameraName_of_known
    {old : SavedConfig}
    {name : String}
    {camera : Camera}
    {d : Device}
    (hSerials : old.serials.Nodup)
    (hKnown : (name, camera) ∈ old.cameras.items)
    (hSerial : camera.serial = d.serial) :
    cameraName (some old) d = name := by
  unfold cameraName Dict.getD
  rw [(aliases_eq_some_iff hSerials).mpr
    ⟨camera, hKnown, hSerial⟩]
  rfl

variable {devices : List Device}
variable {previous : Option SavedConfig}
variable {saved : SavedConfig}

theorem Made.serials_eq
    (hMade : Made devices previous saved) :
    saved.serials = usableSerials devices := by
  unfold SavedConfig.serials usableSerials
  rw [hMade.cameras, List.map_map]
  rfl

theorem items_perm_of_toConfig
    {current : SavedConfig}
    (hSame : current.toConfig = saved.toConfig) :
    current.cameras.items.Perm saved.cameras.items := by
  have hEntries :
      sortedEntries current.cameras =
        sortedEntries saved.cameras :=
    congrArg (fun cfg => cfg.cameras.entries) hSame
  have hCurrent := sortedEntries_perm current.cameras
  rw [hEntries] at hCurrent
  exact hCurrent.symm.trans (sortedEntries_perm saved.cameras)

/-
  On the same devices, a configuration is made again as it
  stands, from any file that holds it.
-/
theorem makeConfig_again
    {current : SavedConfig}
    (hSerials : (usableSerials devices).Nodup)
    (hMade : makeConfig devices previous = .ok saved)
    (hSame : current.toConfig = saved.toConfig) :
    makeConfig devices (some current) = .ok saved := by
  rw [makeConfig_eq_ok_iff] at hMade ⊢
  have hPerm := items_perm_of_toConfig hSame
  have hKnownSerials : current.serials.Nodup := by
    unfold SavedConfig.serials
    rw [(hPerm.map _).nodup_iff]
    change saved.serials.Nodup
    rw [hMade.serials_eq]
    exact hSerials
  refine ⟨hMade.checked, ?_, ?_, hMade.roles⟩
  · rw [hMade.cameras]
    refine List.map_congr_left ?_
    intro d hDevice
    have hKnown :
        (cameraName previous d, d.camera) ∈
          current.cameras.items := by
      rw [hPerm.mem_iff, hMade.cameras]
      exact List.mem_map_of_mem hDevice
    rw [cameraName_of_known hKnownSerials hKnown rfl]
  · rcases checkRoles_eq_ok_iff.mp hMade.roles with
      ⟨a, b, hCast⟩
    have hSelection : saved.selection = current.selection :=
      congrArg CameraConfig.selection hSame.symm
    refine keptSelection_eq_ok_iff.mpr ⟨hSelection, ?_⟩
    intro name hName
    exact hCast.selected_mem (hSelection ▸ hName)

end

------------------------------------------------------------
-- Identities
------------------------------------------------------------

section

/- The cameras that are there, whatever their order is. -/
def SameConnected
    (devices : List Device)
    (old : SavedConfig) : Prop :=
  ∀ serial model,
    (∃ d ∈ devices, isUsable d = true ∧
        d.serial = serial ∧ d.model = model) ↔
      ∃ entry ∈ old.cameras.items,
        entry.2.serial = serial ∧ entry.2.model = model

/- What the identity of a configuration says of its cameras. -/
theorem mem_identity_iff
    {saved : SavedConfig}
    {name model serial : String} :
    (name, model, serial) ∈
        (cameraIdentity saved.toConfig).cameras ↔
      ∃ camera, (name, camera) ∈ saved.cameras.items ∧
        camera.model = model ∧ camera.serial = serial := by
  change _ ∈ (sortedEntries saved.cameras).map _ ↔ _
  rw [List.mem_map]
  constructor
  · rintro ⟨entry, hEntry, hTriple⟩
    simp only [Prod.mk.injEq] at hTriple
    rcases hTriple with ⟨hName, hModel, hSerial⟩
    subst hName
    exact
      ⟨entry.2,
        (sortedEntries_perm saved.cameras).mem_iff.mp hEntry,
        hModel, hSerial⟩
  · rintro ⟨camera, hEntry, hModel, hSerial⟩
    refine
      ⟨(name, camera),
        (sortedEntries_perm saved.cameras).mem_iff.mpr hEntry,
        ?_⟩
    rw [← hModel, ← hSerial]

theorem identity_sorted
    (saved : SavedConfig) :
    ((cameraIdentity saved.toConfig).cameras.map
      Prod.fst).Pairwise (· < ·) := by
  change (((sortedEntries saved.cameras).map _).map _).Pairwise _
  rw [List.map_map]
  exact sortedEntries_sorted saved.cameras

variable {devices : List Device}
variable {old new : SavedConfig}

theorem Made.mem_items_iff
    {previous : Option SavedConfig}
    {saved : SavedConfig}
    (hMade : Made devices previous saved)
    {name : String}
    {camera : Camera} :
    (name, camera) ∈ saved.cameras.items ↔
      ∃ d ∈ devices, isUsable d = true ∧
        cameraName previous d = name ∧ d.camera = camera := by
  rw [hMade.cameras, List.mem_map]
  constructor
  · rintro ⟨d, hDevice, hEntry⟩
    rw [List.mem_filter] at hDevice
    rw [Prod.mk.injEq] at hEntry
    exact ⟨d, hDevice.1, hDevice.2, hEntry.1, hEntry.2⟩
  · rintro ⟨d, hDevice, hUsable, hName, hCamera⟩
    refine ⟨d, List.mem_filter.mpr ⟨hDevice, hUsable⟩, ?_⟩
    rw [hName, hCamera]

/-
  The identity of a configuration stays what it was when the
  same cameras are there, and only then.
-/
theorem identity_eq_iff
    (hSerials : old.serials.Nodup)
    (hMade : Made devices (some old) new) :
    cameraIdentity new.toConfig = cameraIdentity old.toConfig ↔
      SameConnected devices old := by
  have hSelection : new.selection = old.selection :=
    (keptSelection_eq_ok_iff.mp hMade.selection).1
  constructor
  · intro hSame serial model
    constructor
    · rintro ⟨d, hDevice, hUsable, hSerial, hModel⟩
      have hNew :
          (cameraName (some old) d, model, serial) ∈
            (cameraIdentity new.toConfig).cameras :=
        mem_identity_iff.mpr
          ⟨d.camera,
            hMade.mem_items_iff.mpr
              ⟨d, hDevice, hUsable, rfl, rfl⟩,
            hModel, hSerial⟩
      rw [hSame] at hNew
      rcases mem_identity_iff.mp hNew with
        ⟨camera, hEntry, hOldModel, hOldSerial⟩
      exact ⟨_, hEntry, hOldSerial, hOldModel⟩
    · rintro ⟨entry, hEntry, hSerial, hModel⟩
      have hOld :
          (entry.1, model, serial) ∈
            (cameraIdentity old.toConfig).cameras :=
        mem_identity_iff.mpr ⟨entry.2, hEntry, hModel, hSerial⟩
      rw [← hSame] at hOld
      rcases mem_identity_iff.mp hOld with
        ⟨camera, hNew, hNewModel, hNewSerial⟩
      rcases hMade.mem_items_iff.mp hNew with
        ⟨d, hDevice, hUsable, -, hCamera⟩
      subst hCamera
      exact ⟨d, hDevice, hUsable, hNewSerial, hNewModel⟩
  · intro hConnected
    have hCameras :
        (cameraIdentity new.toConfig).cameras =
          (cameraIdentity old.toConfig).cameras := by
      refine eq_of_keys_lt (identity_sorted new)
        (identity_sorted old) ?_
      rintro ⟨name, model, serial⟩
      rw [mem_identity_iff, mem_identity_iff]
      constructor
      · rintro ⟨camera, hNew, hModel, hSerial⟩
        rcases hMade.mem_items_iff.mp hNew with
          ⟨d, hDevice, hUsable, hName, hCamera⟩
        subst hCamera
        rcases (hConnected serial model).mp
            ⟨d, hDevice, hUsable, hSerial, hModel⟩ with
          ⟨entry, hEntry, hOldSerial, hOldModel⟩
        have hKnown :=
          cameraName_of_known hSerials hEntry
            (hOldSerial.trans hSerial.symm)
        rw [← hName, hKnown]
        exact ⟨entry.2, hEntry, hOldModel, hOldSerial⟩
      · rintro ⟨camera, hOld, hModel, hSerial⟩
        rcases (hConnected serial model).mpr
            ⟨_, hOld, hSerial, hModel⟩ with
          ⟨d, hDevice, hUsable, hNewSerial, hNewModel⟩
        have hKnown :=
          cameraName_of_known hSerials hOld
            (hSerial.trans hNewSerial.symm)
        exact
          ⟨d.camera,
            hMade.mem_items_iff.mpr
              ⟨d, hDevice, hUsable, hKnown, rfl⟩,
            hNewModel, hNewSerial⟩
    unfold cameraIdentity at hCameras ⊢
    rw [Identity.mk.injEq]
    exact ⟨hCameras, hSelection⟩

/- The names that an identity gives to the serials. -/
theorem aliases_iff_identity
    {saved : SavedConfig}
    {serial name : String}
    (hSerials : saved.serials.Nodup) :
    (aliases (some saved)).get? serial = some name ↔
      ∃ model, (name, model, serial) ∈
        (cameraIdentity saved.toConfig).cameras := by
  rw [aliases_eq_some_iff hSerials]
  simp only [mem_identity_iff]
  constructor
  · rintro ⟨camera, hEntry, hSerial⟩
    exact ⟨camera.model, camera, hEntry, rfl, hSerial⟩
  · rintro ⟨model, camera, hEntry, -, hSerial⟩
    exact ⟨camera, hEntry, hSerial⟩

/- What is made depends on the identity of the old file. -/
theorem makeConfig_congr
    (hOld : old.serials.Nodup)
    (hNew : new.serials.Nodup)
    (hIdentity :
      cameraIdentity new.toConfig =
        cameraIdentity old.toConfig) :
    makeConfig devices (some new) =
      makeConfig devices (some old) := by
  have hSelection : new.selection = old.selection :=
    congrArg Identity.selection hIdentity
  have hName : cameraName (some new) = cameraName (some old) := by
    funext d
    unfold cameraName Dict.getD
    have hGet :
        (aliases (some new)).get? d.serial =
          (aliases (some old)).get? d.serial := by
      refine Option.ext ?_
      intro name
      rw [aliases_iff_identity hOld, aliases_iff_identity hNew,
        hIdentity]
    rw [hGet]
  have hAdd : addCamera (some new) = addCamera (some old) := by
    unfold addCamera
    rw [hName]
  have hFor :
      selectionFor (some new) = selectionFor (some old) := by
    funext cameras
    change keptSelection cameras new.selection =
      keptSelection cameras old.selection
    rw [hSelection]
  unfold makeConfig
  rw [hAdd, hFor]

theorem sameConnected_congr
    (hIdentity :
      cameraIdentity new.toConfig =
        cameraIdentity old.toConfig) :
    SameConnected devices new ↔ SameConnected devices old := by
  have hEntries
      (saved : SavedConfig)
      (serial model : String) :
      (∃ entry ∈ saved.cameras.items,
          entry.2.serial = serial ∧ entry.2.model = model) ↔
        ∃ name, (name, model, serial) ∈
          (cameraIdentity saved.toConfig).cameras := by
    simp only [mem_identity_iff]
    constructor
    · rintro ⟨entry, hEntry, hSerial, hModel⟩
      exact ⟨entry.1, entry.2, hEntry, hModel, hSerial⟩
    · rintro ⟨name, camera, hEntry, hModel, hSerial⟩
      exact ⟨(name, camera), hEntry, hSerial, hModel⟩
  unfold SameConnected
  simp only [hEntries, hIdentity]

end

------------------------------------------------------------
-- Loading
------------------------------------------------------------

section

variable {devices : List Device}
variable {previous : Option SavedConfig}
variable {saved : SavedConfig}

/- The labels of the interrupts are those of controllers. -/
def Labelled (devices : List Device) : Prop :=
  ∀ d ∈ devices, ∀ mapping ∈ d.xhci,
    isXhciLabel mapping.2.action = true

theorem lookup_toConfig
    (saved : SavedConfig)
    (name : String) :
    saved.toConfig.lookup name = saved.cameras.get? name :=
  Dict.lookup_of_perm (sortedEntries_perm saved.cameras) name

theorem checkDevice_eq_ok
    {d : Device}
    (hOk : checkDevice d = .ok ()) :
    Controls.isDigits d.serial.toList = true ∧
      d.xhciIrq ≠ 0 := by
  rcases bind_eq_ok.mp hOk with ⟨_, hFirst, -⟩
  rw [checkThat_eq_ok, Bool.and_eq_true, bne_iff_ne] at hFirst
  exact hFirst

/- Below 128, the digits of `str.isdigit` are `[0-9]`. -/
theorem isDigit_of_isPyDigit
    {c : Char}
    (hAscii : c.toNat < 128)
    (hDigit : Controls.isPyDigit c = true) :
    c.isDigit = true := by
  unfold Controls.isPyDigit isDecimal decimalDigit? at hDigit
  rw [Bool.or_eq_true] at hDigit
  rcases hDigit with hDecimal | hOther
  · split at hDecimal
    next hHere => exact hHere
    next =>
      rw [Option.isSome_map, List.find?_isSome] at hDecimal
      rcases hDecimal with ⟨first, hIn, hHere⟩
      rw [Bool.and_eq_true, decide_eq_true_eq] at hHere
      have hWide : ∀ first ∈ wideZeros, 128 ≤ first := by decide
      have hFar := hWide first hIn
      omega
  · rw [List.any_eq_true] at hOther
    rcases hOther with ⟨range, hRange, hHere⟩
    rw [Bool.and_eq_true, decide_eq_true_eq] at hHere
    have hWide :
        ∀ range ∈ Controls.otherDigits, 128 ≤ range.1 := by
      decide
    have hFar := hWide range hRange
    omega

theorem isNumber_of_isDigits
    {text : List Char}
    (hAscii : ∀ c ∈ text, c.toNat < 128)
    (hDigits : Controls.isDigits text = true) :
    isNumber text = true := by
  unfold Controls.isDigits at hDigits
  rw [Bool.and_eq_true, decide_eq_true_eq, List.all_eq_true]
    at hDigits
  rcases hDigits with ⟨hSome, hAll⟩
  unfold isNumber
  rw [Bool.and_eq_true, Bool.not_eq_true', List.isEmpty_eq_false_iff,
    List.all_eq_true]
  refine ⟨hSome, ?_⟩
  intro c hChar
  exact isDigit_of_isPyDigit (hAscii c hChar) (hAll c hChar)

/- An interrupt that is there has its label. -/
theorem xhciLabel_of_labelled
    (hLabelled : Labelled devices)
    {d : Device}
    (hDevice : d ∈ devices)
    (hIrq : d.xhciIrq ≠ 0) :
    isXhciLabel d.camera.xhciLabel = true := by
  cases hXhci : d.xhci with
  | none =>
      unfold Device.xhciIrq at hIrq
      rw [hXhci] at hIrq
      exact absurd rfl hIrq
  | some mapping =>
      unfold Device.camera
      simp only [hXhci, Option.map_some, Option.getD_some]
      exact hLabelled d hDevice mapping hXhci

theorem Made.checkCamera
    (hMade : Made devices previous saved)
    (hLabelled : Labelled devices)
    {d : Device}
    (hDevice : d ∈ devices.filter isUsable) :
    checkCamera d.camera = .ok () := by
  have hIrq :=
    (checkDevice_eq_ok (hMade.checked d hDevice)).2
  refine bind_eq_ok.mpr ⟨(), checkThat_eq_ok.mpr ?_, ?_⟩
  · rw [decide_eq_true_eq]
    change (0 : Int) < (d.xhciIrq : Int)
    omega
  · exact checkThat_eq_ok.mpr
      (xhciLabel_of_labelled hLabelled
        (List.mem_filter.mp hDevice).1 hIrq)

/- Serials of which the runner reads every digit. -/
def Numbered (serials : List String) : Prop :=
  ∀ serial ∈ serials, isNumber serial.toList = true

theorem numbered_of_loads
    (hLoads :
      loadConfig saved.toConfig = .ok saved.toConfig) :
    Numbered saved.serials := by
  rcases bind_eq_ok.mp hLoads with ⟨_, -, hRest⟩
  rcases bind_eq_ok.mp hRest with ⟨_, hDigits, -⟩
  rw [checkThat_eq_ok, List.all_eq_true] at hDigits
  intro serial hSerial
  rcases List.mem_map.mp hSerial with ⟨entry, hEntry, hEq⟩
  refine hDigits serial ?_
  rw [← hEq]
  exact List.mem_map_of_mem
    (List.mem_map_of_mem
      ((sortedEntries_perm saved.cameras).mem_iff.mpr hEntry))

/- The runner accepts each configuration that is made. -/
theorem makeConfig_loads
    (hSerials : (usableSerials devices).Nodup)
    (hLabelled : Labelled devices)
    (hNumbered : Numbered saved.serials)
    (hOk : makeConfig devices previous = .ok saved) :
    loadConfig saved.toConfig = .ok saved.toConfig := by
  have hMade := makeConfig_eq_ok_iff.mp hOk
  rcases checkRoles_eq_ok_iff.mp hMade.roles with ⟨a, b, hCast⟩
  have hPerm :
      ((sortedEntries saved.cameras).map Prod.snd).Perm
        ((devices.filter isUsable).map Device.camera) := by
    have hItems :=
      (sortedEntries_perm saved.cameras).map Prod.snd
    rw [hMade.cameras, List.map_map] at hItems
    exact hItems
  have hCamera
      (camera : Camera)
      (hIn : camera ∈
        (sortedEntries saved.cameras).map Prod.snd) :
      ∃ d ∈ devices.filter isUsable, d.camera = camera :=
    List.mem_map.mp (hPerm.mem_iff.mp hIn)
  have hModelOf
      {name : String}
      {camera : Camera}
      (hGet : saved.cameras.get? name = some camera) :
      saved.toConfig.modelOf name = .ok camera.model := by
    unfold CameraConfig.modelOf
    rw [lookup_toConfig, hGet]
  refine bind_eq_ok.mpr ⟨(), checkThat_eq_ok.mpr ?_, ?_⟩
  · rw [decide_eq_true_eq]
    refine (hPerm.map Camera.serial).nodup_iff.mpr ?_
    rw [List.map_map]
    exact hSerials
  refine bind_eq_ok.mpr ⟨(), checkThat_eq_ok.mpr ?_, ?_⟩
  · rw [List.all_eq_true]
    intro serial hSerial
    rcases List.mem_map.mp hSerial with ⟨camera, hIn, hEq⟩
    rcases hCamera camera hIn with ⟨d, hDevice, hIs⟩
    refine hNumbered serial ?_
    rw [hMade.serials_eq, ← hEq, ← hIs]
    exact List.mem_map_of_mem hDevice
  refine bind_eq_ok.mpr ⟨(), forM_eq_ok_iff.mpr ?_, ?_⟩
  · intro camera hIn
    rcases hCamera camera hIn with ⟨d, hDevice, hIs⟩
    rw [← hIs]
    exact hMade.checkCamera hLabelled hDevice
  have hPair : saved.toConfig.selection.d435Pair = [a, b] :=
    hCast.pair
  refine bind_eq_ok.mpr ⟨(), checkThat_eq_ok.mpr ?_, ?_⟩
  · rw [hPair]
    simp [hCast.distinct]
  refine bind_eq_ok.mpr ⟨(), forM_eq_ok_iff.mpr ?_, ?_⟩
  · intro name hName
    rw [hPair] at hName
    rcases hCast.d435 name hName with ⟨camera, hGet, hModel⟩
    refine bind_eq_ok.mpr
      ⟨camera.model, hModelOf hGet, checkThat_eq_ok.mpr ?_⟩
    rw [hModel]
    rfl
  rcases hCast.d455 with ⟨camera, hGet, hModel⟩
  refine bind_eq_ok.mpr ⟨camera.model, hModelOf hGet, ?_⟩
  refine bind_eq_ok.mpr ⟨(), checkThat_eq_ok.mpr ?_, rfl⟩
  rcases hModel with hModel | hModel
  · rw [hModel]
    rfl
  · rw [hModel]
    rfl

end

------------------------------------------------------------
-- The Inventory Of A Machine
------------------------------------------------------------

section

variable {isAlnum : Char → Bool}
variable {sdk : List SdkDevice}
variable {usb : List UsbDevice}
variable {irqs : Irqs}

theorem inventoryDevice_serial
    (isAlnum : Char → Bool)
    (usb : List UsbDevice)
    (irqs : Irqs)
    (item : SdkDevice) :
    (inventoryDevice isAlnum usb irqs item).1.serial = item.serial := by
  unfold inventoryDevice
  simp only
  split
  · split
    · rfl
    · rfl
  · rfl

/- An interrupt of the inventory is one that was found. -/
theorem inventoryDevice_xhci
    {item : SdkDevice}
    {mapping : Nat × Controls.IrqRecord}
    (hXhci :
      mapping ∈ (inventoryDevice isAlnum usb irqs item).1.xhci) :
    mapping ∈ irqs := by
  unfold inventoryDevice at hXhci
  simp only at hXhci
  split at hXhci
  next found hFound =>
    split at hXhci
    next single hSingle =>
      have hIn : single ∈ irqs.filter (fun irq =>
          irq.2.usbDevices.contains found.usbDevice) := by
        rw [hSingle]
        exact List.mem_singleton_self single
      rw [Option.mem_some_iff] at hXhci
      rw [← hXhci]
      exact (List.mem_filter.mp hIn).1
    next => cases hXhci
  next => cases hXhci

/- The order of the SDK, sorted by the serials. -/
def bySerial (sdk : List SdkDevice) : List SdkDevice :=
  sdk.insertionSort (fun left right =>
    left.serial ≤ right.serial)

theorem bySerial_perm
    (sdk : List SdkDevice) :
    (bySerial sdk).Perm sdk :=
  List.perm_insertionSort _ sdk

theorem inventory_serials
    (isAlnum : Char → Bool)
    (sdk : List SdkDevice)
    (usb : List UsbDevice)
    (irqs : Irqs) :
    (inventory isAlnum sdk usb irqs).1.map Device.serial =
      (bySerial sdk).map SdkDevice.serial := by
  change ((((bySerial sdk).map _).map _).map _) = _
  rw [List.map_map, List.map_map]
  refine List.map_congr_left ?_
  intro item _
  exact inventoryDevice_serial isAlnum usb irqs item

theorem bySerial_sorted
    (hNodup : (sdk.map SdkDevice.serial).Nodup) :
    ((bySerial sdk).map SdkDevice.serial).Pairwise
      (· < ·) :=
  keys_lt_insertionSort hNodup

/- Without issues, no serial is there twice. -/
theorem nodup_of_no_issues
    (hReady : (inventory isAlnum sdk usb irqs).2 = []) :
    (sdk.map SdkDevice.serial).Nodup := by
  unfold inventory at hReady
  simp only [List.append_eq_nil_iff] at hReady
  rcases hReady with ⟨⟨-, hSeen⟩, -⟩
  split at hSeen
  next hNodup =>
    have hSerials := inventory_serials isAlnum sdk usb irqs
    unfold inventory at hSerials
    simp only at hSerials
    rw [hSerials] at hNodup
    exact ((bySerial_perm sdk).map _).nodup_iff.mp hNodup
  next => cases hSeen

theorem usableSerials_nodup
    (hReady : (inventory isAlnum sdk usb irqs).2 = []) :
    (usableSerials (inventory isAlnum sdk usb irqs).1).Nodup := by
  have hNodup :
      ((inventory isAlnum sdk usb irqs).1.map Device.serial).Nodup := by
    rw [inventory_serials,
      ((bySerial_perm sdk).map _).nodup_iff]
    exact nodup_of_no_issues hReady
  exact hNodup.sublist (List.filter_sublist.map _)

/- The order in which the SDK lists its devices is nothing. -/
theorem inventory_perm
    {sdk' : List SdkDevice}
    (hReady : (inventory isAlnum sdk usb irqs).2 = [])
    (hPerm : sdk'.Perm sdk) :
    inventory isAlnum sdk' usb irqs = inventory isAlnum sdk usb irqs := by
  have hNodup := nodup_of_no_issues hReady
  have hNodup' : (sdk'.map SdkDevice.serial).Nodup :=
    (hPerm.map _).nodup_iff.mpr hNodup
  have hSame : bySerial sdk' = bySerial sdk := by
    refine eq_of_keys_lt (bySerial_sorted hNodup')
      (bySerial_sorted hNodup) ?_
    intro item
    rw [(bySerial_perm sdk').mem_iff, (bySerial_perm sdk).mem_iff,
      hPerm.mem_iff]
  unfold bySerial at hSame
  unfold inventory
  rw [hSame]

theorem inventory_labelled
    (isAlnum : Char → Bool)
    (sdk : List SdkDevice)
    (usb : List UsbDevice)
    (hIrqs :
      ∀ mapping ∈ irqs, isXhciLabel mapping.2.action = true) :
    Labelled (inventory isAlnum sdk usb irqs).1 := by
  intro d hDevice mapping hXhci
  change d ∈ ((bySerial sdk).map _).map _ at hDevice
  rw [List.map_map, List.mem_map] at hDevice
  rcases hDevice with ⟨item, -, hItem⟩
  subst hItem
  exact hIrqs mapping (inventoryDevice_xhci hXhci)

end

------------------------------------------------------------
-- The Labels Of The Interrupts
------------------------------------------------------------

/- The root hubs of a survey are those of USB buses. -/
def HubsNamed (survey : Controls.Survey) : Prop :=
  ∀ device ∈ survey.devices, ∀ bus ∈ device.rootHubs,
    isXhciLabel ("xhci-hcd:" ++ bus) = true

/- The actions of a survey are those of USB buses. -/
def RecordsLabelled
    (byIrq : Dict Nat Controls.IrqRecord) : Prop :=
  ∀ irq record, byIrq.get? irq = some record →
    isXhciLabel record.action = true

/- One camera adds a label of one of its root hubs. -/
theorem addCamera_labelled
    {actions : Dict String Nat}
    {byIrq next : Dict Nat Controls.IrqRecord}
    {device : Controls.CameraDevice}
    (hHubs :
      ∀ bus ∈ device.rootHubs,
        isXhciLabel ("xhci-hcd:" ++ bus) = true)
    (hAdd :
      Controls.addCamera actions byIrq device = .ok next)
    (hLabelled : RecordsLabelled byIrq) :
    RecordsLabelled next := by
  unfold Controls.addCamera at hAdd
  split at hAdd
  · cases hAdd
  next controller hController =>
    simp only at hAdd
    split at hAdd
    next bus irq hFound =>
      rw [← Except.ok.inj hAdd]
      have hBus : bus ∈ device.rootHubs := by
        have hIn :
            (bus, irq) ∈
              device.rootHubs.filterMap (fun bus =>
                (actions.get? bus).map (fun irq =>
                  (bus, irq))) := by
          rw [hFound]
          exact List.mem_singleton_self _
        rcases List.mem_filterMap.mp hIn with
          ⟨other, hOther, hPair⟩
        rcases Option.map_eq_some_iff.mp hPair with
          ⟨_, -, hEq⟩
        rw [Prod.mk.injEq] at hEq
        rw [← hEq.1]
        exact hOther
      intro irq' record hGet
      rw [Dict.get?_set] at hGet
      split at hGet
      next hHere =>
        rw [← Option.some.inj hGet]
        unfold Dict.getD
        cases hOld : byIrq.get? irq with
        | none => exact hHubs bus hBus
        | some old => exact hLabelled irq old hOld
      next => exact hLabelled irq' record hGet
    next => cases hAdd

theorem foldl_addCamera_labelled
    {actions : Dict String Nat}
    {devices : List Controls.CameraDevice}
    {byIrq last : Dict Nat Controls.IrqRecord}
    (hHubs :
      ∀ device ∈ devices, ∀ bus ∈ device.rootHubs,
        isXhciLabel ("xhci-hcd:" ++ bus) = true)
    (hAll :
      devices.foldlM (Controls.addCamera actions) byIrq =
        .ok last)
    (hLabelled : RecordsLabelled byIrq) :
    RecordsLabelled last := by
  induction devices generalizing byIrq with
  | nil =>
      rw [List.foldlM_nil] at hAll
      rw [← Except.ok.inj hAll]
      exact hLabelled
  | cons device devices ih =>
      rw [List.foldlM_cons] at hAll
      rcases bind_eq_ok.mp hAll with ⟨next, hAdd, hRest⟩
      refine ih (fun other hOther =>
        hHubs other (List.mem_cons_of_mem _ hOther)) hRest ?_
      exact addCamera_labelled (hHubs device List.mem_cons_self)
        hAdd hLabelled

/- The survey gives the labels that the runner asks for. -/
theorem discoverCameraXhciIrqs_labelled
    {survey : Controls.Survey}
    {irqs : Irqs}
    (hHubs : HubsNamed survey)
    (hFound :
      Controls.discoverCameraXhciIrqs survey = .ok irqs) :
    ∀ mapping ∈ irqs, isXhciLabel mapping.2.action = true := by
  unfold Controls.discoverCameraXhciIrqs at hFound
  split at hFound
  · cases hFound
  · rcases bind_eq_ok.mp hFound with ⟨actions, -, hFound⟩
    rcases bind_eq_ok.mp hFound with ⟨byIrq, hByIrq, hSorted⟩
    have hLabelled : RecordsLabelled byIrq :=
      foldl_addCamera_labelled hHubs hByIrq (by
        intro irq record hGet
        cases hGet)
    intro mapping hMapping
    rw [← Except.ok.inj hSorted, List.mem_insertionSort]
      at hMapping
    exact hLabelled mapping.1 mapping.2
      (Dict.mem_items_iff.mp hMapping)

end Discovery

end Reproduction

end RsCamera
