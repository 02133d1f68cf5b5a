import Mathlib.Data.List.Dedup
import Mathlib.Data.List.Sort
import Mathlib.Data.Prod.Lex
import Mathlib.Data.String.Basic
import RsCamera.Lib.Choices
import RsCamera.Lib.Containers
import RsCamera.Lib.Dict

/-
  The cases of a campaign with several cameras
  (`plan_cases` in `run_multicamera_campaign.py`).

  A layout lists the cameras with their models and hubs.
  Every suite takes sets of them: each camera alone, growing
  sets, sets of different models, and sets of one model at
  the highest rate.

  Key definitions include:
    * `CaseMaps`
    * `Camera`, `Layout`, `loadLayout`
    * `spread`, `chooseModels`
    * `commonCase`, `stereoCase`
    * `selectedSets`, `planCases`

  Key theorems include:
    * `loadLayout_ok`
    * `spread_perm`
-/

------------------------------------------------------------
-- Text
------------------------------------------------------------

namespace RsCamera

namespace MultiCamera

/-
  `str.upper` and `str.lower`.  What they do is said for
  ASCII text only.
-/
structure CaseMaps where
  upper : String → String
  lower : String → String
  upper_upper : ∀ text, upper (upper text) = upper text
  upper_ascii :
    ∀ text : String, (∀ c ∈ text.toList, c.toNat < 128) →
      upper text = String.ofList (text.toList.map Char.toUpper)
  lower_ascii :
    ∀ text : String, (∀ c ∈ text.toList, c.toNat < 128) →
      lower text = String.ofList (text.toList.map Char.toLower)

/- There are few ASCII characters. -/
theorem ascii_induction
    {P : Char → Prop}
    (hAll : ∀ n < 128, P (Char.ofNat n))
    {c : Char}
    (hAscii : c.toNat < 128) :
    P c := by
  have hChar := hAll c.toNat hAscii
  rwa [Char.ofNat_toNat] at hChar

theorem toUpper_toUpper
    (c : Char) :
    c.toUpper.toUpper = c.toUpper := by
  by_cases hAscii : c.toNat < 128
  · apply ascii_induction _ hAscii
    decide
  · have hSame : c.toUpper = c := by
      unfold Char.toUpper
      rw [dif_neg]
      rintro ⟨-, hSmall⟩
      have hNat : c.toNat ≤ 122 := UInt32.le_iff_toNat_le.mp hSmall
      omega
    rw [hSame, hSame]

theorem ascii_of_all
    {text : String}
    (hAll :
      text.toList.all (fun c => c.toNat < 128) = true) :
    ∀ c ∈ text.toList, c.toNat < 128 := by
  simpa using hAll

/- The maps that leave all other characters alone. -/
def asciiMaps : CaseMaps where
  upper text := String.ofList (text.toList.map Char.toUpper)
  lower text := String.ofList (text.toList.map Char.toLower)
  upper_upper := by
    intro text
    rw [String.toList_ofList, List.map_map]
    congr 1
    exact List.map_congr_left (fun c _ => toUpper_toUpper c)
  upper_ascii := fun _ _ => rfl
  lower_ascii := fun _ _ => rfl

/- `sorted` of texts. -/
def sortTexts (texts : List String) : List String :=
  texts.insertionSort (· ≤ ·)

------------------------------------------------------------
-- Layouts
------------------------------------------------------------

/- The entry of a camera in a layout file. -/
structure Camera where
  label : String
  model : String
  serial : String
  librealsenseSerial : String
  usbDescriptorSerial : String
  upstreamHub : String
  xhciController : String
deriving DecidableEq

/- A layout file. -/
structure Layout where
  schemaVersion : Int
  cameras : List Camera
  scalingOrder : List String
deriving DecidableEq

/- `load_layout`, the checks in their order. -/
def loadLayout
    (path : String)
    (layout : Layout) : Except String Layout :=
  let labels := layout.cameras.map Camera.label
  let serials := layout.cameras.map Camera.librealsenseSerial
  let usbSerials := layout.cameras.map Camera.usbDescriptorSerial
  if layout.schemaVersion ≠ 2 then
    .error ("unsupported layout schema in " ++ path)
  else if layout.cameras = [] then
    .error ("layout has no cameras: " ++ path)
  else if "" ∈ labels ++ serials ++ usbSerials then
    .error ("every layout camera needs a non-empty label, " ++
      "librealsense_serial, and usb_descriptor_serial")
  else if ¬labels.Nodup then
    .error "layout labels must be unique"
  else if ¬serials.Nodup then
    .error "layout librealsense serials must be unique"
  else if ¬usbSerials.Nodup then
    .error "layout USB descriptor serials must be unique"
  else if ∃ camera ∈ layout.cameras,
      camera.serial ≠ camera.librealsenseSerial then
    .error "layout serial must equal librealsense_serial"
  else
    .ok layout

/- What the plan relies on. -/
structure Layout.Valid (layout : Layout) : Prop where
  labels_nodup : (layout.cameras.map Camera.label).Nodup
  serials_nodup : (layout.cameras.map Camera.serial).Nodup

theorem loadLayout_ok
    {path : String}
    {file layout : Layout}
    (hLoad : loadLayout path file = .ok layout) :
    layout = file ∧ layout.Valid := by
  unfold loadLayout at hLoad
  simp only at hLoad
  split at hLoad
  · cases hLoad
  split at hLoad
  · cases hLoad
  split at hLoad
  · cases hLoad
  split at hLoad
  · cases hLoad
  next hLabels =>
    split at hLoad
    · cases hLoad
    next hSerials =>
      split at hLoad
      · cases hLoad
      split at hLoad
      · cases hLoad
      next hSame =>
        cases hLoad
        rw [not_not] at hLabels hSerials
        push Not at hSame
        have hMap :
            file.cameras.map Camera.serial =
              file.cameras.map Camera.librealsenseSerial :=
          List.map_congr_left hSame
        refine ⟨rfl, hLabels, ?_⟩
        rw [hMap]
        exact hSerials

------------------------------------------------------------
-- Spreading And Choosing
------------------------------------------------------------

section

open Choices

/- `_spread`: a camera of each hub in turn. -/
def spread (cameras : List Camera) : List Camera :=
  let hubs :=
    (groupLists Camera.upstreamHub cameras).items.insertionSort
      (fun left right => left.1 ≤ right.1)
  takeTurns (hubs.map (fun item =>
    item.2.insertionSort (fun left right =>
      toLex (left.model, left.serial) ≤
        toLex (right.model, right.serial))))

theorem spread_perm
    (cameras : List Camera) :
    (spread cameras).Perm cameras := by
  refine (takeTurns_perm _).trans ?_
  have hGroups := groupLists_perm Camera.upstreamHub cameras
  have hHubs :=
    List.perm_insertionSort
      (fun left right : String × List Camera =>
        left.1 ≤ right.1)
      (groupLists Camera.upstreamHub cameras).items
  refine List.Perm.trans ?_
    ((hHubs.flatMap_right Prod.snd).trans hGroups)
  rw [← List.flatMap_def]
  apply List.Perm.flatMap_left
  intro item _
  exact List.perm_insertionSort _ item.2

variable (maps : CaseMaps)

/- The model of a camera, as models are compared. -/
def CaseMaps.modelOf (camera : Camera) : String :=
  maps.upper camera.model

/-
  A step of `_choose_models`: the counter of the hubs in use
  counts the hubs of the cameras selected before.
-/
def chooseModel
    (cameras selected : List Camera)
    (model : String) : Option (List Camera) :=
  let candidates :=
    cameras.filter (fun camera =>
      maps.upper camera.model = maps.upper model ∧
        camera ∉ selected)
  let usedHubs (hub : String) : Nat :=
    (selected.map Camera.upstreamHub).count hub
  match candidates.insertionSort (fun left right =>
      toLex (usedHubs left.upstreamHub, left.serial) ≤
        toLex (usedHubs right.upstreamHub, right.serial)) with
  | [] => none
  | choice :: _ => some (selected ++ [choice])

/- `_choose_models`; no choice when a model has no camera left. -/
def chooseModels
    (cameras : List Camera)
    (models : List String) : Option (List Camera) :=
  models.foldlM (chooseModel maps cameras) []

end

------------------------------------------------------------
-- Cases
------------------------------------------------------------

/- The `workload` of a case. -/
structure Workload where
  workloadClass : String
  measurementSeconds : Int
  depth : String
  color : String
  infrared : String
deriving DecidableEq

/- The `physical` of a case. -/
structure Physical where
  cameraCount : Nat
  cameraModels : String
  cameraLabels : String
  cameraSerials : String
  hubDistribution : String
  hubLabel : String
  rootHubLabel : String
  usbSpeedLabel : String
deriving DecidableEq

/- The values of `stream_mode`. -/
inductive StreamMode
| depthColor
| d435All
deriving DecidableEq

/- What is asked of the cameras of a case. -/
structure Profile where
  streamMode : StreamMode
  fps : Int
  depthWidth : Int
  depthHeight : Int
  colorWidth : Int
  colorHeight : Int
deriving DecidableEq

/- The `probe` of a case. -/
structure Probe where
  cameraCount : Nat
  serials : List String
  profile : Profile
  delivery : String
  frames : Int
  measurementDurationMs : Int
  warmupFrames : Int
  frameTimeoutMs : Int
  startupTimeoutMs : Int
deriving DecidableEq

/- A case of the plan. -/
structure Case where
  caseId : String
  workload : Workload
  physical : Physical
  probe : Probe
deriving DecidableEq

/- `separator.join(texts)`. -/
def joined (separator : String) (texts : List String) : String :=
  String.intercalate separator texts

/- `_physical`: which cameras, on which hubs and controllers. -/
def physical (cameras : List Camera) : Physical :=
  let hubs := cameras.map Camera.upstreamHub
  { cameraCount := cameras.length
    cameraModels := joined "+" (cameras.map Camera.model)
    cameraLabels := joined "+" (cameras.map Camera.label)
    cameraSerials := joined "+" (cameras.map Camera.serial)
    hubDistribution :=
      joined "+" ((sortTexts hubs.dedup).map (fun hub =>
        hub ++ ":" ++ toString (hubs.count hub)))
    hubLabel := "powered_usb3"
    rootHubLabel :=
      joined "+"
        (sortTexts (cameras.map Camera.xhciController).dedup)
    usbSpeedLabel := "usb3_superspeed_preflight_verified" }

/- Depth and color at 30 frames a second, for every model. -/
def commonProfile : Profile where
  streamMode := .depthColor
  fps := 30
  depthWidth := 848
  depthHeight := 480
  colorWidth := 640
  colorHeight := 480

/- `_common_case`. -/
def commonCase
    (caseId : String)
    (cameras : List Camera)
    (durationSeconds : Int) : Case where
  caseId := caseId
  workload :=
    { workloadClass := "heterogeneous_common"
      measurementSeconds := durationSeconds
      depth := "848x480_Z16_30fps"
      color := "640x480_RGB8_30fps"
      infrared := "disabled" }
  physical := physical cameras
  probe :=
    { cameraCount := cameras.length
      serials := cameras.map Camera.serial
      profile := commonProfile
      delivery := "wait"
      frames := durationSeconds * 30
      measurementDurationMs := durationSeconds * 1000
      warmupFrames := 300
      frameTimeoutMs := 1500
      startupTimeoutMs := 15000 }

/- The table `STEREO_STRESS_PROFILES`, of two models. -/
def stereoStressProfile (model : String) : Profile where
  streamMode := .d435All
  fps := 60
  depthWidth := 848
  depthHeight := 480
  colorWidth := if model = "D435" then 960 else 848
  colorHeight := if model = "D435" then 540 else 480

/- The keys of `STEREO_STRESS_PROFILES`, sorted. -/
def stereoModels : List String := ["D435", "D455"]

/- A size in a description. -/
def geometry (width height : Int) : String :=
  toString width ++ "x" ++ toString height

/- `_stereo_case`, which refuses other models and mixed ones. -/
def stereoCase
    (maps : CaseMaps)
    (caseId : String)
    (cameras : List Camera)
    (durationSeconds : Int) : Except String Case :=
  let models := (cameras.map maps.modelOf).dedup
  let invalid :=
    sortTexts (models.filter (fun model =>
      model ∉ stereoModels))
  if invalid ≠ [] then
    .error ("stereo_all is reserved for D435/D455; invalid: " ++
      joined ", " invalid)
  else
    match models with
    | [model] =>
        let profile := stereoStressProfile model
        let depth := geometry profile.depthWidth profile.depthHeight
        let color := geometry profile.colorWidth profile.colorHeight
        let rate := toString profile.fps ++ "fps"
        .ok
          { caseId := caseId
            workload :=
              { workloadClass := "stereo_stress"
                measurementSeconds := durationSeconds
                depth := depth ++ "_Z16_" ++ rate
                color := color ++ "_RGB8_" ++ rate
                infrared := "IR1+IR2_" ++ depth ++ "_Y8_" ++ rate }
            physical := physical cameras
            probe :=
              { cameraCount := cameras.length
                serials := cameras.map Camera.serial
                profile := profile
                delivery := "wait"
                frames := durationSeconds * profile.fps
                measurementDurationMs := durationSeconds * 1000
                warmupFrames := profile.fps * 10
                frameTimeoutMs := 1500
                startupTimeoutMs := 15000 } }
    | _ =>
        .error ("stereo stress profiles are model-specific; " ++
          "split mixed models into homogeneous cases")

/- `_case_suffix`. -/
def caseSuffix (cameras : List Camera) : String :=
  joined "-" (cameras.map Camera.label)

------------------------------------------------------------
-- Suites
------------------------------------------------------------

open Choices

/- The choices of `--suite`. -/
inductive Suite
| smoke
| scaling
| heterogeneous
| stereoSmoke
| stereoStress
| all
deriving DecidableEq

/- Each camera alone. -/
def smokeCases
    (cameras : List Camera)
    (durationSeconds : Int) : List Case :=
  cameras.map (fun camera =>
    commonCase ("smoke_common30_" ++ camera.label) [camera]
      durationSeconds)

/- The configured cameras first, then all others. -/
def scalingCameras (layout : Layout) : Except String (List Camera) :=
  let byLabel :=
    (∅ : Dict String Camera).update
      (layout.cameras.map (fun camera => (camera.label, camera)))
  let configured := layout.scalingOrder
  let unknown :=
    sortTexts (configured.dedup.filter (fun label =>
      label ∉ layout.cameras.map Camera.label))
  if ¬configured.Nodup then
    .error "layout scaling_order contains duplicate labels"
  else if unknown ≠ [] then
    .error ("layout scaling_order contains unknown labels: " ++
      joined ", " unknown)
  else
    let ordered := configured.filterMap byLabel.get?
    .ok (ordered ++ (spread layout.cameras).filter
      (fun camera => camera ∉ ordered))

/- The sizes of the growing sets. -/
def counts (first : Nat) (cameras : List Camera) : List Nat :=
  (List.range (min 4 cameras.length + 1)).filter
    (fun count => first ≤ count)

/- The growing sets, up to four cameras. -/
def scalingCases
    (ordered : List Camera)
    (durationSeconds : Int) : List Case :=
  (counts 1 ordered).map (fun count =>
    let selected := ordered.take count
    commonCase
      ("scaling_common30_n" ++ toString count ++ "_" ++
        caseSuffix selected)
      selected durationSeconds)

variable (maps : CaseMaps)

/- The different models of a layout, sorted. -/
def layoutModels (cameras : List Camera) : List String :=
  sortTexts (cameras.map maps.modelOf).dedup

/-
  `selected_sets`: a set for each pair of models, for the three
  models, and one of four cameras.
-/
def selectedSets (cameras : List Camera) : List (List Camera) :=
  let models := layoutModels maps cameras
  let pairs :=
    (pairsOf models).filterMap (fun pair =>
      chooseModels maps cameras [pair.1, pair.2])
  let triple :=
    if "D455" ∈ models ∧ "D435" ∈ models ∧ "D415" ∈ models then
      (chooseModels maps cameras
        ["D455", "D435", "D415"]).toList
    else
      []
  let four :=
    if 4 ≤ cameras.length ∧ 2 ≤ models.length then
      [(spread cameras).take 4]
    else
      []
  pairs ++ triple ++ four

/- Two sets with the same serials are the same set. -/
def serialKey (cameras : List Camera) : List String :=
  sortTexts (cameras.map Camera.serial)

/- What a set is called: its models, and its labels. -/
def setName (cameras : List Camera) : String :=
  joined "-" (cameras.map (fun camera =>
    maps.lower camera.model)) ++ "_" ++ caseSuffix cameras

/- The case of a set of different models. -/
def heterogeneousCase
    (durationSeconds : Int)
    (cameras : List Camera) : Case :=
  commonCase ("heterogeneous_common30_" ++ setName maps cameras)
    cameras durationSeconds

/- The cases of the sets, each set once. -/
def heterogeneousCases
    (cameras : List Camera)
    (durationSeconds : Int) : List Case :=
  (keepFirst serialKey [] (selectedSets maps cameras)).map
    (heterogeneousCase maps durationSeconds)

/- The cameras of a model, each alone and in growing sets. -/
def stereoModelCases
    (cameras : List Camera)
    (durationSeconds : Int)
    (model : String) : Except String (List Case) := do
  let matching :=
    cameras.filter (fun camera => maps.modelOf camera = model)
  let ordered := spread matching
  let front := maps.lower model ++ "_stress60_n"
  let singles ← ordered.mapM (fun camera =>
    stereoCase maps (front ++ "1_" ++ camera.label) [camera]
      durationSeconds)
  let sets ← (counts 2 ordered).mapM (fun count =>
    let selected := ordered.take count
    stereoCase maps
      (front ++ toString count ++ "_" ++ caseSuffix selected)
      selected durationSeconds)
  return singles ++ sets

/-
  The cases of the two models that have infrared streams at 60
  frames.
-/
def stereoCases
    (cameras : List Camera)
    (durationSeconds : Int) : Except String (List Case) := do
  let first ← stereoModelCases maps cameras durationSeconds "D455"
  let second ← stereoModelCases maps cameras durationSeconds "D435"
  return first ++ second

/- The serials and what is asked of them. -/
def Case.signature (case : Case) : List String × Profile :=
  (sortTexts case.probe.serials, case.probe.profile)

section Plan

variable (layout : Layout)
variable (suite : Suite)
variable (durationSeconds : Int)

/- What the suite asks of the single cameras. -/
def smokePart : List Case :=
  if suite ∈ [.smoke, .all] then
    smokeCases layout.cameras durationSeconds
  else
    []

/- What the suite asks of the growing sets. -/
def scalingPart : Except String (List Case) :=
  if suite ∈ [.scaling, .all] then
    (scalingCameras layout).map (fun ordered =>
      scalingCases ordered durationSeconds)
  else
    .ok []

/- What the suite asks of the mixed sets. -/
def heterogeneousPart : List Case :=
  if suite ∈ [.heterogeneous, .all] then
    heterogeneousCases maps layout.cameras durationSeconds
  else
    []

/- What the suite asks of the stereo cases. -/
def stereoPart : Except String (List Case) :=
  if suite ∈ [.stereoSmoke, .stereoStress, .all] then
    stereoCases maps layout.cameras durationSeconds
  else
    .ok []

/- The first of the cases with the same signature is kept. -/
def planCases : Except String (List Case) := do
  let scaling ← scalingPart layout suite durationSeconds
  let stereo ← stereoPart maps layout suite durationSeconds
  return keepFirst Case.signature []
    (smokePart layout suite durationSeconds ++ scaling ++
      heterogeneousPart maps layout suite durationSeconds ++
      stereo)

end Plan

end MultiCamera

end RsCamera
