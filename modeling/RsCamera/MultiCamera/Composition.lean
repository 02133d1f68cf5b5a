import RsCamera.Lib.Texts
import RsCamera.MultiCamera.Cases

/-
  What the plan of a layout promises, and when it keeps it.

  The four cameras of the heterogeneous suite may all be of
  one model, and the name of a set is ambiguous if the
  models have separators in their names.

  Key definitions include:
    * `Plain`, `MixedFour`
    * `Composed`, `WellPlanned`

  Key theorems include:
    * `named_of_plain`
    * `composed_of_mixedFour`, `mixedFour_of_composed`
    * `wellPlanned_iff`
-/

------------------------------------------------------------
-- Names
------------------------------------------------------------

namespace RsCamera

namespace MultiCamera

/- Model names of ASCII characters without separators. -/
def Plain (cameras : List Camera) : Prop :=
  ∀ camera ∈ cameras, ∀ c ∈ camera.model.toList,
    c.toNat < 128 ∧ c ≠ '-' ∧ c ≠ '_'

theorem plain_of_all
    {cameras : List Camera}
    (hAll :
      cameras.all (fun camera =>
        camera.model.toList.all (fun c =>
          decide (c.toNat < 128) && c != '-' && c != '_')) =
        true) :
    Plain cameras := by
  intro camera hCamera c hc
  rw [List.all_eq_true] at hAll
  have hModel := hAll camera hCamera
  rw [List.all_eq_true] at hModel
  simpa [and_assoc] using hModel c hc

/- What a lower-case letter says of the upper-case one. -/
theorem ascii_lower
    {c : Char}
    (hAscii : c.toNat < 128) :
    c.toLower.toUpper = c.toUpper ∧
      (c.toLower = '-' → c = '-') ∧
      (c.toLower = '_' → c = '_') := by
  apply ascii_induction (P := fun c =>
    c.toLower.toUpper = c.toUpper ∧
      (c.toLower = '-' → c = '-') ∧
      (c.toLower = '_' → c = '_')) _ hAscii
  decide

section Names

variable {maps : CaseMaps}
variable {cameras : List Camera}

theorem toList_lower
    (hPlain : Plain cameras)
    {camera : Camera}
    (hMem : camera ∈ cameras) :
    (maps.lower camera.model).toList =
      camera.model.toList.map Char.toLower := by
  rw [maps.lower_ascii _ (fun c hc =>
    (hPlain camera hMem c hc).1), String.toList_ofList]

/- A lower-case name has no separators. -/
theorem not_mem_lower
    (hPlain : Plain cameras)
    {camera : Camera}
    (hMem : camera ∈ cameras) :
    '-' ∉ (maps.lower camera.model).toList ∧
      '_' ∉ (maps.lower camera.model).toList := by
  rw [toList_lower hPlain hMem, List.mem_map, List.mem_map]
  constructor
  · rintro ⟨c, hc, hLower⟩
    have hChar := hPlain camera hMem c hc
    exact hChar.2.1 ((ascii_lower hChar.1).2.1 hLower)
  · rintro ⟨c, hc, hLower⟩
    have hChar := hPlain camera hMem c hc
    exact hChar.2.2 ((ascii_lower hChar.1).2.2 hLower)

/- A plain model is known from its lower-case name. -/
theorem modelOf_eq_of_lower
    (hPlain : Plain cameras)
    {left right : Camera}
    (hLeft : left ∈ cameras)
    (hRight : right ∈ cameras)
    (hLower : maps.lower left.model = maps.lower right.model) :
    maps.modelOf left = maps.modelOf right := by
  have hUpper :
      ∀ camera ∈ cameras,
        maps.modelOf camera =
          String.ofList ((maps.lower camera.model).toList.map
            Char.toUpper) := by
    intro camera hMem
    rw [CaseMaps.modelOf, maps.upper_ascii _ (fun c hc =>
      (hPlain camera hMem c hc).1), toList_lower hPlain hMem,
      List.map_map]
    congr 1
    apply List.map_congr_left
    intro c hc
    exact (ascii_lower (hPlain camera hMem c hc).1).1.symm
  rw [hUpper left hLeft, hUpper right hRight, hLower]

theorem models_eq_of_lower
    (hPlain : Plain cameras)
    {left right : List Camera}
    (hLeft : ∀ camera ∈ left, camera ∈ cameras)
    (hRight : ∀ camera ∈ right, camera ∈ cameras)
    (hLower :
      left.map (fun camera => maps.lower camera.model) =
        right.map (fun camera => maps.lower camera.model)) :
    left.map maps.modelOf = right.map maps.modelOf := by
  induction left generalizing right with
  | nil =>
      cases right with
      | nil => rfl
      | cons camera rest => simp at hLower
  | cons camera rest ih =>
      cases right with
      | nil => simp at hLower
      | cons other others =>
          rw [List.forall_mem_cons] at hLeft hRight
          simp only [List.map_cons, List.cons.injEq] at hLower ⊢
          exact ⟨modelOf_eq_of_lower hPlain hLeft.1 hRight.1
              hLower.1,
            ih hLeft.2 hRight.2 hLower.2⟩

/- The models of a set can be read from its name. -/
theorem lower_eq_of_setName
    (hPlain : Plain cameras)
    {left right : List Camera}
    (hLeft : ∀ camera ∈ left, camera ∈ cameras)
    (hRight : ∀ camera ∈ right, camera ∈ cameras)
    (hLeftSome : left ≠ [])
    (hRightSome : right ≠ [])
    (hName : setName maps left = setName maps right) :
    left.map (fun camera => maps.lower camera.model) =
      right.map (fun camera => maps.lower camera.model) := by
  have hText :
      ∀ selected : List Camera,
        (setName maps selected).toList =
          ['-'].intercalate (selected.map (fun camera =>
            (maps.lower camera.model).toList)) ++
              '_' :: (caseSuffix selected).toList := by
    intro selected
    simp [setName, joined, String.toList_append,
      String.toList_intercalate, List.map_map,
      Function.comp_def]
  have hNoUnderscore :
      ∀ {selected : List Camera},
        (∀ camera ∈ selected, camera ∈ cameras) →
          '_' ∉ ['-'].intercalate (selected.map (fun camera =>
            (maps.lower camera.model).toList)) := by
    intro selected hSelected
    apply Texts.not_mem_intercalate (by decide)
    intro text hText
    rcases List.mem_map.mp hText with ⟨camera, hMem, rfl⟩
    exact (not_mem_lower hPlain (hSelected camera hMem)).2
  have hSplit :
      ∀ {selected : List Camera},
        (∀ camera ∈ selected, camera ∈ cameras) →
        selected ≠ [] →
          (['-'].intercalate (selected.map (fun camera =>
            (maps.lower camera.model).toList))).splitOn '-' =
              selected.map (fun camera =>
                (maps.lower camera.model).toList) := by
    intro selected hSelected hSome
    apply List.splitOn_intercalate
    · intro text hText
      rcases List.mem_map.mp hText with ⟨camera, hMem, rfl⟩
      exact (not_mem_lower hPlain (hSelected camera hMem)).1
    · simpa using hSome
  have hTexts := congrArg String.toList hName
  rw [hText, hText] at hTexts
  have hModels := (append_cons_inj (hNoUnderscore hLeft)
    (hNoUnderscore hRight) hTexts).1
  have hLists := congrArg (List.splitOn '-') hModels
  rw [hSplit hLeft hLeftSome, hSplit hRight hRightSome] at hLists
  have hBack := congrArg (List.map String.ofList) hLists
  simpa [List.map_map, Function.comp_def] using hBack

theorem selectedSets_ne_nil
    {selected : List Camera}
    (hMem : selected ∈ selectedSets maps cameras) :
    selected ≠ [] := by
  rintro rfl
  rcases selectedSets_cases hMem with
    ⟨pair, -, -, hModels⟩ | ⟨-, hModels⟩ | ⟨hFour, -, hTake⟩
  · simp at hModels
  · simp at hModels
  · have hLength := length_take_spread hFour
    rw [← hTake] at hLength
    simp at hLength

theorem named_of_plain
    (hPlain : Plain cameras) :
    Named maps cameras := by
  rw [Named, List.Nodup, List.pairwise_map]
  refine selectedSets_apart.imp_of_mem ?_
  intro left right hLeft hRight hApart hName
  apply hApart
  have hLower := lower_eq_of_setName hPlain
    (selectedSets_subset hLeft) (selectedSets_subset hRight)
    (selectedSets_ne_nil hLeft) (selectedSets_ne_nil hRight)
    hName
  rw [models_eq_of_lower hPlain (selectedSets_subset hLeft)
    (selectedSets_subset hRight) hLower]

end Names

------------------------------------------------------------
-- Composition
------------------------------------------------------------

section Composition

variable (maps : CaseMaps)

/- Two cameras of a case have these models. -/
def Together
    (cameras : List Camera)
    (case : Case)
    (left right : String) : Prop :=
  ∃ first ∈ cameras, ∃ second ∈ cameras,
    first.serial ∈ case.probe.serials ∧
      second.serial ∈ case.probe.serials ∧
      maps.modelOf first = left ∧ maps.modelOf second = right

/-
  Every case has two models, and every two models of the
  layout are in a case.
-/
structure Composed
    (cameras : List Camera)
    (cases : List Case) : Prop where
  mixed :
    ∀ case ∈ cases, ∃ left right,
      left ≠ right ∧ Together maps cameras case left right
  complete :
    ∀ left ∈ layoutModels maps cameras,
      ∀ right ∈ layoutModels maps cameras, left ≠ right →
        ∃ case ∈ cases, Together maps cameras case left right

structure WellPlanned (layout : Layout) : Prop where
  composed :
    ∀ durationSeconds, ∃ cases,
      planCases maps layout .heterogeneous durationSeconds =
          .ok cases ∧
        Composed maps layout.cameras cases
  distinct :
    ∀ suite durationSeconds cases,
      planCases maps layout suite durationSeconds = .ok cases →
        Distinct cases

/-
  There is no set of four, or the first four cameras of all
  hubs are not all of one model.
-/
def MixedFour (cameras : List Camera) : Prop :=
  cameras.length < 4 ∨ (layoutModels maps cameras).length < 2 ∨
    ∃ first ∈ (spread cameras).take 4,
      ∃ second ∈ (spread cameras).take 4,
        maps.modelOf first ≠ maps.modelOf second

variable {maps}
variable {cameras : List Camera}

theorem together_of_mem
    {selected : List Camera}
    (hMem : selected ∈ selectedSets maps cameras)
    (durationSeconds : Int)
    {left right : String}
    (hLeft : left ∈ selected.map maps.modelOf)
    (hRight : right ∈ selected.map maps.modelOf) :
    Together maps cameras
      (heterogeneousCase maps durationSeconds selected)
      left right := by
  rcases List.mem_map.mp hLeft with ⟨first, hFirst, hModel⟩
  rcases List.mem_map.mp hRight with ⟨second, hSecond, hModel'⟩
  exact ⟨first, selectedSets_subset hMem first hFirst,
    second, selectedSets_subset hMem second hSecond,
    List.mem_map_of_mem hFirst, List.mem_map_of_mem hSecond,
    hModel, hModel'⟩

/- Only the four cameras may be of one model. -/
theorem exists_models
    (hMixed : MixedFour maps cameras)
    {selected : List Camera}
    (hMem : selected ∈ selectedSets maps cameras) :
    ∃ left ∈ selected.map maps.modelOf,
      ∃ right ∈ selected.map maps.modelOf, left ≠ right := by
  rcases selectedSets_cases hMem with
    ⟨pair, hPair, -, hModels⟩ | ⟨-, hModels⟩ |
      ⟨hFour, hModels, rfl⟩
  · have hLess := lt_of_mem_pairsOf hPair
    rw [hModels]
    exact ⟨pair.1, by simp, pair.2, by simp, hLess.ne⟩
  · rw [hModels]
    exact ⟨"D455", by simp, "D435", by simp, by decide⟩
  · rcases hMixed with hFew | hOne |
      ⟨first, hFirst, second, hSecond, hNe⟩
    · omega
    · omega
    · exact ⟨_, List.mem_map_of_mem hFirst,
        _, List.mem_map_of_mem hSecond, hNe⟩

theorem composed_of_mixedFour
    (hMixed : MixedFour maps cameras)
    (durationSeconds : Int) :
    Composed maps cameras
      ((selectedSets maps cameras).map
        (heterogeneousCase maps durationSeconds)) where
  mixed := by
    intro case hCase
    rcases List.mem_map.mp hCase with ⟨selected, hMem, rfl⟩
    rcases exists_models hMixed hMem with
      ⟨left, hLeft, right, hRight, hNe⟩
    exact ⟨left, right, hNe,
      together_of_mem hMem durationSeconds hLeft hRight⟩
  complete := by
    intro left hLeft right hRight hNe
    rcases exists_pair hLeft hRight hNe with
      ⟨selected, hMem, hLeftIn, hRightIn⟩
    exact ⟨_, List.mem_map_of_mem hMem,
      together_of_mem hMem durationSeconds hLeftIn hRightIn⟩

/- The case of the four cameras shows their models. -/
theorem mixedFour_of_composed
    (hSerials : (cameras.map Camera.serial).Nodup)
    {durationSeconds : Int}
    (hComposed :
      Composed maps cameras
        ((selectedSets maps cameras).map
          (heterogeneousCase maps durationSeconds))) :
    MixedFour maps cameras := by
  by_cases hFew : cameras.length < 4
  · exact Or.inl hFew
  by_cases hOne : (layoutModels maps cameras).length < 2
  · exact Or.inr (Or.inl hOne)
  have hMem :
      (spread cameras).take 4 ∈ selectedSets maps cameras := by
    have hEnough :
        4 ≤ cameras.length ∧
          2 ≤ (layoutModels maps cameras).length := by
      omega
    simp [selectedSets, hEnough]
  rcases hComposed.mixed _ (List.mem_map_of_mem hMem) with
    ⟨left, right, hNe, first, hFirst, second, hSecond, hIn, hIn',
      hLeft, hRight⟩
  -- A serial of the case is that of one of the four cameras.
  have hBack :
      ∀ {camera : Camera}, camera ∈ cameras →
        camera.serial ∈
          ((spread cameras).take 4).map Camera.serial →
          camera ∈ (spread cameras).take 4 := by
    intro camera hCamera hSerial
    rcases List.mem_map.mp hSerial with ⟨other, hOther, hSame⟩
    have hEq := List.inj_on_of_nodup_map hSerials
      (selectedSets_subset hMem other hOther) hCamera hSame
    rw [← hEq]
    exact hOther
  refine Or.inr (Or.inr ⟨first, hBack hFirst hIn, second,
    hBack hSecond hIn', ?_⟩)
  rw [hLeft, hRight]
  exact hNe

theorem named_of_distinct
    {durationSeconds : Int}
    (hDistinct :
      Distinct ((selectedSets maps cameras).map
        (heterogeneousCase maps durationSeconds))) :
    Named maps cameras := by
  rw [Distinct, List.pairwise_map] at hDistinct
  rw [Named, List.Nodup, List.pairwise_map]
  refine hDistinct.imp ?_
  intro left right hBoth hName
  apply hBoth.2
  simp only [heterogeneousCase, commonCase, hName]

theorem wellPlanned_iff
    {path : String}
    {file layout : Layout}
    (hLoad : loadLayout path file = .ok layout) :
    (WellPlanned maps layout ↔
      MixedFour maps layout.cameras ∧
        Named maps layout.cameras) ∧
    (Plain layout.cameras → Named maps layout.cameras) := by
  have hValid := (loadLayout_ok hLoad).2
  have hPlan :=
    @planCases_heterogeneous maps layout hValid.serials_nodup
  refine ⟨⟨?_, ?_⟩, named_of_plain⟩
  · intro hWell
    constructor
    · rcases hWell.composed 0 with ⟨cases, hCases, hComposed⟩
      rw [hPlan] at hCases
      cases hCases
      exact mixedFour_of_composed hValid.serials_nodup hComposed
    · exact named_of_distinct
        (hWell.distinct .heterogeneous 0 _ (hPlan 0))
  · rintro ⟨hMixed, hNamed⟩
    constructor
    · intro durationSeconds
      exact ⟨_, hPlan durationSeconds,
        composed_of_mixedFour hMixed durationSeconds⟩
    · intro suite durationSeconds cases hCases
      exact planCases_distinct hValid hNamed hCases

end Composition

def sampleCamera (label model serial hub : String) : Camera where
  label := label
  model := model
  serial := serial
  librealsenseSerial := serial
  usbDescriptorSerial := "usb" ++ serial
  upstreamHub := hub
  xhciController := "xhci-hcd.0"

/- Two models, each on a hub. -/
def pairLayout : Layout where
  schemaVersion := 2
  cameras :=
    [sampleCamera "d455_1" "D455" "11" "2-1",
      sampleCamera "d415_1" "D415" "12" "2-2"]
  scalingOrder := ["d455_1"]

theorem wellPlanned_pairLayout :
    loadLayout "layout.json" pairLayout = .ok pairLayout ∧
      WellPlanned asciiMaps pairLayout := by
  have hLoad :
      loadLayout "layout.json" pairLayout = .ok pairLayout := by
    decide +kernel
  have hPlain : Plain pairLayout.cameras :=
    plain_of_all (by decide +kernel)
  refine ⟨hLoad, (wellPlanned_iff hLoad).1.mpr ⟨?_, ?_⟩⟩
  · exact Or.inl (by decide)
  · exact (wellPlanned_iff hLoad).2 hPlain

/- The only camera of another model is on the last hub. -/
def lastHubLayout : Layout where
  schemaVersion := 2
  cameras :=
    [sampleCamera "d415_1" "D415" "11" "2-1",
      sampleCamera "d415_2" "D415" "12" "2-2",
      sampleCamera "d415_3" "D415" "13" "2-3",
      sampleCamera "d415_4" "D415" "14" "2-4",
      sampleCamera "d455_1" "D455" "15" "2-5"]
  scalingOrder := []

/- Two pairs of these models have the same name. -/
def separatorLayout : Layout where
  schemaVersion := 2
  cameras :=
    [sampleCamera "p-q" "A-B" "11" "2-1",
      sampleCamera "r" "C" "12" "2-2",
      sampleCamera "p" "A" "13" "2-3",
      sampleCamera "q-r" "B-C" "14" "2-4"]
  scalingOrder := []

theorem not_wellPlanned_lastHubLayout :
    loadLayout "layout.json" lastHubLayout =
        .ok lastHubLayout ∧
      ¬WellPlanned asciiMaps lastHubLayout ∧
      loadLayout "layout.json" separatorLayout =
        .ok separatorLayout ∧
      ¬WellPlanned asciiMaps separatorLayout := by
  have hLoad :
      loadLayout "layout.json" lastHubLayout =
        .ok lastHubLayout := by
    decide +kernel
  have hLoad' :
      loadLayout "layout.json" separatorLayout =
        .ok separatorLayout := by
    decide +kernel
  have hSerials := (loadLayout_ok hLoad).2.serials_nodup
  have hSerials' := (loadLayout_ok hLoad').2.serials_nodup
  refine ⟨hLoad, ?_, hLoad', ?_⟩
  · intro hWell
    have hFour : ¬MixedFour asciiMaps lastHubLayout.cameras := by
      unfold MixedFour
      decide +kernel
    rcases hWell.composed 600 with ⟨cases, hCases, hComposed⟩
    rw [planCases_heterogeneous hSerials] at hCases
    cases hCases
    exact hFour (mixedFour_of_composed hSerials hComposed)
  · intro hWell
    have hNames : ¬Named asciiMaps separatorLayout.cameras := by
      unfold Named
      decide +kernel
    exact hNames (named_of_distinct
      (hWell.distinct .heterogeneous 600 _
        (planCases_heterogeneous hSerials' 600)))

end MultiCamera

end RsCamera
