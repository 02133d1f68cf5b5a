import RsCamera.Lib.Numeral
import RsCamera.MultiCamera.Selection

/-
  The cases that are planned for a layout.

  A case is left out only if its cameras and what is asked
  of them were planned before.  The ids of the suites begin
  differently, and within a suite they differ, if the sets
  of different models have different names.

  Key definitions include:
    * `Family`, `Named`, `Distinct`

  Key theorems include:
    * `planCases_heterogeneous`
    * `planCases_ok`
    * `caseIds_nodup`
    * `planCases_distinct`
-/

------------------------------------------------------------
-- Serials
------------------------------------------------------------

namespace RsCamera

namespace MultiCamera

section

open Choices

section Serials

variable {maps : CaseMaps}
variable {cameras : List Camera}

/- A serial stands for a model. -/
theorem exists_model_of_serial
    (hSerials : (cameras.map Camera.serial).Nodup) :
    ∃ model : String → String,
      ∀ camera ∈ cameras,
        model camera.serial = maps.modelOf camera := by
  refine ⟨fun serial =>
    ((cameras.find? (fun camera => camera.serial = serial)).map
      maps.modelOf).getD "", ?_⟩
  intro camera hCamera
  have hFound :
      cameras.find? (fun other =>
        other.serial = camera.serial) = some camera := by
    cases hFind : cameras.find? (fun other =>
        other.serial = camera.serial) with
    | none =>
        rw [List.find?_eq_none] at hFind
        exact absurd (by simp) (hFind camera hCamera)
    | some other =>
        have hSame : other.serial = camera.serial := by
          simpa using List.find?_some hFind
        have hOther := List.mem_of_find?_eq_some hFind
        rw [List.inj_on_of_nodup_map hSerials hOther hCamera
          hSame]
  simp [hFound]

theorem models_perm_of_serialKey
    (hSerials : (cameras.map Camera.serial).Nodup)
    {left right : List Camera}
    (hLeft : ∀ camera ∈ left, camera ∈ cameras)
    (hRight : ∀ camera ∈ right, camera ∈ cameras)
    (hKey : serialKey left = serialKey right) :
    (left.map maps.modelOf).Perm (right.map maps.modelOf) := by
  have hPerm :
      (left.map Camera.serial).Perm (right.map Camera.serial) := by
    have hBack := sortTexts_perm (right.map Camera.serial)
    rw [← serialKey, ← hKey] at hBack
    exact (sortTexts_perm (left.map Camera.serial)).symm.trans
      hBack
  rcases @exists_model_of_serial maps cameras hSerials with
    ⟨model, hModel⟩
  have hModels :
      ∀ {selected : List Camera},
        (∀ camera ∈ selected, camera ∈ cameras) →
          selected.map maps.modelOf =
            (selected.map Camera.serial).map model := by
    intro selected hSelected
    rw [List.map_map]
    apply List.map_congr_left
    intro camera hCamera
    exact (hModel camera (hSelected camera hCamera)).symm
  rw [hModels hLeft, hModels hRight]
  exact hPerm.map model

theorem serialKeys_nodup
    (hSerials : (cameras.map Camera.serial).Nodup) :
    ((selectedSets maps cameras).map serialKey).Nodup := by
  rw [List.Nodup, List.pairwise_map]
  refine selectedSets_apart.imp_of_mem ?_
  intro left right hLeft hRight hApart hKey
  exact hApart (models_perm_of_serialKey hSerials
    (selectedSets_subset hLeft) (selectedSets_subset hRight)
    hKey)

/- No set is left out. -/
theorem heterogeneousCases_eq
    (hSerials : (cameras.map Camera.serial).Nodup)
    (durationSeconds : Int) :
    heterogeneousCases maps cameras durationSeconds =
      (selectedSets maps cameras).map
        (heterogeneousCase maps durationSeconds) := by
  rw [heterogeneousCases, keepFirst_of_nodup serialKey
    (serialKeys_nodup hSerials) (by simp)]

theorem planCases_heterogeneous
    {layout : Layout}
    (hSerials : (layout.cameras.map Camera.serial).Nodup)
    (durationSeconds : Int) :
    planCases maps layout .heterogeneous durationSeconds =
      .ok ((selectedSets maps layout.cameras).map
        (heterogeneousCase maps durationSeconds)) := by
  have hSignatures :
      (((selectedSets maps layout.cameras).map
        (heterogeneousCase maps durationSeconds)).map
          Case.signature).Nodup := by
    have hKeys := @serialKeys_nodup maps _ hSerials
    rw [List.Nodup, List.pairwise_map] at hKeys
    rw [List.Nodup, List.pairwise_map, List.pairwise_map]
    refine hKeys.imp ?_
    intro left right hNe hSame
    exact hNe (Prod.mk.inj hSame).1
  have hKeep :=
    @keepFirst_of_nodup _ _ _ Case.signature [] _ hSignatures
      (by simp)
  simp [planCases, smokePart, scalingPart, heterogeneousPart,
    stereoPart, heterogeneousCases_eq hSerials, hKeep, pure,
    Except.pure, bind, Except.bind]

end Serials

end

------------------------------------------------------------
-- Families Of Cases
------------------------------------------------------------

section

open Choices

/-
  Cases of one kind: their ids begin alike and differ, and
  no camera is in a case twice.
-/
structure Family (mark : List Char) (cases : List Case) : Prop where
  ids_nodup : (cases.map Case.caseId).Nodup
  mark_eq :
    ∀ case ∈ cases, case.caseId.toList.take 3 = mark
  serials_nodup : ∀ case ∈ cases, case.probe.serials.Nodup

theorem Family.nil
    (mark : List Char) :
    Family mark [] where
  ids_nodup := List.nodup_nil
  mark_eq := by simp
  serials_nodup := by simp

theorem Family.mark_ne
    {mark other : List Char}
    {cases : List Case}
    (hFamily : Family mark cases)
    (hNe : mark ≠ other) :
    ∀ case ∈ cases, case.caseId.toList.take 3 ≠ other := by
  intro case hCase
  rw [hFamily.mark_eq case hCase]
  exact hNe

theorem take_three_append
    {front : String}
    (hFront : 3 ≤ front.toList.length)
    (rest : String) :
    (front ++ rest).toList.take 3 = front.toList.take 3 := by
  rw [String.toList_append, List.take_append_of_le_length hFront]

theorem append_left_cancel
    {front left right : String}
    (hEq : front ++ left = front ++ right) :
    left = right := by
  rw [← String.toList_inj, String.toList_append,
    String.toList_append, List.append_cancel_left_eq,
    String.toList_inj] at hEq
  exact hEq

/- An id with a number in it. -/
def numbered (front : String) (count : Nat) (rest : String) :
    String :=
  front ++ toString count ++ "_" ++ rest

theorem numbered_inj
    {front rest rest' : String}
    {count count' : Nat}
    (hEq : numbered front count rest =
      numbered front count' rest') :
    count = count' ∧ rest = rest' := by
  have hDigits :
      ∀ n : Nat, '_' ∉ (toString n).toList := by
    intro n hMem
    have hDigit : ('_' : Char).isDigit = true := by
      apply Nat.isDigit_of_mem_toDigits (by decide : 0 < 10)
        (by decide)
      rw [← Nat.toList_repr]
      exact hMem
    exact absurd hDigit (by decide)
  simp only [numbered, String.append_assoc] at hEq
  have hTail := append_left_cancel hEq
  rw [← String.toList_inj] at hTail
  simp only [String.toList_append] at hTail
  rcases append_cons_inj (hDigits count) (hDigits count')
    hTail with ⟨hCount, hRest⟩
  exact ⟨toString_nat_injective (String.toList_inj.mp hCount),
    String.toList_inj.mp hRest⟩

theorem smoke_family
    {cameras : List Camera}
    (hLabels : (cameras.map Camera.label).Nodup)
    (durationSeconds : Int) :
    Family ['s', 'm', 'o']
      (smokeCases cameras durationSeconds) where
  ids_nodup := by
    rw [smokeCases, List.map_map]
    rw [List.Nodup, List.pairwise_map] at hLabels ⊢
    exact hLabels.imp (fun hNe hSame =>
      hNe (append_left_cancel hSame))
  mark_eq := by
    intro case hCase
    rcases List.mem_map.mp hCase with ⟨camera, -, rfl⟩
    exact take_three_append (by decide) _
  serials_nodup := by
    intro case hCase
    rcases List.mem_map.mp hCase with ⟨camera, -, rfl⟩
    exact List.nodup_singleton _

theorem counts_nodup
    (first : Nat)
    (cameras : List Camera) :
    (counts first cameras).Nodup :=
  List.nodup_range.filter _

theorem le_of_mem_counts
    {first count : Nat}
    {cameras : List Camera}
    (hMem : count ∈ counts first cameras) :
    first ≤ count := by
  simpa using List.of_mem_filter hMem

theorem nodup_map_take
    {ordered : List Camera}
    (hSerials : (ordered.map Camera.serial).Nodup)
    (count : Nat) :
    ((ordered.take count).map Camera.serial).Nodup := by
  rw [List.map_take]
  exact hSerials.sublist (List.take_sublist count _)

theorem scaling_family
    {ordered : List Camera}
    (hSerials : (ordered.map Camera.serial).Nodup)
    (durationSeconds : Int) :
    Family ['s', 'c', 'a']
      (scalingCases ordered durationSeconds) where
  ids_nodup := by
    rw [scalingCases, List.map_map]
    apply (counts_nodup 1 ordered).map
    intro left right hSame
    exact (numbered_inj hSame).1
  mark_eq := by
    intro case hCase
    rcases List.mem_map.mp hCase with ⟨count, -, rfl⟩
    simp only [commonCase, String.append_assoc]
    exact take_three_append (by decide) _
  serials_nodup := by
    intro case hCase
    rcases List.mem_map.mp hCase with ⟨count, -, rfl⟩
    exact nodup_map_take hSerials count

end

------------------------------------------------------------
-- Sets Of Different And Of One Model
------------------------------------------------------------

section

open Choices

/- The names of the sets of a layout are all different. -/
def Named (maps : CaseMaps) (cameras : List Camera) : Prop :=
  ((selectedSets maps cameras).map (setName maps)).Nodup

section Families

variable {maps : CaseMaps}
variable {cameras : List Camera}

theorem serials_nodup_of_subset
    (hSerials : (cameras.map Camera.serial).Nodup)
    {selected : List Camera}
    (hSubset : ∀ camera ∈ selected, camera ∈ cameras)
    (hNodup : selected.Nodup) :
    (selected.map Camera.serial).Nodup := by
  apply List.Nodup.map_on _ hNodup
  intro left hLeft right hRight hSame
  exact List.inj_on_of_nodup_map hSerials (hSubset left hLeft)
    (hSubset right hRight) hSame

theorem heterogeneous_family
    (hSerials : (cameras.map Camera.serial).Nodup)
    (hNamed : Named maps cameras)
    (durationSeconds : Int) :
    Family ['h', 'e', 't']
      (heterogeneousCases maps cameras durationSeconds) where
  ids_nodup := by
    rw [heterogeneousCases_eq hSerials, List.map_map]
    unfold Named at hNamed
    rw [List.Nodup, List.pairwise_map] at hNamed ⊢
    exact hNamed.imp (fun hNe hSame =>
      hNe (append_left_cancel hSame))
  mark_eq := by
    intro case hCase
    rw [heterogeneousCases_eq hSerials] at hCase
    rcases List.mem_map.mp hCase with ⟨selected, -, rfl⟩
    exact take_three_append (by decide) _
  serials_nodup := by
    intro case hCase
    rw [heterogeneousCases_eq hSerials] at hCase
    rcases List.mem_map.mp hCase with ⟨selected, hMem, rfl⟩
    exact serials_nodup_of_subset hSerials
      (selectedSets_subset hMem)
      (selectedSets_nodup hSerials.of_map hMem)

variable {durationSeconds : Int}

theorem stereoCase_ok
    {caseId : String}
    {selected : List Camera}
    {case : Case}
    (hCase :
      stereoCase maps caseId selected durationSeconds =
        .ok case) :
    case.caseId = caseId ∧
      case.probe.serials = selected.map Camera.serial := by
  unfold stereoCase at hCase
  simp only at hCase
  split at hCase
  · cases hCase
  · split at hCase
    · cases hCase
      exact ⟨rfl, rfl⟩
    · cases hCase

/- The ids of cases made one by one. -/
theorem map_caseId_of_forall₂
    {X : Type}
    {name : X → String}
    {selected : X → List Camera}
    {xs : List X}
    {cases : List Case}
    (hCases :
      List.Forall₂ (fun x case =>
        stereoCase maps (name x) (selected x) durationSeconds =
          .ok case) xs cases) :
    cases.map Case.caseId = xs.map name ∧
      ∀ case ∈ cases, ∃ x ∈ xs,
        case.probe.serials =
          (selected x).map Camera.serial := by
  induction hCases with
  | nil => simp
  | cons hHead hTail ih =>
      rcases stereoCase_ok hHead with ⟨hId, hSerials⟩
      rcases ih with ⟨hIds, hRest⟩
      refine ⟨by simp [hId, hIds], ?_⟩
      intro case hCase
      rcases List.mem_cons.mp hCase with rfl | hOld
      · exact ⟨_, List.mem_cons_self, hSerials⟩
      · rcases hRest case hOld with ⟨x, hMem, hSame⟩
        exact ⟨x, List.mem_cons_of_mem _ hMem, hSame⟩

theorem numbered_one
    (front rest : String) :
    front ++ "1_" ++ rest = numbered front 1 rest := by
  have hOne : ("1_" : String) = toString 1 ++ "_" := by decide
  rw [numbered, hOne]
  simp only [String.append_assoc]

/- Single cameras, then sets of two and more. -/
theorem stereo_family_of
    {front : String}
    (hFront : 3 ≤ front.toList.length)
    {ordered : List Camera}
    (hLabels : (ordered.map Camera.label).Nodup)
    (hSerials : (ordered.map Camera.serial).Nodup)
    {singles sets : List Case}
    (hSingles :
      List.Forall₂ (fun camera case =>
        stereoCase maps (front ++ "1_" ++ camera.label) [camera]
          durationSeconds = .ok case) ordered singles)
    (hSets :
      List.Forall₂ (fun count case =>
        stereoCase maps
          (front ++ toString count ++ "_" ++
            caseSuffix (ordered.take count))
          (ordered.take count) durationSeconds = .ok case)
        (counts 2 ordered) sets) :
    Family (front.toList.take 3) (singles ++ sets) := by
  rcases map_caseId_of_forall₂ hSingles with
    ⟨hSingleIds, hSingleSerials⟩
  rcases map_caseId_of_forall₂ hSets with
    ⟨hSetIds, hSetSerials⟩
  have hIds :
      (singles ++ sets).map Case.caseId =
        ordered.map (fun camera =>
          numbered front 1 camera.label) ++
        (counts 2 ordered).map (fun count =>
          numbered front count
            (caseSuffix (ordered.take count))) := by
    rw [List.map_append, hSingleIds, hSetIds]
    congr 1
    apply List.map_congr_left
    intro camera _
    exact numbered_one front camera.label
  constructor
  case ids_nodup =>
    rw [hIds, List.nodup_append]
    refine ⟨?_, ?_, ?_⟩
    · rw [List.Nodup, List.pairwise_map] at hLabels ⊢
      exact hLabels.imp (fun hNe hSame =>
        hNe (numbered_inj hSame).2)
    · apply (counts_nodup 2 ordered).map
      intro left right hSame
      exact (numbered_inj hSame).1
    · intro single hSingle set hSet hSame
      rcases List.mem_map.mp hSingle with ⟨camera, -, rfl⟩
      rcases List.mem_map.mp hSet with ⟨count, hCount, rfl⟩
      have hTwo := le_of_mem_counts hCount
      have hOne := (numbered_inj hSame).1
      omega
  case mark_eq =>
    intro case hCase
    have hId := List.mem_map_of_mem (f := Case.caseId) hCase
    rw [hIds, List.mem_append, List.mem_map, List.mem_map] at hId
    rcases hId with ⟨camera, -, hSame⟩ | ⟨count, -, hSame⟩
    · rw [← hSame]
      simp only [numbered, String.append_assoc]
      exact take_three_append hFront _
    · rw [← hSame]
      simp only [numbered, String.append_assoc]
      exact take_three_append hFront _
  case serials_nodup =>
    intro case hCase
    rcases List.mem_append.mp hCase with hSingle | hSet
    · rcases hSingleSerials case hSingle with ⟨camera, -, hSame⟩
      rw [hSame]
      exact List.nodup_singleton _
    · rcases hSetSerials case hSet with ⟨count, -, hSame⟩
      rw [hSame]
      exact nodup_map_take hSerials count

theorem stereo_family
    (hLabels : (cameras.map Camera.label).Nodup)
    (hSerials : (cameras.map Camera.serial).Nodup)
    {model : String}
    {cases : List Case}
    (hModel : 3 ≤ (maps.lower model).toList.length)
    (hCases :
      stereoModelCases maps cameras durationSeconds model =
        .ok cases) :
    Family ((maps.lower model).toList.take 3) cases := by
  unfold stereoModelCases at hCases
  simp only at hCases
  rcases bind_eq_ok.mp hCases with ⟨singles, hSingles, hRest⟩
  rcases bind_eq_ok.mp hRest with ⟨sets, hSets, hAll⟩
  cases hAll
  rw [mapM_eq_ok_iff] at hSingles hSets
  have hOrdered :=
    spread_perm (cameras.filter (fun camera =>
      maps.modelOf camera = model))
  have hFront :
      3 ≤ (maps.lower model ++ "_stress60_n").toList.length := by
    rw [String.toList_append, List.length_append]
    omega
  rw [← take_three_append hModel "_stress60_n"]
  refine stereo_family_of hFront ?_ ?_ hSingles hSets
  · refine (hOrdered.map Camera.label).nodup_iff.mpr ?_
    exact hLabels.sublist (List.filter_sublist.map _)
  · refine (hOrdered.map Camera.serial).nodup_iff.mpr ?_
    exact hSerials.sublist (List.filter_sublist.map _)

end Families

end

------------------------------------------------------------
-- The Plan Of A Suite
------------------------------------------------------------

open Choices

section Plans

variable {maps : CaseMaps}
variable {layout : Layout}

theorem scalingCameras_serials
    (hValid : layout.Valid)
    {ordered : List Camera}
    (hOrdered : scalingCameras layout = .ok ordered) :
    (ordered.map Camera.serial).Nodup := by
  unfold scalingCameras at hOrdered
  simp only at hOrdered
  split at hOrdered
  · cases hOrdered
  next hConfigured =>
    rw [not_not] at hConfigured
    split at hOrdered
    · cases hOrdered
    · cases hOrdered
      -- A label finds the camera that has it.
      have hFound :
          ∀ {label camera},
            ((∅ : Dict String Camera).update
              (layout.cameras.map (fun camera =>
                (camera.label, camera)))).get? label =
                  some camera →
              camera ∈ layout.cameras ∧ camera.label = label := by
        intro label camera hGet
        rcases Dict.get?_update_cases hGet with hOld | hNew
        · simp [Dict.get?] at hOld
        · rcases List.mem_map.mp hNew with ⟨other, hMem, hSame⟩
          cases hSame
          exact ⟨hMem, rfl⟩
      have hSpread := spread_perm layout.cameras
      apply serials_nodup_of_subset hValid.serials_nodup
      · intro camera hCamera
        rcases List.mem_append.mp hCamera with hFirst | hRest
        · rcases List.mem_filterMap.mp hFirst with
            ⟨label, -, hGet⟩
          exact (hFound hGet).1
        · exact hSpread.subset (List.mem_of_mem_filter hRest)
      · rw [List.nodup_append]
        refine ⟨?_, ?_, ?_⟩
        · apply hConfigured.filterMap
          intro label label' camera hGet hGet'
          rw [← (hFound hGet).2, ← (hFound hGet').2]
        · exact (hSpread.nodup_iff.mpr
            hValid.serials_nodup.of_map).filter _
        · intro camera hFirst other hRest hSame
          subst hSame
          have hNew := List.of_mem_filter hRest
          simp only [decide_eq_true_eq] at hNew
          exact hNew hFirst

/- The parts of a plan are families or empty. -/
theorem planCases_ok
    {suite : Suite}
    {durationSeconds : Int}
    {cases : List Case}
    (hValid : layout.Valid)
    (hNamed : Named maps layout.cameras)
    (hPlan :
      planCases maps layout suite durationSeconds =
        .ok cases) :
    ∃ smoke scaling heterogeneous first second,
      Family ['s', 'm', 'o'] smoke ∧
        Family ['s', 'c', 'a'] scaling ∧
        Family ['h', 'e', 't'] heterogeneous ∧
        Family ['d', '4', '5'] first ∧
        Family ['d', '4', '3'] second ∧
        cases =
          keepFirst Case.signature []
            (smoke ++ scaling ++ heterogeneous ++
              (first ++ second)) := by
  unfold planCases at hPlan
  rcases bind_eq_ok.mp hPlan with ⟨scaling, hScaling, hRest⟩
  rcases bind_eq_ok.mp hRest with ⟨stereo, hStereo, hAll⟩
  cases hAll
  have hSmokeFamily :
      Family ['s', 'm', 'o']
        (smokePart layout suite durationSeconds) := by
    unfold smokePart
    split
    · exact smoke_family hValid.labels_nodup durationSeconds
    · exact Family.nil _
  have hScalingFamily : Family ['s', 'c', 'a'] scaling := by
    unfold scalingPart at hScaling
    split at hScaling
    · cases hOrdered : scalingCameras layout with
      | error message =>
          rw [hOrdered] at hScaling
          cases hScaling
      | ok ordered =>
          rw [hOrdered] at hScaling
          cases hScaling
          exact scaling_family
            (scalingCameras_serials hValid hOrdered)
            durationSeconds
    · cases hScaling
      exact Family.nil _
  have hHeterogeneousFamily :
      Family ['h', 'e', 't']
        (heterogeneousPart maps layout suite
          durationSeconds) := by
    unfold heterogeneousPart
    split
    · exact heterogeneous_family hValid.serials_nodup hNamed
        durationSeconds
    · exact Family.nil _
  have hStereoFamilies :
      ∃ first second,
        Family ['d', '4', '5'] first ∧
          Family ['d', '4', '3'] second ∧
          stereo = first ++ second := by
    unfold stereoPart at hStereo
    split at hStereo
    · rcases bind_eq_ok.mp hStereo with ⟨first, hFirst, hMore⟩
      rcases bind_eq_ok.mp hMore with ⟨second, hSecond, hBoth⟩
      cases hBoth
      have hLower :
          maps.lower "D455" = "d455" ∧
            maps.lower "D435" = "d435" := by
        rw [maps.lower_ascii _ (ascii_of_all (by decide)),
          maps.lower_ascii _ (ascii_of_all (by decide))]
        decide
      have hFirstFamily := stereo_family hValid.labels_nodup
        hValid.serials_nodup (by rw [hLower.1]; decide) hFirst
      have hSecondFamily := stereo_family hValid.labels_nodup
        hValid.serials_nodup (by rw [hLower.2]; decide) hSecond
      rw [hLower.1] at hFirstFamily
      rw [hLower.2] at hSecondFamily
      exact ⟨first, second, hFirstFamily, hSecondFamily, rfl⟩
    · cases hStereo
      exact ⟨[], [], Family.nil _, Family.nil _, rfl⟩
  rcases hStereoFamilies with
    ⟨first, second, hFirst, hSecond, rfl⟩
  exact ⟨_, scaling, _, first, second, hSmokeFamily,
    hScalingFamily, hHeterogeneousFamily, hFirst, hSecond, rfl⟩

theorem ids_nodup_append
    {mark : List Char}
    {left right : List Case}
    (hLeft : (left.map Case.caseId).Nodup)
    (hRight : Family mark right)
    (hMarks :
      ∀ case ∈ left, case.caseId.toList.take 3 ≠ mark) :
    ((left ++ right).map Case.caseId).Nodup := by
  rw [List.map_append, List.nodup_append]
  refine ⟨hLeft, hRight.ids_nodup, ?_⟩
  intro id hId other hOther hSame
  subst hSame
  rcases List.mem_map.mp hId with ⟨case, hCase, rfl⟩
  rcases List.mem_map.mp hOther with ⟨case', hCase', hSame⟩
  apply hMarks case hCase
  rw [← hSame]
  exact hRight.mark_eq case' hCase'

/- The ids of all cases of a plan, before any is left out. -/
theorem caseIds_nodup
    {smoke scaling heterogeneous first second : List Case}
    (hSmoke : Family ['s', 'm', 'o'] smoke)
    (hScaling : Family ['s', 'c', 'a'] scaling)
    (hHeterogeneous : Family ['h', 'e', 't'] heterogeneous)
    (hFirst : Family ['d', '4', '5'] first)
    (hSecond : Family ['d', '4', '3'] second) :
    ((smoke ++ scaling ++ heterogeneous ++
      (first ++ second)).map Case.caseId).Nodup := by
  rw [← List.append_assoc]
  refine ids_nodup_append (ids_nodup_append (ids_nodup_append
    (ids_nodup_append hSmoke.ids_nodup hScaling ?_)
      hHeterogeneous ?_) hFirst ?_) hSecond ?_
  · exact hSmoke.mark_ne (by decide)
  · rw [List.forall_mem_append]
    exact ⟨hSmoke.mark_ne (by decide),
      hScaling.mark_ne (by decide)⟩
  · simp only [List.forall_mem_append]
    exact ⟨⟨hSmoke.mark_ne (by decide),
      hScaling.mark_ne (by decide)⟩,
      hHeterogeneous.mark_ne (by decide)⟩
  · simp only [List.forall_mem_append]
    exact ⟨⟨⟨hSmoke.mark_ne (by decide),
      hScaling.mark_ne (by decide)⟩,
      hHeterogeneous.mark_ne (by decide)⟩,
      hFirst.mark_ne (by decide)⟩

end Plans

/-
  Two cases have other cameras or ask other things of them,
  and they have other ids.
-/
def Distinct (cases : List Case) : Prop :=
  cases.Pairwise (fun left right =>
    ¬((∀ serial, serial ∈ left.probe.serials ↔
        serial ∈ right.probe.serials) ∧
      left.probe.profile = right.probe.profile) ∧
    left.caseId ≠ right.caseId)

theorem sortTexts_eq_of_perm
    {left right : List String}
    (hPerm : left.Perm right) :
    sortTexts left = sortTexts right := by
  have hSorted :
      ∀ texts : List String,
        (sortTexts texts).Pairwise (· ≤ ·) :=
    fun texts => List.pairwise_insertionSort _ texts
  exact List.Perm.eq_of_pairwise
    (fun _ _ _ _ hLess hGreater => le_antisymm hLess hGreater)
    (hSorted left) (hSorted right)
    ((sortTexts_perm left).trans
      (hPerm.trans (sortTexts_perm right).symm))

theorem signature_eq_of_serials
    {left right : Case}
    (hLeft : left.probe.serials.Nodup)
    (hRight : right.probe.serials.Nodup)
    (hSerials :
      ∀ serial, serial ∈ left.probe.serials ↔
        serial ∈ right.probe.serials)
    (hProfile : left.probe.profile = right.probe.profile) :
    left.signature = right.signature := by
  have hPerm :
      left.probe.serials.Perm right.probe.serials :=
    (List.perm_ext_iff_of_nodup hLeft hRight).mpr hSerials
  rw [Case.signature, Case.signature, hProfile,
    sortTexts_eq_of_perm hPerm]

/- The plan of every suite. -/
theorem planCases_distinct
    {maps : CaseMaps}
    {layout : Layout}
    (hValid : layout.Valid)
    (hNamed : Named maps layout.cameras)
    {suite : Suite}
    {durationSeconds : Int}
    {cases : List Case}
    (hPlan :
      planCases maps layout suite durationSeconds =
        .ok cases) :
    Distinct cases := by
  rcases planCases_ok hValid hNamed hPlan with
    ⟨smoke, scaling, heterogeneous, first, second, hSmoke,
      hScaling, hHeterogeneous, hFirst, hSecond, rfl⟩
  have hIds :=
    (caseIds_nodup hSmoke hScaling hHeterogeneous hFirst
      hSecond).sublist
      ((keepFirst_sublist Case.signature [] _).map Case.caseId)
  have hSignatures :=
    nodup_keepFirst Case.signature []
      (smoke ++ scaling ++ heterogeneous ++ (first ++ second))
  have hSerials :
      ∀ case ∈ keepFirst Case.signature []
          (smoke ++ scaling ++ heterogeneous ++
            (first ++ second)),
        case.probe.serials.Nodup := by
    intro case hCase
    have hMem := (keepFirst_sublist _ _ _).subset hCase
    simp only [List.mem_append] at hMem
    rcases hMem with ((hMem | hMem) | hMem) | hMem | hMem
    · exact hSmoke.serials_nodup case hMem
    · exact hScaling.serials_nodup case hMem
    · exact hHeterogeneous.serials_nodup case hMem
    · exact hFirst.serials_nodup case hMem
    · exact hSecond.serials_nodup case hMem
  rw [List.Nodup, List.pairwise_map] at hIds hSignatures
  refine (hSignatures.and hIds).imp_of_mem ?_
  intro left right hLeft hRight hBoth
  refine ⟨?_, hBoth.2⟩
  rintro ⟨hSame, hProfile⟩
  exact hBoth.1 (signature_eq_of_serials (hSerials left hLeft)
    (hSerials right hRight) hSame hProfile)

end MultiCamera

end RsCamera
