import RsCamera.MultiCamera.Plan

/-
  The sets of cameras of the heterogeneous suite.

  Two sets never have the same models, so none of them is
  left out.  Pairs and the triple have different models; the
  four cameras are the first four of all hubs, whatever
  their models are.

  Key theorems include:
    * `chooseModels_spec`, `chooseModels_isSome`
    * `selectedSets_cases`
    * `selectedSets_apart`
    * `exists_pair`
-/

------------------------------------------------------------
-- Choosing By Model
------------------------------------------------------------

namespace RsCamera

namespace MultiCamera

section Choosing

variable {maps : CaseMaps}
variable {cameras : List Camera}

theorem chooseModel_spec
    {selected next : List Camera}
    {model : String}
    (hChoose :
      chooseModel maps cameras selected model = some next) :
    ∃ choice,
      choice ∈ cameras ∧ choice ∉ selected ∧
        maps.modelOf choice = maps.upper model ∧
        next = selected ++ [choice] := by
  unfold chooseModel at hChoose
  simp only at hChoose
  split at hChoose
  · cases hChoose
  next choice rest hSorted =>
    cases hChoose
    have hMem :
        choice ∈
          cameras.filter (fun camera =>
            maps.upper camera.model = maps.upper model ∧
              camera ∉ selected) := by
      have hFirst : choice ∈ choice :: rest :=
        List.mem_cons_self
      rw [← hSorted] at hFirst
      exact (List.mem_insertionSort _).mp hFirst
    rw [List.mem_filter, decide_eq_true_iff] at hMem
    exact ⟨choice, hMem.1, hMem.2.2, hMem.2.1, rfl⟩

variable {selected : List Camera}
variable {models : List String}

/- A camera of the model is found if one is left. -/
theorem chooseModel_isSome
    {model : String}
    {camera : Camera}
    (hMem : camera ∈ cameras)
    (hLeft : camera ∉ selected)
    (hModel : maps.modelOf camera = maps.upper model) :
    ∃ next, chooseModel maps cameras selected model = some next := by
  unfold chooseModel
  simp only
  split
  next hSorted =>
    have hCandidate :
        camera ∈
          cameras.filter (fun camera =>
            maps.upper camera.model = maps.upper model ∧
              camera ∉ selected) := by
      rw [List.mem_filter, decide_eq_true_iff]
      exact ⟨hMem, hModel, hLeft⟩
    have hLength := congrArg List.length hSorted
    rw [List.length_insertionSort, List.length_nil,
      List.length_eq_zero_iff] at hLength
    rw [hLength] at hCandidate
    simp at hCandidate
  next choice rest hSorted => exact ⟨_, rfl⟩

theorem chooseModels_from
    {selected result : List Camera}
    (hChoose :
      models.foldlM (chooseModel maps cameras) selected =
        some result) :
    ∃ added,
      result = selected ++ added ∧
        added.map maps.modelOf = models.map maps.upper ∧
        (∀ camera ∈ added, camera ∈ cameras) ∧
        (selected.Nodup → result.Nodup) := by
  induction models generalizing selected with
  | nil =>
      cases hChoose
      exact ⟨[], by simp⟩
  | cons model models ih =>
      rw [List.foldlM_cons] at hChoose
      rcases Option.bind_eq_some_iff.mp hChoose with
        ⟨next, hNext, hRest⟩
      rcases chooseModel_spec hNext with
        ⟨choice, hMem, hNew, hModel, rfl⟩
      rcases ih hRest with ⟨added, rfl, hModels, hAdded, hNodup⟩
      refine ⟨choice :: added, by simp, by simp [hModel, hModels],
        ?_, ?_⟩
      · intro camera hCamera
        rcases List.mem_cons.mp hCamera with rfl | hOld
        · exact hMem
        · exact hAdded camera hOld
      · intro hSelected
        apply hNodup
        rw [List.nodup_append]
        refine ⟨hSelected, List.nodup_singleton _, ?_⟩
        intro camera hCamera other hOther hSame
        rw [List.mem_singleton] at hOther
        subst hOther
        subst hSame
        exact hNew hCamera

theorem chooseModels_spec
    (hChoose :
      chooseModels maps cameras models = some selected) :
    selected.map maps.modelOf = models.map maps.upper ∧
      (∀ camera ∈ selected, camera ∈ cameras) ∧
      selected.Nodup := by
  rcases chooseModels_from hChoose with
    ⟨added, hResult, hModels, hAdded, hNodup⟩
  rw [List.nil_append] at hResult
  subst hResult
  exact ⟨hModels, hAdded, hNodup List.nodup_nil⟩

theorem length_of_chooseModels
    (hChoose :
      chooseModels maps cameras models = some selected) :
    selected.length = models.length := by
  have hLength := congrArg List.length (chooseModels_spec hChoose).1
  simpa using hLength

theorem chooseModels_isSome_from
    (hPresent :
      ∀ model ∈ models,
        maps.upper model ∈ cameras.map maps.modelOf)
    (hNodup : (models.map maps.upper).Nodup)
    (hFresh :
      ∀ model ∈ models,
        maps.upper model ∉ selected.map maps.modelOf) :
    ∃ result,
      models.foldlM (chooseModel maps cameras) selected =
        some result := by
  induction models generalizing selected with
  | nil => exact ⟨selected, rfl⟩
  | cons model models ih =>
      rw [List.forall_mem_cons] at hPresent hFresh
      rw [List.map_cons, List.nodup_cons] at hNodup
      rcases List.mem_map.mp hPresent.1 with
        ⟨camera, hMem, hModel⟩
      have hLeft : camera ∉ selected := by
        intro hSelected
        apply hFresh.1
        rw [← hModel]
        exact List.mem_map_of_mem hSelected
      rcases chooseModel_isSome hMem hLeft hModel with
        ⟨next, hNext⟩
      rcases chooseModel_spec hNext with
        ⟨choice, -, -, hChoice, rfl⟩
      have hRest :
          ∀ other ∈ models,
            maps.upper other ∉
              (selected ++ [choice]).map maps.modelOf := by
        intro other hOther hUsed
        rw [List.map_append, List.mem_append] at hUsed
        rcases hUsed with hOld | hNew
        · exact hFresh.2 other hOther hOld
        · simp only [List.map_singleton,
            List.mem_singleton] at hNew
          apply hNodup.1
          rw [← hChoice, ← hNew]
          exact List.mem_map_of_mem hOther
      rcases ih hPresent.2 hNodup.2 hRest with ⟨result, hResult⟩
      refine ⟨result, ?_⟩
      rw [List.foldlM_cons, hNext]
      exact hResult

/- Different models that are in the layout can be chosen. -/
theorem chooseModels_isSome
    (hPresent :
      ∀ model ∈ models,
        maps.upper model ∈ cameras.map maps.modelOf)
    (hNodup : (models.map maps.upper).Nodup) :
    ∃ selected,
      chooseModels maps cameras models = some selected :=
  chooseModels_isSome_from hPresent hNodup (by simp)

end Choosing

------------------------------------------------------------
-- The Models Of A Layout
------------------------------------------------------------

section

open Choices

section Models

variable {maps : CaseMaps}
variable {cameras : List Camera}

theorem sortTexts_perm
    (texts : List String) :
    (sortTexts texts).Perm texts :=
  List.perm_insertionSort _ texts

theorem mem_layoutModels_iff
    {model : String} :
    model ∈ layoutModels maps cameras ↔
      ∃ camera ∈ cameras, maps.modelOf camera = model := by
  rw [layoutModels, (sortTexts_perm _).mem_iff,
    List.mem_dedup, List.mem_map]

theorem layoutModels_sorted :
    (layoutModels maps cameras).Pairwise (· < ·) := by
  have hSorted :
      (layoutModels maps cameras).Pairwise (· ≤ ·) :=
    List.pairwise_insertionSort _ _
  have hNodup : (layoutModels maps cameras).Nodup :=
    (sortTexts_perm _).nodup_iff.mpr (List.nodup_dedup _)
  exact (hSorted.and hNodup).imp
    (fun hBoth => lt_of_le_of_ne hBoth.1 hBoth.2)

theorem upper_of_mem_layoutModels
    {model : String}
    (hMem : model ∈ layoutModels maps cameras) :
    maps.upper model = model := by
  rcases mem_layoutModels_iff.mp hMem with ⟨camera, -, rfl⟩
  exact maps.upper_upper camera.model

theorem upper_mem_of_mem_layoutModels
    {model : String}
    (hMem : model ∈ layoutModels maps cameras) :
    maps.upper model ∈ cameras.map maps.modelOf := by
  rw [upper_of_mem_layoutModels hMem]
  rcases mem_layoutModels_iff.mp hMem with ⟨camera, hIn, rfl⟩
  exact List.mem_map_of_mem hIn

theorem lt_of_mem_pairsOf
    {pair : String × String}
    (hMem : pair ∈ pairsOf (layoutModels maps cameras)) :
    pair.1 < pair.2 :=
  layoutModels_sorted.forall_sublist (mem_pairsOf_iff.mp hMem)

theorem mem_of_mem_pairsOf
    {pair : String × String}
    (hMem : pair ∈ pairsOf (layoutModels maps cameras)) :
    pair.1 ∈ layoutModels maps cameras ∧
      pair.2 ∈ layoutModels maps cameras := by
  have hSublist := mem_pairsOf_iff.mp hMem
  exact ⟨hSublist.subset (by simp), hSublist.subset (by simp)⟩

/- The set of a pair has a camera of each model. -/
theorem choose_pair
    {pair : String × String}
    (hMem : pair ∈ pairsOf (layoutModels maps cameras)) :
    ∃ selected,
      chooseModels maps cameras [pair.1, pair.2] =
          some selected ∧
        selected.map maps.modelOf = [pair.1, pair.2] := by
  rcases mem_of_mem_pairsOf hMem with ⟨hLeft, hRight⟩
  have hUpper :
      [pair.1, pair.2].map maps.upper = [pair.1, pair.2] := by
    simp [upper_of_mem_layoutModels hLeft,
      upper_of_mem_layoutModels hRight]
  have hPresent :
      ∀ model ∈ [pair.1, pair.2],
        maps.upper model ∈ cameras.map maps.modelOf := by
    intro model hModel
    simp only [List.mem_cons, List.not_mem_nil,
      or_false] at hModel
    rcases hModel with rfl | rfl
    · exact upper_mem_of_mem_layoutModels hLeft
    · exact upper_mem_of_mem_layoutModels hRight
  have hNodup : ([pair.1, pair.2].map maps.upper).Nodup := by
    rw [hUpper]
    simpa using (lt_of_mem_pairsOf hMem).ne
  rcases chooseModels_isSome hPresent hNodup with
    ⟨selected, hSelected⟩
  refine ⟨selected, hSelected, ?_⟩
  rw [(chooseModels_spec hSelected).1, hUpper]

theorem upper_triple :
    ["D455", "D435", "D415"].map maps.upper =
      ["D455", "D435", "D415"] := by
  have hAscii :
      ∀ text ∈ ["D455", "D435", "D415"],
        maps.upper text = text := by
    intro text hText
    simp only [List.mem_cons, List.not_mem_nil,
      or_false] at hText
    rcases hText with rfl | rfl | rfl
    · rw [maps.upper_ascii _ (ascii_of_all (by decide))]
      decide
    · rw [maps.upper_ascii _ (ascii_of_all (by decide))]
      decide
    · rw [maps.upper_ascii _ (ascii_of_all (by decide))]
      decide
  exact (List.map_congr_left hAscii).trans (List.map_id' _)

end Models

end

------------------------------------------------------------
-- The Sets
------------------------------------------------------------

open Choices

section Sets

variable {maps : CaseMaps}
variable {cameras : List Camera}

/- A pair, the triple, or the first four of all hubs. -/
theorem selectedSets_cases
    {selected : List Camera}
    (hMem : selected ∈ selectedSets maps cameras) :
    (∃ pair ∈ pairsOf (layoutModels maps cameras),
      chooseModels maps cameras [pair.1, pair.2] =
          some selected ∧
        selected.map maps.modelOf = [pair.1, pair.2]) ∨
    (chooseModels maps cameras ["D455", "D435", "D415"] =
        some selected ∧
      selected.map maps.modelOf = ["D455", "D435", "D415"]) ∨
    (4 ≤ cameras.length ∧
      2 ≤ (layoutModels maps cameras).length ∧
      selected = (spread cameras).take 4) := by
  simp only [selectedSets, List.mem_append] at hMem
  rcases hMem with (hPair | hTriple) | hFour
  · rcases List.mem_filterMap.mp hPair with
      ⟨pair, hIn, hChosen⟩
    refine Or.inl ⟨pair, hIn, hChosen, ?_⟩
    rcases choose_pair hIn with ⟨other, hOther, hModels⟩
    rw [hChosen] at hOther
    cases hOther
    exact hModels
  · split at hTriple
    · rw [Option.mem_toList] at hTriple
      refine Or.inr (Or.inl ⟨hTriple, ?_⟩)
      rw [(chooseModels_spec hTriple).1, upper_triple]
    · simp at hTriple
  · split at hFour
    next hEnough =>
      rw [List.mem_singleton] at hFour
      exact Or.inr (Or.inr ⟨hEnough.1, hEnough.2, hFour⟩)
    · simp at hFour

theorem length_take_spread
    (hFour : 4 ≤ cameras.length) :
    ((spread cameras).take 4).length = 4 := by
  rw [List.length_take, (spread_perm cameras).length_eq]
  omega

theorem selectedSets_subset
    {selected : List Camera}
    (hMem : selected ∈ selectedSets maps cameras) :
    ∀ camera ∈ selected, camera ∈ cameras := by
  rcases selectedSets_cases hMem with
    ⟨pair, -, hChosen, -⟩ | ⟨hChosen, -⟩ | ⟨-, -, rfl⟩
  · exact (chooseModels_spec hChosen).2.1
  · exact (chooseModels_spec hChosen).2.1
  · intro camera hCamera
    exact (spread_perm cameras).subset
      (List.mem_of_mem_take hCamera)

theorem selectedSets_nodup
    (hCameras : cameras.Nodup)
    {selected : List Camera}
    (hMem : selected ∈ selectedSets maps cameras) :
    selected.Nodup := by
  rcases selectedSets_cases hMem with
    ⟨pair, -, hChosen, -⟩ | ⟨hChosen, -⟩ | ⟨-, -, rfl⟩
  · exact (chooseModels_spec hChosen).2.2
  · exact (chooseModels_spec hChosen).2.2
  · have hSpread := (spread_perm cameras).nodup_iff.mpr hCameras
    exact hSpread.sublist (List.take_sublist 4 _)

/- Two pairs in their order, with the same two models. -/
theorem pair_eq_of_perm
    {left right : String × String}
    (hLeft : left.1 < left.2)
    (hRight : right.1 < right.2)
    (hPerm :
      [left.1, left.2].Perm [right.1, right.2]) :
    left = right := by
  have hFirst : left.1 ∈ [right.1, right.2] :=
    hPerm.subset (by simp)
  have hSecond : left.2 ∈ [right.1, right.2] :=
    hPerm.subset (by simp)
  simp only [List.mem_cons, List.not_mem_nil, or_false]
    at hFirst hSecond
  rcases hFirst with hFirst | hFirst
  · rcases hSecond with hSecond | hSecond
    · rw [hFirst, hSecond] at hLeft
      exact absurd hLeft (lt_irrefl _)
    · exact Prod.ext hFirst hSecond
  · rcases hSecond with hSecond | hSecond
    · rw [hFirst, hSecond] at hLeft
      exact absurd hLeft (lt_asymm hRight)
    · rw [hFirst, hSecond] at hLeft
      exact absurd hLeft (lt_irrefl _)

/- Sets of different sizes have different models. -/
theorem not_perm_of_length
    {left right : List Camera}
    (hNe : left.length ≠ right.length) :
    ¬(left.map maps.modelOf).Perm (right.map maps.modelOf) := by
  intro hPerm
  apply hNe
  simpa using hPerm.length_eq

theorem pairSets_apart :
    ((pairsOf (layoutModels maps cameras)).filterMap
      (fun pair =>
        chooseModels maps cameras [pair.1, pair.2])).Pairwise
      (fun left right =>
        ¬(left.map maps.modelOf).Perm
          (right.map maps.modelOf)) := by
  rw [List.pairwise_filterMap]
  have hNodup : (layoutModels maps cameras).Nodup :=
    layoutModels_sorted.imp ne_of_lt
  refine (nodup_pairsOf hNodup).imp_of_mem ?_
  intro first second hFirst hSecond hNe left hLeft right
    hRight hPerm
  rcases choose_pair hFirst with ⟨left', hLeft', hModels⟩
  rcases choose_pair hSecond with ⟨right', hRight', hModels'⟩
  rw [hLeft] at hLeft'
  rw [hRight] at hRight'
  cases hLeft'
  cases hRight'
  rw [hModels, hModels'] at hPerm
  exact hNe (pair_eq_of_perm (lt_of_mem_pairsOf hFirst)
    (lt_of_mem_pairsOf hSecond) hPerm)

/- No two sets have the same models. -/
theorem selectedSets_apart :
    (selectedSets maps cameras).Pairwise (fun left right =>
      ¬(left.map maps.modelOf).Perm
        (right.map maps.modelOf)) := by
  unfold selectedSets
  simp only
  rw [List.pairwise_append, List.pairwise_append]
  -- Sets of different kinds differ in their sizes.
  refine ⟨⟨pairSets_apart, ?triple, ?pairs⟩, ?four, ?rest⟩
  case triple =>
    split
    · cases chooseModels maps cameras ["D455", "D435", "D415"]
        with
      | none => simp
      | some selected => simp
    · simp
  case four => split <;> simp
  case pairs =>
    intro left hLeft right hRight
    rw [List.mem_filterMap] at hLeft
    rcases hLeft with ⟨pair, -, hChosen⟩
    split at hRight
    · rw [Option.mem_toList] at hRight
      apply not_perm_of_length
      rw [length_of_chooseModels hChosen,
        length_of_chooseModels hRight]
      simp
    · simp at hRight
  case rest =>
    intro left hLeft right hRight
    split at hRight
    next hEnough =>
      rw [List.mem_singleton] at hRight
      subst hRight
      apply not_perm_of_length
      rw [length_take_spread hEnough.1]
      rw [List.mem_append, List.mem_filterMap] at hLeft
      rcases hLeft with ⟨pair, -, hChosen⟩ | hTriple
      · rw [length_of_chooseModels hChosen]
        simp
      · split at hTriple
        · rw [Option.mem_toList] at hTriple
          rw [length_of_chooseModels hTriple]
          simp
        · simp at hTriple
    · simp at hRight

/- Different models of the layout are together in a set. -/
theorem exists_pair
    {left right : String}
    (hLeft : left ∈ layoutModels maps cameras)
    (hRight : right ∈ layoutModels maps cameras)
    (hNe : left ≠ right) :
    ∃ selected ∈ selectedSets maps cameras,
      left ∈ selected.map maps.modelOf ∧
        right ∈ selected.map maps.modelOf := by
  have hFound :
      ∀ pair ∈ pairsOf (layoutModels maps cameras),
        ∃ selected ∈ selectedSets maps cameras,
          selected.map maps.modelOf = [pair.1, pair.2] := by
    intro pair hPair
    rcases choose_pair hPair with ⟨selected, hChosen, hModels⟩
    refine ⟨selected, ?_, hModels⟩
    simp only [selectedSets, List.mem_append]
    exact Or.inl (Or.inl
      (List.mem_filterMap.mpr ⟨pair, hPair, hChosen⟩))
  rcases mem_pairsOf_or hLeft hRight hNe with hPair | hPair
  · rcases hFound _ hPair with ⟨selected, hMem, hModels⟩
    exact ⟨selected, hMem, by simp [hModels], by simp [hModels]⟩
  · rcases hFound _ hPair with ⟨selected, hMem, hModels⟩
    exact ⟨selected, hMem, by simp [hModels], by simp [hModels]⟩

end Sets

end MultiCamera

end RsCamera
