import RsCamera.Reproduction.Refresh

/-
  What a killed refresh leaves behind, and when the next one
  recovers from it.

  The files of a campaign are those of three configurations:
  that of the camera file, that of the manifest and that of
  the adapters.  A killed refresh replaces some of the three,
  in the reverse of this order.

  Key definitions include:
    * `Numberings`, `Setup.filesOf`
    * `Tears`, `Recovers`

  Key theorems include:
    * `killedRefresh_filesOf`
    * `refresh_consistent_iff`
    * `refresh_recovers_iff`
-/

------------------------------------------------------------
-- Three Configurations
------------------------------------------------------------

namespace RsCamera

namespace Reproduction

section

/- The configurations that the files of a campaign hold. -/
structure Numberings where
  camera : CameraConfig
  prepared : CameraConfig
  adapters : CameraConfig

variable (setup : Setup)

/- The manifest of a configuration whose adapters stand. -/
def Setup.record
    (protocol : Protocol)
    (cfg : CameraConfig) : Prepared :=
  setup.manifest protocol cfg (fun adapter =>
    some (setup.adapterText protocol cfg adapter))

def Setup.filesOf
    (protocol : Protocol)
    (numberings : Numberings) : CampaignFiles where
  cameraConfig := numberings.camera
  prepared := some (setup.record protocol numberings.prepared)
  adapters adapter :=
    some
      (setup.adapterText protocol numberings.adapters adapter)

/- The adapter of E3 comes after this many others. -/
def e3Position : Nat :=
  adapterOrder.idxOf .e3One

/- The manifest comes after all adapters. -/
def manifestPosition : Nat :=
  adapterOrder.length

/- The configurations after some writes of a refresh. -/
def Numberings.after
    (numberings : Numberings)
    (cfg : CameraConfig)
    (written : Nat) : Numberings where
  camera :=
    if manifestPosition + 1 < written then
      cfg
    else
      numberings.camera
  prepared :=
    if manifestPosition < written then
      cfg
    else
      numberings.prepared
  adapters :=
    if e3Position < written then
      cfg
    else
      numberings.adapters

theorem mem_take_e3One
    (written : Nat) :
    .e3One ∈ adapterOrder.take written ↔
      e3Position < written :=
  List.mem_take_iff_idxOf_lt (by decide)

/- The other adapters do not know the interrupts. -/
theorem adapterText_eq
    {protocol : Protocol}
    {left right : CameraConfig}
    {adapter : Adapter}
    (hIdentity : cameraIdentity left = cameraIdentity right)
    (hOther : adapter ≠ .e3One) :
    setup.adapterText protocol left adapter =
      setup.adapterText protocol right adapter := by
  cases adapter with
  | e3One => exact absurd rfl hOther
  | _ => simp only [Setup.adapterText, hIdentity]

/- Writing adapters, one after another. -/
theorem writes_adapters
    (protocol : Protocol)
    (cfg : CameraConfig)
    (files : CampaignFiles)
    (list : List Adapter) :
    setup.writes protocol cfg files (list.map .adapter) =
      { files with
        adapters := fun adapter =>
          if adapter ∈ list then
            some (setup.adapterText protocol cfg adapter)
          else
            files.adapters adapter } := by
  induction list generalizing files with
  | nil => simp [Setup.writes]
  | cons first list ih =>
      have hRest :=
        ih (setup.write protocol cfg files (.adapter first))
      unfold Setup.writes at hRest ⊢
      rw [List.map_cons, List.foldl_cons, hRest]
      simp only [Setup.write]
      congr 1
      funext adapter
      by_cases hFirst : adapter = first
      · subst hFirst
        simp
      · simp [hFirst]

theorem writes_append
    (protocol : Protocol)
    (cfg : CameraConfig)
    (files : CampaignFiles)
    (left right : List FileWrite) :
    setup.writes protocol cfg files (left ++ right) =
      setup.writes protocol cfg
        (setup.writes protocol cfg files left) right := by
  unfold Setup.writes
  rw [List.foldl_append]

/- The writes of a refresh, in order. -/
def refreshOrder : List FileWrite :=
  adapterOrder.map .adapter ++ [.manifest] ++ [.cameraConfig]

/- The first writes of a refresh reach the adapters only. -/
theorem writes_filesOf_adapters
    {protocol : Protocol}
    {numberings : Numberings}
    {cfg : CameraConfig}
    (hIdentity :
      cameraIdentity cfg = cameraIdentity numberings.adapters)
    (written : Nat) :
    setup.writes protocol cfg
        (setup.filesOf protocol numberings)
        ((adapterOrder.take written).map .adapter) =
      setup.filesOf protocol
        { numberings with
          adapters :=
            if e3Position < written then
              cfg
            else
              numberings.adapters } := by
  rw [writes_adapters]
  unfold Setup.filesOf
  congr 1
  funext adapter
  simp only
  by_cases hE3 : adapter = .e3One
  · subst hE3
    simp only [mem_take_e3One]
    split <;> rfl
  · have hSame :
        setup.adapterText protocol cfg adapter =
          setup.adapterText protocol numberings.adapters
            adapter :=
      adapterText_eq setup hIdentity hE3
    rw [hSame, ite_self]
    split
    · rw [hSame]
    · rfl

theorem writes_filesOf
    {protocol : Protocol}
    {numberings : Numberings}
    {cfg : CameraConfig}
    (hIdentity :
      cameraIdentity cfg = cameraIdentity numberings.adapters)
    (written : Nat) :
    setup.writes protocol cfg
        (setup.filesOf protocol numberings)
        (refreshOrder.take written) =
      setup.filesOf protocol
        (numberings.after cfg written) := by
  have hE3 : e3Position < manifestPosition := by decide
  have hLength :
      (adapterOrder.map FileWrite.adapter).length =
        manifestPosition := List.length_map _
  have hBoth :
      (adapterOrder.map FileWrite.adapter ++
        [FileWrite.manifest]).length =
          manifestPosition + 1 := by
    rw [List.length_append, hLength]
    rfl
  unfold refreshOrder
  rw [List.take_append, List.take_append, hBoth, hLength,
    ← List.map_take, writes_append, writes_append,
    writes_filesOf_adapters setup hIdentity]
  rcases Nat.lt_or_ge manifestPosition written with
    hManifest | hManifest
  · have hTaken : written - manifestPosition ≠ 0 := by omega
    have hReached : e3Position < written := by omega
    have hOne :
        [FileWrite.manifest].take
            (written - manifestPosition) = [.manifest] :=
      List.take_of_length_le (by simp; omega)
    rw [hOne]
    rcases Nat.lt_or_ge (manifestPosition + 1) written with
      hCamera | hCamera
    · have hTwo :
          [FileWrite.cameraConfig].take
              (written - (manifestPosition + 1)) =
            [.cameraConfig] :=
        List.take_of_length_le (by simp; omega)
      rw [hTwo]
      simp [Setup.writes, Setup.write, Setup.filesOf,
        Setup.record, Numberings.after, hManifest, hReached,
        hCamera]
    · have hTwo :
          [FileWrite.cameraConfig].take
              (written - (manifestPosition + 1)) = [] := by
        rw [Nat.sub_eq_zero_of_le hCamera, List.take_zero]
      rw [hTwo]
      simp [Setup.writes, Setup.write, Setup.filesOf,
        Setup.record, Numberings.after, hManifest, hReached,
        Nat.not_lt.mpr hCamera]
  · have hOne :
        [FileWrite.manifest].take
            (written - manifestPosition) = [] := by
      rw [Nat.sub_eq_zero_of_le hManifest, List.take_zero]
    have hTwo :
        [FileWrite.cameraConfig].take
            (written - (manifestPosition + 1)) = [] := by
      rw [Nat.sub_eq_zero_of_le (by omega), List.take_zero]
    have hCamera : ¬ manifestPosition + 1 < written := by omega
    rw [hOne, hTwo]
    simp [Setup.writes, Numberings.after,
      Nat.not_lt.mpr hManifest, hCamera]

/- A new campaign has one configuration throughout. -/
theorem preparedFiles_eq
    (protocol : Protocol)
    (cfg : CameraConfig) :
    setup.preparedFiles protocol cfg =
      setup.filesOf protocol ⟨cfg, cfg, cfg⟩ := by
  unfold Setup.preparedFiles
  rw [writes_append, writes_adapters]
  have hAll : ∀ adapter : Adapter, adapter ∈ adapterOrder := by
    intro adapter
    cases adapter <;> decide
  simp [Setup.writes, Setup.write, Setup.filesOf, Setup.record,
    hAll]

end

------------------------------------------------------------
-- One Refresh
------------------------------------------------------------

section

variable {setup : Setup}
variable {protocol : Protocol}

/- A configuration is read as it stands, or refused. -/
theorem loadConfig_eq_ok
    {cfg loaded : CameraConfig}
    (hLoads : loadConfig cfg = .ok loaded) :
    loaded = cfg := by
  unfold loadConfig at hLoads
  rcases bind_eq_ok.mp hLoads with ⟨_, _, hLoads⟩
  rcases bind_eq_ok.mp hLoads with ⟨_, _, hLoads⟩
  rcases bind_eq_ok.mp hLoads with ⟨_, _, hLoads⟩
  rcases bind_eq_ok.mp hLoads with ⟨_, _, hLoads⟩
  rcases bind_eq_ok.mp hLoads with ⟨_, _, hLoads⟩
  rcases bind_eq_ok.mp hLoads with ⟨_, _, hLoads⟩
  rcases bind_eq_ok.mp hLoads with ⟨_, _, hLoads⟩
  exact (Except.ok.inj hLoads).symm

/- The same cameras, possibly with other interrupts. -/
structure SameCameras (cfg other : CameraConfig) : Prop where
  loads : loadConfig other = .ok other
  identity : cameraIdentity other = cameraIdentity cfg

/- Three configurations of the same cameras. -/
structure Related
    (cfg : CameraConfig)
    (numberings : Numberings) : Prop where
  camera : SameCameras cfg numberings.camera
  prepared : SameCameras cfg numberings.prepared
  adapters : SameCameras cfg numberings.adapters

variable {numberings : Numberings}
variable {cfg : CameraConfig}
variable {attempt : Attempt}

theorem Related.after
    {cfg other : CameraConfig}
    (hRelated : Related cfg numberings)
    (hOther : SameCameras cfg other)
    (written : Nat) :
    Related cfg (numberings.after other written) where
  camera := by
    change SameCameras cfg (if _ then _ else _)
    split
    · exact hOther
    · exact hRelated.camera
  prepared := by
    change SameCameras cfg (if _ then _ else _)
    split
    · exact hOther
    · exact hRelated.prepared
  adapters := by
    change SameCameras cfg (if _ then _ else _)
    split
    · exact hOther
    · exact hRelated.adapters

/- The E3 adapter is the one that the manifest records. -/
def Recorded
    (setup : Setup)
    (protocol : Protocol)
    (numberings : Numberings) : Prop :=
  setup.digest
      (setup.adapterText protocol numberings.adapters .e3One) =
    setup.digest
      (setup.adapterText protocol numberings.prepared .e3One)

theorem mem_record_entrypoints
    {entry : Adapter × String} :
    entry ∈ (setup.record protocol cfg).entrypoints ↔
      entry.2 =
        setup.digest
          (setup.adapterText protocol cfg entry.1) := by
  have hAll : entry.1 ∈ sortedAdapters := by
    unfold sortedAdapters
    rw [List.mem_insertionSort]
    cases entry.1 <;> decide
  simp only [Setup.record, Setup.manifest, Option.map_some,
    List.mem_filterMap, Option.some.injEq]
  constructor
  · intro hIn
    rcases hIn with ⟨adapter, -, hEntry⟩
    rw [← hEntry]
  · intro hDigest
    exact ⟨entry.1, hAll, Prod.ext rfl hDigest.symm⟩

/- What the manifest records against what stands. -/
theorem digests_iff_recorded
    (hRelated : Related cfg numberings) :
    (∀ entry ∈
        (setup.record protocol numberings.prepared).entrypoints,
      setup.digest
          (setup.adapterText protocol numberings.adapters
            entry.1) = entry.2) ↔
      Recorded setup protocol numberings := by
  constructor
  · intro hAll
    exact hAll (.e3One, _) (mem_record_entrypoints.mpr rfl)
  · intro hRecorded entry hEntry
    rw [mem_record_entrypoints.mp hEntry]
    by_cases hE3 : entry.1 = .e3One
    · rw [hE3]
      exact hRecorded
    · have hIdentity :
          cameraIdentity numberings.adapters =
            cameraIdentity numberings.prepared :=
        hRelated.adapters.identity.trans
          hRelated.prepared.identity.symm
      rw [adapterText_eq setup hIdentity hE3]

theorem checkEntrypoints_iff
    (hRelated : Related cfg numberings) :
    (setup.record protocol numberings.prepared).entrypoints.forM
        (setup.checkEntrypoint
          (setup.filesOf protocol numberings)) = .ok () ↔
      Recorded setup protocol numberings := by
  rw [forM_eq_ok_iff, ← digests_iff_recorded hRelated]
  simp only [Setup.checkEntrypoint, Setup.filesOf,
    checkThat_eq_ok, decide_eq_true_eq]

/- The plan of a refresh on the same cameras. -/
theorem refreshWrites_filesOf
    {cfg discovered : CameraConfig}
    (hRelated : Related cfg numberings)
    (hSame : SameCameras cfg discovered)
    (hRecorded : Recorded setup protocol numberings) :
    setup.refreshWrites (setup.filesOf protocol numberings)
        discovered =
      .ok
        (protocol, discovered,
          if numberings.camera = discovered then
            []
          else
            refreshOrder) := by
  have hIdentity :
      cameraIdentity numberings.camera =
        cameraIdentity discovered :=
    hRelated.camera.identity.trans hSame.identity.symm
  have hPrior :
      cameraIdentity numberings.prepared =
        cameraIdentity discovered :=
    hRelated.prepared.identity.trans hSame.identity.symm
  refine bind_eq_ok.mpr
    ⟨numberings.camera, hRelated.camera.loads, ?_⟩
  refine bind_eq_ok.mpr ⟨discovered, hSame.loads, ?_⟩
  refine bind_eq_ok.mpr
    ⟨(), checkThat_eq_ok.mpr (by simpa using hIdentity), ?_⟩
  refine bind_eq_ok.mpr
    ⟨(), (checkEntrypoints_iff hRelated).mpr hRecorded, ?_⟩
  by_cases hCamera : numberings.camera = discovered
  · rw [if_pos hCamera, if_pos hCamera]
    rfl
  · rw [if_neg hCamera, if_neg hCamera]
    refine bind_eq_ok.mpr
      ⟨adapterOrder.map .adapter ++ [.manifest], ?_, rfl⟩
    refine bind_eq_ok.mpr ⟨(), ?_, rfl⟩
    refine bind_eq_ok.mpr
      ⟨(), checkThat_eq_ok.mpr (by simp [Setup.record]), ?_⟩
    refine checkThat_eq_ok.mpr ?_
    simp [Setup.record, Setup.manifest, hPrior]

/- A refresh that plans its writes has passed the checks. -/
theorem refreshWrites_eq_ok
    {cfg discovered : CameraConfig}
    {planned : Protocol × CameraConfig × List FileWrite}
    (hRelated : Related cfg numberings)
    (hPlanned :
      setup.refreshWrites (setup.filesOf protocol numberings)
        discovered = .ok planned) :
    SameCameras cfg discovered ∧
      Recorded setup protocol numberings := by
  unfold Setup.refreshWrites at hPlanned
  rcases bind_eq_ok.mp hPlanned with ⟨old, hOld, hPlanned⟩
  rcases bind_eq_ok.mp hPlanned with ⟨new, hNew, hPlanned⟩
  rcases bind_eq_ok.mp hPlanned with
    ⟨_, hIdentity, hPlanned⟩
  rcases bind_eq_ok.mp hPlanned with ⟨_, hCheck, _⟩
  have hOldIs : old = numberings.camera := loadConfig_eq_ok hOld
  have hNewIs : new = discovered := loadConfig_eq_ok hNew
  subst hOldIs
  subst hNewIs
  rw [checkThat_eq_ok, decide_eq_true_eq] at hIdentity
  exact
    ⟨⟨hNew, hIdentity.symm.trans hRelated.camera.identity⟩,
      (checkEntrypoints_iff hRelated).mp hCheck⟩

/- The configurations after an accepted attempt. -/
def Numberings.attempted
    (numberings : Numberings)
    (attempt : Attempt) : Numberings :=
  if numberings.camera = attempt.discovered then
    numberings
  else
    numberings.after attempt.discovered attempt.written

theorem killedRefresh_filesOf
    (hRelated : Related cfg numberings)
    (hSame : SameCameras cfg attempt.discovered)
    (hRecorded : Recorded setup protocol numberings) :
    setup.killedRefresh (setup.filesOf protocol numberings)
        attempt.discovered attempt.written =
      setup.filesOf protocol (numberings.attempted attempt) := by
  unfold Setup.killedRefresh Numberings.attempted
  rw [refreshWrites_filesOf hRelated hSame hRecorded]
  by_cases hCamera : numberings.camera = attempt.discovered
  · simp only [if_pos hCamera, List.take_nil]
    rfl
  · simp only [if_neg hCamera]
    exact
      writes_filesOf setup
        (hSame.identity.trans hRelated.adapters.identity.symm)
        attempt.written

theorem Related.attempted
    (hRelated : Related cfg numberings)
    (hSame : SameCameras cfg attempt.discovered) :
    Related cfg (numberings.attempted attempt) := by
  unfold Numberings.attempted
  split
  · exact hRelated
  · exact hRelated.after hSame attempt.written

/- An attempt that is refused writes nothing. -/
theorem killedRefresh_refused
    (hRelated : Related cfg numberings)
    (hRefused : ¬ SameCameras cfg attempt.discovered) :
    setup.killedRefresh (setup.filesOf protocol numberings)
        attempt.discovered attempt.written =
      setup.filesOf protocol numberings := by
  unfold Setup.killedRefresh
  split
  · rfl
  next planned hPlanned =>
    exact absurd (refreshWrites_eq_ok hRelated hPlanned).1
      hRefused

theorem consistent_filesOf
    (hRelated : Related cfg numberings) :
    Consistent setup (setup.filesOf protocol numberings) ↔
      numberings.prepared = numberings.camera ∧
        Recorded setup protocol numberings := by
  constructor
  · intro hConsistent
    rcases hConsistent.prepared with
      ⟨manifest, hManifest, hLoads, hAll⟩
    cases hManifest
    refine ⟨loadConfig_eq_ok hLoads,
      (digests_iff_recorded hRelated).mp ?_⟩
    intro entry hEntry
    exact Option.some.inj (hAll entry hEntry)
  · intro hBoth
    rcases hBoth with ⟨hConfig, hRecorded⟩
    refine ⟨_, rfl, ?_, ?_⟩
    · change loadConfig numberings.camera = .ok numberings.prepared
      rw [hConfig]
      exact hRelated.camera.loads
    · intro entry hEntry
      exact congrArg some
        ((digests_iff_recorded hRelated).mpr hRecorded entry
          hEntry)

/- When a refresh that is not killed ends well. -/
theorem refresh_consistent_iff
    {cfg later : CameraConfig}
    (hRelated : Related cfg numberings)
    (hSame : SameCameras cfg later) :
    (∃ after,
      setup.refreshBootConfig
          (setup.filesOf protocol numberings) later =
        .ok after ∧ Consistent setup after) ↔
      Recorded setup protocol numberings ∧
        (later = numberings.camera →
          numberings.prepared = numberings.camera) := by
  have hEnd :
      Recorded setup protocol numberings →
        setup.refreshBootConfig
            (setup.filesOf protocol numberings) later =
          .ok
            (setup.filesOf protocol
              (if numberings.camera = later then
                numberings
              else
                ⟨later, later, later⟩)) := by
    intro hRecorded
    refine bind_eq_ok.mpr
      ⟨_, refreshWrites_filesOf hRelated hSame hRecorded, ?_⟩
    by_cases hCamera : numberings.camera = later
    · rw [if_pos hCamera, if_pos hCamera]
      rfl
    · rw [if_neg hCamera, if_neg hCamera]
      -- All writes are made.
      have hWrites :
          setup.writes protocol later
              (setup.filesOf protocol numberings)
              (refreshOrder.take refreshOrder.length) = _ :=
        writes_filesOf setup
          (hSame.identity.trans
            hRelated.adapters.identity.symm)
          refreshOrder.length
      rw [List.take_length] at hWrites
      exact congrArg Except.ok hWrites
  have hLater : Related cfg ⟨later, later, later⟩ :=
    ⟨hSame, hSame, hSame⟩
  constructor
  · intro hRefresh
    rcases hRefresh with ⟨after, hReturns, hConsistent⟩
    rcases bind_eq_ok.mp hReturns with ⟨planned, hPlanned, -⟩
    have hRecorded := (refreshWrites_eq_ok hRelated hPlanned).2
    refine ⟨hRecorded, ?_⟩
    intro hCamera
    rw [hEnd hRecorded, if_pos hCamera.symm] at hReturns
    cases hReturns
    exact ((consistent_filesOf hRelated).mp hConsistent).1
  · intro hBoth
    rcases hBoth with ⟨hRecorded, hCamera⟩
    refine ⟨_, hEnd hRecorded, ?_⟩
    split
    next hSameCamera =>
      exact (consistent_filesOf hRelated).mpr
        ⟨hCamera hSameCamera.symm, hRecorded⟩
    · exact (consistent_filesOf hLater).mpr ⟨rfl, rfl⟩

end

------------------------------------------------------------
-- Refreshes In Sequence
------------------------------------------------------------

variable (setup : Setup)

/- The configuration that the manifest records. -/
def CampaignFiles.preparedConfig
    (files : CampaignFiles) : Option CameraConfig :=
  files.prepared.map Prepared.config

/-
  A refresh with new interrupts is killed when it has written
  another adapter for E3, but not the manifest.
-/
def Tears (files : CampaignFiles) (attempt : Attempt) : Prop :=
  loadConfig attempt.discovered = .ok attempt.discovered ∧
  cameraIdentity attempt.discovered =
    cameraIdentity files.cameraConfig ∧
  attempt.discovered ≠ files.cameraConfig ∧
  e3Position < attempt.written ∧
  attempt.written ≤ manifestPosition ∧
  ∃ manifest, files.prepared = some manifest ∧
    setup.digest
        (setup.adapterText manifest.protocol attempt.discovered
          .e3One) ≠
      setup.digest
        (setup.adapterText manifest.protocol manifest.config
          .e3One)

/-
  The killed attempt has not torn the adapters from the
  manifest, and the later boot does not have the interrupts
  of a camera configuration that lags behind the manifest.
-/
def Recovers
    (files : CampaignFiles)
    (attempt : Attempt)
    (later : CameraConfig) : Prop :=
  ¬ Tears setup files attempt ∧
  (later = files.cameraConfig →
    (attempt.discovered ≠ files.cameraConfig ∧
      manifestPosition + 1 < attempt.written) ∨
    (files.preparedConfig = some files.cameraConfig ∧
      (attempt.discovered = files.cameraConfig ∨
        attempt.written ≠ manifestPosition + 1)))

variable {setup}
variable {protocol : Protocol}
variable {cfg : CameraConfig}
variable {numberings : Numberings}
variable {attempt : Attempt}

theorem tears_filesOf
    (hRelated : Related cfg numberings)
    (hSame : SameCameras cfg attempt.discovered) :
    Tears setup (setup.filesOf protocol numberings) attempt ↔
      attempt.discovered ≠ numberings.camera ∧
      e3Position < attempt.written ∧
      attempt.written ≤ manifestPosition ∧
      setup.digest
          (setup.adapterText protocol attempt.discovered
            .e3One) ≠
        setup.digest
          (setup.adapterText protocol numberings.prepared
            .e3One) := by
  constructor
  · intro hTears
    rcases hTears with
      ⟨-, -, hNew, hFrom, hTo, manifest, hManifest, hDigest⟩
    cases hManifest
    exact ⟨hNew, hFrom, hTo, hDigest⟩
  · intro hTears
    rcases hTears with ⟨hNew, hFrom, hTo, hDigest⟩
    exact ⟨hSame.loads,
      hSame.identity.trans hRelated.camera.identity.symm, hNew,
      hFrom, hTo, _, rfl, hDigest⟩

/- The adapters stay recorded unless the attempt tears. -/
theorem recorded_attempted_iff
    (hRelated : Related cfg numberings)
    (hSame : SameCameras cfg attempt.discovered)
    (hRecorded : Recorded setup protocol numberings) :
    Recorded setup protocol (numberings.attempted attempt) ↔
      ¬ Tears setup (setup.filesOf protocol numberings)
        attempt := by
  have hOrder : e3Position < manifestPosition := by decide
  rw [tears_filesOf hRelated hSame]
  unfold Numberings.attempted
  by_cases hCamera : numberings.camera = attempt.discovered
  · rw [if_pos hCamera]
    simp [hRecorded, hCamera]
  · rw [if_neg hCamera]
    unfold Recorded at hRecorded ⊢
    simp only [Numberings.after]
    rcases Nat.lt_or_ge manifestPosition attempt.written with
      hManifest | hManifest
    · have hE3 : e3Position < attempt.written := by omega
      simp [hManifest, hE3, Nat.not_le.mpr hManifest]
    · rcases Nat.lt_or_ge e3Position attempt.written with
        hE3 | hE3
      · simp [Nat.not_lt.mpr hManifest, hE3, hManifest,
          Ne.symm hCamera]
      · simp [Nat.not_lt.mpr hManifest, Nat.not_lt.mpr hE3,
          hRecorded]

/- What the second part of `Recovers` says after the attempt. -/
theorem lagging_attempted_iff
    (later : CameraConfig) :
    (later = (numberings.attempted attempt).camera →
      (numberings.attempted attempt).prepared =
        (numberings.attempted attempt).camera) ↔
    (later = numberings.camera →
      (attempt.discovered ≠ numberings.camera ∧
        manifestPosition + 1 < attempt.written) ∨
      (numberings.prepared = numberings.camera ∧
        (attempt.discovered = numberings.camera ∨
          attempt.written ≠ manifestPosition + 1))) := by
  unfold Numberings.attempted
  by_cases hCamera : numberings.camera = attempt.discovered
  · rw [if_pos hCamera]
    simp [hCamera]
  · rw [if_neg hCamera]
    simp only [Numberings.after]
    rcases Nat.lt_trichotomy attempt.written
        (manifestPosition + 1) with hLess | hAt | hMore
    · have hManifest : ¬ manifestPosition < attempt.written := by
        omega
      simp [hManifest, Nat.not_lt.mpr hLess.le, hLess.ne,
        Ne.symm hCamera]
    · simp [hAt, Ne.symm hCamera]
    · have hManifest : manifestPosition < attempt.written := by
        omega
      simp [hManifest, hMore, Ne.symm hCamera]

/- What the attempts so far have left. -/
def Kept
    (setup : Setup)
    (protocol : Protocol)
    (cfg : CameraConfig)
    (files : CampaignFiles) : Prop :=
  ∃ numberings,
    files = setup.filesOf protocol numberings ∧
      Related cfg numberings ∧
      Recorded setup protocol numberings

theorem step_kept
    {files after : CampaignFiles}
    (hKept : Kept setup protocol cfg files)
    (hWhole : ¬ Tears setup files attempt)
    (hStep : (refreshes setup).step files attempt = some after) :
    Kept setup protocol cfg after := by
  rcases hKept with ⟨numberings, hFiles, hRelated, hRecorded⟩
  subst hFiles
  cases hStep
  by_cases hSame : SameCameras cfg attempt.discovered
  · rw [killedRefresh_filesOf hRelated hSame hRecorded]
    exact ⟨_, rfl, hRelated.attempted hSame,
      (recorded_attempted_iff hRelated hSame hRecorded).mpr
        hWhole⟩
  · rw [killedRefresh_refused hRelated hSame]
    exact ⟨numberings, rfl, hRelated, hRecorded⟩

/-
  After any refreshes that did not tear the adapters from the
  manifest, and one more that is killed anywhere, the next
  refresh returns with files that agree exactly when the
  campaign recovers.
-/
theorem refresh_recovers_iff
    (setup : Setup)
    (protocol : Protocol)
    (cfg : CameraConfig)
    (hLoads : loadConfig cfg = .ok cfg)
    (attempts : List Attempt)
    (files : CampaignFiles)
    (hRun :
      (refreshes setup).run (setup.preparedFiles protocol cfg)
        attempts = some files)
    (hSteps :
      (refreshes setup).StepsSatisfy
        (fun before attempt => ¬ Tears setup before attempt)
        (setup.preparedFiles protocol cfg) attempts)
    (attempt : Attempt)
    (hAttempt : SameCameras cfg attempt.discovered)
    (later : CameraConfig)
    (hLater : SameCameras cfg later) :
    (∃ after,
      setup.refreshBootConfig
          (setup.killedRefresh files attempt.discovered
            attempt.written) later = .ok after ∧
        Consistent setup after) ↔
      Recovers setup files attempt later := by
  have hStart :
      Kept setup protocol cfg
        (setup.preparedFiles protocol cfg) :=
    ⟨_, preparedFiles_eq setup protocol cfg,
      ⟨⟨hLoads, rfl⟩, ⟨hLoads, rfl⟩, ⟨hLoads, rfl⟩⟩, rfl⟩
  have hKept : Kept setup protocol cfg files :=
    (refreshes setup).run_invariant_of_stepsSatisfy
      (fun _ _ _ hBefore hWhole hStep =>
        step_kept hBefore hWhole hStep)
      hStart hSteps hRun
  rcases hKept with ⟨numberings, hFiles, hRelated, hRecorded⟩
  subst hFiles
  rw [killedRefresh_filesOf hRelated hAttempt hRecorded,
    refresh_consistent_iff (hRelated.attempted hAttempt) hLater,
    recorded_attempted_iff hRelated hAttempt hRecorded,
    lagging_attempted_iff]
  unfold Recovers
  have hPrepared :
      (setup.filesOf protocol numberings).preparedConfig =
          some
            (setup.filesOf protocol numberings).cameraConfig ↔
        numberings.prepared = numberings.camera :=
    Option.some_inj
  rw [hPrepared]
  exact Iff.rfl

/- A repository whose digest tells any two texts apart. -/
def benchSetup : Setup where
  repo := "/opt/rs-camera"
  digest := id
  template _ _ adapter := adapter.name
  e3Template _ _ irqs :=
    let line : Option (Int × String) → String
    | none => ""
    | some irq =>
        "xhci_irq=" ++ toString irq.1 ++ "\nxhci_label=" ++
          irq.2 ++ "\n"
    line irqs.1 ++ line irqs.2

/- Three cameras whose interrupts count from a number. -/
def benchConfig (irq : Int) : CameraConfig where
  cameras :=
    { entries :=
        [("a", ⟨"D435", "101", irq, "xhci-hcd:usb1"⟩),
          ("b", ⟨"D435", "102", irq + 5, "xhci-hcd:usb3"⟩),
          ("c", ⟨"D455", "201", irq, "xhci-hcd:usb1"⟩)]
      sorted := by
        change ["a", "b", "c"].Pairwise (· < ·)
        decide }
  selection :=
    { d435Pair := ["a", "b"]
      singleD435 := "b"
      singleD455 := "c"
      startupD435 := "a" }

theorem benchConfig_same :
    SameCameras (benchConfig 130) (benchConfig 130) ∧
      SameCameras (benchConfig 130) (benchConfig 140) := by
  refine ⟨⟨?_, rfl⟩, ⟨?_, rfl⟩⟩
  · decide +kernel
  · decide +kernel

def benchFiles : CampaignFiles :=
  benchSetup.preparedFiles ⟨false, 30⟩ (benchConfig 130)

/- A refresh killed before the adapter of E3 is recovered. -/
theorem earlyKill_recovered :
    ∃ after,
      benchSetup.refreshBootConfig
          (benchSetup.killedRefresh benchFiles
            (benchConfig 140) 8) (benchConfig 130) =
        .ok after ∧
      Consistent benchSetup after := by
  rcases benchConfig_same with ⟨hOld, hNew⟩
  refine
    (refresh_recovers_iff benchSetup ⟨false, 30⟩
      (benchConfig 130) hOld.loads [] benchFiles rfl trivial
      ⟨benchConfig 140, 8⟩ hNew (benchConfig 130) hOld).mpr ?_
  refine ⟨?_, ?_⟩
  · intro hTears
    have hLate : ¬ e3Position < 8 := by decide
    exact hLate hTears.2.2.2.1
  · intro _
    right
    refine ⟨?_, Or.inr (by decide)⟩
    decide +kernel

/- A refresh killed before the copy of the configuration. -/
theorem lateKill_inconsistent :
    ∃ after,
      benchSetup.refreshBootConfig
          (benchSetup.killedRefresh benchFiles
            (benchConfig 140) 19) (benchConfig 130) =
        .ok after ∧
      ¬ Consistent benchSetup after := by
  have hEnd :
      (benchSetup.refreshBootConfig
        (benchSetup.killedRefresh benchFiles (benchConfig 140)
          19) (benchConfig 130)).map (fun after =>
            decide
              (after.preparedConfig =
                some after.cameraConfig)) = .ok false := by
    decide +kernel
  cases hRefresh :
      benchSetup.refreshBootConfig
        (benchSetup.killedRefresh benchFiles (benchConfig 140)
          19) (benchConfig 130) with
  | error error =>
      rw [hRefresh] at hEnd
      cases hEnd
  | ok after =>
      rw [hRefresh] at hEnd
      refine ⟨after, rfl, ?_⟩
      intro hConsistent
      rcases hConsistent.prepared with
        ⟨manifest, hManifest, hLoads, -⟩
      have hSame := loadConfig_eq_ok hLoads
      have hPrepared :
          after.preparedConfig = some after.cameraConfig := by
        rw [CampaignFiles.preparedConfig, hManifest, ← hSame]
        rfl
      simp [Except.map, hPrepared] at hEnd

/-
  A refresh killed behind the adapter of E3 is never
  recovered, and one killed before the copy of the camera
  configuration can return with files that disagree.
-/
theorem killedRefresh_not_recovered :
    (benchSetup.refreshBootConfig
        (benchSetup.killedRefresh benchFiles (benchConfig 140)
          9) (benchConfig 140)).map (fun _ => ()) =
      .error "Prepared adapter was modified: e3-one.sh" ∧
    ∃ after,
      benchSetup.refreshBootConfig
          (benchSetup.killedRefresh benchFiles
            (benchConfig 140) 19) (benchConfig 130) =
        .ok after ∧
      ¬ Consistent benchSetup after :=
  ⟨by decide +kernel, lateKill_inconsistent⟩

end Reproduction

end RsCamera
