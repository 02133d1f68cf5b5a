import RsCamera.Reproduction.Campaign
import RsCamera.Reproduction.Prepare
import RsCamera.Reproduction.Recovery

/-
  What the numbers and labels of the interrupts reach: of all
  adapters only `e3-one.sh`.

  A refresh of the interrupts after a boot writes the adapters
  again.  They have the texts they had before, so a completion
  marker with the digest of its script stays valid.

  Key definitions include:
    * `PrepareSetup.refreshBootConfig`, `PrepareSetup.complete`
    * `PrepareSetup.bootRefreshes`
    * `PrepareSetup.writtenText`, `PrepareSetup.Holds`
    * `PrepareSetup.Makes`, `PrepareSetup.Leaves`
    * `PrepareSetup.FilledAsPrepared`

  Key theorems include:
    * `writtenText_eq`
    * `prepare_returns_iff`, `leaves_of_prepare`
    * `refreshBootConfig_returns_iff`
    * `complete_campaign`
    * `prepare_same_files`
-/

------------------------------------------------------------
-- The Refresh Of A Boot
------------------------------------------------------------

namespace RsCamera

namespace Reproduction

/- A file that is not there raises a `FileNotFoundError`. -/
def readFile
    {A : Type}
    (path : String) : Option A → Except String A
| none => .error ("No such file or directory: " ++ path)
| some content => .ok content

namespace PrepareSetup

variable (setup : PrepareSetup)

/- A script is still the one that was prepared. -/
def checkFile
    (dir : Directory)
    (entry : String × String) : Except String Unit := do
  let text ←
    readFile (joinPath setup.entry entry.1)
      (dir.files.get? entry.1)
  checkThat (setup.digest text = entry.2)
    ("Prepared adapter was modified: " ++ entry.1)

/- `discovered` is what the discovery finds on this boot. -/
def refreshBootConfig
    (discovered : CameraConfig) : Effect Directory Unit := do
  let old ←
    Effect.ask (fun dir => do
      let cfg ←
        readFile (joinPath setup.root "camera-config.json")
          dir.cameraConfig
      loadFields cfg)
  let new ← Effect.ask (fun _ => loadFields discovered)
  Effect.ask (fun _ =>
    checkThat (loadedIdentity old = loadedIdentity new)
      ("Camera identities/roles changed across boots; " ++
        "refusing to combine experiments"))
  let previous ←
    Effect.ask (fun dir =>
      readFile (joinPath setup.root "prepared.json")
        dir.prepared)
  Effect.ask (fun dir =>
    previous.entrypoints.forM (setup.checkFile dir))
  if old = new then
    pure ()
  else do
    let _ ← setup.prepare previous.protocol true new
    modify (fun dir => { dir with cameraConfig := some discovered })

/- The digest is compared only for the stage of the marker. -/
def complete
    (dir : Directory)
    (markers : Stage → Option Marker)
    (stage : Stage) : Except String Bool :=
  let invalid :=
    "Invalid completion marker: " ++ setup.root ++
      "/completed/" ++ stage.name ++ ".json"
  match markers stage with
  | none => .ok false
  | some record =>
      if record.stage ≠ stage then
        .error invalid
      else do
        let text ←
          readFile (joinPath setup.entry (stage.name ++ ".sh"))
            (dir.files.get? (stage.name ++ ".sh"))
        if record.adapterSha256 ≠ setup.digest text then
          .error invalid
        else
          .ok true

/- Boots with a refresh each, whether it raises or not. -/
def bootRefreshes : TransitionSystem Directory CameraConfig where
  step dir discovered :=
    some (Effect.after (setup.refreshBootConfig discovered) dir)

end PrepareSetup

end Reproduction

end RsCamera

------------------------------------------------------------
-- The Text Of An Adapter
------------------------------------------------------------

namespace RsCamera

namespace Reproduction

theorem loadedIdentity_eq
    {first second : LoadedConfig} :
    loadedIdentity first = loadedIdentity second ↔
      cameraIdentity first.config = cameraIdentity second.config ∧
        first.d435Serials = second.d435Serials ∧
        first.singleD435Serial = second.singleD435Serial ∧
        first.startupSerial = second.startupSerial ∧
        first.d455Serial = second.d455Serial := by
  unfold loadedIdentity
  rw [LoadedIdentity.mk.injEq]

theorem cameraOf_eq_ok
    {cfg : CameraConfig}
    {name : String}
    {camera : Camera} :
    cfg.cameraOf name = .ok camera ↔
      cfg.lookup name = some camera := by
  unfold CameraConfig.cameraOf
  cases cfg.lookup name with
  | none => simp
  | some found => simp

/- The serial of a camera is part of the identity. -/
theorem lookup_serial
    (cfg : CameraConfig)
    (name : String) :
    (cfg.lookup name).map Camera.serial =
      ((cameraIdentity cfg).cameras.lookup name).map
        (fun camera => camera.2) := by
  unfold CameraConfig.lookup cameraIdentity
  simp only
  induction cfg.cameras.entries with
  | nil => rfl
  | cons entry entries ih =>
      rw [List.map_cons, List.lookup_cons, List.lookup_cons]
      cases name == entry.1 with
      | true => rfl
      | false => exact ih

theorem mapM_cameraOf
    {cfg : CameraConfig}
    {names : List String}
    {cameras : List Camera}
    (hLoads : names.mapM cfg.cameraOf = .ok cameras) :
    (cameras.map Camera.serial).map some =
      names.map (fun name =>
        (cfg.lookup name).map Camera.serial) := by
  induction names generalizing cameras with
  | nil =>
      cases hLoads
      rfl
  | cons name names ih =>
      rw [List.mapM_cons] at hLoads
      rcases bind_eq_ok.mp hLoads with ⟨camera, hFirst, hRest⟩
      rcases bind_eq_ok.mp hRest with ⟨others, hOthers, hAll⟩
      cases hAll
      rw [List.map_cons, List.map_cons, List.map_cons,
        ih hOthers, cameraOf_eq_ok.mp hFirst]
      rfl

/- The fields that are added are those of the identity. -/
theorem loadFields_identity
    {first second : CameraConfig}
    {old new : LoadedConfig}
    (hIdentity : cameraIdentity first = cameraIdentity second)
    (hFirst : loadFields first = .ok old)
    (hSecond : loadFields second = .ok new) :
    loadedIdentity old = loadedIdentity new := by
  have hSelection : first.selection = second.selection :=
    congrArg Identity.selection hIdentity
  have hSerial :
      ∀ name,
        (first.lookup name).map Camera.serial =
          (second.lookup name).map Camera.serial := by
    intro name
    rw [lookup_serial, lookup_serial, hIdentity]
  have hOne :
      ∀ {name camera other},
        first.cameraOf name = .ok camera →
        second.cameraOf name = .ok other →
          camera.serial = other.serial := by
    intro name camera other hCamera hOther
    have hBoth := hSerial name
    rw [cameraOf_eq_ok.mp hCamera,
      cameraOf_eq_ok.mp hOther] at hBoth
    exact Option.some.inj hBoth
  unfold loadFields at hFirst hSecond
  rcases bind_eq_ok.mp hFirst with ⟨_, hLoads, hFirst⟩
  rcases bind_eq_ok.mp hSecond with ⟨_, hLoads', hSecond⟩
  cases loadConfig_eq_ok hLoads
  cases loadConfig_eq_ok hLoads'
  rw [← hSelection] at hSecond
  rcases bind_eq_ok.mp hFirst with ⟨pair, hPair, hFirst⟩
  rcases bind_eq_ok.mp hSecond with ⟨pair', hPair', hSecond⟩
  rcases bind_eq_ok.mp hFirst with ⟨single, hSingle, hFirst⟩
  rcases bind_eq_ok.mp hSecond with ⟨single', hSingle', hSecond⟩
  rcases bind_eq_ok.mp hFirst with ⟨startup, hStartup, hFirst⟩
  rcases bind_eq_ok.mp hSecond with ⟨startup', hStartup', hSecond⟩
  rcases bind_eq_ok.mp hFirst with ⟨d455, hD455, hFirst⟩
  rcases bind_eq_ok.mp hSecond with ⟨d455', hD455', hSecond⟩
  cases hFirst
  cases hSecond
  rw [loadedIdentity_eq]
  refine ⟨hIdentity, ?_, ?_, ?_, hOne hD455 hD455'⟩
  · apply List.map_injective_iff.mpr (Option.some_injective _)
    rw [mapM_cameraOf hPair, mapM_cameraOf hPair']
    simp only [hSerial]
  · exact congrArg some (hOne hSingle hSingle')
  · exact congrArg some (hOne hStartup hStartup')

theorem singleD435_eq
    {first second : LoadedConfig}
    (hSame : loadedIdentity first = loadedIdentity second) :
    first.singleD435 = second.singleD435 := by
  rcases loadedIdentity_eq.mp hSame with ⟨-, hPair, hSingle, -, -⟩
  unfold LoadedConfig.singleD435
  rw [hPair, hSingle]

theorem startup_eq
    {first second : LoadedConfig}
    (hSame : loadedIdentity first = loadedIdentity second) :
    first.startup = second.startup := by
  rcases loadedIdentity_eq.mp hSame with
    ⟨-, hPair, -, hStartup, -⟩
  unfold LoadedConfig.startup
  rw [hPair, hStartup]

namespace PrepareSetup

variable (setup : PrepareSetup)

theorem caseText_eq
    {first second : LoadedConfig}
    (hSame : loadedIdentity first = loadedIdentity second)
    (single startup name : String) :
    setup.caseText first single startup name =
      setup.caseText second single startup name := by
  rcases loadedIdentity_eq.mp hSame with ⟨-, hPair, -, -, hD455⟩
  have hSerials :
      caseSerials first single startup name =
        caseSerials second single startup name := by
    unfold caseSerials
    rw [hPair, hD455]
  unfold caseText
  rw [hSerials]

/-
  One case for each adapter.  Four read a case file, two more
  read a serial of the configuration, and the others are made
  of the two serials that were chosen, or of none.
-/
theorem adapterText_eq
    {first second : LoadedConfig}
    (hSame : loadedIdentity first = loadedIdentity second)
    (single startup : String)
    {adapter : Adapter}
    (hOther : adapter ≠ .e3One) :
    setup.adapterText first single startup adapter =
      setup.adapterText second single startup adapter := by
  rcases loadedIdentity_eq.mp hSame with ⟨-, hPair, -, -, hD455⟩
  cases adapter with
  | e3One => exact absurd rfl hOther
  | d1H1SingleD435 => exact setup.caseText_eq hSame _ _ _
  | h1SingleD455 => exact setup.caseText_eq hSame _ _ _
  | p1V2Cases => exact setup.caseText_eq hSame _ _ _
  | ablationCases => exact setup.caseText_eq hSame _ _ _
  | e1 =>
      unfold adapterText e1Text
      rw [hD455]
  | diagnosis =>
      unfold adapterText
      rw [hPair]
  | e2Calibrate => rfl
  | e2Urb5 => rfl
  | e2Urb16 => rfl
  | e3 => rfl
  | e4Calibrate => rfl
  | e4StandardHardirq => rfl
  | e4StandardThreaded => rfl
  | e4RtThreaded => rfl
  | ablation => rfl
  | startup => rfl
  | overhead => rfl

/- The text that `prepare` writes of an adapter. -/
def writtenText
    (protocol : Protocol)
    (cfg : LoadedConfig)
    (adapter : Adapter) : Except String String := do
  let single ← cfg.singleD435
  let startup ← cfg.startup
  let text ← setup.adapterText cfg single startup adapter
  smokeText protocol adapter.name text

theorem writtenText_eq
    (protocol : Protocol)
    {first second : LoadedConfig}
    (hSame : loadedIdentity first = loadedIdentity second)
    {adapter : Adapter}
    (hOther : adapter ≠ .e3One) :
    setup.writtenText protocol first adapter =
      setup.writtenText protocol second adapter := by
  have hTexts :=
    fun single startup =>
      setup.adapterText_eq hSame single startup hOther
  unfold writtenText
  rw [singleD435_eq hSame, startup_eq hSame]
  simp only [hTexts]

end PrepareSetup

end Reproduction

end RsCamera

------------------------------------------------------------
-- The Files Of A Run
------------------------------------------------------------

namespace RsCamera

namespace Reproduction

theorem mem_adapterOrder (adapter : Adapter) :
    adapter ∈ adapterOrder := by
  cases adapter <;> decide

theorem Adapter.name_injective
    {first second : Adapter}
    (hName : first.name = second.name) :
    first = second := by
  have hNodup : (adapterOrder.map Adapter.name).Nodup := by
    decide
  exact
    List.inj_on_of_nodup_map hNodup (mem_adapterOrder first)
      (mem_adapterOrder second) hName

theorem Directory.get?_write
    (dir : Directory)
    (name text other : String) :
    (dir.write name text).files.get? other =
      if other = name then
        some text
      else
        dir.files.get? other :=
  Dict.get?_set dir.files name other text

namespace PrepareSetup

variable (setup : PrepareSetup)
variable (protocol : Protocol)
variable (cfg : LoadedConfig)

/- The file of an adapter has the text that is written of it. -/
def Holds (dir : Directory) (adapter : Adapter) : Prop :=
  ∃ text,
    setup.writtenText protocol cfg adapter = .ok text ∧
      dir.files.get? adapter.name = some text

/- What some of the writes of a run have made of a directory. -/
structure WrittenOver (start dir : Directory) : Prop where
  cameraConfig : dir.cameraConfig = start.cameraConfig
  prepared : dir.prepared = start.prepared
  files :
    ∀ name,
      dir.files.get? name = start.files.get? name ∨
        ∃ adapter : Adapter,
          adapter.name = name ∧ setup.Holds protocol cfg dir adapter

variable {setup protocol cfg}

variable {adapter : Adapter}
variable {text : String}

theorem holds_write
    (hText : setup.writtenText protocol cfg adapter = .ok text)
    (dir : Directory) :
    setup.Holds protocol cfg (dir.write adapter.name text)
      adapter := by
  refine ⟨text, hText, ?_⟩
  rw [Directory.get?_write, if_pos rfl]

theorem Holds.write
    {dir : Directory}
    {other : Adapter}
    (hHolds : setup.Holds protocol cfg dir other)
    (hText : setup.writtenText protocol cfg adapter = .ok text) :
    setup.Holds protocol cfg (dir.write adapter.name text)
      other := by
  by_cases hName : other.name = adapter.name
  · rw [Adapter.name_injective hName]
    exact holds_write hText dir
  · rcases hHolds with ⟨old, hOld, hFile⟩
    refine ⟨old, hOld, ?_⟩
    rw [Directory.get?_write, if_neg hName]
    exact hFile

theorem WrittenOver.refl (start : Directory) :
    setup.WrittenOver protocol cfg start start :=
  ⟨rfl, rfl, fun _ => .inl rfl⟩

theorem WrittenOver.write
    {start dir : Directory}
    (hOver : setup.WrittenOver protocol cfg start dir)
    (hText : setup.writtenText protocol cfg adapter = .ok text) :
    setup.WrittenOver protocol cfg start
      (dir.write adapter.name text) where
  cameraConfig := hOver.cameraConfig
  prepared := hOver.prepared
  files name := by
    by_cases hName : name = adapter.name
    · exact .inr ⟨adapter, hName.symm, holds_write hText dir⟩
    · rcases hOver.files name with hOld | ⟨other, hOther, hHolds⟩
      · left
        rw [Directory.get?_write, if_neg hName]
        exact hOld
      · exact .inr ⟨other, hOther, hHolds.write hText⟩

/-
  A file is written before its syntax is checked, so it stands
  in the directory also where the check raises.
-/
theorem writeAdapter_spec
    {single startup : String}
    (hSingle : cfg.singleD435 = .ok single)
    (hStartup : cfg.startup = .ok startup)
    (adapter : Adapter)
    (start : Directory) :
    Effect.Triple (· = start)
      (setup.writeAdapter protocol cfg single startup adapter)
      (fun _ dir =>
        ∃ text,
          setup.writtenText protocol cfg adapter = .ok text ∧
            dir = start.write adapter.name text)
      (fun dir =>
        dir = start ∨
          ∃ text,
            setup.writtenText protocol cfg adapter = .ok text ∧
              dir = start.write adapter.name text) := by
  refine Effect.Triple.ask_bind (.inl rfl) ?_
  intro made hMade
  refine Effect.Triple.ask_bind (.inl rfl) ?_
  intro text hSmoke
  have hText :
      setup.writtenText protocol cfg adapter = .ok text := by
    unfold writtenText
    rw [hSingle, hStartup]
    exact (congrArg (· >>= _) hMade).trans hSmoke
  refine Effect.Triple.bind
    (Q := fun _ dir => dir = start.write adapter.name text) ?_ ?_
  · rintro dir rfl
    rfl
  · intro _
    split
    · apply Effect.Triple.throw
      intro dir hDir
      exact .inr ⟨text, hText, hDir⟩
    · apply Effect.Triple.pure
      intro dir hDir
      exact ⟨text, hText, hDir⟩

theorem writeAdapters_spec
    {single startup : String}
    (hSingle : cfg.singleD435 = .ok single)
    (hStartup : cfg.startup = .ok startup)
    (adapters : List Adapter)
    (start : Directory) :
    Effect.Triple (· = start)
      (Effect.forEach
        (setup.writeAdapter protocol cfg single startup) adapters)
      (fun _ dir =>
        setup.WrittenOver protocol cfg start dir ∧
          ∀ adapter ∈ adapters,
            setup.Holds protocol cfg dir adapter)
      (setup.WrittenOver protocol cfg start) := by
  -- The invariant is about the adapters that are done.
  refine
    (Effect.Triple.forEach
      (I := fun front _ dir =>
        setup.WrittenOver protocol cfg start dir ∧
          ∀ adapter ∈ front,
            setup.Holds protocol cfg dir adapter)
      (R := setup.WrittenOver protocol cfg start)
      ?_ [] adapters).weaken ?_ (fun _ _ hPost => hPost)
      (fun _ hRaise => hRaise)
  · intro front adapter back
    apply Effect.Triple.fix_start
    rintro dir ⟨hOver, hFront⟩
    refine (writeAdapter_spec hSingle hStartup adapter dir).weaken
      (fun _ hStart => hStart) ?_ ?_
    · rintro _ written ⟨text, hText, rfl⟩
      refine ⟨hOver.write hText, ?_⟩
      intro other hIn
      rcases List.mem_append.mp hIn with hIn | hIn
      · exact (hFront other hIn).write hText
      · rw [List.mem_singleton.mp hIn]
        exact holds_write hText dir
    · rintro written (rfl | ⟨text, hText, rfl⟩)
      · exact hOver
      · exact hOver.write hText
  · rintro dir rfl
    exact ⟨WrittenOver.refl dir, fun _ hIn => by cases hIn⟩

end PrepareSetup

end Reproduction

end RsCamera

------------------------------------------------------------
-- Preparing Again
------------------------------------------------------------

namespace RsCamera

namespace Reproduction

namespace PrepareSetup

variable {setup : PrepareSetup}
variable {protocol : Protocol}
variable {cfg : LoadedConfig}

/- The prior run of a directory, if any, passes its checks. -/
def Permits
    (setup : PrepareSetup)
    (protocol : Protocol)
    (allowIrqRefresh : Bool)
    (cfg : LoadedConfig)
    (start : Directory) : Prop :=
  ∀ prior, start.prepared = some prior →
    setup.checkPriorRun protocol allowIrqRefresh cfg prior =
      .ok ()

theorem checkPrior_eq_ok
    {allowIrqRefresh : Bool}
    {start : Directory}
    {result : Unit} :
    (match start.prepared with
        | none => .ok ()
        | some prior =>
            setup.checkPriorRun protocol allowIrqRefresh cfg
              prior) = Except.ok result ↔
      setup.Permits protocol allowIrqRefresh cfg start := by
  unfold Permits
  cases start.prepared with
  | none => simp
  | some prior => simp

/-
  A run writes all adapters and then the manifest.  Where it
  raises, it has written some of the adapters, or nothing.
-/
theorem prepare_spec
    (allowIrqRefresh : Bool)
    (start : Directory) :
    Effect.Triple (· = start)
      (setup.prepare protocol allowIrqRefresh cfg)
      (fun manifest dir =>
        setup.Permits protocol allowIrqRefresh cfg start ∧
          ∃ written,
            setup.WrittenOver protocol cfg start written ∧
              (∀ adapter,
                setup.Holds protocol cfg written adapter) ∧
              manifest = setup.makeManifest protocol cfg written ∧
              dir = { written with prepared := some manifest })
      (fun dir =>
        dir = start ∨
          setup.Permits protocol allowIrqRefresh cfg start ∧
            setup.WrittenOver protocol cfg start dir) := by
  refine Effect.Triple.ask_bind (.inl rfl) ?_
  intro _ hCheck
  have hPermits :
      setup.Permits protocol allowIrqRefresh cfg start :=
    checkPrior_eq_ok.mp hCheck
  refine Effect.Triple.ask_bind (.inl rfl) ?_
  intro single hSingle
  refine Effect.Triple.ask_bind (.inl rfl) ?_
  intro startup hStartup
  refine Effect.Triple.bind
    (Q := fun _ dir =>
      setup.WrittenOver protocol cfg start dir ∧
        ∀ adapter, setup.Holds protocol cfg dir adapter) ?_ ?_
  · refine
      (writeAdapters_spec hSingle hStartup adapterOrder
        start).weaken (fun _ hStart => hStart) ?_ ?_
    · rintro _ dir ⟨hOver, hAll⟩
      exact
        ⟨hOver, fun adapter => hAll _ (mem_adapterOrder adapter)⟩
    · intro dir hOver
      exact .inr ⟨hPermits, hOver⟩
  · intro _
    apply Effect.Triple.fix_start
    rintro written ⟨hOver, hAll⟩
    apply Effect.Triple.get_bind
    rintro dir rfl
    exact ⟨hPermits, dir, hOver, hAll, rfl, rfl⟩

/-
  What a run that returns leaves: the adapters have their
  texts, the manifest is theirs, and no other file is touched.
-/
structure Leaves
    (setup : PrepareSetup)
    (protocol : Protocol)
    (cfg : LoadedConfig)
    (start : Directory)
    (manifest : Manifest)
    (dir : Directory) : Prop where
  adapters : ∀ adapter, setup.Holds protocol cfg dir adapter
  others :
    ∀ name, (∀ adapter : Adapter, adapter.name ≠ name) →
      dir.files.get? name = start.files.get? name
  cameraConfig : dir.cameraConfig = start.cameraConfig
  prepared : dir.prepared = some manifest
  manifest : manifest = setup.makeManifest protocol cfg dir

theorem leaves_of_prepare
    {allowIrqRefresh : Bool}
    {start dir : Directory}
    {manifest : Manifest}
    (hRun :
      setup.prepare protocol allowIrqRefresh cfg start =
        .ok manifest dir) :
    setup.Leaves protocol cfg start manifest dir := by
  rcases (prepare_spec allowIrqRefresh start).of_ok rfl hRun with
    ⟨-, written, hOver, hAll, rfl, rfl⟩
  refine ⟨hAll, ?_, hOver.cameraConfig, rfl, rfl⟩
  intro name hName
  rcases hOver.files name with hSame | ⟨adapter, hAdapter, -⟩
  · exact hSame
  · exact absurd hAdapter (hName adapter)

/- An adapter that can be written, and that `sh -n` accepts. -/
def Makes
    (setup : PrepareSetup)
    (protocol : Protocol)
    (cfg : LoadedConfig)
    (adapter : Adapter) : Prop :=
  ∃ text,
    setup.writtenText protocol cfg adapter = .ok text ∧
      (endsWith adapter.name ".sh" = true →
        setup.shAccepts text = true)

theorem isSome_toOption_bind_iff
    {A B : Type}
    {result : Except String A}
    {next : A → Except String B} :
    (result >>= next).toOption.isSome ↔
      ∃ a, result = .ok a ∧ (next a).toOption.isSome := by
  cases result with
  | error error =>
      refine iff_of_false (by rintro ⟨⟩) ?_
      rintro ⟨_, hError, -⟩
      cases hError
  | ok a =>
      rw [toOption_bind]
      simp [Except.toOption]

/-
  Where `sh` accepts all, it takes the text of the adapter, and
  of `e3.sh` the matrix that a smoke test cuts.
-/
theorem makes_of_texts
    {single startup : String}
    (hSingle : cfg.singleD435 = .ok single)
    (hStartup : cfg.startup = .ok startup)
    (hAccepts : ∀ text, setup.shAccepts text = true)
    {adapter : Adapter}
    (hMade :
      (setup.adapterText cfg single startup
        adapter).toOption.isSome)
    (hMatrix :
      (setup.e3Text >>= fun text =>
        smokeMatrix
          (replaceEach text
            (smokeReplacements 3))).toOption.isSome) :
    setup.Makes protocol cfg adapter := by
  cases hText : setup.adapterText cfg single startup adapter with
  | error error =>
      rw [hText] at hMade
      cases hMade
  | ok text =>
      have hSmoke :
          (smokeText protocol adapter.name
            text).toOption.isSome := by
        apply smokeText_returns
        intro _ hName
        have hE3 : adapter = .e3 := Adapter.name_injective hName
        subst hE3
        change setup.e3Text = .ok text at hText
        have hSeconds :
            smokeSeconds protocol Adapter.e3.name = 3 :=
          if_neg (by decide)
        rcases isSome_toOption_bind_iff.mp hMatrix with
          ⟨made, hMade, hRows⟩
        rw [hText] at hMade
        cases hMade
        rw [hSeconds]
        exact hRows
      cases hWritten : smokeText protocol adapter.name text with
      | error error =>
          rw [hWritten] at hSmoke
          cases hSmoke
      | ok written =>
          refine ⟨written, ?_, fun _ => hAccepts written⟩
          unfold writtenText
          rw [hSingle, hStartup]
          exact (congrArg (· >>= _) hText).trans hWritten

theorem writeAdapter_returns_iff
    {single startup : String}
    (hSingle : cfg.singleD435 = .ok single)
    (hStartup : cfg.startup = .ok startup)
    (adapter : Adapter)
    (dir : Directory) :
    Effect.Returns
        (setup.writeAdapter protocol cfg single startup adapter)
        dir ↔
      setup.Makes protocol cfg adapter := by
  have hWritten :
      setup.writtenText protocol cfg adapter =
        (setup.adapterText cfg single startup adapter >>=
          smokeText protocol adapter.name) := by
    unfold writtenText
    rw [hSingle, hStartup]
    rfl
  unfold writeAdapter Makes
  rw [Effect.returns_ask_bind_iff, hWritten]
  simp only [bind_eq_ok, Effect.returns_ask_bind_iff]
  constructor
  · rintro ⟨made, hMade, text, hSmoke, hReturns⟩
    refine ⟨text, ⟨made, hMade, hSmoke⟩, ?_⟩
    intro hScript
    by_contra hRefused
    rcases Effect.returns_bind_iff.mp hReturns with
      ⟨_, written, _, _, _, hThrown⟩
    rw [if_pos (by simp [hScript, hRefused])] at hThrown
    cases hThrown
  · rintro ⟨text, ⟨made, hMade, hSmoke⟩, hAccepts⟩
    refine ⟨made, hMade, text, hSmoke, ?_⟩
    refine Effect.returns_bind_iff.mpr ⟨(), _, rfl, ?_⟩
    rw [if_neg]
    · exact ⟨_, _, rfl⟩
    · simpa using hAccepts

/- A run returns where nothing it does raises. -/
theorem prepare_returns_iff
    (allowIrqRefresh : Bool)
    (start : Directory) :
    Effect.Returns
        (setup.prepare protocol allowIrqRefresh cfg) start ↔
      setup.Permits protocol allowIrqRefresh cfg start ∧
        ∀ adapter, setup.Makes protocol cfg adapter := by
  have hAll :
      ∀ {single startup},
        cfg.singleD435 = .ok single →
        cfg.startup = .ok startup →
          (Effect.Returns
              (Effect.forEach
                (setup.writeAdapter protocol cfg single startup)
                adapterOrder) start ↔
            ∀ adapter ∈ adapterOrder,
              setup.Makes protocol cfg adapter) := by
    intro single startup hSingle hStartup
    exact
      Effect.returns_forEach_iff
        (writeAdapter_returns_iff hSingle hStartup)
        adapterOrder start
  unfold prepare
  simp only [Effect.returns_ask_bind_iff]
  constructor
  · rintro ⟨_, hCheck, single, hSingle, startup, hStartup,
      hReturns⟩
    rcases Effect.returns_bind_iff.mp hReturns with
      ⟨_, written, hWrites, -⟩
    refine ⟨checkPrior_eq_ok.mp hCheck, ?_⟩
    intro adapter
    exact
      (hAll hSingle hStartup).mp ⟨_, _, hWrites⟩ adapter
        (mem_adapterOrder adapter)
  · rintro ⟨hPermits, hMakes⟩
    rcases hMakes .e1 with ⟨text, hText, -⟩
    rcases bind_eq_ok.mp hText with ⟨single, hSingle, hRest⟩
    rcases bind_eq_ok.mp hRest with ⟨startup, hStartup, -⟩
    refine
      ⟨(), checkPrior_eq_ok.mpr hPermits, single, hSingle,
        startup, hStartup, ?_⟩
    rcases (hAll hSingle hStartup).mpr
      (fun adapter _ => hMakes adapter) with
      ⟨_, written, hWrites⟩
    exact
      Effect.returns_bind_iff.mpr
        ⟨_, written, hWrites, _, _, rfl⟩

theorem checkPriorRun_refresh
    {prior : Manifest}
    (hCheck :
      setup.checkPriorRun protocol true cfg prior = .ok ()) :
    loadedIdentity prior.config = loadedIdentity cfg := by
  unfold checkPriorRun at hCheck
  rcases bind_eq_ok.mp hCheck with ⟨_, -, hSame⟩
  have hBoth := checkThat_eq_ok.mp hSame
  rw [Bool.and_eq_true] at hBoth
  simpa using hBoth.1

end PrepareSetup

end Reproduction

end RsCamera

------------------------------------------------------------
-- Refreshing
------------------------------------------------------------

namespace RsCamera

namespace Reproduction

/- Two directories with the same files but for `e3-one.sh`. -/
def SameButE3One (start dir : Directory) : Prop :=
  ∀ name, name ≠ Adapter.e3One.name →
    dir.files.get? name = start.files.get? name

namespace PrepareSetup

variable {setup : PrepareSetup}
variable {protocol : Protocol}
variable {cfg : LoadedConfig}

/- The adapters are those of the configuration of the manifest. -/
def FilledAsPrepared
    (setup : PrepareSetup)
    (dir : Directory) : Prop :=
  ∃ prior,
    dir.prepared = some prior ∧
      ∀ adapter, adapter ≠ .e3One →
        setup.Holds prior.protocol prior.config dir adapter

/- What a refresh keeps, whether it returns or raises. -/
def Keeps (setup : PrepareSetup) (start dir : Directory) : Prop :=
  SameButE3One start dir ∧ setup.FilledAsPrepared dir

theorem Holds.congr
    {first second : LoadedConfig}
    (hSame : loadedIdentity first = loadedIdentity second)
    {start dir : Directory}
    (hFiles : SameButE3One start dir)
    {adapter : Adapter}
    (hOther : adapter ≠ .e3One)
    (hHolds : setup.Holds protocol first start adapter) :
    setup.Holds protocol second dir adapter := by
  rcases hHolds with ⟨text, hText, hFile⟩
  refine ⟨text, ?_, ?_⟩
  · rw [← setup.writtenText_eq protocol hSame hOther]
    exact hText
  · rw [hFiles adapter.name
      (fun hName => hOther (Adapter.name_injective hName))]
    exact hFile

theorem Keeps.refl
    {start : Directory}
    (hFilled : setup.FilledAsPrepared start) :
    setup.Keeps start start :=
  ⟨fun _ _ => rfl, hFilled⟩

/- What is written over an adapter is the text it had. -/
theorem WrittenOver.sameButE3One
    {first second : LoadedConfig}
    (hSame : loadedIdentity first = loadedIdentity second)
    {start dir : Directory}
    (hStart :
      ∀ adapter, adapter ≠ .e3One →
        setup.Holds protocol first start adapter)
    (hOver : setup.WrittenOver protocol second start dir) :
    SameButE3One start dir := by
  intro name hName
  rcases hOver.files name with hOld | ⟨adapter, rfl, hHolds⟩
  · exact hOld
  · have hOther : adapter ≠ .e3One :=
      fun hE3One => hName (congrArg Adapter.name hE3One)
    rcases hHolds with ⟨text, hText, hFile⟩
    rcases hStart adapter hOther with ⟨old, hOld, hOldFile⟩
    rw [setup.writtenText_eq protocol hSame hOther, hText] at hOld
    cases hOld
    rw [hFile, hOldFile]

/-
  Preparing with the configuration of another boot.  The check
  of the prior run compares the identities.
-/
theorem prepare_keeps
    {start : Directory}
    {prior : Manifest}
    (hPrior : start.prepared = some prior)
    (hFilled :
      ∀ adapter, adapter ≠ .e3One →
        setup.Holds prior.protocol prior.config start adapter) :
    Effect.Triple (· = start)
      (setup.prepare prior.protocol true cfg)
      (fun _ => setup.Keeps start) (setup.Keeps start) := by
  have hOverKept :
      ∀ {dir},
        setup.Permits prior.protocol true cfg start →
        setup.WrittenOver prior.protocol cfg start dir →
          loadedIdentity prior.config = loadedIdentity cfg ∧
            SameButE3One start dir := by
    intro dir hPermits hOver
    have hSame := checkPriorRun_refresh (hPermits prior hPrior)
    exact ⟨hSame, hOver.sameButE3One hSame hFilled⟩
  refine (prepare_spec true start).weaken
    (fun _ hStart => hStart) ?_ ?_
  · rintro manifest _ ⟨hPermits, written, hOver, -, rfl, rfl⟩
    rcases hOverKept hPermits hOver with ⟨hSame, hFiles⟩
    refine ⟨hFiles, _, rfl, ?_⟩
    intro adapter hOther
    exact (hFilled adapter hOther).congr hSame hFiles hOther
  · rintro dir (rfl | ⟨hPermits, hOver⟩)
    · exact Keeps.refl ⟨prior, hPrior, hFilled⟩
    · rcases hOverKept hPermits hOver with ⟨hSame, hFiles⟩
      refine ⟨hFiles, prior, ?_, ?_⟩
      · rw [hOver.prepared, hPrior]
      · intro adapter hOther
        exact (hFilled adapter hOther).congr rfl hFiles hOther

theorem refreshBootConfig_keeps
    {start : Directory}
    (hFilled : setup.FilledAsPrepared start)
    (discovered : CameraConfig) :
    Effect.Triple (· = start)
      (setup.refreshBootConfig discovered)
      (fun _ => setup.Keeps start) (setup.Keeps start) := by
  have hRefl := Keeps.refl hFilled
  rcases hFilled with ⟨prior, hPrior, hHolds⟩
  refine Effect.Triple.ask_bind hRefl ?_
  intro old _
  refine Effect.Triple.ask_bind hRefl ?_
  intro new _
  refine Effect.Triple.ask_bind hRefl ?_
  intro _ _
  refine Effect.Triple.ask_bind hRefl ?_
  intro previous hPrevious
  have hIs : previous = prior := by
    rw [hPrior] at hPrevious
    cases hPrevious
    rfl
  subst hIs
  refine Effect.Triple.ask_bind hRefl ?_
  intro _ _
  split
  · apply Effect.Triple.pure
    rintro dir rfl
    exact hRefl
  · refine Effect.Triple.bind (prepare_keeps hPrior hHolds) ?_
    intro _ dir hKeeps
    exact hKeeps

/- Any number of boots, with a refresh on each. -/
theorem run_bootRefreshes
    {start dir : Directory}
    (hFilled : setup.FilledAsPrepared start)
    {boots : List CameraConfig}
    (hRun : setup.bootRefreshes.run start boots = some dir) :
    setup.Keeps start dir := by
  refine setup.bootRefreshes.run_invariant
    (P := setup.Keeps start) ?_ (Keeps.refl hFilled) hRun
  intro before discovered after hBefore hStep
  cases hStep
  have hStepKeeps :=
    (refreshBootConfig_keeps hBefore.2 discovered).of_after
      (fun _ _ hKeeps => hKeeps) (fun _ hKeeps => hKeeps) rfl
  refine ⟨?_, hStepKeeps.2⟩
  intro name hName
  rw [hStepKeeps.1 name hName, hBefore.1 name hName]

end PrepareSetup

end Reproduction

end RsCamera

------------------------------------------------------------
-- Completion Markers
------------------------------------------------------------

namespace RsCamera

namespace Reproduction

namespace PrepareSetup

variable {setup : PrepareSetup}

theorem script_ne_e3One (stage : Stage) :
    stage.name ++ ".sh" ≠ Adapter.e3One.name := by
  cases stage <;> decide

theorem complete_of_sameButE3One
    {start dir : Directory}
    (hFiles : SameButE3One start dir)
    (markers : Stage → Option Marker)
    (stage : Stage) :
    setup.complete dir markers stage =
      setup.complete start markers stage := by
  unfold complete
  rw [hFiles _ (script_ne_e3One stage)]

/- A marker with the digest of the script is valid. -/
theorem complete_marked
    {dir : Directory}
    {markers : Stage → Option Marker}
    {stage : Stage}
    {text : String}
    (hText :
      dir.files.get? (stage.name ++ ".sh") = some text)
    (hMarker :
      markers stage = some ⟨stage, setup.digest text⟩) :
    setup.complete dir markers stage = .ok true := by
  unfold complete
  rw [hText, hMarker]
  simp [readFile, bind, Except.bind]

/- The campaign sees the digests of the scripts. -/
theorem complete_campaign
    {dir : Directory}
    {scripts : Stage → String}
    (hScripts :
      ∀ stage : Stage,
        dir.files.get? (stage.name ++ ".sh") = some (scripts stage))
    {campaign : Campaign}
    (hAdapters :
      ∀ stage,
        campaign.adapters stage = setup.digest (scripts stage))
    (stage : Stage) :
    setup.complete dir campaign.markers stage =
      campaign.complete setup.root stage := by
  unfold complete Campaign.complete
  rw [hScripts, hAdapters]
  cases campaign.markers stage with
  | none => rfl
  | some record =>
      by_cases hStage : record.stage = stage
      · simp [hStage, readFile, bind, Except.bind]
      · simp [hStage]

end PrepareSetup

end Reproduction

end RsCamera

------------------------------------------------------------
-- Same Files
------------------------------------------------------------

namespace RsCamera

namespace Reproduction

namespace PrepareSetup

variable {setup : PrepareSetup}
variable {protocol : Protocol}
variable {first second : LoadedConfig}

variable {adapter : Adapter}
variable {start dir : Directory}
variable {manifest : Manifest}

/- One text for an adapter that stands in two directories. -/
theorem Holds.same_file
    (hSame : loadedIdentity first = loadedIdentity second)
    {dir reached : Directory}
    (hOther : adapter ≠ .e3One)
    (hDir : setup.Holds protocol first dir adapter)
    (hReached : setup.Holds protocol second reached adapter) :
    ∃ text,
      dir.files.get? adapter.name = some text ∧
        reached.files.get? adapter.name = some text := by
  rcases hReached with ⟨text, hText, hFile⟩
  rcases hDir with ⟨old, hOld, hOldFile⟩
  rw [setup.writtenText_eq protocol hSame hOther, hText] at hOld
  cases hOld
  exact ⟨text, hOldFile, hFile⟩

/- What a run has written, even where it has raised. -/
theorem get?_after_prepare
    (hSame : loadedIdentity first = loadedIdentity second)
    {dir : Directory}
    (hOther : adapter ≠ .e3One)
    (hDir : setup.Holds protocol first dir adapter)
    (allowIrqRefresh : Bool)
    (start : Directory) :
    let reached :=
      Effect.after
        (setup.prepare protocol allowIrqRefresh second) start
    reached.files.get? adapter.name =
        start.files.get? adapter.name ∨
      reached.files.get? adapter.name =
        dir.files.get? adapter.name := by
  intro reached
  have hWritten :
      ∀ {reached : Directory},
        setup.Holds protocol second reached adapter →
          reached.files.get? adapter.name =
            dir.files.get? adapter.name := by
    intro reached hReached
    rcases hDir.same_file hSame hOther hReached with
      ⟨text, hFile, hReachedFile⟩
    exact hReachedFile.trans hFile.symm
  refine
    (prepare_spec allowIrqRefresh start).of_after
      (C := fun reached =>
        reached.files.get? adapter.name =
            start.files.get? adapter.name ∨
          reached.files.get? adapter.name =
            dir.files.get? adapter.name) ?_ ?_ rfl
  · rintro _ _ ⟨-, written, -, hAll, -, rfl⟩
    exact .inr (hWritten (hAll adapter))
  · rintro reached (rfl | ⟨-, hOver⟩)
    · exact .inl rfl
    · rcases hOver.files adapter.name with
        hOld | ⟨same, hName, hHolds⟩
      · exact .inl hOld
      · rw [Adapter.name_injective hName] at hHolds
        exact .inr (hWritten hHolds)

theorem makes_iff
    (hSame : loadedIdentity first = loadedIdentity second)
    (hOther : adapter ≠ .e3One) :
    setup.Makes protocol first adapter ↔
      setup.Makes protocol second adapter := by
  unfold Makes
  rw [setup.writtenText_eq protocol hSame hOther]

/- Of the adapters, only `e3-one.sh` is asked of the second. -/
theorem prepare_returns_of_same
    (hSame : loadedIdentity first = loadedIdentity second)
    (allowIrqRefresh : Bool)
    (start : Directory) :
    Effect.Returns
        (setup.prepare protocol allowIrqRefresh second) start ↔
      setup.Permits protocol allowIrqRefresh second start ∧
        setup.Makes protocol second .e3One ∧
        ∀ adapter, adapter ≠ .e3One →
          setup.Makes protocol first adapter := by
  rw [prepare_returns_iff]
  constructor
  · rintro ⟨hPermits, hAll⟩
    refine ⟨hPermits, hAll .e3One, ?_⟩
    intro adapter hOther
    exact (makes_iff hSame hOther).mpr (hAll adapter)
  · rintro ⟨hPermits, hE3One, hOthers⟩
    refine ⟨hPermits, ?_⟩
    intro adapter
    by_cases hOther : adapter = .e3One
    · rw [hOther]
      exact hE3One
    · exact (makes_iff hSame hOther).mp (hOthers adapter hOther)

theorem prepare_sameButE3One
    (hSame : loadedIdentity first = loadedIdentity second)
    {allowFirst allowSecond : Bool}
    {start other dir dir' : Directory}
    {manifest manifest' : Manifest}
    (hFirst :
      setup.prepare protocol allowFirst first start =
        .ok manifest dir)
    (hSecond :
      setup.prepare protocol allowSecond second other =
        .ok manifest' dir')
    (hStarts : other.files = start.files) :
    SameButE3One dir dir' := by
  intro name hName
  by_cases hAdapter : ∃ adapter : Adapter, adapter.name = name
  · rcases hAdapter with ⟨adapter, rfl⟩
    have hOther : adapter ≠ .e3One :=
      fun hE3One => hName (congrArg Adapter.name hE3One)
    rcases
      ((leaves_of_prepare hFirst).adapters adapter).same_file
        hSame hOther
        ((leaves_of_prepare hSecond).adapters adapter) with
      ⟨text, hFile, hFile'⟩
    rw [hFile, hFile']
  · have hNone : ∀ adapter : Adapter, adapter.name ≠ name :=
      fun adapter hIs => hAdapter ⟨adapter, hIs⟩
    rw [(leaves_of_prepare hFirst).others name hNone,
      (leaves_of_prepare hSecond).others name hNone, hStarts]

theorem filledAsPrepared_of_prepare
    {allowIrqRefresh : Bool}
    (hRun :
      setup.prepare protocol allowIrqRefresh first start =
        .ok manifest dir) :
    setup.FilledAsPrepared dir := by
  have hLeaves := leaves_of_prepare hRun
  refine ⟨manifest, hLeaves.prepared, ?_⟩
  intro adapter _
  rw [hLeaves.manifest]
  exact hLeaves.adapters adapter

/- The digests of a manifest are those of its files. -/
theorem checkFiles_eq_ok (dir : Directory) :
    (setup.makeManifest protocol first dir).entrypoints.forM
      (setup.checkFile dir) = .ok () := by
  rw [forM_eq_ok_iff]
  intro entry hEntry
  rcases List.mem_map.mp hEntry with ⟨file, hFile, rfl⟩
  have hText : dir.files.get? file.1 = some file.2 :=
    Dict.mem_items_iff.mp (List.mem_mergeSort.mp hFile)
  refine bind_eq_ok.mpr ⟨file.2, ?_, ?_⟩
  · rw [hText]
    rfl
  · exact checkThat_eq_ok.mpr (decide_eq_true rfl)

/- A prepared directory permits a refresh of the interrupts. -/
theorem Leaves.permits
    (hSame : loadedIdentity first = loadedIdentity second)
    (hLeaves : setup.Leaves protocol first start manifest dir) :
    setup.Permits protocol true second dir := by
  intro prior hPrior
  rw [hLeaves.prepared, Option.some.injEq] at hPrior
  rw [← hPrior, hLeaves.manifest]
  refine bind_eq_ok.mpr
    ⟨(), checkThat_eq_ok.mpr (decide_eq_true rfl), ?_⟩
  apply checkThat_eq_ok.mpr
  simp [makeManifest, hSame]

/- A refresh on a prepared directory fails at `e3-one.sh` only. -/
theorem refreshBootConfig_returns_iff
    (hSame : loadedIdentity first = loadedIdentity second)
    {allowIrqRefresh : Bool}
    (hFirst :
      setup.prepare protocol allowIrqRefresh first start =
        .ok manifest dir)
    {raw discovered : CameraConfig}
    (hRaw : start.cameraConfig = some raw)
    (hOld : loadFields raw = .ok first)
    (hNew : loadFields discovered = .ok second) :
    Effect.Returns (setup.refreshBootConfig discovered) dir ↔
      setup.Makes protocol second .e3One := by
  have hLeaves := leaves_of_prepare hFirst
  have hMakes :=
    ((prepare_returns_iff allowIrqRefresh start).mp
      ⟨_, _, hFirst⟩).2
  have hManifest := hLeaves.manifest
  have hProtocol : manifest.protocol = protocol := by
    rw [hManifest]
    rfl
  have hChecked :
      manifest.entrypoints.forM (setup.checkFile dir) =
        .ok () := by
    rw [hManifest]
    exact checkFiles_eq_ok dir
  have hCamera : dir.cameraConfig = some raw := by
    rw [hLeaves.cameraConfig, hRaw]
  have hIdentity :
      checkThat (loadedIdentity first = loadedIdentity second)
          ("Camera identities/roles changed across boots; " ++
            "refusing to combine experiments") =
        .ok () :=
    checkThat_eq_ok.mpr (decide_eq_true hSame)
  unfold refreshBootConfig
  rw [Effect.returns_ask_bind_of_ok (a := first)
      (by simp [hCamera, readFile, hOld, bind, Except.bind]),
    Effect.returns_ask_bind_of_ok (a := second) (by exact hNew),
    Effect.returns_ask_bind_of_ok (a := ()) (by exact hIdentity),
    Effect.returns_ask_bind_of_ok (a := manifest)
      (by simp [hLeaves.prepared, readFile]),
    Effect.returns_ask_bind_of_ok (a := ()) (by exact hChecked),
    hProtocol]
  by_cases hUnchanged : first = second
  · rw [if_pos hUnchanged, ← hUnchanged]
    exact iff_of_true ⟨_, _, rfl⟩ (hMakes .e3One)
  · rw [if_neg hUnchanged, Effect.returns_bind_iff]
    constructor
    · rintro ⟨_, _, hRun, -⟩
      exact
        ((prepare_returns_of_same hSame true dir).mp
          ⟨_, _, hRun⟩).2.1
    · intro hE3One
      rcases (prepare_returns_of_same hSame true dir).mpr
        ⟨hLeaves.permits hSame, hE3One,
          fun adapter _ => hMakes adapter⟩ with
        ⟨_, _, hRun⟩
      exact ⟨_, _, hRun, _, _, rfl⟩

end PrepareSetup

open PrepareSetup

/-
  Two configurations that differ in the interrupts alone.  All
  adapters but one have the same texts.  A run returns where
  its prior run permits it and each adapter is made, and of the
  adapters only `e3-one.sh` is made anew for the other
  configuration.  What a run leaves is what any run of the
  other writes.  No refresh on later boots changes what
  `complete` finds, and one refresh returns where the other
  `e3-one.sh` is made.
-/
theorem prepare_same_files
    (setup : PrepareSetup)
    (protocol : Protocol)
    {first second : LoadedConfig}
    (hSame : loadedIdentity first = loadedIdentity second) :
    (∀ adapter, adapter ≠ .e3One →
      setup.writtenText protocol first adapter =
        setup.writtenText protocol second adapter) ∧
      (∀ allowFirst start,
        Effect.Returns (setup.prepare protocol allowFirst first)
            start ↔
          setup.Permits protocol allowFirst first start ∧
            ∀ adapter, setup.Makes protocol first adapter) ∧
      (∀ allowSecond other,
        Effect.Returns (setup.prepare protocol allowSecond second)
            other ↔
          setup.Permits protocol allowSecond second other ∧
            setup.Makes protocol second .e3One ∧
            ∀ adapter, adapter ≠ .e3One →
              setup.Makes protocol first adapter) ∧
      ∀ allowFirst start manifest dir,
        setup.prepare protocol allowFirst first start =
            .ok manifest dir →
          setup.Leaves protocol first start manifest dir ∧
            (∀ allowSecond other,
              ∀ adapter : Adapter, adapter ≠ .e3One →
                let reached :=
                  Effect.after
                    (setup.prepare protocol allowSecond second)
                    other
                reached.files.get? adapter.name =
                    other.files.get? adapter.name ∨
                  reached.files.get? adapter.name =
                    dir.files.get? adapter.name) ∧
            (∀ allowSecond other manifest' dir',
              setup.prepare protocol allowSecond second other =
                  .ok manifest' dir' →
                setup.Leaves protocol second other manifest'
                    dir' ∧
                  (∀ adapter : Adapter, adapter ≠ .e3One →
                    ∃ text,
                      dir.files.get? adapter.name = some text ∧
                        dir'.files.get? adapter.name =
                          some text) ∧
                  (other.files = start.files →
                    SameButE3One dir dir')) ∧
            (∀ raw discovered,
              start.cameraConfig = some raw →
                loadFields raw = .ok first →
                  loadFields discovered = .ok second →
                    (Effect.Returns
                        (setup.refreshBootConfig discovered)
                        dir ↔
                      setup.Makes protocol second .e3One)) ∧
            ∀ boots last,
              setup.bootRefreshes.run dir boots = some last →
                SameButE3One dir last ∧
                  ∀ markers stage,
                    setup.complete last markers stage =
                      setup.complete dir markers stage := by
  refine ⟨?_, prepare_returns_iff, prepare_returns_of_same hSame,
    ?_⟩
  · intro adapter hOther
    exact setup.writtenText_eq protocol hSame hOther
  · intro allowFirst start manifest dir hFirst
    have hHolds := (leaves_of_prepare hFirst).adapters
    refine ⟨leaves_of_prepare hFirst, ?_, ?_, ?_, ?_⟩
    · intro allowSecond other adapter hOther
      exact
        get?_after_prepare hSame hOther (hHolds adapter)
          allowSecond other
    · intro allowSecond other manifest' dir' hSecond
      have hLeaves := leaves_of_prepare hSecond
      refine ⟨hLeaves, ?_, prepare_sameButE3One hSame hFirst hSecond⟩
      intro adapter hOther
      exact
        (hHolds adapter).same_file hSame hOther
          (hLeaves.adapters adapter)
    · intro raw discovered hRaw hOld hNew
      exact
        refreshBootConfig_returns_iff hSame hFirst hRaw hOld hNew
    · intro boots last hRun
      have hKeeps :=
        run_bootRefreshes (filledAsPrepared_of_prepare hFirst) hRun
      exact ⟨hKeeps.1, complete_of_sameButE3One hKeeps.1⟩

/- The bench, with the fields that are added. -/
def benchLoaded (irq : Int) : LoadedConfig where
  config := benchConfig irq
  d435Serials := ["101", "102"]
  singleD435Serial := some "102"
  startupSerial := some "101"
  d455Serial := "201"
  e3Irqs :=
    [("d435", irq + 5, "xhci-hcd:usb3"),
      ("d455", irq, "xhci-hcd:usb1")]

/- A file with one case. -/
def benchCases : List String :=
  ["\x7b\"cases\":[\x7b\"case_id\":\"d435\",\"probe\":\x7b\x7d\x7d]\x7d"]

/- Of each script, the lines that are rewritten. -/
def benchE1 : List String :=
  ["repo=$(CDPATH= cd -- \"$(dirname \"$0\")/../..\" && pwd)",
    "output=$\x7b1:-$repo/tools/realsense_steady_bench/" ++
      "results/c1_full_receive_path_20260819\x7d",
    "d435_serial=1", "d455_serial=2",
    "python3 \"$path_analyzer\" \"$attempt_dir\" || true"]

def benchE2 : List String :=
  ["result_root=\"$tool_dir/results/d1_h1_single_d435_20260819\"",
    "serial=1", stateLine]

def benchE3One : List String :=
  ["    d435)", "serial=1", "xhci_irq=1", "xhci_label=a",
    "        ;;", "    d455)", "serial=2", "xhci_irq=2",
    "xhci_label=a", "        ;;", "sudo -n true"]

def benchE3 : List String :=
  ["one=\"$tool_dir/.run_h1_replacement_one_20260819.sh\"",
    "root=\"$tool_dir/results/" ++
      "h1_replacement_targeted_starvation_20260819\"",
    "matrix='stress:1", "stress:2'"]

def benchE4Calibrate : List String :=
  ["result_root=\"$tool_dir/results/" ++
      "p1_cross_layer_v2_20260820/calibration\"",
    "profiles=\"$tool_dir/results/" ++
      "p1_cross_layer_v2_20260820/profiles\"",
    "sudo -n true"]

def benchE4 : List String :=
  ["result_root=$\x7bRS_P1_RESULT_ROOT:-$tool_dir/results/" ++
      "p1_cross_layer_v2_20260820\x7d",
    "    disable_wifi", "    disable_autosuspend",
    "sudo -n true", stateLine]

def benchAblation : List String :=
  ["result_root=\"$tool_dir/results/" ++
      "model_stream_ablation_20260812\"",
    "    sudo -n systemctl stop wpa_supplicant.service " ++
      "2>/dev/null || true",
    "    sudo -n ip link set wlan0 down 2>/dev/null || true",
    stateLine]

def benchSources : List (String × List String) :=
  [(".d1_h1_single_d435_20260819.json", benchCases),
    (".h1_single_d455_20260819.json", benchCases),
    ("p1_v2_cases_20260820.json", benchCases),
    (".model_stream_ablation_cases_20260812.json", benchCases),
    (".c1_full_receive_path_20260819.sh", benchE1),
    (".d1_h1_single_d435_20260819.sh", benchE2),
    (".run_h1_replacement_one_20260819.sh", benchE3One),
    (".run_h1_replacement_matrix_20260819.sh", benchE3),
    ("run_p1_v2_calibration_20260820.sh", benchE4Calibrate),
    ("run_p1_cross_layer_v2_20260820.sh", benchE4),
    (".model_stream_ablation_20260812.sh", benchAblation)]

def lineChars (lines : List String) : List Char :=
  lines.flatMap (fun line => line.toList ++ ['\n'])

/- A repository with these scripts; the digest is the text. -/
def benchScripts : PrepareSetup where
  repo := "/r"
  root := "/c"
  source name :=
    (benchSources.lookup name).map (fun lines =>
      ⟨String.ofList (lineChars lines),
        String.ofList (lineChars lines)⟩)
  floatRepr := id
  shAccepts _ := true
  digest := id

theorem toOption_benchRead_bind
    {A : Type}
    (lines : List String)
    {name : String}
    (hSource : benchSources.lookup name = some lines)
    (next : String → Except String A) :
    (benchScripts.read name >>= next).toOption =
      (next
        (String.ofList
          (benchScripts.readChars
            (lineChars lines)))).toOption := by
  have hRead :
      benchScripts.source name =
        some
          ⟨String.ofList (lineChars lines),
            String.ofList (lineChars lines)⟩ := by
    change (benchSources.lookup name).map _ = _
    rw [hSource]
    rfl
  rw [toOption_read_bind benchScripts hRead,
    String.toList_ofList]

theorem benchCases_loads :
    Json.loads (benchScripts.readChars (lineChars benchCases)) =
      .ok
        (.obj
          [(Json.codesOf "cases".toList,
            .arr
              [.obj
                [(Json.codesOf "case_id".toList,
                    jsonText "d435"),
                  (Json.codesOf "probe".toList, .obj [])]])]) := by
  simp only [readChars, benchCases, lineChars,
    List.flatMap_cons, List.flatMap_nil, String.toList_append,
    jsonText]
  repeat rw [String.toList_ofList]
  rfl

theorem benchScripts_caseText
    (cfg : LoadedConfig)
    (single startup : String)
    {name : String}
    (hSource : benchSources.lookup name = some benchCases) :
    (benchScripts.caseText cfg single startup
      name).toOption.isSome := by
  unfold caseText
  rw [toOption_benchRead_bind benchCases hSource, caseFile,
    String.toList_ofList, benchCases_loads]
  cases startsWith name "p1_" with
  | true => rfl
  | false => rfl

/- The literals are rewritten before the kernel computes. -/
theorem benchScripts_texts
    (irq : Int)
    (suffix phase policies kernel threading : String) :
    (benchScripts.e1Text (benchLoaded irq)
        "102").toOption.isSome ∧
      (benchScripts.e2Text "102" suffix).toOption.isSome ∧
      benchScripts.e4CalibrateText.toOption.isSome ∧
      (benchScripts.e4Text phase policies kernel
        threading).toOption.isSome ∧
      benchScripts.ablationText.toOption.isSome ∧
      (benchScripts.e3Text >>= fun text =>
        smokeMatrix
          (replaceEach text
            (smokeReplacements 3))).toOption.isSome := by
  have hOk :
      ∀ text : String,
        (Except.ok text : Except String String).toOption =
          some text :=
    fun _ => rfl
  have hD455 : (benchLoaded irq).d455Serial = "201" := rfl
  rw [e1Text, e2Text, e4CalibrateText, e4Text, ablationText,
    e3Text, toOption_bind (_ >>= _),
    toOption_benchRead_bind benchE1
      (by simp [benchSources, List.lookup_cons]),
    toOption_benchRead_bind benchE2
      (by simp [benchSources, List.lookup_cons]),
    toOption_benchRead_bind benchE4Calibrate
      (by simp [benchSources, List.lookup_cons]),
    toOption_benchRead_bind benchE4
      (by simp [benchSources, List.lookup_cons]),
    toOption_benchRead_bind benchAblation
      (by simp [benchSources, List.lookup_cons]),
    toOption_benchRead_bind benchE3
      (by simp [benchSources, List.lookup_cons])]
  simp only [toOption_bind, toOption_assignment,
    toOption_replaceOnce, toOption_before, toList_configPaths,
    smokeMatrix, toList_replaceEach, smokeReplacements,
    List.foldl_cons, List.foldl_nil, hOk, hD455,
    Option.bind_map, Function.comp_def, Option.isSome_bind,
    Option.isSome_map, Option.isSome_some, String.toList_ofList,
    String.toList_append, readChars]
  simp only [benchE1, benchE2, benchE4Calibrate, benchE4,
    benchAblation, benchE3, lineChars, List.flatMap_cons,
    List.flatMap_nil, String.toList_append]
  unfold stateLine
  simp only [String.toList_append]
  repeat rw [String.toList_ofList]
  decide +kernel

theorem benchScripts_e3OneText
    {irq : Int}
    (hIrq : irq = 130 ∨ irq = 140) :
    (benchScripts.e3OneText (benchLoaded irq)
      "102").toOption.isSome := by
  have hD455 : (benchLoaded irq).d455Serial = "201" := rfl
  have hFirst :
      (benchLoaded irq).e3Irqs.lookup "d435" =
        some (irq + 5, "xhci-hcd:usb3") :=
    rfl
  have hSecond :
      (benchLoaded irq).e3Irqs.lookup "d455" =
        some (irq, "xhci-hcd:usb1") :=
    rfl
  rw [e3OneText,
    toOption_benchRead_bind benchE3One
      (by simp [benchSources, List.lookup_cons])]
  simp only [toOption_bind, toOption_replaceOnce,
    toOption_configureModel hFirst,
    toOption_configureModel hSecond, toList_configPaths,
    toList_replaceAll, hD455, Option.bind_map,
    Function.comp_def, String.toList_ofList,
    String.toList_append, readChars]
  simp only [benchE3One, lineChars, List.flatMap_cons,
    List.flatMap_nil]
  repeat rw [String.toList_ofList]
  rcases hIrq with rfl | rfl
  · decide +kernel
  · decide +kernel

theorem benchScripts_makes
    (protocol : Protocol)
    {irq : Int}
    (hIrq : irq = 130 ∨ irq = 140)
    (adapter : Adapter) :
    benchScripts.Makes protocol (benchLoaded irq) adapter := by
  have hTexts := benchScripts_texts irq
  have hMatrix := (hTexts "" "" "" "" "").2.2.2.2.2
  have hCase :
      ∀ {name}, benchSources.lookup name = some benchCases →
        (benchScripts.caseText (benchLoaded irq) "102" "101"
          name).toOption.isSome :=
    fun hSource =>
      benchScripts_caseText (benchLoaded irq) "102" "101" hSource
  have hSingle : (benchLoaded irq).singleD435 = .ok "102" := rfl
  have hStartup : (benchLoaded irq).startup = .ok "101" := rfl
  refine makes_of_texts hSingle hStartup (fun _ => rfl) ?_ hMatrix
  cases adapter with
  | d1H1SingleD435 => exact hCase (by simp [benchSources])
  | h1SingleD455 =>
      exact hCase (by simp [benchSources, List.lookup_cons])
  | p1V2Cases =>
      exact hCase (by simp [benchSources, List.lookup_cons])
  | ablationCases =>
      exact hCase (by simp [benchSources, List.lookup_cons])
  | e1 => exact (hTexts "" "" "" "" "").1
  | e2Calibrate => exact (hTexts _ "" "" "" "").2.1
  | e2Urb5 => exact (hTexts _ "" "" "" "").2.1
  | e2Urb16 => exact (hTexts _ "" "" "" "").2.1
  | e3One => exact benchScripts_e3OneText hIrq
  | e3 =>
      rcases isSome_toOption_bind_iff.mp hMatrix with
        ⟨text, hText, -⟩
      rw [adapterText, hText]
      rfl
  | e4Calibrate => exact (hTexts "" "" "" "" "").2.2.1
  | e4StandardHardirq => exact (hTexts "" _ _ _ _).2.2.2.1
  | e4StandardThreaded => exact (hTexts "" _ _ _ _).2.2.2.1
  | e4RtThreaded => exact (hTexts "" _ _ _ _).2.2.2.1
  | ablation => exact (hTexts "" "" "" "" "").2.2.2.2.1
  | startup => rfl
  | overhead => rfl
  | diagnosis => rfl

/- The directory of a campaign that has not been prepared. -/
def benchDirectory : Directory where
  cameraConfig := some (benchConfig 130)
  files := ∅
  prepared := none

/-
  Both numberings are prepared in one directory, and a refresh
  from one to the other returns; a marker of E1 that was valid
  before is valid after each.
-/
def KeepsMarker (protocol : Protocol) : Prop :=
  ∃ manifest dir manifest' dir' last text,
    benchScripts.prepare protocol false (benchLoaded 130)
        benchDirectory = .ok manifest dir ∧
      benchScripts.prepare protocol true (benchLoaded 140) dir =
        .ok manifest' dir' ∧
      benchScripts.refreshBootConfig (benchConfig 140) dir =
        .ok () last ∧
      dir.files.get? "e1.sh" = some text ∧
      let markers : Stage → Option Marker :=
        fun _ => some ⟨.e1, benchScripts.digest text⟩
      benchScripts.complete dir markers .e1 = .ok true ∧
        benchScripts.complete dir' markers .e1 = .ok true ∧
        benchScripts.complete last markers .e1 = .ok true

/- Full runs and smoke tests. -/
theorem prepare_same_files_renumbered :
    benchLoaded 130 ≠ benchLoaded 140 ∧
      KeepsMarker ⟨false, 30⟩ ∧ KeepsMarker ⟨true, 3⟩ := by
  have hOld :
      loadFields (benchConfig 130) = .ok (benchLoaded 130) := by
    decide +kernel
  have hNew :
      loadFields (benchConfig 140) = .ok (benchLoaded 140) := by
    decide +kernel
  have hIdentity :
      cameraIdentity (benchConfig 130) =
        cameraIdentity (benchConfig 140) := rfl
  have hSame := loadFields_identity hIdentity hOld hNew
  have hBoth : ∀ protocol, KeepsMarker protocol := by
    intro protocol
    rcases prepare_same_files benchScripts protocol hSame with
      ⟨-, hReturns, hReturns', hFull⟩
    have hMakes := benchScripts_makes protocol (.inl rfl)
    have hMakes' := benchScripts_makes protocol (.inr rfl) .e3One
    rcases (hReturns false benchDirectory).mpr
      ⟨(fun _ hPrior => by cases hPrior), hMakes⟩ with
      ⟨manifest, dir, hRun⟩
    rcases hFull false benchDirectory manifest dir hRun with
      ⟨hLeaves, -, hAgain, hRefresh, hBoots⟩
    rcases (hReturns' true dir).mpr
      ⟨hLeaves.permits hSame, hMakes',
        fun adapter _ => hMakes adapter⟩ with
      ⟨manifest', dir', hRun'⟩
    rcases (hRefresh _ _ rfl hOld hNew).mpr hMakes' with
      ⟨_, last, hRefreshed⟩
    rcases hAgain true dir manifest' dir' hRun' with
      ⟨-, hFiles, -⟩
    rcases hFiles .e1 (by decide) with ⟨text, hText, hText'⟩
    have hLast :
        benchScripts.bootRefreshes.run dir [benchConfig 140] =
          some last := by
      change some (Effect.after _ dir) = some last
      rw [Effect.after, hRefreshed]
    refine
      ⟨manifest, dir, manifest', dir', last, text, hRun, hRun',
        hRefreshed, hText, complete_marked hText rfl,
        complete_marked hText' rfl, ?_⟩
    rw [(hBoots _ _ hLast).2]
    exact complete_marked hText rfl
  exact ⟨by decide +kernel, hBoth _, hBoth _⟩

end Reproduction

end RsCamera
