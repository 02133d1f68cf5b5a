import RsCamera.Probe.Command

/-
  The options of the campaign that are put over every case
  (`main` of `run_steady_campaign.py`), and which of the
  overridden cases the steady probe runs.

  Key definitions include:
    * `Overrides`, `Overrides.apply`
    * `Overrides.Fits`

  Key theorems include:
    * `runnable_apply_iff`
    * `overridden_accepted_iff`
-/

------------------------------------------------------------
-- Overriding a Case
------------------------------------------------------------

namespace RsCamera

namespace Probe

/-
  What the command line of the campaign puts over its cases.
  Two of the numbers have been checked before; the duration
  is in milliseconds, rounded.
-/
structure Overrides where
  frames : Option Int
  durationMs : Option Int
  applyAfterFrames : Option Int
  allowPartialProfile : Bool
  serials : List String
  duration_nonneg : ∀ ms ∈ durationMs, 0 ≤ ms
  applyAfter_pos : ∀ count ∈ applyAfterFrames, 0 < count

namespace Overrides

variable (overrides : Overrides)

/- Counting frames ends a measurement of fixed duration. -/
def setFrames (case : ProbeCase) : ProbeCase :=
  match overrides.frames with
  | none => case
  | some frames =>
      { case with
        frames := some frames
        measurementDurationMs :=
          if overrides.durationMs.isNone then none
          else case.measurementDurationMs }

/- `--measurement-duration-seconds`. -/
def setDuration (case : ProbeCase) : ProbeCase :=
  match overrides.durationMs with
  | none => case
  | some ms =>
      { case with
        measurementDurationMs := some ms
        measurementTimeoutMs := none }

/- `--deadline-apply-after-frames`. -/
def setApplyAfter (case : ProbeCase) : ProbeCase :=
  match overrides.applyAfterFrames with
  | none => case
  | some count =>
      { case with deadlineApplyAfterFrames := some count }

/- `--deadline-allow-partial-profile`. -/
def setPartialProfile (case : ProbeCase) : ProbeCase :=
  if overrides.allowPartialProfile then
    { case with deadlineAllowPartialProfile := true }
  else
    case

/- The serials also give both numbers of cameras. -/
def setSerials (case : ProbeCase) : ProbeCase :=
  if overrides.serials = [] then
    case
  else
    { case with
      serials := some (.many overrides.serials)
      cameraCount := some overrides.serials.length
      physicalCameraCount := some overrides.serials.length }

/- The loops of `main`, in their order. -/
def apply (case : ProbeCase) : ProbeCase :=
  overrides.setSerials
    (overrides.setPartialProfile
      (overrides.setApplyAfter
        (overrides.setDuration (overrides.setFrames case))))

/-
  What an override can still get wrong: a number that is no
  positive count or no `int`, too late a change of scheduler,
  and serials that are not the cameras with a role.
-/
structure Fits
    (case : ProbeCase)
    (policy : Policy) : Prop where
  frames :
    ∀ count ∈ overrides.frames, 0 < count ∧ CInt count
  duration : ∀ ms ∈ overrides.durationMs, CInt ms
  apply_after :
    ∀ count ∈ overrides.applyAfterFrames,
      CInt count ∧
        (policy.modeled →
          count < case.warmupFrames.getD 30)
  serials :
    overrides.serials ≠ [] →
      CInt overrides.serials.length ∧
        ∀ master ∈ case.master?,
          overrides.serials.Nodup ∧
            ∀ serial,
              serial ∈ overrides.serials ↔
                serial = master ∨ serial ∈ case.slaveList

end Overrides

end Probe

end RsCamera

------------------------------------------------------------
-- The Overridden Fields
------------------------------------------------------------

namespace RsCamera

namespace Probe

namespace Overrides

variable (overrides : Overrides) (case : ProbeCase)

theorem setFrames_eq :
    overrides.setFrames case =
      { case with
        frames := overrides.frames.or case.frames
        measurementDurationMs :=
          if overrides.frames.isSome &&
              overrides.durationMs.isNone then
            none
          else
            case.measurementDurationMs } := by
  unfold setFrames
  cases overrides.frames with
  | none => rfl
  | some frames => rfl

theorem setDuration_eq :
    overrides.setDuration case =
      { case with
        measurementDurationMs :=
          overrides.durationMs.or case.measurementDurationMs
        measurementTimeoutMs :=
          if overrides.durationMs.isSome then none
          else case.measurementTimeoutMs } := by
  unfold setDuration
  cases overrides.durationMs with
  | none => rfl
  | some ms => rfl

theorem setApplyAfter_eq :
    overrides.setApplyAfter case =
      { case with
        deadlineApplyAfterFrames :=
          overrides.applyAfterFrames.or
            case.deadlineApplyAfterFrames } := by
  unfold setApplyAfter
  cases overrides.applyAfterFrames with
  | none => rfl
  | some count => rfl

theorem setPartialProfile_eq :
    overrides.setPartialProfile case =
      { case with
        deadlineAllowPartialProfile :=
          overrides.allowPartialProfile ||
            case.deadlineAllowPartialProfile } := by
  unfold setPartialProfile
  cases overrides.allowPartialProfile with
  | false => rfl
  | true => rfl

theorem setSerials_eq :
    overrides.setSerials case =
      { case with
        serials :=
          if overrides.serials = [] then case.serials
          else some (.many overrides.serials)
        cameraCount :=
          if overrides.serials = [] then case.cameraCount
          else some overrides.serials.length
        physicalCameraCount :=
          if overrides.serials = [] then
            case.physicalCameraCount
          else
            some overrides.serials.length } := by
  unfold setSerials
  by_cases hSerials : overrides.serials = []
  · simp only [hSerials, if_true]
  · simp only [hSerials, if_false]

/- All five at once; every other field is left alone. -/
theorem apply_eq :
    overrides.apply case =
      { case with
        frames := overrides.frames.or case.frames
        measurementDurationMs :=
          overrides.durationMs.or
            (if overrides.frames.isSome &&
                overrides.durationMs.isNone then
              none
            else
              case.measurementDurationMs)
        measurementTimeoutMs :=
          if overrides.durationMs.isSome then none
          else case.measurementTimeoutMs
        deadlineApplyAfterFrames :=
          overrides.applyAfterFrames.or
            case.deadlineApplyAfterFrames
        deadlineAllowPartialProfile :=
          overrides.allowPartialProfile ||
            case.deadlineAllowPartialProfile
        serials :=
          if overrides.serials = [] then case.serials
          else some (.many overrides.serials)
        cameraCount :=
          if overrides.serials = [] then case.cameraCount
          else some overrides.serials.length
        physicalCameraCount :=
          if overrides.serials = [] then
            case.physicalCameraCount
          else
            some overrides.serials.length } := by
  unfold apply
  rw [setFrames_eq, setDuration_eq, setApplyAfter_eq,
    setPartialProfile_eq, setSerials_eq]

theorem serialList_apply :
    (overrides.apply case).serialList =
      if overrides.serials = [] then case.serialList
      else overrides.serials := by
  rw [apply_eq]
  unfold ProbeCase.serialList
  by_cases hSerials : overrides.serials = []
  · simp [hSerials]
  · simp [hSerials]

theorem cameras_apply :
    (overrides.apply case).cameras =
      if overrides.serials = [] then case.cameras
      else overrides.serials.length := by
  rw [apply_eq]
  unfold ProbeCase.cameras
  by_cases hSerials : overrides.serials = []
  · simp [hSerials]
  · simp [hSerials]

theorem cameraTotal_apply
    (hCount : overrides.serials ≠ [] →
      CInt overrides.serials.length) :
    (overrides.apply case).cameraTotal =
      if overrides.serials = [] then case.cameraTotal
      else overrides.serials.length := by
  unfold ProbeCase.cameraTotal
  rw [serialList_apply, cameras_apply]
  by_cases hSerials : overrides.serials = []
  · simp [hSerials]
  · have hRange := hCount hSerials
    unfold CInt at hRange
    simp only [hSerials, if_false, ne_eq, not_false_eq_true,
      if_true]
    apply Int.bmod_eq_of_le_mul_two
    · omega
    · omega

end Overrides

/- A given value stands before the one of the case. -/
theorem forall_or_iff
    {P : Int → Prop}
    {given base : Option Int}
    (hBase : ∀ value ∈ base.toList, P value) :
    (∀ value ∈ (given.or base).toList, P value) ↔
      ∀ value ∈ given, P value := by
  cases given with
  | none => simpa using hBase
  | some value => simp

theorem forall_ite_none
    {P : Int → Prop}
    {base : Option Int}
    (hBase : ∀ value ∈ base.toList, P value)
    (ended : Bool) :
    ∀ value ∈ (if ended then none else base).toList,
      P value := by
  cases ended with
  | true => simp
  | false => exact hBase

namespace Overrides

variable (overrides : Overrides)

theorem integers_apply
    {case : ProbeCase}
    (hBase : ∀ value ∈ case.integers, CInt value) :
    (∀ value ∈ (overrides.apply case).integers, CInt value) ↔
      (∀ count ∈ overrides.frames, CInt count) ∧
        (∀ ms ∈ overrides.durationMs, CInt ms) ∧
        ∀ count ∈ overrides.applyAfterFrames, CInt count := by
  rw [apply_eq]
  unfold ProbeCase.integers at hBase ⊢
  simp only [List.forall_mem_append] at hBase ⊢
  rcases hBase with ⟨hFrames, hDuration, hWarmup, hHealth,
    hCount, hFrameTimeout, hStartup, hTimeout, hRest⟩
  rw [forall_or_iff hFrames,
    forall_or_iff (forall_ite_none hDuration _),
    forall_or_iff hCount]
  constructor
  · rintro ⟨hFrames, hDuration, -, -, hCount, -⟩
    exact ⟨hFrames, hDuration, hCount⟩
  · rintro ⟨hFrames, hDuration, hCount⟩
    exact
      ⟨hFrames, hDuration, hWarmup, hHealth, hCount,
        hFrameTimeout, hStartup, forall_ite_none hTimeout _,
        hRest⟩

end Overrides

end Probe

end RsCamera

------------------------------------------------------------
-- Overridden Cases
------------------------------------------------------------

namespace RsCamera

namespace Probe

open Overrides

variable {case : ProbeCase} {policy : Policy} {launch : Launch}

theorem RolesFit.of_serials
    {other : ProbeCase}
    {master : String}
    (hFit : RolesFit case master)
    (hSlaves : other.slaveList = case.slaveList)
    (hSerials : other.serialList ≠ [])
    (hNodup : other.serialList.Nodup)
    (hAll :
      ∀ serial, serial ∈ other.serialList ↔
        serial = master ∨ serial ∈ case.slaveList) :
    RolesFit other master := by
  refine ⟨?_, hSerials, ?_, ?_, hNodup, ?_⟩
  · rw [hSlaves]
    exact hFit.slaves
  · rw [hSlaves]
    exact hFit.slaves_nodup
  · rw [hSlaves]
    exact hFit.master_notMem
  · rw [hSlaves]
    exact hAll

theorem roles_apply
    (overrides : Overrides)
    (hRoles :
      case.master? = none ∧ case.slaveList = [] ∨
        ∃ master, case.master? = some master ∧
          RolesFit case master) :
    ((overrides.apply case).master? = none ∧
          (overrides.apply case).slaveList = [] ∨
        ∃ master, (overrides.apply case).master? = some master ∧
          RolesFit (overrides.apply case) master) ↔
      (overrides.serials ≠ [] →
        ∀ master ∈ case.master?,
          overrides.serials.Nodup ∧
            ∀ serial,
              serial ∈ overrides.serials ↔
                serial = master ∨ serial ∈ case.slaveList) := by
  have hMaster : (overrides.apply case).master? = case.master? := by
    rw [apply_eq]
    rfl
  have hSlaves :
      (overrides.apply case).slaveList = case.slaveList := by
    rw [apply_eq]
    rfl
  have hSerials := serialList_apply overrides case
  rw [hMaster, hSlaves]
  rcases hRoles with ⟨hNone, hEmpty⟩ | ⟨master, hSome, hFit⟩
  · refine iff_of_true (.inl ⟨hNone, hEmpty⟩) ?_
    intro _ master hIs
    rw [hNone] at hIs
    cases hIs
  · constructor
    · rintro (⟨hNone, -⟩ | ⟨other, hOther, hNew⟩) hGiven given hIs
      · rw [hSome] at hNone
        cases hNone
      · rw [Option.mem_def, hOther] at hIs
        cases hIs
        rw [if_neg hGiven] at hSerials
        have hNodup := hNew.serials_nodup
        have hAll := hNew.all_roles
        rw [hSerials] at hNodup hAll
        rw [hSlaves] at hAll
        exact ⟨hNodup, hAll⟩
    · intro hGiven
      refine .inr ⟨master, hSome, ?_⟩
      by_cases hEmpty : overrides.serials = []
      · rw [if_pos hEmpty] at hSerials
        apply hFit.of_serials hSlaves
        · rw [hSerials]
          exact hFit.serials
        · rw [hSerials]
          exact hFit.serials_nodup
        · rw [hSerials]
          exact hFit.all_roles
      · rw [if_neg hEmpty] at hSerials
        rcases hGiven hEmpty master hSome with ⟨hNodup, hAll⟩
        apply hFit.of_serials hSlaves
        · rw [hSerials]
          exact hEmpty
        · rw [hSerials]
          exact hNodup
        · rw [hSerials]
          exact hAll

theorem integers_apply_iff
    (overrides : Overrides)
    (hRun : Runnable case policy launch)
    (hCount : overrides.serials ≠ [] →
      CInt overrides.serials.length) :
    (∀ value ∈ caseIntegers (overrides.apply case) policy launch,
        CInt value) ↔
      (∀ count ∈ overrides.frames, CInt count) ∧
        (∀ ms ∈ overrides.durationMs, CInt ms) ∧
        ∀ count ∈ overrides.applyAfterFrames, CInt count := by
  have hBase := hRun.integers
  unfold caseIntegers at hBase ⊢
  simp only [List.forall_mem_cons, List.forall_mem_append]
    at hBase ⊢
  rcases hBase with ⟨hCameras, hIntegers, hLaunch⟩
  rw [integers_apply overrides hIntegers, cameras_apply]
  have hTotal :
      CInt (if overrides.serials = [] then case.cameras
        else overrides.serials.length) := by
    by_cases hEmpty : overrides.serials = []
    · rw [if_pos hEmpty]
      exact hCameras
    · rw [if_neg hEmpty]
      exact hCount hEmpty
  constructor
  · rintro ⟨-, hGiven, -⟩
    exact hGiven
  · intro hGiven
    exact ⟨hTotal, hGiven, hLaunch⟩

/- No override can make the duration and the timeout clash. -/
theorem duration_apply
    (overrides : Overrides)
    (hRun : Runnable case policy launch) :
    0 ≤ (overrides.apply case).measurementDurationMs.getD 0 ∧
      ((overrides.apply case).measurementDurationMs.getD 0 = 0 ∨
        (overrides.apply case).measurementTimeoutMs.getD 0 ≤
          0) := by
  rw [apply_eq]
  cases hGiven : overrides.durationMs with
  | some ms =>
      exact ⟨overrides.duration_nonneg ms hGiven, .inr (le_refl 0)⟩
  | none =>
      cases overrides.frames with
      | some count => exact ⟨le_refl 0, .inl rfl⟩
      | none => exact ⟨hRun.duration, hRun.one_limit⟩

theorem applyAfter_apply
    (overrides : Overrides)
    (hRun : Runnable case policy launch) :
    0 ≤ (overrides.apply case).deadlineApplyAfterFrames.getD
      0 := by
  rw [apply_eq]
  cases hGiven : overrides.applyAfterFrames with
  | some count =>
      exact le_of_lt (overrides.applyAfter_pos count hGiven)
  | none => exact hRun.apply_after

theorem cameras_pos_apply
    (overrides : Overrides)
    (hRun : Runnable case policy launch)
    (hCount : overrides.serials ≠ [] →
      CInt overrides.serials.length) :
    0 < (overrides.apply case).cameraTotal := by
  rw [cameraTotal_apply overrides case hCount]
  by_cases hEmpty : overrides.serials = []
  · rw [if_pos hEmpty]
    exact hRun.cameras
  · rw [if_neg hEmpty]
    have hLength := List.length_pos_iff.mpr hEmpty
    omega

/- A case that is run is run with the overrides that fit it. -/
theorem runnable_apply_iff
    (overrides : Overrides)
    (hRun : Runnable case policy launch) :
    Runnable (overrides.apply case) policy launch ↔
      overrides.Fits case policy := by
  have hSerials :
      CInt (overrides.apply case).cameras →
        overrides.serials ≠ [] →
          CInt overrides.serials.length := by
    intro hCameras hGiven
    rw [cameras_apply, if_neg hGiven] at hCameras
    exact hCameras
  have hSame :
      (overrides.apply case).warmupFrames = case.warmupFrames := by
    rw [apply_eq]
  constructor
  · intro hNew
    have hCount :=
      hSerials (hNew.integers _ (List.mem_cons_self ..))
    rcases (integers_apply_iff overrides hRun hCount).mp
      hNew.integers with ⟨hFrames, hDuration, hAfter⟩
    refine ⟨?_, hDuration, ?_, ?_⟩
    · intro count hIs
      have hPositive := hNew.frames
      rw [apply_eq] at hPositive
      rw [Option.mem_def] at hIs
      simp only [hIs, Option.some_or, Option.getD_some]
        at hPositive
      exact ⟨hPositive, hFrames count hIs⟩
    · intro count hIs
      refine ⟨hAfter count hIs, ?_⟩
      intro hModeled
      have hLess := (hNew.modeled hModeled).2
      rw [hSame, apply_eq] at hLess
      rw [Option.mem_def] at hIs
      simp only [hIs, Option.some_or, Option.getD_some] at hLess
      exact hLess
    · intro hGiven
      exact
        ⟨hCount hGiven,
          (roles_apply overrides hRun.roles).mp hNew.roles
            hGiven⟩
  · intro hFits
    have hCount :=
      fun hGiven => (hFits.serials hGiven).1
    have hDuration := duration_apply overrides hRun
    refine
      { integers :=
          (integers_apply_iff overrides hRun hCount).mpr
            ⟨fun count hIs => (hFits.frames count hIs).2,
              hFits.duration,
              fun count hIs => (hFits.apply_after count hIs).1⟩
        cameras := cameras_pos_apply overrides hRun hCount
        frames := ?_
        fps := ?_
        duration := hDuration.1
        one_limit := hDuration.2
        warmup := ?_
        frame_timeout := ?_
        startup_timeout := ?_
        health := ?_
        health_le := ?_
        delivery := ?_
        apply_after := applyAfter_apply overrides hRun
        gate := hRun.gate
        roles :=
          (roles_apply overrides hRun.roles).mpr
            (fun hGiven => (hFits.serials hGiven).2)
        priority := hRun.priority
        modeled := ?_ }
    · rw [apply_eq]
      cases hGiven : overrides.frames with
      | some count => exact (hFits.frames count hGiven).1
      | none => exact hRun.frames
    · rw [apply_eq]
      exact hRun.fps
    · rw [hSame]
      exact hRun.warmup
    · rw [apply_eq]
      exact hRun.frame_timeout
    · rw [apply_eq]
      exact hRun.startup_timeout
    · rw [apply_eq]
      exact hRun.health
    · rw [apply_eq]
      exact hRun.health_le
    · rw [apply_eq]
      exact hRun.delivery
    · intro hModeled
      rcases hRun.modeled hModeled with ⟨hTwo, hLess⟩
      rw [hSame, apply_eq]
      refine ⟨hTwo, ?_⟩
      cases hGiven : overrides.applyAfterFrames with
      | some count =>
          exact (hFits.apply_after count hGiven).2 hModeled
      | none => exact hLess

/-
  A case that the probe accepts, under the campaign's options:
  the probe accepts it still exactly if they fit it, and then
  has the options of the overridden case.
-/
theorem overridden_accepted_iff
    (overrides : Overrides)
    (hAccepted :
      ∃ opts,
        parseArgs (probeArguments case policy launch) =
          .ok opts)
    (opts : Options) :
    parseArgs
        (probeArguments (overrides.apply case) policy launch) =
      .ok opts ↔
    overrides.Fits case policy ∧
      opts =
        { caseOptions (overrides.apply case) policy launch with
          cameraCount :=
            if overrides.serials = [] then case.cameraTotal
            else overrides.serials.length } := by
  rcases hAccepted with ⟨accepted, hAccepted⟩
  have hRun := ((probeArguments_accepted_iff ..).mp hAccepted).1
  rw [probeArguments_accepted_iff,
    runnable_apply_iff overrides hRun]
  refine and_congr_right ?_
  intro hFits
  rw [cameraTotal_apply overrides case
    (fun hGiven => (hFits.serials hGiven).1)]

/- Two synchronized cameras, with a limit on the time. -/
def pairedCase : ProbeCase where
  serials := some (.many ["101", "102"])
  hardwareSyncMaster := some "101"
  hardwareSyncSlaves := some (.one "102")
  frames := some 900
  measurementTimeoutMs := some 90000

/- A launch with a profile. -/
def deadlineLaunch : Launch where
  priority := 80
  probe := ⟨"/b/probe", by decide⟩
  schedulerProfile := ⟨"/r/profile.csv", by decide⟩
  transition := none
  summaryPath := ⟨"/r/summary.json", by decide⟩
  eventsPath := ⟨"/r/events.csv", by decide⟩

/- A minute for the cameras in the other order. -/
def minuteOverrides (applyAfterFrames : Nat) : Overrides where
  frames := none
  durationMs := some 60000
  applyAfterFrames := some (applyAfterFrames + 1)
  allowPartialProfile := true
  serials := ["102", "101"]
  duration_nonneg := by
    rintro ms ⟨⟩
    decide
  applyAfter_pos := by
    rintro count ⟨⟩
    omega

theorem pairedCase_runnable :
    Runnable pairedCase .deadline deadlineLaunch where
  integers := by decide
  cameras := by decide
  frames := by decide
  fps := by decide
  duration := by decide
  one_limit := by decide
  warmup := by decide
  frame_timeout := by decide
  startup_timeout := by decide
  health := by decide
  health_le := by decide
  delivery := by decide
  apply_after := by decide
  gate := by
    intro transition hIs
    cases hIs
  roles := by
    refine .inr ⟨"101", by decide, by decide, by decide,
      by decide, by decide, by decide, ?_⟩
    intro serial
    simp [pairedCase, ProbeCase.serialList, ProbeCase.slaveList]
  priority := by
    intro hRm
    cases hRm
  modeled := by decide

/- The scheduler is changed before the warm-up ends, or not. -/
theorem pairedCase_overridden :
    (∃ opts,
      parseArgs
          (probeArguments
            ((minuteOverrides 19).apply pairedCase) .deadline
            deadlineLaunch) = .ok opts ∧
        opts.serials = ["102", "101"] ∧ opts.cameraCount = 2 ∧
        opts.measurementDurationMs = 60000 ∧
        opts.measurementTimeoutMs = 0 ∧
        opts.schedulerApplyAfterFrames = 20) ∧
      ∀ opts,
        parseArgs
            (probeArguments
              ((minuteOverrides 29).apply pairedCase) .deadline
              deadlineLaunch) ≠ .ok opts := by
  have hAccepted :
      ∃ opts,
        parseArgs
            (probeArguments pairedCase .deadline
              deadlineLaunch) = .ok opts :=
    ⟨_, (probeArguments_accepted_iff ..).mpr
      ⟨pairedCase_runnable, rfl⟩⟩
  refine ⟨⟨_, (overridden_accepted_iff (minuteOverrides 19)
    hAccepted _).mpr ⟨⟨?_, ?_, ?_, ?_⟩, rfl⟩, ?_⟩, ?_⟩
  · rintro count ⟨⟩
  · rintro ms ⟨⟩
    decide
  · rintro count ⟨⟩
    decide
  · intro _
    refine ⟨by decide, ?_⟩
    rintro master hIs
    have hMaster : master = "101" := by
      rw [Option.mem_def] at hIs
      exact (Option.some.inj hIs).symm
    refine ⟨by decide, ?_⟩
    intro serial
    rw [hMaster]
    simp [minuteOverrides, pairedCase, ProbeCase.slaveList,
      or_comm]
  · exact ⟨rfl, rfl, rfl, rfl, rfl⟩
  · intro opts hNone
    have hFits :=
      ((overridden_accepted_iff (minuteOverrides 29) hAccepted
        opts).mp hNone).1
    have hLess := (hFits.apply_after 30 rfl).2 rfl
    revert hLess
    decide

end Probe

end RsCamera
