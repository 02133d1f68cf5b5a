import Mathlib.Data.List.Induction
import RsCamera.Lib.Effect

/-
  Taking the cameras off the kernel driver and giving them
  back (`SystemControls`, for the RSUSB backend, and the
  helper script `realsense_rsusb_uvc.sh`).

  The helper changes the interfaces of one device one after
  the other and stops at the first write that fails.  A loop
  of helper calls goes through the devices, and each call is
  repeated until it succeeds or a time-out passes.

  One flag records for the whole campaign that the cameras
  are off the driver.  It is set when the loop over all
  devices has completed, and `cleanup` does nothing while
  the flag is clear.

  Key definitions include:
    * `Interface`, `helperWrites`
    * `runRsusbHelper`
    * `prepareCampaign`, `prepareAttempt`, `cleanup`

  Key theorems include:
    * `runRsusbHelper_unbind`
    * `runRsusbHelper_bind`
    * `cleanup_rebinds_iff`
-/

------------------------------------------------------------
-- The Helper
------------------------------------------------------------

namespace RsCamera

namespace Controls

/- The driver that an interface of a device is bound to. -/
inductive Interface
| uvcvideo
| otherDriver
| unbound
deriving Repr, DecidableEq

/- The two actions of the helper script. -/
inductive HelperAction
| unbind
| bind
deriving Repr, DecidableEq

/- The first argument of the script. -/
def HelperAction.name : HelperAction → String
| .unbind => "unbind"
| .bind => "bind"

/- The interfaces that an action writes, and what becomes of them. -/
def HelperAction.source : HelperAction → Interface
| .unbind => .uvcvideo
| .bind => .unbound

/- Where the action leaves an interface. -/
def HelperAction.target : HelperAction → Interface
| .unbind => .unbound
| .bind => .uvcvideo

/- The loop over the interfaces, up to a number of writes. -/
def helperWrites (action : HelperAction) :
    Nat → List Interface → List Interface
| _, [] => []
| 0, interfaces => interfaces
| count + 1, interface :: interfaces =>
    if interface = action.source then
      action.target :: helperWrites action count interfaces
    else
      interface :: helperWrites action (count + 1) interfaces

/- An invocation that fails after a number of writes. -/
structure HelperFailure where
  written : Nat
  output : String
deriving Repr, DecidableEq

/-
  The invocations for one device: those that fail in time,
  and the last one, which succeeds or fails after the
  deadline.
-/
structure DeviceRun where
  transient : List HelperFailure
  final : Option HelperFailure
deriving Repr, DecidableEq

/- The flag and the interfaces of every device. -/
@[ext] structure Bindings where
  rsusbUnbound : Bool
  interfaces : String → List Interface

/- The first writes of an action on one device. -/
def Bindings.write
    (bindings : Bindings)
    (action : HelperAction)
    (device : String)
    (count : Nat) : Bindings :=
  { bindings with
    interfaces :=
      Function.update bindings.interfaces device
        (helperWrites action count
          (bindings.interfaces device)) }

/- A successful invocation writes every interface it has to. -/
def runDevice
    (action : HelperAction)
    (device : String)
    (run : DeviceRun) :
    Effect Bindings Unit := do
  Effect.forEach
    (fun failure : HelperFailure =>
      modify (fun bindings =>
        bindings.write action device failure.written))
    run.transient
  match run.final with
  | none =>
      modify (fun bindings =>
        bindings.write action device
          (bindings.interfaces device).length)
  | some failure => do
      modify (fun bindings =>
        bindings.write action device failure.written)
      throw
        ("Failed to " ++ action.name ++ " UVC for " ++
          device ++ ": " ++ failure.output)

/- The invocations for the device at each place of the list. -/
abbrev Service : Type :=
  Nat → DeviceRun

/-
  The loop of the script over its devices; the first failure
  ends it.
-/
def runFrom
    (action : HelperAction)
    (service : Service) :
    Nat → List String → Effect Bindings Unit
| _, [] => pure ()
| place, device :: devices => do
    runDevice action device (service place)
    runFrom action service (place + 1) devices

/- `_run_rsusb_helper`: one run of the script for all devices. -/
def runRsusbHelper
    (action : HelperAction)
    (devices : List String)
    (service : Service) :
    Effect Bindings Unit :=
  runFrom action service 0 devices

------------------------------------------------------------
-- The Campaign
------------------------------------------------------------

/- The fields that decide about the binding. -/
structure BindingConfig where
  rsusbBackend : Bool
  rsusbUsbDevices : List String
  rsusbPrepareEachAttempt : Bool
  disableRealsenseAutosuspend : Bool
deriving Repr, DecidableEq

/-
  What a call meets: the exceptions of the other controls
  and the outcome of the helper.
-/
structure Occasion where
  isolation : Option String
  frequency : Option String
  autosuspend : Option String
  service : Service

/- A part of a call that has nothing to do with the driver. -/
def elsewhere (raised : Option String) : Effect Bindings Unit :=
  Effect.perform raised id

/- The object remembers what it has done. -/
def setUnbound (value : Bool) : Effect Bindings Unit :=
  modify (fun bindings =>
    { bindings with rsusbUnbound := value })

/- `_prepare_rsusb_once`. -/
def prepareRsusbOnce
    (config : BindingConfig)
    (service : Service) :
    Effect Bindings Unit := do
  let bindings ← get
  if ¬ config.rsusbBackend ∨ bindings.rsusbUnbound then
    return ()
  else
    runRsusbHelper .unbind config.rsusbUsbDevices service
    setUnbound true

/- `prepare_rsusb_access`, with no look at the flag. -/
def prepareRsusbAccess
    (config : BindingConfig)
    (service : Service) :
    Effect Bindings Unit :=
  if ¬ config.rsusbBackend then
    pure ()
  else do
    runRsusbHelper .unbind config.rsusbUsbDevices service
    setUnbound true

/-
  `restore_v4l2_binding`; the flag is cleared when the script
  returns.
-/
def restoreV4l2Binding
    (config : BindingConfig)
    (service : Service) :
    Effect Bindings Unit := do
  let bindings ← get
  if ¬ bindings.rsusbUnbound then
    return ()
  else
    runRsusbHelper .bind config.rsusbUsbDevices service
    setUnbound false

/- The last step of a preparation. -/
def enforceAutosuspend
    (config : BindingConfig)
    (occasion : Occasion) :
    Effect Bindings Unit :=
  if config.disableRealsenseAutosuspend then
    elsewhere occasion.autosuspend
  else
    pure ()

/- The part of each call that takes the cameras. -/
def campaignAccess
    (config : BindingConfig)
    (service : Service) :
    Effect Bindings Unit :=
  if config.rsusbPrepareEachAttempt then
    pure ()
  else
    prepareRsusbOnce config service

/- What an attempt does about the binding. -/
def attemptAccess
    (config : BindingConfig)
    (service : Service) :
    Effect Bindings Unit :=
  if ¬ config.rsusbBackend then
    pure ()
  else if config.rsusbPrepareEachAttempt then
    prepareRsusbAccess config service
  else
    prepareRsusbOnce config service

/- `prepare_campaign`, in the order of its steps. -/
def prepareCampaign
    (config : BindingConfig)
    (occasion : Occasion) :
    Effect Bindings Unit := do
  elsewhere occasion.isolation
  elsewhere occasion.frequency
  campaignAccess config occasion.service
  enforceAutosuspend config occasion

/- `prepare_attempt`, in the order of its steps. -/
def prepareAttempt
    (config : BindingConfig)
    (occasion : Occasion) :
    Effect Bindings Unit := do
  elsewhere occasion.isolation
  attemptAccess config occasion.service
  enforceAutosuspend config occasion

/- Each part is tried, whatever the others do. -/
def cleanup
    (config : BindingConfig)
    (occasion : Occasion) :
    Effect Bindings Unit := do
  let first ←
    Effect.attempt "restore V4L2 binding"
      (restoreV4l2Binding config occasion.service)
  let second ←
    Effect.attempt "restore CPU isolation"
      (elsewhere occasion.isolation)
  let third ←
    Effect.attempt "restore CPU frequency"
      (elsewhere occasion.frequency)
  Effect.report (first ++ second ++ third)

/- The preparations before a cleanup. -/
inductive Preparation
| campaign (occasion : Occasion)
| attempt (occasion : Occasion)

/- What a preparation does. -/
def Preparation.run
    (config : BindingConfig) :
    Preparation → Effect Bindings Unit
| .campaign occasion => prepareCampaign config occasion
| .attempt occasion => prepareAttempt config occasion

/- The state after a sequence of calls, raised or not. -/
def afterCalls
    (config : BindingConfig)
    (start : Bindings)
    (calls : List Preparation) : Bindings :=
  calls.foldl
    (fun bindings call =>
      Effect.after (call.run config) bindings)
    start

------------------------------------------------------------
-- What The Helper Does To A Device
------------------------------------------------------------

/- Interfaces as a completed `bind` leaves them. -/
def rebound (interfaces : List Interface) : List Interface :=
  interfaces.map (fun interface =>
    if interface = .unbound then .uvcvideo else interface)

@[simp] theorem helperWrites_zero
    (action : HelperAction)
    (interfaces : List Interface) :
    helperWrites action 0 interfaces = interfaces := by
  cases interfaces with
  | nil => rfl
  | cons interface interfaces => rfl

/- Neither action touches an interface of another driver. -/
theorem rebound_helperWrites
    (action : HelperAction)
    (count : Nat)
    (interfaces : List Interface) :
    rebound (helperWrites action count interfaces) =
      rebound interfaces := by
  fun_induction helperWrites action count interfaces with
  | case1 => rfl
  | case2 => rfl
  | case3 count interfaces ih =>
      simp only [rebound, List.map_cons, List.cons.injEq]
      refine ⟨?_, ih⟩
      cases action with
      | unbind => rfl
      | bind => rfl
  | case4 count interface interfaces hSource ih =>
      simp only [rebound, List.map_cons, List.cons.injEq,
        true_and]
      exact ih

section

variable {count : Nat}
variable {interfaces : List Interface}

theorem unbound_mem_helperWrites
    (hUnbound : .unbound ∈ interfaces) :
    .unbound ∈ helperWrites .unbind count interfaces := by
  fun_induction helperWrites .unbind count interfaces with
  | case1 => exact hUnbound
  | case2 => exact hUnbound
  | case3 count interfaces ih =>
      exact List.mem_cons_self ..
  | case4 count interface interfaces hSource ih =>
      rcases List.mem_cons.mp hUnbound with rfl | hTail
      · exact List.mem_cons_self ..
      · exact List.mem_cons_of_mem _ (ih hTail)

/- One write is enough to take a bound device off the driver. -/
theorem unbound_mem_of_write
    (hCount : 0 < count)
    (hBound : .uvcvideo ∈ interfaces) :
    .unbound ∈ helperWrites .unbind count interfaces := by
  fun_induction helperWrites .unbind count interfaces with
  | case1 => cases hBound
  | case2 => omega
  | case3 count interfaces ih =>
      exact List.mem_cons_self ..
  | case4 count interface interfaces hSource ih =>
      rcases List.mem_cons.mp hBound with rfl | hTail
      · exact absurd rfl hSource
      · exact List.mem_cons_of_mem _
          (ih (Nat.succ_pos count) hTail)

theorem helperWrites_bind
    (hEnough : interfaces.length ≤ count) :
    helperWrites .bind count interfaces =
      rebound interfaces := by
  fun_induction helperWrites .bind count interfaces with
  | case1 => rfl
  | case2 interfaces hNonempty =>
      exact absurd (List.eq_nil_of_length_eq_zero
        (Nat.le_zero.mp hEnough)) hNonempty
  | case3 count interfaces ih =>
      rw [ih (Nat.le_of_succ_le_succ hEnough)]
      rfl
  | case4 count interface interfaces hSource ih =>
      have hOther : interface ≠ .unbound := hSource
      rw [ih (Nat.le_of_succ_le hEnough)]
      simp [rebound, hOther]

/- A device with nothing left to bind. -/
theorem rebound_of_bound
    (hBound : .unbound ∉ interfaces) :
    rebound interfaces = interfaces := by
  have hSame :
      ∀ interface ∈ interfaces,
        (if interface = .unbound then .uvcvideo
          else interface) = id interface := by
    intro interface hInterface
    split
    · next hUnbound =>
        rw [hUnbound] at hInterface
        exact absurd hInterface hBound
    · rfl
  rw [rebound, List.map_congr_left hSame, List.map_id]

theorem unbound_not_mem_rebound
    (interfaces : List Interface) :
    .unbound ∉ rebound interfaces := by
  intro hMem
  rcases List.mem_map.mp hMem with ⟨interface, -, hEq⟩
  split at hEq
  · cases hEq
  · next hOther => exact hOther hEq

end

------------------------------------------------------------
-- What A Loop Does To The Devices
------------------------------------------------------------

section

open Effect (Triple)

/- Some interfaces have been taken off the driver. -/
structure Loosened (before after : Bindings) : Prop where
  hFlag : after.rsusbUnbound = before.rsusbUnbound
  hRebound :
    ∀ device,
      rebound (after.interfaces device) =
        rebound (before.interfaces device)
  hUnbound :
    ∀ device,
      .unbound ∈ before.interfaces device →
        .unbound ∈ after.interfaces device

theorem Loosened.refl
    (bindings : Bindings) :
    Loosened bindings bindings where
  hFlag := rfl
  hRebound := fun _ => rfl
  hUnbound := fun _ hUnbound => hUnbound

theorem Loosened.trans
    {first second third : Bindings}
    (hFirst : Loosened first second)
    (hSecond : Loosened second third) :
    Loosened first third where
  hFlag := hSecond.hFlag.trans hFirst.hFlag
  hRebound := fun device =>
    (hSecond.hRebound device).trans (hFirst.hRebound device)
  hUnbound := fun device hUnbound =>
    hSecond.hUnbound device (hFirst.hUnbound device hUnbound)

theorem Bindings.write_interfaces
    (bindings : Bindings)
    (action : HelperAction)
    (device other : String)
    (count : Nat) :
    (bindings.write action device count).interfaces other =
      if other = device then
        helperWrites action count (bindings.interfaces device)
      else
        bindings.interfaces other := by
  by_cases hSame : other = device
  · subst hSame
    simp [Bindings.write]
  · simp [Bindings.write, hSame]

theorem Bindings.write_zero
    (bindings : Bindings)
    (action : HelperAction)
    (device : String) :
    bindings.write action device 0 = bindings := by
  simp [Bindings.write]

theorem Loosened.write
    (bindings : Bindings)
    (device : String)
    (count : Nat) :
    Loosened bindings
      (bindings.write .unbind device count) where
  hFlag := rfl
  hRebound := by
    intro other
    rw [Bindings.write_interfaces]
    split
    · next hSame => rw [hSame, rebound_helperWrites]
    · rfl
  hUnbound := by
    intro other hUnbound
    rw [Bindings.write_interfaces]
    split
    · next hSame =>
        exact unbound_mem_helperWrites (hSame ▸ hUnbound)
    · exact hUnbound

/- The failed invocations for a device, one after the other. -/
def afterFailures
    (action : HelperAction)
    (device : String)
    (failures : List HelperFailure)
    (bindings : Bindings) : Bindings :=
  failures.foldl
    (fun bindings failure =>
      bindings.write action device failure.written)
    bindings

theorem Loosened.afterFailures
    (device : String)
    (failures : List HelperFailure)
    (bindings : Bindings) :
    Loosened bindings
      (afterFailures .unbind device failures bindings) := by
  induction failures generalizing bindings with
  | nil => exact Loosened.refl bindings
  | cons failure failures ih =>
      exact (Loosened.write bindings device _).trans (ih _)

variable {action : HelperAction}
variable {device : String}
variable {run : DeviceRun}

/- Invocations that fail before their first write. -/
theorem afterFailures_of_untouched
    {failures : List HelperFailure}
    (hUntouched : ∀ failure ∈ failures, failure.written = 0)
    (bindings : Bindings) :
    afterFailures action device failures bindings =
      bindings := by
  induction failures generalizing bindings with
  | nil => rfl
  | cons failure failures ih =>
      rw [Controls.afterFailures, List.foldl_cons,
        hUntouched failure (by simp), Bindings.write_zero]
      exact ih (fun other hOther =>
        hUntouched other (List.mem_cons_of_mem _ hOther)) _

/- One write of a failed invocation takes the device. -/
theorem unbound_mem_afterFailures
    {failures : List HelperFailure}
    {bindings : Bindings}
    (hTouched : ∃ failure ∈ failures, failure.written ≠ 0)
    (hBound : .uvcvideo ∈ bindings.interfaces device) :
    .unbound ∈
      (afterFailures .unbind device failures
        bindings).interfaces device := by
  induction failures with
  | nil => simp at hTouched
  | cons failure failures ih =>
      rw [Controls.afterFailures, List.foldl_cons]
      by_cases hWritten : failure.written = 0
      · rw [hWritten, Bindings.write_zero]
        apply ih
        simpa [hWritten] using hTouched
      · apply (Loosened.afterFailures device failures _).hUnbound
        rw [Bindings.write_interfaces, if_pos rfl]
        exact unbound_mem_of_write
          (Nat.pos_of_ne_zero hWritten) hBound

/- Every invocation for a device, failed ones last. -/
def DeviceRun.failures (run : DeviceRun) : List HelperFailure :=
  run.transient ++ run.final.toList

theorem runDevice_of_success
    (hFinal : run.final = none)
    (bindings : Bindings) :
    runDevice action device run bindings =
      .ok ()
        ((afterFailures action device run.transient
          bindings).write action device
            ((afterFailures action device run.transient
              bindings).interfaces device).length) := by
  have hLoop :=
    Effect.forEach_modify
      (fun (failure : HelperFailure) (bindings : Bindings) =>
        bindings.write action device failure.written)
      run.transient bindings
  simp only [runDevice, hFinal, Bind.bind, EStateM.bind, hLoop]
  rfl

theorem runDevice_of_timeout
    {failure : HelperFailure}
    (hFinal : run.final = some failure)
    (bindings : Bindings) :
    runDevice action device run bindings =
      .error
        ("Failed to " ++ action.name ++ " UVC for " ++
          device ++ ": " ++ failure.output)
        (afterFailures action device run.failures
          bindings) := by
  have hLoop :=
    Effect.forEach_modify
      (fun (failure : HelperFailure) (bindings : Bindings) =>
        bindings.write action device failure.written)
      run.transient bindings
  simp only [runDevice, hFinal, Bind.bind, EStateM.bind, hLoop,
    DeviceRun.failures, afterFailures, Option.toList,
    List.foldl_append]
  rfl

/- The time-out passes at a device that no write has reached. -/
def Untouched (run : DeviceRun) : Prop :=
  run.final ≠ none ∧
    ∀ failure ∈ run.failures, failure.written = 0

/- A successful invocation takes a device that was bound. -/
theorem unbound_mem_of_success
    {failures : List HelperFailure}
    {bindings : Bindings}
    (hBound : .uvcvideo ∈ bindings.interfaces device) :
    .unbound ∈
      ((afterFailures .unbind device failures
        bindings).write .unbind device
          ((afterFailures .unbind device failures
            bindings).interfaces device).length).interfaces
              device := by
  by_cases hTouched :
      ∃ failure ∈ failures, failure.written ≠ 0
  · apply (Loosened.write _ _ _).hUnbound
    exact unbound_mem_afterFailures hTouched hBound
  · have hUntouched :
        ∀ failure ∈ failures, failure.written = 0 := by
      intro failure hFailure
      by_contra hWritten
      exact hTouched ⟨failure, hFailure, hWritten⟩
    rw [afterFailures_of_untouched hUntouched,
      Bindings.write_interfaces, if_pos rfl]
    exact unbound_mem_of_write
      (List.length_pos_of_mem hBound) hBound

theorem runDevice_unbind
    (device : String)
    (run : DeviceRun)
    (start : Bindings) :
    Triple (· = start)
      (runDevice .unbind device run)
      (fun _ bindings =>
        Loosened start bindings ∧ run.final = none ∧
          (.uvcvideo ∈ start.interfaces device →
            .unbound ∈ bindings.interfaces device))
      (fun bindings =>
        Loosened start bindings ∧ run.final ≠ none ∧
        (Untouched run → bindings = start) ∧
        (¬ Untouched run →
          .uvcvideo ∈ start.interfaces device →
            .unbound ∈ bindings.interfaces device)) := by
  rintro bindings rfl
  cases hFinal : run.final with
  | none =>
      rw [runDevice_of_success hFinal]
      exact ⟨(Loosened.afterFailures _ _ _).trans
        (Loosened.write _ _ _), rfl, unbound_mem_of_success⟩
  | some failure =>
      rw [runDevice_of_timeout hFinal]
      refine ⟨Loosened.afterFailures _ _ _, by simp, ?_, ?_⟩
      · rintro ⟨-, hNone⟩
        exact afterFailures_of_untouched hNone _
      · intro hTouched hBound
        refine unbound_mem_afterFailures ?_ hBound
        by_contra hNone
        apply hTouched
        refine ⟨by simp [hFinal], ?_⟩
        intro other hOther
        by_contra hWritten
        exact hNone ⟨other, hOther, hWritten⟩

/- The helper succeeds for every device from a place on. -/
def CompletesFrom
    (service : Service)
    (place : Nat)
    (devices : List String) : Prop :=
  ∀ offset < devices.length,
    (service (place + offset)).final = none

theorem completesFrom_cons
    {service : Service}
    {place : Nat}
    {devices : List String} :
    CompletesFrom service place (device :: devices) ↔
      (service place).final = none ∧
        CompletesFrom service (place + 1) devices := by
  constructor
  · intro hAll
    refine ⟨hAll 0 (by simp), ?_⟩
    intro offset hOffset
    have hNext := hAll (offset + 1) (by simpa using hOffset)
    rwa [show place + 1 + offset = place + (offset + 1) by
      omega]
  · rintro ⟨hFirst, hRest⟩ offset hOffset
    cases offset with
    | zero => exact hFirst
    | succ offset =>
        have hNext := hRest offset (by simpa using hOffset)
        rwa [show place + 1 + offset = place + (offset + 1) by
          omega] at hNext

/-
  An unbind loop completes or raises at the first device
  whose time-out passes.  It leaves the devices alone only
  when that is the first device and no write was made.
-/
theorem runFrom_unbind
    (service : Service)
    (place : Nat)
    (devices : List String)
    (start : Bindings) :
    Triple (· = start)
      (runFrom .unbind service place devices)
      (fun _ bindings =>
        Loosened start bindings ∧
          CompletesFrom service place devices)
      (fun bindings =>
        Loosened start bindings ∧
        ¬ CompletesFrom service place devices ∧
        (Untouched (service place) → bindings = start) ∧
        (¬ Untouched (service place) →
          (∀ device ∈ devices,
            .uvcvideo ∈ start.interfaces device) →
          ∃ device ∈ devices,
            .unbound ∈ bindings.interfaces device)) := by
  induction devices generalizing place start with
  | nil =>
      apply Triple.pure
      rintro bindings rfl
      exact ⟨Loosened.refl _, fun offset hOffset => by
        simp at hOffset⟩
  | cons device devices ih =>
      have hDevice :=
        runDevice_unbind device (service place) start
      refine Triple.bind
        (hDevice.weaken (fun _ hStart => hStart)
          (fun _ _ hPost => hPost) ?_) ?_
      · rintro bindings ⟨hAfter, hFinal, hSame, hTaken⟩
        refine ⟨hAfter, ?_, hSame, ?_⟩
        · intro hAll
          exact hFinal (completesFrom_cons.mp hAll).1
        · intro hTouched hBound
          exact ⟨device, by simp,
            hTaken hTouched (hBound device (by simp))⟩
      · intro _
        apply Triple.fix_start
        rintro middle ⟨hMiddle, hFinal, hTaken⟩
        refine (ih (place + 1) middle).weaken ?_ ?_ ?_
        · intro bindings hStart
          exact hStart
        · rintro _ bindings ⟨hAfter, hRest⟩
          exact ⟨hMiddle.trans hAfter,
            completesFrom_cons.mpr ⟨hFinal, hRest⟩⟩
        · rintro bindings ⟨hAfter, hRest, -, -⟩
          refine ⟨hMiddle.trans hAfter, ?_, ?_, ?_⟩
          · intro hAll
            exact hRest (completesFrom_cons.mp hAll).2
          · rintro ⟨hSome, -⟩
            exact absurd hFinal hSome
          · intro _ hBound
            refine ⟨device, by simp, ?_⟩
            exact hAfter.hUnbound device
              (hTaken (hBound device (by simp)))

/- A completed bind loop binds every listed device. -/
def boundAgain
    (devices : List String)
    (bindings : Bindings) : Bindings :=
  { bindings with
    interfaces := fun device =>
      if device ∈ devices then
        rebound (bindings.interfaces device)
      else
        bindings.interfaces device }

theorem afterFailures_bind
    (device : String)
    (failures : List HelperFailure)
    (bindings : Bindings) :
    ∃ interfaces,
      afterFailures .bind device failures bindings =
        { bindings with
          interfaces :=
            Function.update bindings.interfaces device
              interfaces } ∧
      rebound interfaces =
        rebound (bindings.interfaces device) := by
  induction failures generalizing bindings with
  | nil =>
      refine ⟨bindings.interfaces device, ?_, rfl⟩
      rw [Function.update_eq_self]
      rfl
  | cons failure failures ih =>
      rcases ih (bindings.write .bind device failure.written)
        with ⟨interfaces, hAfter, hRebound⟩
      refine ⟨interfaces, ?_, ?_⟩
      · rw [Controls.afterFailures, List.foldl_cons]
        rw [Controls.afterFailures] at hAfter
        rw [hAfter]
        simp [Bindings.write]
      · rw [hRebound, Bindings.write_interfaces, if_pos rfl,
          rebound_helperWrites]

theorem runDevice_bind
    (hFinal : run.final = none)
    (bindings : Bindings) :
    runDevice .bind device run bindings =
      .ok () (boundAgain [device] bindings) := by
  rcases afterFailures_bind device run.transient bindings with
    ⟨interfaces, hAfter, hRebound⟩
  rw [runDevice_of_success hFinal, hAfter]
  congr 1
  apply Bindings.ext
  · rfl
  · funext other
    rw [Bindings.write_interfaces]
    by_cases hOther : other = device
    · subst hOther
      simp only [Function.update_self, ↓reduceIte, boundAgain,
        List.mem_singleton]
      rw [helperWrites_bind (Nat.le_refl _), hRebound]
    · simp [boundAgain, hOther]

theorem runFrom_bind
    {service : Service}
    {place : Nat}
    {devices : List String}
    (hAll : CompletesFrom service place devices)
    (bindings : Bindings) :
    runFrom .bind service place devices bindings =
      .ok () (boundAgain devices bindings) := by
  induction devices generalizing place bindings with
  | nil =>
      have hNothing : boundAgain [] bindings = bindings := by
        simp [boundAgain]
      rw [hNothing]
      rfl
  | cons device devices ih =>
      rcases completesFrom_cons.mp hAll with ⟨hFinal, hRest⟩
      have hTwice :
          boundAgain devices (boundAgain [device] bindings) =
            boundAgain (device :: devices) bindings := by
        apply Bindings.ext
        · rfl
        · funext other
          have hIdem :
              rebound (rebound (bindings.interfaces other)) =
                rebound (bindings.interfaces other) :=
            rebound_of_bound (unbound_not_mem_rebound _)
          by_cases hHead : other = device
          · subst hHead
            simp [boundAgain, hIdem]
          · by_cases hTail : other ∈ devices
            · simp [boundAgain, hHead, hTail]
            · simp [boundAgain, hHead, hTail]
      simp only [runFrom, Bind.bind, EStateM.bind,
        runDevice_bind hFinal]
      rw [ih hRest, hTwice]

end

------------------------------------------------------------
-- What A Call Does
------------------------------------------------------------

section

open Effect (Triple)

/- How the device files answer during it. -/
def Preparation.service : Preparation → Service
| .campaign occasion => occasion.service
| .attempt occasion => occasion.service

/- The call comes to the unbind loop while the flag is clear. -/
def Reaches (config : BindingConfig) : Preparation → Prop
| .campaign occasion =>
    config.rsusbBackend = true ∧
      config.rsusbPrepareEachAttempt = false ∧
      occasion.isolation = none ∧ occasion.frequency = none
| .attempt occasion =>
    config.rsusbBackend = true ∧ occasion.isolation = none

/- The unbind loop of a call completes. -/
def Completes
    (config : BindingConfig)
    (call : Preparation) : Prop :=
  Reaches config call ∧
    CompletesFrom call.service 0 config.rsusbUsbDevices

/- What a call that may reach the loop does to the state. -/
structure Called
    (devices : List String)
    (reached : Prop)
    (service : Service)
    (before after : Bindings) : Prop where
  hRebound :
    ∀ device,
      rebound (after.interfaces device) =
        rebound (before.interfaces device)
  hSkipped : ¬ reached → after = before
  hFlagged :
    before.rsusbUnbound = true → after.rsusbUnbound = true
  hCompleted :
    reached → CompletesFrom service 0 devices →
      after.rsusbUnbound = true
  hRaised :
    before.rsusbUnbound = false →
    ¬ CompletesFrom service 0 devices →
      Loosened before after
  hSame :
    before.rsusbUnbound = false →
    ¬ CompletesFrom service 0 devices →
    Untouched (service 0) →
      after = before
  hTaken :
    reached →
    before.rsusbUnbound = false →
    ¬ CompletesFrom service 0 devices →
    ¬ Untouched (service 0) →
    (∀ device ∈ devices,
      .uvcvideo ∈ before.interfaces device) →
      ∃ device ∈ devices, .unbound ∈ after.interfaces device

/- A call that does not reach the loop changes nothing. -/
theorem Called.skipped
    {devices : List String}
    {reached : Prop}
    {service : Service}
    (hSkipped : ¬ reached)
    (bindings : Bindings) :
    Called devices reached service bindings bindings where
  hRebound := fun _ => rfl
  hSkipped := fun _ => rfl
  hFlagged := fun hFlag => hFlag
  hCompleted := fun hReached => absurd hReached hSkipped
  hRaised := fun _ _ => Loosened.refl _
  hSame := fun _ _ _ => rfl
  hTaken := fun hReached => absurd hReached hSkipped

/- The loop and the flag after it. -/
theorem takeAll_called
    (devices : List String)
    (service : Service)
    (start : Bindings) :
    Triple (· = start)
      (do runRsusbHelper .unbind devices service
          setUnbound true)
      (fun _ => Called devices True service start)
      (Called devices True service start) := by
  refine Triple.bind
    ((runFrom_unbind service 0 devices start).weaken
      (fun _ hStart => hStart) (fun _ _ hPost => hPost) ?_) ?_
  · rintro bindings ⟨hLoosened, hFailed, hSame, hTaken⟩
    exact
      { hRebound := hLoosened.hRebound
        hSkipped := fun hNot => absurd trivial hNot
        hFlagged := fun hFlag => hLoosened.hFlag.trans hFlag
        hCompleted := fun _ hAll => absurd hAll hFailed
        hRaised := fun _ _ => hLoosened
        hSame := fun _ _ hUntouched => hSame hUntouched
        hTaken := fun _ _ _ hTouched hBound =>
          hTaken hTouched hBound }
  · rintro _ bindings ⟨hLoosened, hAll⟩
    exact
      { hRebound := hLoosened.hRebound
        hSkipped := fun hNot => absurd trivial hNot
        hFlagged := fun _ => rfl
        hCompleted := fun _ _ => rfl
        hRaised := fun _ hFailed => absurd hAll hFailed
        hSame := fun _ hFailed => absurd hAll hFailed
        hTaken := fun _ _ hFailed => absurd hAll hFailed }

/- A call that finds the flag set. -/
theorem Called.flagged
    {devices : List String}
    {reached : Prop}
    {service : Service}
    {bindings : Bindings}
    (hFlag : bindings.rsusbUnbound = true) :
    Called devices reached service bindings bindings where
  hRebound := fun _ => rfl
  hSkipped := fun _ => rfl
  hFlagged := fun _ => hFlag
  hCompleted := fun _ _ => hFlag
  hRaised := fun _ _ => Loosened.refl _
  hSame := fun _ _ _ => rfl
  hTaken := fun _ hClear => by
    rw [hFlag] at hClear
    cases hClear

theorem prepareRsusbOnce_called
    (config : BindingConfig)
    (service : Service)
    (start : Bindings) :
    Triple (· = start)
      (prepareRsusbOnce config service)
      (fun _ =>
        Called config.rsusbUsbDevices
          (config.rsusbBackend = true) service start)
      (Called config.rsusbUsbDevices
        (config.rsusbBackend = true) service start) := by
  apply Triple.get_bind
  split
  · next hSkip =>
      apply Triple.pure
      rintro bindings rfl
      rcases hSkip with hBackend | hFlag
      · exact Called.skipped hBackend _
      · exact Called.flagged hFlag
  · next hRun =>
      rw [not_or, not_not] at hRun
      have hTake :=
        takeAll_called config.rsusbUsbDevices service start
      simpa only [hRun.1] using hTake

theorem prepareRsusbAccess_called
    (config : BindingConfig)
    (service : Service)
    (start : Bindings) :
    Triple (· = start)
      (prepareRsusbAccess config service)
      (fun _ =>
        Called config.rsusbUsbDevices
          (config.rsusbBackend = true) service start)
      (Called config.rsusbUsbDevices
        (config.rsusbBackend = true) service start) := by
  unfold prepareRsusbAccess
  split
  · next hBackend =>
      apply Triple.pure
      rintro bindings rfl
      exact Called.skipped hBackend _
  · next hBackend =>
      rw [not_not] at hBackend
      have hTake :=
        takeAll_called config.rsusbUsbDevices service start
      simpa only [hBackend] using hTake

/- The other controls leave the driver alone. -/
theorem elsewhere_same
    (raised : Option String)
    (start : Bindings) :
    Triple (· = start) (elsewhere raised)
      (fun _ bindings => bindings = start ∧ raised = none)
      (fun bindings => bindings = start ∧ raised ≠ none) := by
  apply Triple.perform
  · rintro hNone bindings rfl
    exact ⟨rfl, hNone⟩
  · rintro hSome bindings rfl
    exact ⟨rfl, hSome⟩

theorem enforceAutosuspend_keeps
    (config : BindingConfig)
    (occasion : Occasion)
    (P : Bindings → Prop) :
    Triple P (enforceAutosuspend config occasion)
      (fun _ => P) P := by
  unfold enforceAutosuspend
  split
  · exact Triple.perform (fun _ _ hKept => hKept)
      (fun _ _ hKept => hKept)
  · exact Triple.pure (fun _ hKept => hKept)

theorem campaign_called
    (config : BindingConfig)
    (occasion : Occasion)
    (start : Bindings) :
    Triple (· = start)
      (prepareCampaign config occasion)
      (fun _ =>
        Called config.rsusbUsbDevices
          (Reaches config (.campaign occasion))
          occasion.service start)
      (Called config.rsusbUsbDevices
        (Reaches config (.campaign occasion))
        occasion.service start) := by
  unfold prepareCampaign
  refine Triple.bind
    ((elsewhere_same occasion.isolation start).weaken
      (fun _ hStart => hStart) (fun _ _ hPost => hPost) ?_) ?_
  · rintro bindings ⟨rfl, hRaised⟩
    exact Called.skipped
      (fun hReaches => hRaised hReaches.2.2.1) _
  intro _
  apply Triple.fix_start
  rintro bindings ⟨rfl, hIsolation⟩
  refine Triple.bind
    ((elsewhere_same occasion.frequency bindings).weaken
      (fun _ hStart => hStart) (fun _ _ hPost => hPost) ?_) ?_
  · rintro bindings ⟨rfl, hRaised⟩
    exact Called.skipped
      (fun hReaches => hRaised hReaches.2.2.2) _
  intro _
  apply Triple.fix_start
  rintro bindings ⟨rfl, hFrequency⟩
  refine Triple.bind
    (Q := fun _ =>
      Called config.rsusbUsbDevices
        (Reaches config (.campaign occasion))
        occasion.service bindings) ?_
    (fun _ => enforceAutosuspend_keeps _ _ _)
  unfold campaignAccess
  split
  · next hEach =>
      apply Triple.pure
      rintro bindings rfl
      refine Called.skipped (fun hReaches => ?_) _
      exact absurd hReaches.2.1 (by simp [hEach])
  · next hOnce =>
      have hReaches :
          Reaches config (.campaign occasion) ↔
            config.rsusbBackend = true := by
        simp [Reaches, hIsolation, hFrequency, hOnce]
      rw [hReaches]
      exact prepareRsusbOnce_called config _ bindings

theorem attempt_called
    (config : BindingConfig)
    (occasion : Occasion)
    (start : Bindings) :
    Triple (· = start)
      (prepareAttempt config occasion)
      (fun _ =>
        Called config.rsusbUsbDevices
          (Reaches config (.attempt occasion))
          occasion.service start)
      (Called config.rsusbUsbDevices
        (Reaches config (.attempt occasion))
        occasion.service start) := by
  unfold prepareAttempt
  refine Triple.bind
    ((elsewhere_same occasion.isolation start).weaken
      (fun _ hStart => hStart) (fun _ _ hPost => hPost) ?_) ?_
  · rintro bindings ⟨rfl, hRaised⟩
    exact Called.skipped
      (fun hReaches => hRaised hReaches.2) _
  intro _
  apply Triple.fix_start
  rintro bindings ⟨rfl, hIsolation⟩
  have hReaches :
      Reaches config (.attempt occasion) ↔
        config.rsusbBackend = true := by
    simp [Reaches, hIsolation]
  refine Triple.bind
    (Q := fun _ =>
      Called config.rsusbUsbDevices
        (Reaches config (.attempt occasion))
        occasion.service bindings) ?_
    (fun _ => enforceAutosuspend_keeps _ _ _)
  rw [hReaches]
  unfold attemptAccess
  split
  · next hBackend =>
      apply Triple.pure
      rintro bindings rfl
      exact Called.skipped hBackend _
  · split
    · exact prepareRsusbAccess_called config _ bindings
    · exact prepareRsusbOnce_called config _ bindings

theorem run_called
    (config : BindingConfig)
    (call : Preparation)
    (start : Bindings) :
    Called config.rsusbUsbDevices (Reaches config call)
      call.service start
      (Effect.after (call.run config) start) := by
  cases call with
  | campaign occasion =>
      exact (campaign_called config occasion start).of_after
        (fun _ _ hCalled => hCalled)
        (fun _ hCalled => hCalled) rfl
  | attempt occasion =>
      exact (attempt_called config occasion start).of_after
        (fun _ _ hCalled => hCalled)
        (fun _ hCalled => hCalled) rfl

end

------------------------------------------------------------
-- Whole Campaigns
------------------------------------------------------------

open Effect (Triple)

/- A device that the kernel driver has. -/
def Bound (interfaces : List Interface) : Prop :=
  .uvcvideo ∈ interfaces ∧ .unbound ∉ interfaces

/- Every unbind loop so far left the devices alone. -/
def AllUntouched
    (config : BindingConfig)
    (calls : List Preparation) : Prop :=
  ∀ call ∈ calls,
    Reaches config call → Untouched (call.service 0)

/- What is known after some calls. -/
structure Tracked
    (config : BindingConfig)
    (start : Bindings)
    (calls : List Preparation)
    (bindings : Bindings) : Prop where
  hRebound :
    ∀ device,
      rebound (bindings.interfaces device) =
        rebound (start.interfaces device)
  hFlag :
    bindings.rsusbUnbound = true ↔
      ∃ call ∈ calls, Completes config call
  hSame :
    bindings.rsusbUnbound = false →
    AllUntouched config calls →
      bindings.interfaces = start.interfaces
  hTaken :
    bindings.rsusbUnbound = false →
    ¬ AllUntouched config calls →
      ∃ device ∈ config.rsusbUsbDevices,
        .unbound ∈ bindings.interfaces device

theorem allUntouched_concat
    {config : BindingConfig}
    {calls : List Preparation}
    {call : Preparation} :
    AllUntouched config (calls ++ [call]) ↔
      AllUntouched config calls ∧
        (Reaches config call → Untouched (call.service 0)) := by
  simp [AllUntouched, or_imp, forall_and]

variable {config : BindingConfig}
variable {start : Bindings}

theorem Tracked.initial
    (hClear : start.rsusbUnbound = false) :
    Tracked config start [] start where
  hRebound := fun _ => rfl
  hFlag := by simp [hClear]
  hSame := fun _ _ => rfl
  hTaken := fun _ hTouched => by
    simp [AllUntouched] at hTouched

/- A loop that does not complete leaves the flag clear. -/
theorem Called.flag_iff
    {devices : List String}
    {reached : Prop}
    {service : Service}
    {before after : Bindings}
    (hCalled : Called devices reached service before after) :
    after.rsusbUnbound = true ↔
      before.rsusbUnbound = true ∨
        (reached ∧ CompletesFrom service 0 devices) := by
  constructor
  · intro hAfter
    by_cases hBefore : before.rsusbUnbound = true
    · exact Or.inl hBefore
    · rw [Bool.not_eq_true] at hBefore
      right
      by_contra hNot
      have hFlag : after.rsusbUnbound = before.rsusbUnbound := by
        by_cases hReached : reached
        · have hFailed : ¬ CompletesFrom service 0 devices :=
            fun hAll => hNot ⟨hReached, hAll⟩
          exact (hCalled.hRaised hBefore hFailed).hFlag
        · rw [hCalled.hSkipped hReached]
      rw [hFlag, hBefore] at hAfter
      cases hAfter
  · rintro (hBefore | ⟨hReached, hAll⟩)
    · exact hCalled.hFlagged hBefore
    · exact hCalled.hCompleted hReached hAll

theorem Tracked.call
    {calls : List Preparation}
    {bindings : Bindings}
    (hBound :
      ∀ device ∈ config.rsusbUsbDevices,
        Bound (start.interfaces device))
    (hTracked : Tracked config start calls bindings)
    (call : Preparation) :
    Tracked config start (calls ++ [call])
      (Effect.after (call.run config) bindings) := by
  have hCalled := run_called config call bindings
  have hFlag := hCalled.flag_iff
  refine ⟨?_, ?_, ?_, ?_⟩
  · intro device
    rw [hCalled.hRebound, hTracked.hRebound]
  · rw [hFlag, hTracked.hFlag]
    simp [Completes, or_and_right, exists_or]
  · intro hClear hUntouched
    rcases allUntouched_concat.mp hUntouched with
      ⟨hBefore, hThis⟩
    rw [← Bool.not_eq_true, hFlag, not_or, Bool.not_eq_true]
      at hClear
    rw [← hTracked.hSame hClear.1 hBefore]
    by_cases hReached : Reaches config call
    · rw [hCalled.hSame hClear.1
        (fun hAll => hClear.2 ⟨hReached, hAll⟩)
        (hThis hReached)]
    · rw [hCalled.hSkipped hReached]
  · intro hClear hTouched
    rw [← Bool.not_eq_true, hFlag, not_or, Bool.not_eq_true]
      at hClear
    by_cases hReached : Reaches config call
    · have hFailed :
          ¬ CompletesFrom call.service 0
              config.rsusbUsbDevices :=
        fun hAll => hClear.2 ⟨hReached, hAll⟩
      by_cases hBefore : AllUntouched config calls
      · have hThis : ¬ Untouched (call.service 0) := by
          intro hUntouched
          exact hTouched (allUntouched_concat.mpr
            ⟨hBefore, fun _ => hUntouched⟩)
        refine hCalled.hTaken hReached hClear.1 hFailed hThis ?_
        intro device hDevice
        rw [hTracked.hSame hClear.1 hBefore]
        exact (hBound device hDevice).1
      · rcases hTracked.hTaken hClear.1 hBefore with
          ⟨device, hDevice, hUnbound⟩
        exact ⟨device, hDevice,
          (hCalled.hRaised hClear.1 hFailed).hUnbound device
            hUnbound⟩
    · rw [hCalled.hSkipped hReached]
      apply hTracked.hTaken hClear.1
      intro hBefore
      exact hTouched (allUntouched_concat.mpr
        ⟨hBefore, fun hThis => absurd hThis hReached⟩)

theorem afterCalls_tracked
    (hClear : start.rsusbUnbound = false)
    (hBound :
      ∀ device ∈ config.rsusbUsbDevices,
        Bound (start.interfaces device))
    (calls : List Preparation) :
    Tracked config start calls
      (afterCalls config start calls) := by
  induction calls using List.reverseRecOn with
  | nil => exact Tracked.initial hClear
  | append_singleton calls call ih =>
      rw [afterCalls, List.foldl_append]
      exact ih.call hBound call

/- The state of a new object. -/
def newBindings
    (interfaces : String → List Interface) : Bindings where
  rsusbUnbound := false
  interfaces := interfaces

/- A clean-up whose helper succeeds, as its flag stands. -/
theorem restoreV4l2Binding_interfaces
    {service : Service}
    (hService :
      CompletesFrom service 0 config.rsusbUsbDevices)
    (start : Bindings) :
    Triple (· = start)
      (restoreV4l2Binding config service)
      (fun _ bindings =>
        bindings.interfaces =
          if start.rsusbUnbound then
            (boundAgain config.rsusbUsbDevices
              start).interfaces
          else
            start.interfaces)
      (fun _ => False) := by
  apply Triple.get_bind
  cases hFlag : start.rsusbUnbound with
  | false =>
      apply Triple.pure
      rintro bindings rfl
      rfl
  | true =>
      refine Triple.bind
        (Q := fun _ =>
          (· = boundAgain config.rsusbUsbDevices start)) ?_ ?_
      · rintro bindings rfl
        rw [runRsusbHelper, runFrom_bind hService]
      · rintro _ bindings rfl
        rfl

theorem attempt_elsewhere
    (label : String)
    (raised : Option String)
    (P : Bindings → Prop) :
    Triple P (Effect.attempt label (elsewhere raised))
      (fun _ => P) P := by
  apply Triple.attempt
  exact Triple.perform (fun _ _ hKept => hKept)
    (fun _ _ hKept _ => hKept)

theorem cleanup_interfaces
    {occasion : Occasion}
    (hService :
      CompletesFrom occasion.service 0
        config.rsusbUsbDevices)
    (start : Bindings) :
    (Effect.after (cleanup config occasion)
        start).interfaces =
      if start.rsusbUnbound then
        (boundAgain config.rsusbUsbDevices
          start).interfaces
      else
        start.interfaces := by
  let Cleaned : Bindings → Prop := fun bindings =>
    bindings.interfaces =
      if start.rsusbUnbound then
        (boundAgain config.rsusbUsbDevices start).interfaces
      else
        start.interfaces
  have hTriple :
      Triple (· = start) (cleanup config occasion)
        (fun _ => Cleaned) Cleaned := by
    unfold cleanup
    refine Triple.bind (Q := fun _ => Cleaned) ?_ ?_
    · apply Triple.attempt
      exact (restoreV4l2Binding_interfaces hService
        start).never_raises
    intro first
    refine Triple.bind (attempt_elsewhere _ _ _) ?_
    intro second
    refine Triple.bind (attempt_elsewhere _ _ _) ?_
    intro third
    exact Triple.report (fun _ _ hKept => hKept)
      (fun _ _ hKept => hKept)
  exact hTriple.of_after (fun _ _ hPost => hPost)
    (fun _ hPost => hPost) rfl

/-
  After any sequence of calls, a clean-up whose helper
  succeeds leaves every listed device bound exactly when
  some unbind loop has completed or no unbind loop has made
  a single write.
-/
theorem cleanup_rebinds_iff
    (config : BindingConfig)
    {interfaces : String → List Interface}
    (hBound :
      ∀ device ∈ config.rsusbUsbDevices,
        Bound (interfaces device))
    (calls : List Preparation)
    {occasion : Occasion}
    (hService :
      CompletesFrom occasion.service 0
        config.rsusbUsbDevices) :
    (∀ device ∈ config.rsusbUsbDevices,
      Bound
        ((Effect.after (cleanup config occasion)
          (afterCalls config (newBindings interfaces)
            calls)).interfaces device)) ↔
      (∃ call ∈ calls, Completes config call) ∨
        AllUntouched config calls := by
  have hTracked :
      Tracked config (newBindings interfaces) calls
        (afterCalls config (newBindings interfaces) calls) :=
    afterCalls_tracked rfl hBound calls
  rw [cleanup_interfaces hService, ← hTracked.hFlag]
  by_cases hFlag :
      (afterCalls config (newBindings interfaces)
        calls).rsusbUnbound = true
  · simp only [hFlag, ↓reduceIte, true_or, iff_true]
    intro device hDevice
    have hSame :
        rebound
            ((afterCalls config (newBindings interfaces)
              calls).interfaces device) =
          interfaces device :=
      (hTracked.hRebound device).trans
        (rebound_of_bound (hBound device hDevice).2)
    simp only [boundAgain, hDevice, ↓reduceIte, hSame]
    exact hBound device hDevice
  · have hClear :
        (afterCalls config (newBindings interfaces)
          calls).rsusbUnbound = false := by
      simpa using hFlag
    simp only [hClear, Bool.false_eq_true, ↓reduceIte,
      false_or]
    constructor
    · intro hAll
      by_contra hTouched
      rcases hTracked.hTaken hClear hTouched with
        ⟨device, hDevice, hUnbound⟩
      exact (hAll device hDevice).2 hUnbound
    · intro hUntouched device hDevice
      rw [hTracked.hSame hClear hUntouched]
      exact hBound device hDevice

/- Two cameras, each with a sensor interface of another driver. -/
def twoCameras : BindingConfig where
  rsusbBackend := true
  rsusbUsbDevices := ["2-1", "2-2"]
  rsusbPrepareEachAttempt := true
  disableRealsenseAutosuspend := false

/- Two video interfaces and one of another driver. -/
def cameraInterfaces : List Interface :=
  [.uvcvideo, .uvcvideo, .otherDriver]

/- The other controls raise nothing. -/
def quietly (service : Service) : Occasion where
  isolation := none
  frequency := none
  autosuspend := none
  service := service

/- No write fails. -/
def succeeding : Service :=
  fun _ => { transient := [], final := none }

/- The second camera cannot be taken before the deadline. -/
def secondDenied : Service :=
  fun place =>
    { transient := []
      final :=
        if place = 1 then
          some { written := 0, output := "denied" }
        else
          none }

theorem cameraInterfaces_bound : Bound cameraInterfaces := by
  constructor
  · decide
  · decide

/- An attempt that fails, and one that succeeds. -/
theorem secondAttempt_rebound :
    twoCameras.rsusbUsbDevices ≠ [] ∧
    ∀ device ∈ twoCameras.rsusbUsbDevices,
      Bound
        ((Effect.after (cleanup twoCameras (quietly succeeding))
          (afterCalls twoCameras
            (newBindings (fun _ => cameraInterfaces))
            [.attempt (quietly secondDenied),
              .attempt (quietly succeeding)])).interfaces
                device) := by
  refine ⟨by decide, ?_⟩
  refine (cleanup_rebinds_iff twoCameras ?_ _ ?_).mpr ?_
  · intro device _
    exact cameraInterfaces_bound
  · intro offset _
    rfl
  · left
    refine ⟨.attempt (quietly succeeding), by simp, ?_⟩
    exact ⟨⟨rfl, rfl⟩, fun _ _ => rfl⟩

/- The first camera is taken and never given back. -/
theorem secondDenied_left_unbound :
    (∀ device ∈ twoCameras.rsusbUsbDevices,
      Bound
        ((newBindings
          (fun _ => cameraInterfaces)).interfaces device)) ∧
    (Effect.after (cleanup twoCameras (quietly succeeding))
        (afterCalls twoCameras
          (newBindings (fun _ => cameraInterfaces))
          [.attempt (quietly secondDenied)])).interfaces
            "2-1" =
      [.unbound, .unbound, .otherDriver] := by
  constructor
  · intro device _
    exact cameraInterfaces_bound
  · decide

end Controls

end RsCamera
