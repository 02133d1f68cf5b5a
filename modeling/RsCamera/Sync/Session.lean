import Mathlib.Algebra.Order.Ring.Rat
import Mathlib.Algebra.Order.Group.Abs
import Mathlib.Data.List.Nodup
import Mathlib.Logic.Function.Basic
import RsCamera.Lib.Containers

/-
  A session of hardware-synchronised cameras
  (`hardware_sync_session` in `hardware_sync.cpp`).

  The library answers each call as an environment decides:
  a write may raise or leave any mode behind, a read may
  raise or give any value, and both may depend on everything
  that was done before.  The trace records the calls on the
  option with their outcomes.

  Key definitions include:
    * `Environment`, `Event`, `World`
    * `makeAssignment`, `configureAll`, `restore`
    * `construct`, `lifetime`
    * `Orderly`, `ReadBackFirst`, `Truthful`
    * `RestoreSucceeded`

  Key theorems include:
    * `makeAssignments_spec`
    * `configureAll_spec`
    * `restoreAll_spec`
    * `lifetime_spec`
-/

------------------------------------------------------------
-- The Library
------------------------------------------------------------

namespace RsCamera

namespace Sync

/- The role of a camera; slaves are numbered. -/
inductive Role
| slave (index : Nat)
| master
deriving DecidableEq, Repr

/- A call belongs to the configuration or to the restore. -/
inductive Phase
| configure
| restore
deriving DecidableEq, Repr

/-
  The calls on the option: the read before any write, a
  write with its error and the mode it leaves behind, and
  the read that follows a write.
-/
inductive Event
| readPrevious
    (role : Role)
    (sensor : Nat)
    (result : Except String ℚ)
    (held : ℚ)
| write
    (phase : Phase)
    (role : Role)
    (sensor : Nat)
    (mode : ℚ)
    (error : Option String)
    (left : ℚ)
| readBack
    (phase : Phase)
    (role : Role)
    (sensor : Nat)
    (result : Except String ℚ)

/- A sensor as the library shows it. -/
structure SensorInfo where
  sensor : Nat
  supportsSyncMode : Bool
  readOnly : Bool

/- A device; asking for the serial may fail. -/
structure DeviceInfo where
  serial : Option String
  sensors : List SensorInfo

/- `write` gives the error and the mode that is left. -/
structure Environment where
  devices : List Event → List DeviceInfo
  write :
    Phase → List Event → Nat → ℚ → ℚ → Option String × ℚ
  read : List Event → Nat → ℚ → Except String ℚ
  modeText : ℚ → String

/- The modes that the sensors hold, and the calls so far. -/
structure World where
  modes : Nat → ℚ
  trace : List Event

/- The mode of the pulse source. -/
def masterMode : ℚ := 1

/- The mode of the cameras that follow. -/
def slaveMode : ℚ := 2

/- Modes are numbers that the library stores as floats. -/
def modeTolerance : ℚ := 1 / 100

/- A mode that was read back is the expected one. -/
def modeMatches (actual expected : ℚ) : Bool :=
  |actual - expected| ≤ modeTolerance

/- `hardware_sync_assignment`. -/
structure Assignment where
  serial : String
  role : Role
  requestedMode : ℚ
  previousMode : ℚ
  sensor : Nat
  effectiveMode : ℚ := 0
  restoredMode : ℚ := 0
  applied : Bool := false
  restored : Bool := false
  restoreError : String := ""

/- The members of a session. -/
structure Session where
  assignments : List Assignment
  restoreAttempted : Bool

------------------------------------------------------------
-- Finding The Sensors
------------------------------------------------------------

section

variable (env : Environment)

/- `find_device`: the first device with the serial. -/
def findDevice
    (serial : String)
    (world : World) : Except String DeviceInfo :=
  match (env.devices world.trace).find? (fun device =>
      device.serial = some serial) with
  | some device => .ok device
  | none =>
      .error ("Hardware-sync camera is unavailable: " ++ serial)

/- `find_sync_sensor`: the one sensor with the option. -/
def findSyncSensor
    (device : DeviceInfo)
    (serial : String) : Except String Nat :=
  match device.sensors.filter SensorInfo.supportsSyncMode with
  | [] =>
      .error
        (serial ++
          ": depth sensor does not support Inter Cam Sync Mode")
  | [selected] =>
      if selected.readOnly then
        .error (serial ++ ": Inter Cam Sync Mode is read-only")
      else
        .ok selected.sensor
  | _ =>
      .error
        (serial ++ ": multiple sensors expose Inter Cam Sync Mode")

/- What is asked of a camera. -/
structure Request where
  serial : String
  role : Role
  requestedMode : ℚ

/-
  `make_assignment`: the previous mode is read before any write.
-/
def makeAssignment
    (request : Request)
    (world : World) : Except String Assignment × World :=
  let found := do
    let device ← findDevice env request.serial world
    findSyncSensor device request.serial
  match found with
  | .error message => (.error message, world)
  | .ok sensor =>
      let held := world.modes sensor
      let result := env.read world.trace sensor held
      let world :=
        { world with
          trace :=
            world.trace ++
              [.readPrevious request.role sensor result held] }
      match result with
      | .error message => (.error message, world)
      | .ok previous =>
          (.ok
            { serial := request.serial
              role := request.role
              requestedMode := request.requestedMode
              previousMode := previous
              sensor := sensor },
            world)

/-
  The assignments in the order of the requests, up to the first
  error.
-/
def makeAssignments :
    List Request → World →
      Except String (List Assignment) × World
| [], world => (.ok [], world)
| request :: requests, world =>
    match makeAssignment env request world with
    | (.error message, world) => (.error message, world)
    | (.ok assignment, world) =>
        match makeAssignments requests world with
        | (.error message, world) => (.error message, world)
        | (.ok assignments, world) =>
            (.ok (assignment :: assignments), world)

/- The slaves in their order, then the master. -/
def requests
    (masterSerial : String)
    (slaveSerials : List String) : List Request :=
  slaveSerials.mapIdx (fun index serial =>
    { serial := serial
      role := .slave index
      requestedMode := slaveMode }) ++
    [{ serial := masterSerial
       role := .master
       requestedMode := masterMode }]

end

------------------------------------------------------------
-- Configuring And Restoring
------------------------------------------------------------

section

variable (env : Environment)

/- `sensor.set_option`, noted with its outcome. -/
def setOption
    (phase : Phase)
    (assignment : Assignment)
    (mode : ℚ)
    (world : World) : Option String × World :=
  let outcome :=
    env.write phase world.trace assignment.sensor mode
      (world.modes assignment.sensor)
  (outcome.1,
    { modes :=
        Function.update world.modes assignment.sensor outcome.2
      trace :=
        world.trace ++
          [.write phase assignment.role assignment.sensor mode
            outcome.1 outcome.2] })

/- `sensor.get_option` after a write, noted with its result. -/
def getOption
    (phase : Phase)
    (assignment : Assignment)
    (world : World) : Except String ℚ × World :=
  let result :=
    env.read world.trace assignment.sensor
      (world.modes assignment.sensor)
  (result,
    { world with
      trace :=
        world.trace ++
          [.readBack phase assignment.role assignment.sensor
            result] })

/- The body of the loop in the `try` block. -/
def configureOne
    (assignment : Assignment)
    (world : World) : Assignment × Option String × World :=
  match setOption env .configure assignment
      assignment.requestedMode world with
  | (some message, world) => (assignment, some message, world)
  | (none, world) =>
      match getOption env .configure assignment world with
      | (.error message, world) =>
          (assignment, some message, world)
      | (.ok effective, world) =>
          let applied :=
            modeMatches effective assignment.requestedMode
          ({ assignment with
              effectiveMode := effective
              applied := applied },
            if applied then
              none
            else
              some
                (assignment.serial ++
                  ": requested Inter Cam Sync Mode " ++
                  env.modeText assignment.requestedMode ++
                  " but read back " ++ env.modeText effective),
            world)

/- The loop in the `try` block, up to the first error. -/
def configureAll :
    List Assignment → World →
      List Assignment × Option String × World
| [], world => ([], none, world)
| assignment :: assignments, world =>
    match configureOne env assignment world with
    | (configured, some message, world) =>
        (configured :: assignments, some message, world)
    | (configured, none, world) =>
        let rest := configureAll assignments world
        (configured :: rest.1, rest.2)

/- The body of the loop in `restore`. -/
def restoreOne
    (assignment : Assignment)
    (world : World) : Assignment × World :=
  match setOption env .restore assignment
      assignment.previousMode world with
  | (some message, world) =>
      ({ assignment with restoreError := message }, world)
  | (none, world) =>
      match getOption env .restore assignment world with
      | (.error message, world) =>
          ({ assignment with restoreError := message }, world)
      | (.ok mode, world) =>
          let restored :=
            modeMatches mode assignment.previousMode
          ({ assignment with
              restoredMode := mode
              restored := restored
              restoreError :=
                if restored then
                  assignment.restoreError
                else
                  "read-back mode " ++ env.modeText mode ++
                    " differs from previous mode " ++
                    env.modeText assignment.previousMode },
            world)

/- The loop in `restore`, which an error does not stop. -/
def restoreAll :
    List Assignment → World → List Assignment × World
| [], world => ([], world)
| assignment :: assignments, world =>
    let restored := restoreOne env assignment world
    let rest := restoreAll assignments restored.2
    (restored.1 :: rest.1, rest.2)

/- The errors in one text. -/
def restoreErrors (assignments : List Assignment) : String :=
  String.intercalate "; "
    ((assignments.filter (fun assignment =>
      assignment.restoreError ≠ "")).map (fun assignment =>
        assignment.serial ++ ": " ++ assignment.restoreError))

/- The pulse source goes first, the reverse of the order. -/
def restore
    (session : Session)
    (world : World) : String × Session × World :=
  if session.restoreAttempted || session.assignments.isEmpty then
    ("", session, world)
  else
    let restored :=
      restoreAll env session.assignments.reverse world
    (restoreErrors restored.1,
      { assignments := restored.1.reverse
        restoreAttempted := true },
      restored.2)

end

------------------------------------------------------------
-- Sessions
------------------------------------------------------------

section

variable (env : Environment)

/-
  The constructor; when a camera cannot be configured, the modes
  are restored.
-/
def construct
    (masterSerial : String)
    (slaveSerials : List String)
    (world : World) : Except String Session × World :=
  if masterSerial = "" ∧ slaveSerials = [] then
    (.ok { assignments := [], restoreAttempted := false }, world)
  else if masterSerial = "" ∨ slaveSerials = [] then
    (.error
      "Hardware sync requires one master and at least one slave",
      world)
  else
    match makeAssignments env
        (requests masterSerial slaveSerials) world with
    | (.error message, world) => (.error message, world)
    | (.ok assignments, world) =>
        match configureAll env assignments world with
        | (configured, none, world) =>
            (.ok
              { assignments := configured
                restoreAttempted := false },
              world)
        | (configured, some message, world) =>
            (.error message,
              (restore env
                { assignments := configured
                  restoreAttempted := false }
                world).2.2)

/- Explicit calls of `restore`. -/
def restoreRepeatedly :
    Nat → Session → World → Session × World
| 0, session, world => (session, world)
| count + 1, session, world =>
    let restored := restore env session world
    restoreRepeatedly count restored.2.1 restored.2.2

/-
  A session from its construction to the end of its
  destructor, which does not run when the constructor raised.
-/
def lifetime
    (masterSerial : String)
    (slaveSerials : List String)
    (explicitRestores : Nat)
    (world : World) : World :=
  match construct env masterSerial slaveSerials world with
  | (.error _, world) => world
  | (.ok session, world) =>
      let used :=
        restoreRepeatedly env explicitRestores session world
      (restore env used.1 used.2).2.2

end

------------------------------------------------------------
-- What A Trace Shows
------------------------------------------------------------

/- The phase of a call; the first reads belong to none. -/
def Event.phase? : Event → Option Phase
| .readPrevious _ _ _ _ => none
| .write phase _ _ _ _ _ => some phase
| .readBack phase _ _ _ => some phase

/- The modes that were read before any write. -/
def Event.previousRead? : Event → Option (Role × Nat × ℚ)
| .readPrevious role sensor (.ok mode) _ =>
    some (role, sensor, mode)
| _ => none

/- The modes that the restore writes. -/
def Event.restoreWrite? : Event → Option (Role × Nat × ℚ)
| .write .restore role sensor mode _ _ =>
    some (role, sensor, mode)
| _ => none

/- The previous modes of a trace, in order. -/
def previousReads (trace : List Event) :
    List (Role × Nat × ℚ) :=
  trace.filterMap Event.previousRead?

/- The writes of the restore, in order. -/
def restoreWrites (trace : List Event) :
    List (Role × Nat × ℚ) :=
  trace.filterMap Event.restoreWrite?

/- The previous modes are what the sensors hold. -/
def Truthful (trace : List Event) : Prop :=
  ∀ role sensor mode held,
    .readPrevious role sensor (.ok mode) held ∈ trace →
      mode = held

/- The writes of the restore take effect. -/
def RestoreSucceeded (trace : List Event) : Prop :=
  ∀ role sensor mode error left,
    .write .restore role sensor mode error left ∈ trace →
      error = none ∧ left = mode

/- The write that restores a camera. -/
def Assignment.target
    (assignment : Assignment) : Role × Nat × ℚ :=
  (assignment.role, assignment.sensor, assignment.previousMode)

theorem previousReads_of_phase
    {phase : Phase}
    {events : List Event}
    (hPhase : ∀ event ∈ events, event.phase? = some phase) :
    previousReads events = [] := by
  unfold previousReads
  rw [List.filterMap_eq_nil_iff]
  intro event hEvent
  have hHere := hPhase event hEvent
  cases event with
  | readPrevious role sensor result held =>
      simp [Event.phase?] at hHere
  | write phase role sensor mode error left => rfl
  | readBack phase role sensor result => rfl

theorem restoreWrites_of_phase
    {events : List Event}
    (hPhase :
      ∀ event ∈ events, event.phase? ≠ some .restore) :
    restoreWrites events = [] := by
  unfold restoreWrites
  rw [List.filterMap_eq_nil_iff]
  intro event hEvent
  have hHere := hPhase event hEvent
  cases event with
  | readPrevious role sensor result held => rfl
  | write phase role sensor mode error left =>
      cases phase with
      | configure => rfl
      | restore => simp [Event.phase?] at hHere
  | readBack phase role sensor result => rfl

------------------------------------------------------------
-- The Three Loops
------------------------------------------------------------

section

variable (env : Environment)

theorem makeAssignment_spec
    (request : Request)
    (world : World) :
    ∃ events,
      (makeAssignment env request world).2 =
        { world with trace := world.trace ++ events } ∧
      (∀ event ∈ events, event.phase? = none) ∧
      ∀ assignment,
        (makeAssignment env request world).1 = .ok assignment →
          assignment.role = request.role ∧
          assignment.requestedMode = request.requestedMode ∧
          previousReads events = [assignment.target] ∧
          (Truthful events →
            assignment.previousMode =
              world.modes assignment.sensor) := by
  unfold makeAssignment
  simp only
  split
  next message hFound =>
    exact ⟨[], by simp, by simp, by simp⟩
  next sensor hFound =>
    refine ⟨[.readPrevious request.role sensor
      (env.read world.trace sensor (world.modes sensor))
      (world.modes sensor)], ?_, ?_, ?_⟩
    · split <;> rfl
    · simp [Event.phase?]
    · intro assignment hOk
      split at hOk
      next => cases hOk
      next previous hRead =>
        simp only [Except.ok.injEq] at hOk
        subst hOk
        refine ⟨rfl, rfl, ?_, ?_⟩
        · simp [previousReads, Event.previousRead?, hRead,
            Assignment.target]
        · intro hTruthful
          apply hTruthful request.role sensor
          rw [hRead]
          simp

/- Nothing is written before all previous modes are known. -/
theorem makeAssignments_spec
    (reqs : List Request)
    (world : World) :
    ∃ events,
      (makeAssignments env reqs world).2 =
        { world with trace := world.trace ++ events } ∧
      (∀ event ∈ events, event.phase? = none) ∧
      ∀ assignments,
        (makeAssignments env reqs world).1 = .ok assignments →
          assignments.map (fun assignment =>
              (assignment.role, assignment.requestedMode)) =
            reqs.map (fun request =>
              (request.role, request.requestedMode)) ∧
          previousReads events =
            assignments.map Assignment.target ∧
          (Truthful events →
            ∀ assignment ∈ assignments,
              assignment.previousMode =
                world.modes assignment.sensor) := by
  induction reqs generalizing world with
  | nil =>
      refine ⟨[], by simp [makeAssignments], by simp, ?_⟩
      intro assignments hOk
      simp only [makeAssignments, Except.ok.injEq] at hOk
      subst hOk
      simp [previousReads]
  | cons request reqs ih =>
      rcases makeAssignment_spec env request world with
        ⟨first, hWorld, hPhase, hFirst⟩
      rw [makeAssignments]
      rcases hMake : makeAssignment env request world with
        ⟨result, next⟩
      rw [hMake] at hWorld hFirst
      simp only at hWorld hFirst
      subst hWorld
      cases result with
      | error message =>
          exact ⟨first, rfl, hPhase, by simp⟩
      | ok assignment =>
          rcases hFirst assignment rfl with
            ⟨hRole, hMode, hReads, hHeld⟩
          rcases ih { world with
            trace := world.trace ++ first } with
            ⟨more, hMore, hMorePhase, hRest⟩
          refine ⟨first ++ more, ?_, ?_, ?_⟩
          · simp only
            rw [← List.append_assoc]
            rcases hAll : makeAssignments env reqs { world with
              trace := world.trace ++ first } with ⟨result, last⟩
            rw [hAll] at hMore
            simp only at hMore
            subst hMore
            cases result <;> rfl
          · intro event hEvent
            rcases List.mem_append.mp hEvent with hIn | hIn
            · exact hPhase event hIn
            · exact hMorePhase event hIn
          · intro assignments hOk
            simp only at hOk
            rcases hAll : makeAssignments env reqs { world with
              trace := world.trace ++ first } with ⟨result, last⟩
            rw [hAll] at hOk hRest
            cases result with
            | error message => cases hOk
            | ok others =>
                simp only [Except.ok.injEq] at hOk
                subst hOk
                rcases hRest others rfl with
                  ⟨hRoles, hOthers, hTruth⟩
                refine ⟨?_, ?_, ?_⟩
                · simp [hRole, hMode, hRoles]
                · unfold previousReads at hReads hOthers ⊢
                  rw [List.filterMap_append, hReads, hOthers]
                  rfl
                · intro hTruthful other hOther
                  rcases List.mem_cons.mp hOther with
                    hSame | hLater
                  · rw [hSame]
                    apply hHeld
                    intro role sensor mode held hIn
                    exact hTruthful role sensor mode held
                      (List.mem_append_left _ hIn)
                  · apply hTruth _ other hLater
                    intro role sensor mode held hIn
                    exact hTruthful role sensor mode held
                      (List.mem_append_right _ hIn)

/- One write, and at most one read behind it. -/
theorem configureOne_spec
    (assignment : Assignment)
    (world : World) :
    ∃ error left reads,
      (configureOne env assignment world).2.2.trace =
        world.trace ++
          .write .configure assignment.role assignment.sensor
            assignment.requestedMode error left :: reads ∧
      (∀ event ∈ reads, ∃ result,
        event =
          .readBack .configure assignment.role
            assignment.sensor result) ∧
      (configureOne env assignment world).1.target =
        assignment.target ∧
      (∀ sensor, sensor ≠ assignment.sensor →
        (configureOne env assignment world).2.2.modes sensor =
          world.modes sensor) ∧
      ((configureOne env assignment world).2.1 = none →
        ∃ value,
          .readBack .configure assignment.role
            assignment.sensor (.ok value) ∈ reads ∧
          modeMatches value assignment.requestedMode =
            true) := by
  have hOther :
      ∀ left sensor, sensor ≠ assignment.sensor →
        Function.update world.modes assignment.sensor left
            sensor =
          world.modes sensor :=
    fun left sensor hNe => Function.update_of_ne hNe _ _
  unfold configureOne setOption
  cases hWrite :
      env.write .configure world.trace assignment.sensor
        assignment.requestedMode
        (world.modes assignment.sensor) with
  | mk error left =>
      cases error with
      | some message =>
          exact ⟨some message, left, [], by simp, by simp, rfl,
            hOther left, by simp⟩
      | none =>
          simp only [getOption]
          split
          next message next hRead =>
            simp only [Prod.mk.injEq] at hRead
            refine ⟨none, left, [.readBack .configure
              assignment.role assignment.sensor
              (.error message)], ?_, ?_, rfl, ?_, by simp⟩
            · rw [← hRead.2, hRead.1]
              simp
            · simp
            · rw [← hRead.2]
              exact hOther left
          next value next hRead =>
            simp only [Prod.mk.injEq] at hRead
            refine ⟨none, left, [.readBack .configure
              assignment.role assignment.sensor
              (.ok value)], ?_, ?_, rfl, ?_, ?_⟩
            · rw [← hRead.2, hRead.1]
              simp
            · simp
            · rw [← hRead.2]
              exact hOther left
            · intro hNone
              refine ⟨value, by simp, ?_⟩
              by_contra hNot
              simp [hNot] at hNone

section Splits

variable {event : Event}
variable {front more before after : List Event}

/- An event that is not in front stands behind. -/
theorem split_behind
    (hFront : event ∉ front)
    (hEq : front ++ more = before ++ event :: after) :
    ∃ between,
      before = front ++ between ∧
        more = between ++ event :: after := by
  rcases List.append_eq_append_iff.mp hEq with
    ⟨between, hBefore, hMore⟩ | ⟨rest, hSome, hAfter⟩
  · exact ⟨between, hBefore, hMore⟩
  · cases rest with
    | nil =>
        refine ⟨[], ?_, ?_⟩
        · simpa using hSome.symm
        · simpa using hAfter.symm
    | cons found rest =>
        simp only [List.cons_append, List.cons.injEq] at hAfter
        exfalso
        apply hFront
        rw [hSome, hAfter.1]
        simp

/- An event that is not behind stands in front. -/
theorem split_front
    (hMore : event ∉ more)
    (hEq : front ++ more = before ++ event :: after) :
    ∃ rest, front = before ++ event :: rest := by
  rcases List.append_eq_append_iff.mp hEq with
    ⟨between, hBefore, hLater⟩ | ⟨rest, hSome, hAfter⟩
  · exfalso
    apply hMore
    rw [hLater]
    simp
  · cases rest with
    | nil =>
        exfalso
        apply hMore
        have hIs : more = event :: after := by
          simpa using hAfter.symm
        rw [hIs]
        simp
    | cons found rest =>
        simp only [List.cons_append, List.cons.injEq] at hAfter
        exact ⟨rest, by rw [hSome, hAfter.1]⟩

/- A write among events is the first one or behind the reads. -/
theorem write_split
    {first : Event}
    {reads : List Event}
    (hReads : event ∉ reads)
    (hEq : first :: (reads ++ more) = before ++ event :: after) :
    (before = [] ∧ first = event) ∨
      ∃ between,
        before = first :: (reads ++ between) ∧
          more = between ++ event :: after := by
  cases before with
  | nil =>
      simp only [List.nil_append, List.cons.injEq] at hEq
      exact Or.inl ⟨rfl, hEq.1⟩
  | cons head before =>
      simp only [List.cons_append, List.cons.injEq] at hEq
      rcases split_behind hReads hEq.2 with
        ⟨between, hBefore, hMore⟩
      exact Or.inr ⟨between, by rw [hBefore, hEq.1], hMore⟩

end Splits

/-
  A camera is written to only after those before it have been
  read back in the modes they were to have.
-/
def ReadBackFirst
    (assignments : List Assignment)
    (events : List Event) : Prop :=
  ∀ before after phase role sensor mode error left,
    events =
        before ++
          .write phase role sensor mode error left ::
            after →
    ∃ done assignment rest,
      assignments = done ++ assignment :: rest ∧
      assignment.role = role ∧
      assignment.requestedMode = mode ∧
      ∀ earlier ∈ done, ∃ value,
        .readBack .configure earlier.role earlier.sensor
          (.ok value) ∈ before ∧
        modeMatches value earlier.requestedMode = true

section ReadBacks

variable {assignment : Assignment}
variable {assignments : List Assignment}
variable {reads more : List Event}
variable {error : Option String}
variable {left : ℚ}

/- The events of the configuration of one camera. -/
theorem phase_of_configure
    (hReads :
      ∀ event ∈ reads, ∃ result,
        event =
          .readBack .configure assignment.role
            assignment.sensor result) :
    ∀ event ∈ Event.write .configure assignment.role
        assignment.sensor assignment.requestedMode error
        left :: reads,
      event.phase? = some .configure := by
  intro event hEvent
  rcases List.mem_cons.mp hEvent with hIs | hIn
  · rw [hIs]
    rfl
  · rcases hReads event hIn with ⟨result, hIs⟩
    rw [hIs]
    rfl

theorem ReadBackFirst.cons
    (hReads :
      ∀ event ∈ reads, ∃ result,
        event =
          .readBack .configure assignment.role
            assignment.sensor result)
    (hApplied :
      more ≠ [] →
        ∃ value,
          .readBack .configure assignment.role
            assignment.sensor (.ok value) ∈ reads ∧
          modeMatches value assignment.requestedMode = true)
    (hMore : ReadBackFirst assignments more) :
    ReadBackFirst (assignment :: assignments)
      (.write .configure assignment.role assignment.sensor
        assignment.requestedMode error left ::
          (reads ++ more)) := by
  intro before after phase role sensor mode error left hEq
  have hNoWrite :
      Event.write phase role sensor mode error left ∉ reads := by
    intro hIn
    rcases hReads _ hIn with ⟨result, hIs⟩
    cases hIs
  rcases write_split hNoWrite hEq with
    ⟨hFront, hIs⟩ | ⟨between, hBefore, hRest⟩
  · cases hIs
    exact ⟨[], assignment, assignments, rfl, rfl, rfl, by simp⟩
  · rcases hMore _ _ _ _ _ _ _ _ hRest with
      ⟨done, later, rest, hAt, hRole, hMode, hDone⟩
    refine ⟨assignment :: done, later, rest,
      by rw [hAt]; rfl, hRole, hMode, ?_⟩
    intro earlier hEarlier
    rcases List.mem_cons.mp hEarlier with hSame | hIn
    · rcases hApplied (by rw [hRest]; simp) with
        ⟨value, hValue, hMatch⟩
      rw [hSame]
      exact ⟨value, by rw [hBefore]; simp [hValue], hMatch⟩
    · rcases hDone earlier hIn with ⟨value, hValue, hMatch⟩
      exact ⟨value, by rw [hBefore]; simp [hValue], hMatch⟩

end ReadBacks

theorem configureAll_spec
    (assignments : List Assignment)
    (world : World) :
    ∃ events,
      (configureAll env assignments world).2.2.trace =
        world.trace ++ events ∧
      (∀ event ∈ events, event.phase? = some .configure) ∧
      (configureAll env assignments world).1.map
          Assignment.target =
        assignments.map Assignment.target ∧
      (∀ sensor,
        (∀ assignment ∈ assignments,
          sensor ≠ assignment.sensor) →
        (configureAll env assignments world).2.2.modes sensor =
          world.modes sensor) ∧
      ReadBackFirst assignments events := by
  induction assignments generalizing world with
  | nil =>
      exact ⟨[], by simp [configureAll], by simp,
        by simp [configureAll], by simp [configureAll],
        by simp [ReadBackFirst]⟩
  | cons assignment assignments ih =>
      rcases configureOne_spec env assignment world with
        ⟨error, left, reads, hTrace, hReads, hTarget, hModes,
          hApplied⟩
      rcases hOne : configureOne env assignment world with
        ⟨configured, raised, next⟩
      rw [hOne] at hTrace hTarget hModes hApplied
      simp only at hTrace hTarget hModes hApplied
      have hPhase := @phase_of_configure assignment reads error
        left hReads
      rw [configureAll, hOne]
      cases raised with
      | some message =>
          refine ⟨_, hTrace, hPhase, ?_, ?_, ?_⟩
          · simp [hTarget]
          · intro sensor hFree
            exact hModes sensor (hFree assignment (by simp))
          · have hNone : ReadBackFirst assignments [] := by
              simp [ReadBackFirst]
            have hFirst := @ReadBackFirst.cons assignment
              assignments reads [] error left hReads (by simp)
              hNone
            rwa [List.append_nil] at hFirst
      | none =>
          rcases ih next with
            ⟨more, hMore, hMorePhase, hTargets, hRestModes,
              hOrder⟩
          refine ⟨.write .configure assignment.role
            assignment.sensor assignment.requestedMode error
            left :: (reads ++ more), ?_, ?_, ?_, ?_, ?_⟩
          · simp only
            rw [hMore, hTrace]
            simp
          · intro event hEvent
            rw [← List.cons_append] at hEvent
            rcases List.mem_append.mp hEvent with hIn | hIn
            · exact hPhase event hIn
            · exact hMorePhase event hIn
          · simp [hTarget, hTargets]
          · intro sensor hFree
            rw [hRestModes sensor (fun other hOther =>
              hFree other (List.mem_cons_of_mem _ hOther))]
            exact hModes sensor (hFree assignment (by simp))
          · exact ReadBackFirst.cons hReads
              (fun _ => hApplied rfl) hOrder

theorem restoreOne_spec
    (assignment : Assignment)
    (world : World) :
    ∃ error left reads,
      (restoreOne env assignment world).2 =
        { modes :=
            Function.update world.modes assignment.sensor left
          trace :=
            world.trace ++
              .write .restore assignment.role assignment.sensor
                assignment.previousMode error left :: reads } ∧
      ∀ event ∈ reads, ∃ result,
        event =
          .readBack .restore assignment.role
            assignment.sensor result := by
  unfold restoreOne setOption
  cases hWrite :
      env.write .restore world.trace assignment.sensor
        assignment.previousMode
        (world.modes assignment.sensor) with
  | mk error left =>
      cases error with
      | some message =>
          exact ⟨some message, left, [], rfl, by simp⟩
      | none =>
          simp only [getOption]
          split
          next message next hRead =>
            simp only [Prod.mk.injEq] at hRead
            refine ⟨none, left, [.readBack .restore
              assignment.role assignment.sensor
              (.error message)], ?_, by simp⟩
            rw [← hRead.2, hRead.1]
            simp
          next value next hRead =>
            simp only [Prod.mk.injEq] at hRead
            refine ⟨none, left, [.readBack .restore
              assignment.role assignment.sensor
              (.ok value)], ?_, by simp⟩
            rw [← hRead.2, hRead.1]
            simp

/-
  Each previous mode is written once, in order.  When the
  writes succeed, the sensors end in their original modes:
  those that are not yet written to are the only ones that
  may differ.
-/
theorem restoreAll_spec
    (assignments : List Assignment)
    (world : World) :
    ∃ events,
      (restoreAll env assignments world).2.trace =
        world.trace ++ events ∧
      (∀ event ∈ events, event.phase? = some .restore) ∧
      restoreWrites events =
        assignments.map Assignment.target ∧
      ∀ original : Nat → ℚ,
        RestoreSucceeded events →
        (∀ assignment ∈ assignments,
          assignment.previousMode =
            original assignment.sensor) →
        (∀ sensor,
          (∀ assignment ∈ assignments,
            sensor ≠ assignment.sensor) →
          world.modes sensor = original sensor) →
        (restoreAll env assignments world).2.modes =
          original := by
  induction assignments generalizing world with
  | nil =>
      refine ⟨[], by simp [restoreAll], by simp,
        by simp [restoreWrites], ?_⟩
      intro original _ _ hRest
      funext sensor
      exact hRest sensor (by simp)
  | cons assignment assignments ih =>
      rcases restoreOne_spec env assignment world with
        ⟨error, left, reads, hOne, hReads⟩
      rcases ih (restoreOne env assignment world).2 with
        ⟨more, hMore, hPhase, hWrites, hModes⟩
      refine ⟨.write .restore assignment.role assignment.sensor
        assignment.previousMode error left :: (reads ++ more),
        ?_, ?_, ?_, ?_⟩
      · rw [restoreAll]
        simp only
        rw [hMore, hOne]
        simp
      · intro event hEvent
        simp only [List.mem_cons, List.mem_append] at hEvent
        rcases hEvent with hIs | hIn | hIn
        · rw [hIs]
          rfl
        · rcases hReads event hIn with ⟨result, hIs⟩
          rw [hIs]
          rfl
        · exact hPhase event hIn
      · have hNone : reads.filterMap Event.restoreWrite? = [] := by
          rw [List.filterMap_eq_nil_iff]
          intro event hEvent
          rcases hReads event hEvent with ⟨result, hIs⟩
          rw [hIs]
          rfl
        unfold restoreWrites at hWrites ⊢
        simp [Event.restoreWrite?, hNone, hWrites,
          Assignment.target]
      · intro original hSucceeded hPrevious hRest
        rw [restoreAll]
        apply hModes original
        · intro role sensor mode error left hIn
          exact hSucceeded role sensor mode error left
            (by simp [hIn])
        · intro other hOther
          exact hPrevious other (List.mem_cons_of_mem _ hOther)
        · intro sensor hFree
          rw [hOne]
          simp only
          by_cases hHere : sensor = assignment.sensor
          · have hLeft :=
              (hSucceeded _ _ _ _ _
                (List.mem_cons_self ..)).2
            rw [hHere, Function.update_self, hLeft]
            exact hPrevious assignment (by simp)
          · rw [Function.update_of_ne hHere]
            apply hRest
            intro other hOther
            rcases List.mem_cons.mp hOther with hSame | hLater
            · rw [hSame]
              exact hHere
            · exact hFree other hLater

end

------------------------------------------------------------
-- The Life Of A Session
------------------------------------------------------------

variable (env : Environment)

/- A second restore does nothing. -/
theorem restoreRepeatedly_of_attempted
    {session : Session}
    (hAttempted : session.restoreAttempted = true)
    (count : Nat)
    (world : World) :
    restoreRepeatedly env count session world =
      (session, world) := by
  induction count with
  | zero => rfl
  | succ count ih =>
      rw [restoreRepeatedly]
      simp only [restore, hAttempted, Bool.true_or, if_true]
      exact ih

/- However often it is called, the restore happens once. -/
theorem restore_after_restores
    {session : Session}
    (hFresh : session.restoreAttempted = false)
    (hEnabled : session.assignments ≠ [])
    (count : Nat)
    (world : World) :
    (restore env
        (restoreRepeatedly env count session world).1
        (restoreRepeatedly env count session world).2).2.2 =
      (restoreAll env session.assignments.reverse world).2 := by
  have hOnce :
      restore env session world =
        (restoreErrors
            (restoreAll env session.assignments.reverse
              world).1,
          { assignments :=
              (restoreAll env session.assignments.reverse
                world).1.reverse
            restoreAttempted := true },
          (restoreAll env session.assignments.reverse
            world).2) := by
    unfold restore
    rw [hFresh]
    simp [hEnabled]
  cases count with
  | zero =>
      rw [restoreRepeatedly, hOnce]
  | succ count =>
      rw [restoreRepeatedly, hOnce,
        restoreRepeatedly_of_attempted env rfl]
      simp [restore]

theorem lifetime_of_disabled
    {masterSerial : String}
    {slaveSerials : List String}
    (hDisabled : masterSerial = "" ∨ slaveSerials = [])
    (explicitRestores : Nat)
    (world : World) :
    lifetime env masterSerial slaveSerials explicitRestores
        world =
      world := by
  have hNothing :
      ∀ count,
        restoreRepeatedly env count
            { assignments := [], restoreAttempted := false }
            world =
          ({ assignments := [], restoreAttempted := false },
            world) := by
    intro count
    induction count with
    | zero => rfl
    | succ count ih =>
        rw [restoreRepeatedly]
        simpa [restore] using ih
  unfold lifetime construct
  by_cases hBoth : masterSerial = "" ∧ slaveSerials = []
  · rw [if_pos hBoth]
    simp [hNothing, restore]
  · rw [if_neg hBoth, if_pos hDisabled]

/- Configuration and restore, on every path. -/
theorem lifetime_eq
    {masterSerial : String}
    {slaveSerials : List String}
    (hEnabled : ¬(masterSerial = "" ∨ slaveSerials = []))
    (explicitRestores : Nat)
    (world : World) :
    lifetime env masterSerial slaveSerials explicitRestores
        world =
      match makeAssignments env
          (requests masterSerial slaveSerials) world with
      | (.error _, world) => world
      | (.ok assignments, world) =>
          (restoreAll env
            (configureAll env assignments world).1.reverse
            (configureAll env assignments world).2.2).2 := by
  have hNeither : ¬(masterSerial = "" ∧ slaveSerials = []) :=
    fun hBoth => hEnabled (Or.inl hBoth.1)
  unfold lifetime construct
  rw [if_neg hNeither, if_neg hEnabled]
  rcases makeAssignments_spec env
    (requests masterSerial slaveSerials) world with
    ⟨events, -, -, hMade⟩
  rcases hMake :
      makeAssignments env (requests masterSerial slaveSerials)
        world with ⟨result, next⟩
  rw [hMake] at hMade
  cases result with
  | error message => rfl
  | ok assignments =>
      have hSome : assignments ≠ [] := by
        intro hEmpty
        have hRoles := (hMade assignments rfl).1
        simp [hEmpty, requests] at hRoles
      rcases configureAll_spec env assignments next with
        ⟨-, -, -, hTargets, -, -⟩
      rcases hConfigure :
          configureAll env assignments next with
        ⟨configured, raised, last⟩
      rw [hConfigure] at hTargets
      have hConfigured : configured ≠ [] := by
        intro hEmpty
        rw [hEmpty] at hTargets
        exact hSome (by simpa using hTargets.symm)
      cases raised with
      | none =>
          simp only [hConfigure]
          exact restore_after_restores env rfl hConfigured
            explicitRestores last
      | some message =>
          simp only [hConfigure]
          exact restore_after_restores env rfl hConfigured 0 last

/-
  The order of the writes: the pulse source is enabled last,
  and there is one restore or none, which writes back the
  previous modes, that of the master first.
-/
structure Orderly
    (slaveCount : Nat)
    (trace : List Event) : Prop where
  masterAfterSlaves :
    ∀ before after sensor mode error left,
      trace =
          before ++
            .write .configure .master sensor mode error left ::
              after →
      mode = masterMode ∧
        ∀ index < slaveCount, ∃ slaveSensor value,
          .readBack .configure (.slave index) slaveSensor
            (.ok value) ∈ before ∧
          modeMatches value slaveMode = true
  restoredOnce :
    restoreWrites trace = [] ∨
      (restoreWrites trace = (previousReads trace).reverse ∧
        (previousReads trace).map Prod.fst =
          (List.range slaveCount).map Role.slave ++ [.master])

theorem requests_roles
    (masterSerial : String)
    (slaveSerials : List String) :
    (requests masterSerial slaveSerials).map (fun request =>
        (request.role, request.requestedMode)) =
      (List.range slaveSerials.length).map (fun index =>
        (Role.slave index, slaveMode)) ++
        [(Role.master, masterMode)] := by
  unfold requests
  rw [List.map_append]
  congr 1
  apply List.ext_getElem
  · simp
  · intro index hLeft hRight
    simp

/- The place of the master among the assignments. -/
theorem slaves_done
    {slaveCount : Nat}
    {assignments done rest : List Assignment}
    {assignment : Assignment}
    (hRoles :
      assignments.map (fun assignment =>
          (assignment.role, assignment.requestedMode)) =
        (List.range slaveCount).map (fun index =>
          (Role.slave index, slaveMode)) ++
          [(Role.master, masterMode)])
    (hAt : assignments = done ++ assignment :: rest)
    (hMaster : assignment.role = .master) :
    assignment.requestedMode = masterMode ∧
      ∀ index < slaveCount, ∃ earlier ∈ done,
        earlier.role = .slave index ∧
          earlier.requestedMode = slaveMode := by
  have hPairs := hRoles
  rw [hAt, List.map_append, List.map_cons] at hPairs
  have hAbsent :
      (Role.master, masterMode) ∉
        (List.range slaveCount).map (fun index =>
          (Role.slave index, slaveMode)) := by
    simp
  have hMode : assignment.requestedMode = masterMode := by
    have hIn :
        (assignment.role, assignment.requestedMode) ∈
          (List.range slaveCount).map (fun index =>
            (Role.slave index, slaveMode)) ++
            [(Role.master, masterMode)] := by
      rw [← hPairs]
      simp
    simpa [hMaster] using hIn
  rw [hMaster, hMode] at hPairs
  have hDistinct :
      ((List.range slaveCount).map (fun index =>
          (Role.slave index, slaveMode)) ++
        [(Role.master, masterMode)]).Nodup := by
    rw [List.nodup_append]
    refine ⟨List.nodup_range.map ?_, by simp, ?_⟩
    · intro left right hEq
      simpa using hEq
    · intro pair hPair other hOther hSame
      simp only [List.mem_singleton] at hOther
      rw [hSame, hOther] at hPair
      exact hAbsent hPair
  have hNotDone :
      (Role.master, masterMode) ∉
        done.map (fun assignment =>
          (assignment.role, assignment.requestedMode)) := by
    rw [← hPairs, List.nodup_append] at hDistinct
    intro hIn
    exact hDistinct.2.2 _ hIn _ (by simp) rfl
  have hDone := (append_cons_inj hNotDone hAbsent hPairs).1
  refine ⟨hMode, ?_⟩
  intro index hIndex
  have hIn :
      (Role.slave index, slaveMode) ∈
        done.map (fun assignment =>
          (assignment.role, assignment.requestedMode)) := by
    rw [hDone]
    exact List.mem_map_of_mem (List.mem_range.mpr hIndex)
  rcases List.mem_map.mp hIn with ⟨earlier, hEarlier, hIs⟩
  simp only [Prod.mk.injEq] at hIs
  exact ⟨earlier, hEarlier, hIs⟩

section Life

variable {slaveCount : Nat}
variable {assignments : List Assignment}
variable {reads writes restores : List Event}

/- The trace of a session whose sensors were all found. -/
theorem orderly_of_parts
    (hRoles :
      assignments.map (fun assignment =>
          (assignment.role, assignment.requestedMode)) =
        (List.range slaveCount).map (fun index =>
          (Role.slave index, slaveMode)) ++
          [(Role.master, masterMode)])
    (hReads : ∀ event ∈ reads, event.phase? = none)
    (hPrevious :
      previousReads reads = assignments.map Assignment.target)
    (hWrites :
      ∀ event ∈ writes, event.phase? = some .configure)
    (hOrder : ReadBackFirst assignments writes)
    (hRestores :
      ∀ event ∈ restores, event.phase? = some .restore)
    (hBack :
      restoreWrites restores =
        (assignments.map Assignment.target).reverse) :
    Orderly slaveCount (reads ++ writes ++ restores) where
  masterAfterSlaves := by
    intro before after sensor mode error left hEq
    have hNotRead :
        Event.write .configure .master sensor mode error left ∉
          reads := by
      intro hIn
      have hPhase := hReads _ hIn
      simp [Event.phase?] at hPhase
    have hNotRestore :
        Event.write .configure .master sensor mode error left ∉
          restores := by
      intro hIn
      have hPhase := hRestores _ hIn
      simp [Event.phase?] at hPhase
    rcases split_front hNotRestore hEq with ⟨rest, hFront⟩
    rcases split_behind hNotRead hFront with
      ⟨between, hBefore, hMiddle⟩
    rcases hOrder _ _ _ _ _ _ _ _ hMiddle with
      ⟨done, assignment, others, hAt, hRole, hMode, hDone⟩
    rcases slaves_done hRoles hAt hRole with
      ⟨hMaster, hSlaves⟩
    refine ⟨by rw [← hMode, hMaster], ?_⟩
    intro index hIndex
    rcases hSlaves index hIndex with
      ⟨earlier, hEarlier, hIs, hRequested⟩
    rcases hDone earlier hEarlier with ⟨value, hIn, hMatch⟩
    rw [hIs] at hIn
    rw [hRequested] at hMatch
    refine ⟨earlier.sensor, value, ?_, hMatch⟩
    rw [hBefore]
    exact List.mem_append_right _ hIn
  restoredOnce := by
    have hAllReads :
        previousReads (reads ++ writes ++ restores) =
          assignments.map Assignment.target := by
      have hMiddle := previousReads_of_phase hWrites
      have hLast := previousReads_of_phase hRestores
      unfold previousReads at hPrevious hMiddle hLast ⊢
      rw [List.filterMap_append, List.filterMap_append,
        hPrevious, hMiddle, hLast]
      simp
    have hAllWrites :
        restoreWrites (reads ++ writes ++ restores) =
          (assignments.map Assignment.target).reverse := by
      have hFirst :=
        @restoreWrites_of_phase reads (fun event hIn => by
          simp [hReads event hIn])
      have hMiddle :=
        @restoreWrites_of_phase writes (fun event hIn => by
          simp [hWrites event hIn])
      unfold restoreWrites at hFirst hMiddle hBack ⊢
      rw [List.filterMap_append, List.filterMap_append,
        hFirst, hMiddle, hBack]
      simp
    right
    refine ⟨by rw [hAllWrites, hAllReads], ?_⟩
    have hFirst := congrArg (List.map Prod.fst) hRoles
    rw [hAllReads]
    simpa [Assignment.target, Function.comp_def] using hFirst

/- Without a write there is nothing to be in order. -/
theorem orderly_of_reads
    (hReads : ∀ event ∈ reads, event.phase? = none) :
    Orderly slaveCount reads where
  masterAfterSlaves := by
    intro before after sensor mode error left hEq
    have hIn :
        Event.write .configure .master sensor mode error left ∈
          reads := by
      rw [hEq]
      simp
    have hPhase := hReads _ hIn
    simp [Event.phase?] at hPhase
  restoredOnce := by
    left
    apply restoreWrites_of_phase
    intro event hEvent
    simp [hReads event hEvent]

/- A session whose sensors were all found. -/
theorem found_spec
    {modes : Nat → ℚ}
    (hRoles :
      assignments.map (fun assignment =>
          (assignment.role, assignment.requestedMode)) =
        (List.range slaveCount).map (fun index =>
          (Role.slave index, slaveMode)) ++
          [(Role.master, masterMode)])
    (hReads : ∀ event ∈ reads, event.phase? = none)
    (hPrevious :
      previousReads reads = assignments.map Assignment.target)
    (hHeld :
      Truthful reads →
        ∀ assignment ∈ assignments,
          assignment.previousMode = modes assignment.sensor)
    {world : World}
    (hWorld :
      world =
        (restoreAll env
          (configureAll env assignments
            { modes := modes, trace := reads }).1.reverse
          (configureAll env assignments
            { modes := modes, trace := reads }).2.2).2) :
    Orderly slaveCount world.trace ∧
      (Truthful world.trace →
        RestoreSucceeded world.trace →
        world.modes = modes) := by
  rcases configureAll_spec env assignments
    { modes := modes, trace := reads } with
    ⟨writes, hWrite, hWrites, hTargets, hFree, hOrder⟩
  rcases hConfigure :
      configureAll env assignments
        { modes := modes, trace := reads } with
    ⟨configured, raised, last⟩
  rw [hConfigure] at hWorld hWrite hTargets hFree
  simp only at hWorld hWrite hTargets hFree
  rcases restoreAll_spec env configured.reverse last with
    ⟨restores, hRestore, hRestores, hBack, hModes⟩
  rw [List.map_reverse, hTargets] at hBack
  rw [← hWorld, hWrite] at hRestore
  rw [← hWorld] at hModes
  rw [hRestore]
  refine ⟨orderly_of_parts hRoles hReads hPrevious
    hWrites hOrder hRestores hBack, ?_⟩
  intro hTruthful hSucceeded
  apply hModes modes
  · intro role sensor mode error left hIn
    exact hSucceeded role sensor mode error left
      (List.mem_append_right _ hIn)
  · intro assignment hIn
    have hTarget :
        assignment.target ∈
          configured.map Assignment.target :=
      List.mem_map_of_mem (List.mem_reverse.mp hIn)
    rw [hTargets] at hTarget
    rcases List.mem_map.mp hTarget with ⟨other, hOther, hIs⟩
    simp only [Assignment.target, Prod.mk.injEq] at hIs
    rw [← hIs.2.2, ← hIs.2.1]
    apply hHeld _ other hOther
    intro role sensor mode held hRead
    exact hTruthful role sensor mode held
      (List.mem_append_left _ (List.mem_append_left _ hRead))
  · intro sensor hOther
    apply hFree
    intro assignment hIn
    have hTarget :
        assignment.target ∈
          assignments.map Assignment.target :=
      List.mem_map_of_mem hIn
    rw [← hTargets] at hTarget
    rcases List.mem_map.mp hTarget with
      ⟨other, hConfigured, hIs⟩
    simp only [Assignment.target, Prod.mk.injEq] at hIs
    rw [← hIs.2.1]
    exact hOther other (List.mem_reverse.mpr hConfigured)

end Life

/-
  For every environment: the writes of a session are in
  order, and a restore that succeeds brings back all modes.
-/
theorem lifetime_spec
    (env : Environment)
    (masterSerial : String)
    (slaveSerials : List String)
    (explicitRestores : Nat)
    (modes : Nat → ℚ) :
    let world :=
      lifetime env masterSerial slaveSerials explicitRestores
        { modes := modes, trace := [] }
    Orderly slaveSerials.length world.trace ∧
      (Truthful world.trace →
        RestoreSucceeded world.trace →
        world.modes = modes) := by
  intro world
  by_cases hDisabled : masterSerial = "" ∨ slaveSerials = []
  · have hWorld : world = { modes := modes, trace := [] } :=
      lifetime_of_disabled env hDisabled explicitRestores _
    rw [hWorld]
    exact ⟨orderly_of_reads (by simp), fun _ _ => rfl⟩
  · have hWorld :=
      lifetime_eq env hDisabled explicitRestores
        { modes := modes, trace := [] }
    rcases makeAssignments_spec env
      (requests masterSerial slaveSerials)
      { modes := modes, trace := [] } with
      ⟨reads, hRead, hReads, hMade⟩
    rcases hMake :
        makeAssignments env
          (requests masterSerial slaveSerials)
          { modes := modes, trace := [] } with ⟨result, next⟩
    rw [hMake] at hWorld hRead hMade
    simp only [List.nil_append] at hRead
    subst hRead
    cases result with
    | error message =>
        have hIs : world = { modes := modes, trace := reads } :=
          hWorld
        rw [hIs]
        exact ⟨orderly_of_reads hReads, fun _ _ => rfl⟩
    | ok assignments =>
        rcases hMade assignments rfl with
          ⟨hRoles, hPrevious, hHeld⟩
        rw [requests_roles] at hRoles
        exact found_spec env hRoles hReads hPrevious hHeld hWorld

/- A library that does what it is told. -/
def obedient : Environment where
  devices _ :=
    [{ serial := some "left"
       sensors :=
         [{ sensor := 0, supportsSyncMode := true,
            readOnly := false }] },
      { serial := some "right"
        sensors :=
          [{ sensor := 1, supportsSyncMode := true,
             readOnly := false }] }]
  write _ _ _ mode _ := (none, mode)
  read _ _ held := .ok held
  modeText _ := ""

/- A pair of cameras that were off before is off again. -/
theorem lifetime_of_obedient :
    Orderly 1
        (lifetime obedient "left" ["right"] 1
          { modes := fun _ => 0, trace := [] }).trace ∧
      (lifetime obedient "left" ["right"] 1
        { modes := fun _ => 0, trace := [] }).modes =
        fun _ => 0 := by
  have hSpec :=
    lifetime_spec obedient "left" ["right"] 1 (fun _ => 0)
  refine ⟨hSpec.1, hSpec.2 ?_ ?_⟩
  · intro role sensor mode held hIn
    have hAll :
        (lifetime obedient "left" ["right"] 1
          { modes := fun _ => 0, trace := [] }).trace.all
          (fun event =>
            match event with
            | .readPrevious _ _ (.ok mode) held => mode = held
            | _ => true) = true := by
      decide +kernel
    simpa using List.all_eq_true.mp hAll _ hIn
  · intro role sensor mode error left hIn
    have hAll :
        (lifetime obedient "left" ["right"] 1
          { modes := fun _ => 0, trace := [] }).trace.all
          (fun event =>
            match event with
            | .write .restore _ _ mode error left =>
                error = none ∧ left = mode
            | _ => true) = true := by
      decide +kernel
    simpa using List.all_eq_true.mp hAll _ hIn

end Sync

end RsCamera
