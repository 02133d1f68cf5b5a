import RsCamera.Probe.Barrier

/-
  The start of the measurement under noise: the probe and
  the coordinator of the noise workloads as two processes
  that exchange files (`NoiseTransition`, `start_all` of
  `NoiseSuite`, `write_atomic_timestamp` and
  `wait_for_measurement_gate`).

  The probe publishes that all cameras are warm, the
  coordinator then starts the noise and publishes the gate,
  or an error.  Every file is published by a rename.

  Each step of the coordinator reads or writes one file, or
  reads the clock once, and every statement of it may raise.
  The probe is the system of `Probe.Machine`; what it finds
  when it looks for the gate is here read from the files.

  Key definitions include:
    * `Files`, `NoisePoint`, `Coordinator`
    * `coordinatorStep`
    * `Joint`, `noiseTransition`
-/

------------------------------------------------------------
-- Files
------------------------------------------------------------

namespace RsCamera

namespace Noise

/- The published files, with their contents. -/
structure Files where
  warmupReady : Option String := none
  gate : Option String := none
  error : Option String := none
deriving Repr, DecidableEq

/- The text of a timestamp file. -/
def timestampLine (timestampNs : Nat) : String :=
  toString timestampNs ++ "\n"

/- The number that the probe reads from the gate file. -/
def readGate (text : String) : Option Nat :=
  match stoull text with
  | .ok value => some value.1
  | .error _ => none

------------------------------------------------------------
-- The Coordinator
------------------------------------------------------------

/- Where the thread of the coordinator stands. -/
inductive NoisePoint
| notStarted
| polling
| looking
| readStart
| startWorkloads (rest : List String)
| stopWorkloads (error : String)
| checkDone
| readReady
| writeGate
| renameGate
| writeState
| writeError (error : String)
| renameError (error : String)
| writeErrorState
| finished
| dead
deriving Repr, DecidableEq

/-
  `startAllReturned` is not a field of the source: it says
  that `start_all` has returned without an exception.
-/
structure Coordinator where
  point : NoisePoint := .notStarted
  probeDone : Bool := false
  cameraWarmupReadyNs : Int := 0
  noiseStartNs : Nat := 0
  noiseReadyNs : Nat := 0
  error : String := ""
  startAllReturned : Bool := false
deriving Repr, DecidableEq

/- What a statement of the coordinator does. -/
inductive NoiseInput
| proceed
| unreadable
| raised (error : String)
deriving Repr, DecidableEq

/- One turn of the wait for the cameras. -/
def lookForWarmup
    (coordinator : Coordinator)
    (files : Files) : Coordinator :=
  match files.warmupReady with
  | none => { coordinator with point := .polling }
  | some text =>
      match pyInt text with
      | .error _ => { coordinator with point := .polling }
      | .ok timestamp =>
          if 0 < timestamp then
            { coordinator with
              cameraWarmupReadyNs := timestamp
              point := .readStart }
          else
            { coordinator with point := .polling }

/-
  A statement that does what it should.  `workloads` are
  those of the suite, in the order of their start.
-/
def coordinatorProceed
    (workloads : List String)
    (clock : Nat)
    (coordinator : Coordinator)
    (files : Files) : Option (Coordinator × Files) :=
  match coordinator.point with
  | .notStarted =>
      some ({ coordinator with point := .polling }, files)
  | .polling =>
      some
        ({ coordinator with
            point :=
              if coordinator.probeDone then
                .finished
              else
                .looking },
          files)
  | .looking => some (lookForWarmup coordinator files, files)
  | .readStart =>
      some
        ({ coordinator with
            noiseStartNs := clock
            point := .startWorkloads workloads },
          files)
  | .startWorkloads (_ :: rest) =>
      some
        ({ coordinator with point := .startWorkloads rest },
          files)
  | .startWorkloads [] =>
      some
        ({ coordinator with
            startAllReturned := true
            point := .checkDone },
          files)
  | .stopWorkloads error =>
      some
        ({ coordinator with point := .writeError error },
          files)
  | .checkDone =>
      some
        ({ coordinator with
            point :=
              if coordinator.probeDone then
                .finished
              else
                .readReady },
          files)
  | .readReady =>
      some
        ({ coordinator with
            noiseReadyNs := clock
            point := .writeGate },
          files)
  | .writeGate =>
      some ({ coordinator with point := .renameGate }, files)
  | .renameGate =>
      some
        ({ coordinator with point := .writeState },
          { files with
            gate :=
              some
                (timestampLine coordinator.noiseReadyNs) })
  | .writeState =>
      some ({ coordinator with point := .finished }, files)
  | .writeError error =>
      some
        ({ coordinator with
            error := error
            point := .renameError error },
          files)
  | .renameError error =>
      some
        ({ coordinator with point := .writeErrorState },
          { files with error := some (error ++ "\n") })
  | .writeErrorState =>
      some ({ coordinator with point := .finished }, files)
  | .finished => none
  | .dead => none

/- Where an exception leads. -/
def NoisePoint.onRaise
    (point : NoisePoint)
    (error : String) : Option NoisePoint :=
  match point with
  | .notStarted => none
  | .startWorkloads _ => some (.stopWorkloads error)
  | .writeError _ => some .dead
  | .renameError _ => some .dead
  | .writeErrorState => some .dead
  | .finished => none
  | .dead => none
  | _ => some (.writeError error)

def coordinatorStep
    (workloads : List String)
    (clock : Nat)
    (coordinator : Coordinator)
    (files : Files) :
    NoiseInput → Option (Coordinator × Files)
| .proceed =>
    coordinatorProceed workloads clock coordinator files
| .unreadable =>
    -- The file is there, but reading it fails.
    if coordinator.point = .looking then
      some ({ coordinator with point := .polling }, files)
    else
      none
| .raised error =>
    (coordinator.point.onRaise error).map (fun point =>
      ({ coordinator with point := point }, files))

------------------------------------------------------------
-- The Joint System
------------------------------------------------------------

open Probe

variable {n m : Nat}

/- `errorAbsent`: the probe has seen that there is no error. -/
structure Joint (n m : Nat) where
  probe : State n m
  coordinator : Coordinator
  files : Files
  errorAbsent : Bool

inductive JointAction (n m : Nat)
| probe (action : Action n m)
| lookError
| lookGate (late : Bool)
| noise (input : NoiseInput)
| finish
deriving Repr, DecidableEq

/- The probe renames the file of the warm-up. -/
def publishes (s : State n m) (action : Action n m) : Bool :=
  s.mainOps = [] && s.main = .publishReady &&
    action = .main .proceed

/- Looking at the gate is left to the steps below. -/
def isLook : Action n m → Bool
| .main (.gate _) => true
| _ => false

def probeStep
    (cfg : Config n)
    (s : Joint n m)
    (action : Action n m) : Option (Joint n m) :=
  if isLook action then
    none
  else
    (step cfg s.probe action).map (fun probe =>
      { s with
        probe := probe
        files :=
          if publishes s.probe action then
            { s.files with
              warmupReady :=
                some
                  (timestampLine s.probe.warmupReadyNs) }
          else
            s.files })

/- The first look of `wait_for_measurement_gate`. -/
def lookErrorStep
    (cfg : Config n)
    (s : Joint n m) : Option (Joint n m) :=
  if s.probe.main = .gateInspect ∧ s.probe.mainOps = [] ∧
      s.errorAbsent = false then
    match s.files.error with
    | some text =>
        (step cfg s.probe (.main (.gate (.errorFile text)))).map
          (fun probe => { s with probe := probe })
    | none => some { s with errorAbsent := true }
  else
    none

/- The second look, and the deadline after it. -/
def lookGateStep
    (cfg : Config n)
    (s : Joint n m)
    (late : Bool) : Option (Joint n m) :=
  if s.errorAbsent then
    let look : GateLook :=
      match s.files.gate with
      | some text => .gateFile (readGate text)
      | none => if late then .timedOut else .nothing
    (step cfg s.probe (.main (.gate look))).map (fun probe =>
      { s with probe := probe, errorAbsent := false })
  else
    none

def noiseTransition
    (cfg : Config n)
    (m : Nat)
    (workloads : List String) :
    TransitionSystem (Joint n m) (JointAction n m) where
  step s action :=
    match action with
    | .probe action => probeStep cfg s action
    | .lookError => lookErrorStep cfg s
    | .lookGate late => lookGateStep cfg s late
    | .noise input =>
        (coordinatorStep workloads s.probe.clock s.coordinator
            s.files input).map (fun next =>
          { s with coordinator := next.1, files := next.2 })
    | .finish =>
        some
          { s with
            coordinator :=
              { s.coordinator with probeDone := true } }

def startJoint
    (cfg : Config n)
    (m : Nat) : Joint n m where
  probe := start cfg m
  coordinator := {}
  files := {}
  errorAbsent := false

end Noise

end RsCamera
