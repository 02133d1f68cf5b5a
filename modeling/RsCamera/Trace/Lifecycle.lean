import Mathlib.Data.List.Sort
import RsCamera.Lib.Containers

/-
  Lifecycle events of the traced threads and the records
  made from them (`parse_startup_trace.py`), and the times
  of phase markers (`parse_steady_trace.py`).

  An event is a decoded line of the trace file.  A field
  that the line may lack is an option, or a text that is
  empty when the field is absent.  Records are updated in
  place by later events, so the tables refer to them by
  their index.

  Key definitions include:
    * `Event`, `sortEvents`, `markerTime`
    * `threadSignature`
    * `Record`, `Lifecycle`, `lifecycleRecords`

  Key theorems include:
    * `lifecycleRecords_eq`
-/

------------------------------------------------------------
-- Events
------------------------------------------------------------

namespace RsCamera

namespace Trace

/- The events that records are made from. -/
inductive EventKind
| phaseMarker
| pthreadCreate
| threadStart
| threadName
| threadExit
| pthreadJoinEnd
| pthreadDetach
| unknown
deriving Repr, DecidableEq

/- A frame of a creation stack. -/
structure StackFrame where
  moduleName : String := ""
  moduleOffset : String := ""
  address : String := ""
deriving Repr, DecidableEq

/- A decoded line. -/
structure Event where
  kind : EventKind
  timestampNs : Option Int := none
  name : String := ""
  tid : Option Int := none
  pthreadValue : String := ""
  callerTid : Option Int := none
  parentTid : Option Int := none
  success : Option Bool := none
  result : Option Int := none
  creationSequence : Option Int := none
  createTimestampNs : Option Int := none
  signature : String := ""
  entryModule : Option String := none
  entryModuleOffset : Option String := none
  entryAddress : String := ""
  stack : List StackFrame := []
deriving Repr, DecidableEq

/- `read_jsonl` returns the events in the order of time. -/
def sortEvents (events : List Event) : List Event :=
  events.insertionSort
    (fun left right =>
      left.timestampNs.getD 0 ≤ right.timestampNs.getD 0)

/- The subscript of a key that the line lacks. -/
def requireKey
    (key : String)
    (value : Option Int) : Except String Int :=
  match value with
  | none => .error ("'" ++ key ++ "'")
  | some value => .ok value

/- `marker_time`: the marker is there once. -/
def markerTime
    (events : List Event)
    (name : String) : Except String Int := do
  let matching ←
    (events.filter (fun event =>
      event.kind = .phaseMarker ∧ event.name = name)).mapM
      (fun event =>
        requireKey "timestamp_ns" event.timestampNs)
  match matching with
  | [time] => .ok time
  | _ =>
      .error
        ("Expected one '" ++ name ++
          "' phase marker, found " ++ toString matching.length)

/- A number that is neither absent nor zero. -/
def truthy (value : Option Int) : Option Int :=
  value.filter (fun number => number ≠ 0)

/- The first text that is not empty. -/
def textOr (first second : String) : String :=
  if first = "" then second else first

------------------------------------------------------------
-- Thread Signatures
------------------------------------------------------------

/- The last component of a path. -/
def pathName (path : String) : String :=
  ((path.splitOn "/").filter
    (fun part => part ≠ "" ∧ part ≠ ".")).getLast?.getD ""

/- Whether a text occurs inside another. -/
def occursIn (part text : String) : Bool :=
  text.toList.tails.any
    (fun rest => part.toList.isPrefixOf rest)

/- How a frame of the creation stack is written. -/
def frameText (moduleName offset : String) : String :=
  if moduleName = "realsense_steady_probe" then
    moduleName
  else
    moduleName ++ "@" ++ offset

/- The loop over the stack: at most six frames are kept. -/
def stackParts (entryModule : String) :
    List StackFrame → Nat → List String
| [], _ => []
| frame :: rest, included =>
    let moduleName := pathName frame.moduleName
    if moduleName = "" ∨
        occursIn "libtrace_pthreads.so" moduleName ∨
        moduleName = entryModule then
      stackParts entryModule rest included
    else
      let offset :=
        textOr frame.moduleOffset
          (textOr frame.address "0x0")
      frameText moduleName offset ::
        (if included + 1 = 6 then
          []
        else
          stackParts entryModule rest (included + 1))

/- `thread_signature`. -/
def threadSignature (event : Event) : String :=
  if event.signature ≠ "" then
    event.signature
  else
    let entryModule := pathName (event.entryModule.getD "")
    let entryOffset :=
      textOr (event.entryModuleOffset.getD "")
        (textOr event.entryAddress "0x0")
    "|".intercalate
      (("entry=" ++ frameText entryModule entryOffset) ::
        stackParts entryModule event.stack 0)

------------------------------------------------------------
-- Lifecycle Records
------------------------------------------------------------

/- What is known of a thread. -/
structure Record where
  tid : Option Int := none
  tgid : Option Int := none
  pthreadValue : String := ""
  name : String := ""
  parentTid : Option Int := none
  createdNs : Option Int := none
  startedNs : Option Int := none
  exitedNs : Option Int := none
  joinedNs : Option Int := none
  joinedBy : Option Int := none
  detachedBy : Option Int := none
  cycle : Int := 0
  creationSequence : Option Int := none
  signature : String := ""
  entryModule : String := ""
  entryModuleOffset : String := ""
deriving Repr, DecidableEq

/- The bounds of the start-up cycles, by their number. -/
abbrev CycleBounds : Type :=
  Std.TreeMap Int (Int × Int)

/- `cycle_at`. -/
def cycleAt
    (timestampNs : Option Int)
    (bounds : CycleBounds) : Int :=
  match timestampNs with
  | none => 0
  | some time =>
      ((bounds.toList.find? (fun entry =>
        entry.2.1 ≤ time ∧ time ≤ entry.2.2)).map
        Prod.fst).getD 0

/- The records so far, and the tables that find them. -/
structure Lifecycle where
  records : List Record := []
  byCreate : Std.TreeMap (String × Int) Nat := {}
  byTid : Std.TreeMap Int (List Nat) := {}
  byPthread : Std.TreeMap String (List Nat) := {}

namespace Lifecycle

/- Add a record; its index is the old number of records. -/
def newRecord
    (state : Lifecycle)
    (record : Record) : Lifecycle :=
  { state with
    records := state.records ++ [record]
    byPthread :=
      if record.pthreadValue = "" then
        state.byPthread
      else
        state.byPthread.insert record.pthreadValue
          (state.byPthread.getD record.pthreadValue [] ++
            [state.records.length]) }

/- A change of one record. -/
def update
    (state : Lifecycle)
    (index : Nat)
    (change : Record → Record) : Lifecycle :=
  { state with records := state.records.modify index change }

/- The first group that is known. -/
def appTgid (records : List Record) : Option Int :=
  records.findSome? (fun record => truthy record.tgid)

/- The last of the candidates, which is the one meant. -/
def lastWhere
    (state : Lifecycle)
    (candidates : List Nat)
    (accepts : Record → Bool) : Option Nat :=
  (candidates.filter (fun index =>
    (state.records[index]?.map accepts).getD
      false)).getLast?

/- A change of the last record that is accepted. -/
def updateLast
    (state : Lifecycle)
    (candidates : List Nat)
    (accepts : Record → Bool)
    (change : Record → Record) : Lifecycle :=
  match state.lastWhere candidates accepts with
  | none => state
  | some index => state.update index change

/- The record of the main thread. -/
def startMain
    (state : Lifecycle)
    (events : List Event) : Except String Lifecycle :=
  match
    events.find? (fun event =>
      event.kind = .phaseMarker ∧
        event.name = "process_start") with
  | none => .ok state
  | some event => do
      let tid ← requireKey "tid" event.tid
      let time ← requireKey "timestamp_ns" event.timestampNs
      let index := state.records.length
      let state :=
        state.newRecord
          { tid := tid
            tgid := tid
            name := "main"
            createdNs := time
            startedNs := time }
      .ok
        { state with
          byTid :=
            state.byTid.insert tid
              (state.byTid.getD tid [] ++ [index]) }

/- A creation that succeeds opens a record. -/
def pthreadCreate
    (bounds : CycleBounds)
    (state : Lifecycle)
    (event : Event) : Lifecycle :=
  if event.success.getD (event.result = some 0) then
    let index := state.records.length
    let state :=
      state.newRecord
        { pthreadValue := event.pthreadValue
          parentTid := event.callerTid
          createdNs := event.timestampNs
          cycle := cycleAt event.timestampNs bounds
          creationSequence := event.creationSequence
          signature := threadSignature event
          entryModule := event.entryModule.getD ""
          entryModuleOffset :=
            event.entryModuleOffset.getD "" }
    { state with
      byCreate :=
        state.byCreate.insert
          (event.pthreadValue, event.timestampNs.getD 0)
          index }
  else
    state

/- The record of a thread that starts, made if need be. -/
def startedRecord
    (bounds : CycleBounds)
    (state : Lifecycle)
    (event : Event) : Nat × Lifecycle :=
  let created := event.createTimestampNs.getD 0
  match state.byCreate[(event.pthreadValue, created)]? with
  | some index => (index, state)
  | none =>
      let index := state.records.length
      let createdNs :=
        (truthy (some created)).or event.timestampNs
      let state :=
        state.newRecord
          { pthreadValue := event.pthreadValue
            createdNs := createdNs
            cycle := cycleAt createdNs bounds }
      (index,
        { state with
          byCreate :=
            state.byCreate.insert
              (event.pthreadValue, created) index })

/- A start gives the record its TID. -/
def threadStart
    (bounds : CycleBounds)
    (state : Lifecycle)
    (event : Event) : Except String Lifecycle := do
  let (index, state) := startedRecord bounds state event
  let tid ← requireKey "tid" event.tid
  let tgid := appTgid state.records
  let state :=
    state.update index (fun record =>
      { record with
        tid := tid
        tgid := tgid
        parentTid := event.parentTid.or record.parentTid
        startedNs := event.timestampNs
        name := textOr event.name record.name
        creationSequence :=
          event.creationSequence.or record.creationSequence
        signature :=
          textOr event.signature
            (textOr record.signature
              (threadSignature event))
        entryModule :=
          event.entryModule.getD record.entryModule
        entryModuleOffset :=
          event.entryModuleOffset.getD
            record.entryModuleOffset })
  .ok
    { state with
      byTid :=
        state.byTid.insert tid
          (state.byTid.getD tid [] ++ [index]) }

/- A name goes to the thread that is named. -/
def threadName
    (state : Lifecycle)
    (event : Event) : Lifecycle :=
  let own :=
    match event.callerTid with
    | none => []
    | some tid => state.byTid.getD tid []
  let candidates :=
    if own = [] then
      state.byPthread.getD event.pthreadValue []
    else
      own
  state.updateLast candidates (fun _ => true)
    (fun record =>
      { record with name := textOr event.name record.name })

/- An exit ends the last record of the TID. -/
def threadExit
    (state : Lifecycle)
    (event : Event) : Except String Lifecycle := do
  let tid ← requireKey "tid" event.tid
  .ok
    (state.updateLast (state.byTid.getD tid [])
      (fun record => record.exitedNs.isNone)
      (fun record =>
        { record with
          exitedNs := event.timestampNs
          name := textOr event.name record.name }))

/- The threads that a join or a detach can be about. -/
def createdBy
    (event : Event)
    (record : Record) : Bool :=
  match record.createdNs, event.timestampNs with
  | some created, some time => created ≤ time
  | _, _ => true

/- A join that succeeds. -/
def pthreadJoinEnd
    (state : Lifecycle)
    (event : Event) : Lifecycle :=
  if event.result.getD 0 = 0 then
    state.updateLast
      (state.byPthread.getD event.pthreadValue [])
      (createdBy event)
      (fun record =>
        { record with
          joinedNs := event.timestampNs
          joinedBy := event.callerTid })
  else
    state

/- A detach that succeeds. -/
def pthreadDetach
    (state : Lifecycle)
    (event : Event) : Lifecycle :=
  if event.result.getD 0 = 0 then
    state.updateLast
      (state.byPthread.getD event.pthreadValue [])
      (createdBy event)
      (fun record =>
        { record with detachedBy := event.callerTid })
  else
    state

/- The end of the process ends its records. -/
def phaseMarker
    (state : Lifecycle)
    (event : Event) : Lifecycle :=
  if event.name = "process_exit" ∨
      event.name = "process_error" then
    { state with
      records :=
        state.records.map (fun record =>
          if record.tid = record.tgid then
            { record with exitedNs := event.timestampNs }
          else
            record) }
  else
    state

/- One event of the loop. -/
def step
    (bounds : CycleBounds)
    (state : Lifecycle)
    (event : Event) : Except String Lifecycle :=
  match event.kind with
  | .pthreadCreate => .ok (state.pthreadCreate bounds event)
  | .threadStart => state.threadStart bounds event
  | .threadName => .ok (state.threadName event)
  | .threadExit => state.threadExit event
  | .pthreadJoinEnd => .ok (state.pthreadJoinEnd event)
  | .pthreadDetach => .ok (state.pthreadDetach event)
  | .phaseMarker => .ok (state.phaseMarker event)
  | .unknown => .ok state

end Lifecycle

/- `lifecycle_records`. -/
def lifecycleRecords
    (events : List Event)
    (bounds : CycleBounds) :
    Except String
      (List Record × Std.TreeMap (String × Int) Nat) := do
  let state ← Lifecycle.startMain {} events
  let state ← events.foldlM (Lifecycle.step bounds) state
  let tgid := Lifecycle.appTgid state.records
  .ok
    (state.records.map (fun record =>
      { record with
        tgid := tgid
        cycle :=
          if record.cycle = 0 then
            cycleAt record.createdNs bounds
          else
            record.cycle }),
      state.byCreate)

/- The records, with the group and the cycle filled in. -/
theorem lifecycleRecords_eq
    {events : List Event}
    {bounds : CycleBounds}
    {first final : Lifecycle}
    (hFirst : Lifecycle.startMain {} events = .ok first)
    (hFinal :
      events.foldlM (Lifecycle.step bounds) first =
        .ok final) :
    lifecycleRecords events bounds =
      .ok
        (final.records.map (fun record =>
          { record with
            tgid := Lifecycle.appTgid final.records
            cycle :=
              if record.cycle = 0 then
                cycleAt record.createdNs bounds
              else
                record.cycle }),
          final.byCreate) := by
  unfold lifecycleRecords
  simp only [bind_eq_ok]
  exact ⟨first, hFirst, final, hFinal, rfl⟩

end Trace

end RsCamera
