import Mathlib.Data.List.Forall2
import Mathlib.Tactic.Choose
import RsCamera.Trace.EventText

/-
  The trace file that the lines are written to, and how it is
  read again (`read_jsonl` in `parse_startup_trace.py`).

  The file is read line by line; a line that is not JSON stops
  the reading, so one event that did not fit into its line
  takes the whole trace with it.

  Key definitions include:
    * `readJsonl`
    * `ReadBack`

  Key theorems include:
    * `fileLines_emit`
    * `readBack_iff`
-/

------------------------------------------------------------
-- Reading A File
------------------------------------------------------------

namespace RsCamera

namespace Emit

/- Any end of a line is read as a newline. -/
def universalNewlines : List Char → List Char
| [] => []
| '\r' :: '\n' :: rest => '\n' :: universalNewlines rest
| c :: rest =>
    (if c = '\r' then '\n' else c) :: universalNewlines rest

/- What follows the last newline is a line of its own. -/
def fileLines (text : List Char) : List (List Char) :=
  (universalNewlines text).splitOn '\n'

abbrev Dictionary : Type :=
  List (List Nat × Json)

def readLine
    (path : String)
    (line : List Char × Nat) :
    Except String (Option Dictionary) :=
  let stripped := pyStrip line.1
  if stripped = [] then
    .ok none
  else
    match Json.loads stripped with
    | .error error =>
        .error
          (path ++ ":" ++ toString line.2 ++ ": " ++ error)
    | .ok (.obj members) => .ok (some members)
    | .ok _ => .ok none

/- What `int` says of the type of its argument. -/
def intArgument (type : String) : String :=
  "int() argument must be a string, a bytes-like object or " ++
    "a real number, not '" ++ type ++ "'"

/-
  `int` of a value.  What it makes of a floating point number
  is left open.
-/
def jsonInt
    (truncate : List Char → Except String Int) :
    Json → Except String Int
| .int value => .ok value
| .bool value => .ok (if value then 1 else 0)
| .float text => truncate text
| .str codes => pyInt (String.ofList (codes.map Char.ofNat))
| .null => .error (intArgument "NoneType")
| .arr _ => .error (intArgument "list")
| .obj _ => .error (intArgument "dict")

def sortKey
    (truncate : List Char → Except String Int)
    (event : Dictionary) : Except String (Int × Dictionary) :=
  match Json.member event "timestamp_ns" with
  | none => .ok (0, event)
  | some value => do
      let key ← jsonInt truncate value
      .ok (key, event)

def readJsonl
    (truncate : List Char → Except String Int)
    (path : String)
    (text : List Char) : Except String (List Dictionary) := do
  let read ← ((fileLines text).zipIdx 1).mapM (readLine path)
  let keyed ← (read.filterMap id).mapM (sortKey truncate)
  .ok
    ((keyed.mergeSort (fun left right =>
      left.1 ≤ right.1)).map Prod.snd)

------------------------------------------------------------
-- The Lines Of A File
------------------------------------------------------------

theorem universalNewlines_of_not_mem
    {text : List Char}
    (hReturn : '\r' ∉ text) :
    universalNewlines text = text := by
  induction text with
  | nil => rfl
  | cons c rest ih =>
      rw [List.mem_cons, not_or] at hReturn
      rw [universalNewlines.eq_3 c rest
          (fun _ hIs _ => hReturn.1 hIs.symm),
        if_neg (Ne.symm hReturn.1), ih hReturn.2]

theorem Event.not_mem_text
    (event : Event)
    {c : Char}
    (hHidden : isVisible c = false) :
    c ∉ event.text := by
  intro hMember
  rw [event.isVisible_text c hMember] at hHidden
  cases hHidden

/- What was written, where everything fits. -/
theorem Event.emit_of_width
    {event : Event}
    (hFits : event.width ≤ traceLineSize - 2) :
    event.emit = event.text ++ ['\n'] := by
  rw [event.width_eq] at hFits
  rw [emit_eq, List.take_of_length_le hFits]

theorem splitOn_emit
    {events : List Event}
    (hFits : ∀ event ∈ events, event.width ≤ traceLineSize - 2) :
    (events.flatMap Event.emit).splitOn '\n' =
      events.map Event.text ++ [[]] := by
  induction events with
  | nil => rfl
  | cons event events ih =>
      rw [List.forall_mem_cons] at hFits
      rw [List.flatMap_cons, event.emit_of_width hFits.1,
        List.append_assoc, List.singleton_append,
        List.splitOn_append_cons_self_of_not_mem
          (event.not_mem_text rfl),
        ih hFits.2]
      rfl

theorem fileLines_emit
    {events : List Event}
    (hFits : ∀ event ∈ events, event.width ≤ traceLineSize - 2) :
    fileLines (events.flatMap Event.emit) =
      events.map Event.text ++ [[]] := by
  have hReturn : '\r' ∉ events.flatMap Event.emit := by
    intro hMember
    rcases List.mem_flatMap.mp hMember with
      ⟨event, hEvent, hIn⟩
    rw [event.emit_of_width (hFits event hEvent),
      List.mem_append, List.mem_singleton] at hIn
    rcases hIn with hText | hNewline
    · exact event.not_mem_text rfl hText
    · cases hNewline
  rw [fileLines, universalNewlines_of_not_mem hReturn,
    splitOn_emit hFits]

theorem Event.loads_text
    (event : Event) :
    ∃ members : Dictionary,
      Json.loads event.text = .ok (.obj members) ∧
        Carries event members := by
  rcases event.eventText with
    ⟨inner, members, hIs, hMembers, hCarries⟩
  refine ⟨members, ?_, hCarries⟩
  rw [hIs]
  exact Json.loads_of_denotes (Json.denotes_object hMembers)

/- A whole line has nothing to strip. -/
theorem Event.pyStrip_text
    (event : Event) :
    pyStrip event.text = event.text ∧ event.text ≠ [] := by
  rcases event.eventText with ⟨inner, members, hIs, -, -⟩
  rw [hIs]
  refine ⟨?_, by simp⟩
  apply pyStrip_of_ends
  · intro c hC
    cases hC
    rfl
  · intro c hC
    rw [← List.cons_append, List.getLast?_concat] at hC
    cases hC
    rfl

theorem Event.readLine_text
    {event : Event}
    {members : Dictionary}
    (hLoads : Json.loads event.text = .ok (.obj members))
    (path : String)
    (number : Nat) :
    readLine path (event.text, number) = .ok (some members) := by
  have hStrip := event.pyStrip_text
  simp only [readLine, hStrip.1, if_neg hStrip.2, hLoads]

theorem mapM_readLine
    {record : Event → Dictionary}
    (hLoads :
      ∀ event : Event,
        Json.loads event.text = .ok (.obj (record event)))
    (path : String)
    (events : List Event)
    (number : Nat) :
    ((events.map Event.text ++ [[]]).zipIdx number).mapM
        (readLine path) =
      .ok
        (events.map (fun event => some (record event)) ++
          [none]) := by
  rw [mapM_eq_ok_iff]
  induction events generalizing number with
  | nil => exact .cons rfl .nil
  | cons event events ih =>
      exact .cons
        (Event.readLine_text (hLoads event) path number)
        (ih (number + 1))

theorem mapM_sortKey
    {record : Event → Dictionary}
    (hCarries : ∀ event, Carries event (record event))
    (truncate : List Char → Except String Int)
    (events : List Event) :
    (events.map record).mapM (sortKey truncate) =
      .ok
        (events.map (fun event =>
          ((event.timestampNs.toNat : Int), record event))) := by
  rw [mapM_eq_ok_iff, List.forall₂_map_left_iff,
    List.forall₂_map_right_iff, List.forall₂_same]
  intro event _
  rw [sortKey, (hCarries event).timestamp]
  rfl

------------------------------------------------------------
-- Reading The Events Back
------------------------------------------------------------

/- The order of time; equal times keep their order. -/
def sortByTime (events : List Event) : List Event :=
  events.mergeSort (fun left right =>
    left.timestampNs.toNat ≤ right.timestampNs.toNat)

/-
  Every event is one line that is accepted, and the file of
  the lines is read as one dictionary for each event.
-/
structure ReadBack (events : List Event) : Prop where
  lines :
    ∀ event ∈ events,
      ∃ line value,
        event.emit = line ++ ['\n'] ∧ '\n' ∉ line ∧
          Json.loads line = .ok value
  read :
    ∀ truncate path,
      ∃ dictionaries,
        readJsonl truncate path (events.flatMap Event.emit) =
            .ok dictionaries ∧
          List.Forall₂ Carries (sortByTime events) dictionaries

theorem readJsonl_emit
    {record : Event → Dictionary}
    (hLoads :
      ∀ event : Event,
        Json.loads event.text = .ok (.obj (record event)))
    (hCarries : ∀ event, Carries event (record event))
    {events : List Event}
    (hFits : ∀ event ∈ events, event.width ≤ traceLineSize - 2)
    (truncate : List Char → Except String Int)
    (path : String) :
    readJsonl truncate path (events.flatMap Event.emit) =
      .ok ((sortByTime events).map record) := by
  have hRead :
      (events.map (fun event => some (record event)) ++
          [none]).filterMap id =
        events.map record := by
    rw [List.filterMap_append, List.filterMap_map]
    simp
  have hSorted :
      (sortByTime events).map (fun event =>
          ((event.timestampNs.toNat : Int), record event)) =
        (events.map (fun event =>
          ((event.timestampNs.toNat : Int),
            record event))).mergeSort (fun left right =>
              left.1 ≤ right.1) := by
    apply List.map_mergeSort
    intro left _ right _
    simp
  unfold readJsonl
  rw [fileLines_emit hFits]
  refine bind_eq_ok.mpr
    ⟨_, mapM_readLine hLoads path events 1, ?_⟩
  rw [hRead]
  refine bind_eq_ok.mpr
    ⟨_, mapM_sortKey hCarries truncate events, ?_⟩
  rw [← hSorted, List.map_map]
  rfl

theorem ReadBack.width_le
    {events : List Event}
    (hBack : ReadBack events)
    {event : Event}
    (hEvent : event ∈ events) :
    event.width ≤ traceLineSize - 2 := by
  rcases hBack.lines event hEvent with
    ⟨line, value, hEmit, -, hLoads⟩
  rw [emit_eq] at hEmit
  rw [← List.append_cancel_right hEmit] at hLoads
  exact event.loads_line_iff.mp ⟨value, hLoads⟩

theorem readBack_iff
    (events : List Event) :
    ReadBack events ↔
      ∀ event ∈ events, event.width ≤ traceLineSize - 2 := by
  constructor
  · intro hBack event hEvent
    exact hBack.width_le hEvent
  · intro hFits
    choose record hLoads hCarries using Event.loads_text
    constructor
    · intro event hEvent
      exact ⟨event.text, _,
        event.emit_of_width (hFits event hEvent),
        event.not_mem_text rfl, hLoads event⟩
    · intro truncate path
      refine ⟨_, readJsonl_emit hLoads hCarries hFits truncate
        path, ?_⟩
      rw [List.forall₂_map_right_iff, List.forall₂_same]
      exact fun event _ => hCarries event

/- A frame of a function with a long name. -/
def longFrame : Address where
  value := 0x7f0000001000
  info :=
    some
      { fname := some (List.replicate 60 47)
        fbase := 0x7f0000000000
        sname := some (List.replicate 400 95) }

def deepCreate : PthreadCreate where
  timestampNs := 1000
  returnTimestampNs := 2000
  callerTid := 7
  pthreadValue := 0x7f1111110000
  entry := longFrame
  arg := 0
  result := 0
  frames := List.replicate 10 longFrame
  frames_length := by
    simp [traceMaxStack]

theorem deepCreate_not_readBack :
    ¬ ∀ events, ReadBack events := by
  intro hClaim
  have hWidth :=
    (hClaim [.pthreadCreate deepCreate]).width_le
      (List.mem_singleton_self _)
  have hLong :
      traceLineSize - 2 <
        (Event.pthreadCreate deepCreate).width := by
    decide +kernel
  omega

end Emit

end RsCamera
