import Mathlib.Data.List.DropRight
import RsCamera.Lib.Sorted
import RsCamera.Trace.EventMembers
import RsCamera.Trace.PhaseMarker
import RsCamera.Trace.Readback

/-
  The trace file as its writers share it.

  The tracer in every thread (`trace_pthreads.c`) and the
  markers of the program (`trace_marker.h`) have opened one
  file for appending, and each line is one `write`.  So the
  file is the lines in some order, and any order of the threads
  may make it.

  Key definitions include:
    * `Note`, `MarkerCall`, `Entry`
    * `Entry.written`, `fileText`
    * `JsonLine`, `Entry.ReadAs`

  Key theorems include:
    * `readJsonl_lines`
    * `Entry.line`
    * `sharedFile_read`
-/

------------------------------------------------------------
-- The Writers
------------------------------------------------------------

namespace RsCamera

namespace SharedFile

section

open Emit (Append Dictionary decimal pointer)
open Json (codesOf)

/- A text of the source as bytes. -/
def bytesOf (text : String) : List UInt8 :=
  text.toList.map (fun c => c.toNat.toUInt8)

/- The lines of the tracer that are not about a new thread. -/
inductive Note
| loaded (timestampNs : UInt64) (tid : Int32)
| unloaded (timestampNs : UInt64) (tid : Int32)
| joinBegin
    (beginNs : UInt64)
    (callerTid : Int32)
    (thread : UInt64)
| joinEnd
    (beginNs endNs : UInt64)
    (callerTid : Int32)
    (thread : UInt64)
    (result : Int32)
| detach
    (timestampNs : UInt64)
    (callerTid : Int32)
    (thread : UInt64)
    (result : Int32)

/- `trace_emit_simple`. -/
def traceEmitSimple
    (event : String)
    (timestampNs : UInt64)
    (tid : Int32) : List Append :=
  [.fmt "\x7b\"event\":".toList,
    .json (some (bytesOf event)),
    .fmt
      (",\"timestamp_ns\":".toList ++
        decimal timestampNs.toNat ++ ",\"tid\":".toList ++
        decimal tid.toInt ++ "\x7d".toList)]

/- The calls of the constructor, the destructor, and the wrappers. -/
def Note.appends : Note → List Append
| .loaded timestampNs tid =>
    traceEmitSimple "tracer_loaded" timestampNs tid
| .unloaded timestampNs tid =>
    traceEmitSimple "tracer_unloaded" timestampNs tid
| .joinBegin beginNs callerTid thread =>
    [.fmt
      ("\x7b\"event\":\"pthread_join_begin\",\"timestamp_ns\":".toList ++
        decimal beginNs.toNat ++
        ",\"caller_tid\":".toList ++ decimal callerTid.toInt ++
        ",\"pthread_value\":\"".toList ++ pointer thread ++
        "\"\x7d".toList)]
| .joinEnd beginNs endNs callerTid thread result =>
    [.fmt
      ("\x7b\"event\":\"pthread_join_end\",\"timestamp_ns\":".toList ++
        decimal endNs.toNat ++
        ",\"caller_tid\":".toList ++ decimal callerTid.toInt ++
        ",\"pthread_value\":\"".toList ++ pointer thread ++
        "\",\"duration_ns\":".toList ++
        decimal (endNs - beginNs).toNat ++
        ",\"result\":".toList ++ decimal result.toInt ++
        "\x7d".toList)]
| .detach timestampNs callerTid thread result =>
    [.fmt
      ("\x7b\"event\":\"pthread_detach\",\"timestamp_ns\":".toList ++
        decimal timestampNs.toNat ++
        ",\"caller_tid\":".toList ++ decimal callerTid.toInt ++
        ",\"pthread_value\":\"".toList ++ pointer thread ++
        "\",\"result\":".toList ++ decimal result.toInt ++
        "\x7d".toList)]

/-
  A call of `rs_trace_phase_marker` once the file is open, with
  what its two arrays hold before.
-/
structure MarkerCall where
  fd : Nat := 3
  timestampNs : UInt64
  tid : Int64
  escaped : Nat → Char := fun _ => '\x00'
  line : Nat → Char := fun _ => '\x00'
  name : Option (List UInt8)

/- What stands in the shared file. -/
inductive Entry
| event (call : Emit.Event)
| note (call : Note)
| marker (call : MarkerCall)

/- What a call hands to `write`. -/
def Entry.written : Entry → List Char
| .event call => call.emit
| .note call => Emit.traceWriteLine (Emit.perform [] call.appends)
| .marker call =>
    (PhaseMarker.rsTracePhaseMarker (fun _ => none) none call.fd
      call.timestampNs call.tid call.escaped call.line
      call.name).written.getD []

/- The file after some calls, of any threads, in this order. -/
def fileText (entries : List Entry) : List Char :=
  entries.flatMap Entry.written

def Note.timestampNs : Note → UInt64
| .loaded timestampNs _ => timestampNs
| .unloaded timestampNs _ => timestampNs
| .joinBegin beginNs _ _ => beginNs
| .joinEnd _ endNs _ _ _ => endNs
| .detach timestampNs _ _ _ => timestampNs

def Entry.timestampNs : Entry → UInt64
| .event call => call.timestampNs
| .note call => call.timestampNs
| .marker call => call.timestampNs

/- Only the line of an event may be too long. -/
def Entry.Fits : Entry → Prop
| .event call => call.width ≤ Emit.traceLineSize - 2
| .note _ => True
| .marker _ => True

/- What the line of a note is read as. -/
def Note.members : Note → Dictionary
| .loaded timestampNs tid =>
    [(codesOf "event".toList,
        .str (codesOf "tracer_loaded".toList)),
      (codesOf "timestamp_ns".toList, .int timestampNs.toNat),
      (codesOf "tid".toList, .int tid.toInt)]
| .unloaded timestampNs tid =>
    [(codesOf "event".toList,
        .str (codesOf "tracer_unloaded".toList)),
      (codesOf "timestamp_ns".toList, .int timestampNs.toNat),
      (codesOf "tid".toList, .int tid.toInt)]
| .joinBegin beginNs callerTid thread =>
    [(codesOf "event".toList,
        .str (codesOf "pthread_join_begin".toList)),
      (codesOf "timestamp_ns".toList, .int beginNs.toNat),
      (codesOf "caller_tid".toList, .int callerTid.toInt),
      (codesOf "pthread_value".toList,
        .str (codesOf (pointer thread)))]
| .joinEnd beginNs endNs callerTid thread result =>
    [(codesOf "event".toList,
        .str (codesOf "pthread_join_end".toList)),
      (codesOf "timestamp_ns".toList, .int endNs.toNat),
      (codesOf "caller_tid".toList, .int callerTid.toInt),
      (codesOf "pthread_value".toList,
        .str (codesOf (pointer thread))),
      (codesOf "duration_ns".toList,
        .int (endNs - beginNs).toNat),
      (codesOf "result".toList, .int result.toInt)]
| .detach timestampNs callerTid thread result =>
    [(codesOf "event".toList,
        .str (codesOf "pthread_detach".toList)),
      (codesOf "timestamp_ns".toList, .int timestampNs.toNat),
      (codesOf "caller_tid".toList, .int callerTid.toInt),
      (codesOf "pthread_value".toList,
        .str (codesOf (pointer thread))),
      (codesOf "result".toList, .int result.toInt)]

/-
  The dictionary of a line: every member of the call, and of a
  name as much as there is room for.
-/
def Entry.ReadAs : Entry → Dictionary → Prop
| .event call, members => call.Records members
| .note call, members => members = call.members
| .marker call, members =>
    ∃ name,
      members =
          PhaseMarker.markerMembers call.timestampNs call.tid
            name ∧
        name <+: PhaseMarker.cBytes (call.name.getD []) ∧
        ((PhaseMarker.escapeAll
            (PhaseMarker.cBytes (call.name.getD []))).length ≤
            248 →
          name = PhaseMarker.cBytes (call.name.getD []))

end

------------------------------------------------------------
-- Lines That Are Read
------------------------------------------------------------

section

open Emit (Dictionary isVisible fileLines readLine readJsonl
  sortKey)

/- A line in front of its end, with its time. -/
structure JsonLine
    (text : List Char)
    (timestampNs : UInt64)
    (members : Dictionary) : Prop where
  visible : ∀ c ∈ text, isVisible c = true
  braces : ∃ inner, text = '{' :: (inner ++ ['}'])
  loads : Json.loads text = .ok (.obj members)
  timestamp :
    Json.member members "timestamp_ns" =
      some (.int timestampNs.toNat)

namespace JsonLine

variable {text : List Char}
variable {timestampNs : UInt64}
variable {members : Dictionary}

theorem readLine_eq
    (hLine : JsonLine text timestampNs members)
    (path : String)
    (number : Nat) :
    readLine path (text, number) = .ok (some members) := by
  rcases hLine.braces with ⟨inner, hIs⟩
  have hStrip : pyStrip text = text := by
    rw [hIs]
    apply pyStrip_of_ends
    · intro c hC
      cases hC
      rfl
    · intro c hC
      rw [← List.cons_append, List.getLast?_concat] at hC
      cases hC
      rfl
  have hNonempty : text ≠ [] := by
    rw [hIs]
    simp
  simp only [readLine, hStrip, if_neg hNonempty, hLine.loads]

theorem sortKey_eq
    (hLine : JsonLine text timestampNs members)
    (truncate : List Char → Except String Int) :
    sortKey truncate members =
      .ok ((timestampNs.toNat : Int), members) := by
  rw [sortKey, hLine.timestamp]
  rfl

end JsonLine

variable {X : Type}
variable {text : X → List Char}
variable {time : X → UInt64}
variable {members : X → Dictionary}

theorem not_mem_of_visible
    {line : List Char}
    (hVisible : ∀ c ∈ line, isVisible c = true)
    {c : Char}
    (hHidden : isVisible c = false) :
    c ∉ line := by
  intro hMember
  rw [hVisible c hMember] at hHidden
  cases hHidden

variable {list : List X}

theorem splitOn_lines
    (hVisible : ∀ x ∈ list, ∀ c ∈ text x, isVisible c = true) :
    (list.flatMap (fun x => text x ++ ['\n'])).splitOn '\n' =
      list.map text ++ [[]] := by
  induction list with
  | nil => rfl
  | cons x list ih =>
      rw [List.forall_mem_cons] at hVisible
      rw [List.flatMap_cons, List.append_assoc,
        List.singleton_append,
        List.splitOn_append_cons_self_of_not_mem
          (not_mem_of_visible hVisible.1 rfl),
        ih hVisible.2]
      rfl

/- The lines of the file are those that were written. -/
theorem fileLines_lines
    (hVisible : ∀ x ∈ list, ∀ c ∈ text x, isVisible c = true) :
    fileLines (list.flatMap (fun x => text x ++ ['\n'])) =
      list.map text ++ [[]] := by
  have hReturn :
      '\r' ∉ list.flatMap (fun x => text x ++ ['\n']) := by
    intro hMember
    rcases List.mem_flatMap.mp hMember with ⟨x, hX, hIn⟩
    rw [List.mem_append, List.mem_singleton] at hIn
    rcases hIn with hText | hNewline
    · exact not_mem_of_visible (hVisible x hX) rfl hText
    · cases hNewline
  rw [fileLines, Emit.universalNewlines_of_not_mem hReturn,
    splitOn_lines hVisible]

theorem mapM_readLine
    (hLines :
      ∀ x ∈ list, JsonLine (text x) (time x) (members x))
    (path : String)
    (number : Nat) :
    ((list.map text ++ [[]]).zipIdx number).mapM
        (readLine path) =
      .ok
        (list.map (fun x => some (members x)) ++ [none]) := by
  rw [mapM_eq_ok_iff]
  induction list generalizing number with
  | nil => exact .cons rfl .nil
  | cons x list ih =>
      rw [List.forall_mem_cons] at hLines
      exact .cons (hLines.1.readLine_eq path number)
        (ih hLines.2 (number + 1))

theorem mapM_sortKey
    (hLines :
      ∀ x ∈ list, JsonLine (text x) (time x) (members x))
    (truncate : List Char → Except String Int) :
    (list.map members).mapM (sortKey truncate) =
      .ok
        (list.map (fun x =>
          (((time x).toNat : Int), members x))) := by
  rw [mapM_eq_ok_iff, List.forall₂_map_left_iff,
    List.forall₂_map_right_iff, List.forall₂_same]
  intro x hX
  exact (hLines x hX).sortKey_eq truncate

/- The order of time; equal times keep their order. -/
def sortByTime (time : X → UInt64) (list : List X) : List X :=
  list.mergeSort (fun left right =>
    (time left).toNat ≤ (time right).toNat)

/- Lines are read one by one, and put in the order of time. -/
theorem readJsonl_lines
    (hLines :
      ∀ x ∈ list, JsonLine (text x) (time x) (members x))
    (truncate : List Char → Except String Int)
    (path : String) :
    readJsonl truncate path
        (list.flatMap (fun x => text x ++ ['\n'])) =
      .ok ((sortByTime time list).map members) := by
  have hRead :
      (list.map (fun x => some (members x)) ++
          [none]).filterMap id =
        list.map members := by
    rw [List.filterMap_append, List.filterMap_map]
    simp
  have hSorted :
      (sortByTime time list).map (fun x =>
          (((time x).toNat : Int), members x)) =
        (list.map (fun x =>
          (((time x).toNat : Int), members x))).mergeSort
            (fun left right => left.1 ≤ right.1) := by
    apply List.map_mergeSort
    intro left _ right _
    simp
  unfold readJsonl
  rw [fileLines_lines (fun x hX => (hLines x hX).visible)]
  refine bind_eq_ok.mpr ⟨_, mapM_readLine hLines path 1, ?_⟩
  rw [hRead]
  refine bind_eq_ok.mpr
    ⟨_, mapM_sortKey hLines truncate, ?_⟩
  rw [← hSorted, List.map_map]
  rfl

end

------------------------------------------------------------
-- The Line Of A Call
------------------------------------------------------------

section

open Emit (Append Dictionary decimal pointer isVisible isName
  textFrom denotesMembers_event denotesMembers_named
  denotes_pointer)
open Json (DenotesMembers codesOf memberText quoted)

/- What a call writes, and what its line is read as. -/
structure Entry.Line
    (entry : Entry)
    (text : List Char)
    (members : Dictionary) : Prop where
  written : entry.written = text ++ ['\n']
  line : JsonLine text entry.timestampNs members
  readAs : entry.ReadAs members

/- The name of the event in a line. -/
def Entry.kind : Entry → String
| .event (.pthreadCreate _) => "pthread_create"
| .event (.threadStart _) => "thread_start"
| .event (.threadExit _) => "thread_exit"
| .event (.threadName _) => "thread_name"
| .note (.loaded ..) => "tracer_loaded"
| .note (.unloaded ..) => "tracer_unloaded"
| .note (.joinBegin ..) => "pthread_join_begin"
| .note (.joinEnd ..) => "pthread_join_end"
| .note (.detach ..) => "pthread_detach"
| .marker _ => "phase_marker"

/- Every line names its event and its time. -/
theorem Entry.ReadAs.kind_and_time
    {entry : Entry}
    {members : Dictionary}
    (hRead : entry.ReadAs members) :
    Json.member members "event" =
        some (.str (codesOf entry.kind.toList)) ∧
      Json.member members "timestamp_ns" =
        some (.int entry.timestampNs.toNat) := by
  cases entry with
  | event call =>
      cases call with
      | pthreadCreate create =>
          rcases hRead with ⟨fname, sname, elements, rfl, -, -⟩
          unfold Emit.PthreadCreate.members
          cases create.entry.place <;> exact ⟨rfl, rfl⟩
      | threadStart start =>
          rcases hRead with
            ⟨fname, sname, signature, name, rfl, -, -⟩
          unfold Emit.ThreadStart.members Emit.addressMembers
          cases start.startRoutine.place <;> exact ⟨rfl, rfl⟩
      | threadExit exit =>
          rcases hRead with
            ⟨fname, sname, exitKind, name, rfl, -, -⟩
          unfold Emit.ThreadExit.members Emit.addressMembers
          cases exit.entry.place <;> exact ⟨rfl, rfl⟩
      | threadName named =>
          rcases hRead with ⟨name, rfl, -⟩
          exact ⟨rfl, rfl⟩
  | note call =>
      cases hRead
      cases call <;> exact ⟨rfl, rfl⟩
  | marker call =>
      rcases hRead with ⟨name, rfl, -, -⟩
      exact ⟨rfl, rfl⟩

theorem Entry.line_of_event
    {call : Emit.Event}
    (hFits : call.width ≤ Emit.traceLineSize - 2) :
    ∃ text members, (Entry.event call).Line text members := by
  rcases call.text_records with
    ⟨inner, members, hIs, hMembers, hRecords⟩
  have hRead : (Entry.event call).ReadAs members := hRecords
  refine ⟨call.text, members, call.emit_of_width hFits, ?_,
    hRead⟩
  exact
    { visible := call.isVisible_text
      braces := ⟨inner, hIs⟩
      loads := by
        rw [hIs]
        exact Json.loads_of_denotes
          (Json.denotes_object hMembers)
      timestamp := hRead.kind_and_time.2 }

theorem length_pointer_le
    (value : UInt64) :
    (pointer value).length ≤ 18 := by
  have hHigh := value.toNat_lt
  have hDigits : (Nat.toDigits 16 value.toNat).length ≤ 16 := by
    rw [Nat.length_toDigits_le_iff (by decide) (by decide)]
    omega
  rw [pointer, List.length_append]
  change 2 + _ ≤ 18
  omega

theorem length_word_le
    (value : UInt64) :
    (decimal value.toNat).length ≤ 20 := by
  have hHigh := value.toNat_lt
  exact PhaseMarker.length_decimal_le (by omega) (by omega)

theorem length_int_le
    (value : Int32) :
    (decimal value.toInt).length ≤ 20 := by
  have hLow := value.le_toInt
  have hHigh := value.toInt_lt
  exact PhaseMarker.length_decimal_le (by omega) (by omega)

/- A line that is short enough is written as it is. -/
theorem written_of_fits
    {appends : List Append}
    (hVisible : ∀ append ∈ appends, append.Visible)
    (hFits :
      (textFrom 0 appends).length ≤ Emit.traceLineSize - 2) :
    Emit.traceWriteLine (Emit.perform [] appends) =
      textFrom 0 appends ++ ['\n'] := by
  have hBuffer :
      Emit.perform [] appends =
        (textFrom 0 appends).take (Emit.traceLineSize - 1) :=
    Emit.perform_take [] appends
  rw [hBuffer,
    Emit.traceWriteLine_take (Emit.isVisible_textFrom 0 hVisible),
    List.take_of_length_le hFits]

/- The text of a note in front of its end. -/
def Note.text (note : Note) : List Char :=
  textFrom 0 note.appends

theorem traceEmitSimple_text
    {event : String}
    (hText :
      (Append.json (some (bytesOf event))).text 9 =
        quoted event.toList)
    (timestampNs : UInt64)
    (tid : Int32) :
    textFrom 0 (traceEmitSimple event timestampNs tid) =
      '{' :: (memberText "event".toList (quoted event.toList) ++
        ',' :: (memberText "timestamp_ns".toList
            (decimal timestampNs.toNat) ++
          ',' :: memberText "tid".toList (decimal tid.toInt)) ++
        ['}']) := by
  have hStart :
      0 + ((Append.fmt "\x7b\"event\":".toList).text 0).length =
        9 := rfl
  rw [traceEmitSimple, textFrom, textFrom, hStart, hText]
  simp [textFrom, Append.text, memberText, quoted]

theorem traceEmitSimple_members
    {event : String}
    (hEvent : isName event = true)
    (timestampNs : UInt64)
    (tid : Int32) :
    DenotesMembers
      (memberText "event".toList (quoted event.toList) ++
        ',' :: (memberText "timestamp_ns".toList
            (decimal timestampNs.toNat) ++
          ',' :: memberText "tid".toList (decimal tid.toInt)))
      [(codesOf "event".toList, .str (codesOf event.toList)),
        (codesOf "timestamp_ns".toList, .int timestampNs.toNat),
        (codesOf "tid".toList, .int tid.toInt)] :=
  (denotesMembers_event hEvent).append
    ((@denotesMembers_named "timestamp_ns" rfl _ _
        (Json.denotes_int timestampNs.toNat)).append
      (@denotesMembers_named "tid" rfl _ _
        (Json.denotes_int tid.toInt)))

/- The first members of a call about a thread. -/
theorem threadCall_members
    {event : String}
    (hEvent : isName event = true)
    (timestampNs : UInt64)
    (callerTid : Int32)
    (thread : UInt64) :
    DenotesMembers
      (memberText "event".toList (quoted event.toList) ++
        ',' :: (memberText "timestamp_ns".toList
            (decimal timestampNs.toNat) ++
          ',' :: (memberText "caller_tid".toList
              (decimal callerTid.toInt) ++
            ',' :: memberText "pthread_value".toList
              (quoted (pointer thread)))))
      [(codesOf "event".toList, .str (codesOf event.toList)),
        (codesOf "timestamp_ns".toList, .int timestampNs.toNat),
        (codesOf "caller_tid".toList, .int callerTid.toInt),
        (codesOf "pthread_value".toList,
          .str (codesOf (pointer thread)))] :=
  (denotesMembers_event hEvent).append
    ((@denotesMembers_named "timestamp_ns" rfl _ _
        (Json.denotes_int timestampNs.toNat)).append
      ((@denotesMembers_named "caller_tid" rfl _ _
          (Json.denotes_int callerTid.toInt)).append
        (@denotesMembers_named "pthread_value" rfl _ _
          (denotes_pointer thread))))

theorem Note.text_denotes
    (note : Note) :
    ∃ inner,
      note.text = '{' :: (inner ++ ['}']) ∧
        DenotesMembers inner note.members := by
  cases note with
  | loaded timestampNs tid =>
      exact ⟨_, traceEmitSimple_text rfl timestampNs tid,
        traceEmitSimple_members rfl timestampNs tid⟩
  | unloaded timestampNs tid =>
      exact ⟨_, traceEmitSimple_text rfl timestampNs tid,
        traceEmitSimple_members rfl timestampNs tid⟩
  | joinBegin beginNs callerTid thread =>
      refine ⟨_, ?_,
        @threadCall_members "pthread_join_begin" rfl beginNs
          callerTid thread⟩
      simp [Note.text, Note.appends, textFrom, Append.text,
        memberText, quoted]
  | joinEnd beginNs endNs callerTid thread result =>
      have hBack :=
        (@denotesMembers_named "duration_ns" rfl _ _
            (Json.denotes_int (endNs - beginNs).toNat)).append
          (@denotesMembers_named "result" rfl _ _
            (Json.denotes_int result.toInt))
      refine ⟨_, ?_,
        (@threadCall_members "pthread_join_end" rfl endNs
          callerTid thread).append hBack⟩
      simp [Note.text, Note.appends, textFrom, Append.text,
        memberText, quoted, decimal]
  | detach timestampNs callerTid thread result =>
      refine ⟨_, ?_,
        (@threadCall_members "pthread_detach" rfl timestampNs
          callerTid thread).append
          (@denotesMembers_named "result" rfl _ _
            (Json.denotes_int result.toInt))⟩
      simp [Note.text, Note.appends, textFrom, Append.text,
        memberText, quoted, decimal]

theorem Note.visible_appends
    (note : Note) :
    ∀ append ∈ note.appends, append.Visible := by
  cases note with
  | loaded timestampNs tid =>
      unfold Note.appends traceEmitSimple
      simp only [List.forall_mem_cons]
      refine ⟨rfl, trivial, ?_, by simp⟩
      simp only [Append.Visible, List.all_append,
        Emit.all_decimal]
      rfl
  | unloaded timestampNs tid =>
      unfold Note.appends traceEmitSimple
      simp only [List.forall_mem_cons]
      refine ⟨rfl, trivial, ?_, by simp⟩
      simp only [Append.Visible, List.all_append,
        Emit.all_decimal]
      rfl
  | joinBegin beginNs callerTid thread =>
      unfold Note.appends
      simp only [List.forall_mem_singleton, Append.Visible,
        List.all_append, Emit.all_pointer, Emit.all_decimal]
      rfl
  | joinEnd beginNs endNs callerTid thread result =>
      unfold Note.appends
      simp only [List.forall_mem_singleton, Append.Visible,
        List.all_append, Emit.all_pointer, Emit.all_decimal]
      rfl
  | detach timestampNs callerTid thread result =>
      unfold Note.appends
      simp only [List.forall_mem_singleton, Append.Visible,
        List.all_append, Emit.all_pointer, Emit.all_decimal]
      rfl

/- The numbers of a note are of 64 bits at most. -/
theorem Note.length_text
    (note : Note) :
    note.text.length ≤ Emit.traceLineSize - 2 := by
  unfold Note.text Emit.traceLineSize
  cases note with
  | loaded timestampNs tid =>
      have hTime := length_word_le timestampNs
      have hTid := length_int_le tid
      rw [Note.appends, traceEmitSimple_text rfl]
      simp [memberText, quoted]
      omega
  | unloaded timestampNs tid =>
      have hTime := length_word_le timestampNs
      have hTid := length_int_le tid
      rw [Note.appends, traceEmitSimple_text rfl]
      simp [memberText, quoted]
      omega
  | joinBegin beginNs callerTid thread =>
      have hTime := length_word_le beginNs
      have hTid := length_int_le callerTid
      have hThread := length_pointer_le thread
      simp [Note.appends, textFrom, Append.text]
      omega
  | joinEnd beginNs endNs callerTid thread result =>
      have hTime := length_word_le endNs
      have hTid := length_int_le callerTid
      have hThread := length_pointer_le thread
      have hDuration := length_word_le (endNs - beginNs)
      have hResult := length_int_le result
      simp [Note.appends, textFrom, Append.text]
      omega
  | detach timestampNs callerTid thread result =>
      have hTime := length_word_le timestampNs
      have hTid := length_int_le callerTid
      have hThread := length_pointer_le thread
      have hResult := length_int_le result
      simp [Note.appends, textFrom, Append.text]
      omega

theorem Entry.line_of_note
    (call : Note) :
    ∃ text members, (Entry.note call).Line text members := by
  rcases call.text_denotes with ⟨inner, hIs, hMembers⟩
  have hRead : (Entry.note call).ReadAs call.members := rfl
  refine ⟨call.text, call.members,
    written_of_fits call.visible_appends call.length_text, ?_,
    hRead⟩
  exact
    { visible := Emit.isVisible_textFrom 0 call.visible_appends
      braces := ⟨inner, hIs⟩
      loads := by
        rw [hIs]
        exact Json.loads_of_denotes
          (Json.denotes_object hMembers)
      timestamp := hRead.kind_and_time.2 }

/- The literal of a name is closed, so the line is whole. -/
theorem Entry.line_of_marker
    (call : MarkerCall) :
    ∃ text members, (Entry.marker call).Line text members := by
  rcases PhaseMarker.rsTraceAppendJsonString_literal
      (fun _ => none) call.escaped (call.name.getD [])
      (show 3 ≤ PhaseMarker.escapedSize by decide) with
    ⟨name, hFront, hLiteral, hWhole⟩
  have hMarker := hLiteral.markerLine call.timestampNs call.tid
  have hText :=
    PhaseMarker.markerText_eq call.timestampNs call.tid
      (quoted (PhaseMarker.escapeAll name))
  rw [hLiteral.closed] at hMarker
  have hRead :
      (Entry.marker call).ReadAs
        (PhaseMarker.markerMembers call.timestampNs call.tid
          name) :=
    ⟨name, rfl, hFront, fun hFits =>
      hWhole (fun _ => rfl) (Nat.add_le_add_right hFits 8)⟩
  refine
    ⟨PhaseMarker.markerObject call.timestampNs call.tid
      (quoted (PhaseMarker.escapeAll name)), _, ?_, ?_, hRead⟩
  · rw [← hText]
    have hOpened : ¬ (call.fd : Int) < 0 := by
      omega
    have hPositive :
        (0 : Int) <
          (PhaseMarker.markerText call.timestampNs call.tid
            (quoted (PhaseMarker.escapeAll name))).length := by
      rw [hText, List.length_append, List.length_singleton]
      omega
    rcases PhaseMarker.vsnprintf_line call.line hMarker.short with
      ⟨hLength, -, hPrinted⟩
    simp only [Entry.written, PhaseMarker.rsTracePhaseMarker,
      if_neg hOpened, hLiteral.closed, hLength,
      Int.toNat_natCast, if_pos hMarker.short, if_pos hPositive,
      hPrinted, Option.getD_some]
  · exact
      { visible :=
          PhaseMarker.isVisible_markerObject _ _
            (PhaseMarker.isVisible_quoted name)
        braces := ⟨_, rfl⟩
        loads :=
          Json.loads_of_denotes
            (PhaseMarker.denotes_markerObject _ _ name)
        timestamp := hRead.kind_and_time.2 }

theorem Entry.exists_line
    {entry : Entry}
    (hFits : entry.Fits) :
    ∃ text members, entry.Line text members := by
  cases entry with
  | event call => exact Entry.line_of_event hFits
  | note call => exact Entry.line_of_note call
  | marker call => exact Entry.line_of_marker call

end

------------------------------------------------------------
-- A Line That Was Cut Off
------------------------------------------------------------

section

open Emit (isVisible fileLines readLine readJsonl)

/- Stripping a line that begins with no blank leaves a front. -/
theorem pyStrip_front
    {c : Char}
    {rest : List Char}
    (hFirst : isPySpace c = false) :
    pyStrip (c :: rest) <+: c :: rest ∧
      pyStrip (c :: rest) ≠ [] := by
  have hStrip :
      pyStrip (c :: rest) = (c :: rest).rdropWhile isPySpace := by
    unfold pyStrip
    rw [List.dropWhile_cons_of_neg (by simp [hFirst])]
    rfl
  rw [hStrip]
  refine ⟨List.rdropWhile_prefix isPySpace _, ?_⟩
  intro hNil
  rw [List.rdropWhile_eq_nil_iff] at hNil
  have hSpace := hNil c List.mem_cons_self
  rw [hFirst] at hSpace
  cases hSpace

theorem readLine_cut
    {call : Emit.Event}
    (hCut : ¬ call.width ≤ Emit.traceLineSize - 2)
    (path : String)
    (number : Nat)
    (result : Option Emit.Dictionary) :
    readLine path
        (call.text.take (Emit.traceLineSize - 2), number) ≠
      .ok result := by
  rw [call.width_eq] at hCut
  rcases call.text_records with ⟨inner, members, hIs, hMembers, -⟩
  have hDenotes := Json.denotes_object hMembers
  have hTake :
      call.text.take (Emit.traceLineSize - 2) =
        '{' :: (inner ++ ['}']).take (Emit.traceLineSize - 3) := by
    rw [hIs]
    rfl
  have hFront :=
    @pyStrip_front '{'
      ((inner ++ ['}']).take (Emit.traceLineSize - 3)) rfl
  rw [← hTake] at hFront
  -- What is stripped is a front of the text, but not all of it.
  have hPart :=
    hFront.1.trans (List.take_prefix _ call.text)
  have hShort :
      (pyStrip
        (call.text.take (Emit.traceLineSize - 2))).length <
        call.text.length := by
    have hLe := hFront.1.length_le
    rw [List.length_take] at hLe
    omega
  have hFails :
      ∀ value,
        Json.loads
            (pyStrip
              (call.text.take (Emit.traceLineSize - 2))) ≠
          .ok value := by
    rw [List.prefix_iff_eq_take.mp hPart, hIs]
    rw [hIs] at hShort
    exact Json.loads_of_take hDenotes hShort
  simp only [readLine, if_neg hFront.2]
  intro hRead
  cases hLoads :
    Json.loads
      (pyStrip (call.text.take (Emit.traceLineSize - 2))) with
  | error error =>
      rw [hLoads] at hRead
      cases hRead
  | ok value => exact hFails value hLoads

/- Every call writes one line, and a cut one cannot be read. -/
theorem Entry.exists_text
    (entry : Entry) :
    ∃ text,
      entry.written = text ++ ['\n'] ∧
        (∀ c ∈ text, isVisible c = true) ∧
        (¬ entry.Fits →
          ∀ path number result,
            readLine path (text, number) ≠ .ok result) := by
  by_cases hFits : entry.Fits
  · rcases entry.exists_line hFits with ⟨text, members, hLine⟩
    exact ⟨text, hLine.written, hLine.line.visible,
      fun hCut => absurd hFits hCut⟩
  · cases entry with
    | event call =>
        refine ⟨call.text.take (Emit.traceLineSize - 2),
          Emit.emit_eq call, ?_, ?_⟩
        · intro c hC
          exact call.isVisible_text c (List.mem_of_mem_take hC)
        · exact fun hCut => readLine_cut hCut
    | note call => exact absurd trivial hFits
    | marker call => exact absurd trivial hFits

/- One line that was cut off stops the reading. -/
theorem fits_of_read
    {entries : List Entry}
    {truncate : List Char → Except String Int}
    {path : String}
    {dictionaries : List Emit.Dictionary}
    (hRead :
      readJsonl truncate path (fileText entries) =
        .ok dictionaries) :
    ∀ entry ∈ entries, entry.Fits := by
  choose text hWritten hVisible hCut using Entry.exists_text
  have hFile :
      fileText entries =
        entries.flatMap (fun entry => text entry ++ ['\n']) := by
    unfold fileText
    congr 1
    funext entry
    exact hWritten entry
  unfold readJsonl at hRead
  rw [hFile, fileLines_lines (fun entry _ => hVisible entry)]
    at hRead
  rcases bind_eq_ok.mp hRead with ⟨read, hLines, -⟩
  rw [mapM_eq_ok_iff] at hLines
  intro entry hEntry
  by_contra hNot
  have hLine :
      text entry ∈ entries.map text ++ [[]] :=
    List.mem_append_left _ (List.mem_map_of_mem hEntry)
  rcases List.mem_iff_getElem.mp hLine with ⟨i, hI, hIs⟩
  have hNumber : i < ((entries.map text ++ [[]]).zipIdx 1).length := by
    rwa [List.length_zipIdx]
  have hAt :=
    List.forall₂_iff_get.mp hLines
  have hOk := hAt.2 i hNumber (hAt.1 ▸ hNumber)
  rw [List.get_eq_getElem, List.getElem_zipIdx, hIs] at hOk
  exact hCut entry hNot _ _ _ hOk

end

------------------------------------------------------------
-- Any Order Of The Writers
------------------------------------------------------------

open Emit (Dictionary readJsonl)

theorem readJsonl_calls
    {X : Type}
    {entry : X → Entry}
    {calls : List X}
    (hFits : ∀ call ∈ calls, (entry call).Fits)
    (truncate : List Char → Except String Int)
    (path : String) :
    ∃ dictionaries,
      readJsonl truncate path (fileText (calls.map entry)) =
          .ok dictionaries ∧
        List.Forall₂ (fun call => (entry call).ReadAs)
          (sortByTime (fun call => (entry call).timestampNs)
            calls)
          dictionaries := by
  have hExists (call : X) (hCall : call ∈ calls) :
      ∃ text members, (entry call).Line text members :=
    Entry.exists_line (hFits call hCall)
  choose! text members hLine using hExists
  have hFile :
      fileText (calls.map entry) =
        calls.flatMap (fun call => text call ++ ['\n']) := by
    unfold fileText
    rw [List.flatMap_map]
    apply List.flatMap_congr
    intro call hCall
    exact (hLine call hCall).written
  refine
    ⟨(sortByTime (fun call => (entry call).timestampNs)
      calls).map members, ?_, ?_⟩
  · rw [hFile]
    exact readJsonl_lines
      (fun call hCall => (hLine call hCall).line) truncate path
  · rw [List.forall₂_map_right_iff, List.forall₂_same]
    intro call hCall
    have hMember : call ∈ calls :=
      (List.mergeSort_perm _ _).mem_iff.mp hCall
    exact (hLine call hMember).readAs

/-
  Whoever writes, and in whatever order the lines come into the
  file: it is read if and only if every line fits, and then as
  one dictionary for each call in the order of time, none lost
  and none made up.  The calls of a writer whose clock does not
  go back stay in its order.
-/
theorem sharedFile_read
    {W : Type}
    [DecidableEq W]
    (truncate : List Char → Except String Int)
    (path : String)
    (calls : List (W × Entry)) :
    ((∃ dictionaries,
        readJsonl truncate path
            (fileText (calls.map Prod.snd)) =
          .ok dictionaries) ↔
      ∀ call ∈ calls, call.2.Fits) ∧
    (∀ dictionaries,
      readJsonl truncate path (fileText (calls.map Prod.snd)) =
          .ok dictionaries →
        List.Forall₂ (fun call => call.2.ReadAs)
          (sortByTime (fun call => call.2.timestampNs) calls)
          dictionaries) ∧
    ∀ writer : W,
      (calls.filter (fun call => call.1 = writer)).Pairwise
          (fun left right =>
            left.2.timestampNs.toNat ≤
              right.2.timestampNs.toNat) →
        (sortByTime (fun call => call.2.timestampNs)
            calls).filter (fun call => call.1 = writer) =
          calls.filter (fun call => call.1 = writer) := by
  have hFits
      {dictionaries : List Dictionary}
      (hRead :
        readJsonl truncate path (fileText (calls.map Prod.snd)) =
          .ok dictionaries) :
      ∀ call ∈ calls, call.2.Fits := by
    intro call hCall
    exact fits_of_read hRead call.2 (List.mem_map_of_mem hCall)
  refine ⟨⟨?_, ?_⟩, ?_, ?_⟩
  · rintro ⟨dictionaries, hRead⟩
    exact hFits hRead
  · intro hAll
    rcases readJsonl_calls hAll truncate path with
      ⟨dictionaries, hRead, -⟩
    exact ⟨dictionaries, hRead⟩
  · intro dictionaries hRead
    rcases readJsonl_calls (hFits hRead) truncate path with
      ⟨others, hOthers, hAs⟩
    rw [hRead] at hOthers
    cases hOthers
    exact hAs
  · intro writer hOrder
    exact filter_mergeSort
      (fun call : W × Entry => call.2.timestampNs.toNat) hOrder

end SharedFile

end RsCamera
