import RsCamera.Trace.EventText

/-
  The lines of the tracer with all of their members.

  A line that leaves five bytes of its room free is read as an
  object whose members are those of the call, every string
  whole.  The name of a thread is the last member, and so it is
  the first to be cut off where there is less room.

  Key definitions include:
    * `Event.Roomy`
    * `Event.Records`

  Key theorems include:
    * `Event.text_records`
-/

------------------------------------------------------------
-- The Members
------------------------------------------------------------

namespace RsCamera

namespace Emit

section

open Json (Denotes DenotesMembers codesOf memberText quoted)

/- The bytes of a string, as they are read. -/
def codesOfBytes (bytes : List UInt8) : List Nat :=
  bytes.map UInt8.toNat

/- The members of the entry of a thread. -/
def addressMembers
    (addr : Address)
    (fname sname : List Nat) : List (List Nat × Json) :=
  (codesOf "entry_address".toList,
      .str (codesOf (pointer addr.value))) ::
    placeMembers "entry_module" "entry_module_offset"
      "entry_symbol" fname sname addr.place

/- The first members of a start and of an exit. -/
def threadMembers
    (kind : String)
    (timestampNs : UInt64)
    (tid parentTid : Int32)
    (pthreadValue : UInt64) : List (List Nat × Json) :=
  [(codesOf "event".toList, .str (codesOf kind.toList)),
    (codesOf "timestamp_ns".toList, .int timestampNs.toNat),
    (codesOf "tid".toList, .int tid.toInt),
    (codesOf "parent_tid".toList, .int parentTid.toInt),
    (codesOf "pthread_value".toList,
      .str (codesOf (pointer pthreadValue)))]

def ThreadStart.members
    (event : ThreadStart)
    (fname sname signature name : List Nat) :
    List (List Nat × Json) :=
  threadMembers "thread_start" event.startNs event.tid
      event.parentTid event.pthreadValue ++
    (addressMembers event.startRoutine fname sname ++
      [(codesOf "arg_address".toList,
          .str (codesOf (pointer event.arg))),
        (codesOf "create_timestamp_ns".toList,
          .int event.createTimestampNs.toNat),
        (codesOf "creation_sequence".toList,
          .int event.creationSequence.toNat),
        (codesOf "signature".toList, .str signature),
        (codesOf "name".toList, .str name)])

def ThreadExit.members
    (event : ThreadExit)
    (fname sname exitKind name : List Nat) :
    List (List Nat × Json) :=
  threadMembers "thread_exit" event.timestampNs event.tid
      event.parentTid event.pthreadValue ++
    (addressMembers event.entry fname sname ++
      [(codesOf "retval".toList,
          .str (codesOf (pointer event.retval))),
        (codesOf "lifetime_ns".toList,
          .int event.lifetimeNs.toNat),
        (codesOf "exit_kind".toList, .str exitKind),
        (codesOf "name".toList, .str name)])

def ThreadName.members
    (event : ThreadName)
    (name : List Nat) : List (List Nat × Json) :=
  [(codesOf "event".toList,
      .str (codesOf "thread_name".toList)),
    (codesOf "timestamp_ns".toList,
      .int event.timestampNs.toNat),
    (codesOf "caller_tid".toList, .int event.callerTid.toInt),
    (codesOf "pthread_value".toList,
      .str (codesOf (pointer event.pthreadValue))),
    (codesOf "result".toList, .int event.result.toInt),
    (codesOf "name".toList, .str name)]

/- The line leaves some bytes of its room free. -/
def Event.Roomy (event : Event) : Prop :=
  event.width + 5 ≤ traceLineSize - 2

/-
  The members are those of the event.  Its strings are whole
  where the line has room.
-/
def Event.Records :
    Event → List (List Nat × Json) → Prop
| .pthreadCreate event, members =>
    ∃ fname sname elements,
      members = event.members fname sname elements ∧
        event.entry.ReadAs (Event.pthreadCreate event).Roomy
          fname ∧
        List.Forall₂
          (fun frame =>
            frame.FrameOf (Event.pthreadCreate event).Roomy)
          event.frames elements
| .threadStart event, members =>
    ∃ fname sname signature name,
      members = event.members fname sname signature name ∧
        event.startRoutine.ReadAs
          (Event.threadStart event).Roomy fname ∧
        ((Event.threadStart event).Roomy →
          signature = codesOfBytes event.signature.val ∧
            name = codesOfBytes event.name.val)
| .threadExit event, members =>
    ∃ fname sname exitKind name,
      members = event.members fname sname exitKind name ∧
        event.entry.ReadAs (Event.threadExit event).Roomy
          fname ∧
        ((Event.threadExit event).Roomy →
          exitKind = codesOfBytes event.exitKind ∧
            name = codesOfBytes event.name.val)
| .threadName event, members =>
    ∃ name,
      members = event.members name ∧
        ((Event.threadName event).Roomy →
          name = codesOfBytes event.name)

end

------------------------------------------------------------
-- A Line With Something Behind It
------------------------------------------------------------

open Json (Denotes DenotesMembers codesOf memberText quoted)

theorem textFrom_append
    (position : Nat)
    (appends : List Append)
    (text : List Char) :
    textFrom position (appends ++ [.fmt text]) =
      textFrom position appends ++ text := by
  induction appends generalizing position with
  | nil => simp [textFrom, Append.text]
  | cons append rest ih =>
      rw [List.cons_append, textFrom, textFrom, ih,
        List.append_assoc]

/-
  With five blanks behind the line no string of it is at the
  end.
-/
theorem Event.spelled_blanks
    (event : Event) :
    Spelled event.Roomy
      (event.appends ++ [.fmt (List.replicate 5 ' ')])
      (event.text ++ List.replicate 5 ' ') := by
  have hSpelled :=
    spelled_textFrom 0
      (event.appends ++ [.fmt (List.replicate 5 ' ')])
  rw [lineEnd_eq, textFrom_append, List.length_append,
    List.length_replicate] at hSpelled
  have hRoom :
      (0 + ((textFrom 0 event.appends).length + 5) ≤
          traceLineSize - 2) =
        event.Roomy := by
    rw [Event.Roomy, event.width_eq, Nat.zero_add]
    rfl
  rw [hRoom] at hSpelled
  exact hSpelled

section Spelled

variable {fits : Prop}

theorem Spelled.threadName
    {event : ThreadName}
    {text : List Char}
    (hText :
      Spelled fits
        (event.appends ++ [.fmt (List.replicate 5 ' ')]) text) :
    ∃ inner name,
      text = '{' :: (inner ++ ['}']) ++ List.replicate 5 ' ' ∧
        DenotesMembers inner (event.members name) ∧
        (fits → name = codesOfBytes event.name) := by
  rcases hText.of_fmt with ⟨_, hIs₁, hText⟩
  rcases hText.of_json with ⟨_, _, _, hIs₂, hName, hWhole, hText⟩
  rcases hText.of_fmt with ⟨_, hIs₃, hText⟩
  rcases hText.of_fmt with ⟨_, hIs₄, hNil⟩
  have hMembers :=
    (@denotesMembers_event "thread_name" rfl).append
      ((@denotesMembers_named "timestamp_ns" rfl _ _
          (Json.denotes_int event.timestampNs.toNat)).append
        ((@denotesMembers_named "caller_tid" rfl _ _
            (Json.denotes_int event.callerTid.toInt)).append
          ((@denotesMembers_named "pthread_value" rfl _ _
              (denotes_pointer event.pthreadValue)).append
            ((@denotesMembers_named "result" rfl _ _
                (Json.denotes_int event.result.toInt)).append
              (@denotesMembers_named "name" rfl _ _ hName)))))
  refine ⟨_, _, ?_, hMembers, ?_⟩
  · rw [hIs₁, hIs₂, hIs₃, hIs₄, hNil.of_nil]
    simp [memberText, quoted, decimal]
  · intro hFits
    apply hWhole hFits
    rw [hIs₃, hIs₄]
    simp

theorem Spelled.threadStart
    {event : ThreadStart}
    {text : List Char}
    (hText :
      Spelled fits
        (event.appends ++ [.fmt (List.replicate 5 ' ')]) text) :
    ∃ inner fname sname signature name,
      text = '{' :: (inner ++ ['}']) ++ List.replicate 5 ' ' ∧
        DenotesMembers inner
          (event.members fname sname signature name) ∧
        event.startRoutine.ReadAs fits fname ∧
        (fits →
          signature = codesOfBytes event.signature.val ∧
            name = codesOfBytes event.name.val) := by
  unfold ThreadStart.appends at hText
  rw [List.append_assoc] at hText
  rcases hText.split with ⟨_, _, hIs₁, hText, hEnd⟩
  rcases hText.split with ⟨_, _, hIs₂, hOpen, hAddress⟩
  rcases hOpen.of_fmt with ⟨_, hIs₃, hNil₁⟩
  rcases hAddress.address with ⟨fname, sname, hEntry, hReadAs⟩
  rcases hEnd.of_fmt with ⟨_, hIs₄, hEnd⟩
  rcases hEnd.of_json with
    ⟨_, signature, _, hIs₅, hSignature, hWhole, hEnd⟩
  rcases hEnd.of_fmt with ⟨_, hIs₆, hEnd⟩
  rcases hEnd.of_json with
    ⟨_, name, _, hIs₇, hName, hWhole', hEnd⟩
  rcases hEnd.of_fmt with ⟨_, hIs₈, hEnd⟩
  rcases hEnd.of_fmt with ⟨_, hIs₉, hNil₂⟩
  have hFront :=
    @denotesMembers_thread "thread_start" rfl event.startNs
      event.tid event.parentTid event.pthreadValue
  have hBack :=
    (@denotesMembers_named "arg_address" rfl _ _
        (denotes_pointer event.arg)).append
      ((@denotesMembers_named "create_timestamp_ns" rfl _ _
          (Json.denotes_int event.createTimestampNs.toNat)).append
        ((@denotesMembers_named "creation_sequence" rfl _ _
            (Json.denotes_int
              event.creationSequence.toNat)).append
          ((@denotesMembers_named "signature" rfl _ _
              hSignature).append
            (@denotesMembers_named "name" rfl _ _ hName))))
  refine ⟨_, fname, sname, signature, name, ?_,
    hFront.append (hEntry.append hBack), hReadAs, ?_⟩
  · rw [hIs₁, hIs₂, hIs₃, event.opening, hIs₄, hIs₅, hIs₆,
      hIs₇, hIs₈, hIs₉, hNil₁.of_nil, hNil₂.of_nil]
    simp only [memberText, List.append_assoc, List.cons_append,
      List.nil_append]
    simp [quoted, decimal]
  · intro hFits
    constructor
    · apply hWhole hFits
      rw [hIs₆]
      simp
    · apply hWhole' hFits
      rw [hIs₈, hIs₉]
      simp

theorem Spelled.threadExit
    {event : ThreadExit}
    {text : List Char}
    (hText :
      Spelled fits
        (event.appends ++ [.fmt (List.replicate 5 ' ')]) text) :
    ∃ inner fname sname exitKind name,
      text = '{' :: (inner ++ ['}']) ++ List.replicate 5 ' ' ∧
        DenotesMembers inner
          (event.members fname sname exitKind name) ∧
        event.entry.ReadAs fits fname ∧
        (fits →
          exitKind = codesOfBytes event.exitKind ∧
            name = codesOfBytes event.name.val) := by
  unfold ThreadExit.appends at hText
  rw [List.append_assoc] at hText
  rcases hText.split with ⟨_, _, hIs₁, hText, hEnd⟩
  rcases hText.split with ⟨_, _, hIs₂, hOpen, hAddress⟩
  rcases hOpen.of_fmt with ⟨_, hIs₃, hComma⟩
  rcases hComma.of_fmt with ⟨_, hIs₄, hNil₁⟩
  rcases hAddress.address with ⟨fname, sname, hEntry, hReadAs⟩
  rcases hEnd.of_fmt with ⟨_, hIs₅, hEnd⟩
  rcases hEnd.of_json with
    ⟨_, exitKind, _, hIs₆, hKind, hWhole, hEnd⟩
  rcases hEnd.of_fmt with ⟨_, hIs₇, hEnd⟩
  rcases hEnd.of_json with
    ⟨_, name, _, hIs₈, hName, hWhole', hEnd⟩
  rcases hEnd.of_fmt with ⟨_, hIs₉, hEnd⟩
  rcases hEnd.of_fmt with ⟨_, hIs₁₀, hNil₂⟩
  have hFront :=
    @denotesMembers_thread "thread_exit" rfl event.timestampNs
      event.tid event.parentTid event.pthreadValue
  have hBack :=
    (@denotesMembers_named "retval" rfl _ _
        (denotes_pointer event.retval)).append
      ((@denotesMembers_named "lifetime_ns" rfl _ _
          (Json.denotes_int event.lifetimeNs.toNat)).append
        ((@denotesMembers_named "exit_kind" rfl _ _
            hKind).append
          (@denotesMembers_named "name" rfl _ _ hName)))
  refine ⟨_, fname, sname, exitKind, name, ?_,
    hFront.append (hEntry.append hBack), hReadAs, ?_⟩
  · rw [hIs₁, hIs₂, hIs₃, hIs₄, hIs₅, hIs₆, hIs₇, hIs₈, hIs₉,
      hIs₁₀, hNil₁.of_nil, hNil₂.of_nil]
    simp [memberText, quoted, decimal]
  · intro hFits
    constructor
    · apply hWhole hFits
      rw [hIs₇]
      simp
    · apply hWhole' hFits
      rw [hIs₉, hIs₁₀]
      simp

end Spelled

/- What comes before the blanks. -/
theorem of_blanks
    {text inner : List Char}
    (hIs :
      text ++ List.replicate 5 ' ' =
        '{' :: (inner ++ ['}']) ++ List.replicate 5 ' ') :
    text = '{' :: (inner ++ ['}']) :=
  List.append_cancel_right hIs

/- The text of a line, and what it says. -/
theorem Event.text_records
    (event : Event) :
    ∃ inner members,
      event.text = '{' :: (inner ++ ['}']) ∧
        DenotesMembers inner members ∧ event.Records members := by
  have hBlanks := event.spelled_blanks
  cases event with
  | pthreadCreate create =>
      have hSpelled := spelled_textFrom 0 create.appends
      rcases hSpelled.pthreadCreate with
        ⟨inner, fname, sname, elements, hIs, hMembers, hEntry,
          hFrames⟩
      refine ⟨inner, _, hIs, hMembers, fname, sname, elements,
        rfl, ?_, ?_⟩
      · intro hRoomy
        exact hEntry (Nat.le_of_add_right_le hRoomy)
      · refine hFrames.imp ?_
        rintro frame value ⟨fname, sname, hValue, hRead⟩
        refine ⟨fname, sname, hValue, ?_⟩
        intro hRoomy
        exact hRead (Nat.le_of_add_right_le hRoomy)
  | threadStart start =>
      rcases Spelled.threadStart hBlanks with
        ⟨inner, fname, sname, signature, name, hIs, hMembers,
          hEntry, hWhole⟩
      exact ⟨inner, _, of_blanks hIs, hMembers, fname, sname,
        signature, name, rfl, hEntry, hWhole⟩
  | threadExit exit =>
      rcases Spelled.threadExit hBlanks with
        ⟨inner, fname, sname, exitKind, name, hIs, hMembers,
          hEntry, hWhole⟩
      exact ⟨inner, _, of_blanks hIs, hMembers, fname, sname,
        exitKind, name, rfl, hEntry, hWhole⟩
  | threadName named =>
      rcases Spelled.threadName hBlanks with
        ⟨inner, name, hIs, hMembers, hWhole⟩
      exact ⟨inner, _, of_blanks hIs, hMembers, name, rfl,
        hWhole⟩

end Emit

end RsCamera
