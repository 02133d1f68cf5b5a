import RsCamera.Lib.JsonBytes
import RsCamera.Lib.Texts
import RsCamera.Trace.Lifecycle
import RsCamera.Trace.Readback
import RsCamera.Trace.Registry

/-
  The key of a thread, built twice: by the tracer when the
  thread is created (`trace_build_signature` in
  `trace_pthreads.c`), and again from the line of the creation
  (`thread_signature` in `parse_startup_trace.py`).

  The tracer takes the text behind the last slash of a path,
  the parser the last component of it; the tracer cuts the name
  of the entry module and the whole key, the parser neither.
  The tracer writes each byte of a name as a character of its
  own, so that outside of ASCII the key that the parser builds
  has other bytes in UTF-8 than the key of the tracer.

  Key definitions include:
    * `traceBasename`, `traceBuildSignature`
    * `keyEvent`
    * `WellNamed`, `Comparable`
    * `SameKey`, `AsciiNames`, `keyWidth`

  Key theorems include:
    * `traceBuildSignature_eq`
    * `PthreadCreate.readJsonl_emit`
    * `threadSignature_keyEvent`
    * `encode_decode_eq_take_iff`
    * `sameKey_iff`
-/

------------------------------------------------------------
-- The Key Of The Tracer
------------------------------------------------------------

namespace RsCamera

namespace Emit

section

open Trace (rsThreadTraceSignatureSize)

/- A text of the source as bytes. -/
def bytesOf (text : List Char) : List UInt8 :=
  text.map Char.toUInt8

/- What follows the last slash; no path is the empty one. -/
def traceBasename : Option (List UInt8) → List UInt8
| none => []
| some path => path.rtakeWhile (fun c => c != '/'.toUInt8)

/- `strstr`, as a test. -/
def strstr (text part : List UInt8) : Bool :=
  text.tails.any (fun rest => part.isPrefixOf rest)

/- The module of the program itself. -/
def probeModule : List UInt8 :=
  bytesOf "realsense_steady_probe".toList

/- The formats `%s` and `%s@0x%PRIxPTR`. -/
def moduleText
    (module : List UInt8)
    (offset : UInt64) : List UInt8 :=
  if module = probeModule then
    module
  else
    module ++ bytesOf "@".toList ++ bytesOf (pointer offset)

/- The buffer for the module of the entry. -/
def entryModuleSize : Nat :=
  256

/- The module of the entry, cut to its buffer. -/
def entryModule (entry : Address) : List UInt8 :=
  (traceBasename (entry.info.bind DlInfo.fname)).take
    (entryModuleSize - 1)

/- What `dladdr` does not fill in is zero. -/
def entryOffset (entry : Address) : UInt64 :=
  let fbase := (entry.info.map DlInfo.fbase).getD 0
  if fbase ≠ 0 then entry.value - fbase else entry.value

/- The frames of the tracer and of the entry are left out. -/
def skipsModule (entryModule module : List UInt8) : Bool :=
  strstr module (bytesOf "libtrace_pthreads.so".toList) ||
    (entryModule != [] && module == entryModule)

/- The loop over the frames. -/
def appendModules
    (size : Nat)
    (entryModule : List UInt8) :
    List UInt8 → List Address → Nat → List UInt8
| buffer, [], _ => buffer
| buffer, frame :: rest, included =>
    if included < 6 then
      match frame.place with
      | none =>
          appendModules size entryModule buffer rest included
      | some place =>
          let module := traceBasename (some place.fname)
          if skipsModule entryModule module then
            appendModules size entryModule buffer rest included
          else
            appendModules size entryModule
              (appendWithin size buffer
                (bytesOf "|".toList ++
                  moduleText module place.offset))
              rest (included + 1)
    else
      buffer

/- `trace_build_signature`. -/
def traceBuildSignature
    (entry : Address)
    (frames : List Address)
    (outputSize : Nat) : List UInt8 :=
  if outputSize = 0 then
    []
  else
    let module := entryModule entry
    let buffer :=
      appendWithin outputSize []
        (bytesOf "entry=".toList ++
          moduleText module (entryOffset entry))
    appendModules outputSize module buffer frames 0

/- The key that `pthread_create` hands to the registry. -/
def PthreadCreate.signature
    (event : PthreadCreate) : List UInt8 :=
  traceBuildSignature event.entry event.frames
    rsThreadTraceSignatureSize

end

------------------------------------------------------------
-- What The Loop Keeps
------------------------------------------------------------

section

open Trace (rsThreadTraceSignatureSize)

/- The places that the loop reads before it has six. -/
def placesRead
    (entryModule : List UInt8) :
    List Address → Nat → List Place
| [], _ => []
| frame :: rest, included =>
    if included < 6 then
      match frame.place with
      | none => placesRead entryModule rest included
      | some place =>
          place ::
            placesRead entryModule rest
              (if skipsModule entryModule
                  (traceBasename (some place.fname)) then
                included
              else
                included + 1)
    else
      []

/- The places that enter the key. -/
def placesKept
    (entryModule : List UInt8)
    (frames : List Address)
    (included : Nat) : List Place :=
  (placesRead entryModule frames included).filter
    (fun place =>
      !skipsModule entryModule
        (traceBasename (some place.fname)))

/- How a place is written. -/
def Place.part (place : Place) : List UInt8 :=
  moduleText (traceBasename (some place.fname)) place.offset

/- The key without an end of its buffer. -/
def PthreadCreate.wholeKey
    (event : PthreadCreate) : List UInt8 :=
  bytesOf "entry=".toList ++
    moduleText (entryModule event.entry)
      (entryOffset event.entry) ++
    (placesKept (entryModule event.entry) event.frames
      0).flatMap (fun place =>
        bytesOf "|".toList ++ place.part)

section Loop

variable {entryModule : List UInt8}
variable {frame : Address}
variable {rest : List Address}
variable {included : Nat}

theorem placesRead_unresolved
    (hRoom : included < 6)
    (hPlace : frame.place = none) :
    placesRead entryModule (frame :: rest) included =
      placesRead entryModule rest included := by
  rw [placesRead, if_pos hRoom, hPlace]

theorem placesRead_resolved
    (hRoom : included < 6)
    {place : Place}
    (hPlace : frame.place = some place) :
    placesRead entryModule (frame :: rest) included =
      place ::
        placesRead entryModule rest
          (if skipsModule entryModule
              (traceBasename (some place.fname)) then
            included
          else
            included + 1) := by
  rw [placesRead, if_pos hRoom, hPlace]

theorem placesKept_full
    {frames : List Address}
    (hFull : ¬ included < 6) :
    placesKept entryModule frames included = [] := by
  unfold placesKept
  cases frames with
  | nil => rfl
  | cons frame rest =>
      rw [placesRead, if_neg hFull]
      rfl

theorem placesKept_unresolved
    (hRoom : included < 6)
    (hPlace : frame.place = none) :
    placesKept entryModule (frame :: rest) included =
      placesKept entryModule rest included := by
  unfold placesKept
  rw [placesRead_unresolved hRoom hPlace]

theorem placesKept_skipped
    (hRoom : included < 6)
    {place : Place}
    (hPlace : frame.place = some place)
    (hSkips :
      skipsModule entryModule
        (traceBasename (some place.fname)) = true) :
    placesKept entryModule (frame :: rest) included =
      placesKept entryModule rest included := by
  unfold placesKept
  rw [placesRead_resolved hRoom hPlace]
  simp [hSkips]

theorem placesKept_kept
    (hRoom : included < 6)
    {place : Place}
    (hPlace : frame.place = some place)
    (hKeeps :
      skipsModule entryModule
        (traceBasename (some place.fname)) = false) :
    placesKept entryModule (frame :: rest) included =
      place ::
        placesKept entryModule rest (included + 1) := by
  unfold placesKept
  rw [placesRead_resolved hRoom hPlace]
  simp [hKeeps]

end Loop

/- The buffer holds the front of what is appended. -/
theorem appendModules_take
    {size : Nat}
    (hSize : 0 < size)
    (entryModule content : List UInt8)
    (frames : List Address)
    (included : Nat) :
    appendModules size entryModule (content.take (size - 1))
        frames included =
      (content ++
        (placesKept entryModule frames included).flatMap
          (fun place =>
            bytesOf "|".toList ++ place.part)).take
        (size - 1) := by
  induction frames generalizing content included with
  | nil => simp [appendModules, placesKept, placesRead]
  | cons frame rest ih =>
      rw [appendModules]
      by_cases hRoom : included < 6
      · rw [if_pos hRoom]
        cases hPlace : frame.place with
        | none =>
            rw [placesKept_unresolved hRoom hPlace]
            exact ih content included
        | some place =>
            simp only []
            cases hSkips :
                skipsModule entryModule
                  (traceBasename (some place.fname)) with
            | true =>
                rw [placesKept_skipped hRoom hPlace hSkips]
                exact ih content included
            | false =>
                rw [placesKept_kept hRoom hPlace hSkips,
                  if_neg Bool.false_ne_true,
                  appendWithin_take hSize, ih,
                  List.flatMap_cons, List.append_assoc]
                rfl
      · rw [if_neg hRoom, placesKept_full hRoom,
          List.flatMap_nil, List.append_nil]

/- The key is cut at the end of its buffer. -/
theorem traceBuildSignature_eq
    (event : PthreadCreate) :
    event.signature =
      event.wholeKey.take (rsThreadTraceSignatureSize - 1) := by
  have hSize : 0 < rsThreadTraceSignatureSize := by
    simp [rsThreadTraceSignatureSize]
  have hEntry :=
    appendWithin_take hSize []
      (bytesOf "entry=".toList ++
        moduleText (entryModule event.entry)
          (entryOffset event.entry))
  rw [List.take_nil, List.nil_append] at hEntry
  rw [PthreadCreate.signature, traceBuildSignature,
    if_neg (Nat.ne_of_gt hSize)]
  simp only [hEntry]
  exact appendModules_take hSize _ _ _ _

end

------------------------------------------------------------
-- The Line Of A Creation
------------------------------------------------------------

section

open Json (codesOf)
open Trace (StackFrame)

/- A text of a dictionary; the tracer writes no other value. -/
def textMember (members : Dictionary) (name : String) : String :=
  match Json.member members name with
  | some (.str codes) => String.ofList (codes.map Char.ofNat)
  | _ => ""

/- A frame that is not a dictionary is passed over. -/
def readFrame : Json → Option StackFrame
| .obj members =>
    some
      { moduleName := textMember members "module"
        moduleOffset := textMember members "module_offset"
        address := textMember members "address" }
| _ => none

/- The stack of a dictionary. -/
def stackOf (members : Dictionary) : List StackFrame :=
  match Json.member members "stack" with
  | some (.arr elements) => elements.filterMap readFrame
  | _ => []

/- What `thread_signature` reads of a dictionary. -/
def keyEvent (members : Dictionary) : Trace.Event where
  kind := .pthreadCreate
  signature := textMember members "signature"
  entryModule := some (textMember members "entry_module")
  entryModuleOffset :=
    some (textMember members "entry_module_offset")
  entryAddress := textMember members "entry_address"
  stack := stackOf members

/- A byte is read as the character with its code. -/
def decodeByte (c : UInt8) : Char :=
  Char.ofNat c.toNat

/- Bytes as Python reads them from the line. -/
def decode (bytes : List UInt8) : List Char :=
  bytes.map decodeByte

/- A frame as Python reads it. -/
def Address.stackFrame (frame : Address) : StackFrame where
  moduleName :=
    String.ofList
      (decode ((frame.place.map Place.fname).getD []))
  moduleOffset :=
    String.ofList
      ((frame.place.map
        (fun place => pointer place.offset)).getD [])
  address := String.ofList (pointer frame.value)

/- The event as it is read, told by the addresses. -/
def PthreadCreate.keyEvent
    (event : PthreadCreate) : Trace.Event where
  kind := .pthreadCreate
  entryModule := some event.entry.stackFrame.moduleName
  entryModuleOffset :=
    some event.entry.stackFrame.moduleOffset
  entryAddress := event.entry.stackFrame.address
  stack := event.frames.map Address.stackFrame

variable {members : Dictionary}
variable {name : String}

theorem textMember_pointer
    {value : UInt64}
    (hMember :
      Json.member members name =
        some (.str (codesOf (pointer value)))) :
    textMember members name =
      String.ofList (pointer value) := by
  have hSame : Char.ofNat ∘ Char.toNat = id := by
    funext c
    simp
  rw [textMember, hMember]
  simp [codesOf, hSame]

theorem textMember_bytes
    {bytes : List UInt8}
    (hMember :
      Json.member members name =
        some (.str (bytes.map UInt8.toNat))) :
    textMember members name = String.ofList (decode bytes) := by
  rw [textMember, hMember]
  simp only [List.map_map]
  rfl

theorem textMember_absent
    (hMember : Json.member members name = none) :
    textMember members name = "" := by
  rw [textMember, hMember]

/- A frame that was written whole is the frame that is read. -/
theorem Address.FrameOf.readFrame_eq
    {frame : Address}
    {value : Json}
    (hValue : frame.FrameOf True value) :
    readFrame value = some frame.stackFrame := by
  rcases hValue with ⟨fname, sname, hIs, hReadAs⟩
  subst hIs
  rw [frameObject, readFrame]
  unfold Address.stackFrame
  cases hPlace : frame.place with
  | none =>
      rw [placeMembers, textMember_absent rfl,
        textMember_absent rfl, textMember_pointer rfl]
      rfl
  | some place =>
      rw [hReadAs trivial place hPlace, placeMembers,
        textMember_bytes rfl, textMember_pointer rfl,
        textMember_pointer rfl]
      rfl

theorem filterMap_readFrame
    {frames : List Address}
    {elements : List Json}
    (hFrames :
      List.Forall₂ (fun frame => frame.FrameOf True) frames
        elements) :
    elements.filterMap readFrame =
      frames.map Address.stackFrame := by
  induction hFrames with
  | nil => rfl
  | cons hFrame _ ih =>
      rw [List.filterMap_cons, hFrame.readFrame_eq, ih,
        List.map_cons]

/- A creation that was written whole is the one that is read. -/
theorem keyEvent_members
    {event : PthreadCreate}
    {fname : List Nat}
    (hReadAs : event.entry.ReadAs True fname)
    (sname : List Nat)
    {elements : List Json}
    (hFrames :
      List.Forall₂ (fun frame => frame.FrameOf True)
        event.frames elements) :
    keyEvent (event.members fname sname elements) =
      event.keyEvent := by
  have hStack :
      stackOf (event.members fname sname elements) =
        event.frames.map Address.stackFrame := by
    have hMember :
        Json.member (event.members fname sname elements)
            "stack" =
          some (.arr elements) := by
      simp [Json.member, PthreadCreate.members]
    rw [stackOf, hMember]
    exact filterMap_readFrame hFrames
  unfold keyEvent PthreadCreate.keyEvent
  rw [hStack]
  unfold Address.stackFrame PthreadCreate.members
  cases hPlace : event.entry.place with
  | none =>
      rw [placeMembers, textMember_absent rfl,
        textMember_absent rfl, textMember_absent rfl,
        textMember_pointer rfl]
      rfl
  | some place =>
      rw [hReadAs trivial place hPlace, placeMembers,
        textMember_absent rfl, textMember_bytes rfl,
        textMember_pointer rfl, textMember_pointer rfl]
      rfl

/- The file of a line that fits is read as the creation. -/
theorem PthreadCreate.readJsonl_emit
    {event : PthreadCreate}
    (hFits :
      (Event.pthreadCreate event).width ≤ traceLineSize - 2)
    (truncate : List Char → Except String Int)
    (path : String) :
    ∃ members,
      readJsonl truncate path (Event.pthreadCreate event).emit =
          .ok [members] ∧
        Emit.keyEvent members = event.keyEvent := by
  choose record hLoads hCarries using Event.loads_text
  have hRead :=
    Emit.readJsonl_emit hLoads hCarries
      (List.forall_mem_singleton.mpr hFits) truncate path
  have hSort :
      sortByTime [.pthreadCreate event] =
        [.pthreadCreate event] := by
    simp [sortByTime]
  rw [List.flatMap_singleton, hSort] at hRead
  refine ⟨record (.pthreadCreate event), hRead, ?_⟩
  -- What is written is the text of the event.
  have hSpelled :
      Spelled True event.appends
        (Event.pthreadCreate event).text := by
    have hText := spelled_textFrom 0 event.appends
    rwa [eq_true (show lineEnd 0 event.appends ≤ _ from
      hFits)] at hText
  rcases hSpelled.pthreadCreate with
    ⟨inner, fname, sname, elements, hIs, hMembers, hReadAs,
      hFrames⟩
  have hLoad := hLoads (.pthreadCreate event)
  rw [hIs, Json.loads_of_denotes (Json.denotes_object hMembers)]
    at hLoad
  rw [← Json.obj.inj (Except.ok.inj hLoad)]
  exact keyEvent_members hReadAs sname hFrames

end

------------------------------------------------------------
-- Names
------------------------------------------------------------

section

open Trace (pathName occursIn frameText)

/- The path of a file: its last component is written out. -/
def WellNamed (path : List UInt8) : Prop :=
  traceBasename (some path) ≠ [] ∧
    traceBasename (some path) ≠ bytesOf ".".toList

instance (path : List UInt8) : Decidable (WellNamed path) :=
  inferInstanceAs (Decidable (_ ∧ _))

/- A path in which neither side finds a name. -/
def Nameless (path : List UInt8) : Prop :=
  traceBasename (some path) = [] ∧
    ∀ part ∈ (decode path).splitOn '/', part = [] ∨ part = ['.']

theorem toNat_decodeByte
    (c : UInt8) :
    (decodeByte c).toNat = c.toNat := by
  have hBytes :
      ∀ n : Fin 256, (decodeByte (UInt8.ofFin n)).toNat = n := by
    decide +kernel
  exact hBytes c.toFin

theorem decodeByte_injective : Function.Injective decodeByte := by
  intro left right hSame
  apply UInt8.toNat.inj
  calc left.toNat = (decodeByte left).toNat :=
        (toNat_decodeByte left).symm
    _ = (decodeByte right).toNat := by rw [hSame]
    _ = right.toNat := toNat_decodeByte right

theorem decode_injective : Function.Injective decode :=
  List.map_injective_iff.mpr decodeByte_injective

theorem decode_append
    (bytes more : List UInt8) :
    decode (bytes ++ more) = decode bytes ++ decode more :=
  List.map_append

/- A visible text is read as it is written. -/
theorem decode_bytesOf
    {text : List Char}
    (hVisible : ∀ c ∈ text, isVisible c = true) :
    decode (bytesOf text) = text := by
  have hSame : ∀ c ∈ text, decodeByte c.toUInt8 = c := by
    intro c hC
    have hLow := toNat_le_of_isVisible (hVisible c hC)
    have hMod : c.toUInt8.toNat = c.toNat % 256 := rfl
    have hCode : c.toUInt8.toNat = c.toNat := by
      omega
    rw [decodeByte, hCode, Char.ofNat_toNat]
  rw [decode, bytesOf, List.map_map]
  exact (List.map_congr_left hSame).trans (List.map_id text)

theorem decode_traceBasename
    (path : List UInt8) :
    decode (traceBasename (some path)) =
      (decode path).rtakeWhile (fun c => c != '/') := by
  have hSlash :
      (fun c => c != '/') ∘ decodeByte =
        fun c => c != '/'.toUInt8 := by
    funext c
    have hIff : decodeByte c = '/' ↔ c = '/'.toUInt8 := by
      constructor
      · intro hIs
        exact decodeByte_injective hIs
      · intro hIs
        subst hIs
        rfl
    rw [Function.comp_apply, Bool.eq_iff_iff, bne_iff_ne,
      bne_iff_ne, ne_eq, ne_eq, hIff]
  rw [traceBasename, decode, decode, List.rtakeWhile,
    List.rtakeWhile, ← List.map_reverse, List.takeWhile_map,
    hSlash, List.map_reverse]

/- The components of a path, as characters. -/
theorem pathName_eq
    (text : List Char) :
    pathName (String.ofList text) =
      String.ofList
        (((text.splitOn '/').filter (fun part =>
          part ≠ [] ∧ part ≠ ['.'])).getLast?.getD []) := by
  have hParts := Texts.splitOn_singleton '/' (String.ofList text)
  have hKept :
      (fun part : String => decide (part ≠ "" ∧ part ≠ ".")) ∘
          String.ofList =
        fun part => decide (part ≠ [] ∧ part ≠ ['.']) := by
    funext part
    have hEmpty : String.ofList part = "" ↔ part = [] :=
      String.ofList_eq_empty_iff
    have hDot : String.ofList part = "." ↔ part = ['.'] :=
      String.ofList_inj
    simp only [Function.comp_apply, ne_eq, hEmpty, hDot]
  rw [String.toList_ofList] at hParts
  unfold pathName
  rw [show "/" = String.ofList ['/'] from rfl, hParts,
    List.filter_map, hKept, List.getLast?_map]
  cases ((text.splitOn '/').filter _).getLast? with
  | none => rfl
  | some part => rfl

theorem pathName_wellNamed
    {path : List UInt8}
    (hNamed : WellNamed path) :
    pathName (String.ofList (decode path)) =
      String.ofList (decode (traceBasename (some path))) := by
  have hLast := Texts.getLast?_splitOn '/' (decode path)
  rw [← decode_traceBasename] at hLast
  rcases List.getLast?_eq_some_iff.mp hLast with
    ⟨before, hParts⟩
  have hEmpty : decode (traceBasename (some path)) ≠ [] := by
    intro hNil
    exact hNamed.1 (List.map_eq_nil_iff.mp hNil)
  have hDot : decode (traceBasename (some path)) ≠ ['.'] := by
    intro hIs
    exact hNamed.2 (decode_injective hIs)
  rw [pathName_eq, hParts, List.filter_append,
    List.filter_singleton]
  simp [hEmpty, hDot]

theorem pathName_nameless
    {path : List UInt8}
    (hNameless : Nameless path) :
    pathName (String.ofList (decode path)) = "" := by
  have hNone :
      ((decode path).splitOn '/').filter (fun part =>
        part ≠ [] ∧ part ≠ ['.']) = [] := by
    rw [List.filter_eq_nil_iff]
    intro part hPart
    rcases hNameless.2 part hPart with hIs | hIs
    · simp [hIs]
    · simp [hIs]
  rw [pathName_eq, hNone]
  rfl

theorem occursIn_decode
    (part text : List UInt8) :
    occursIn (String.ofList (decode part))
        (String.ofList (decode text)) =
      strstr text part := by
  unfold occursIn strstr
  rw [String.toList_ofList, String.toList_ofList, decode,
    decode, List.map_tails, List.any_map]
  congr 1
  funext rest
  rw [Function.comp_apply, Bool.eq_iff_iff,
    List.isPrefixOf_iff_prefix, List.isPrefixOf_iff_prefix]
  exact List.prefix_map_iff_of_injective decodeByte_injective

/- How both sides write a module. -/
theorem frameText_decode
    (module : List UInt8)
    (offset : UInt64) :
    frameText (String.ofList (decode module))
        (String.ofList (pointer offset)) =
      String.ofList (decode (moduleText module offset)) := by
  have hOffset :
      decode (bytesOf (pointer offset)) = pointer offset :=
    decode_bytesOf (fun c hC => (isPlain_pointer offset c hC).2)
  have hProbe :
      String.ofList (decode module) = "realsense_steady_probe" ↔
        module = probeModule := by
    rw [show "realsense_steady_probe" =
      String.ofList (decode probeModule) from rfl]
    rw [String.ofList_inj]
    exact decode_injective.eq_iff
  unfold frameText moduleText
  by_cases hIs : module = probeModule
  · rw [if_pos hIs, if_pos (hProbe.mpr hIs)]
  · rw [if_neg hIs, if_neg (hProbe.not.mpr hIs), decode_append,
      decode_append, hOffset, String.ofList_append,
      String.ofList_append]
    rfl

end

------------------------------------------------------------
-- The Two Keys
------------------------------------------------------------

open Trace (rsThreadTraceSignatureSize pathName occursIn textOr
  stackParts threadSignature)

/-
  The names that the two sides agree on, among the paths that
  are read: the entry's may be missing, but is not cut.
-/
structure Comparable (event : PthreadCreate) : Prop where
  base :
    ∀ info, event.entry.info = some info → info.fname = none →
      info.fbase = 0
  entry :
    ∀ place, event.entry.place = some place →
      (WellNamed place.fname ∨ Nameless place.fname) ∧
        (traceBasename (some place.fname)).length <
          entryModuleSize
  frames :
    ∀ place ∈ placesRead (entryModule event.entry)
        event.frames 0,
      WellNamed place.fname

/-
  The key of the line has the bytes, in UTF-8, of the key in
  the registry.
-/
def SameKey (event : PthreadCreate) : Prop :=
  ∀ truncate path,
    ∃ members,
      readJsonl truncate path (Event.pthreadCreate event).emit =
          .ok [members] ∧
        Json.encode (threadSignature (keyEvent members)).toList =
          event.signature

/- The module names in the key are texts of ASCII. -/
structure AsciiNames (event : PthreadCreate) : Prop where
  entry :
    ∀ c ∈ entryModule event.entry, c.toNat < 128
  frames :
    ∀ place ∈ placesKept (entryModule event.entry)
        event.frames 0,
      ∀ c ∈ traceBasename (some place.fname), c.toNat < 128

/- The bytes of the key: of the entry, and of each place. -/
def keyWidth (event : PthreadCreate) : Nat :=
  6 +
    (moduleText (entryModule event.entry)
      (entryOffset event.entry)).length +
    ((placesKept (entryModule event.entry) event.frames
      0).map (fun place => 1 + place.part.length)).sum

theorem length_wholeKey
    (event : PthreadCreate) :
    event.wholeKey.length = keyWidth event := by
  have hPlace :
      ∀ place : Place,
        (bytesOf "|".toList ++ place.part).length =
          1 + place.part.length := by
    intro place
    rw [List.length_append]
    rfl
  unfold PthreadCreate.wholeKey keyWidth
  rw [List.length_append, List.length_append,
    List.length_flatMap]
  simp only [hPlace]
  rfl

/- A byte outside of ASCII becomes two. -/
theorem length_encode_decodeByte
    (c : UInt8) :
    1 ≤ (String.utf8EncodeChar (decodeByte c)).length ∧
      ((String.utf8EncodeChar (decodeByte c)).length = 1 ↔
        c.toNat < 128) := by
  have hCode := toNat_decodeByte c
  rw [String.length_utf8EncodeChar, Char.utf8Size_eq_one_iff,
    UInt32.le_iff_toNat_le]
  refine ⟨Char.utf8Size_pos _, ?_⟩
  change (decodeByte c).toNat ≤ 127 ↔ c.toNat < 128
  omega

theorem encode_decodeByte
    {c : UInt8}
    (hAscii : c.toNat < 128) :
    String.utf8EncodeChar (decodeByte c) = [c] := by
  have hBytes :
      ∀ n : Fin 128,
        String.utf8EncodeChar
            (decodeByte (UInt8.ofNat n)) =
          [UInt8.ofNat n] := by
    decide +kernel
  simpa using hBytes ⟨c.toNat, hAscii⟩

theorem length_le_encode_decode
    (bytes : List UInt8) :
    bytes.length ≤ (Json.encode (decode bytes)).length := by
  induction bytes with
  | nil => exact Nat.le_refl 0
  | cons c bytes ih =>
      have hFirst := (length_encode_decodeByte c).1
      rw [decode, List.map_cons, Json.encode, List.flatMap_cons,
        List.length_append, List.length_cons]
      rw [decode, Json.encode] at ih
      omega

/- Bytes are what their characters are encoded to, in ASCII. -/
theorem encode_decode_eq_iff
    (bytes : List UInt8) :
    Json.encode (decode bytes) = bytes ↔
      ∀ c ∈ bytes, c.toNat < 128 := by
  induction bytes with
  | nil => simp [decode, Json.encode]
  | cons c bytes ih =>
      have hCons :
          Json.encode (decode (c :: bytes)) =
            String.utf8EncodeChar (decodeByte c) ++
              Json.encode (decode bytes) :=
        rfl
      rw [hCons, List.forall_mem_cons, ← ih]
      constructor
      · intro hSame
        have hLengths := congrArg List.length hSame
        rw [List.length_append, List.length_cons] at hLengths
        have hFirst := length_encode_decodeByte c
        have hRest := length_le_encode_decode bytes
        have hAscii : c.toNat < 128 := hFirst.2.mp (by omega)
        rw [encode_decodeByte hAscii] at hSame
        exact ⟨hAscii, (List.cons.inj hSame).2⟩
      · rintro ⟨hAscii, hRest⟩
        rw [encode_decodeByte hAscii, hRest]
        rfl

/- A cut is not made up for by characters of two bytes. -/
theorem encode_decode_eq_take_iff
    (bytes : List UInt8)
    (size : Nat) :
    Json.encode (decode bytes) = bytes.take size ↔
      (∀ c ∈ bytes, c.toNat < 128) ∧ bytes.length ≤ size := by
  constructor
  · intro hSame
    have hLengths := congrArg List.length hSame
    rw [List.length_take] at hLengths
    have hLeast := length_le_encode_decode bytes
    have hFits : bytes.length ≤ size := by
      omega
    rw [List.take_of_length_le hFits] at hSame
    exact ⟨(encode_decode_eq_iff bytes).mp hSame, hFits⟩
  · rintro ⟨hAscii, hFits⟩
    rw [List.take_of_length_le hFits]
    exact (encode_decode_eq_iff bytes).mpr hAscii

/- The texts of the sources are of ASCII. -/
theorem ascii_bytesOf
    {text : List Char}
    (hVisible : ∀ c ∈ text, isVisible c = true) :
    ∀ byte ∈ bytesOf text, byte.toNat < 128 := by
  intro byte hByte
  rcases List.mem_map.mp hByte with ⟨c, hC, rfl⟩
  have hLow := toNat_le_of_isVisible (hVisible c hC)
  have hMod : c.toUInt8.toNat = c.toNat % 256 := rfl
  omega

theorem ascii_moduleText_iff
    (module : List UInt8)
    (offset : UInt64) :
    (∀ c ∈ moduleText module offset, c.toNat < 128) ↔
      ∀ c ∈ module, c.toNat < 128 := by
  have hOffset :=
    ascii_bytesOf
      (fun c hC => (isPlain_pointer offset c hC).2)
  have hAt : ∀ c ∈ bytesOf "@".toList, c.toNat < 128 :=
    ascii_bytesOf (by simp [isVisible])
  unfold moduleText
  split
  · exact Iff.rfl
  · simp only [List.forall_mem_append]
    exact ⟨fun hAll => hAll.1.1,
      fun hModule => ⟨⟨hModule, hAt⟩, hOffset⟩⟩

/- Only names can carry the key out of ASCII. -/
theorem ascii_wholeKey_iff
    (event : PthreadCreate) :
    (∀ c ∈ event.wholeKey, c.toNat < 128) ↔
      AsciiNames event := by
  have hEntry : ∀ c ∈ bytesOf "entry=".toList,
      c.toNat < 128 :=
    ascii_bytesOf (by simp [isVisible])
  have hBar : ∀ c ∈ bytesOf "|".toList, c.toNat < 128 :=
    ascii_bytesOf (by simp [isVisible])
  unfold PthreadCreate.wholeKey
  simp only [List.forall_mem_append, List.forall_mem_flatMap,
    ascii_moduleText_iff, Place.part]
  constructor
  · rintro ⟨⟨-, hModule⟩, hFrames⟩
    exact ⟨hModule, fun place hPlace =>
      (hFrames place hPlace).2⟩
  · rintro ⟨hModule, hFrames⟩
    exact ⟨⟨hEntry, hModule⟩, fun place hPlace =>
      ⟨hBar, hFrames place hPlace⟩⟩

theorem textOr_pointer
    (value : UInt64)
    (second : String) :
    textOr (String.ofList (pointer value)) second =
      String.ofList (pointer value) := by
  unfold textOr
  rw [if_neg]
  rw [String.ofList_eq_empty_iff, pointer]
  simp

/- What `dladdr` says of an address with a place. -/
theorem Address.info_of_place
    {addr : Address}
    {place : Place}
    (hPlace : addr.place = some place) :
    ∃ info,
      addr.info = some info ∧ info.fname = some place.fname ∧
        place.offset = addr.value - info.fbase := by
  rcases addr with ⟨value, _ | ⟨_ | fname, fbase, sname⟩⟩
  · cases hPlace
  · cases hPlace
  · cases hPlace
    exact ⟨_, rfl, rfl, rfl⟩

theorem Address.fname_of_place
    {addr : Address}
    (hPlace : addr.place = none) :
    addr.info.bind DlInfo.fname = none := by
  rcases addr with ⟨value, _ | ⟨_ | fname, fbase, sname⟩⟩
  · rfl
  · rfl
  · cases hPlace

theorem nameless_nil : Nameless [] := by
  refine ⟨rfl, ?_⟩
  intro part hPart
  exact Or.inl (List.mem_singleton.mp hPart)

variable {event : PthreadCreate}

/- The entry has one name on both sides. -/
theorem Comparable.pathName_entry
    (hComparable : Comparable event) :
    pathName event.entry.stackFrame.moduleName =
      String.ofList (decode (entryModule event.entry)) := by
  unfold Address.stackFrame entryModule
  cases hPlace : event.entry.place with
  | none =>
      rw [Address.fname_of_place hPlace]
      exact pathName_nameless nameless_nil
  | some place =>
      rcases hComparable.entry place hPlace with
        ⟨hNamed, hLength⟩
      rcases Address.info_of_place hPlace with
        ⟨info, hInfo, hFname, -⟩
      rw [hInfo, Option.bind_some, hFname,
        List.take_of_length_le (Nat.le_sub_one_of_lt hLength)]
      rcases hNamed with hNamed | hNameless
      · exact pathName_wellNamed hNamed
      · rw [hNameless.1]
        exact pathName_nameless hNameless

/- The entry has one offset on both sides. -/
theorem Comparable.textOr_entry
    (hComparable : Comparable event) :
    textOr event.entry.stackFrame.moduleOffset
        (textOr event.entry.stackFrame.address "0x0") =
      String.ofList (pointer (entryOffset event.entry)) := by
  have hOffset :
      ∀ fbase,
        (event.entry.info.map DlInfo.fbase).getD 0 = fbase →
          entryOffset event.entry =
            event.entry.value - fbase := by
    intro fbase hBase
    simp only [entryOffset, hBase]
    split
    · rfl
    · next hZero =>
        rw [not_not.mp hZero, UInt64.sub_zero]
  unfold Address.stackFrame
  cases hPlace : event.entry.place with
  | none =>
      have hBase :
          (event.entry.info.map DlInfo.fbase).getD 0 = 0 := by
        have hFname := Address.fname_of_place hPlace
        cases hInfo : event.entry.info with
        | none => rfl
        | some info =>
            rw [hInfo] at hFname
            exact hComparable.base info hInfo hFname
      rw [hOffset 0 hBase, UInt64.sub_zero]
      exact textOr_pointer _ _
  | some place =>
      rcases Address.info_of_place hPlace with
        ⟨info, hInfo, -, hIs⟩
      rw [hOffset info.fbase (by rw [hInfo]; rfl), ← hIs]
      exact textOr_pointer _ _

/- A module is left out on both sides. -/
theorem skips_iff
    (entryModule : List UInt8)
    {path : List UInt8}
    (hNamed : WellNamed path) :
    (String.ofList (decode (traceBasename (some path))) = "" ∨
        occursIn "libtrace_pthreads.so"
          (String.ofList (decode (traceBasename (some path)))) ∨
        String.ofList (decode (traceBasename (some path))) =
          String.ofList (decode entryModule)) ↔
      skipsModule entryModule (traceBasename (some path)) =
        true := by
  have hEmpty :
      String.ofList (decode (traceBasename (some path))) ≠
        "" := by
    rw [ne_eq, String.ofList_eq_empty_iff]
    intro hNil
    exact hNamed.1 (List.map_eq_nil_iff.mp hNil)
  have hTracer :
      "libtrace_pthreads.so" =
        String.ofList
          (decode (bytesOf "libtrace_pthreads.so".toList)) := by
    rfl
  have hEntry :
      String.ofList (decode (traceBasename (some path))) =
          String.ofList (decode entryModule) ↔
        entryModule ≠ [] ∧
          traceBasename (some path) = entryModule := by
    rw [String.ofList_inj, decode_injective.eq_iff]
    constructor
    · intro hIs
      exact ⟨hIs ▸ hNamed.1, hIs⟩
    · exact And.right
  rw [hTracer, occursIn_decode, hEntry, skipsModule]
  simp [hEmpty]

/- The parser keeps the frames that the tracer keeps. -/
theorem stackParts_decode
    {module : List UInt8}
    {frames : List Address}
    {included : Nat}
    (hRoom : included < 6)
    (hNamed :
      ∀ place ∈ placesRead module frames included,
        WellNamed place.fname) :
    stackParts (String.ofList (decode module))
        (frames.map Address.stackFrame) included =
      (placesKept module frames included).map (fun place =>
        String.ofList (decode place.part)) := by
  induction frames generalizing included with
  | nil => rfl
  | cons frame rest ih =>
      rw [List.map_cons, stackParts]
      cases hPlace : frame.place with
      | none =>
          have hNone :
              pathName frame.stackFrame.moduleName = "" := by
            unfold Address.stackFrame
            rw [hPlace]
            exact pathName_nameless nameless_nil
          rw [placesRead_unresolved hRoom hPlace] at hNamed
          simp only [hNone, true_or, if_true]
          rw [placesKept_unresolved hRoom hPlace]
          exact ih hRoom hNamed
      | some place =>
          rw [placesRead_resolved hRoom hPlace,
            List.forall_mem_cons] at hNamed
          have hModule :
              pathName frame.stackFrame.moduleName =
                String.ofList
                  (decode (traceBasename
                    (some place.fname))) := by
            unfold Address.stackFrame
            rw [hPlace]
            exact pathName_wellNamed hNamed.1
          have hOffset :
              textOr frame.stackFrame.moduleOffset
                  (textOr frame.stackFrame.address "0x0") =
                String.ofList (pointer place.offset) := by
            unfold Address.stackFrame
            rw [hPlace]
            exact textOr_pointer _ _
          simp only [hModule, skips_iff module hNamed.1]
          cases hSkips :
              skipsModule module
                (traceBasename (some place.fname)) with
          | true =>
              rw [hSkips, if_pos rfl] at hNamed
              rw [if_pos rfl,
                placesKept_skipped hRoom hPlace hSkips]
              exact ih hRoom hNamed.2
          | false =>
              rw [hSkips, if_neg Bool.false_ne_true] at hNamed
              rw [if_neg Bool.false_ne_true, hOffset,
                frameText_decode,
                placesKept_kept hRoom hPlace hSkips,
                List.map_cons]
              congr 1
              by_cases hSix : included + 1 = 6
              · rw [if_pos hSix, placesKept_full (by omega),
                  List.map_nil]
              · rw [if_neg hSix]
                exact ih (by omega) hNamed.2

/- The parts of the key, joined. -/
theorem intercalate_decode
    (first : List UInt8)
    (places : List Place) :
    "|".intercalate
        (String.ofList (decode first) ::
          places.map (fun place =>
            String.ofList (decode place.part))) =
      String.ofList
        (decode
          (first ++ places.flatMap (fun place =>
            bytesOf "|".toList ++ place.part))) := by
  have hPart :
      String.toList ∘ (fun place : Place =>
          String.ofList (decode place.part)) =
        fun place => decode place.part := by
    funext place
    exact String.toList_ofList
  have hBars :
      decode
          (places.flatMap (fun place =>
            bytesOf "|".toList ++ place.part)) =
        places.flatMap (fun place =>
          "|".toList ++ decode place.part) := by
    rw [decode, List.map_flatMap]
    simp only [List.map_append]
    rfl
  rw [← String.toList_inj, String.toList_intercalate,
    List.map_cons, List.map_map, hPart,
    Texts.intercalate_cons, List.flatMap_map, decode_append,
    hBars]
  simp

theorem threadSignature_keyEvent
    (hComparable : Comparable event) :
    threadSignature event.keyEvent =
      String.ofList (decode event.wholeKey) := by
  have hEntry :
      "entry=" ++
          String.ofList
            (decode
              (moduleText (entryModule event.entry)
                (entryOffset event.entry))) =
        String.ofList
          (decode
            (bytesOf "entry=".toList ++
              moduleText (entryModule event.entry)
                (entryOffset event.entry))) := by
    rw [decode_append, String.ofList_append]
    congr 1
  have hStack :=
    stackParts_decode (by decide) hComparable.frames
  have hNone : ¬ event.keyEvent.signature ≠ "" :=
    not_not.mpr rfl
  unfold threadSignature
  rw [if_neg hNone]
  simp only [PthreadCreate.keyEvent, Option.getD_some,
    hComparable.pathName_entry, hComparable.textOr_entry,
    frameText_decode, hEntry, hStack]
  exact intercalate_decode _ _

/- The keys are the same if nothing is cut or re-encoded. -/
theorem Comparable.sameKey_iff_take
    (hComparable : Comparable event)
    (hFits :
      (Event.pthreadCreate event).width ≤ traceLineSize - 2) :
    SameKey event ↔
      Json.encode (decode event.wholeKey) =
        event.wholeKey.take (rsThreadTraceSignatureSize - 1) := by
  rw [← traceBuildSignature_eq, ← String.toList_ofList
    (l := decode event.wholeKey),
    ← threadSignature_keyEvent hComparable]
  constructor
  · intro hSame
    rcases hSame (fun _ => .ok 0) "" with
      ⟨members, hRead, hKey⟩
    rcases event.readJsonl_emit hFits (fun _ => .ok 0) "" with
      ⟨found, hFound, hEvent⟩
    rw [hFound] at hRead
    cases hRead
    rw [← hEvent]
    exact hKey
  · intro hKey truncate path
    rcases event.readJsonl_emit hFits truncate path with
      ⟨members, hRead, hEvent⟩
    refine ⟨members, hRead, ?_⟩
    rw [hEvent]
    exact hKey

theorem sameKey_iff
    (event : PthreadCreate)
    (hFits :
      (Event.pthreadCreate event).width ≤ traceLineSize - 2)
    (hComparable : Comparable event) :
    SameKey event ↔
      AsciiNames event ∧
        keyWidth event < rsThreadTraceSignatureSize := by
  rw [hComparable.sameKey_iff_take hFits,
    encode_decode_eq_take_iff, ascii_wholeKey_iff,
    length_wholeKey]
  apply and_congr_right
  intro _
  simp only [rsThreadTraceSignatureSize]
  omega

/- An address in a module that is loaded at a fixed base. -/
def addressIn (path : List Char) (offset : UInt64) : Address where
  value := 0x7f0000000000 + offset
  info :=
    some
      { fname := some (bytesOf path)
        fbase := 0x7f0000000000
        sname := none }

/- A creation in a fixed library. -/
def createFrom
    (frames : List Address)
    (hFrames : frames.length ≤ traceMaxStack) :
    PthreadCreate where
  timestampNs := 1000
  returnTimestampNs := 2000
  callerTid := 7
  pthreadValue := 0x7f1111110000
  entry := addressIn "/usr/lib/librealsense2.so".toList 0x5a0
  arg := 0
  result := 0
  frames := frames
  frames_length := hFrames

theorem comparable_createFrom
    {frames : List Address}
    (hFrames : frames.length ≤ traceMaxStack)
    (hNamed :
      ∀ place ∈ placesRead
          (bytesOf "librealsense2.so".toList) frames 0,
        WellNamed place.fname) :
    Comparable (createFrom frames hFrames) := by
  have hEntry :
      entryModule
          (addressIn "/usr/lib/librealsense2.so".toList 0x5a0) =
        bytesOf "librealsense2.so".toList := by
    rfl
  have hPath :
      WellNamed (bytesOf "/usr/lib/librealsense2.so".toList) ∧
        (traceBasename
          (some (bytesOf
            "/usr/lib/librealsense2.so".toList))).length <
          entryModuleSize := by
    decide
  constructor
  · intro info hInfo hNone
    cases hInfo
    cases hNone
  · intro place hPlace
    cases hPlace
    exact ⟨Or.inl hPath.1, hPath.2⟩
  · intro place hPlace
    apply hNamed place
    rw [← hEntry]
    exact hPlace

/- The stack of a thread that the library starts. -/
def shallowStack : List Address :=
  [addressIn "/opt/libtrace_pthreads.so".toList 0x10,
    addressIn "/usr/lib/librealsense2.so".toList 0x20,
    { value := 0x30, info := none },
    addressIn "/opt/realsense_steady_probe".toList 0x40,
    addressIn "/usr/lib/libc.so.6".toList 0x50]

theorem shallowStack_sameKey :
    SameKey (createFrom shallowStack (by decide)) := by
  refine (sameKey_iff _ ?_ (comparable_createFrom _ ?_)).mpr
    ⟨⟨?_, ?_⟩, ?_⟩
  · decide +kernel
  · decide +kernel
  · decide +kernel
  · decide +kernel
  · decide +kernel

/- Six frames of a module with a long name. -/
def longStack : List Address :=
  List.replicate 6 (addressIn (List.replicate 180 'a') 0x1000)

theorem longStack_not_sameKey :
    ¬ ∀ event : PthreadCreate,
        (Event.pthreadCreate event).width ≤ traceLineSize - 2 →
          SameKey event := by
  intro hClaim
  have hFits :
      (Event.pthreadCreate
          (createFrom longStack (by decide))).width ≤
        traceLineSize - 2 := by
    decide +kernel
  have hComparable :
      Comparable (createFrom longStack (by decide)) := by
    apply comparable_createFrom
    decide +kernel
  have hWhole :=
    (encode_decode_eq_take_iff _ _).mp
      ((hComparable.sameKey_iff_take hFits).mp
        (hClaim _ hFits))
  have hCut :
      rsThreadTraceSignatureSize - 1 <
        (createFrom longStack
          (by decide)).wholeKey.length := by
    decide +kernel
  exact absurd hWhole.2 (Nat.not_le.mpr hCut)

end Emit

end RsCamera
