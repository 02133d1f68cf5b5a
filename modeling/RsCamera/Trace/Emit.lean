import RsCamera.Lib.JsonText

/-
  The lines of the preloaded tracer (`append_fmt`,
  `append_json_string`, `append_address_info`, `append_stack`,
  `trace_write_line` and the emitters of `trace_pthreads.c`).

  A line is built in a buffer of `TRACE_LINE_SIZE` bytes by a
  sequence of appends.  A string stops eight bytes before the
  end of the buffer, anything else at the end, and the newline
  goes over the last byte of a full buffer.  Nothing is
  reported when something does not fit.

  The sequence of appends of an event is a list, so that what
  is written can be compared with the text that would be
  written without an end of the buffer.

  Key definitions include:
    * `appendFmt`, `appendJsonString`, `traceWriteLine`
    * `Event`, `Event.appends`, `Event.emit`
    * `Event.width`

  Key theorems include:
    * `perform_take`
    * `spells_escape`, `denotes_json`
    * `emit_eq`
-/

------------------------------------------------------------
-- The Buffer
------------------------------------------------------------

namespace RsCamera

namespace Emit

/- `TRACE_MAX_STACK`. -/
def traceMaxStack : Nat :=
  10

/- `TRACE_LINE_SIZE`. -/
def traceLineSize : Nat :=
  4096

/- The buffer is what stands before the write position. -/
def appendFmt (buffer text : List Char) : List Char :=
  if traceLineSize ≤ buffer.length then
    buffer
  else if traceLineSize - buffer.length ≤ text.length then
    (buffer ++ text).take (traceLineSize - 1)
  else
    buffer ++ text

/- The same call on a buffer of another size. -/
def appendWithin
    {X : Type}
    (size : Nat)
    (buffer text : List X) : List X :=
  if size ≤ buffer.length then
    buffer
  else if size - buffer.length ≤ text.length then
    (buffer ++ text).take (size - 1)
  else
    buffer ++ text

/- The two digits of a byte. -/
def hexByte (c : UInt8) : List Char :=
  [Nat.digitChar (c.toNat / 16), Nat.digitChar (c.toNat % 16)]

/- What `append_json_string` writes for a byte. -/
def escape (c : UInt8) : List Char :=
  if c.toNat = '"'.toNat ∨ c.toNat = '\\'.toNat then
    ['\\', Char.ofNat c.toNat]
  else if c.toNat = '\n'.toNat then
    "\\n".toList
  else if c.toNat = '\r'.toNat then
    "\\r".toList
  else if c.toNat = '\t'.toNat then
    "\\t".toList
  else if 0x20 ≤ c.toNat ∧ c.toNat < 0x7f then
    [Char.ofNat c.toNat]
  else
    "\\u00".toList ++ hexByte c

/- The loop of `append_json_string`. -/
def appendBytes : List Char → List UInt8 → List Char
| buffer, [] => buffer
| buffer, c :: rest =>
    if buffer.length < traceLineSize - 8 then
      appendBytes (appendFmt buffer (escape c)) rest
    else
      buffer

/- No string is the empty one. -/
def appendJsonString
    (buffer : List Char)
    (s : Option (List UInt8)) : List Char :=
  let opened := appendFmt buffer ['"']
  appendFmt (appendBytes opened (s.getD [])) ['"']

/- `trace_write_line`: the line ends with a line feed. -/
def traceWriteLine (buffer : List Char) : List Char :=
  let line :=
    if buffer = [] ∨ buffer.getLast? ≠ some '\n' then
      if buffer.length < traceLineSize - 1 then
        buffer ++ ['\n']
      else
        buffer.set (traceLineSize - 2) '\n'
    else
      buffer
  line.take traceLineSize

/- A call that appends to the buffer. -/
inductive Append
| fmt (text : List Char)
| json (s : Option (List UInt8))

/- One append to the buffer. -/
def Append.run (buffer : List Char) : Append → List Char
| .fmt text => appendFmt buffer text
| .json s => appendJsonString buffer s

/- The appends of an event, in order. -/
def perform
    (buffer : List Char)
    (appends : List Append) : List Char :=
  appends.foldl Append.run buffer

------------------------------------------------------------
-- The Events
------------------------------------------------------------

/- A terminated text in a buffer of a size. -/
abbrev CString (size : Nat) : Type :=
  { bytes : List UInt8 // bytes.length < size }

/- `Dl_info`, as far as it is read. -/
structure DlInfo where
  fname : Option (List UInt8)
  fbase : UInt64
  sname : Option (List UInt8)

/- An address and what `dladdr` says of it. -/
structure Address where
  value : UInt64
  info : Option DlInfo

/- A module, the offset in it, and a symbol. -/
structure Place where
  fname : List UInt8
  offset : UInt64
  sname : List UInt8

/- Only an address with a module has a place. -/
def Address.place (addr : Address) : Option Place :=
  match addr.info with
  | some { fname := some fname, fbase := fbase, sname := sname } =>
      some ⟨fname, addr.value - fbase, sname.getD []⟩
  | _ => none

/- The formats `%PRIu64`, `%ld` and `%d`. -/
def decimal (z : Int) : List Char :=
  (toString z).toList

/- The format `0x%PRIxPTR`. -/
def pointer (value : UInt64) : List Char :=
  "0x".toList ++ Nat.toDigits 16 value.toNat

/- `append_address_info`. -/
def appendAddressInfo
    (stem : String)
    (addr : Address) : List Append :=
  [.fmt
    ("\"".toList ++ stem.toList ++ "_address\":\"".toList ++
      pointer addr.value ++ "\"".toList)] ++
    match addr.place with
    | none => []
    | some place =>
        [.fmt (",\"".toList ++ stem.toList ++ "_module\":".toList),
          .json (some place.fname),
          .fmt
            (",\"".toList ++ stem.toList ++
              "_module_offset\":\"".toList ++
              pointer place.offset ++ "\"".toList),
          .fmt (",\"".toList ++ stem.toList ++ "_symbol\":".toList),
          .json (some place.sname)]

/- A frame of `append_stack`. -/
def appendFrame (frame : Address) : List Append :=
  [.fmt
    ("\x7b\"address\":\"".toList ++ pointer frame.value ++
      "\"".toList)] ++
    (match frame.place with
    | none => []
    | some place =>
        [.fmt ",\"module\":".toList,
          .json (some place.fname),
          .fmt
            (",\"module_offset\":\"".toList ++
              pointer place.offset ++ "\"".toList),
          .fmt ",\"symbol\":".toList,
          .json (some place.sname)]) ++
    [.fmt "\x7d".toList]

/- `append_stack`. -/
def appendStack (frames : List Address) : List Append :=
  [.fmt "\"stack\":[".toList] ++
    frames.zipIdx.flatMap (fun entry =>
      (if entry.2 ≠ 0 then [.fmt ",".toList] else []) ++
        appendFrame entry.1) ++
    [.fmt "]".toList]

/- What `pthread_create` writes of a call. -/
structure PthreadCreate where
  timestampNs : UInt64
  returnTimestampNs : UInt64
  callerTid : Int32
  pthreadValue : UInt64
  entry : Address
  arg : UInt64
  result : Int32
  frames : List Address
  frames_length : frames.length ≤ traceMaxStack

/- What a thread writes when it starts. -/
structure ThreadStart where
  startNs : UInt64
  tid : Int32
  parentTid : Int32
  pthreadValue : UInt64
  startRoutine : Address
  arg : UInt64
  createTimestampNs : UInt64
  creationSequence : UInt64
  signature : CString 1024
  name : CString 64

/- The clock is read again for the lifetime. -/
structure ThreadExit where
  timestampNs : UInt64
  tid : Int32
  parentTid : Int32
  pthreadValue : UInt64
  entry : Address
  retval : UInt64
  startNs : UInt64
  nowNs : UInt64
  exitKind : List UInt8
  name : CString 64

/- What `pthread_setname_np` writes of a call. -/
structure ThreadName where
  timestampNs : UInt64
  callerTid : Int32
  pthreadValue : UInt64
  result : Int32
  name : List UInt8

/- The events of a traced thread. -/
inductive Event
| pthreadCreate (event : PthreadCreate)
| threadStart (event : ThreadStart)
| threadExit (event : ThreadExit)
| threadName (event : ThreadName)

/- `trace_emit_pthread_create`. -/
def PthreadCreate.appends (event : PthreadCreate) : List Append :=
  [.fmt
    ("\x7b\"event\":\"pthread_create\",\"timestamp_ns\":".toList ++
      decimal event.timestampNs.toNat ++
      ",\"return_timestamp_ns\":".toList ++
      decimal event.returnTimestampNs.toNat ++
      ",\"caller_tid\":".toList ++
      decimal event.callerTid.toInt ++
      ",\"pthread_value\":\"".toList ++
      pointer event.pthreadValue ++ "\"".toList),
    .fmt ",".toList] ++
    appendAddressInfo "entry" event.entry ++
    [.fmt
      (",\"arg_address\":\"".toList ++ pointer event.arg ++
        "\",\"result\":".toList ++ decimal event.result.toInt ++
        ",\"success\":".toList ++
        (if event.result = 0 then "true" else "false").toList ++
        ",".toList)] ++
    appendStack event.frames ++
    [.fmt "\x7d".toList]

/- `trace_emit_thread_start`. -/
def ThreadStart.appends (event : ThreadStart) : List Append :=
  [.fmt
    ("\x7b\"event\":\"thread_start\",\"timestamp_ns\":".toList ++
      decimal event.startNs.toNat ++
      ",\"tid\":".toList ++ decimal event.tid.toInt ++
      ",\"parent_tid\":".toList ++
      decimal event.parentTid.toInt ++
      ",\"pthread_value\":\"".toList ++
      pointer event.pthreadValue ++ "\",".toList)] ++
    appendAddressInfo "entry" event.startRoutine ++
    [.fmt
      (",\"arg_address\":\"".toList ++ pointer event.arg ++
        "\",\"create_timestamp_ns\":".toList ++
        decimal event.createTimestampNs.toNat ++
        ",\"creation_sequence\":".toList ++
        decimal event.creationSequence.toNat ++
        ",\"signature\":".toList),
      .json (some event.signature.val),
      .fmt ",\"name\":".toList,
      .json (some event.name.val),
      .fmt "\x7d".toList]

/- A thread that was not started by the tracer has no lifetime. -/
def ThreadExit.lifetimeNs (event : ThreadExit) : UInt64 :=
  if event.startNs = 0 then 0 else event.nowNs - event.startNs

/- `trace_emit_thread_exit`. -/
def ThreadExit.appends (event : ThreadExit) : List Append :=
  [.fmt
    ("\x7b\"event\":\"thread_exit\",\"timestamp_ns\":".toList ++
      decimal event.timestampNs.toNat ++
      ",\"tid\":".toList ++ decimal event.tid.toInt ++
      ",\"parent_tid\":".toList ++
      decimal event.parentTid.toInt ++
      ",\"pthread_value\":\"".toList ++
      pointer event.pthreadValue ++ "\"".toList),
    .fmt ",".toList] ++
    appendAddressInfo "entry" event.entry ++
    [.fmt
      (",\"retval\":\"".toList ++ pointer event.retval ++
        "\",\"lifetime_ns\":".toList ++
        decimal event.lifetimeNs.toNat ++
        ",\"exit_kind\":".toList),
      .json (some event.exitKind),
      .fmt ",\"name\":".toList,
      .json (some event.name.val),
      .fmt "\x7d".toList]

/- The line of `pthread_setname_np`. -/
def ThreadName.appends (event : ThreadName) : List Append :=
  [.fmt
    ("\x7b\"event\":\"thread_name\",\"timestamp_ns\":".toList ++
      decimal event.timestampNs.toNat ++
      ",\"caller_tid\":".toList ++
      decimal event.callerTid.toInt ++
      ",\"pthread_value\":\"".toList ++
      pointer event.pthreadValue ++
      "\",\"result\":".toList ++ decimal event.result.toInt ++
      ",\"name\":".toList),
    .json (some event.name),
    .fmt "\x7d".toList]

/- The appends of any event. -/
def Event.appends : Event → List Append
| .pthreadCreate event => event.appends
| .threadStart event => event.appends
| .threadExit event => event.appends
| .threadName event => event.appends

/- What the emitter of an event writes to the file. -/
def Event.emit (event : Event) : List Char :=
  traceWriteLine (perform [] event.appends)

------------------------------------------------------------
-- The Text Without An End
------------------------------------------------------------

/- The bytes of a string that starts at a position. -/
def bytesText : Nat → List UInt8 → List Char
| _, [] => []
| position, c :: rest =>
    if position < traceLineSize - 8 then
      escape c ++ bytesText (position + (escape c).length) rest
    else
      []

/- What an append adds where nothing is cut. -/
def Append.text (position : Nat) : Append → List Char
| .fmt text => text
| .json s => Json.quoted (bytesText (position + 1) (s.getD []))

/- The appends from a position on, uncut. -/
def textFrom : Nat → List Append → List Char
| _, [] => []
| position, append :: rest =>
    append.text position ++
      textFrom (position + (append.text position).length) rest

/- The line of an event, uncut. -/
def Event.text (event : Event) : List Char :=
  textFrom 0 event.appends

/- The characters that stand for a byte. -/
def escapeWidth (c : UInt8) : Nat :=
  if c.toNat = 34 ∨ c.toNat = 92 ∨ c.toNat = 10 ∨
      c.toNat = 13 ∨ c.toNat = 9 then
    2
  else if 32 ≤ c.toNat ∧ c.toNat < 127 then
    1
  else
    6

/- Where a string ends whose bytes start at a position. -/
def bytesEnd : Nat → List UInt8 → Nat
| position, [] => position
| position, c :: rest =>
    if position < traceLineSize - 8 then
      bytesEnd (position + escapeWidth c) rest
    else
      position

/- Where a line ends that goes on at a position. -/
def lineEnd : Nat → List Append → Nat
| position, [] => position
| position, .fmt text :: rest =>
    lineEnd (position + text.length) rest
| position, .json s :: rest =>
    lineEnd (bytesEnd (position + 1) (s.getD []) + 1) rest

/- The room that the line of an event takes. -/
def Event.width (event : Event) : Nat :=
  lineEnd 0 event.appends

theorem length_escape
    (c : UInt8) :
    (escape c).length = escapeWidth c := by
  unfold escape escapeWidth
  simp only [show '"'.toNat = 34 from rfl,
    show '\\'.toNat = 92 from rfl,
    show '\n'.toNat = 10 from rfl,
    show '\r'.toNat = 13 from rfl,
    show '\t'.toNat = 9 from rfl]
  by_cases hQuoted : c.toNat = 34 ∨ c.toNat = 92
  · rw [if_pos hQuoted, if_pos (by omega)]
    rfl
  by_cases hNewline : c.toNat = 10
  · rw [if_neg hQuoted, if_pos hNewline, if_pos (by omega)]
    rfl
  by_cases hReturn : c.toNat = 13
  · rw [if_neg hQuoted, if_neg hNewline, if_pos hReturn,
      if_pos (by omega)]
    rfl
  by_cases hTab : c.toNat = 9
  · rw [if_neg hQuoted, if_neg hNewline, if_neg hReturn,
      if_pos hTab, if_pos (by omega)]
    rfl
  have hPlain :
      ¬ (c.toNat = 34 ∨ c.toNat = 92 ∨ c.toNat = 10 ∨
        c.toNat = 13 ∨ c.toNat = 9) := by
    omega
  rw [if_neg hQuoted, if_neg hNewline, if_neg hReturn,
    if_neg hTab, if_neg hPlain]
  split
  · rfl
  · rfl

theorem bytesEnd_eq
    (position : Nat)
    (bytes : List UInt8) :
    bytesEnd position bytes =
      position + (bytesText position bytes).length := by
  induction bytes generalizing position with
  | nil => rfl
  | cons c rest ih =>
      rw [bytesEnd, bytesText]
      split
      · rw [ih, length_escape, List.length_append,
          length_escape]
        omega
      · rfl

theorem lineEnd_eq
    (position : Nat)
    (appends : List Append) :
    lineEnd position appends =
      position + (textFrom position appends).length := by
  induction appends generalizing position with
  | nil => rfl
  | cons append rest ih =>
      cases append with
      | fmt text =>
          rw [lineEnd, ih]
          simp only [textFrom, Append.text, List.length_append]
          omega
      | json s =>
          rw [lineEnd, ih, bytesEnd_eq]
          simp only [textFrom, Append.text, Json.quoted,
            List.length_append, List.length_cons,
            List.length_nil]
          have hPlace :
              position + 1 +
                  (bytesText (position + 1) (s.getD [])).length +
                  1 =
                position +
                  ((bytesText (position + 1)
                    (s.getD [])).length + (0 + 1) + 1) := by
            omega
          rw [hPlace]
          omega

theorem Event.width_eq
    (event : Event) :
    event.width = event.text.length := by
  rw [Event.width, lineEnd_eq, Nat.zero_add]
  rfl

/- A full buffer holds the front of the text. -/
theorem appendWithin_take
    {X : Type}
    {size : Nat}
    (hSize : 0 < size)
    (content text : List X) :
    appendWithin size (content.take (size - 1)) text =
      (content ++ text).take (size - 1) := by
  unfold appendWithin
  rw [List.length_take]
  split
  · omega
  split
  next hRoom hFull =>
    rw [List.take_append, List.take_append, List.take_take,
      List.length_take]
    congr 2
    · omega
    · omega
  next hRoom hFits =>
    have hText :
        text.length ≤ size - 1 - content.length := by
      omega
    rw [List.take_append, List.take_of_length_le hText]

theorem appendFmt_take
    (content text : List Char) :
    appendFmt (content.take (traceLineSize - 1)) text =
      (content ++ text).take (traceLineSize - 1) := by
  have hSize : 0 < traceLineSize := by decide
  exact appendWithin_take hSize content text

theorem appendBytes_take
    (content : List Char)
    (bytes : List UInt8) :
    appendBytes (content.take (traceLineSize - 1)) bytes =
      (content ++ bytesText content.length bytes).take
        (traceLineSize - 1) := by
  induction bytes generalizing content with
  | nil =>
      rw [appendBytes, bytesText, List.append_nil]
  | cons c rest ih =>
      have hRoom :
          (content.take (traceLineSize - 1)).length <
              traceLineSize - 8 ↔
            content.length < traceLineSize - 8 := by
        rw [List.length_take]
        simp only [traceLineSize]
        omega
      rw [appendBytes, bytesText]
      by_cases hFits : content.length < traceLineSize - 8
      · rw [if_pos (hRoom.mpr hFits), if_pos hFits,
          appendFmt_take, ih, List.append_assoc,
          List.length_append]
      · rw [if_neg (fun hIs => hFits (hRoom.mp hIs)),
          if_neg hFits, List.append_nil]

theorem run_take
    (content : List Char)
    (append : Append) :
    append.run (content.take (traceLineSize - 1)) =
      (content ++ append.text content.length).take
        (traceLineSize - 1) := by
  cases append with
  | fmt text => exact appendFmt_take content text
  | json s =>
      simp only [Append.run, appendJsonString, Append.text]
      rw [appendFmt_take, appendBytes_take, appendFmt_take]
      simp [Json.quoted]

theorem perform_take
    (content : List Char)
    (appends : List Append) :
    perform (content.take (traceLineSize - 1)) appends =
      (content ++ textFrom content.length appends).take
        (traceLineSize - 1) := by
  induction appends generalizing content with
  | nil => simp [perform, textFrom]
  | cons append rest ih =>
      have hStep := ih (content ++ append.text content.length)
      unfold perform at hStep ⊢
      rw [List.foldl_cons, run_take, hStep, List.length_append,
        List.append_assoc]
      rfl

------------------------------------------------------------
-- Strings
------------------------------------------------------------

section

open Json (Spells Denotes DenotesMember DenotesMembers
  DenotesElements codesOf)

theorem hexCode?_hexByte
    (c : UInt8) :
    Json.hexCode? '0' '0' (Nat.digitChar (c.toNat / 16))
        (Nat.digitChar (c.toNat % 16)) =
      some c.toNat := by
  have hAll :
      ∀ n < 256,
        Json.hexCode? '0' '0' (Nat.digitChar (n / 16))
            (Nat.digitChar (n % 16)) =
          some n := by
    decide +kernel
  exact hAll c.toNat c.toNat_lt

theorem isPlain_ofNat
    {n : Nat}
    (hLow : 0x20 ≤ n)
    (hHigh : n < 0x7f)
    (hQuoted : ¬ (n = '"'.toNat ∨ n = '\\'.toNat)) :
    Json.isPlain (Char.ofNat n) = true ∧
      (Char.ofNat n).toNat = n := by
  have hAll :
      ∀ n < 0x7f, 0x20 ≤ n →
        ¬ (n = '"'.toNat ∨ n = '\\'.toNat) →
          Json.isPlain (Char.ofNat n) = true ∧
            (Char.ofNat n).toNat = n := by
    decide +kernel
  exact hAll n hHigh hLow hQuoted

/- Every byte is read back as its own code. -/
theorem spells_escape
    (c : UInt8)
    {body : List Char}
    {codes : List Nat}
    (hBody : Spells body codes) :
    Spells (escape c ++ body) (c.toNat :: codes) := by
  unfold escape
  split
  next hQuoted =>
    rcases hQuoted with hIs | hIs
    · rw [hIs]
      exact hBody.simple rfl
    · rw [hIs]
      exact hBody.simple rfl
  next hQuoted =>
    split
    next hIs =>
      rw [hIs]
      exact hBody.simple rfl
    split
    next hIs =>
      rw [hIs]
      exact hBody.simple rfl
    split
    next hIs =>
      rw [hIs]
      exact hBody.simple rfl
    split
    next hRange =>
      rcases isPlain_ofNat hRange.1 hRange.2 hQuoted with
        ⟨hPlain, hCode⟩
      have hSpells := hBody.plain hPlain
      rw [hCode] at hSpells
      exact hSpells
    · exact hBody.unicode (hexCode?_hexByte c)

/- What fits of a string is a front of it. -/
theorem spells_bytesText
    (position : Nat)
    (bytes : List UInt8) :
    ∃ read,
      read <+: bytes ∧
        Spells (bytesText position bytes)
          (read.map UInt8.toNat) := by
  induction bytes generalizing position with
  | nil => exact ⟨[], List.prefix_rfl, Json.spells_nil⟩
  | cons c rest ih =>
      rw [bytesText]
      split
      · rcases ih (position + (escape c).length) with
          ⟨read, hPrefix, hSpells⟩
        exact ⟨c :: read,
          (List.prefix_cons_inj c).mpr hPrefix,
          spells_escape c hSpells⟩
      · exact ⟨[], List.nil_prefix, Json.spells_nil⟩

/- A string of bytes. -/
theorem denotes_codes
    {body : List Char}
    {bytes : List UInt8}
    (hBody : Spells body (bytes.map UInt8.toNat)) :
    Denotes (Json.quoted body)
      (.str (bytes.map UInt8.toNat)) := by
  apply Json.denotes_string hBody
  intro code hCode
  rcases List.mem_map.mp hCode with ⟨c, -, hIs⟩
  have hByte := c.toNat_lt
  omega

theorem denotes_json
    (position : Nat)
    (s : Option (List UInt8)) :
    ∃ codes,
      Denotes ((Append.json s).text position) (.str codes) := by
  rcases spells_bytesText (position + 1) (s.getD []) with
    ⟨read, -, hSpells⟩
  exact ⟨_, denotes_codes hSpells⟩

/- The characters that a line is written with. -/
def isVisible (c : Char) : Bool :=
  ' ' ≤ c && c ≤ '~'

theorem isVisible_escape
    (c : UInt8) :
    ∀ d ∈ escape c, isVisible d = true := by
  have hAll :
      ∀ n : Fin 256,
        (escape (UInt8.ofFin n)).all isVisible = true := by
    decide +kernel
  exact List.all_eq_true.mp (hAll c.toFin)

theorem isVisible_bytesText
    (position : Nat)
    (bytes : List UInt8) :
    ∀ d ∈ bytesText position bytes, isVisible d = true := by
  induction bytes generalizing position with
  | nil => simp [bytesText]
  | cons c rest ih =>
      rw [bytesText]
      split
      · rw [List.forall_mem_append]
        exact ⟨isVisible_escape c, ih _⟩
      · simp

theorem mem_toDigits
    {b n : Nat}
    (hBase : 1 < b)
    {c : Char}
    (hC : c ∈ Nat.toDigits b n) :
    ∃ digit < b, c = Nat.digitChar digit := by
  induction n using Nat.strongRecOn with
  | ind n ih =>
      by_cases hSmall : n < b
      · rw [Nat.toDigits_of_lt_base hSmall,
          List.mem_singleton] at hC
        exact ⟨n, hSmall, hC⟩
      · rw [Nat.toDigits_of_base_le hBase (by omega),
          List.mem_append, List.mem_singleton] at hC
        rcases hC with hFront | hLast
        · exact ih (n / b)
            (Nat.div_lt_self (by omega) hBase) hFront
        · exact ⟨n % b, Nat.mod_lt n (by omega), hLast⟩

theorem isPlain_pointer
    (value : UInt64) :
    ∀ c ∈ pointer value,
      Json.isPlain c = true ∧ isVisible c = true := by
  have hDigits :
      ∀ digit < 16,
        Json.isPlain (Nat.digitChar digit) = true ∧
          isVisible (Nat.digitChar digit) = true := by
    decide
  rw [pointer, List.forall_mem_append]
  constructor
  · rw [show "0x".toList = ['0', 'x'] from rfl,
      List.forall_mem_cons, List.forall_mem_singleton]
    exact ⟨⟨rfl, rfl⟩, rfl, rfl⟩
  · intro c hC
    rcases mem_toDigits (by decide) hC with
      ⟨digit, hDigit, hIs⟩
    rw [hIs]
    exact hDigits digit hDigit

theorem toNat_le_of_isVisible
    {c : Char}
    (hVisible : isVisible c = true) :
    c.toNat ≤ 126 := by
  simp only [isVisible, Bool.and_eq_true, decide_eq_true_eq]
    at hVisible
  exact hVisible.2

theorem toNat_lt_of_isVisible
    {c : Char}
    (hVisible : isVisible c = true) :
    c.toNat < 0xd800 := by
  have hHigh := toNat_le_of_isVisible hVisible
  omega

theorem denotes_pointer
    (value : UInt64) :
    Denotes (Json.quoted (pointer value))
      (.str (codesOf (pointer value))) :=
  Json.denotes_plain
    (fun c hC => (isPlain_pointer value c hC).1)
    (fun c hC =>
      toNat_lt_of_isVisible (isPlain_pointer value c hC).2)

theorem isVisible_decimal
    (z : Int) :
    ∀ c ∈ decimal z, isVisible c = true := by
  have hDigits :
      ∀ digit < 10,
        isVisible (Nat.digitChar digit) = true := by
    decide
  have hNat :
      ∀ n, ∀ c ∈ Nat.toDigits 10 n, isVisible c = true := by
    intro n c hC
    rcases mem_toDigits (by decide) hC with
      ⟨digit, hDigit, hIs⟩
    rw [hIs]
    exact hDigits digit hDigit
  cases z with
  | ofNat n =>
      have hText :
          decimal (Int.ofNat n) = Nat.toDigits 10 n :=
        Nat.toList_repr
      rw [hText]
      exact hNat n
  | negSucc n =>
      rw [decimal, toList_toString_negSucc,
        List.singleton_append, List.forall_mem_cons]
      exact ⟨rfl, hNat (n + 1)⟩

end

------------------------------------------------------------
-- What Is Written
------------------------------------------------------------

/- The formats have no control characters. -/
def Append.Visible : Append → Prop
| .fmt text => text.all isVisible = true
| .json _ => True

theorem all_decimal
    (z : Int) :
    (decimal z).all isVisible = true :=
  List.all_eq_true.mpr (isVisible_decimal z)

theorem all_pointer
    (value : UInt64) :
    (pointer value).all isVisible = true :=
  List.all_eq_true.mpr
    (fun c hC => (isPlain_pointer value c hC).2)

theorem visible_appendAddressInfo
    (addr : Address) :
    ∀ append ∈ appendAddressInfo "entry" addr,
      append.Visible := by
  unfold appendAddressInfo
  rw [List.forall_mem_append]
  constructor
  · simp only [List.forall_mem_singleton, Append.Visible,
      List.all_append, all_pointer]
    rfl
  · cases addr.place with
    | none => simp
    | some place =>
        simp only [List.forall_mem_cons, Append.Visible,
          List.all_append, all_pointer]
        exact ⟨rfl, trivial, rfl, rfl, trivial, by simp⟩

theorem visible_appendFrame
    (frame : Address) :
    ∀ append ∈ appendFrame frame, append.Visible := by
  unfold appendFrame
  rw [List.forall_mem_append, List.forall_mem_append]
  refine ⟨⟨?_, ?_⟩, ?_⟩
  · simp only [List.forall_mem_singleton, Append.Visible,
      List.all_append, all_pointer]
    rfl
  · cases frame.place with
    | none => simp
    | some place =>
        simp only [List.forall_mem_cons, Append.Visible,
          List.all_append, all_pointer]
        exact ⟨rfl, trivial, rfl, rfl, trivial, by simp⟩
  · rw [List.forall_mem_singleton]
    rfl

theorem visible_appendStack
    (frames : List Address) :
    ∀ append ∈ appendStack frames, append.Visible := by
  unfold appendStack
  rw [List.forall_mem_append, List.forall_mem_append]
  refine ⟨⟨?_, ?_⟩, ?_⟩
  · rw [List.forall_mem_singleton]
    rfl
  · intro append hAppend
    rcases List.mem_flatMap.mp hAppend with ⟨entry, -, hIn⟩
    rcases List.mem_append.mp hIn with hComma | hFrame
    · split at hComma
      · rw [List.mem_singleton.mp hComma]
        rfl
      · cases hComma
    · exact visible_appendFrame entry.1 append hFrame
  · rw [List.forall_mem_singleton]
    rfl

theorem Event.visible_appends
    (event : Event) :
    ∀ append ∈ event.appends, append.Visible := by
  cases event with
  | pthreadCreate event =>
      unfold Event.appends PthreadCreate.appends
      simp only [List.forall_mem_append, List.forall_mem_cons]
      refine ⟨⟨⟨⟨⟨?_, rfl, by simp⟩,
        visible_appendAddressInfo event.entry⟩, ⟨?_, by simp⟩⟩,
        visible_appendStack event.frames⟩, rfl, by simp⟩
      · simp only [Append.Visible, List.all_append, all_pointer,
          all_decimal]
        rfl
      · simp only [Append.Visible, List.all_append, all_pointer,
          all_decimal]
        split
        · rfl
        · rfl
  | threadStart event =>
      unfold Event.appends ThreadStart.appends
      simp only [List.forall_mem_append, List.forall_mem_cons]
      refine ⟨⟨⟨?_, by simp⟩,
        visible_appendAddressInfo event.startRoutine⟩,
        ?_, trivial, rfl, trivial, rfl, by simp⟩
      · simp only [Append.Visible, List.all_append, all_pointer,
          all_decimal]
        rfl
      · simp only [Append.Visible, List.all_append, all_pointer,
          all_decimal]
        rfl
  | threadExit event =>
      unfold Event.appends ThreadExit.appends
      simp only [List.forall_mem_append, List.forall_mem_cons]
      refine ⟨⟨⟨?_, rfl, by simp⟩,
        visible_appendAddressInfo event.entry⟩,
        ?_, trivial, rfl, trivial, rfl, by simp⟩
      · simp only [Append.Visible, List.all_append, all_pointer,
          all_decimal]
        rfl
      · simp only [Append.Visible, List.all_append, all_pointer,
          all_decimal]
        rfl
  | threadName event =>
      unfold Event.appends ThreadName.appends
      simp only [List.forall_mem_cons]
      refine ⟨?_, trivial, rfl, by simp⟩
      simp only [Append.Visible, List.all_append, all_pointer,
        all_decimal]
      rfl

theorem isVisible_textFrom
    (position : Nat)
    {appends : List Append}
    (hVisible : ∀ append ∈ appends, append.Visible) :
    ∀ c ∈ textFrom position appends, isVisible c = true := by
  induction appends generalizing position with
  | nil => simp [textFrom]
  | cons append rest ih =>
      rw [List.forall_mem_cons] at hVisible
      rw [textFrom, List.forall_mem_append]
      refine ⟨?_, ih _ hVisible.2⟩
      cases append with
      | fmt text => exact List.all_eq_true.mp hVisible.1
      | json s =>
          simp only [Append.text, Json.quoted,
            List.forall_mem_cons, List.forall_mem_append]
          exact ⟨rfl, isVisible_bytesText _ _, rfl, by simp⟩

theorem Event.isVisible_text
    (event : Event) :
    ∀ c ∈ event.text, isVisible c = true :=
  isVisible_textFrom 0 event.visible_appends

theorem traceWriteLine_take
    {text : List Char}
    (hVisible : ∀ c ∈ text, isVisible c = true) :
    traceWriteLine (text.take (traceLineSize - 1)) =
      text.take (traceLineSize - 2) ++ ['\n'] := by
  have hLast :
      text.take (traceLineSize - 1) = [] ∨
        (text.take (traceLineSize - 1)).getLast? ≠
          some '\n' := by
    right
    intro hNewline
    have hMember :=
      List.mem_of_mem_take (List.mem_of_getLast? hNewline)
    exact absurd (hVisible '\n' hMember) (by decide)
  unfold traceWriteLine
  simp only [if_pos hLast]
  rw [List.length_take]
  by_cases hFits : text.length < traceLineSize - 1
  · have hShort : text.length ≤ traceLineSize - 2 := by
      simp only [traceLineSize] at *
      omega
    have hShort' : text.length ≤ traceLineSize - 1 :=
      hFits.le
    rw [if_pos (by omega), List.take_of_length_le hShort,
      List.take_of_length_le hShort', List.take_of_length_le]
    simp only [List.length_append, List.length_singleton,
      traceLineSize] at *
    omega
  · have hLong : traceLineSize - 2 < text.length := by
      simp only [traceLineSize] at *
      omega
    have hLine :
        text.take (traceLineSize - 1) =
          text.take (traceLineSize - 2) ++
            [text.get ⟨traceLineSize - 2, hLong⟩] :=
      List.take_succ_eq_append_getElem hLong
    rw [if_neg (by omega), hLine, List.set_append_right,
      List.length_take, Nat.min_eq_left hLong.le,
      Nat.sub_self]
    · apply List.take_of_length_le
      simp only [List.length_append, List.length_take,
        List.length_set, List.length_singleton, traceLineSize]
      omega
    · rw [List.length_take]
      omega

/- The front of the text, and a newline. -/
theorem emit_eq
    (event : Event) :
    event.emit =
      event.text.take (traceLineSize - 2) ++ ['\n'] := by
  have hBuffer :
      perform [] event.appends =
        event.text.take (traceLineSize - 1) :=
    perform_take [] event.appends
  rw [Event.emit, hBuffer,
    traceWriteLine_take event.isVisible_text]

end Emit

end RsCamera
