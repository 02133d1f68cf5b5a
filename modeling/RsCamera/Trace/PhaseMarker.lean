import RsCamera.Trace.EventText
import RsCamera.Trace.LineBuffer

/-
  The phase markers that a probe writes into the trace of the
  threads (`rs_trace_append_json_string` and
  `rs_trace_phase_marker` in `trace_marker.h`).

  The name is escaped into a small array, and the line with
  it is printed into another one.  Both are memory as in
  `Trace.LineBuffer`.  The escapes are not those of the
  tracer: a line end has no short form here.

  Key definitions include:
    * `appendBytes`, `rsTraceAppendJsonString`
    * `rsTracePhaseMarker`
    * `escape`, `Literal`, `MarkerLine`

  Key theorems include:
    * `appendBytes_escaping`
    * `rsTraceAppendJsonString_literal`
    * `phaseMarker_written`
-/

------------------------------------------------------------
-- The Functions
------------------------------------------------------------

namespace RsCamera

namespace PhaseMarker

section

open Emit (Line hexByte decimal)

/- `dst[out++] = c`. -/
def put (line : Line) (c : Char) : Line :=
  (line.store line.cursor [c]).moveTo (line.cursor + 1)

/- The format `\\u%04x`. -/
def unicodeText (c : UInt8) : List Char :=
  "\\u00".toList ++ hexByte c

/-
  The loop. The name is the bytes from `src` on, up to a zero
  byte. The failures are those of `snprintf`, which end it.
-/
def appendBytes
    (failures : Nat → Option (List Char))
    (dstSize : Nat) :
    Line → List UInt8 → Line
| dst, [] => dst
| dst, c :: rest =>
    if c ≠ 0 ∧ dst.cursor + 7 < dstSize then
      if c.toNat = '"'.toNat ∨ c.toNat = '\\'.toNat then
        appendBytes failures dstSize
          (put (put dst '\\') (Char.ofNat c.toNat)) rest
      else if 0x20 ≤ c.toNat ∧ c.toNat < 0x7f then
        appendBytes failures dstSize
          (put dst (Char.ofNat c.toNat)) rest
      else
        let printed :=
          Line.vsnprintf (failures dst.cursors.length) dst
            (dstSize - dst.cursor) (unicodeText c)
        if printed.1 < 0 then
          printed.2
        else
          appendBytes failures dstSize
            (printed.2.moveTo (dst.cursor + printed.1.toNat))
            rest
    else
      dst

def rsTraceAppendJsonString
    (failures : Nat → Option (List Char))
    (dst : Line)
    (dstSize : Nat)
    (src : List UInt8) : Line :=
  if dstSize = 0 then
    dst
  else
    let filled := appendBytes failures dstSize (put dst '"') src
    let closed :=
      if filled.cursor < dstSize then put filled '"' else filled
    let last :=
      if dstSize ≤ closed.cursor then
        closed.moveTo (dstSize - 1)
      else
        closed
    last.store last.cursor ['\x00']

/- What `%s` prints of an array: up to a zero byte. -/
def cString (size : Nat) (bytes : Nat → Char) : List Char :=
  ((List.range size).map bytes).takeWhile (fun c => c ≠ '\x00')

def escapedSize : Nat :=
  256

def lineSize : Nat :=
  512

def markerText
    (timestampNs : UInt64)
    (tid : Int64)
    (escaped : List Char) : List Char :=
  "\x7b\"event\":\"phase_marker\",\"timestamp_ns\":".toList ++
    decimal timestampNs.toNat ++ ",\"tid\":".toList ++
    decimal tid.toInt ++ ",\"name\":".toList ++ escaped ++
    "\x7d\n".toList

/- The two arrays, and what is handed to `write`. -/
structure Marker where
  escaped : Line
  line : Line
  written : Option (List Char)

/-
  The arrays may hold anything before. The descriptor is
  negative if the file could not be opened.
-/
def rsTracePhaseMarker
    (failures : Nat → Option (List Char))
    (failure : Option (List Char))
    (fd : Int)
    (timestampNs : UInt64)
    (tid : Int64)
    (escaped line : Nat → Char)
    (name : Option (List UInt8)) : Marker :=
  if fd < 0 then
    ⟨Line.start escaped, Line.start line, none⟩
  else
    let escaped :=
      rsTraceAppendJsonString failures (Line.start escaped)
        escapedSize (name.getD [])
    let printed :=
      Line.vsnprintf failure (Line.start line) lineSize
        (markerText timestampNs tid
          (cString escapedSize escaped.bytes))
    let written :=
      if 0 < printed.1 then
        let length :=
          if printed.1.toNat < lineSize then
            printed.1.toNat
          else
            lineSize - 1
        some ((List.range length).map printed.2.bytes)
      else
        none
    ⟨escaped, printed.2, written⟩

end

------------------------------------------------------------
-- Escapes
------------------------------------------------------------

section

open Emit (hexByte isVisible)
open Json (Spells)

/- The text that a byte is put out as. -/
def escape (c : UInt8) : List Char :=
  if c.toNat = '"'.toNat ∨ c.toNat = '\\'.toNat then
    ['\\', Char.ofNat c.toNat]
  else if 0x20 ≤ c.toNat ∧ c.toNat < 0x7f then
    [Char.ofNat c.toNat]
  else
    unicodeText c

/- The escaped form of a name, without the quotes. -/
def escapeAll (name : List UInt8) : List Char :=
  name.flatMap escape

theorem length_escape
    (c : UInt8) :
    1 ≤ (escape c).length ∧ (escape c).length ≤ 6 := by
  unfold escape
  split
  · simp
  · split
    · simp
    · simp [unicodeText, hexByte]

theorem isVisible_escape
    (c : UInt8) :
    ∀ d ∈ escape c, isVisible d = true := by
  have hAll :
      ∀ n : Fin 256,
        (escape (UInt8.ofFin n)).all isVisible = true := by
    decide +kernel
  exact List.all_eq_true.mp (hAll c.toFin)

theorem isVisible_escapeAll
    (name : List UInt8) :
    ∀ d ∈ escapeAll name, isVisible d = true := by
  intro d hD
  rcases List.mem_flatMap.mp hD with ⟨c, -, hIn⟩
  exact isVisible_escape c d hIn

/- Every byte is read back as its own code. -/
theorem spells_escape
    (c : UInt8)
    {body : List Char}
    {codes : List Nat}
    (hBody : Spells body codes) :
    Spells (escape c ++ body) (c.toNat :: codes) := by
  unfold escape
  split
  next hQuoted =>
    rcases hQuoted with hIs | hIs
    · rw [hIs]
      exact hBody.simple rfl
    · rw [hIs]
      exact hBody.simple rfl
  next hQuoted =>
    split
    next hRange =>
      rcases Emit.isPlain_ofNat hRange.1 hRange.2 hQuoted with
        ⟨hPlain, hCode⟩
      have hSpells := hBody.plain hPlain
      rw [hCode] at hSpells
      exact hSpells
    · exact hBody.unicode (Emit.hexCode?_hexByte c)

theorem spells_escapeAll
    (name : List UInt8) :
    Spells (escapeAll name) (name.map UInt8.toNat) := by
  induction name with
  | nil => exact Json.spells_nil
  | cons c rest ih => exact spells_escape c ih

end

------------------------------------------------------------
-- Putting Out
------------------------------------------------------------

section

open Emit (Line)

/- Text was put at the cursor, and nothing behind the end. -/
structure Puts
    (size : Nat)
    (dst after : Line)
    (added : List Char) : Prop where
  text : after.text = dst.text ++ added
  writes :
    ∃ stored, after.writes = dst.writes ++ stored ∧
      ∀ address ∈ stored, address < size

theorem Puts.cursor
    {size : Nat}
    {dst after : Line}
    {added : List Char}
    (hPuts : Puts size dst after added) :
    after.cursor = dst.cursor + added.length := by
  have hLength := congrArg List.length hPuts.text
  simpa using hLength

theorem Puts.trans
    {size : Nat}
    {dst next after : Line}
    {added more : List Char}
    (hFirst : Puts size dst next added)
    (hSecond : Puts size next after more) :
    Puts size dst after (added ++ more) := by
  rcases hFirst.writes with ⟨stored, hWrites, hStored⟩
  rcases hSecond.writes with ⟨others, hMore, hOthers⟩
  constructor
  · rw [hSecond.text, hFirst.text, List.append_assoc]
  · refine ⟨stored ++ others, ?_, ?_⟩
    · rw [hMore, hWrites, List.append_assoc]
    · rw [List.forall_mem_append]
      exact ⟨hStored, hOthers⟩

/- A store at the cursor that the cursor moves over in part. -/
theorem puts_store
    {size : Nat}
    (dst : Line)
    (text more : List Char)
    (hRoom : dst.cursor + (text ++ more).length ≤ size) :
    Puts size dst
      ((dst.store dst.cursor (text ++ more)).moveTo
        (dst.cursor + text.length)) text := by
  constructor
  · have hOld :
        (List.range dst.cursor).map
            (dst.store dst.cursor (text ++ more)).bytes =
          dst.text := by
      apply List.map_congr_left
      intro i hI
      exact Line.store_outside dst _ (List.mem_range.mp hI)
    have hNew :
        (List.range text.length).map (fun k =>
            (dst.store dst.cursor (text ++ more)).bytes
              (dst.cursor + k)) =
          text := by
      apply List.ext_getElem
      · simp
      · intro k hK hText
        rw [List.getElem_map, List.getElem_range,
          Line.store_inside dst dst.cursor
            (by rw [List.length_append]; omega),
          List.getElem_append_left hText]
    calc
      _ = (List.range (dst.cursor + text.length)).map
            (dst.store dst.cursor (text ++ more)).bytes := rfl
      _ = dst.text ++ text := by
        rw [List.range_add, List.map_append, List.map_map, hOld]
        exact congrArg (dst.text ++ ·) hNew
  · exact ⟨_, rfl, fun address hIn =>
      Line.mem_stored hRoom hIn⟩

theorem puts_nothing
    (size : Nat)
    (dst : Line) :
    Puts size dst dst [] :=
  ⟨by simp, [], by simp⟩

theorem puts_put
    {size : Nat}
    {dst : Line}
    (c : Char)
    (hRoom : dst.cursor < size) :
    Puts size dst (put dst c) [c] :=
  puts_store dst [c] [] (by simp; omega)

/- A call that failed moves nothing. -/
theorem puts_failed
    {size : Nat}
    {dst : Line}
    (part : List Char)
    (hRoom : dst.cursor ≤ size) :
    Puts size dst
      (dst.store dst.cursor (part.take (size - dst.cursor)))
        [] := by
  have hLength :
      dst.cursor + (part.take (size - dst.cursor)).length ≤
        size := by
    rw [List.length_take]
    omega
  rcases puts_store dst [] (part.take (size - dst.cursor))
    hLength with ⟨hText, hWrites⟩
  exact ⟨hText, hWrites⟩

end

------------------------------------------------------------
-- The Escaped Name
------------------------------------------------------------

section

open Emit (Line hexByte)

/- The bytes of a string, up to its zero byte. -/
def cBytes (src : List UInt8) : List UInt8 :=
  src.takeWhile (fun c => c ≠ 0)

/-
  One turn of the loop: the escape of the byte is put out and
  the loop goes on, or the call failed and it ends.
-/
theorem appendBytes_cons
    (failures : Nat → Option (List Char))
    {dstSize : Nat}
    {dst : Line}
    {c : UInt8}
    (rest : List UInt8)
    (hC : c ≠ 0)
    (hRoom : dst.cursor + 7 < dstSize) :
    (∃ next,
        Puts dstSize dst next (escape c) ∧
          appendBytes failures dstSize dst (c :: rest) =
            appendBytes failures dstSize next rest) ∨
      ∃ k part,
        failures k = some part ∧
          Puts dstSize dst
            (appendBytes failures dstSize dst (c :: rest))
            [] := by
  have hTurn : c ≠ 0 ∧ dst.cursor + 7 < dstSize :=
    ⟨hC, hRoom⟩
  rw [appendBytes, if_pos hTurn]
  unfold escape
  by_cases hQuoted :
      c.toNat = '"'.toNat ∨ c.toNat = '\\'.toNat
  · rw [if_pos hQuoted, if_pos hQuoted]
    have hFirst : Puts dstSize dst (put dst '\\') ['\\'] :=
      puts_put '\\' (by omega)
    have hSecond :
        Puts dstSize (put dst '\\')
          (put (put dst '\\') (Char.ofNat c.toNat))
          [Char.ofNat c.toNat] :=
      puts_put _ (by
        rw [hFirst.cursor, List.length_singleton]
        omega)
    exact Or.inl ⟨_, hFirst.trans hSecond, rfl⟩
  rw [if_neg hQuoted, if_neg hQuoted]
  by_cases hPrintable : 0x20 ≤ c.toNat ∧ c.toNat < 0x7f
  · rw [if_pos hPrintable, if_pos hPrintable]
    exact Or.inl ⟨_, puts_put _ (by omega), rfl⟩
  rw [if_neg hPrintable, if_neg hPrintable]
  have hLength : (unicodeText c).length = 6 := by
    simp [unicodeText, hexByte]
  cases hFailure : failures dst.cursors.length with
  | some part =>
      refine Or.inr ⟨_, part, hFailure, ?_⟩
      exact puts_failed part (by omega)
  | none =>
      -- Six characters and a zero byte fit.
      have hPuts :=
        @puts_store dstSize dst (unicodeText c) ['\x00'] (by
          rw [List.length_append, hLength]
          simp only [List.length_singleton]
          omega)
      refine Or.inl ⟨_, hPuts, ?_⟩
      have hWhole :
          (unicodeText c).take (dstSize - dst.cursor - 1) =
            unicodeText c :=
        List.take_of_length_le (by omega)
      have hPositive :
          ¬ ((unicodeText c).length : Int) < 0 := by
        omega
      simp only [Line.vsnprintf, hWhole, if_neg hPositive,
        Int.toNat_natCast]

/-
  The loop puts out a front of the name, and stops in front of
  the last two bytes. It puts out the whole name if that fits
  in front of the seven bytes that it keeps.
-/
theorem appendBytes_escaping
    (failures : Nat → Option (List Char))
    {dstSize : Nat}
    {dst : Line}
    (src : List UInt8)
    (hCursor : dst.cursor + 2 ≤ dstSize) :
    ∃ read,
      read <+: cBytes src ∧
        Puts dstSize dst (appendBytes failures dstSize dst src)
          (escapeAll read) ∧
        dst.cursor + (escapeAll read).length + 2 ≤ dstSize ∧
        ((∀ k, failures k = none) →
          dst.cursor + (escapeAll (cBytes src)).length + 7 ≤
              dstSize →
            read = cBytes src) := by
  induction src generalizing dst with
  | nil =>
      exact ⟨[], List.prefix_rfl, puts_nothing dstSize dst,
        hCursor, fun _ _ => rfl⟩
  | cons c rest ih =>
      by_cases hTurn : c ≠ 0 ∧ dst.cursor + 7 < dstSize
      · have hName : cBytes (c :: rest) = c :: cBytes rest :=
          List.takeWhile_cons_of_pos (decide_eq_true hTurn.1)
        have hEscape := length_escape c
        rw [hName]
        rcases appendBytes_cons failures rest hTurn.1 hTurn.2 with
          ⟨next, hNext, hGoes⟩ | ⟨k, part, hFailure, hEnds⟩
        · have hMoved := hNext.cursor
          rcases @ih next (by omega) with
            ⟨read, hFront, hPuts, hBelow, hWhole⟩
          rw [hGoes]
          refine ⟨c :: read,
            (List.prefix_cons_inj c).mpr hFront,
            hNext.trans hPuts, ?_, ?_⟩
          · rw [escapeAll, List.flatMap_cons,
              List.length_append, ← escapeAll]
            omega
          · intro hNone hFits
            rw [escapeAll, List.flatMap_cons,
              List.length_append, ← escapeAll] at hFits
            rw [hWhole hNone (by omega)]
        · refine ⟨[], List.nil_prefix, hEnds, hCursor, ?_⟩
          intro hNone _
          rw [hNone k] at hFailure
          cases hFailure
      · refine ⟨[], List.nil_prefix, ?_, hCursor, ?_⟩
        · rw [appendBytes, if_neg hTurn]
          exact puts_nothing dstSize dst
        · intro _ hFits
          by_cases hC : c = 0
          · rw [cBytes, List.takeWhile_cons_of_neg (by simp [hC])]
          · -- A byte takes at least one character.
            have hName : cBytes (c :: rest) = c :: cBytes rest :=
              List.takeWhile_cons_of_pos (decide_eq_true hC)
            have hEscape := length_escape c
            rw [hName, escapeAll, List.flatMap_cons,
              List.length_append] at hFits
            exact absurd ⟨hC, by omega⟩ hTurn

end

------------------------------------------------------------
-- The Literal
------------------------------------------------------------

section

open Emit (Line isVisible)

theorem isVisible_quoted
    (name : List UInt8) :
    ∀ c ∈ Json.quoted (escapeAll name), isVisible c = true := by
  rw [Json.quoted, List.forall_mem_cons, List.forall_mem_append,
    List.forall_mem_singleton]
  exact ⟨rfl, isVisible_escapeAll name, rfl⟩

/- No character that is written is a zero byte or a line end. -/
theorem ne_of_isVisible
    {c other : Char}
    (hVisible : isVisible c = true)
    (hOther : isVisible other = false) :
    c ≠ other := by
  intro hIs
  rw [hIs, hOther] at hVisible
  cases hVisible

/- A zero byte at the cursor ends the text in front of it. -/
theorem cString_store
    {size : Nat}
    {dst : Line}
    (hRoom : dst.cursor < size)
    (hText : ∀ c ∈ dst.text, isVisible c = true) :
    cString size (dst.store dst.cursor ['\x00']).bytes =
      dst.text := by
  have hRange :
      List.range size =
        List.range (dst.cursor + (size - dst.cursor - 1 + 1)) := by
    congr 1
    omega
  have hOld :
      (List.range dst.cursor).map
          (dst.store dst.cursor ['\x00']).bytes =
        dst.text := by
    apply List.map_congr_left
    intro i hI
    exact Line.store_outside dst _ (List.mem_range.mp hI)
  have hEnd :
      (dst.store dst.cursor ['\x00']).bytes (dst.cursor + 0) =
        '\x00' :=
    @Line.store_inside dst dst.cursor ['\x00'] 0 (by decide)
  have hKept :
      ∀ c ∈ dst.text, decide (c ≠ '\x00') = true :=
    fun c hC =>
      decide_eq_true (ne_of_isVisible (hText c hC) rfl)
  rw [cString, hRange, List.range_add, List.map_append, hOld,
    List.map_map, List.range_succ_eq_map, List.map_cons,
    Function.comp_apply, hEnd, List.takeWhile_append_of_pos hKept,
    List.takeWhile_cons_of_neg (by simp), List.append_nil]

/-
  A string literal in an array of a size: no write was outside
  of the array, the literal is closed and a zero byte follows
  it in the array, and it is read as some bytes.
-/
structure Literal
    (size : Nat)
    (dst : Line)
    (read : List UInt8) : Prop where
  inside : ∀ address ∈ dst.writes, address < size
  closed :
    cString size dst.bytes = Json.quoted (escapeAll read)
  short : (cString size dst.bytes).length < size
  terminated :
    dst.bytes (cString size dst.bytes).length = '\x00'
  loaded :
    Json.loads (cString size dst.bytes) =
      .ok (.str (read.map UInt8.toNat))

theorem denotes_quoted
    (read : List UInt8) :
    Json.Denotes (Json.quoted (escapeAll read))
      (.str (read.map UInt8.toNat)) :=
  Emit.denotes_codes (spells_escapeAll read)

/- A zero byte makes a literal of a quoted text. -/
theorem literal_store
    {size : Nat}
    {bytes : Nat → Char}
    {dst : Line}
    {read : List UInt8}
    (hPuts :
      Puts size (Line.start bytes) dst
        (Json.quoted (escapeAll read)))
    (hRoom : dst.cursor < size) :
    Literal size (dst.store dst.cursor ['\x00']) read := by
  have hText : dst.text = Json.quoted (escapeAll read) :=
    hPuts.text
  have hString :
      cString size (dst.store dst.cursor ['\x00']).bytes =
        Json.quoted (escapeAll read) := by
    rw [cString_store hRoom, hText]
    rw [hText]
    exact isVisible_quoted read
  have hLength :
      (Json.quoted (escapeAll read)).length = dst.cursor := by
    rw [← hText, Line.length_text]
  exact
    { inside := by
        rcases hPuts.writes with ⟨stored, hWrites, hStored⟩
        intro address hIn
        rcases List.mem_append.mp hIn with hOld | hNew
        · rw [hWrites] at hOld
          exact hStored address hOld
        · exact Line.mem_stored hRoom hNew
      closed := hString
      short := by
        rw [hString, hLength]
        exact hRoom
      terminated := by
        rw [hString, hLength]
        exact
          @Line.store_inside dst dst.cursor ['\x00'] 0
            (by decide)
      loaded := by
        rw [hString]
        exact Json.loads_of_denotes (denotes_quoted read) }

/-
  An array of three bytes or more holds a literal of a front
  of the name, of the whole name if eight bytes are left.
-/
theorem rsTraceAppendJsonString_literal
    (failures : Nat → Option (List Char))
    (bytes : Nat → Char)
    {dstSize : Nat}
    (src : List UInt8)
    (hSize : 3 ≤ dstSize) :
    ∃ read,
      read <+: cBytes src ∧
        Literal dstSize
          (rsTraceAppendJsonString failures (Line.start bytes)
            dstSize src) read ∧
        ((∀ k, failures k = none) →
          (escapeAll (cBytes src)).length + 8 ≤ dstSize →
            read = cBytes src) := by
  have hStart : (Line.start bytes).cursor = 0 := rfl
  have hOpened :
      Puts dstSize (Line.start bytes)
        (put (Line.start bytes) '"') ['"'] :=
    puts_put '"' (by omega)
  have hOpenedCursor : (put (Line.start bytes) '"').cursor = 1 :=
    hOpened.cursor
  rcases @appendBytes_escaping failures dstSize
    (put (Line.start bytes) '"') src (by omega) with
    ⟨read, hFront, hPuts, hBelow, hWhole⟩
  rw [hOpenedCursor] at hBelow hWhole
  generalize hFilled :
    appendBytes failures dstSize (put (Line.start bytes) '"')
      src = filled at hPuts
  have hFilledCursor := hPuts.cursor
  rw [hOpenedCursor] at hFilledCursor
  have hRoom : filled.cursor < dstSize := by
    omega
  have hClosed :
      Puts dstSize (Line.start bytes) (put filled '"')
        (['"'] ++ escapeAll read ++ ['"']) :=
    (hOpened.trans hPuts).trans (puts_put '"' hRoom)
  have hCursor : (put filled '"').cursor < dstSize := by
    change filled.cursor + 1 < dstSize
    omega
  -- There is room for the quote and for the zero byte.
  have hResult :
      rsTraceAppendJsonString failures (Line.start bytes) dstSize
          src =
        (put filled '"').store (put filled '"').cursor
          ['\x00'] := by
    unfold rsTraceAppendJsonString
    rw [if_neg (by omega)]
    simp only [hFilled]
    rw [if_pos hRoom, if_neg (by omega)]
  rw [hResult]
  refine ⟨read, hFront, literal_store hClosed hCursor, ?_⟩
  intro hNone hFits
  exact hWhole hNone (by omega)

end

------------------------------------------------------------
-- The Line
------------------------------------------------------------

section

open Emit (decimal isVisible)

/- The members of a marker, as they are read. -/
def markerMembers
    (timestampNs : UInt64)
    (tid : Int64)
    (name : List UInt8) : List (List Nat × Json) :=
  [(Json.codesOf "event".toList,
      .str (Json.codesOf "phase_marker".toList)),
    (Json.codesOf "timestamp_ns".toList, .int timestampNs.toNat),
    (Json.codesOf "tid".toList, .int tid.toInt),
    (Json.codesOf "name".toList, .str (name.map UInt8.toNat))]

/- The text of a marker in front of its line end. -/
def markerObject
    (timestampNs : UInt64)
    (tid : Int64)
    (escaped : List Char) : List Char :=
  '{' ::
    (Json.memberText "event".toList
        (Json.quoted "phase_marker".toList) ++
      ',' ::
        (Json.memberText "timestamp_ns".toList
            (decimal timestampNs.toNat) ++
          ',' ::
            (Json.memberText "tid".toList (decimal tid.toInt) ++
              ',' :: Json.memberText "name".toList escaped)) ++
      ['}'])

theorem markerText_eq
    (timestampNs : UInt64)
    (tid : Int64)
    (escaped : List Char) :
    markerText timestampNs tid escaped =
      markerObject timestampNs tid escaped ++ ['\n'] := by
  unfold markerText markerObject
  generalize decimal timestampNs.toNat = time
  generalize decimal tid.toInt = thread
  simp [Json.memberText, Json.quoted]

theorem denotes_markerObject
    (timestampNs : UInt64)
    (tid : Int64)
    (name : List UInt8) :
    Json.Denotes
      (markerObject timestampNs tid
        (Json.quoted (escapeAll name)))
      (.obj (markerMembers timestampNs tid name)) := by
  apply Json.denotes_object
  exact
    (@Emit.denotesMembers_event "phase_marker" rfl).append
      ((@Emit.denotesMembers_named "timestamp_ns" rfl _ _
          (Json.denotes_int timestampNs.toNat)).append
        ((@Emit.denotesMembers_named "tid" rfl _ _
            (Json.denotes_int tid.toInt)).append
          (@Emit.denotesMembers_named "name" rfl _ _
            (denotes_quoted name))))

/- A number of 64 bits has at most twenty characters. -/
theorem length_decimal_le
    {z : Int}
    (hLow : -10 ^ 19 < z)
    (hHigh : z < 10 ^ 20) :
    (decimal z).length ≤ 20 := by
  cases z with
  | ofNat n =>
      have hText :
          decimal (Int.ofNat n) = Nat.toDigits 10 n :=
        Nat.toList_repr
      rw [hText, Nat.length_toDigits_le_iff (by decide)
        (by decide)]
      simp only [Int.ofNat_eq_natCast] at hHigh
      omega
  | negSucc n =>
      have hDigits :
          (Nat.toDigits 10 (n + 1)).length ≤ 19 := by
        rw [Nat.length_toDigits_le_iff (by decide) (by decide)]
        omega
      rw [decimal, toList_toString_negSucc,
        List.singleton_append, List.length_cons]
      omega

theorem isVisible_memberText
    {name : String}
    (hName : name.toList.all isVisible = true)
    {value : List Char}
    (hValue : ∀ c ∈ value, isVisible c = true) :
    ∀ c ∈ Json.memberText name.toList value,
      isVisible c = true := by
  rw [Json.memberText, Json.quoted, List.forall_mem_append,
    List.forall_mem_cons, List.forall_mem_cons,
    List.forall_mem_append, List.forall_mem_singleton]
  exact ⟨⟨rfl, List.all_eq_true.mp hName, rfl⟩, rfl, hValue⟩

/- The line in front of its end. -/
theorem isVisible_markerObject
    (timestampNs : UInt64)
    (tid : Int64)
    {escaped : List Char}
    (hEscaped : ∀ c ∈ escaped, isVisible c = true) :
    ∀ c ∈ markerObject timestampNs tid escaped,
      isVisible c = true := by
  have hKind :
      ∀ c ∈ Json.quoted "phase_marker".toList,
        isVisible c = true :=
    List.all_eq_true.mp (by decide)
  rw [markerObject, List.forall_mem_cons,
    List.forall_mem_append, List.forall_mem_append,
    List.forall_mem_cons, List.forall_mem_append,
    List.forall_mem_cons, List.forall_mem_append,
    List.forall_mem_cons, List.forall_mem_singleton]
  exact
    ⟨rfl,
      ⟨isVisible_memberText (by decide) hKind, rfl,
        isVisible_memberText (by decide)
          (Emit.isVisible_decimal _), rfl,
        isVisible_memberText (by decide)
          (Emit.isVisible_decimal _), rfl,
        isVisible_memberText (by decide) hEscaped⟩, rfl⟩

/- Fifty-six characters do not depend on what is written. -/
theorem length_markerText
    (timestampNs : UInt64)
    (tid : Int64)
    (escaped : List Char) :
    (markerText timestampNs tid escaped).length ≤
      96 + escaped.length := by
  have hTime : (decimal timestampNs.toNat).length ≤ 20 := by
    have hHigh := timestampNs.toNat_lt
    exact length_decimal_le (by omega) (by omega)
  have hTid : (decimal tid.toInt).length ≤ 20 := by
    have hLow := tid.le_toInt
    have hHigh := tid.toInt_lt
    exact length_decimal_le (by omega) (by omega)
  unfold markerText
  generalize decimal timestampNs.toNat = time at hTime ⊢
  generalize decimal tid.toInt = thread at hTid ⊢
  simp
  omega

end

------------------------------------------------------------
-- What Is Written
------------------------------------------------------------

open Emit (Line)

/- A line of the trace that was not cut off. -/
structure MarkerLine
    (timestampNs : UInt64)
    (tid : Int64)
    (name : List UInt8)
    (text : List Char) : Prop where
  short : text.length < lineSize
  ended : ∃ front, text = front ++ ['\n'] ∧ '\n' ∉ front
  loaded :
    Json.loads text =
      .ok (.obj (markerMembers timestampNs tid name))

/- A literal makes a whole line. -/
theorem Literal.markerLine
    {dst : Line}
    {read : List UInt8}
    (hLiteral : Literal escapedSize dst read)
    (timestampNs : UInt64)
    (tid : Int64) :
    MarkerLine timestampNs tid read
      (markerText timestampNs tid
        (cString escapedSize dst.bytes)) := by
  have hName : (cString escapedSize dst.bytes).length < 256 :=
    hLiteral.short
  have hLength :=
    length_markerText timestampNs tid
      (cString escapedSize dst.bytes)
  have hShort :
      (markerText timestampNs tid
        (cString escapedSize dst.bytes)).length < 512 := by
    omega
  refine ⟨hShort, ?_, ?_⟩
  · refine ⟨_, markerText_eq _ _ _, ?_⟩
    intro hIn
    rw [hLiteral.closed] at hIn
    exact ne_of_isVisible
      (isVisible_markerObject timestampNs tid
        (isVisible_quoted read) _ hIn) rfl rfl
  · rw [markerText_eq, hLiteral.closed]
    apply Json.loads_of_denotes_append
      (denotes_markerObject timestampNs tid read)
    rw [List.forall_mem_singleton]
    rfl

/- A text that fits is printed as a whole. -/
theorem vsnprintf_line
    (bytes : Nat → Char)
    {text : List Char}
    (hShort : text.length < lineSize) :
    let printed :=
      Line.vsnprintf none (Line.start bytes) lineSize text
    printed.1 = text.length ∧
      (∀ address ∈ printed.2.writes, address < lineSize) ∧
      (List.range text.length).map printed.2.bytes = text := by
  have hWhole : text.take (lineSize - 1) = text :=
    List.take_of_length_le (by omega)
  have hStart : (Line.start bytes).cursor = 0 := rfl
  have hPuts :=
    @puts_store lineSize (Line.start bytes) text ['\x00'] (by
      rw [hStart, List.length_append, List.length_singleton]
      omega)
  intro printed
  have hPrinted :
      printed.2 =
        (Line.start bytes).store 0 (text ++ ['\x00']) := by
    change
      (Line.start bytes).store 0
          (text.take (lineSize - 1) ++ ['\x00']) =
        _
    rw [hWhole]
  refine ⟨rfl, ?_, ?_⟩
  · rcases hPuts.writes with ⟨stored, hWrites, hStored⟩
    intro address hIn
    rw [hPrinted] at hIn
    have hPut :
        address ∈ (Line.start bytes).writes ++ stored := by
      rw [← hWrites]
      exact hIn
    exact hStored address hPut
  · rw [hPrinted]
    have hText :
        (List.range (0 + text.length)).map
            ((Line.start bytes).store 0 (text ++ ['\x00'])).bytes =
          text :=
      hPuts.text
    rw [Nat.zero_add] at hText
    exact hText

/- A call that failed stays in the array as well. -/
theorem vsnprintf_failed
    (bytes : Nat → Char)
    (part text : List Char) :
    ∀ address ∈
        (Line.vsnprintf (some part) (Line.start bytes) lineSize
          text).2.writes,
      address < lineSize := by
  have hPuts :=
    @puts_failed lineSize (Line.start bytes) part
      (Nat.zero_le lineSize)
  rcases hPuts.writes with ⟨stored, hWrites, hStored⟩
  intro address hIn
  have hPut : address ∈ (Line.start bytes).writes ++ stored := by
    rw [← hWrites]
    exact hIn
  exact hStored address hPut

/-
  Whatever the name, the time, the thread and what the arrays
  held before, and whichever calls fail: no write is outside
  of an array, and the name is left as a closed literal that
  is read as a front of it, as the whole name if it is short
  enough.  What is written is one whole line that is read as
  a marker with what the literal is read as.
-/
theorem phaseMarker_written
    (failures : Nat → Option (List Char))
    (failure : Option (List Char))
    (fd : Int)
    (timestampNs : UInt64)
    (tid : Int64)
    (escaped line : Nat → Char)
    (name : Option (List UInt8)) :
    let literal :=
      rsTraceAppendJsonString failures (Line.start escaped)
        escapedSize (name.getD [])
    let text :=
      markerText timestampNs tid
        (cString escapedSize literal.bytes)
    let marker :=
      rsTracePhaseMarker failures failure fd timestampNs tid
        escaped line name
    ∃ read,
      read <+: cBytes (name.getD []) ∧
        Literal escapedSize literal read ∧
        ((∀ k, failures k = none) →
          (escapeAll (cBytes (name.getD []))).length ≤ 248 →
            read = cBytes (name.getD [])) ∧
        MarkerLine timestampNs tid read text ∧
        (∀ address ∈ marker.line.writes, address < lineSize) ∧
        marker.written =
          if 0 ≤ fd ∧ failure = none then some text else none := by
  intro literal text marker
  rcases rsTraceAppendJsonString_literal failures escaped
    (name.getD []) (show 3 ≤ escapedSize by decide) with
    ⟨read, hFront, hLiteral, hWhole⟩
  have hLine := hLiteral.markerLine timestampNs tid
  refine ⟨read, hFront, hLiteral, ?_, hLine, ?_⟩
  · intro hNone hFits
    exact hWhole hNone (Nat.add_le_add_right hFits 8)
  by_cases hOpened : fd < 0
  · have hMarker :
        marker =
          ⟨Line.start escaped, Line.start line, none⟩ :=
      if_pos hOpened
    rw [hMarker, if_neg (by omega)]
    exact ⟨fun _ hIn => absurd hIn List.not_mem_nil, rfl⟩
  have hFd : 0 ≤ fd := by
    omega
  cases failure with
  | some part =>
      have hMarker :
          marker =
            ⟨literal,
              (Line.vsnprintf (some part) (Line.start line)
                lineSize text).2, none⟩ :=
        if_neg hOpened
      rw [hMarker, if_neg (by simp)]
      exact ⟨vsnprintf_failed line part text, rfl⟩
  | none =>
      rcases vsnprintf_line line hLine.short with
        ⟨hLength, hInside, hText⟩
      have hSome : text ≠ [] := by
        rcases hLine.ended with ⟨front, hIs, -⟩
        rw [show text = front ++ ['\n'] from hIs]
        simp
      have hPositive : (0 : Int) < text.length := by
        have hLength := List.length_pos_iff.mpr hSome
        omega
      -- The length that is returned is that of the whole text.
      have hWritten :
          (if (0 : Int) < text.length then
              some ((List.range
                  (if (text.length : Int).toNat < lineSize then
                    (text.length : Int).toNat
                  else
                    lineSize - 1)).map
                (Line.vsnprintf none (Line.start line) lineSize
                  text).2.bytes)
            else
              none) =
            some text := by
        rw [if_pos hPositive, Int.toNat_natCast,
          if_pos hLine.short, hText]
      have hMarker :
          marker =
            ⟨literal,
              (Line.vsnprintf none (Line.start line) lineSize
                text).2,
              some text⟩ :=
        (if_neg hOpened).trans
          (congrArg (Marker.mk literal _) hWritten)
      rw [hMarker, if_pos ⟨hFd, rfl⟩]
      exact ⟨hInside, rfl⟩

/- A quote, a line end and a byte outside of ASCII. -/
theorem phaseMarker_written_mixed :
    ∃ text,
      (rsTracePhaseMarker (fun _ => none) none 3 12345 7
          (fun _ => 'x') (fun _ => 'x')
          (some [34, 10, 200, 0])).written = some text ∧
        MarkerLine 12345 7 [34, 10, 200] text := by
  rcases phaseMarker_written (fun _ => none) none 3 12345 7
      (fun _ => 'x') (fun _ => 'x') (some [34, 10, 200, 0]) with
    ⟨read, -, -, hWhole, hLine, -, hWritten⟩
  have hRead : read = [34, 10, 200] :=
    hWhole (fun _ => rfl) (by decide)
  rw [hRead] at hLine
  exact ⟨_, hWritten, hLine⟩

end PhaseMarker

end RsCamera
