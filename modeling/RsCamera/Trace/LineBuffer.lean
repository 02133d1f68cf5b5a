import RsCamera.Trace.Emit

/-
  The line buffer of the tracer as memory: a cursor, the
  bytes, and every address that was written to.

  The text of a line is what `Trace.Emit` computes.  Here the
  same calls run on an array of the stack, where `vsnprintf`
  may fail after it has stored some bytes, and where a cursor
  behind the end would be an overflow.

  Key definitions include:
    * `Line`, `Line.store`
    * `Line.appendFmt`, `Line.traceWriteLine`
    * `Call`, `Line.perform`
    * `Line.Within`, `Line.Clean`

  Key theorems include:
    * `Line.appendFmt_appended`
    * `Line.emit_written`
    * `line_written`
-/

------------------------------------------------------------
-- The Buffer In Memory
------------------------------------------------------------

namespace RsCamera

namespace Emit

/-
  Addresses count from the start of the line.  The addresses
  that were written and the positions of the cursor are kept
  in the order in which they came.
-/
structure Line where
  bytes : Nat → Char
  cursor : Nat := 0
  writes : List Nat := []
  cursors : List Nat := []

namespace Line

/- Bytes are written at an address. -/
def store
    (line : Line)
    (address : Nat)
    (text : List Char) : Line :=
  { line with
    bytes := fun i =>
      if address ≤ i then
        text.getD (i - address) (line.bytes i)
      else
        line.bytes i
    writes :=
      line.writes ++
        (List.range text.length).map (fun k => address + k) }

/- The cursor moves. -/
def moveTo (line : Line) (cursor : Nat) : Line :=
  { line with
    cursor := cursor
    cursors := line.cursors ++ [cursor] }

/-
  A call that succeeds stores what fits in front of a zero
  byte and returns the length of the whole text.  One that
  fails may have stored anything that fits.
-/
def vsnprintf
    (failure : Option (List Char))
    (line : Line)
    (size : Nat)
    (text : List Char) : Int × Line :=
  match failure with
  | some part => (-1, line.store line.cursor (part.take size))
  | none =>
      ((text.length : Int),
        line.store line.cursor
          (text.take (size - 1) ++ ['\x00']))

/- The failures are those of the calls, one after another. -/
def appendFmt
    (failures : Nat → Option (List Char))
    (line : Line)
    (text : List Char) : Line :=
  if traceLineSize ≤ line.cursor then
    line
  else
    let size := traceLineSize - line.cursor
    let printed :=
      vsnprintf (failures line.cursors.length) line size text
    if printed.1 < 0 then
      printed.2.moveTo line.cursor
    else if (size : Int) ≤ printed.1 then
      printed.2.moveTo (traceLineSize - 1)
    else
      printed.2.moveTo (line.cursor + printed.1.toNat)

/- The loop of `append_json_string`. -/
def appendBytes
    (failures : Nat → Option (List Char)) :
    Line → List UInt8 → Line
| line, [] => line
| line, c :: rest =>
    if line.cursor < traceLineSize - 8 then
      appendBytes failures (appendFmt failures line (escape c)) rest
    else
      line

/- `append_json_string`. -/
def appendJsonString
    (failures : Nat → Option (List Char))
    (line : Line)
    (s : Option (List UInt8)) : Line :=
  let opened := appendFmt failures line ['"']
  appendFmt failures
    (appendBytes failures opened (s.getD [])) ['"']

/- A line that has no line end gets one. -/
def ended (line : Line) : Line :=
  if line.cursor = 0 ∨ line.bytes (line.cursor - 1) ≠ '\n' then
    if line.cursor < traceLineSize - 1 then
      (line.store line.cursor ['\n']).moveTo (line.cursor + 1)
    else
      line.store (traceLineSize - 2) ['\n']
  else
    line

/- Nothing is written when no file could be opened. -/
def traceWriteLine
    (opened : Bool)
    (line : Line) : Line × Option (List Char) :=
  if opened then
    let length :=
      if traceLineSize < line.ended.cursor then
        traceLineSize
      else
        line.ended.cursor
    (line.ended,
      some ((List.range length).map line.ended.bytes))
  else
    (line, none)

/- One append to the buffer. -/
def run
    (failures : Nat → Option (List Char))
    (line : Line) : Append → Line
| .fmt text => appendFmt failures line text
| .json s => appendJsonString failures line s

end Line

/- A call of one of the four functions. -/
inductive Call
| fmt (text : List Char)
| json (s : Option (List UInt8))
| address (stem : String) (addr : Address)
| stack (frames : List Address)

/- The appends of a call. -/
def Call.appends : Call → List Append
| .fmt text => [.fmt text]
| .json s => [.json s]
| .address stem addr => appendAddressInfo stem addr
| .stack frames => appendStack frames

namespace Line

/- The cursor is at the first byte; the bytes may be any. -/
def start (bytes : Nat → Char) : Line :=
  { bytes := bytes }

/- The calls of an event, in order. -/
def perform
    (failures : Nat → Option (List Char))
    (line : Line)
    (calls : List Call) : Line :=
  (calls.flatMap Call.appends).foldl (run failures) line

end Line

end Emit

end RsCamera

------------------------------------------------------------
-- One Call Of append_fmt
------------------------------------------------------------

namespace RsCamera

namespace Emit

namespace Line

@[simp]
theorem store_cursor
    (line : Line)
    (address : Nat)
    (text : List Char) :
    (line.store address text).cursor = line.cursor :=
  rfl

@[simp]
theorem store_cursors
    (line : Line)
    (address : Nat)
    (text : List Char) :
    (line.store address text).cursors = line.cursors :=
  rfl

theorem store_outside
    (line : Line)
    {address i : Nat}
    (text : List Char)
    (hOutside : i < address) :
    (line.store address text).bytes i = line.bytes i :=
  if_neg (by omega)

theorem store_inside
    (line : Line)
    (address : Nat)
    {text : List Char}
    {k : Nat}
    (hInside : k < text.length) :
    (line.store address text).bytes (address + k) = text[k] := by
  have hHere : address ≤ address + k := by
    omega
  change
    (if address ≤ address + k then
      text.getD (address + k - address) (line.bytes (address + k))
    else
      line.bytes (address + k)) = text[k]
  rw [if_pos hHere, Nat.add_sub_cancel_left,
    List.getD_eq_getElem?_getD, List.getElem?_eq_getElem hInside]
  rfl

/- What a call to `append_fmt` does to a line. -/
structure Appended
    (line : Line)
    (text : List Char)
    (after : Line) : Prop where
  forward : line.cursor ≤ after.cursor
  inside : after.cursor ≤ traceLineSize - 1
  cursors : after.cursors = line.cursors ++ [after.cursor]
  writes :
    ∃ stored, after.writes = line.writes ++ stored ∧
      ∀ address ∈ stored, address < traceLineSize
  kept : ∀ i < line.cursor, after.bytes i = line.bytes i
  new :
    ∀ k, line.cursor + k < after.cursor →
      text[k]? = some (after.bytes (line.cursor + k))

theorem mem_stored
    {start length bound address : Nat}
    (hBound : start + length ≤ bound)
    (hIn :
      address ∈ (List.range length).map (fun k => start + k)) :
    address < bound := by
  rcases List.mem_map.mp hIn with ⟨k, hK, hIs⟩
  rw [List.mem_range] at hK
  omega

/- The bytes of a call that succeeded. -/
theorem store_printed
    (line : Line)
    {size : Nat}
    {text : List Char}
    {k : Nat}
    (hSize : k < size - 1)
    (hText : k < text.length) :
    text[k]? =
      some
        ((line.store line.cursor
            (text.take (size - 1) ++ ['\x00'])).bytes
          (line.cursor + k)) := by
  have hTake : k < (text.take (size - 1)).length := by
    rw [List.length_take]
    omega
  have hAll : k < (text.take (size - 1) ++ ['\x00']).length := by
    rw [List.length_append]
    omega
  rw [store_inside line line.cursor hAll,
    List.getElem_append_left hTake, List.getElem_take,
    List.getElem?_eq_getElem hText]

theorem appendFmt_failed
    {failures : Nat → Option (List Char)}
    {line : Line}
    {part : List Char}
    (text : List Char)
    (hCursor : line.cursor ≤ traceLineSize - 1)
    (hFailure : failures line.cursors.length = some part) :
    appendFmt failures line text =
      (line.store line.cursor
          (part.take (traceLineSize - line.cursor))).moveTo
        line.cursor := by
  have hSize : 0 < traceLineSize := by
    decide
  unfold appendFmt
  rw [if_neg (by omega), hFailure]
  exact if_pos (show (-1 : Int) < 0 by decide)

/- The cursor stops in front of the last byte. -/
theorem appendFmt_printed
    {failures : Nat → Option (List Char)}
    {line : Line}
    (text : List Char)
    (hCursor : line.cursor ≤ traceLineSize - 1)
    (hPrinted : failures line.cursors.length = none) :
    appendFmt failures line text =
      (line.store line.cursor
          (text.take (traceLineSize - line.cursor - 1) ++
            ['\x00'])).moveTo
        (min (line.cursor + text.length) (traceLineSize - 1)) := by
  have hSize : 0 < traceLineSize := by
    decide
  have hLength : ¬(text.length : Int) < 0 := by
    omega
  unfold appendFmt
  rw [if_neg (by omega), hPrinted]
  refine (if_neg hLength).trans ?_
  by_cases hLong :
      ((traceLineSize - line.cursor : Nat) : Int) ≤ text.length
  · refine (if_pos hLong).trans ?_
    rw [Nat.min_eq_right (by omega)]
    rfl
  · refine (if_neg hLong).trans ?_
    rw [Nat.min_eq_left (by omega)]
    rfl

theorem appendFmt_appended
    (failures : Nat → Option (List Char))
    {line : Line}
    (text : List Char)
    (hCursor : line.cursor ≤ traceLineSize - 1) :
    Appended line text (appendFmt failures line text) := by
  have hSize : 0 < traceLineSize := by
    decide
  cases hFailure : failures line.cursors.length with
  | some part =>
      rw [appendFmt_failed text hCursor hFailure]
      exact
        { forward := Nat.le_refl _
          inside := hCursor
          cursors := rfl
          writes :=
            ⟨_, rfl, fun address hIn =>
              mem_stored
                (by
                  rw [List.length_take]
                  omega) hIn⟩
          kept := fun i hI => store_outside line _ hI
          new := fun k hK => absurd hK (by
            change ¬ line.cursor + k < line.cursor
            omega) }
  | none =>
      rw [appendFmt_printed text hCursor hFailure]
      exact
        { forward := Nat.le_min.mpr ⟨Nat.le_add_right _ _, hCursor⟩
          inside := Nat.min_le_right _ _
          cursors := rfl
          writes :=
            ⟨_, rfl, fun address hIn =>
              mem_stored
                (by
                  rw [List.length_append, List.length_take,
                    List.length_singleton]
                  omega) hIn⟩
          kept := fun i hI => store_outside line _ hI
          new := fun k hK =>
            have hBelow :
                line.cursor + k <
                  min (line.cursor + text.length)
                    (traceLineSize - 1) :=
              hK
            store_printed line (by omega) (by omega) }

------------------------------------------------------------
-- Runs Of Calls
------------------------------------------------------------

/- The texts that are printed as they are. -/
def Printed (T : List Char → Prop) : Append → Prop
| .fmt text => T text
| .json _ => True

section Preserved

/-
  What every call to `append_fmt` keeps, all calls keep.  The
  texts that strings are printed in are the quote and the
  escapes.
-/
variable {failures : Nat → Option (List Char)}
variable {P : Line → Prop}
variable {T : List Char → Prop}
variable
  (hFmt :
    ∀ line text, T text → P line →
      P (appendFmt failures line text))
variable (hQuote : T ['"'])
variable (hEscape : ∀ c, T (escape c))

include hFmt hEscape in
theorem appendBytes_preserves
    (bytes : List UInt8)
    {line : Line}
    (hLine : P line) :
    P (appendBytes failures line bytes) := by
  induction bytes generalizing line with
  | nil => exact hLine
  | cons c rest ih =>
      unfold appendBytes
      split
      · exact ih (hFmt line _ (hEscape c) hLine)
      · exact hLine

include hFmt hQuote hEscape in
theorem run_preserves
    {append : Append}
    (hPrinted : Printed T append)
    {line : Line}
    (hLine : P line) :
    P (run failures line append) := by
  cases append with
  | fmt text => exact hFmt line text hPrinted hLine
  | json s =>
      apply hFmt _ _ hQuote
      apply appendBytes_preserves hFmt hEscape
      exact hFmt line _ hQuote hLine

include hFmt hQuote hEscape in
theorem runs_preserve
    {appends : List Append}
    (hPrinted : ∀ append ∈ appends, Printed T append)
    {line : Line}
    (hLine : P line) :
    P (appends.foldl (run failures) line) := by
  induction appends generalizing line with
  | nil => exact hLine
  | cons append appends ih =>
      rw [List.forall_mem_cons] at hPrinted
      apply ih hPrinted.2
      exact run_preserves hFmt hQuote hEscape hPrinted.1 hLine

end Preserved

/- The cursor never left the line, nor did a write. -/
structure Within (line : Line) : Prop where
  cursor : line.cursor ≤ traceLineSize - 1
  last : ∀ position ∈ line.cursors, position ≤ line.cursor
  sorted : line.cursors.Pairwise (· ≤ ·)
  writes : ∀ address ∈ line.writes, address < traceLineSize

/- No line ends within the text. -/
def Clean (line : Line) : Prop :=
  ∀ i < line.cursor, line.bytes i ≠ '\n'

theorem within_start
    (bytes : Nat → Char) :
    Within (start bytes) where
  cursor := Nat.zero_le _
  last := by simp [start]
  sorted := List.Pairwise.nil
  writes := by simp [start]

theorem clean_start
    (bytes : Nat → Char) :
    Clean (start bytes) :=
  fun _ hI => absurd hI (Nat.not_lt_zero _)

/- A position behind all others. -/
theorem sorted_append
    {cursors : List Nat}
    {cursor next : Nat}
    (hLast : ∀ position ∈ cursors, position ≤ cursor)
    (hSorted : cursors.Pairwise (· ≤ ·))
    (hForward : cursor ≤ next) :
    (∀ position ∈ cursors ++ [next], position ≤ next) ∧
      (cursors ++ [next]).Pairwise (· ≤ ·) := by
  have hAll : ∀ position ∈ cursors, position ≤ next :=
    fun position hIn =>
      Nat.le_trans (hLast position hIn) hForward
  constructor
  · rw [List.forall_mem_append]
    exact ⟨hAll, by simp⟩
  · rw [List.pairwise_append]
    refine ⟨hSorted, List.pairwise_singleton _ _, ?_⟩
    intro position hIn last hIs
    rw [List.mem_singleton.mp hIs]
    exact hAll position hIn

theorem Within.appendFmt
    {failures : Nat → Option (List Char)}
    {line : Line}
    (hLine : Within line)
    (text : List Char) :
    Within (appendFmt failures line text) := by
  have hAppended :=
    appendFmt_appended failures text hLine.cursor
  have hSorted :=
    sorted_append hLine.last hLine.sorted hAppended.forward
  rw [← hAppended.cursors] at hSorted
  refine ⟨hAppended.inside, hSorted.1, hSorted.2, ?_⟩
  rcases hAppended.writes with ⟨stored, hWrites, hStored⟩
  rw [hWrites, List.forall_mem_append]
  exact ⟨hLine.writes, hStored⟩

theorem Clean.appendFmt
    {failures : Nat → Option (List Char)}
    {line : Line}
    (hClean : Clean line)
    (hLine : Within line)
    {text : List Char}
    (hText : '\n' ∉ text) :
    Clean (appendFmt failures line text) := by
  have hAppended :=
    appendFmt_appended failures text hLine.cursor
  intro i hI
  by_cases hOld : i < line.cursor
  · rw [hAppended.kept i hOld]
    exact hClean i hOld
  · have hIs : i = line.cursor + (i - line.cursor) := by
      omega
    rw [hIs] at hI ⊢
    intro hEnd
    have hNew := hAppended.new _ hI
    rw [hEnd] at hNew
    exact hText (List.mem_of_getElem? hNew)

theorem run_within
    (failures : Nat → Option (List Char))
    (append : Append)
    {line : Line}
    (hLine : Within line) :
    Within (run failures line append) := by
  refine @run_preserves failures Within (fun _ => True)
    (fun line text _ hLine => hLine.appendFmt text) trivial
    (fun _ => trivial) append ?_ line hLine
  cases append with
  | fmt text => trivial
  | json s => trivial

theorem runs_within
    (failures : Nat → Option (List Char))
    (appends : List Append)
    {line : Line}
    (hLine : Within line) :
    Within (appends.foldl (run failures) line) := by
  induction appends generalizing line with
  | nil => exact hLine
  | cons append appends ih =>
      exact ih (run_within failures append hLine)

end Line

end Emit

end RsCamera

------------------------------------------------------------
-- Line Ends In The Text
------------------------------------------------------------

namespace RsCamera

namespace Emit

/- The strings of a call that are printed as they are. -/
def Call.raw : Call → List Char
| .fmt text => text
| .json _ => []
| .address stem _ => stem.toList
| .stack _ => []

def NoLineEnd (text : List Char) : Prop :=
  '\n' ∉ text

theorem noLineEnd_append
    {text more : List Char} :
    NoLineEnd (text ++ more) ↔ NoLineEnd text ∧ NoLineEnd more := by
  unfold NoLineEnd
  rw [List.mem_append, not_or]

theorem noLineEnd_of_isVisible
    {text : List Char}
    (hText : ∀ c ∈ text, isVisible c = true) :
    NoLineEnd text := by
  intro hIn
  have hVisible := hText _ hIn
  cases hVisible

/- A text that is written out in the source. -/
theorem noLineEnd_literal
    {text : String}
    (hText : text.toList.all isVisible = true) :
    NoLineEnd text.toList :=
  noLineEnd_of_isVisible (List.all_eq_true.mp hText)

theorem noLineEnd_pointer
    (value : UInt64) :
    NoLineEnd (pointer value) :=
  noLineEnd_of_isVisible (fun c hC => (isPlain_pointer value c hC).2)

/- A member with an address in it. -/
theorem noLineEnd_member
    {front behind : List Char}
    (hFront : NoLineEnd front)
    (value : UInt64)
    (hBehind : NoLineEnd behind) :
    NoLineEnd (front ++ pointer value ++ behind) := by
  rw [noLineEnd_append, noLineEnd_append]
  exact ⟨⟨hFront, noLineEnd_pointer value⟩, hBehind⟩

theorem noLineEnd_stem
    {front stem behind : List Char}
    (hFront : NoLineEnd front)
    (hStem : NoLineEnd stem)
    (hBehind : NoLineEnd behind) :
    NoLineEnd (front ++ stem ++ behind) := by
  rw [noLineEnd_append, noLineEnd_append]
  exact ⟨⟨hFront, hStem⟩, hBehind⟩

theorem printed_addressInfo
    {stem : String}
    (hStem : NoLineEnd stem.toList)
    (addr : Address) :
    ∀ append ∈ appendAddressInfo stem addr,
      Line.Printed NoLineEnd append := by
  unfold appendAddressInfo
  rw [List.forall_mem_append, List.forall_mem_singleton]
  constructor
  · exact noLineEnd_member
      (noLineEnd_stem (noLineEnd_literal rfl) hStem
        (noLineEnd_literal rfl)) _ (noLineEnd_literal rfl)
  · split
    · simp
    next place hPlace =>
      simp only [List.forall_mem_cons]
      exact
        ⟨noLineEnd_stem (noLineEnd_literal rfl) hStem
            (noLineEnd_literal rfl),
          trivial,
          noLineEnd_member
            (noLineEnd_stem (noLineEnd_literal rfl) hStem
              (noLineEnd_literal rfl)) _ (noLineEnd_literal rfl),
          noLineEnd_stem (noLineEnd_literal rfl) hStem
            (noLineEnd_literal rfl),
          trivial, by simp⟩

theorem printed_frame
    (frame : Address) :
    ∀ append ∈ appendFrame frame,
      Line.Printed NoLineEnd append := by
  unfold appendFrame
  rw [List.forall_mem_append, List.forall_mem_append,
    List.forall_mem_singleton, List.forall_mem_singleton]
  refine ⟨⟨?_, ?_⟩, noLineEnd_literal rfl⟩
  · exact noLineEnd_member (noLineEnd_literal rfl) _
      (noLineEnd_literal rfl)
  · split
    · simp
    next place hPlace =>
      simp only [List.forall_mem_cons]
      exact
        ⟨noLineEnd_literal rfl, trivial,
          noLineEnd_member (noLineEnd_literal rfl) _
            (noLineEnd_literal rfl),
          noLineEnd_literal rfl, trivial, by simp⟩

theorem printed_stack
    (frames : List Address) :
    ∀ append ∈ appendStack frames,
      Line.Printed NoLineEnd append := by
  unfold appendStack
  rw [List.forall_mem_append, List.forall_mem_append,
    List.forall_mem_singleton, List.forall_mem_singleton]
  refine ⟨⟨noLineEnd_literal rfl, ?_⟩, noLineEnd_literal rfl⟩
  intro append hAppend
  rcases List.mem_flatMap.mp hAppend with ⟨entry, -, hIn⟩
  rcases List.mem_append.mp hIn with hComma | hFrame
  · split at hComma
    · rw [List.mem_singleton.mp hComma]
      exact noLineEnd_literal rfl
    · cases hComma
  · exact printed_frame entry.1 append hFrame

theorem Call.printed
    {call : Call}
    (hRaw : NoLineEnd call.raw) :
    ∀ append ∈ call.appends, Line.Printed NoLineEnd append := by
  cases call with
  | fmt text =>
      rw [Call.appends, List.forall_mem_singleton]
      exact hRaw
  | json s =>
      rw [Call.appends, List.forall_mem_singleton]
      trivial
  | address stem addr => exact printed_addressInfo hRaw addr
  | stack frames => exact printed_stack frames

namespace Line

theorem perform_clean
    (failures : Nat → Option (List Char))
    {line : Line}
    (hLine : Within line)
    (hClean : Clean line)
    {calls : List Call}
    (hCalls : ∀ call ∈ calls, NoLineEnd call.raw) :
    Clean (perform failures line calls) := by
  refine
    (@runs_preserve failures (fun line => Within line ∧ Clean line)
      NoLineEnd ?_ (by simp [NoLineEnd])
      (fun c => noLineEnd_of_isVisible (isVisible_escape c)) _ ?_
      line ⟨hLine, hClean⟩).2
  · intro line text hText hBoth
    exact ⟨hBoth.1.appendFmt text, hBoth.2.appendFmt hBoth.1 hText⟩
  · intro append hAppend
    rcases List.mem_flatMap.mp hAppend with ⟨call, hCall, hIn⟩
    exact Call.printed (hCalls call hCall) append hIn

end Line

end Emit

end RsCamera

------------------------------------------------------------
-- The Line That Is Written
------------------------------------------------------------

namespace RsCamera

namespace Emit

namespace Line

/- A line and what it is when it was ended. -/
structure Ended (line after : Line) : Prop where
  within : Within after
  forward : line.cursor ≤ after.cursor
  filled : 0 < after.cursor
  last : after.bytes (after.cursor - 1) = '\n'
  kept :
    ∀ i < after.cursor - 1,
      i < line.cursor ∧ after.bytes i = line.bytes i

/- One more byte of the line is written. -/
theorem Within.store
    {line : Line}
    (hLine : Within line)
    {address : Nat}
    (hAddress : address < traceLineSize)
    (c : Char) :
    ∀ written ∈ (line.store address [c]).writes,
      written < traceLineSize := by
  change ∀ written ∈ line.writes ++ [address + 0], _
  rw [List.forall_mem_append, List.forall_mem_singleton]
  exact ⟨hLine.writes, hAddress⟩

theorem ended_ended
    {line : Line}
    (hLine : Within line) :
    Ended line line.ended := by
  have hSize : 2 ≤ traceLineSize := by
    decide
  have hCursor := hLine.cursor
  unfold ended
  split
  next hOpen =>
    split
    next hRoom =>
      have hSorted :=
        sorted_append hLine.last hLine.sorted
          (Nat.le_succ line.cursor)
      exact
        { within :=
            { cursor := Nat.succ_le_of_lt hRoom
              last := hSorted.1
              sorted := hSorted.2
              writes := hLine.store (by omega) '\n' }
          forward := Nat.le_succ _
          filled := Nat.succ_pos _
          last := @store_inside line line.cursor ['\n'] 0 (by decide)
          kept := fun i hI =>
            have hOld : i < line.cursor := hI
            ⟨hOld, store_outside line _ hOld⟩ }
    next hFull =>
      have hPlace :
          line.cursor - 1 = traceLineSize - 2 + 0 := by
        omega
      exact
        { within :=
            { cursor := hCursor
              last := hLine.last
              sorted := hLine.sorted
              writes := hLine.store (by omega) '\n' }
          forward := Nat.le_refl _
          filled := by
            rw [store_cursor]
            omega
          last := by
            rw [store_cursor, hPlace]
            exact @store_inside line _ ['\n'] 0 (by decide)
          kept := fun i hI =>
            have hOld : i < line.cursor - 1 := hI
            ⟨by omega, store_outside line _ (by omega)⟩ }
  next hEnds =>
    rw [not_or, not_not] at hEnds
    exact
      { within := hLine
        forward := Nat.le_refl _
        filled := Nat.pos_of_ne_zero hEnds.1
        last := hEnds.2
        kept := fun i hI => ⟨by omega, rfl⟩ }

theorem traceWriteLine_output
    {line : Line}
    (hLine : Within line) :
    (traceWriteLine true line).2 =
      some
        ((List.range (line.ended.cursor - 1)).map line.bytes ++
          ['\n']) := by
  have hSize : 2 ≤ traceLineSize := by
    decide
  have hEnded := ended_ended hLine
  have hFilled := hEnded.filled
  have hInside := hEnded.within.cursor
  unfold traceWriteLine
  rw [if_pos rfl]
  simp only
  rw [if_neg (by omega)]
  have hText :
      (List.range line.ended.cursor).map line.ended.bytes =
        (List.range (line.ended.cursor - 1)).map line.bytes ++
          ['\n'] := by
    calc
      (List.range line.ended.cursor).map line.ended.bytes
          = (List.range (line.ended.cursor - 1 + 1)).map
              line.ended.bytes := by
            rw [Nat.sub_add_cancel hFilled]
      _ = (List.range (line.ended.cursor - 1)).map
              line.ended.bytes ++ ['\n'] := by
            rw [List.range_succ, List.map_append,
              List.map_singleton, hEnded.last]
      _ = _ := by
            congr 1
            apply List.map_congr_left
            intro i hI
            exact (hEnded.kept i (List.mem_range.mp hI)).2
  rw [hText]

------------------------------------------------------------
-- The Text Of A Line
------------------------------------------------------------

/- What stands in front of the cursor. -/
def text (line : Line) : List Char :=
  (List.range line.cursor).map line.bytes

@[simp]
theorem length_text
    (line : Line) :
    line.text.length = line.cursor := by
  simp [text]

theorem Appended.text_eq
    {line after : Line}
    {text : List Char}
    (hAppended : Appended line text after) :
    after.text =
      line.text ++ text.take (after.cursor - line.cursor) := by
  have hForward := hAppended.forward
  have hNew :
      (List.range (after.cursor - line.cursor)).map
          (fun k => after.bytes (line.cursor + k)) =
        text.take (after.cursor - line.cursor) := by
    apply List.ext_getElem?
    intro k
    by_cases hK : k < after.cursor - line.cursor
    · rw [List.getElem?_map, List.getElem?_range hK,
        List.getElem?_take_of_lt hK, hAppended.new k (by omega)]
      rfl
    · rw [List.getElem?_take_eq_none (Nat.le_of_not_lt hK),
        List.getElem?_eq_none]
      simpa using hK
  calc
    after.text
        = (List.range
            (line.cursor + (after.cursor - line.cursor))).map
              after.bytes := by
          rw [Nat.add_sub_cancel' hForward]
          rfl
    _ = (List.range line.cursor).map after.bytes ++
          (List.range (after.cursor - line.cursor)).map
            (fun k => after.bytes (line.cursor + k)) := by
          rw [List.range_add, List.map_append, List.map_map]
          rfl
    _ = line.text ++ text.take (after.cursor - line.cursor) := by
          rw [hNew]
          congr 1
          apply List.map_congr_left
          intro i hI
          exact hAppended.kept i (List.mem_range.mp hI)

/- No call fails. -/
def succeeds : Nat → Option (List Char) :=
  fun _ => none

theorem appendFmt_text
    {line : Line}
    (hCursor : line.cursor ≤ traceLineSize - 1)
    (text : List Char) :
    (appendFmt succeeds line text).text =
      Emit.appendFmt line.text text := by
  have hSize : 0 < traceLineSize := by
    decide
  rw [(appendFmt_appended succeeds text hCursor).text_eq,
    appendFmt_printed text hCursor rfl]
  unfold Emit.appendFmt
  rw [length_text, if_neg (by omega)]
  change
    line.text ++
        text.take
          (min (line.cursor + text.length) (traceLineSize - 1) -
            line.cursor) =
      _
  split
  next hLong =>
    rw [Nat.min_eq_right (by omega), List.take_append, length_text,
      @List.take_of_length_le _ _ line.text
        (by rw [length_text]; exact hCursor)]
  next hShort =>
    rw [Nat.min_eq_left (by omega), Nat.add_sub_cancel_left,
      List.take_length]

theorem appendBytes_text
    (bytes : List UInt8)
    {line : Line}
    (hLine : Within line) :
    (appendBytes succeeds line bytes).text =
      Emit.appendBytes line.text bytes := by
  induction bytes generalizing line with
  | nil => rfl
  | cons c rest ih =>
      unfold appendBytes Emit.appendBytes
      rw [length_text]
      split
      · rw [ih (hLine.appendFmt (escape c)),
          appendFmt_text hLine.cursor]
      · rfl

theorem run_text
    (append : Append)
    {line : Line}
    (hLine : Within line) :
    (run succeeds line append).text = append.run line.text := by
  cases append with
  | fmt text => exact appendFmt_text hLine.cursor text
  | json s =>
      have hOpened : Within (appendFmt succeeds line ['"']) :=
        hLine.appendFmt ['"']
      have hBytes :
          Within
            (appendBytes succeeds (appendFmt succeeds line ['"'])
              (s.getD [])) :=
        @appendBytes_preserves succeeds Within (fun _ => True)
          (fun _ text _ hLine => hLine.appendFmt text)
          (fun _ => trivial) _ _ hOpened
      unfold run appendJsonString
      rw [appendFmt_text hBytes.cursor, appendBytes_text _ hOpened,
        appendFmt_text hLine.cursor]
      rfl

/- The appends of `Trace.Emit` are what the memory holds. -/
theorem appends_text
    (appends : List Append)
    {line : Line}
    (hLine : Within line) :
    (appends.foldl (run succeeds) line).text =
      Emit.perform line.text appends := by
  induction appends generalizing line with
  | nil => rfl
  | cons append appends ih =>
      rw [List.foldl_cons, ih (run_within succeeds append hLine),
        run_text append hLine]
      rfl

/- What is written is what `traceWriteLine` makes of the text. -/
theorem traceWriteLine_text
    {line : Line}
    (hLine : Within line) :
    (traceWriteLine true line).2 =
      some (Emit.traceWriteLine line.text) := by
  have hSize : 2 ≤ traceLineSize := by
    decide
  have hCursor := hLine.cursor
  have hLast :
      (line.text = [] ∨ line.text.getLast? ≠ some '\n') ↔
        (line.cursor = 0 ∨
          line.bytes (line.cursor - 1) ≠ '\n') := by
    rw [← List.length_eq_zero_iff, length_text]
    by_cases hEmpty : line.cursor = 0
    · simp [hEmpty]
    · have hGet :
          line.text.getLast? =
            some (line.bytes (line.cursor - 1)) := by
        rw [List.getLast?_eq_getElem?, length_text, text,
          List.getElem?_map, List.getElem?_range (by omega)]
        rfl
      rw [hGet]
      simp [hEmpty]
  rw [traceWriteLine_output hLine]
  unfold Emit.traceWriteLine
  rw [length_text]
  congr 1
  unfold ended
  by_cases hOpen :
      line.cursor = 0 ∨ line.bytes (line.cursor - 1) ≠ '\n'
  · rw [if_pos hOpen, if_pos (hLast.mpr hOpen)]
    by_cases hRoom : line.cursor < traceLineSize - 1
    · rw [if_pos hRoom, if_pos hRoom]
      rw [List.take_of_length_le (by
        rw [List.length_append, length_text, List.length_singleton]
        omega)]
      rfl
    · rw [if_neg hRoom, if_neg hRoom, store_cursor]
      rw [List.take_of_length_le (by
        rw [List.length_set, length_text]
        omega)]
      apply List.ext_getElem
      · rw [List.length_set, length_text, List.length_append,
          List.length_map, List.length_range, List.length_singleton]
        omega
      · intro i hI hI'
        rw [List.length_set, length_text] at hI'
        rw [List.getElem_set]
        split
        next hIs =>
          rw [List.getElem_append_right (by simp; omega)]
          simp
        next hOther =>
          rw [List.getElem_append_left (by simp; omega)]
          simp [text]
  · rw [if_neg hOpen, if_neg (fun hOr => hOpen (hLast.mp hOr))]
    rw [not_or, not_not] at hOpen
    rw [List.take_of_length_le (by rw [length_text]; omega)]
    calc
      (List.range (line.cursor - 1)).map line.bytes ++ ['\n']
          = (List.range (line.cursor - 1)).map line.bytes ++
              [line.bytes (line.cursor - 1)] := by
            rw [hOpen.2]
      _ = (List.range (line.cursor - 1 + 1)).map line.bytes := by
            rw [List.range_succ, List.map_append,
              List.map_singleton]
      _ = line.text := by
            rw [Nat.sub_add_cancel (Nat.pos_of_ne_zero hOpen.1)]
            rfl

/- An event is written as `Event.emit` says. -/
theorem emit_written
    (bytes : Nat → Char)
    (event : Event) :
    ((event.appends.foldl (run succeeds)
        (start bytes)).traceWriteLine true).2 =
      some event.emit := by
  have hLine :=
    runs_within succeeds event.appends (within_start bytes)
  rw [traceWriteLine_text hLine,
    appends_text event.appends (within_start bytes)]
  rfl

end Line

end Emit

end RsCamera

------------------------------------------------------------
-- Any Calls
------------------------------------------------------------

namespace RsCamera

namespace Emit

/-
  Whatever is appended and whichever calls fail: the cursor
  stays within the line and never moves back, no byte behind
  the line is written, and one line is written that is ended
  by a line end.  It holds no other one unless a text that is
  printed as it is has one.
-/
theorem line_written
    (failures : Nat → Option (List Char))
    (bytes : Nat → Char)
    (calls : List Call) :
    let line := Line.perform failures (Line.start bytes) calls
    let written := line.traceWriteLine true
    (∀ cursor ∈ written.1.cursors, cursor ≤ traceLineSize - 1) ∧
      written.1.cursors.Pairwise (· ≤ ·) ∧
      (∀ address ∈ written.1.writes, address < traceLineSize) ∧
      ∃ front,
        written.2 = some (front ++ ['\n']) ∧
          front.length + 1 ≤ traceLineSize - 1 ∧
          ((∀ call ∈ calls, NoLineEnd call.raw) →
            NoLineEnd front) := by
  intro line written
  have hLine : Line.Within line :=
    Line.runs_within failures _ (Line.within_start bytes)
  have hEnded : Line.Ended line written.1 := Line.ended_ended hLine
  have hInside := hEnded.within.cursor
  have hFilled := hEnded.filled
  refine ⟨?_, hEnded.within.sorted, hEnded.within.writes,
    (List.range (written.1.cursor - 1)).map line.bytes,
    Line.traceWriteLine_output hLine, ?_, ?_⟩
  · intro cursor hCursor
    exact Nat.le_trans (hEnded.within.last cursor hCursor) hInside
  · rw [List.length_map, List.length_range]
    omega
  · intro hCalls hIn
    have hClean :=
      Line.perform_clean failures (Line.within_start bytes)
        (Line.clean_start bytes) hCalls
    rcases List.mem_map.mp hIn with ⟨i, hI, hEnd⟩
    have hOld := (hEnded.kept i (List.mem_range.mp hI)).1
    exact hClean i hOld hEnd

/- A string of one line end is escaped. -/
theorem line_written_escaped :
    ∃ front,
      ((Line.perform (fun _ => none) (Line.start (fun _ => '\x00'))
          [.json (some [10])]).traceWriteLine true).2 =
          some (front ++ ['\n']) ∧
        NoLineEnd front := by
  rcases line_written (fun _ => none) (fun _ => '\x00')
      [.json (some [10])] with
    ⟨-, -, -, front, hOutput, -, hFront⟩
  refine ⟨front, hOutput, hFront ?_⟩
  rw [List.forall_mem_singleton]
  simp [NoLineEnd, Call.raw]

/- A format with a line end in it is put out as it is. -/
theorem line_two_ends :
    ((Line.perform (fun _ => none) (Line.start (fun _ => '\x00'))
        [.fmt "a\nb".toList]).traceWriteLine true).2 =
      some ['a', '\n', 'b', '\n'] := by
  decide

end Emit

end RsCamera
