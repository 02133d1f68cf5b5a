import Mathlib.Algebra.Order.Floor.Ring
import Mathlib.Algebra.Order.Ring.Rat
import Mathlib.Data.List.MinMax
import Mathlib.Data.List.Sort
import Mathlib.Data.Prod.Lex
import Mathlib.Data.Rat.Floor
import RsCamera.Lib.Brackets
import RsCamera.Lib.Containers
import RsCamera.Lib.Sorted

/-
  The stage trace of the capture threads
  (`parse_v4l2_diagnostic_trace.py`).

  The file is a header block and an array of events, each
  thread's in the lanes of the processors that it ran on.
  The events are sorted, and one loop over them finds the
  gaps in the numbers of the video frames and matches the
  end of each stage with its beginning.

  A stage is written here as what its name says: an interval
  of processing begins or ends.  A quotient of integers is
  the exact one.

  Key definitions include:
    * `Span`, `Stage`, `stageOf`
    * `readTrace`, `phaseWindow`
    * `loadActivations`, `activationAt`
    * `EventRow`, `DurationRow`, `SequenceGapRow`
    * `recordVideo`, `recordStage`, `scanRows`
    * `parseTrace`

  Key theorems include:
    * `Stage.name_suffix_begin_iff`
    * `Stage.name_suffix_end_iff`
    * `parseTrace_ok`
-/

------------------------------------------------------------
-- Stages
------------------------------------------------------------

namespace RsCamera

namespace V4l2

/- The stages that take time. -/
inductive Span
| metadata
| videoDqbuf
| metadataDqbuf
| callback
| requeue
| sensorTimestamp
| sensorAllocate
| sensorCopy
| sensorContinue
| sensorInvoke
| syncerMatch
| syncerEmit
| aggregatorEnqueue
| pipelineWait
| formatConvert
deriving DecidableEq

/- The names of `STAGES`, without `_begin` and `_end`. -/
def Span.name : Span → String
| .metadata => "metadata"
| .videoDqbuf => "video_dqbuf"
| .metadataDqbuf => "metadata_dqbuf"
| .callback => "callback"
| .requeue => "requeue"
| .sensorTimestamp => "sensor_timestamp"
| .sensorAllocate => "sensor_allocate"
| .sensorCopy => "sensor_copy"
| .sensorContinue => "sensor_continue"
| .sensorInvoke => "sensor_invoke"
| .syncerMatch => "syncer_match"
| .syncerEmit => "syncer_emit"
| .aggregatorEnqueue => "aggregator_enqueue"
| .pipelineWait => "pipeline_wait"
| .formatConvert => "format_convert"

/-
  What an event says; the numbers beyond the table stay as they
  are.
-/
inductive Stage
| selectReturn
| opening (span : Span)
| closing (span : Span)
| unknown (stageId : Nat)
deriving DecidableEq

/- `STAGES.get(stage_id, f"unknown_{stage_id}")`. -/
def Stage.name : Stage → String
| .selectReturn => "select_return"
| .opening span => span.name ++ "_begin"
| .closing span => span.name ++ "_end"
| .unknown stageId => "unknown_" ++ toString stageId

/- The table `STAGES`. -/
def stageOf : Nat → Stage
| 1 => .selectReturn
| 2 => .opening .metadata
| 3 => .closing .metadata
| 4 => .opening .videoDqbuf
| 5 => .closing .videoDqbuf
| 6 => .opening .metadataDqbuf
| 7 => .closing .metadataDqbuf
| 8 => .opening .callback
| 9 => .closing .callback
| 10 => .opening .requeue
| 11 => .closing .requeue
| 12 => .opening .sensorTimestamp
| 13 => .closing .sensorTimestamp
| 14 => .opening .sensorAllocate
| 15 => .closing .sensorAllocate
| 16 => .opening .sensorCopy
| 17 => .closing .sensorCopy
| 18 => .opening .sensorContinue
| 19 => .closing .sensorContinue
| 20 => .opening .sensorInvoke
| 21 => .closing .sensorInvoke
| 22 => .opening .syncerMatch
| 23 => .closing .syncerMatch
| 24 => .opening .syncerEmit
| 25 => .closing .syncerEmit
| 26 => .opening .aggregatorEnqueue
| 27 => .closing .aggregatorEnqueue
| 28 => .opening .pipelineWait
| 29 => .closing .pipelineWait
| 30 => .opening .formatConvert
| 31 => .closing .formatConvert
| stageId => .unknown stageId

/- A stage is its name: the keys of the stacks are names. -/
theorem Span.name_injective :
    Function.Injective Span.name := by
  intro left right hName
  cases left <;> cases right <;>
    first
      | rfl
      | exact absurd hName (by decide)

/- An unknown stage has a name that ends in a digit. -/
theorem Stage.getLast?_unknown
    {stageId : Nat}
    {c : Char}
    (hLast :
      (Stage.unknown stageId).name.toList.getLast? = some c) :
    c.isDigit = true := by
  have hDigits :
      (toString stageId).toList = Nat.toDigits 10 stageId := by
    simp [Nat.toString_eq_repr, Nat.repr]
  rw [Stage.name, String.toList_append, hDigits,
    List.getLast?_append_of_ne_nil _ Nat.toDigits_ne_nil] at hLast
  have hMem := List.mem_of_getLast? hLast
  exact Nat.isDigit_of_mem_toDigits (by decide : 0 < 10)
    (by decide) hMem

theorem getLast?_of_suffix
    {suffix text : List Char}
    (hSuffix : suffix <:+ text)
    (hNonempty : suffix ≠ []) :
    text.getLast? = suffix.getLast? := by
  rcases hSuffix with ⟨front, rfl⟩
  exact List.getLast?_append_of_ne_nil _ hNonempty

/- `stage.endswith("_begin")`. -/
theorem Stage.name_suffix_begin_iff
    (stage : Stage) :
    "_begin".toList <:+ stage.name.toList ↔
      ∃ span, stage = .opening span := by
  cases stage with
  | selectReturn =>
      simp only [reduceCtorEq, exists_false, iff_false]
      decide
  | opening span => simp [Stage.name]
  | closing span =>
      simp only [reduceCtorEq, exists_false, iff_false]
      intro hSuffix
      have hLast := getLast?_of_suffix hSuffix (by decide)
      rw [Stage.name, String.toList_append,
        List.getLast?_append_of_ne_nil _ (by decide)] at hLast
      exact absurd hLast (by decide)
  | unknown stageId =>
      simp only [reduceCtorEq, exists_false, iff_false]
      intro hSuffix
      have hLast := getLast?_of_suffix hSuffix (by decide)
      exact absurd (Stage.getLast?_unknown (c := 'n') hLast)
        (by decide)

/- The keys of the table `PAIRS`. -/
theorem Stage.name_suffix_end_iff
    (stage : Stage) :
    "_end".toList <:+ stage.name.toList ↔
      ∃ span, stage = .closing span := by
  cases stage with
  | selectReturn =>
      simp only [reduceCtorEq, exists_false, iff_false]
      decide
  | opening span =>
      simp only [reduceCtorEq, exists_false, iff_false]
      intro hSuffix
      have hLast := getLast?_of_suffix hSuffix (by decide)
      rw [Stage.name, String.toList_append,
        List.getLast?_append_of_ne_nil _ (by decide)] at hLast
      exact absurd hLast (by decide)
  | closing span => simp [Stage.name]
  | unknown stageId =>
      simp only [reduceCtorEq, exists_false, iff_false]
      intro hSuffix
      have hLast := getLast?_of_suffix hSuffix (by decide)
      exact absurd (Stage.getLast?_unknown (c := 'd') hLast)
        (by decide)

------------------------------------------------------------
-- The File
------------------------------------------------------------

/- A little-endian number. -/
def unsigned (bytes : List UInt8) : Nat :=
  bytes.foldr (fun byte rest => byte.toNat + 256 * rest) 0

/- A four-byte number in two's complement. -/
def signed (bytes : List UInt8) : Int :=
  if unsigned bytes < 2 ^ 31 then
    (unsigned bytes : Int)
  else
    (unsigned bytes : Int) - 2 ^ 32

/- The bytes of one field of a record. -/
def field (bytes : List UInt8) (offset width : Nat) : List UInt8 :=
  (bytes.drop offset).take width

/- `struct.Struct("<8sIIIIQQQ")`. -/
structure Header where
  magic : List UInt8
  version : Nat
  headerSize : Nat
  eventSize : Nat
  capacity : Nat
  count : Nat
  dropped : Nat
deriving DecidableEq

/- `HEADER.size`. -/
def headerStructSize : Nat := 48

/- `HEADER.unpack_from`; the fourth number is reserved. -/
def unpackHeader (raw : List UInt8) : Header where
  magic := field raw 0 8
  version := unsigned (field raw 8 4)
  headerSize := unsigned (field raw 12 4)
  eventSize := unsigned (field raw 16 4)
  capacity := unsigned (field raw 24 8)
  count := unsigned (field raw 32 8)
  dropped := unsigned (field raw 40 8)

/- `struct.Struct("<QIHHiiII")`. -/
structure Event where
  timestampNs : Nat
  tid : Nat
  cpu : Nat
  stageId : Nat
  fd : Int
  result : Int
  sequence : Nat
deriving DecidableEq

/- `EVENT.size`. -/
def eventStructSize : Nat := 32

/- `EVENT.unpack_from`; the last number is not used. -/
def unpackEvent (raw : List UInt8) : Event where
  timestampNs := unsigned (field raw 0 8)
  tid := unsigned (field raw 8 4)
  cpu := unsigned (field raw 12 2)
  stageId := unsigned (field raw 14 2)
  fd := signed (field raw 16 4)
  result := signed (field raw 20 4)
  sequence := unsigned (field raw 24 4)

/- `HEADER_BYTES`: the events begin after a page. -/
def headerBytes : Nat := 4096

/- The bytes of "RSV4L2D". -/
def magic : List UInt8 :=
  [0x52, 0x53, 0x56, 0x34, 0x4c, 0x32, 0x44]

/- The header and the events, in the order of the file. -/
def readTrace
    (file : List UInt8) : Except String (Header × List Event) := do
  let rawHeader := file.take headerBytes
  if rawHeader.length < headerStructSize then
    throw "V4L2 diagnostic trace header is truncated"
  let header := unpackHeader rawHeader
  if header.magic.take 7 ≠ magic ∨ header.version ≠ 1 then
    throw "unsupported V4L2 diagnostic trace"
  if header.headerSize ≠ headerBytes ∨
      header.eventSize ≠ eventStructSize then
    throw "unexpected V4L2 diagnostic trace layout"
  let storedCount := min header.count header.capacity
  let rawEvents :=
    (file.drop headerBytes).take (storedCount * eventStructSize)
  if rawEvents.length ≠ storedCount * eventStructSize then
    throw "V4L2 diagnostic trace event array is truncated"
  return (header,
    (List.range storedCount).map (fun index =>
      unpackEvent (rawEvents.drop (index * eventStructSize))))

------------------------------------------------------------
-- The Window And The Activations
------------------------------------------------------------

/- A line of the lifecycle file. -/
structure LifecycleRow where
  event : String
  name : String
  timestampNs : Int
deriving DecidableEq

/- The steady state, both ends included. -/
structure Window where
  beginNs : Int
  endNs : Int
deriving DecidableEq

/- `phase_window`: each of the two markers has to stand once. -/
def phaseWindow
    (lifecycle : List LifecycleRow) : Except String Window :=
  let markers :=
    groupLists LifecycleRow.name
      (lifecycle.filter (fun row => row.event = "phase_marker"))
  match markers.getD "steady_state_begin" [],
      markers.getD "steady_state_end" [] with
  | [first], [last] =>
      if last.timestampNs ≤ first.timestampNs then
        .error "lifecycle must contain one valid steady-state window"
      else
        .ok ⟨first.timestampNs, last.timestampNs⟩
  | _, _ =>
      .error "lifecycle must contain one valid steady-state window"

/- A line of `thread_steady_activations.csv`. -/
structure ActivationRow where
  tid : Int
  activation : Int
  releaseNs : Int
  completionNs : Int
deriving DecidableEq

/-
  The activations of a thread, behind their releases for the
  bisection.
-/
abbrev ActivationIndex :=
  Dict Int (List Int × List ActivationRow)

/- Without the file there are no rows, and no index. -/
def loadActivations
    (rows : List ActivationRow) : ActivationIndex :=
  (groupLists ActivationRow.tid rows).items.foldl
    (fun result item =>
      let sorted :=
        item.2.insertionSort
          (fun left right => left.releaseNs ≤ right.releaseNs)
      result.set item.1
        (sorted.map ActivationRow.releaseNs, sorted))
    ∅

/-
  `activation_at`: the last activation released by then, when it
  was not complete.
-/
def activationAt
    (activations : ActivationIndex)
    (tid timestampNs : Int) : Option Int :=
  match activations.get? tid with
  | none => none
  | some (releases, rows) =>
      match bisectRight releases timestampNs with
      | 0 => none
      | position + 1 =>
          match rows[position]? with
          | none => none
          | some row =>
              if timestampNs ≤ row.completionNs then
                some row.activation
              else
                none

------------------------------------------------------------
-- Rows
------------------------------------------------------------

/- A line of the table of events. -/
structure EventRow where
  timestampNs : Int
  timeFromSteadyBeginMs : ℚ
  inSteadyState : Bool
  tid : Int
  cpu : Int
  stage : Stage
  fd : Int
  result : Int
  sequence : Int
  activation : Option Int
deriving DecidableEq

/-
  The line of an event; the stage is named and the activation
  looked up.
-/
def eventRow
    (window : Window)
    (activations : ActivationIndex)
    (event : Event) : EventRow where
  timestampNs := event.timestampNs
  timeFromSteadyBeginMs :=
    ((event.timestampNs : Int) - window.beginNs : Int) / 1000000
  inSteadyState :=
    window.beginNs ≤ event.timestampNs ∧
      event.timestampNs ≤ window.endNs
  tid := event.tid
  cpu := event.cpu
  stage := stageOf event.stageId
  fd := event.fd
  result := event.result
  sequence := event.sequence
  activation := activationAt activations event.tid event.timestampNs

/- The key of the sort. -/
def EventRow.order (row : EventRow) : Int ×ₗ Int :=
  toLex (row.timestampNs, row.tid)

/- `event_rows.sort`, which is stable. -/
def sortRows (rows : List EventRow) : List EventRow :=
  rows.insertionSort (fun left right => left.order ≤ right.order)

/- A line of the table of the gaps. -/
structure SequenceGapRow where
  timestampNs : Int
  timeFromSteadyBeginMs : ℚ
  tid : Int
  cpu : Int
  fd : Int
  previousSequence : Int
  sequence : Int
  sequenceDelta : Int
  missingFrames : Int
  outOfOrder : Bool
  activation : Option Int
deriving DecidableEq

/-
  A frame that does not follow the one before it on its stream.
-/
def sequenceGapRow
    (previous : Int)
    (row : EventRow) : SequenceGapRow where
  timestampNs := row.timestampNs
  timeFromSteadyBeginMs := row.timeFromSteadyBeginMs
  tid := row.tid
  cpu := row.cpu
  fd := row.fd
  previousSequence := previous
  sequence := row.sequence
  sequenceDelta := row.sequence - previous
  missingFrames := max 0 (row.sequence - previous - 1)
  outOfOrder := row.sequence ≤ previous
  activation := row.activation

/- A line of the table of the durations. -/
structure DurationRow where
  tid : Int
  cpu : Int
  fd : Int
  stage : Span
  beginNs : Int
  endNs : Int
  durationMs : ℚ
  sequence : Int
  inSteadyState : Bool
  activation : Option Int
deriving DecidableEq

/- A stage from the row of its beginning to the row of its end. -/
def durationRow
    (span : Span)
    (beginRow row : EventRow) : DurationRow where
  tid := row.tid
  cpu := row.cpu
  fd := row.fd
  stage := span
  beginNs := beginRow.timestampNs
  endNs := row.timestampNs
  durationMs :=
    (row.timestampNs - beginRow.timestampNs : Int) / 1000000
  sequence := row.sequence
  inSteadyState := beginRow.inSteadyState && row.inSteadyState
  activation := row.activation

------------------------------------------------------------
-- The Loop
------------------------------------------------------------

/- The variables of the loop. -/
structure Scan where
  previousVideoSequence : Dict (Int × Int) Int
  sequenceGapRows : List SequenceGapRow
  videoFramesByStream : Dict (Int × Int) Nat
  stageStacks : Dict (Int × Int × Span) (List EventRow)
  durationRows : List DurationRow

/- Before the first row. -/
def Scan.start : Scan where
  previousVideoSequence := ∅
  sequenceGapRows := []
  videoFramesByStream := ∅
  stageStacks := ∅
  durationRows := []

/- The video frames, in the steady state only. -/
def EventRow.isSteadyVideo (row : EventRow) : Bool :=
  row.stage = .closing .videoDqbuf && row.inSteadyState

/- A stream is a file descriptor of a thread. -/
def EventRow.streamKey (row : EventRow) : Int × Int :=
  (row.tid, row.fd)

/-
  The frames of a stream are counted and compared with the frame
  before.
-/
def recordVideo (scan : Scan) (row : EventRow) : Scan :=
  if row.isSteadyVideo then
    let key := row.streamKey
    { scan with
      videoFramesByStream :=
        scan.videoFramesByStream.set key
          (scan.videoFramesByStream.getD key 0 + 1)
      sequenceGapRows :=
        match scan.previousVideoSequence.get? key with
        | none => scan.sequenceGapRows
        | some previous =>
            if row.sequence ≠ previous + 1 then
              scan.sequenceGapRows ++
                [sequenceGapRow previous row]
            else
              scan.sequenceGapRows
      previousVideoSequence :=
        scan.previousVideoSequence.set key row.sequence }
  else
    scan

/-
  The last beginning of the same stage is popped.  An end
  without a beginning is skipped.
-/
def recordStage (scan : Scan) (row : EventRow) : Scan :=
  match row.stage with
  | .opening span =>
      let key := (row.tid, row.fd, span)
      { scan with
        stageStacks :=
          scan.stageStacks.set key (row :: scan.stageStacks.getD key []) }
  | .closing span =>
      let key := (row.tid, row.fd, span)
      match scan.stageStacks.getD key [] with
      | [] => { scan with stageStacks := scan.stageStacks.set key [] }
      | beginRow :: rest =>
          { scan with
            stageStacks := scan.stageStacks.set key rest
            durationRows :=
              scan.durationRows ++
                [durationRow span beginRow row] }
  | _ => scan

/- The loop over the sorted rows. -/
def scanRows (rows : List EventRow) : Scan :=
  rows.foldl
    (fun scan row => recordStage (recordVideo scan row) row)
    Scan.start

------------------------------------------------------------
-- The Report
------------------------------------------------------------

/- `percentile`, which interpolates between two neighbours. -/
def percentile (values : List ℚ) (quantile : ℚ) : ℚ :=
  let ordered := values.insertionSort (· ≤ ·)
  if ordered = [] then
    0
  else
    let position := quantile * (ordered.length - 1 : Nat)
    let low := ⌊position⌋.toNat
    let high := min (low + 1) (ordered.length - 1)
    ordered.getD low 0 +
      (ordered.getD high 0 - ordered.getD low 0) *
        (position - low)

/- The keys of `distribution`. -/
structure Distribution where
  n : Nat
  min : ℚ
  mean : ℚ
  p50 : ℚ
  p90 : ℚ
  p99 : ℚ
  max : ℚ
deriving DecidableEq

/- `distribution`; without samples everything is zero. -/
def distribution : List ℚ → Distribution
| [] => ⟨0, 0, 0, 0, 0, 0, 0⟩
| first :: rest =>
    let samples := first :: rest
    { n := samples.length
      min := rest.foldl min first
      mean := samples.sum / samples.length
      p50 := percentile samples (1 / 2)
      p90 := percentile samples (9 / 10)
      p99 := percentile samples (99 / 100)
      max := rest.foldl max first }

/- The entry of a stream in the summary. -/
structure VideoStream where
  tid : Int
  fd : Int
  frames : Nat
  sequenceDiscontinuities : Nat
  missingFrames : Int
deriving DecidableEq

/- The frames of a stream and the gaps between them. -/
def videoStream
    (gaps : List SequenceGapRow)
    (item : (Int × Int) × Nat) : VideoStream :=
  let own :=
    gaps.filter (fun row =>
      row.tid = item.1.1 ∧ row.fd = item.1.2)
  { tid := item.1.1
    fd := item.1.2
    frames := item.2
    sequenceDiscontinuities := own.length
    missingFrames := (own.map SequenceGapRow.missingFrames).sum }

/- The keys of the summary that are computed from the rows. -/
structure Summary where
  eventCount : Nat
  storedEventCount : Nat
  droppedEventCount : Nat
  compactOutput : Bool
  steadyEventCount : Nat
  unmatchedBeginCount : Nat
  rawVideoSequenceDiscontinuityCount : Nat
  rawVideoMissingFrameCount : Int
  rawVideoStreams : List VideoStream
  stagesMs : List (Span × Distribution)
  longestSteadyStage : Option DurationRow
deriving DecidableEq

/- The summary; the streams and the stages are sorted. -/
def summarize
    (header : Header)
    (compactOutput : Bool)
    (eventRows : List EventRow)
    (scan : Scan) : Summary :=
  let steadyDurations :=
    scan.durationRows.filter DurationRow.inSteadyState
  let streams :=
    scan.videoFramesByStream.items.insertionSort
      (fun left right => toLex left.1 ≤ toLex right.1)
  let stages :=
    (steadyDurations.map DurationRow.stage).dedup.insertionSort
      (fun left right => left.name ≤ right.name)
  { eventCount := header.count
    storedEventCount := min header.count header.capacity
    droppedEventCount := header.dropped
    compactOutput := compactOutput
    steadyEventCount := eventRows.countP EventRow.inSteadyState
    unmatchedBeginCount :=
      (scan.stageStacks.items.map
        (fun item => item.2.length)).sum
    rawVideoSequenceDiscontinuityCount :=
      scan.sequenceGapRows.length
    rawVideoMissingFrameCount :=
      (scan.sequenceGapRows.map
        SequenceGapRow.missingFrames).sum
    rawVideoStreams :=
      streams.map (videoStream scan.sequenceGapRows)
    stagesMs :=
      stages.map (fun stage =>
        (stage, distribution
          ((steadyDurations.filter
            (fun row => row.stage = stage)).map
              DurationRow.durationMs)))
    longestSteadyStage :=
      steadyDurations.argmax DurationRow.durationMs }

/- The rows of the three tables, and the summary. -/
structure Report where
  eventRows : List EventRow
  durationRows : List DurationRow
  sequenceGapRows : List SequenceGapRow
  summary : Summary
deriving DecidableEq

/-
  `parse_trace`, from the three files to the tables and the
  summary.
-/
def parseTrace
    (file : List UInt8)
    (lifecycle : List LifecycleRow)
    (activationRows : List ActivationRow)
    (compactOutput : Bool) : Except String Report := do
  let window ← phaseWindow lifecycle
  let activations := loadActivations activationRows
  let (header, events) ← readTrace file
  let eventRows :=
    sortRows (events.map (eventRow window activations))
  let scan := scanRows eventRows
  return {
    eventRows := eventRows
    durationRows := scan.durationRows
    sequenceGapRows := scan.sequenceGapRows
    summary := summarize header compactOutput eventRows scan }

theorem parseTrace_ok
    {file : List UInt8}
    {lifecycle : List LifecycleRow}
    {activationRows : List ActivationRow}
    {compactOutput : Bool}
    {report : Report}
    (hParse :
      parseTrace file lifecycle activationRows compactOutput =
        .ok report) :
    ∃ window header events,
      phaseWindow lifecycle = .ok window ∧
        readTrace file = .ok (header, events) ∧
        report.eventRows =
          sortRows (events.map
            (eventRow window (loadActivations activationRows))) ∧
        report.durationRows =
          (scanRows report.eventRows).durationRows ∧
        report.sequenceGapRows =
          (scanRows report.eventRows).sequenceGapRows ∧
        report.summary =
          summarize header compactOutput report.eventRows
            (scanRows report.eventRows) := by
  unfold parseTrace at hParse
  rcases bind_eq_ok.mp hParse with
    ⟨window, hWindow, hRest⟩
  rcases bind_eq_ok.mp hRest with
    ⟨⟨header, events⟩, hRead, hReport⟩
  cases hReport
  exact ⟨window, header, events, hWindow, hRead,
    rfl, rfl, rfl, rfl⟩

end V4l2

end RsCamera
