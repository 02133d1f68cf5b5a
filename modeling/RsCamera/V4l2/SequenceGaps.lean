import RsCamera.Lib.Streams
import RsCamera.V4l2.Diagnostic

/-
  Gaps in the numbers of the frames, in the events of the
  capture threads and in the trace of the kernel
  (`discontinuities` in `parse_freshness_kernel_trace.py`).

  The two detectors are written apart, over rows of another
  shape and with other keys.  Both find the breaks of
  interleaved streams.

  Key definitions include:
    * `Discontinuity`, `discontinuities`
    * `GapReport`, `gapsOf`

  Key theorems include:
    * `discontinuities_eq`
    * `scanRows_sequenceGapRows`
    * `sequenceGapRows_discontinuities`
-/

------------------------------------------------------------
-- The Trace Of The Kernel
------------------------------------------------------------

namespace RsCamera

namespace V4l2

/- A row with what is added to it. -/
structure Discontinuity (Row : Type) where
  row : Row
  previousSequence : Int
  sequenceDelta : Int
  missingFrames : Int
  outOfOrder : Bool
deriving DecidableEq

section Detector

/-
  The key is `minor` in the rows of `v4l2_dqbuf`, and
  `queue` in the rows of `uvc_frame_ready`.
-/
variable {Row : Type}
variable (key sequence : Row → Int)

/- A row that does not follow the last. -/
def discontinuity (last : Int) (row : Row) : Discontinuity Row where
  row := row
  previousSequence := last
  sequenceDelta := sequence row - last
  missingFrames := max 0 (sequence row - last - 1)
  outOfOrder := sequence row ≤ last

/- One row of the loop. -/
def discontinuitiesStep
    (state : Dict Int Int × List (Discontinuity Row))
    (row : Row) : Dict Int Int × List (Discontinuity Row) :=
  let gaps :=
    match state.1.get? (key row) with
    | none => state.2
    | some last =>
        if sequence row ≠ last + 1 then
          state.2 ++ [discontinuity sequence last row]
        else
          state.2
  (state.1.set (key row) (sequence row), gaps)

/- `discontinuities`. -/
def discontinuities (rows : List Row) : List (Discontinuity Row) :=
  (rows.foldl (discontinuitiesStep key sequence) (∅, [])).2

end Detector

------------------------------------------------------------
-- Both Detect Breaks
------------------------------------------------------------

section

open Streams

theorem discontinuities_detect
    {Row : Type}
    (key sequence : Row → Int)
    (rows : List Row) :
    rows.foldl (discontinuitiesStep key sequence) (∅, []) =
      ((detect key sequence rows).previous,
        (detect key sequence rows).breaks.map (fun found =>
          discontinuity sequence found.1 found.2)) := by
  induction rows using List.reverseRecOn with
  | nil => simp [detect]
  | append_singleton rows row ih =>
      rw [List.foldl_append, List.foldl_cons, List.foldl_nil,
        ih, detect_concat, detectStep, discontinuitiesStep]
      cases (detect key sequence rows).previous.get?
        (key row) with
      | none => rfl
      | some last =>
          by_cases hNext : sequence row = last + 1
          · simp [hNext]
          · simp [hNext]

theorem discontinuities_eq
    {Row : Type}
    (key sequence : Row → Int)
    (rows : List Row) :
    discontinuities key sequence rows =
      (detect key sequence rows).breaks.map (fun found =>
        discontinuity sequence found.1 found.2) := by
  rw [discontinuities, discontinuities_detect]

theorem recordStage_sequenceGapRows
    (scan : Scan)
    (row : EventRow) :
    (recordStage scan row).previousVideoSequence =
        scan.previousVideoSequence ∧
      (recordStage scan row).sequenceGapRows =
        scan.sequenceGapRows := by
  unfold recordStage
  cases row.stage with
  | selectReturn => simp
  | unknown stageId => simp
  | opening span => simp
  | closing span =>
      simp only
      split <;> simp

/- The loop detects the breaks in the steady video frames. -/
theorem scanRows_sequenceGapRows
    (rows : List EventRow) :
    (scanRows rows).previousVideoSequence =
        (detect EventRow.streamKey EventRow.sequence
          (rows.filter EventRow.isSteadyVideo)).previous ∧
      (scanRows rows).sequenceGapRows =
        (detect EventRow.streamKey EventRow.sequence
          (rows.filter EventRow.isSteadyVideo)).breaks.map
            (fun found => sequenceGapRow found.1 found.2) := by
  induction rows using List.reverseRecOn with
  | nil => simp [scanRows, Scan.start, detect]
  | append_singleton rows row ih =>
      have hConcat :
          scanRows (rows ++ [row]) =
            recordStage (recordVideo (scanRows rows) row)
              row := by
        simp [scanRows]
      have hStage := recordStage_sequenceGapRows
        (recordVideo (scanRows rows) row) row
      rw [hConcat, hStage.1, hStage.2, List.filter_append]
      cases hVideo : row.isSteadyVideo with
      | false => simpa [recordVideo, hVideo] using ih
      | true =>
          simp only [recordVideo, hVideo, if_true, ih,
            List.filter_cons_of_pos, List.filter_nil,
            detect_concat, detectStep]
          refine ⟨trivial, ?_⟩
          cases (detect EventRow.streamKey EventRow.sequence
            (rows.filter EventRow.isSteadyVideo)).previous.get?
              row.streamKey with
          | none => rfl
          | some previous =>
              by_cases hNext : row.sequence = previous + 1
              · simp [hNext]
              · simp [hNext]

end

------------------------------------------------------------
-- Reports
------------------------------------------------------------

open Streams

/- What both tables say of a gap. -/
structure GapReport (K : Type) where
  key : K
  previousSequence : Int
  sequence : Int
  sequenceDelta : Int
  missingFrames : Int
  outOfOrder : Bool
deriving DecidableEq

def SequenceGapRow.report
    (row : SequenceGapRow) : GapReport (Int × Int) where
  key := (row.tid, row.fd)
  previousSequence := row.previousSequence
  sequence := row.sequence
  sequenceDelta := row.sequenceDelta
  missingFrames := row.missingFrames
  outOfOrder := row.outOfOrder

def Discontinuity.report
    {Row : Type}
    (key sequence : Row → Int)
    (gap : Discontinuity Row) : GapReport Int where
  key := key gap.row
  previousSequence := gap.previousSequence
  sequence := sequence gap.row
  sequenceDelta := gap.sequenceDelta
  missingFrames := gap.missingFrames
  outOfOrder := gap.outOfOrder

/- The report of a number that does not follow another. -/
def gapReport {K : Type} (key : K) (previous sequence : Int) :
    GapReport K where
  key := key
  previousSequence := previous
  sequence := sequence
  sequenceDelta := sequence - previous
  missingFrames := max 0 (sequence - previous - 1)
  outOfOrder := sequence ≤ previous

def GapReport.relabel
    {K L : Type}
    (label : K → L)
    (report : GapReport K) : GapReport L where
  key := label report.key
  previousSequence := report.previousSequence
  sequence := report.sequence
  sequenceDelta := report.sequenceDelta
  missingFrames := report.missingFrames
  outOfOrder := report.outOfOrder

/- The neighbours that are not consecutive, in one stream. -/
def gapsOf {K : Type} (key : K) (numbers : List Int) :
    List (GapReport K) :=
  ((neighbours numbers).filter (fun pair =>
    pair.2 ≠ pair.1 + 1)).map (fun pair =>
      gapReport key pair.1 pair.2)

section Reports

variable {K X : Type}
variable [DecidableEq K]
variable (key : X → K)
variable (number : X → Int)

/- The reports of all breaks of interleaved streams. -/
def breakReports (xs : List X) : List (GapReport K) :=
  (detect key number xs).breaks.map (fun found =>
    gapReport (key found.2) found.1 (number found.2))

theorem filter_breakReports
    (xs : List X)
    (k : K) :
    (breakReports key number xs).filter
        (fun report => report.key = k) =
      gapsOf k
        ((xs.filter (fun x => key x = k)).map number) := by
  have hBreaks := breaks_detect key number xs k
  have hKeys :
      (breakReports key number xs).filter
          (fun report => report.key = k) =
        ((detect key number xs).breaks.filter (fun found =>
          key found.2 = k)).map (fun found =>
            gapReport k found.1 (number found.2)) := by
    rw [breakReports, List.filter_map]
    simp only [Function.comp_def, gapReport]
    apply List.map_congr_left
    intro found hFound
    have hKey : key found.2 = k := by
      simpa using List.of_mem_filter hFound
    rw [hKey]
  rw [hKeys, hBreaks, breaksOf, gapsOf, neighbours_map,
    List.filter_map, List.map_map, List.map_map]
  rfl

end Reports

/- A consecutive pair has nothing missing. -/
theorem sum_gapsOf
    {K : Type}
    (key : K)
    {numbers : List Int}
    {first last : Int}
    (hFirst : numbers.head? = some first)
    (hLast : numbers.getLast? = some last)
    (hIncreasing : numbers.Pairwise (· < ·)) :
    ((gapsOf key numbers).map GapReport.missingFrames).sum =
      last - first + 1 - numbers.length := by
  rw [← sum_neighbours hFirst hLast hIncreasing, gapsOf,
    List.map_map]
  induction neighbours numbers with
  | nil => simp
  | cons pair pairs ih =>
      rw [List.filter_cons, List.map_cons, List.sum_cons, ← ih]
      by_cases hNext : pair.2 = pair.1 + 1
      · simp [hNext]
      · simp [hNext, gapReport]

/-
  The table of the capture threads and the table of the
  kernel have the same reports for the same streams: of each
  key the neighbours in its own stream that are not
  consecutive.
-/
theorem sequenceGapRows_discontinuities
    {Row : Type}
    (events : List EventRow)
    (key sequence : Row → Int)
    (rows : List Row) :
    let frames := events.filter EventRow.isSteadyVideo
    let raw :=
      (scanRows events).sequenceGapRows.map SequenceGapRow.report
    let found :=
      (discontinuities key sequence rows).map
        (Discontinuity.report key sequence)
    (∀ stream : Int × Int,
      raw.filter (fun report => report.key = stream) =
        gapsOf stream
          ((frames.filter (fun row =>
            row.streamKey = stream)).map EventRow.sequence)) ∧
    (∀ k : Int,
      found.filter (fun report => report.key = k) =
        gapsOf k
          ((rows.filter (fun row => key row = k)).map
            sequence)) ∧
    (∀ label : Int × Int → Int, Function.Injective label →
      frames.map (fun row =>
          (label row.streamKey, row.sequence)) =
        rows.map (fun row => (key row, sequence row)) →
      raw.map (GapReport.relabel label) = found) ∧
    (∀ (stream : Int × Int) (numbers : List Int),
      (frames.filter (fun row => row.streamKey = stream)).map
        EventRow.sequence = numbers →
      ∀ first last, numbers.head? = some first →
        numbers.getLast? = some last →
        numbers.Pairwise (· < ·) →
        ((raw.filter (fun report => report.key = stream)).map
            GapReport.missingFrames).sum =
          last - first + 1 - numbers.length) ∧
    (∀ (k : Int) (numbers : List Int),
      (rows.filter (fun row => key row = k)).map sequence =
        numbers →
      ∀ first last, numbers.head? = some first →
        numbers.getLast? = some last →
        numbers.Pairwise (· < ·) →
        ((found.filter (fun report => report.key = k)).map
            GapReport.missingFrames).sum =
          last - first + 1 - numbers.length) ∧
    ∀ file lifecycle activationRows compactOutput report,
      parseTrace file lifecycle activationRows compactOutput =
        .ok report →
      report.sequenceGapRows =
        (scanRows report.eventRows).sequenceGapRows := by
  intro frames raw found
  have hRaw :
      raw =
        breakReports EventRow.streamKey EventRow.sequence
          frames := by
    simp only [raw, frames]
    rw [(scanRows_sequenceGapRows events).2, List.map_map]
    rfl
  have hFound : found = breakReports key sequence rows := by
    simp only [found]
    rw [discontinuities_eq, List.map_map]
    rfl
  refine ⟨?_, ?_, ?_, ?_, ?_, ?_⟩
  · intro stream
    rw [hRaw, filter_breakReports]
  · intro k
    rw [hFound, filter_breakReports]
  · intro label hLabel hSame
    have hBreaks :=
      breaks_relabel EventRow.streamKey EventRow.sequence hLabel
        hSame
    have hReports := congrArg
      (List.map (fun found : Int × Int × Int =>
        gapReport found.2.1 found.1 found.2.2)) hBreaks
    rw [List.map_map, List.map_map] at hReports
    rw [hRaw, hFound, breakReports, breakReports, List.map_map]
    exact hReports
  · intro stream numbers hNumbers first last hFirst hLast hLess
    rw [hRaw, filter_breakReports, hNumbers]
    exact sum_gapsOf stream hFirst hLast hLess
  · intro k numbers hNumbers first last hFirst hLast hLess
    rw [hFound, filter_breakReports, hNumbers]
    exact sum_gapsOf k hFirst hLast hLess
  · intro file lifecycle activationRows compactOutput report
      hParse
    rcases parseTrace_ok hParse with
      ⟨-, -, -, -, -, -, -, hGaps, -⟩
    exact hGaps

end V4l2

end RsCamera
