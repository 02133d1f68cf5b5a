import Mathlib.Data.Finset.Card
import Mathlib.Data.List.Sort
import RsCamera.Lib.Dict
import RsCamera.Lib.Numeral
import RsCamera.Steady.Metrics

/-
  The table of frame events that the probe writes and the
  three passes that recount it from the file
  (`write_events` in `realsense_steady_probe.cpp`,
  `reproduction/paper_metrics.py`,
  `reproduction/e4_scheduling/metrics.py`,
  `tools/realsense_steady_bench/summarize_p1_v2.py`).

  A row holds the texts of the columns that the passes read.
  A pass fails where a text is no integer.  Dictionaries
  keep the order of insertion; the sets are finite sets.

  Key definitions include:
    * `FrameRow`, `writeEvents`
    * `framesetProblemCounts`
    * `E4.reconstructFreshness`, `P1.reconstructFreshness`
    * `framesetFreshnessMetrics`
-/

------------------------------------------------------------
-- Rows
------------------------------------------------------------

namespace RsCamera

namespace Reproduction

section

open Steady

/- The columns of a row that are read. -/
structure FrameRow where
  cameraIndex : String
  delivery : String
  stream : String
  streamIndex : String
  frameNumber : String
deriving Repr, DecidableEq

/- The row of one event of the camera with an index. -/
def eventRow (index : Nat) (event : FrameEvent) : FrameRow where
  cameraIndex := toString index
  delivery := toString event.delivery
  stream := rs2StreamToString event.stream
  streamIndex := toString event.streamIndex
  frameNumber := toString event.frameNumber

/- The rows of the cameras from an index on. -/
def writeEventsFrom :
    Nat → List CameraMetrics → List FrameRow
| _, [] => []
| index, metrics :: cameras =>
    metrics.events.items.map (eventRow index) ++
      writeEventsFrom (index + 1) cameras

/- The cameras one after another, each with its events. -/
def writeEvents (cameras : List CameraMetrics) : List FrameRow :=
  writeEventsFrom 0 cameras

end

------------------------------------------------------------
-- Problem Counts
------------------------------------------------------------

/- The sets and maxima of the loop. -/
structure ProblemState where
  highest : Dict (Int × String × Int) Int := ∅
  deliveries : Finset (Int × Int) := ∅
  stale : Finset (Int × Int) := ∅
  gaps : Finset (Int × Int) := ∅

/- What the function returns. -/
structure ProblemCounts where
  deliveredFramesets : Nat
  framesetsWithStaleStreams : Nat
  framesetsWithGaps : Nat
  problematicFramesets : Nat
deriving Repr, DecidableEq

/- Account one row whose numbers have been read. -/
def ProblemState.observe
    (state : ProblemState)
    (delivery : Int × Int)
    (stream : Int × String × Int)
    (frameNumber : Int) : ProblemState where
  highest :=
    state.highest.set stream
      (max (state.highest.getD stream frameNumber) frameNumber)
  deliveries := insert delivery state.deliveries
  stale :=
    match state.highest.get? stream with
    | none => state.stale
    | some highest =>
        if frameNumber ≤ highest then
          insert delivery state.stale
        else
          state.stale
  gaps :=
    match state.highest.get? stream with
    | none => state.gaps
    | some highest =>
        if frameNumber ≤ highest then
          state.gaps
        else if highest + 1 < frameNumber then
          insert delivery state.gaps
        else
          state.gaps

/- One row of the loop. -/
def problemStep
    (state : ProblemState)
    (row : FrameRow) : Except String ProblemState := do
  let camera ← pyInt row.cameraIndex
  let delivery ← pyInt row.delivery
  let streamIndex ← pyInt row.streamIndex
  let frameNumber ← pyInt row.frameNumber
  return state.observe (camera, delivery)
    (camera, row.stream, streamIndex) frameNumber

/- `frameset_problem_counts`. -/
def framesetProblemCounts
    (rows : List FrameRow) : Except String ProblemCounts := do
  let state ← rows.foldlM problemStep {}
  return {
    deliveredFramesets := state.deliveries.card
    framesetsWithStaleStreams := state.stale.card
    framesetsWithGaps := state.gaps.card
    problematicFramesets := (state.stale ∪ state.gaps).card }

------------------------------------------------------------
-- Reconstructed Freshness
------------------------------------------------------------

/- The counters both copies of the pass keep. -/
structure Reconstruction where
  previous : Dict (String × String × String) Int := ∅
  problem : Nat := 0
  stale : Nat := 0
  gapBearing : Nat := 0
  duplicateComponents : Nat := 0
  sequenceGaps : Int := 0

/- The state of the loop over the rows of one delivery. -/
structure DeliveryScan where
  counters : Reconstruction
  anyStale : Bool := false
  anyGap : Bool := false

/- Account one row of the delivery whose number was read. -/
def DeliveryScan.observe
    (scan : DeliveryScan)
    (stream : String × String × String)
    (current : Int) : DeliveryScan :=
  let previous := scan.counters.previous.set stream current
  match scan.counters.previous.get? stream with
  | none =>
      { scan with
        counters := { scan.counters with previous := previous } }
  | some prior =>
      if current ≤ prior then
        { scan with
          counters := {
            scan.counters with
            previous := previous
            duplicateComponents :=
              scan.counters.duplicateComponents + 1 }
          anyStale := true }
      else if prior + 1 < current then
        { scan with
          counters := {
            scan.counters with
            previous := previous
            sequenceGaps :=
              scan.counters.sequenceGaps +
                (current - prior - 1) }
          anyGap := true }
      else
        { scan with
          counters :=
            { scan.counters with previous := previous } }

/- One row of a delivery. -/
def scanStep
    (camera : String)
    (scan : DeliveryScan)
    (row : FrameRow) : Except String DeliveryScan := do
  let current ← pyInt row.frameNumber
  return scan.observe (camera, row.stream, row.streamIndex)
    current

/- Count the delivery after its rows. -/
def DeliveryScan.finish (scan : DeliveryScan) : Reconstruction :=
  { scan.counters with
    stale :=
      if scan.anyStale then
        scan.counters.stale + 1
      else
        scan.counters.stale
    gapBearing :=
      if scan.anyGap then
        scan.counters.gapBearing + 1
      else
        scan.counters.gapBearing
    problem :=
      if scan.anyStale || scan.anyGap then
        scan.counters.problem + 1
      else
        scan.counters.problem }

/- One delivery of the loop. -/
def reconstructDelivery
    (counters : Reconstruction)
    (group : (String × String) × List FrameRow) :
    Except String Reconstruction := do
  let scan ←
    group.2.foldlM (scanStep group.1.1) { counters := counters }
  return scan.finish

/- The loop over the deliveries, in order of appearance. -/
def reconstruct
    (rows : List FrameRow) : Except String Reconstruction :=
  (groupLists
      (fun row => (row.cameraIndex, row.delivery))
      rows).items.foldlM
    reconstructDelivery {}

namespace E4

/- What the function returns. -/
structure Freshness where
  problemFramesets : Nat
  duplicateComponents : Nat
  sequenceGaps : Int
deriving Repr, DecidableEq

/- `reconstruct_freshness`. -/
def reconstructFreshness
    (rows : List FrameRow) : Except String Freshness := do
  let counters ← reconstruct rows
  return {
    problemFramesets := counters.problem
    duplicateComponents := counters.duplicateComponents
    sequenceGaps := counters.sequenceGaps }

end E4

namespace P1

structure Freshness where
  problemFramesets : Nat
  staleFramesetsUg : Nat
  gapBearingFramesets : Nat
  duplicateComponents : Nat
  sequenceGaps : Int
deriving Repr, DecidableEq

def reconstructFreshness
    (rows : List FrameRow) : Except String Freshness := do
  let counters ← reconstruct rows
  return {
    problemFramesets := counters.problem
    staleFramesetsUg := counters.stale
    gapBearingFramesets := counters.gapBearing
    duplicateComponents := counters.duplicateComponents
    sequenceGaps := counters.sequenceGaps }

end P1

------------------------------------------------------------
-- Freshness Of The Kernel-Path Table
------------------------------------------------------------

/- The frame numbers of a delivery under their streams. -/
abbrev DeliveryStreams := Dict (String × Int) Int

/- One row is put to its delivery. -/
def collectRow
    (deliveries : Dict (Int × Int) DeliveryStreams)
    (row : FrameRow) :
    Except String (Dict (Int × Int) DeliveryStreams) := do
  let camera ← pyInt row.cameraIndex
  let delivery ← pyInt row.delivery
  let streamIndex ← pyInt row.streamIndex
  let frameNumber ← pyInt row.frameNumber
  return deliveries.set (camera, delivery)
    ((deliveries.getD (camera, delivery) ∅).set
      (row.stream, streamIndex) frameNumber)

/- The counters of the pass over the sorted deliveries. -/
structure FreshnessState where
  previous : Dict Int DeliveryStreams := ∅
  stale : Nat := 0
  gapBearing : Nat := 0
  problem : Nat := 0
  duplicateComponents : Nat := 0
  sequenceGaps : Int := 0

/- What the streams of one delivery add to the counters. -/
structure StreamsScan where
  hasDuplicate : Bool := false
  hasGap : Bool := false
  duplicateComponents : Nat
  sequenceGaps : Int
deriving Repr, DecidableEq

/- A stream beside the delivery before. -/
def compareStream
    (prior : DeliveryStreams)
    (scan : StreamsScan)
    (item : (String × Int) × Int) : StreamsScan :=
  match prior.get? item.1 with
  | none => scan
  | some number =>
      let delta := item.2 - number
      if delta = 0 then
        { scan with
          hasDuplicate := true
          duplicateComponents := scan.duplicateComponents + 1 }
      else if 1 < delta then
        { scan with
          hasGap := true
          sequenceGaps := scan.sequenceGaps + (delta - 1) }
      else
        scan

/- One delivery of the loop. -/
def freshnessStep
    (state : FreshnessState)
    (item : (Int × Int) × DeliveryStreams) : FreshnessState :=
  let prior := state.previous.getD item.1.1 ∅
  let scan :=
    item.2.items.foldl (compareStream prior)
      { duplicateComponents := state.duplicateComponents
        sequenceGaps := state.sequenceGaps }
  { previous := state.previous.set item.1.1 item.2
    stale := state.stale + scan.hasDuplicate.toNat
    gapBearing := state.gapBearing + scan.hasGap.toNat
    problem :=
      state.problem +
        (scan.hasDuplicate || scan.hasGap).toNat
    duplicateComponents := scan.duplicateComponents
    sequenceGaps := scan.sequenceGaps }

/- What the function returns. -/
structure FreshnessMetrics where
  deliveries : Nat
  staleFramesets : Nat
  gapBearingFramesets : Nat
  nonfreshFramesets : Nat
  duplicateComponents : Nat
  sequenceGaps : Int
deriving Repr, DecidableEq

/- The order of `sorted` on pairs of camera and delivery. -/
def beforeOrSame (left right : Int × Int) : Prop :=
  left.1 < right.1 ∨ left.1 = right.1 ∧ left.2 ≤ right.2

instance (left right : Int × Int) :
    Decidable (beforeOrSame left right) :=
  inferInstanceAs (Decidable (_ ∨ _))

/- `frameset_freshness_metrics`. -/
def framesetFreshnessMetrics
    (rows : List FrameRow) :
    Except String FreshnessMetrics := do
  let deliveries ← rows.foldlM collectRow ∅
  let state :=
    (deliveries.items.insertionSort
      (fun left right => beforeOrSame left.1 right.1)).foldl
      freshnessStep {}
  return {
    deliveries := deliveries.items.length
    staleFramesets := state.stale
    gapBearingFramesets := state.gapBearing
    nonfreshFramesets := state.problem
    duplicateComponents := state.duplicateComponents
    sequenceGaps := state.sequenceGaps }

end Reproduction

end RsCamera
