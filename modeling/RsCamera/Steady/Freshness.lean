import Mathlib.Data.List.Sort
import RsCamera.Lib.Gaps
import RsCamera.Steady.Metrics

/-
  The offline freshness analysis of a camera's recorded
  events (`analyze_freshness` and `add_freshness` in
  `steady_metrics.cpp`).

  The analysis walks the events once, keeping a high-water
  mark and the frame numbers of each stream, and classifies
  each delivery; it then sorts and deduplicates the numbers
  of each stream.

  Key definitions include:
    * `FrameFreshnessMetrics`, `CameraFreshnessMetrics`
    * `WorkingStream`, `analysisStep`
    * `analyzeFreshness`

  Key theorems include:
    * `analysis_streams_getElem?`
-/

------------------------------------------------------------
-- Freshness Records
------------------------------------------------------------

namespace RsCamera

namespace Steady

/- The counters of frames. -/
structure FrameFreshnessMetrics where
  observedFrames : Nat := 0
  uniqueFrames : Nat := 0
  duplicateFrames : Nat := 0
  sequenceGaps : Nat := 0
  nonadvancingFrames : Nat := 0
  outOfOrderFrames : Nat := 0
deriving Repr, DecidableEq

/- The counters of framesets. -/
structure DeliveryFreshnessMetrics where
  fullyFreshFramesets : Nat := 0
  partiallyStaleFramesets : Nat := 0
  staleFramesets : Nat := 0
deriving Repr, DecidableEq

/- The counters of a camera. -/
structure CameraFreshnessMetrics where
  frames : FrameFreshnessMetrics := {}
  deliveries : DeliveryFreshnessMetrics := {}
  streams : Std.TreeMap String FrameFreshnessMetrics := ∅

/- Add one stream's counters to a total. -/
def FrameFreshnessMetrics.add
    (total part : FrameFreshnessMetrics) :
    FrameFreshnessMetrics where
  observedFrames :=
    u64 (total.observedFrames + part.observedFrames)
  uniqueFrames :=
    u64 (total.uniqueFrames + part.uniqueFrames)
  duplicateFrames :=
    u64 (total.duplicateFrames + part.duplicateFrames)
  sequenceGaps :=
    u64 (total.sequenceGaps + part.sequenceGaps)
  nonadvancingFrames :=
    u64 (total.nonadvancingFrames + part.nonadvancingFrames)
  outOfOrderFrames :=
    u64 (total.outOfOrderFrames + part.outOfOrderFrames)

------------------------------------------------------------
-- Event Walk
------------------------------------------------------------

/- A stream within the loop. -/
structure WorkingStream where
  hasHighest : Bool := false
  highest : Nat := 0
  nonadvancingFrames : Nat := 0
  outOfOrderFrames : Nat := 0
  frameNumbers : List Nat := []
deriving Repr, DecidableEq

/- Whether a number passes the stream's high-water mark. -/
def WorkingStream.advances
    (stream : WorkingStream)
    (number : Nat) : Bool :=
  !stream.hasHighest || stream.highest < number

/- Account one observed frame number. -/
def WorkingStream.observe
    (stream : WorkingStream)
    (number : Nat) : WorkingStream :=
  let marked :=
    if stream.advances number then
      { stream with hasHighest := true, highest := number }
    else
      { stream with
        nonadvancingFrames := stream.nonadvancingFrames + 1
        outOfOrderFrames :=
          if number < stream.highest then
            stream.outOfOrderFrames + 1
          else
            stream.outOfOrderFrames }
  { marked with
    frameNumbers := stream.frameNumbers ++ [number] }

/- The state of the walk over a camera's events. -/
structure Analysis where
  streams : Std.TreeMap String WorkingStream := ∅
  haveDelivery : Bool := false
  currentDelivery : Nat := 0
  deliveryHasFrame : Bool := false
  deliveryHasAdvance : Bool := false
  deliveryAllAdvance : Bool := true
  deliveries : DeliveryFreshnessMetrics := {}

/- Classify the delivery whose events were just seen. -/
def Analysis.finishDelivery (state : Analysis) : Analysis :=
  if !state.deliveryHasFrame then
    state
  else
    { state with
      deliveries :=
        if !state.deliveryHasAdvance then
          { state.deliveries with
            staleFramesets :=
              state.deliveries.staleFramesets + 1 }
        else if state.deliveryAllAdvance then
          { state.deliveries with
            fullyFreshFramesets :=
              state.deliveries.fullyFreshFramesets + 1 }
        else
          { state.deliveries with
            partiallyStaleFramesets :=
              state.deliveries.partiallyStaleFramesets + 1 } }

/- Open the delivery of an event if it is a new one. -/
def Analysis.enterDelivery
    (state : Analysis)
    (delivery : Nat) : Analysis :=
  if !state.haveDelivery ||
      delivery ≠ state.currentDelivery then
    let finished :=
      if state.haveDelivery then
        state.finishDelivery
      else
        state
    { finished with
      haveDelivery := true
      currentDelivery := delivery
      deliveryHasFrame := false
      deliveryHasAdvance := false
      deliveryAllAdvance := true }
  else
    state

/- One event of the loop. -/
def analysisStep
    (state : Analysis)
    (event : FrameEvent) : Analysis :=
  let state := state.enterDelivery event.delivery
  let stream := state.streams.getD event.key {}
  let advanced := stream.advances event.frameNumber
  { state with
    streams :=
      state.streams.insert event.key
        (stream.observe event.frameNumber)
    deliveryHasFrame := true
    deliveryHasAdvance := state.deliveryHasAdvance || advanced
    deliveryAllAdvance :=
      state.deliveryAllAdvance && advanced }

/- The walk over all events of a camera. -/
def analyzeEvents (events : List FrameEvent) : Analysis :=
  events.foldl analysisStep {}

------------------------------------------------------------
-- Results
------------------------------------------------------------

/- `std::unique`: drop repeats of the preceding element. -/
def stdUnique (numbers : List Nat) : List Nat :=
  numbers.destutter (· ≠ ·)

/- The range between two extremes less the distinct values. -/
def missingBetween
    (minimum maximum unique : Nat) : Nat :=
  u64Sub (u64 (u64Sub maximum minimum + 1)) unique

/- The counters of a stream. -/
def WorkingStream.freshness
    (working : WorkingStream) : FrameFreshnessMetrics :=
  let numbers := working.frameNumbers.insertionSort (· ≤ ·)
  let unique := stdUnique numbers
  { observedFrames := numbers.length
    uniqueFrames := unique.length
    duplicateFrames := numbers.length - unique.length
    nonadvancingFrames := working.nonadvancingFrames
    outOfOrderFrames := working.outOfOrderFrames
    sequenceGaps :=
      match numbers.head?, unique.getLast? with
      | some minimum, some maximum =>
          missingBetween minimum maximum unique.length
      | _, _ => 0 }

/- `analyze_freshness`. -/
def analyzeFreshness
    (metrics : CameraMetrics) : CameraFreshnessMetrics :=
  let walked := analyzeEvents metrics.events.items
  let finished :=
    if walked.haveDelivery then
      walked.finishDelivery
    else
      walked
  { frames :=
      finished.streams.foldl
        (fun total _ working => total.add working.freshness)
        {}
    deliveries := finished.deliveries
    streams :=
      finished.streams.map
        (fun _ working => working.freshness) }

------------------------------------------------------------
-- Streams Of The Walk
------------------------------------------------------------

@[simp] theorem Analysis.finishDelivery_streams
    (state : Analysis) :
    state.finishDelivery.streams = state.streams := by
  unfold Analysis.finishDelivery
  split <;> rfl

@[simp] theorem Analysis.enterDelivery_streams
    (state : Analysis)
    (delivery : Nat) :
    (state.enterDelivery delivery).streams =
      state.streams := by
  unfold Analysis.enterDelivery
  split
  · by_cases hHave : state.haveDelivery
    · simp [hHave]
    · simp [hHave]
  · rfl

/- The walk keeps its streams as a keyed fold of the events. -/
theorem analyzeEvents_streams
    (events : List FrameEvent) :
    (analyzeEvents events).streams =
      keyedFold FrameEvent.key
        (fun stream event =>
          stream.observe event.frameNumber) {} events := by
  unfold analyzeEvents keyedFold
  induction events using List.reverseRecOn with
  | nil => rfl
  | append_singleton events event ih =>
      simp only [List.foldl_append, List.foldl_cons,
        List.foldl_nil, analysisStep,
        Analysis.enterDelivery_streams, ih]

/- The frame numbers recorded for one stream, in order. -/
def numbersOf
    (key : String)
    (events : List FrameEvent) : List Nat :=
  (events.filter (fun event => event.key = key)).map
    FrameEvent.frameNumber

/- Each stream of the walk saw the numbers of its own key. -/
theorem analysis_streams_getElem?
    (events : List FrameEvent)
    (key : String) :
    (analyzeEvents events).streams[key]? =
      if numbersOf key events = [] then
        none
      else
        some ((numbersOf key events).foldl
          WorkingStream.observe {}) := by
  rw [analyzeEvents_streams, keyedFold_getElem?]
  simp [numbersOf, List.foldl_map]

theorem foldl_observe_frameNumbers
    (stream : WorkingStream)
    (numbers : List Nat) :
    (numbers.foldl WorkingStream.observe
        stream).frameNumbers =
      stream.frameNumbers ++ numbers := by
  induction numbers generalizing stream with
  | nil => simp
  | cons number numbers ih =>
      rw [List.foldl_cons, ih]
      simp [WorkingStream.observe]

end Steady

end RsCamera
