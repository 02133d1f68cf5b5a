import Mathlib.Data.Rat.Defs
import RsCamera.Lib.Containers

/-
  The per-camera metrics of the steady probe: the frames it
  receives, the records it keeps of them, and the storage it
  reserves before streaming starts
  (`steady_metrics.h`, `steady_metrics.cpp`,
  `realsense_utils.cpp`).

  Host and frame counters are natural numbers; subtractions
  and sums that the source makes on `uint64_t` wrap at
  `2 ^ 64`.  Sample values (`double` in the source) are
  rational numbers.  `std::map` is an ordered tree map, so
  that iteration is in key order.

  Key definitions include:
    * `Rs2Stream`, `streamKey`, `Frame`, `FrameEvent`
    * `StreamMetrics`, `CameraMetrics`
    * `makeStoragePlan`, `prepareCameraMetrics`
    * `recordWarmupFrame`, `warmupHealthError`
    * `recordMeasuredFrame`, `totalDrops`
-/

------------------------------------------------------------
-- Frames
------------------------------------------------------------

namespace RsCamera

namespace Steady

/- The stream kinds of the camera library. -/
inductive Rs2Stream
| any
| depth
| color
| infrared
| fisheye
| gyro
| accel
| gpio
| pose
| confidence
| motion
deriving Repr, DecidableEq

/- The display name of a stream kind. -/
def rs2StreamToString : Rs2Stream → String
| .any => "Any"
| .depth => "Depth"
| .color => "Color"
| .infrared => "Infrared"
| .fisheye => "Fisheye"
| .gyro => "Gyro"
| .accel => "Accel"
| .gpio => "Gpio"
| .pose => "Pose"
| .confidence => "Confidence"
| .motion => "Motion"

/- The clocks of a frame. -/
inductive TimestampDomain
| hardwareClock
| systemTime
| globalTime
deriving Repr, DecidableEq

/- The key under which a stream is stored. -/
def streamKey
    (stream : Rs2Stream)
    (streamIndex : Int) : String :=
  rs2StreamToString stream ++ "#" ++ toString streamIndex

/-
  One image frame as the camera library hands it out.  A
  metadata field is absent where the frame does not support
  it.
-/
structure Frame where
  streamType : Rs2Stream
  streamIndex : Int
  frameNumber : Nat
  timestamp : ℚ
  frameTimestamp : Option Int
  backendTimestamp : Option Int
  timeOfArrival : Option Int
  timestampDomain : TimestampDomain
deriving Repr, DecidableEq

/- The stream key of a frame. -/
def Frame.key (frame : Frame) : String :=
  streamKey frame.streamType frame.streamIndex

/- A depth frame without metadata. -/
def depthFrame (frameNumber : Nat) : Frame where
  streamType := .depth
  streamIndex := 0
  frameNumber := frameNumber
  timestamp := 0
  frameTimestamp := none
  backendTimestamp := none
  timeOfArrival := none
  timestampDomain := .hardwareClock

@[simp] theorem depthFrame_key
    (frameNumber : Nat) :
    (depthFrame frameNumber).key = "Depth#0" := by
  change streamKey .depth 0 = "Depth#0"
  decide +kernel

/-
  What one delivery hands over: a frameset with its child
  frames or a single frame.  `none` is an empty frame handle.
-/
inductive Payload
| frameset (children : List (Option Frame))
| single (frame : Option Frame)
deriving Repr, DecidableEq

/- The frame handles a delivery is made of. -/
def Payload.handles : Payload → List (Option Frame)
| .frameset children => children
| .single frame => [frame]

/- `ns_to_ms`. -/
def nsToMs (ns : Nat) : ℚ :=
  (ns : ℚ) / 1000000

------------------------------------------------------------
-- Metrics Records
------------------------------------------------------------

/- `frame_event`. -/
structure FrameEvent where
  hostBoottimeNs : Nat := 0
  hostRealtimeNs : Nat := 0
  delivery : Nat := 0
  stream : Rs2Stream := .any
  streamIndex : Int := 0
  frameNumber : Nat := 0
  sensorTimestampMs : ℚ := 0
  frameTimestampMs : ℚ := 0
  backendTimestampMs : ℚ := 0
  timeOfArrivalMs : ℚ := 0
  hasFrameTimestamp : Bool := false
  hasBackendTimestamp : Bool := false
  hasTimeOfArrival : Bool := false
  timestampDomain : TimestampDomain := .hardwareClock
deriving Repr, DecidableEq

instance : Inhabited FrameEvent :=
  ⟨{}⟩

/- The stream key of a recorded event. -/
def FrameEvent.key (event : FrameEvent) : String :=
  streamKey event.stream event.streamIndex

/- `stream_metrics`. -/
structure StreamMetrics where
  frames : Nat := 0
  drops : Nat := 0
  hasLast : Bool := false
  lastFrameNumber : Nat := 0
  lastSensorTimestampMs : ℚ := 0
  lastHostNs : Nat := 0
  timestampDomain : TimestampDomain := .hardwareClock
  sensorInterarrivalMs : GrowVector ℚ := {}
  hostInterarrivalMs : GrowVector ℚ := {}
deriving Repr, DecidableEq

/- `warmup_stream_metrics`. -/
structure WarmupStreamMetrics where
  observedFrames : Nat := 0
  duplicateFrames : Nat := 0
  sequenceGaps : Nat := 0
  outOfOrderFrames : Nat := 0
  hasLast : Bool := false
  lastFrameNumber : Nat := 0
deriving Repr, DecidableEq

/- `storage_plan`. -/
structure StoragePlan where
  deliveryCapacity : Nat := 0
  eventCapacity : Nat := 0
  streamSampleCapacity : Nat := 0
deriving Repr, DecidableEq

/- `camera_metrics`. -/
structure CameraMetrics where
  warmupDeliveries : Nat := 0
  deliveries : Nat := 0
  frames : Nat := 0
  timeouts : Nat := 0
  preMeasurementTimeouts : Nat := 0
  measurementTimeouts : Nat := 0
  firstWarmupNs : Nat := 0
  firstMeasuredNs : Nat := 0
  lastMeasuredNs : Nat := 0
  lastDeliveryNs : Nat := 0
  warmupHealthDeliveries : Nat := 0
  schedulerReady : Bool := false
  warmed : Bool := false
  completed : Bool := false
  storage : StoragePlan := {}
  deliveryInterarrivalMs : GrowVector ℚ := {}
  waitMs : GrowVector ℚ := {}
  streams : Std.TreeMap String StreamMetrics := ∅
  warmupStreams : Std.TreeMap String WarmupStreamMetrics := ∅
  events : GrowVector FrameEvent := {}

------------------------------------------------------------
-- Storage Plan
------------------------------------------------------------

/- The streams a stream mode enables. -/
def expectedStreams
    (streamMode : String) : List (Rs2Stream × Int) :=
  if streamMode = "depth" then
    [(.depth, 0)]
  else
    let stereoAll :=
      streamMode = "stereo_all" || streamMode = "d435_all"
    let depthIr : Bool := streamMode = "depth_ir"
    [(.depth, 0)] ++
      (if streamMode = "depth_color" || stereoAll then
        [(.color, 0)]
      else
        []) ++
      (if stereoAll || depthIr then
        [(.infrared, 1), (.infrared, 2)]
      else
        [])

/- `expected_stream_count`. -/
def expectedStreamCount (streamMode : String) : Nat :=
  if streamMode = "depth" then 1
  else if streamMode = "depth_color" then 2
  else if streamMode = "depth_ir" then 3
  else if streamMode = "stereo_all" ||
      streamMode = "d435_all" then 4
  else 0

/- The keys of the streams a stream mode enables. -/
def expectedKeys (streamMode : String) : List String :=
  (expectedStreams streamMode).map
    (fun descriptor => streamKey descriptor.1 descriptor.2)

/- `checked_product`. -/
def checkedProduct
    (left right : Nat)
    (description : String) : Except String Nat :=
  if right ≠ 0 ∧ (2 ^ 64 - 1) / right < left then
    .error (description ++ " capacity overflows size_t")
  else
    .ok (u64 (left * right))

/- Room for at least two seconds and five percent. -/
def capacityWithHeadroom
    (expected nominalRate : Nat)
    (description : String) : Except String Nat :=
  let headroom :=
    max (u64 (nominalRate * 2)) (u64 (expected + 19) / 20)
  if u64Sub (u64Sub (2 ^ 64 - 1) headroom) 1 < expected ∨
      2 ^ 64 - 1 < u64 (expected + headroom + 1) then
    .error (description ++ " capacity overflows size_t")
  else
    .ok (u64 (expected + headroom + 1))

/-
  The number of frames one stream is expected to produce
  during a fixed-duration measurement.
-/
def expectedPerStream
    (measurementDurationMs fps : Int) : Nat :=
  u64 (u64 (measurementDurationMs.toNat * fps.toNat) + 999) /
    1000

/- `make_storage_plan`. -/
def makeStoragePlan
    (frames measurementDurationMs fps : Int)
    (streamCount : Nat)
    (callbackDelivery : Bool) :
    Except String StoragePlan :=
  if frames ≤ 0 ∨ measurementDurationMs < 0 ∨ fps ≤ 0 ∨
      streamCount = 0 then
    .error "Invalid steady measurement storage parameters"
  else do
    let eventCapacity ←
      checkedProduct frames.toNat streamCount "Frame event"
    if 0 < measurementDurationMs then
      let expected :=
        expectedPerStream measurementDurationMs fps
      let streamSampleCapacity ←
        capacityWithHeadroom expected fps.toNat
          "Per-stream sample"
      let eventCapacity ←
        checkedProduct streamSampleCapacity streamCount
          "Frame event"
      let deliveryMultiplier :=
        if callbackDelivery then streamCount else 1
      let deliveryCapacity ←
        capacityWithHeadroom
          (u64 (expected * deliveryMultiplier))
          (u64 (fps.toNat * deliveryMultiplier))
          "Delivery sample"
      return {
        deliveryCapacity := deliveryCapacity
        eventCapacity := eventCapacity
        streamSampleCapacity := streamSampleCapacity }
    else
      return {
        deliveryCapacity := frames.toNat
        eventCapacity := eventCapacity
        streamSampleCapacity := frames.toNat }

/- Reserve a vector's allocation before streaming starts. -/
def allocateAndPrefault
    {X : Type}
    [Inhabited X]
    (destination : GrowVector X)
    (capacity : Nat) : GrowVector X :=
  (destination.resize capacity).clear

/- Add one expected stream with its reserved samples. -/
def prepareStream
    (plan : StoragePlan)
    (metrics : CameraMetrics)
    (key : String) : CameraMetrics :=
  let streams := metrics.streams.insertIfNew key {}
  let stream := streams.getD key {}
  { metrics with
    streams := streams.insert key
      { stream with
        sensorInterarrivalMs :=
          allocateAndPrefault stream.sensorInterarrivalMs
            plan.streamSampleCapacity
        hostInterarrivalMs :=
          allocateAndPrefault stream.hostInterarrivalMs
            plan.streamSampleCapacity }
    warmupStreams :=
      metrics.warmupStreams.insertIfNew key {} }

/- `prepare_camera_metrics`. -/
def prepareCameraMetrics
    (metrics : CameraMetrics)
    (streamMode : String)
    (plan : StoragePlan) : CameraMetrics :=
  (expectedKeys streamMode).foldl (prepareStream plan)
    { metrics with
      storage := plan
      deliveryInterarrivalMs :=
        allocateAndPrefault metrics.deliveryInterarrivalMs
          plan.deliveryCapacity
      waitMs :=
        allocateAndPrefault metrics.waitMs
          plan.deliveryCapacity
      events :=
        allocateAndPrefault metrics.events
          plan.eventCapacity }

------------------------------------------------------------
-- Warm-up Health
------------------------------------------------------------

/- What a warm-up delivery can be rejected for. -/
inductive HealthError
| unexpectedStream (key : String)
| streamCount (expected observed : Nat)
| freshness
    (key : String)
    (windowDeliveries : Nat)
    (stream : WarmupStreamMetrics)
deriving Repr, DecidableEq

/- The text of a health error, after the camera's serial. -/
def HealthError.text (serial : String) : HealthError → String
| .unexpectedStream key =>
    serial ++ ": Unexpected warm-up stream " ++ key
| .streamCount expected observed =>
    serial ++ ": warm-up freshness expected " ++
      toString expected ++ " streams but observed " ++
      toString observed
| .freshness key windowDeliveries stream =>
    serial ++ ": warm-up freshness failed for " ++ key ++
      " (window_deliveries=" ++ toString windowDeliveries ++
      ", observed=" ++ toString stream.observedFrames ++
      ", duplicates=" ++ toString stream.duplicateFrames ++
      ", gaps=" ++ toString stream.sequenceGaps ++
      ", out_of_order=" ++
      toString stream.outOfOrderFrames ++ ")"

/- Account one frame number of a warm-up stream. -/
def WarmupStreamMetrics.observe
    (stream : WarmupStreamMetrics)
    (number : Nat) : WarmupStreamMetrics :=
  let counted :=
    if stream.hasLast then
      if number = stream.lastFrameNumber then
        { stream with
          duplicateFrames := stream.duplicateFrames + 1 }
      else if number < stream.lastFrameNumber then
        { stream with
          outOfOrderFrames := stream.outOfOrderFrames + 1 }
      else if u64 (stream.lastFrameNumber + 1) < number then
        { stream with
          sequenceGaps :=
            u64 (stream.sequenceGaps +
              u64Sub
                (u64Sub number stream.lastFrameNumber) 1) }
      else
        stream
    else
      stream
  { counted with
    hasLast := true
    lastFrameNumber := number
    observedFrames := stream.observedFrames + 1 }

/- A frame of the warm-up. -/
def recordWarmupFrame
    (metrics : CameraMetrics)
    (frame : Option Frame) :
    CameraMetrics × Option HealthError :=
  match frame with
  | none => (metrics, none)
  | some frame =>
      match metrics.warmupStreams[frame.key]? with
      | none => (metrics, some (.unexpectedStream frame.key))
      | some stream =>
          ({ metrics with
              warmupStreams :=
                metrics.warmupStreams.insert frame.key
                  (stream.observe frame.frameNumber) },
            none)

/-
  Color may be reused in a bounded number of framesets when
  the depth sensors are externally synchronized.
-/
def allowedColorDuplicates
    (metrics : CameraMetrics)
    (allowUnsynchronizedColorReuse : Bool)
    (key : String) : Nat :=
  if allowUnsynchronizedColorReuse &&
      "Color#".toList.isPrefixOf key.toList then
    max 1 (metrics.warmupHealthDeliveries / 20)
  else
    0

/- A stream that is not healthy. -/
def warmupStreamFails
    (metrics : CameraMetrics)
    (requireCompleteFrameset : Bool)
    (allowUnsynchronizedColorReuse : Bool)
    (key : String)
    (stream : WarmupStreamMetrics) : Bool :=
  stream.observedFrames < 2 ||
    (requireCompleteFrameset &&
      stream.observedFrames ≠
        metrics.warmupHealthDeliveries) ||
    allowedColorDuplicates metrics
        allowUnsynchronizedColorReuse key <
      stream.duplicateFrames ||
    stream.sequenceGaps ≠ 0 ||
    stream.outOfOrderFrames ≠ 0

/- `warmup_health_error`. -/
def warmupHealthError
    (metrics : CameraMetrics)
    (expectedStreams : Nat)
    (requireCompleteFrameset : Bool)
    (allowUnsynchronizedColorReuse : Bool) :
    Option HealthError :=
  if metrics.warmupStreams.size ≠ expectedStreams then
    some (.streamCount expectedStreams
      metrics.warmupStreams.size)
  else
    metrics.warmupStreams.toList.findSome? (fun entry =>
      if warmupStreamFails metrics requireCompleteFrameset
          allowUnsynchronizedColorReuse entry.1 entry.2 then
        some (.freshness entry.1
          metrics.warmupHealthDeliveries entry.2)
      else
        none)

------------------------------------------------------------
-- Measured Frames
------------------------------------------------------------

/- What recording a measured delivery can fail with. -/
inductive StorageError
| unexpectedStream (key : String)
| deliveryInterval
| waitSample
| frameEvent
| streamSample (key : String)
deriving Repr, DecidableEq

/- The text of the error. -/
def StorageError.text : StorageError → String
| .unexpectedStream key =>
    "Unexpected measured stream " ++ key
| .deliveryInterval =>
    "Preallocated delivery interval capacity exhausted"
| .waitSample =>
    "Preallocated wait sample capacity exhausted"
| .frameEvent =>
    "Preallocated frame event capacity exhausted"
| .streamSample key =>
    "Preallocated stream sample capacity exhausted for " ++
      key

/- Whether an error reports an exhausted allocation. -/
def StorageError.exhausted : StorageError → Bool
| .unexpectedStream _ => false
| _ => true

/- Append unless that would reallocate. -/
def appendWithoutReallocation
    {X : Type}
    (destination : GrowVector X)
    (value : X) : GrowVector X × Bool :=
  if destination.full then
    (destination, false)
  else
    (destination.pushBack value, true)

/- The event that records one measured frame. -/
def Frame.event
    (frame : Frame)
    (hostBoottimeNs hostRealtimeNs delivery : Nat) :
    FrameEvent where
  hostBoottimeNs := hostBoottimeNs
  hostRealtimeNs := hostRealtimeNs
  delivery := delivery
  stream := frame.streamType
  streamIndex := frame.streamIndex
  frameNumber := frame.frameNumber
  sensorTimestampMs := frame.timestamp
  frameTimestampMs := (frame.frameTimestamp.getD 0 : ℤ)
  backendTimestampMs := (frame.backendTimestamp.getD 0 : ℤ)
  timeOfArrivalMs := (frame.timeOfArrival.getD 0 : ℤ)
  hasFrameTimestamp := frame.frameTimestamp.isSome
  hasBackendTimestamp := frame.backendTimestamp.isSome
  hasTimeOfArrival := frame.timeOfArrival.isSome
  timestampDomain := frame.timestampDomain

/- Whether a stream has no room for another interval. -/
def StreamMetrics.samplesExhausted
    (stream : StreamMetrics) : Bool :=
  stream.hasLast &&
    (stream.sensorInterarrivalMs.full ||
      stream.hostInterarrivalMs.full)

/- Account one measured frame of a stream. -/
def StreamMetrics.observe
    (stream : StreamMetrics)
    (frame : Frame)
    (hostBoottimeNs : Nat) : StreamMetrics :=
  let sampled :=
    if stream.hasLast then
      { stream with
        drops :=
          if u64 (stream.lastFrameNumber + 1) <
              frame.frameNumber then
            u64 (stream.drops +
              u64Sub
                (u64Sub frame.frameNumber
                  stream.lastFrameNumber) 1)
          else
            stream.drops
        sensorInterarrivalMs :=
          (appendWithoutReallocation
            stream.sensorInterarrivalMs
            (frame.timestamp -
              stream.lastSensorTimestampMs)).1
        hostInterarrivalMs :=
          (appendWithoutReallocation
            stream.hostInterarrivalMs
            (nsToMs (u64Sub hostBoottimeNs
              stream.lastHostNs))).1 }
    else
      stream
  { sampled with
    hasLast := true
    lastFrameNumber := frame.frameNumber
    lastSensorTimestampMs := frame.timestamp
    lastHostNs := hostBoottimeNs
    timestampDomain := frame.timestampDomain
    frames := stream.frames + 1 }

/- A frame of the measurement. -/
def recordMeasuredFrame
    (metrics : CameraMetrics)
    (frame : Option Frame)
    (hostBoottimeNs hostRealtimeNs delivery : Nat) :
    CameraMetrics × Option StorageError :=
  match frame with
  | none => (metrics, none)
  | some frame =>
      match metrics.streams[frame.key]? with
      | none => (metrics, some (.unexpectedStream frame.key))
      | some stream =>
          if metrics.events.full then
            (metrics, some .frameEvent)
          else if stream.samplesExhausted then
            (metrics, some (.streamSample frame.key))
          else
            ({ metrics with
                streams :=
                  metrics.streams.insert frame.key
                    (stream.observe frame hostBoottimeNs)
                frames := metrics.frames + 1
                events :=
                  (appendWithoutReallocation metrics.events
                    (frame.event hostBoottimeNs
                      hostRealtimeNs delivery)).1 },
              none)

/- `total_drops`. -/
def totalDrops (metrics : CameraMetrics) : Nat :=
  metrics.streams.foldl
    (fun result _ stream => u64 (result + stream.drops)) 0

end Steady

end RsCamera
