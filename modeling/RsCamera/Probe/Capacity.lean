import RsCamera.Probe.Barrier
import RsCamera.Steady.Storage

/-
  The storage reserved before streaming is large enough: no
  delivery of a run reports an exhausted allocation, as long
  as the cameras deliver no more than the plan provides for.

  What a camera may deliver is stated on the measured
  deliveries of the whole run (`measurements`), with one
  proviso for each way of measuring.  A fixed-duration
  measurement in wait mode needs a proviso as well: its
  storage is reserved by time, and the probe counts every
  frameset that is returned.

  Main declarations:
    * `makeStoragePlan_count`, `makeStoragePlan_fixed`
    * `StorageFacts`, `Fits`
    * `recordMeasuredDelivery_storage`
    * `run_storage_suffices`
-/

------------------------------------------------------------
-- The Storage Plan
------------------------------------------------------------

namespace RsCamera

namespace Probe

section

open Steady

/- The frames a stream may produce during a fixed duration. -/
def windowFrames (opts : Options) : Nat :=
  (opts.measurementDurationMs.toNat * opts.fps.toNat + 999) /
      1000 +
    2 * opts.fps.toNat

/- What the plan of an accepted run provides for. -/
structure PlanRoom
    (opts : Options)
    (plan : StoragePlan)
    (deliveries streamFrames : Nat) : Prop where
  streams_ne : expectedStreamCount opts.streamMode ≠ 0
  deliveries_le : deliveries ≤ plan.deliveryCapacity
  samples_le : streamFrames ≤ plan.streamSampleCapacity
  events_le :
    expectedStreamCount opts.streamMode * streamFrames ≤
      plan.eventCapacity

theorem planRoom_count
    {n : Nat}
    (cfg : Config n)
    (hMode : fixedDurationMeasurement cfg.opts = false) :
    PlanRoom cfg.opts cfg.plan cfg.opts.frames.toNat
      cfg.opts.frames.toNat := by
  simp only [fixedDurationMeasurement,
    decide_eq_false_iff_not] at hMode
  rcases makeStoragePlan_cases cfg.planned with
    ⟨hStreams, _, _, hCount | hFixed⟩
  · rcases hCount with ⟨_, hDeliveries, hSamples, hEvents⟩
    refine ⟨hStreams, hDeliveries.ge, hSamples.ge, ?_⟩
    rw [hEvents, Nat.mul_comm]
  · exact absurd hFixed.1 hMode

/-
  A fixed-duration plan has room for the frames of every
  stream, and for the deliveries that carry them: one for
  each frame where callbacks deliver them, else one for each
  frameset.
-/
theorem planRoom_fixed
    {n : Nat}
    (cfg : Config n)
    (hMode : fixedDurationMeasurement cfg.opts = true) :
    PlanRoom cfg.opts cfg.plan
      (windowFrames cfg.opts *
        if cfg.opts.delivery = "callback" then
          expectedStreamCount cfg.opts.streamMode
        else
          1)
      (windowFrames cfg.opts) := by
  have hAccepted := parseArgs_accepted cfg.parsed
  simp only [fixedDurationMeasurement,
    decide_eq_true_eq] at hMode
  rcases makeStoragePlan_cases cfg.planned with ⟨hStreams, -⟩
  rcases fixedPlan_exact hMode hAccepted.duration_lt
    hAccepted.fps_lt cfg.planned with ⟨hPlan, -⟩
  have hNotZero : cfg.opts.measurementDurationMs.toNat ≠ 0 := by
    omega
  have hWindow :
      windowFrames cfg.opts =
        exactPerStream cfg.opts.measurementDurationMs.toNat
            cfg.opts.fps.toNat +
          2 * cfg.opts.fps.toNat := by
    unfold windowFrames exactPerStream
    rw [Nat.ceilDiv_eq_add_pred_div]
    rfl
  rw [hPlan, hWindow]
  unfold exactPlan
  simp only [hNotZero, if_false]
  generalize
    exactPerStream cfg.opts.measurementDurationMs.toNat
      cfg.opts.fps.toNat = expected
  have hSamples :=
    le_headroomCapacity expected cfg.opts.fps.toNat
  refine ⟨hStreams, ?_, ?_, ?_⟩
  · unfold deliveriesPerSet
    simp only [decide_eq_true_eq]
    generalize
      (if cfg.opts.delivery = "callback" then
        expectedStreamCount cfg.opts.streamMode
      else
        1) = multiplier
    have hDeliveries :=
      le_headroomCapacity (multiplier * expected)
        (multiplier * cfg.opts.fps.toNat)
    calc
      (expected + 2 * cfg.opts.fps.toNat) * multiplier =
          multiplier * expected +
            multiplier * cfg.opts.fps.toNat * 2 := by
        rw [Nat.add_mul, Nat.mul_comm expected,
          Nat.mul_comm _ multiplier, Nat.mul_assoc,
          Nat.mul_comm 2]
      _ ≤ headroomCapacity (multiplier * expected)
          (multiplier * cfg.opts.fps.toNat) := by
        omega
  · simp only
    omega
  · exact Nat.mul_le_mul_left _ (by omega)

end

------------------------------------------------------------
-- Storage Of One Camera
------------------------------------------------------------

section

open Steady

/- The frames of a stream among some frame handles. -/
def handleCount
    (key : String)
    (handles : List (Option Frame)) : Nat :=
  handles.countP
    (fun handle => handle.any (fun frame => frame.key = key))

/- The frames of a stream that were offered to a camera. -/
def framesOffered
    (key : String)
    (offered : List Payload) : Nat :=
  (offered.map
    (fun payload => handleCount key payload.handles)).sum

/- The records of a camera hold at most so many events. -/
structure RecordedAtMost
    (streamMode : String)
    (plan : StoragePlan)
    (limit : String → Nat)
    (metrics : CameraMetrics) : Prop where
  consistent : MetricsConsistent plan metrics
  known :
    ∀ key, key ∈ metrics.streams →
      key ∈ expectedKeys streamMode
  events_le :
    ∀ key, (metrics.eventsOf key).length ≤ limit key

variable {streamMode : String}
variable {plan : StoragePlan}
variable {limit : String → Nat}
variable {metrics : CameraMetrics}
variable {opts : Options}
variable {deliveries bound : Nat}
variable {offered : List Payload}

/- A stream that may record one more frame has room for it. -/
theorem RecordedAtMost.samples_room
    (hRecorded :
      RecordedAtMost streamMode plan limit metrics)
    {key : String}
    {stream : StreamMetrics}
    (hStream : metrics.streams[key]? = some stream)
    (hRoom : limit key < plan.streamSampleCapacity) :
    stream.samplesExhausted = false := by
  have hSamples :=
    hRecorded.consistent.streams_consistent key stream hStream
  have hEvents := hRecorded.events_le key
  have hFrames := hSamples.frames_eq
  have hSensorSize := hSamples.sensor_size
  have hHostSize := hSamples.host_size
  have hSensorCapacity := hSamples.sensor_reserved.1
  have hHostCapacity := hSamples.host_reserved.1
  have hSensor :
      stream.sensorInterarrivalMs.full = false := by
    rw [GrowVector.full_eq_false_iff]
    omega
  have hHost : stream.hostInterarrivalMs.full = false := by
    rw [GrowVector.full_eq_false_iff]
    omega
  simp [StreamMetrics.samplesExhausted, hSensor, hHost]

/- A camera with a stream below its limit has room for it. -/
theorem RecordedAtMost.events_room
    (hPlan : PlanRoom opts plan deliveries bound)
    (hRecorded :
      RecordedAtMost opts.streamMode plan limit metrics)
    (hLimits :
      ∀ key ∈ expectedKeys opts.streamMode,
        limit key ≤ bound)
    {key : String}
    (hKey : key ∈ expectedKeys opts.streamMode)
    (hRoom : limit key < bound) :
    metrics.events.full = false := by
  let keys := (expectedKeys opts.streamMode).toFinset
  have hWeight :
      ∀ other,
        keyWeight StreamMetrics.frames metrics.streams other ≤
          limit other := by
    intro other
    unfold keyWeight
    cases hStream : metrics.streams[other]? with
    | none => exact Nat.zero_le _
    | some stream =>
        have hFrames :=
          (hRecorded.consistent.streams_consistent other
            stream hStream).frames_eq
        simp only [Option.map_some, Option.getD_some, hFrames]
        exact hRecorded.events_le other
  have hSum :
      mapTotal StreamMetrics.frames metrics.streams <
        ∑ _other ∈ keys, bound := by
    rw [mapTotal_eq_sum StreamMetrics.frames metrics.streams
      (fun other hOther =>
        List.mem_toFinset.mpr (hRecorded.known other hOther))]
    refine Finset.sum_lt_sum ?_
      ⟨key, List.mem_toFinset.mpr hKey,
        Nat.lt_of_le_of_lt (hWeight key) hRoom⟩
    intro other hOther
    exact Nat.le_trans (hWeight other)
      (hLimits other (List.mem_toFinset.mp hOther))
  have hCard :
      keys.card ≤ expectedStreamCount opts.streamMode := by
    rw [← length_expectedKeys hPlan.streams_ne]
    exact List.toFinset_card_le _
  have hBound :=
    Nat.le_trans (Nat.mul_le_mul_right bound hCard)
      hPlan.events_le
  rw [hRecorded.consistent.total_eq, Finset.sum_const,
    smul_eq_mul] at hSum
  rw [GrowVector.full_eq_false_iff,
    hRecorded.consistent.events_reserved.1]
  omega

/- Recording a frame uses up one unit of its stream's limit. -/
theorem RecordedAtMost.append
    (hRecorded :
      RecordedAtMost streamMode plan limit metrics)
    {frame : Frame}
    {stream : StreamMetrics}
    (hStream : metrics.streams[frame.key]? = some stream)
    (hEvents : metrics.events.full = false)
    (hSamples : stream.samplesExhausted = false)
    (hostNs hostRealtimeNs delivery : Nat) :
    RecordedAtMost streamMode plan
      (fun key =>
        limit key + if frame.key = key then 1 else 0)
      (metrics.append frame stream hostNs hostRealtimeNs
        delivery) := by
  refine
    ⟨hRecorded.consistent.append hStream hEvents hSamples
      hostNs hostRealtimeNs delivery, ?_, ?_⟩
  · intro key hKey
    simp only [CameraMetrics.append,
      Std.TreeMap.mem_insert] at hKey
    rcases hKey with hOwn | hOld
    · have hEq : frame.key = key :=
        Std.LawfulEqOrd.eq_of_compare hOwn
      refine hRecorded.known key ?_
      rw [← hEq, Std.TreeMap.mem_iff_isSome_getElem?, hStream]
      rfl
    · exact hRecorded.known key hOld
  · intro key
    have hBefore := hRecorded.events_le key
    rw [eventsOf_append, List.length_append]
    split
    · exact Nat.add_le_add_right hBefore 1
    · simpa using hBefore

/-
  The frames of a delivery are recorded without exhausting
  an allocation when they stay within the bound.
-/
theorem recordMeasuredFrames_storage
    (hPlan : PlanRoom opts plan deliveries bound)
    (hostNs hostRealtimeNs delivery : Nat)
    {handles : List (Option Frame)}
    (hRecorded :
      RecordedAtMost opts.streamMode plan limit metrics)
    (hFits :
      ∀ key ∈ expectedKeys opts.streamMode,
        limit key + handleCount key handles ≤ bound) :
    RecordedAtMost opts.streamMode plan
        (fun key => limit key + handleCount key handles)
        (recordMeasuredFrames metrics handles hostNs
          hostRealtimeNs delivery).1 ∧
      ∀ error,
        (recordMeasuredFrames metrics handles hostNs
          hostRealtimeNs delivery).2 = some error →
        error.exhausted = false := by
  induction handles generalizing metrics limit with
  | nil => exact ⟨hRecorded, by simp [recordMeasuredFrames]⟩
  | cons handle rest ih =>
      have hMono :
          ∀ {after : CameraMetrics},
            RecordedAtMost opts.streamMode plan limit after →
            RecordedAtMost opts.streamMode plan
              (fun key =>
                limit key +
                  handleCount key (handle :: rest)) after :=
        fun hAfter =>
          ⟨hAfter.consistent, hAfter.known, fun key =>
            Nat.le_trans (hAfter.events_le key)
              (Nat.le_add_right _ _)⟩
      unfold recordMeasuredFrames
      cases handle with
      | none =>
          have hCount :
              ∀ key, handleCount key (none :: rest) =
                handleCount key rest := by
            intro key
            simp [handleCount]
          simp only [hCount] at hFits ⊢
          exact ih hRecorded hFits
      | some frame =>
          have hCount :
              ∀ key, handleCount key (some frame :: rest) =
                (if frame.key = key then 1 else 0) +
                  handleCount key rest := by
            intro key
            simp only [handleCount, List.countP_cons,
              Option.any_some, decide_eq_true_eq]
            omega
          cases hStream : metrics.streams[frame.key]? with
          | none =>
              simp only [recordMeasuredFrame, hStream]
              refine ⟨hMono hRecorded, ?_⟩
              intro error hError
              cases hError
              rfl
          | some stream =>
              have hKey :
                  frame.key ∈
                    expectedKeys opts.streamMode := by
                refine hRecorded.known _ ?_
                rw [Std.TreeMap.mem_iff_isSome_getElem?,
                  hStream]
                rfl
              have hOwn := hFits frame.key hKey
              rw [hCount, if_pos rfl] at hOwn
              have hEvents :=
                hRecorded.events_room hPlan
                  (fun key hOther =>
                    Nat.le_trans (Nat.le_add_right _ _)
                      (hFits key hOther))
                  hKey (by omega)
              have hSamples :=
                hRecorded.samples_room hStream (by
                  have := hPlan.samples_le
                  omega)
              have hNext :=
                hRecorded.append hStream hEvents hSamples
                  hostNs hostRealtimeNs delivery
              have hRest :=
                ih hNext (by
                  intro key hOther
                  have := hFits key hOther
                  rw [hCount] at this
                  omega)
              simp only [hCount, ← Nat.add_assoc]
              simpa [recordMeasuredFrame, hStream, hEvents,
                hSamples, appendWithoutReallocation,
                CameraMetrics.append] using hRest

/- The records agree whatever samples a delivery adds. -/
theorem metricsConsistent_of_samples
    {before after : CameraMetrics}
    (hConsistent : MetricsConsistent plan before)
    (hFrames : after.frames = before.frames)
    (hStreams : after.streams = before.streams)
    (hEvents : after.events = before.events)
    (hIntervals :
      Reserved plan.deliveryCapacity
        after.deliveryInterarrivalMs)
    (hWaits :
      Reserved plan.deliveryCapacity after.waitMs) :
    MetricsConsistent plan after := by
  have hSame :
      SameMeasurement before
        { after with
          deliveries := before.deliveries
          completed := before.completed
          deliveryInterarrivalMs :=
            before.deliveryInterarrivalMs
          waitMs := before.waitMs } :=
    ⟨rfl, hFrames, rfl, rfl, rfl, hStreams, hEvents⟩
  have hRest := hSame.consistent hConsistent
  exact
    { frames_eq := hRest.frames_eq
      total_eq := hRest.total_eq
      events_reserved := hRest.events_reserved
      intervals_reserved := hIntervals
      waits_reserved := hWaits
      events_known := hRest.events_known
      streams_consistent := hRest.streams_consistent }

/- What a camera has stored of the deliveries offered to it. -/
structure StorageFacts
    (streamMode : String)
    (plan : StoragePlan)
    (offered : List Payload)
    (metrics : CameraMetrics) : Prop where
  recorded :
    RecordedAtMost streamMode plan
      (fun key => framesOffered key offered) metrics
  deliveries_eq : metrics.deliveries = offered.length
  intervals_le :
    metrics.deliveryInterarrivalMs.size ≤ offered.length
  waits_le : metrics.waitMs.size ≤ offered.length

/- The samples of a delivery fit while deliveries are left. -/
theorem recordDeliverySamples_storage
    (hFacts :
      StorageFacts streamMode plan offered metrics)
    (hRoom : offered.length < plan.deliveryCapacity)
    (hostNs : Nat)
    (waitMs : ℚ) :
    (recordDeliverySamples metrics hostNs waitMs).2 = none ∧
      RecordedAtMost streamMode plan
        (fun key => framesOffered key offered)
        (recordDeliverySamples metrics hostNs waitMs).1 ∧
      (recordDeliverySamples metrics hostNs
        waitMs).1.deliveryInterarrivalMs.size ≤
          offered.length + 1 ∧
      (recordDeliverySamples metrics hostNs
        waitMs).1.waitMs.size ≤ offered.length + 1 := by
  have hIntervalSize := hFacts.intervals_le
  have hWaitSize := hFacts.waits_le
  have hIntervals :=
    hFacts.recorded.consistent.intervals_reserved
  have hWaits := hFacts.recorded.consistent.waits_reserved
  have hIntervalRoom :
      metrics.deliveryInterarrivalMs.full = false := by
    rw [GrowVector.full_eq_false_iff, hIntervals.1]
    omega
  have hWaitRoom : metrics.waitMs.full = false := by
    rw [GrowVector.full_eq_false_iff, hWaits.1]
    omega
  have hRecorded :
      ∀ {after : CameraMetrics},
        after.frames = metrics.frames →
        after.streams = metrics.streams →
        after.events = metrics.events →
        Reserved plan.deliveryCapacity
          after.deliveryInterarrivalMs →
        Reserved plan.deliveryCapacity after.waitMs →
        RecordedAtMost streamMode plan
          (fun key => framesOffered key offered) after := by
    intro after hFrames hStreams hEvents hLeft hRight
    refine
      ⟨metricsConsistent_of_samples
        hFacts.recorded.consistent hFrames hStreams hEvents
        hLeft hRight, ?_, ?_⟩
    · rw [hStreams]
      exact hFacts.recorded.known
    · intro key
      rw [CameraMetrics.eventsOf, hEvents]
      exact hFacts.recorded.events_le key
  have hPushedInterval :
      ∀ sample,
        (metrics.deliveryInterarrivalMs.pushBack
          sample).size ≤ offered.length + 1 := by
    intro sample
    rw [GrowVector.size_pushBack]
    omega
  have hPushedWait :
      (metrics.waitMs.pushBack waitMs).size ≤
        offered.length + 1 := by
    rw [GrowVector.size_pushBack]
    omega
  have hKeptInterval :
      metrics.deliveryInterarrivalMs.size ≤
        offered.length + 1 := by
    omega
  have hKeptWait :
      metrics.waitMs.size ≤ offered.length + 1 := by
    omega
  simp only [recordDeliverySamples, recordInterval, recordWait,
    countMeasuredDelivery, hIntervalRoom, Bool.false_eq_true,
    if_false]
  by_cases hFirst : metrics.lastDeliveryNs = 0
  · simp only [hFirst, if_true, hWaitRoom,
      Bool.false_eq_true, if_false]
    by_cases hCallback : waitMs < 0
    · simp only [hCallback, if_true]
      exact ⟨rfl, hRecorded rfl rfl rfl hIntervals hWaits,
        hKeptInterval, hKeptWait⟩
    · simp only [hCallback, if_false]
      exact ⟨rfl,
        hRecorded rfl rfl rfl hIntervals
          (hWaits.pushBack hWaitRoom _),
        hKeptInterval, hPushedWait⟩
  · simp only [hFirst, if_false, hWaitRoom,
      Bool.false_eq_true]
    by_cases hCallback : waitMs < 0
    · simp only [hCallback, if_true]
      exact ⟨rfl,
        hRecorded rfl rfl rfl
          (hIntervals.pushBack hIntervalRoom _) hWaits,
        hPushedInterval _, hKeptWait⟩
    · simp only [hCallback, if_false]
      exact ⟨rfl,
        hRecorded rfl rfl rfl
          (hIntervals.pushBack hIntervalRoom _)
          (hWaits.pushBack hWaitRoom _),
        hPushedInterval _, hPushedWait⟩

/- The deliveries offered to a camera fit into its storage. -/
structure Fits
    (streamMode : String)
    (plan : StoragePlan)
    (bound : Nat)
    (offered : List Payload) : Prop where
  deliveries_le : offered.length ≤ plan.deliveryCapacity
  frames_le :
    ∀ key ∈ expectedKeys streamMode,
      framesOffered key offered ≤ bound

/- A measured delivery that fits exhausts no allocation. -/
theorem recordMeasuredDelivery_storage
    (hPlan : PlanRoom opts plan deliveries bound)
    (hFacts :
      StorageFacts opts.streamMode plan offered metrics)
    {payload : Payload}
    (hFits :
      Fits opts.streamMode plan bound (offered ++ [payload]))
    (hostNs hostRealtimeNs : Nat)
    (waitMs : ℚ) :
    StorageFacts opts.streamMode plan (offered ++ [payload])
        (recordMeasuredDelivery opts metrics payload hostNs
          hostRealtimeNs waitMs).1 ∧
      ∀ error,
        (recordMeasuredDelivery opts metrics payload hostNs
          hostRealtimeNs waitMs).2.storageError =
            some error →
        error.exhausted = false := by
  have hLength := hFits.deliveries_le
  rw [List.length_append, List.length_singleton] at hLength
  have hOffered :
      ∀ key, framesOffered key (offered ++ [payload]) =
        framesOffered key offered +
          handleCount key payload.handles := by
    intro key
    simp [framesOffered]
  have hFrames := hFits.frames_le
  simp only [hOffered] at hFrames
  rcases recordDeliverySamples_storage hFacts (by omega)
      hostNs waitMs with
    ⟨hNone, hRecorded, hIntervals, hWaits⟩
  rcases recordMeasuredFrames_storage hPlan hostNs
      hostRealtimeNs
      (recordDeliverySamples metrics hostNs waitMs).1.deliveries
      hRecorded hFrames with ⟨hAfter, hErrors⟩
  have hSpec :=
    recordMeasuredDelivery_spec opts metrics payload hostNs
      hostRealtimeNs waitMs
  have hDeliveries := hSpec.deliveries_eq
  rcases recordMeasuredFrames_fst
      (recordDeliverySamples metrics hostNs waitMs).1
      payload.handles hostNs hostRealtimeNs
      (recordDeliverySamples metrics hostNs
        waitMs).1.deliveries with
    ⟨streams, frames, events, hFst, _⟩
  simp only [recordMeasuredDelivery, hNone] at hDeliveries ⊢
  rw [hFst] at hAfter
  refine ⟨?_, hErrors⟩
  constructor
  · simp only [hOffered, hFst]
    exact
      ⟨metricsConsistent_of_samples hAfter.consistent rfl rfl
          rfl hAfter.consistent.intervals_reserved
          hAfter.consistent.waits_reserved,
        hAfter.known, hAfter.events_le⟩
  · rw [hDeliveries, hFacts.deliveries_eq,
      List.length_append, List.length_singleton]
  · rw [hFst, List.length_append, List.length_singleton]
    exact hIntervals
  · rw [hFst, List.length_append, List.length_singleton]
    exact hWaits

theorem StorageFacts.of_same
    {before after : CameraMetrics}
    (hFacts :
      StorageFacts streamMode plan offered before)
    (hSame : SameMeasurement before after) :
    StorageFacts streamMode plan offered after := by
  refine
    ⟨⟨hSame.consistent hFacts.recorded.consistent, ?_, ?_⟩,
      ?_, ?_, ?_⟩
  · rw [hSame.streams_eq]
    exact hFacts.recorded.known
  · intro key
    rw [CameraMetrics.eventsOf, hSame.events_eq]
    exact hFacts.recorded.events_le key
  · rw [hSame.deliveries_eq]
    exact hFacts.deliveries_eq
  · rw [hSame.intervals_eq]
    exact hFacts.intervals_le
  · rw [hSame.waits_eq]
    exact hFacts.waits_le

end

------------------------------------------------------------
-- Measured Deliveries Of A Run
------------------------------------------------------------

section

open Steady

variable {n m : Nat}

/- One measured delivery with the error it reported. -/
structure Measurement (n : Nat) where
  camera : Fin n
  payload : Payload
  error : Option StorageError
deriving Repr, DecidableEq

/- The measurement of a delivery. -/
def measurementOf
    (cfg : Config n)
    (s : State n m)
    (d : Delivery n) : Measurement n where
  camera := d.camera
  payload := d.payload
  error :=
    (recordMeasuredDelivery cfg.opts (s.cameras d.camera)
      d.payload d.hostNs d.hostRealtimeNs
      d.waitMs).2.storageError

/- The delivery a step measures, if it measures one. -/
def measurements
    (cfg : Config n)
    (s : State n m)
    (action : Action n m) : List (Measurement n) :=
  match action with
  | .thread id _ =>
      match s.threads id with
      | .measuring d =>
          if s.control.measurementDeadlineNs ≠ 0 ∧
              s.control.measurementDeadlineNs < d.hostNs then
            []
          else
            [measurementOf cfg s d]
      | _ => []
  | _ => []

/- The payloads measured for one camera. -/
def payloadsOf
    (camera : Fin n)
    (log : List (Measurement n)) : List Payload :=
  (log.filter (fun measured => measured.camera = camera)).map
    Measurement.payload

/- A payload holds no stream twice. -/
def SingleFrames
    (streamMode : String)
    (payload : Payload) : Prop :=
  ∀ key ∈ expectedKeys streamMode,
    handleCount key payload.handles ≤ 1

/- What is asked of a run that counts deliveries. -/
def CountProviso
    (opts : Options)
    (log : List (Measurement n)) : Prop :=
  fixedDurationMeasurement opts = false →
    ∀ measured ∈ log,
      SingleFrames opts.streamMode measured.payload

/- What is asked of a fixed duration with callbacks. -/
def CallbackProviso
    (opts : Options)
    (log : List (Measurement n)) : Prop :=
  fixedDurationMeasurement opts = true →
  opts.delivery = "callback" →
    (∀ camera, ∀ key ∈ expectedKeys opts.streamMode,
      framesOffered key (payloadsOf camera log) ≤
        windowFrames opts) ∧
    ∀ measured ∈ log,
      ∃ key ∈ expectedKeys opts.streamMode,
        0 < handleCount key measured.payload.handles

/- What is asked of a fixed duration with wait threads. -/
def WaitProviso
    (opts : Options)
    (log : List (Measurement n)) : Prop :=
  fixedDurationMeasurement opts = true →
  opts.delivery = "wait" →
    (∀ camera,
      (payloadsOf camera log).length ≤ windowFrames opts) ∧
    ∀ measured ∈ log,
      SingleFrames opts.streamMode measured.payload

structure Provisos
    (opts : Options)
    (log : List (Measurement n)) : Prop where
  count : CountProviso opts log
  callback : CallbackProviso opts log
  wait : WaitProviso opts log

theorem payloadsOf_append
    (camera : Fin n)
    (log new : List (Measurement n)) :
    payloadsOf camera (log ++ new) =
      payloadsOf camera log ++ payloadsOf camera new := by
  simp [payloadsOf]

theorem framesOffered_append
    (key : String)
    (offered new : List Payload) :
    framesOffered key (offered ++ new) =
      framesOffered key offered + framesOffered key new := by
  simp [framesOffered]

/- The provisos hold of every shorter run. -/
theorem Provisos.of_append
    {opts : Options}
    {log new : List (Measurement n)}
    (hProvisos : Provisos opts (log ++ new)) :
    Provisos opts log := by
  refine ⟨?_, ?_, ?_⟩
  · intro hMode measured hMember
    exact hProvisos.count hMode measured
      (List.mem_append_left _ hMember)
  · intro hMode hDelivery
    rcases hProvisos.callback hMode hDelivery with
      ⟨hFrames, hCarried⟩
    refine ⟨?_, fun measured hMember =>
      hCarried measured (List.mem_append_left _ hMember)⟩
    intro camera key hKey
    have hAll := hFrames camera key hKey
    rw [payloadsOf_append, framesOffered_append] at hAll
    omega
  · intro hMode hDelivery
    rcases hProvisos.wait hMode hDelivery with
      ⟨hLengths, hSingle⟩
    refine ⟨?_, fun measured hMember =>
      hSingle measured (List.mem_append_left _ hMember)⟩
    intro camera
    have hAll := hLengths camera
    rw [payloadsOf_append, List.length_append] at hAll
    omega

theorem mem_log_of_mem_payloadsOf
    {camera : Fin n}
    {log : List (Measurement n)}
    {payload : Payload}
    (hPayload : payload ∈ payloadsOf camera log) :
    ∃ measured ∈ log, measured.payload = payload := by
  rcases List.mem_map.mp hPayload with
    ⟨measured, hMember, hEq⟩
  exact ⟨measured, List.mem_of_mem_filter hMember, hEq⟩

/- Payloads without repetition offer a frame each at most. -/
theorem framesOffered_le_length
    {key : String}
    {offered : List Payload}
    (hSingle :
      ∀ payload ∈ offered,
        handleCount key payload.handles ≤ 1) :
    framesOffered key offered ≤ offered.length := by
  have hSum :=
    List.sum_le_card_nsmul
      (offered.map
        (fun payload => handleCount key payload.handles)) 1
      (by
        intro count hCount
        rcases List.mem_map.mp hCount with
          ⟨payload, hPayload, hEq⟩
        exact hEq ▸ hSingle payload hPayload)
  simpa [framesOffered] using hSum

/- Payloads with a frame each are no more than the frames. -/
theorem length_le_framesOffered
    {keys : List String}
    {offered : List Payload}
    (hCarried :
      ∀ payload ∈ offered,
        ∃ key ∈ keys, 0 < handleCount key payload.handles) :
    offered.length ≤
      (keys.map (fun key => framesOffered key offered)).sum := by
  induction offered with
  | nil => exact Nat.zero_le _
  | cons payload rest ih =>
      rcases hCarried payload (List.mem_cons_self ..) with
        ⟨key, hKey, hPositive⟩
      have hOne :
          handleCount key payload.handles ≤
            (keys.map (fun key =>
              handleCount key payload.handles)).sum :=
        List.single_le_sum (fun _ _ => Nat.zero_le _) _
          (List.mem_map_of_mem hKey)
      have hRest := ih (fun other hOther =>
        hCarried other (List.mem_cons_of_mem _ hOther))
      have hSplit :
          (keys.map (fun key =>
            framesOffered key (payload :: rest))).sum =
          (keys.map (fun key =>
            handleCount key payload.handles)).sum +
          (keys.map (fun key =>
            framesOffered key rest)).sum := by
        rw [← List.sum_map_add]
        simp [framesOffered]
      rw [hSplit, List.length_cons]
      omega

/-
  Under the provisos the deliveries of every camera fit into
  the planned storage.
-/
theorem fits_of_provisos
    {cfg : Config n}
    {log : List (Measurement n)}
    (hProvisos : Provisos cfg.opts log)
    {camera : Fin n}
    (hCounted :
      fixedDurationMeasurement cfg.opts = false →
        (payloadsOf camera log).length ≤
          cfg.opts.frames.toNat) :
    ∃ deliveries bound,
      PlanRoom cfg.opts cfg.plan deliveries bound ∧
        Fits cfg.opts.streamMode cfg.plan bound
          (payloadsOf camera log) := by
  have hSingle :
      (∀ measured ∈ log,
        SingleFrames cfg.opts.streamMode measured.payload) →
      ∀ key ∈ expectedKeys cfg.opts.streamMode,
        framesOffered key (payloadsOf camera log) ≤
          (payloadsOf camera log).length := by
    intro hAll key hKey
    refine framesOffered_le_length ?_
    intro payload hPayload
    rcases mem_log_of_mem_payloadsOf hPayload with
      ⟨measured, hMember, hEq⟩
    exact hEq ▸ hAll measured hMember key hKey
  cases hMode : fixedDurationMeasurement cfg.opts with
  | false =>
      have hRoom := planRoom_count cfg hMode
      have hLength := hCounted hMode
      refine ⟨_, _, hRoom, ?_, ?_⟩
      · exact Nat.le_trans hLength hRoom.deliveries_le
      · intro key hKey
        exact Nat.le_trans
          (hSingle (hProvisos.count hMode) key hKey) hLength
  | true =>
      have hRoom := planRoom_fixed cfg hMode
      refine ⟨_, _, hRoom, ?_⟩
      have hDeliveries := hRoom.deliveries_le
      rcases (parseArgs_accepted cfg.parsed).delivery_mode with
        hWait | hCallback
      · rcases hProvisos.wait hMode hWait with
          ⟨hLengths, hAll⟩
        have hLength := hLengths camera
        simp only [hWait, String.reduceEq, if_false,
          Nat.mul_one] at hDeliveries
        refine ⟨Nat.le_trans hLength hDeliveries, ?_⟩
        intro key hKey
        exact Nat.le_trans (hSingle hAll key hKey) hLength
      · rcases hProvisos.callback hMode hCallback with
          ⟨hFrames, hCarried⟩
        simp only [hCallback, if_true] at hDeliveries
        refine ⟨Nat.le_trans ?_ hDeliveries, hFrames camera⟩
        have hLength :
            (payloadsOf camera log).length ≤
              ((expectedKeys cfg.opts.streamMode).map
                (fun key => framesOffered key
                  (payloadsOf camera log))).sum := by
          refine length_le_framesOffered ?_
          intro payload hPayload
          rcases mem_log_of_mem_payloadsOf hPayload with
            ⟨measured, hMember, hEq⟩
          exact hEq ▸ hCarried measured hMember
        have hSum :=
          List.sum_le_card_nsmul
            ((expectedKeys cfg.opts.streamMode).map
              (fun key => framesOffered key
                (payloadsOf camera log)))
            (windowFrames cfg.opts) (by
              intro count hCount
              rcases List.mem_map.mp hCount with
                ⟨key, hKey, hEq⟩
              exact hEq ▸ hFrames camera key hKey)
        rw [List.length_map,
          length_expectedKeys hRoom.streams_ne,
          smul_eq_mul, Nat.mul_comm] at hSum
        exact Nat.le_trans hLength hSum

end

------------------------------------------------------------
-- Runs
------------------------------------------------------------

open Steady

variable {n m : Nat}

/- No measured delivery of the log exhausted an allocation. -/
def NothingExhausted (log : List (Measurement n)) : Prop :=
  ∀ measured ∈ log, ∀ error,
    measured.error = some error → error.exhausted = false

structure CapacityInvariant
    (cfg : Config n)
    (log : List (Measurement n))
    (s : State n m) : Prop where
  facts : MainFacts cfg s
  locks : LockFacts s
  cameras : ∀ camera, CameraFacts cfg.opts (s.cameras camera)
  storage :
    Provisos cfg.opts log →
      ∀ camera,
        StorageFacts cfg.opts.streamMode cfg.plan
          (payloadsOf camera log) (s.cameras camera)
  exhausted :
    Provisos cfg.opts log → NothingExhausted log

theorem sameMeasurement_refl
    (metrics : CameraMetrics) :
    SameMeasurement metrics metrics :=
  ⟨rfl, rfl, rfl, rfl, rfl, rfl, rfl⟩

theorem sameMeasurement_update
    {s : State n m}
    {camera : Fin n}
    {metrics : CameraMetrics}
    (hSame : SameMeasurement (s.cameras camera) metrics)
    (other : Fin n) :
    SameMeasurement (s.cameras other)
      (Function.update s.cameras camera metrics other) := by
  by_cases hOther : other = camera
  · subst hOther
    rw [Function.update_self]
    exact hSame
  · rw [Function.update_of_ne hOther]
    exact sameMeasurement_refl _

variable {cfg : Config n}
variable {id : ThreadId n m}
variable {s t : State n m}

/- A thread that is not measuring measures nothing. -/
theorem measurements_of_not_measuring
    {s : State n m}
    (hThread : ∀ d, s.threads id ≠ .measuring d)
    (action : ThreadAction n) :
    measurements cfg s (.thread id action) = [] := by
  unfold measurements
  dsimp only
  split
  next d hFrom => exact absurd hFrom (hThread d)
  · rfl

/-
  A step of a thread either measures nothing and leaves the
  measurement records alone, or records one delivery.
-/
theorem ThreadEffect.measurement_cases
    (hEffect : ThreadEffect cfg s id t)
    (action : ThreadAction n) :
    (measurements cfg s (.thread id action) = [] ∧
      ∀ camera,
        SameMeasurement (s.cameras camera)
          (t.cameras camera)) ∨
    ∃ d, s.threads id = .measuring d ∧
      measurements cfg s (.thread id action) =
        [measurementOf cfg s d] ∧
      t.cameras =
        Function.update s.cameras d.camera
          (recordMeasuredDelivery cfg.opts
            (s.cameras d.camera) d.payload d.hostNs
            d.hostRealtimeNs d.waitMs).1 := by
  have hFree :
      (s.threads id).free = true →
        measurements cfg s (.thread id action) = [] :=
    fun hFrom =>
      measurements_of_not_measuring
        (measuring_ne_of_free hFrom) action
  have hArrived :
      ∀ d, s.threads id = .arrived d →
        measurements cfg s (.thread id action) = [] := by
    intro d hFrom
    exact measurements_of_not_measuring (by simp [hFrom])
      action
  have hSame :
      ∀ camera, SameMeasurement (s.cameras camera)
        (s.cameras camera) :=
    fun camera => sameMeasurement_refl _
  cases hEffect with
  | quiet phase hFrom => exact Or.inl ⟨hFree hFrom, hSame⟩
  | arrive d hFrom => exact Or.inl ⟨hFree hFrom, hSame⟩
  | timeout camera wasEnabled phase hFrom =>
      exact Or.inl ⟨hFree hFrom,
        sameMeasurement_update
          (countTimeout_sameMeasurement _ _)⟩
  | report camera failure hFrom =>
      exact Or.inl ⟨hFree hFrom, hSame⟩
  | skip d hFrom => exact Or.inl ⟨hArrived d hFrom, hSame⟩
  | warm d hFrom =>
      exact Or.inl ⟨hArrived d hFrom,
        sameMeasurement_update
          (recordWarmupDelivery_spec _ _ _ _).same⟩
  | lock d hFrom => exact Or.inl ⟨hArrived d hFrom, hSame⟩
  | late d hFrom hLate =>
      left
      refine ⟨?_, hSame⟩
      simp only [measurements, hFrom, if_pos hLate]
  | record d hFrom hInTime =>
      right
      refine ⟨d, hFrom, ?_, rfl⟩
      have hNotLate :
          ¬ (s.control.measurementDeadlineNs ≠ 0 ∧
            s.control.measurementDeadlineNs < d.hostNs) := by
        omega
      simp only [measurements, hFrom, if_neg hNotLate]
  | signal camera op ops exits hFrom =>
      left
      exact ⟨measurements_of_not_measuring (by simp [hFrom])
        action, hSame⟩

theorem thread_capacityInvariant
    {log : List (Measurement n)}
    (hInv : CapacityInvariant cfg log s)
    (hEffect : ThreadEffect cfg s id t)
    (action : ThreadAction n) :
    CapacityInvariant cfg
      (log ++ measurements cfg s (.thread id action)) t := by
  have hFacts := hEffect.frame.facts hInv.facts
  have hLocks := hEffect.locks hInv.locks
  have hCameras :=
    thread_cameraFacts hEffect hInv.locks hInv.cameras
  rcases hEffect.measurement_cases action with
    ⟨hNone, hSame⟩ | ⟨d, hFrom, hNew, hNext⟩
  · rw [hNone, List.append_nil]
    exact
      { facts := hFacts
        locks := hLocks
        cameras := hCameras
        storage := fun hProvisos camera =>
          (hInv.storage hProvisos camera).of_same
            (hSame camera)
        exhausted := hInv.exhausted }
  · rw [hNew]
    have hRecorded :
        Provisos cfg.opts (log ++ [measurementOf cfg s d]) →
        StorageFacts cfg.opts.streamMode cfg.plan
            (payloadsOf d.camera log ++ [d.payload])
            (recordMeasuredDelivery cfg.opts
              (s.cameras d.camera) d.payload d.hostNs
              d.hostRealtimeNs d.waitMs).1 ∧
          ∀ error,
            (recordMeasuredDelivery cfg.opts
              (s.cameras d.camera) d.payload d.hostNs
              d.hostRealtimeNs d.waitMs).2.storageError =
                some error →
            error.exhausted = false := by
      intro hProvisos
      have hStored :=
        hInv.storage hProvisos.of_append d.camera
      have hOwn :
          payloadsOf d.camera
              (log ++ [measurementOf cfg s d]) =
            payloadsOf d.camera log ++ [d.payload] := by
        rw [payloadsOf_append]
        simp [payloadsOf, measurementOf]
      have hFits := fits_of_provisos hProvisos (by
        intro hMode
        have hBefore :=
          (hInv.cameras d.camera).incomplete hMode
            (hInv.locks.incomplete id d hFrom)
        rw [hStored.deliveries_eq] at hBefore
        rw [hOwn, List.length_append, List.length_singleton]
        omega)
      rcases hFits with ⟨deliveries, bound, hPlan, hRoom⟩
      rw [hOwn] at hRoom
      exact recordMeasuredDelivery_storage hPlan hStored hRoom
        d.hostNs d.hostRealtimeNs d.waitMs
    refine
      { facts := hFacts
        locks := hLocks
        cameras := hCameras
        storage := ?_
        exhausted := ?_ }
    · intro hProvisos camera
      rw [payloadsOf_append, hNext]
      by_cases hCamera : camera = d.camera
      · subst hCamera
        rw [Function.update_self]
        simpa [payloadsOf, measurementOf] using
          (hRecorded hProvisos).1
      · rw [Function.update_of_ne hCamera]
        have hOther : ¬ d.camera = camera := fun hEq =>
          hCamera hEq.symm
        simpa [payloadsOf, measurementOf, hOther] using
          hInv.storage hProvisos.of_append camera
    · intro hProvisos measured hMember error hError
      rcases List.mem_append.mp hMember with hOld | hLast
      · exact hInv.exhausted hProvisos.of_append measured
          hOld error hError
      · rw [List.mem_singleton.mp hLast] at hError
        exact (hRecorded hProvisos).2 error hError

theorem step_capacityInvariant
    {log : List (Measurement n)}
    {action : Action n m}
    (hInv : CapacityInvariant cfg log s)
    (hStep : step cfg s action = some t) :
    CapacityInvariant cfg (log ++ measurements cfg s action)
      t := by
  cases action with
  | tick now =>
      have hFacts := step_facts hInv.facts hStep
      simp only [step] at hStep
      split at hStep
      · cases hStep
        simp only [measurements, List.append_nil]
        exact
          { facts := hFacts
            locks :=
              ⟨hInv.locks.locked, hInv.locks.incomplete,
                hInv.locks.alone⟩
            cameras := hInv.cameras
            storage := hInv.storage
            exhausted := hInv.exhausted }
      · cases hStep
  | thread id action =>
      exact thread_capacityInvariant hInv
        (threadStep_effect hStep) action
  | main input =>
      have hFrame := mainStep_frame hInv.facts hStep
      simp only [measurements, List.append_nil]
      refine
        { facts := mainStep_facts hInv.facts hStep
          locks := hInv.locks.of_main hFrame
          cameras := ?_
          storage := ?_
          exhausted := hInv.exhausted }
      · rw [hFrame.cameras_eq]
        exact hInv.cameras
      · rw [hFrame.cameras_eq]
        exact hInv.storage

theorem start_capacityInvariant
    (cfg : Config n) :
    CapacityInvariant cfg [] (start cfg m) := by
  have hBarrier := start_barrierInvariant cfg (m := m)
  have hPrepared :=
    prepareCameraMetrics_prepared cfg.opts.streamMode cfg.plan
  have hKnown :
      ∀ key,
        key ∈ (prepareCameraMetrics {} cfg.opts.streamMode
            cfg.plan).streams →
          key ∈ expectedKeys cfg.opts.streamMode := by
    intro key hKey
    rw [Std.TreeMap.mem_iff_isSome_getElem?,
      hPrepared.streams_eq] at hKey
    by_contra hNot
    simp [hNot] at hKey
  have hConsistent := hPrepared.consistent
  refine
    { facts := hBarrier.facts
      locks := hBarrier.locks
      cameras := hBarrier.cameras
      storage := ?_
      exhausted := fun _ => by simp [NothingExhausted] }
  intro _ camera
  change StorageFacts cfg.opts.streamMode cfg.plan []
    (prepareCameraMetrics {} cfg.opts.streamMode cfg.plan)
  rcases hPrepared.fresh with ⟨streams, warmup, hFresh⟩
  refine ⟨⟨hConsistent, hKnown, ?_⟩, ?_, ?_, ?_⟩
  · intro key
    rw [hFresh]
    exact Nat.zero_le _
  · rw [hFresh]
    rfl
  · rw [hFresh]
    exact Nat.le_refl 0
  · rw [hFresh]
    exact Nat.le_refl 0

/-
  In every run whose measured deliveries meet the provisos,
  no delivery reports an exhausted allocation.
-/
theorem run_storage_suffices
    (cfg : Config n)
    (actions : List (Action n m))
    (s : State n m)
    (hRun :
      (probe cfg m).run (start cfg m) actions = some s)
    (hCount :
      CountProviso cfg.opts
        ((probe cfg m).observe (measurements cfg)
          (start cfg m) actions))
    (hCallback :
      CallbackProviso cfg.opts
        ((probe cfg m).observe (measurements cfg)
          (start cfg m) actions))
    (hWait :
      WaitProviso cfg.opts
        ((probe cfg m).observe (measurements cfg)
          (start cfg m) actions)) :
    NothingExhausted
      ((probe cfg m).observe (measurements cfg)
        (start cfg m) actions) := by
  have hInv :
      CapacityInvariant cfg
        ([] ++ (probe cfg m).observe (measurements cfg)
          (start cfg m) actions) s :=
    (probe cfg m).run_observe_invariant
      (fun _ _ _ _ hBefore hStep =>
        step_capacityInvariant hBefore hStep)
      (start_capacityInvariant cfg) hRun
  rw [List.nil_append] at hInv
  exact hInv.exhausted ⟨hCount, hCallback, hWait⟩

/- One depth camera that measures for a millisecond. -/
def shortConfig : Config 1 where
  args :=
    ["--stream-mode", "depth", "--fps", "1",
      "--measurement-duration-ms", "1",
      "--warmup-frames", "2"]
  opts :=
    { streamMode := "depth"
      fps := 1
      measurementDurationMs := 1
      warmupFrames := 2 }
  parsed := rfl
  serials _ := "0001"
  plan := ⟨4, 4, 4⟩
  planned := by decide +kernel
  startOrder := [⟨0, Nat.one_pos⟩]
  ordered := rfl

/- As many framesets return as the measurement has frames. -/
def roomyRun : List (Action 1 0) :=
  warmRun ++ goMain 4 ++ [.tick 2000] ++ goMain 3 ++
    [3, 4].flatMap (fun frameNumber =>
      takeFrame frameNumber ++ goThread 3)

/-
  The single measured delivery of a run that counts meets the
  provisos, and so do those of a run of a fixed duration.
-/
theorem settledRun_storage_suffices :
    (((probe depthConfig 0).observe (measurements depthConfig)
        (start depthConfig 0) settledRun).length = 1 ∧
      NothingExhausted
        ((probe depthConfig 0).observe
          (measurements depthConfig) (start depthConfig 0)
          settledRun)) ∧
      ((probe shortConfig 0).observe (measurements shortConfig)
        (start shortConfig 0) roomyRun).length = 2 ∧
      NothingExhausted
        ((probe shortConfig 0).observe
          (measurements shortConfig) (start shortConfig 0)
          roomyRun) := by
  have hSettled :
      ((probe depthConfig 0).run (start depthConfig 0)
        settledRun).isSome = true := by
    decide +kernel
  have hRoomy :
      ((probe shortConfig 0).run (start shortConfig 0)
        roomyRun).isSome = true := by
    decide +kernel
  have hSingle :
      ∀ measured ∈
          (probe depthConfig 0).observe
            (measurements depthConfig) (start depthConfig 0)
            settledRun,
        ∀ key ∈ expectedKeys "depth",
          handleCount key measured.payload.handles ≤ 1 := by
    decide +kernel
  have hSingles :
      ∀ measured ∈
          (probe shortConfig 0).observe
            (measurements shortConfig) (start shortConfig 0)
            roomyRun,
        ∀ key ∈ expectedKeys "depth",
          handleCount key measured.payload.handles ≤ 1 := by
    decide +kernel
  have hWindow :
      ∀ camera : Fin 1,
        (payloadsOf camera
          ((probe shortConfig 0).observe
            (measurements shortConfig) (start shortConfig 0)
            roomyRun)).length ≤
          windowFrames shortConfig.opts := by
    decide +kernel
  rcases Option.isSome_iff_exists.mp hSettled with ⟨s, hRun⟩
  rcases Option.isSome_iff_exists.mp hRoomy with ⟨t, hWaits⟩
  refine ⟨⟨by decide +kernel, ?_⟩, by decide +kernel, ?_⟩
  · refine run_storage_suffices depthConfig settledRun s hRun
      ?_ ?_ ?_
    · intro _
      exact hSingle
    · intro hMode
      cases hMode
    · intro hMode
      cases hMode
  · refine run_storage_suffices shortConfig roomyRun t hWaits
      ?_ ?_ ?_
    · intro hMode
      cases hMode
    · intro _ hDelivery
      exact absurd hDelivery (by decide)
    · intro _ _
      exact ⟨hWindow, hSingles⟩

/- Five framesets return at the start of the measurement. -/
def crowdedRun : List (Action 1 0) :=
  warmRun ++ goMain 4 ++ [.tick 2000] ++ goMain 3 ++
    [3, 4, 5, 6, 7].flatMap (fun frameNumber =>
      takeFrame frameNumber ++ goThread 3)

/-
  With wait threads and a fixed duration, neither of the
  other two provisos keeps the fifth delivery from exhausting
  the four wait samples of the plan.
-/
theorem crowdedRun_exhausts :
    (∃ s, (probe shortConfig 0).run (start shortConfig 0)
        crowdedRun = some s) ∧
      CountProviso shortConfig.opts
        ((probe shortConfig 0).observe
          (measurements shortConfig) (start shortConfig 0)
          crowdedRun) ∧
      CallbackProviso shortConfig.opts
        ((probe shortConfig 0).observe
          (measurements shortConfig) (start shortConfig 0)
          crowdedRun) ∧
      ¬ NothingExhausted
        ((probe shortConfig 0).observe
          (measurements shortConfig) (start shortConfig 0)
          crowdedRun) := by
  have hSome :
      ((probe shortConfig 0).run (start shortConfig 0)
        crowdedRun).isSome = true := by
    decide +kernel
  have hErrors :
      some .waitSample ∈
        ((probe shortConfig 0).observe
          (measurements shortConfig) (start shortConfig 0)
          crowdedRun).map Measurement.error := by
    decide +kernel
  refine ⟨Option.isSome_iff_exists.mp hSome, ?_, ?_, ?_⟩
  · intro hMode
    cases hMode
  · intro _ hDelivery
    exact absurd hDelivery (by decide)
  · intro hNone
    rcases List.mem_map.mp hErrors with
      ⟨measured, hMember, hError⟩
    have := hNone measured hMember .waitSample hError
    cases this

end Probe

end RsCamera
