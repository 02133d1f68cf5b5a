import RsCamera.Steady.Metrics

/-
  The counters, samples and events of a camera stay in
  lock-step through every sequence of recorded frames.

  `recordMeasuredFrame_cases` says once what a call can do:
  nothing, or append one event and account it to its stream.
  The invariant `MetricsConsistent` follows from it.

  Main declarations:
    * `MetricsConsistent`, `SamplesConsistent`
    * `recordMeasuredFrame_cases`
    * `prepareCameraMetrics_consistent`
    * `recordMeasuredFrame_consistent`
    * `recordCalls_consistent`
-/

------------------------------------------------------------
-- Consistency Of The Records
------------------------------------------------------------

namespace RsCamera

namespace Steady

/- The recorded events of one stream, in order. -/
def CameraMetrics.eventsOf
    (metrics : CameraMetrics)
    (key : String) : List FrameEvent :=
  metrics.events.items.filter (fun event => event.key = key)

/- A vector holds its prepared allocation and fits in it. -/
def Reserved
    {X : Type}
    (capacity : Nat)
    (v : GrowVector X) : Prop :=
  v.capacity = capacity ∧ v.size ≤ capacity

/- A stream's counters and samples match its own events. -/
structure SamplesConsistent
    (capacity : Nat)
    (events : List FrameEvent)
    (stream : StreamMetrics) : Prop where
  frames_eq : stream.frames = events.length
  hasLast_eq : stream.hasLast = !events.isEmpty
  sensor_size :
    stream.sensorInterarrivalMs.size = stream.frames - 1
  host_size :
    stream.hostInterarrivalMs.size = stream.frames - 1
  sensor_reserved :
    Reserved capacity stream.sensorInterarrivalMs
  host_reserved :
    Reserved capacity stream.hostInterarrivalMs
  last_eq :
    ∀ event, events.getLast? = some event →
      stream.lastFrameNumber = event.frameNumber ∧
        stream.lastHostNs = event.hostBoottimeNs

/- A camera's counters, samples and events agree. -/
structure MetricsConsistent
    (plan : StoragePlan)
    (metrics : CameraMetrics) : Prop where
  frames_eq : metrics.frames = metrics.events.size
  total_eq :
    mapTotal StreamMetrics.frames metrics.streams =
      metrics.events.size
  events_reserved :
    Reserved plan.eventCapacity metrics.events
  intervals_reserved :
    Reserved plan.deliveryCapacity
      metrics.deliveryInterarrivalMs
  waits_reserved :
    Reserved plan.deliveryCapacity metrics.waitMs
  events_known :
    ∀ event ∈ metrics.events.items,
      event.key ∈ metrics.streams
  streams_consistent :
    ∀ (key : String) stream,
      metrics.streams[key]? = some stream →
      SamplesConsistent plan.streamSampleCapacity
        (metrics.eventsOf key) stream

theorem reserved_allocateAndPrefault
    {X : Type}
    [Inhabited X]
    (capacity : Nat) :
    Reserved capacity
      (allocateAndPrefault ({} : GrowVector X) capacity) := by
  simp [Reserved, allocateAndPrefault, GrowVector.resize,
    GrowVector.clear, GrowVector.size]

/- A checked append keeps a vector inside its allocation. -/
theorem Reserved.pushBack
    {X : Type}
    {capacity : Nat}
    {v : GrowVector X}
    (hReserved : Reserved capacity v)
    (hRoom : v.full = false)
    (x : X) :
    Reserved capacity (v.pushBack x) := by
  rcases hReserved with ⟨hCapacity, _⟩
  have hSize := GrowVector.full_eq_false_iff.mp hRoom
  constructor
  · rw [GrowVector.capacity_pushBack_of_not_full hRoom,
      hCapacity]
  · rw [GrowVector.size_pushBack]
    omega

------------------------------------------------------------
-- Prepared Metrics
------------------------------------------------------------

/- A stream that has been prepared and not yet used. -/
def preparedStream (plan : StoragePlan) : StreamMetrics where
  sensorInterarrivalMs :=
    allocateAndPrefault {} plan.streamSampleCapacity
  hostInterarrivalMs :=
    allocateAndPrefault {} plan.streamSampleCapacity

/- What preparing the streams does to a fresh camera. -/
structure Prepared
    (plan : StoragePlan)
    (keys : List String)
    (metrics : CameraMetrics) : Prop where
  fresh :
    ∃ streams warmupStreams,
      metrics =
        { storage := plan
          deliveryInterarrivalMs :=
            allocateAndPrefault {} plan.deliveryCapacity
          waitMs :=
            allocateAndPrefault {} plan.deliveryCapacity
          events := allocateAndPrefault {} plan.eventCapacity
          streams := streams
          warmupStreams := warmupStreams }
  streams_eq :
    ∀ key, metrics.streams[key]? =
      if key ∈ keys then some (preparedStream plan) else none
  warmup_eq :
    ∀ key, metrics.warmupStreams[key]? =
      if key ∈ keys then some {} else none

private theorem compare_eq_iff
    (left right : String) :
    compare left right = .eq ↔ left = right :=
  Std.LawfulEqOrd.compare_eq_iff_eq

/- Preparing the same allocation again changes nothing. -/
private theorem allocateAndPrefault_idem
    {X : Type}
    [Inhabited X]
    (capacity : Nat) :
    allocateAndPrefault
        (allocateAndPrefault ({} : GrowVector X) capacity)
        capacity =
      allocateAndPrefault {} capacity := by
  simp [allocateAndPrefault, GrowVector.resize,
    GrowVector.clear, GrowVector.size]

theorem prepareStream_prepared
    {plan : StoragePlan}
    {keys : List String}
    {metrics : CameraMetrics}
    (hPrepared : Prepared plan keys metrics)
    (key : String) :
    Prepared plan (keys ++ [key])
      (prepareStream plan metrics key) := by
  have hLookup :
      (metrics.streams.insertIfNew key {}).getD key {} =
        if key ∈ keys then preparedStream plan else {} := by
    rw [Std.TreeMap.getD_eq_getD_getElem?,
      Std.TreeMap.getElem?_insertIfNew, hPrepared.streams_eq]
    by_cases hMem : key ∈ keys
    · have hIn : key ∈ metrics.streams := by
        rw [Std.TreeMap.mem_iff_isSome_getElem?,
          hPrepared.streams_eq]
        simp [hMem]
      simp [hMem, hIn]
    · have hOut : key ∉ metrics.streams := by
        rw [Std.TreeMap.mem_iff_isSome_getElem?,
          hPrepared.streams_eq]
        simp [hMem]
      simp [hMem, hOut]
  constructor
  · rcases hPrepared.fresh with
      ⟨streams, warmupStreams, hFresh⟩
    subst hFresh
    exact ⟨_, _, rfl⟩
  · intro other
    simp only [prepareStream, Std.TreeMap.getElem?_insert,
      Std.TreeMap.getElem?_insertIfNew, hLookup,
      hPrepared.streams_eq, compare_eq_iff]
    by_cases hOther : key = other
    · subst hOther
      by_cases hMem : key ∈ keys
      · simp [hMem, preparedStream, allocateAndPrefault_idem]
      · simp [hMem, preparedStream]
    · have hSym : ¬ other = key := fun hEq =>
        hOther hEq.symm
      simp [hOther, hSym]
  · intro other
    have hMemIff :
        key ∈ metrics.warmupStreams ↔ key ∈ keys := by
      rw [Std.TreeMap.mem_iff_isSome_getElem?,
        hPrepared.warmup_eq]
      by_cases hMem : key ∈ keys
      · simp [hMem]
      · simp [hMem]
    simp only [prepareStream,
      Std.TreeMap.getElem?_insertIfNew, hPrepared.warmup_eq,
      compare_eq_iff, hMemIff]
    by_cases hOther : key = other
    · subst hOther
      by_cases hMem : key ∈ keys
      · simp [hMem]
      · simp [hMem]
    · have hSym : ¬ other = key := fun hEq =>
        hOther hEq.symm
      simp [hOther, hSym]

/- A prepared camera has exactly the expected streams. -/
theorem prepareCameraMetrics_prepared
    (streamMode : String)
    (plan : StoragePlan) :
    Prepared plan (expectedKeys streamMode)
      (prepareCameraMetrics {} streamMode plan) := by
  unfold prepareCameraMetrics
  generalize expectedKeys streamMode = keys
  induction keys using List.reverseRecOn with
  | nil =>
      exact ⟨⟨∅, ∅, rfl⟩, by simp, by simp⟩
  | append_singleton keys key ih =>
      rw [List.foldl_append, List.foldl_cons,
        List.foldl_nil]
      exact prepareStream_prepared ih key

theorem preparedStream_consistent
    (plan : StoragePlan) :
    SamplesConsistent plan.streamSampleCapacity []
      (preparedStream plan) where
  frames_eq := rfl
  hasLast_eq := rfl
  sensor_size := rfl
  host_size := rfl
  sensor_reserved := reserved_allocateAndPrefault _
  host_reserved := reserved_allocateAndPrefault _
  last_eq := by simp

theorem Prepared.consistent
    {plan : StoragePlan}
    {keys : List String}
    {metrics : CameraMetrics}
    (hPrepared : Prepared plan keys metrics) :
    MetricsConsistent plan metrics := by
  have hStream :
      ∀ (key : String) stream,
        metrics.streams[key]? = some stream →
          stream = preparedStream plan := by
    intro key stream hKey
    rw [hPrepared.streams_eq] at hKey
    split at hKey
    · exact (Option.some.inj hKey).symm
    · cases hKey
  have hTotal :
      mapTotal StreamMetrics.frames metrics.streams = 0 := by
    apply mapTotal_eq_zero
    intro key stream hKey
    rw [hStream key stream hKey]
    rfl
  rcases hPrepared.fresh with
    ⟨streams, warmupStreams, hFresh⟩
  subst hFresh
  constructor
  · rfl
  · exact hTotal
  · exact reserved_allocateAndPrefault _
  · exact reserved_allocateAndPrefault _
  · exact reserved_allocateAndPrefault _
  · simp [allocateAndPrefault, GrowVector.clear]
  · intro key stream hKey
    rw [hStream key stream hKey]
    exact preparedStream_consistent plan

------------------------------------------------------------
-- One Recorded Frame
------------------------------------------------------------

/- The metrics after one frame has been recorded. -/
def CameraMetrics.append
    (metrics : CameraMetrics)
    (frame : Frame)
    (stream : StreamMetrics)
    (hostBoottimeNs hostRealtimeNs delivery : Nat) :
    CameraMetrics :=
  { metrics with
    streams :=
      metrics.streams.insert frame.key
        (stream.observe frame hostBoottimeNs)
    frames := metrics.frames + 1
    events :=
      metrics.events.pushBack
        (frame.event hostBoottimeNs hostRealtimeNs
          delivery) }

/-
  What recording a frame can do: skip an empty frame, reject
  an unexpected stream, report an exhausted allocation, or
  append the frame's event.
-/
theorem recordMeasuredFrame_cases
    (metrics : CameraMetrics)
    (frame : Option Frame)
    (hostBoottimeNs hostRealtimeNs delivery : Nat) :
    (frame = none ∧
      recordMeasuredFrame metrics frame hostBoottimeNs
        hostRealtimeNs delivery = (metrics, none)) ∨
    (∃ f, frame = some f ∧ metrics.streams[f.key]? = none ∧
      recordMeasuredFrame metrics frame hostBoottimeNs
          hostRealtimeNs delivery =
        (metrics, some (.unexpectedStream f.key))) ∨
    (∃ f stream, frame = some f ∧
      metrics.streams[f.key]? = some stream ∧
      metrics.events.full = true ∧
      recordMeasuredFrame metrics frame hostBoottimeNs
          hostRealtimeNs delivery =
        (metrics, some .frameEvent)) ∨
    (∃ f stream, frame = some f ∧
      metrics.streams[f.key]? = some stream ∧
      stream.samplesExhausted = true ∧
      recordMeasuredFrame metrics frame hostBoottimeNs
          hostRealtimeNs delivery =
        (metrics, some (.streamSample f.key))) ∨
    (∃ f stream, frame = some f ∧
      metrics.streams[f.key]? = some stream ∧
      metrics.events.full = false ∧
      stream.samplesExhausted = false ∧
      recordMeasuredFrame metrics frame hostBoottimeNs
          hostRealtimeNs delivery =
        (metrics.append f stream hostBoottimeNs
          hostRealtimeNs delivery, none)) := by
  cases frame with
  | none => exact Or.inl ⟨rfl, rfl⟩
  | some f =>
      right
      cases hStream : metrics.streams[f.key]? with
      | none =>
          left
          exact ⟨f, rfl, hStream, by
            simp [recordMeasuredFrame, hStream]⟩
      | some stream =>
          right
          cases hFull : metrics.events.full with
          | true =>
              left
              exact ⟨f, stream, rfl, hStream, rfl, by
                simp [recordMeasuredFrame, hStream, hFull]⟩
          | false =>
              right
              cases hSamples : stream.samplesExhausted with
              | true =>
                  left
                  exact ⟨f, stream, rfl, hStream, hSamples,
                    by simp [recordMeasuredFrame, hStream,
                      hFull, hSamples]⟩
              | false =>
                  right
                  exact ⟨f, stream, rfl, hStream, rfl,
                    hSamples, by
                      simp [recordMeasuredFrame, hStream,
                        hFull, hSamples,
                        appendWithoutReallocation,
                        CameraMetrics.append]⟩

/- A call that reports an error leaves the metrics alone. -/
theorem recordMeasuredFrame_eq_of_error
    {metrics : CameraMetrics}
    {frame : Option Frame}
    {hostBoottimeNs hostRealtimeNs delivery : Nat}
    {error : StorageError}
    (hError :
      (recordMeasuredFrame metrics frame hostBoottimeNs
        hostRealtimeNs delivery).2 = some error) :
    (recordMeasuredFrame metrics frame hostBoottimeNs
      hostRealtimeNs delivery).1 = metrics := by
  rcases recordMeasuredFrame_cases metrics frame
      hostBoottimeNs hostRealtimeNs delivery with
    ⟨_, hResult⟩ | ⟨_, _, _, hResult⟩ |
    ⟨_, _, _, _, _, hResult⟩ | ⟨_, _, _, _, _, hResult⟩ |
    ⟨_, _, _, _, _, _, hResult⟩
  all_goals rw [hResult] at hError ⊢
  simp at hError

/- The event of a frame is stored under the frame's key. -/
@[simp] theorem Frame.event_key
    (frame : Frame)
    (hostBoottimeNs hostRealtimeNs delivery : Nat) :
    (frame.event hostBoottimeNs hostRealtimeNs
      delivery).key = frame.key := rfl

/- Observing a frame extends a stream by the frame's event. -/
theorem SamplesConsistent.observe
    {capacity : Nat}
    {events : List FrameEvent}
    {stream : StreamMetrics}
    (hStream : SamplesConsistent capacity events stream)
    (hRoom : stream.samplesExhausted = false)
    (frame : Frame)
    (hostBoottimeNs hostRealtimeNs delivery : Nat) :
    SamplesConsistent capacity
      (events ++
        [frame.event hostBoottimeNs hostRealtimeNs delivery])
      (stream.observe frame hostBoottimeNs) := by
  have hFrames := hStream.frames_eq
  have hHasLast := hStream.hasLast_eq
  cases hLast : stream.hasLast with
  | false =>
      -- The first frame of a stream has no interval yet.
      have hEmpty : events = [] := by
        simpa [hLast] using hHasLast
      have hSensor := hStream.sensor_size
      have hHost := hStream.host_size
      subst hEmpty
      constructor <;>
        simp_all [StreamMetrics.observe, Frame.event,
          hStream.sensor_reserved, hStream.host_reserved]
  | true =>
      have hNonempty : 0 < stream.frames := by
        rw [hFrames]
        apply List.length_pos_of_ne_nil
        simpa [hLast] using hHasLast
      have hSensorRoom :
          stream.sensorInterarrivalMs.full = false := by
        simp_all [StreamMetrics.samplesExhausted]
      have hHostRoom :
          stream.hostInterarrivalMs.full = false := by
        simp_all [StreamMetrics.samplesExhausted]
      have hSensor := hStream.sensor_size
      have hHost := hStream.host_size
      constructor
      · simp [StreamMetrics.observe, hFrames]
      · simp [StreamMetrics.observe]
      · simp only [StreamMetrics.observe, hLast, if_true,
          appendWithoutReallocation, hSensorRoom,
          Bool.false_eq_true, if_false,
          GrowVector.size_pushBack]
        omega
      · simp only [StreamMetrics.observe, hLast, if_true,
          appendWithoutReallocation, hHostRoom,
          Bool.false_eq_true, if_false,
          GrowVector.size_pushBack]
        omega
      · simpa [StreamMetrics.observe, hLast,
          appendWithoutReallocation, hSensorRoom] using
          hStream.sensor_reserved.pushBack hSensorRoom _
      · simpa [StreamMetrics.observe, hLast,
          appendWithoutReallocation, hHostRoom] using
          hStream.host_reserved.pushBack hHostRoom _
      · intro event hEvent
        simp only [List.getLast?_concat,
          Option.some.injEq] at hEvent
        subst hEvent
        simp [StreamMetrics.observe, Frame.event]

theorem eventsOf_append
    (metrics : CameraMetrics)
    (frame : Frame)
    (stream : StreamMetrics)
    (hostBoottimeNs hostRealtimeNs delivery : Nat)
    (key : String) :
    (metrics.append frame stream hostBoottimeNs
        hostRealtimeNs delivery).eventsOf key =
      metrics.eventsOf key ++
        (if frame.key = key then
          [frame.event hostBoottimeNs hostRealtimeNs delivery]
        else
          []) := by
  unfold CameraMetrics.eventsOf CameraMetrics.append
  rw [GrowVector.items_pushBack, List.filter_append]
  by_cases hKey : frame.key = key
  · simp [hKey]
  · simp [hKey]

theorem MetricsConsistent.append
    {plan : StoragePlan}
    {metrics : CameraMetrics}
    (hConsistent : MetricsConsistent plan metrics)
    {frame : Frame}
    {stream : StreamMetrics}
    (hStream : metrics.streams[frame.key]? = some stream)
    (hEvents : metrics.events.full = false)
    (hSamples : stream.samplesExhausted = false)
    (hostBoottimeNs hostRealtimeNs delivery : Nat) :
    MetricsConsistent plan
      (metrics.append frame stream hostBoottimeNs
        hostRealtimeNs delivery) := by
  have hOwn :=
    (hConsistent.streams_consistent frame.key stream
      hStream).observe hSamples frame hostBoottimeNs
        hostRealtimeNs delivery
  constructor
  · simp [CameraMetrics.append, hConsistent.frames_eq]
  · have hTotal :=
      mapTotal_insert_of_getElem? StreamMetrics.frames
        hStream (stream.observe frame hostBoottimeNs)
    have hBefore := hConsistent.total_eq
    simp only [CameraMetrics.append, StreamMetrics.observe,
      GrowVector.size_pushBack] at hTotal ⊢
    omega
  · exact hConsistent.events_reserved.pushBack hEvents _
  · exact hConsistent.intervals_reserved
  · exact hConsistent.waits_reserved
  · intro event hEvent
    simp only [CameraMetrics.append,
      GrowVector.items_pushBack, List.mem_append,
      List.mem_singleton] at hEvent
    simp only [CameraMetrics.append, Std.TreeMap.mem_insert]
    rcases hEvent with hOld | hNew
    · exact Or.inr (hConsistent.events_known event hOld)
    · left
      rw [hNew, Frame.event_key]
      exact Std.ReflCmp.compare_self
  · intro key other hOther
    rw [eventsOf_append]
    simp only [CameraMetrics.append,
      Std.TreeMap.getElem?_insert, compare_eq_iff] at hOther
    by_cases hKey : frame.key = key
    · subst hKey
      simp only [if_true, Option.some.injEq] at hOther ⊢
      exact hOther ▸ hOwn
    · simp only [hKey, if_false, List.append_nil] at hOther ⊢
      exact hConsistent.streams_consistent key other hOther

theorem recordMeasuredFrame_consistent
    {plan : StoragePlan}
    {metrics : CameraMetrics}
    (hConsistent : MetricsConsistent plan metrics)
    (frame : Option Frame)
    (hostBoottimeNs hostRealtimeNs delivery : Nat) :
    MetricsConsistent plan
      (recordMeasuredFrame metrics frame hostBoottimeNs
        hostRealtimeNs delivery).1 := by
  rcases recordMeasuredFrame_cases metrics frame
      hostBoottimeNs hostRealtimeNs delivery with
    ⟨_, hResult⟩ | ⟨_, _, _, hResult⟩ |
    ⟨_, _, _, _, _, hResult⟩ | ⟨_, _, _, _, _, hResult⟩ |
    ⟨f, stream, _, hStream, hEvents, hSamples, hResult⟩
  all_goals rw [hResult]
  · exact hConsistent
  · exact hConsistent
  · exact hConsistent
  · exact hConsistent
  · exact hConsistent.append hStream hEvents hSamples
      hostBoottimeNs hostRealtimeNs delivery

------------------------------------------------------------
-- Sequences Of Recorded Frames
------------------------------------------------------------

/- The arguments of one call of `recordMeasuredFrame`. -/
structure RecordCall where
  frame : Option Frame
  hostBoottimeNs : Nat
  hostRealtimeNs : Nat
  delivery : Nat
deriving Repr, DecidableEq

/- One call on the metrics of a camera. -/
def RecordCall.apply
    (metrics : CameraMetrics)
    (call : RecordCall) :
    CameraMetrics × Option StorageError :=
  recordMeasuredFrame metrics call.frame call.hostBoottimeNs
    call.hostRealtimeNs call.delivery

/- A sequence of calls, whatever each of them returns. -/
def recordCalls
    (metrics : CameraMetrics)
    (calls : List RecordCall) : CameraMetrics :=
  calls.foldl (fun m call => (call.apply m).1) metrics

/-
  After every sequence of calls on a prepared camera the
  records agree, and a further call that returns an error
  leaves them exactly as they were.
-/
theorem recordCalls_consistent
    (streamMode : String)
    (plan : StoragePlan)
    (calls : List RecordCall) :
    MetricsConsistent plan
        (recordCalls
          (prepareCameraMetrics {} streamMode plan) calls) ∧
      ∀ (call : RecordCall) (error : StorageError),
        (call.apply (recordCalls
          (prepareCameraMetrics {} streamMode plan)
            calls)).2 = some error →
        (call.apply (recordCalls
          (prepareCameraMetrics {} streamMode plan)
            calls)).1 =
          recordCalls
            (prepareCameraMetrics {} streamMode plan)
              calls := by
  constructor
  · induction calls using List.reverseRecOn with
    | nil =>
        exact (prepareCameraMetrics_prepared streamMode
          plan).consistent
    | append_singleton calls call ih =>
        unfold recordCalls at ih ⊢
        rw [List.foldl_append, List.foldl_cons,
          List.foldl_nil]
        exact recordMeasuredFrame_consistent ih _ _ _ _
  · intro call error hError
    exact recordMeasuredFrame_eq_of_error hError

end Steady

end RsCamera
