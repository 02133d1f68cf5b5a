import RsCamera.Probe.Options
import RsCamera.Steady.Consistency

/-
  What one delivery does to the metrics of its camera: the
  part of `record_delivery` that runs under the camera's
  mutex (`realsense_steady_probe.cpp`).

  A delivery is accounted to the warm-up until the camera is
  warm, and to the measurement afterwards.  The outcome says
  which flags rose and which errors were met; what follows
  from it is left to the caller.

  Key definitions include:
    * `DeliveryOutcome`
    * `recordWarmupDelivery`
    * `recordMeasuredDelivery`

  Key theorems include:
    * `recordWarmupDelivery_spec`
    * `recordMeasuredDelivery_spec`
-/

------------------------------------------------------------
-- Warm-up Deliveries
------------------------------------------------------------

namespace RsCamera

namespace Probe

section

open Steady

/- What a delivery reports once the camera is unlocked. -/
structure DeliveryOutcome where
  becameSchedulerReady : Bool := false
  becameWarm : Bool := false
  becameComplete : Bool := false
  healthError : Option HealthError := none
  storageError : Option StorageError := none
deriving Repr, DecidableEq

def healthWindow (opts : Options) : Nat :=
  min opts.warmupFrames.toNat
    (if 0 < opts.warmupHealthWindowFrames then
      opts.warmupHealthWindowFrames.toNat
    else
      (max 2 opts.fps).toNat)

def healthStart (opts : Options) : Nat :=
  opts.warmupFrames.toNat - healthWindow opts + 1

/- Account the frames of a delivery, keeping the first error. -/
def recordWarmupFrames
    (metrics : CameraMetrics)
    (handles : List (Option Frame)) :
    CameraMetrics × Option HealthError :=
  handles.foldl
    (fun result handle =>
      let next := recordWarmupFrame result.1 handle
      (next.1, result.2.or next.2))
    (metrics, none)

/- Count a warm-up delivery. -/
def countWarmupDelivery
    (metrics : CameraMetrics)
    (hostNs : Nat) : CameraMetrics :=
  { metrics with
    firstWarmupNs :=
      if metrics.firstWarmupNs = 0 then
        hostNs
      else
        metrics.firstWarmupNs
    warmupDeliveries := metrics.warmupDeliveries + 1 }

/- Observe the frames of a delivery in the health window. -/
def observeHealthWindow
    (opts : Options)
    (metrics : CameraMetrics)
    (payload : Payload) :
    CameraMetrics × Option HealthError :=
  if healthStart opts ≤ metrics.warmupDeliveries then
    recordWarmupFrames
      { metrics with
        warmupHealthDeliveries :=
          metrics.warmupHealthDeliveries + 1 }
      payload.handles
  else
    (metrics, none)

/- Whether a camera reaches the scheduler transition. -/
def reachesSchedulerThreshold
    (opts : Options)
    (metrics : CameraMetrics) : Bool :=
  modeledSchedulerRequested opts && !metrics.schedulerReady &&
    (schedulerApplyThreshold opts).toNat ≤
      metrics.warmupDeliveries

/- The health check that ends the warm-up of a camera. -/
def finalHealthError
    (opts : Options)
    (metrics : CameraMetrics) : Option HealthError :=
  warmupHealthError metrics
    (expectedStreamCount opts.streamMode)
    (opts.delivery = "wait")
    (opts.hardwareSyncMaster ≠ "")

def recordWarmupDelivery
    (opts : Options)
    (metrics : CameraMetrics)
    (payload : Payload)
    (hostNs : Nat) :
    CameraMetrics × DeliveryOutcome :=
  let observed :=
    observeHealthWindow opts
      (countWarmupDelivery metrics hostNs) payload
  let becameReady :=
    reachesSchedulerThreshold opts observed.1
  let readied :=
    { observed.1 with
      schedulerReady :=
        observed.1.schedulerReady || becameReady }
  if opts.warmupFrames.toNat ≤ readied.warmupDeliveries then
    match observed.2.or (finalHealthError opts readied) with
    | none =>
        ({ readied with warmed := true },
          { becameSchedulerReady := becameReady
            becameWarm := true })
    | some error =>
        (readied,
          { becameSchedulerReady := becameReady
            healthError := some error })
  else
    (readied,
      { becameSchedulerReady := becameReady
        healthError := observed.2 })

end

------------------------------------------------------------
-- Measured Deliveries
------------------------------------------------------------

section

open Steady

/- Record frame after frame until one reports an error. -/
def recordMeasuredFrames
    (metrics : CameraMetrics)
    (handles : List (Option Frame))
    (hostNs hostRealtimeNs delivery : Nat) :
    CameraMetrics × Option StorageError :=
  match handles with
  | [] => (metrics, none)
  | handle :: rest =>
      match recordMeasuredFrame metrics handle hostNs
          hostRealtimeNs delivery with
      | (next, some error) => (next, some error)
      | (next, none) =>
          recordMeasuredFrames next rest hostNs
            hostRealtimeNs delivery

/- The interval since the previous measured delivery. -/
def recordInterval
    (metrics : CameraMetrics)
    (hostNs : Nat) :
    CameraMetrics × Option StorageError :=
  if metrics.lastDeliveryNs = 0 then
    (metrics, none)
  else if metrics.deliveryInterarrivalMs.full then
    (metrics, some .deliveryInterval)
  else
    ({ metrics with
        deliveryInterarrivalMs :=
          metrics.deliveryInterarrivalMs.pushBack
            (nsToMs
              (u64Sub hostNs metrics.lastDeliveryNs)) },
      none)

/- The time spent waiting; negative for a callback. -/
def recordWait
    (metrics : CameraMetrics)
    (waitMs : ℚ) : CameraMetrics × Option StorageError :=
  if waitMs < 0 then
    (metrics, none)
  else if metrics.waitMs.full then
    (metrics, some .waitSample)
  else
    ({ metrics with
        waitMs := metrics.waitMs.pushBack waitMs },
      none)

/- Count a measured delivery. -/
def countMeasuredDelivery
    (metrics : CameraMetrics)
    (hostNs : Nat) : CameraMetrics :=
  { metrics with
    deliveries := metrics.deliveries + 1
    firstMeasuredNs :=
      if metrics.firstMeasuredNs = 0 then
        hostNs
      else
        metrics.firstMeasuredNs }

/- The samples taken of a delivery before its frames. -/
def recordDeliverySamples
    (metrics : CameraMetrics)
    (hostNs : Nat)
    (waitMs : ℚ) : CameraMetrics × Option StorageError :=
  let interval :=
    recordInterval (countMeasuredDelivery metrics hostNs)
      hostNs
  let wait :=
    recordWait
      { interval.1 with
        lastDeliveryNs := hostNs
        lastMeasuredNs := hostNs } waitMs
  -- A wait error replaces the interval error.
  (wait.1, wait.2.or interval.2)

def recordMeasuredDelivery
    (opts : Options)
    (metrics : CameraMetrics)
    (payload : Payload)
    (hostNs hostRealtimeNs : Nat)
    (waitMs : ℚ) :
    CameraMetrics × DeliveryOutcome :=
  let samples := recordDeliverySamples metrics hostNs waitMs
  let recorded :=
    match samples.2 with
    | some error => (samples.1, some error)
    | none =>
        recordMeasuredFrames samples.1 payload.handles hostNs
          hostRealtimeNs samples.1.deliveries
  let complete :=
    !fixedDurationMeasurement opts &&
      opts.frames.toNat ≤ recorded.1.deliveries
  ({ recorded.1 with
      completed := recorded.1.completed || complete },
    { becameComplete := complete
      storageError := recorded.2 })

end

------------------------------------------------------------
-- What A Warm-up Delivery Changes
------------------------------------------------------------

section

open Steady

/- The measurement records of a camera are left alone. -/
structure SameMeasurement
    (before after : CameraMetrics) : Prop where
  deliveries_eq : after.deliveries = before.deliveries
  frames_eq : after.frames = before.frames
  completed_eq : after.completed = before.completed
  intervals_eq :
    after.deliveryInterarrivalMs =
      before.deliveryInterarrivalMs
  waits_eq : after.waitMs = before.waitMs
  streams_eq : after.streams = before.streams
  events_eq : after.events = before.events

/- The warm-up records of a camera are left alone. -/
structure SameWarmup
    (before after : CameraMetrics) : Prop where
  deliveries_eq :
    after.warmupDeliveries = before.warmupDeliveries
  health_eq :
    after.warmupHealthDeliveries =
      before.warmupHealthDeliveries
  ready_eq : after.schedulerReady = before.schedulerReady
  warmed_eq : after.warmed = before.warmed
  streams_eq : after.warmupStreams = before.warmupStreams

theorem SameMeasurement.consistent
    {plan : StoragePlan}
    {before after : CameraMetrics}
    (hSame : SameMeasurement before after)
    (hConsistent : MetricsConsistent plan before) :
    MetricsConsistent plan after := by
  have hOf :
      ∀ key, after.eventsOf key = before.eventsOf key := by
    intro key
    rw [CameraMetrics.eventsOf, CameraMetrics.eventsOf,
      hSame.events_eq]
  constructor
  · rw [hSame.frames_eq, hSame.events_eq]
    exact hConsistent.frames_eq
  · rw [hSame.streams_eq, hSame.events_eq]
    exact hConsistent.total_eq
  · rw [hSame.events_eq]
    exact hConsistent.events_reserved
  · rw [hSame.intervals_eq]
    exact hConsistent.intervals_reserved
  · rw [hSame.waits_eq]
    exact hConsistent.waits_reserved
  · rw [hSame.events_eq, hSame.streams_eq]
    exact hConsistent.events_known
  · rw [hSame.streams_eq]
    intro key stream hStream
    rw [hOf key]
    exact hConsistent.streams_consistent key stream hStream

/- The final health check reads the warm-up records only. -/
theorem SameWarmup.finalHealthError_eq
    {before after : CameraMetrics}
    (hSame : SameWarmup before after)
    (opts : Options) :
    finalHealthError opts after =
      finalHealthError opts before := by
  unfold finalHealthError warmupHealthError
  unfold warmupStreamFails allowedColorDuplicates
  rw [hSame.streams_eq, hSame.health_eq]

/- What a warm-up delivery does to its camera. -/
structure WarmupStep
    (opts : Options)
    (before after : CameraMetrics)
    (outcome : DeliveryOutcome) : Prop where
  same : SameMeasurement before after
  deliveries_eq :
    after.warmupDeliveries = before.warmupDeliveries + 1
  ready_eq :
    after.schedulerReady =
      (before.schedulerReady || outcome.becameSchedulerReady)
  ready_fresh :
    outcome.becameSchedulerReady = true →
      before.schedulerReady = false
  ready_of_threshold :
    modeledSchedulerRequested opts = true →
    (schedulerApplyThreshold opts).toNat ≤
        after.warmupDeliveries →
      after.schedulerReady = true
  warmed_eq :
    after.warmed = (before.warmed || outcome.becameWarm)
  warm_count :
    outcome.becameWarm = true →
      opts.warmupFrames.toNat ≤ after.warmupDeliveries
  warm_health :
    outcome.becameWarm = true →
      finalHealthError opts after = none
  complete_eq : outcome.becameComplete = false
  storage_eq : outcome.storageError = none

/- Observing warm-up frames changes the warm-up streams. -/
theorem recordWarmupFrames_fst
    (metrics : CameraMetrics)
    (handles : List (Option Frame)) :
    ∃ streams,
      (recordWarmupFrames metrics handles).1 =
        { metrics with warmupStreams := streams } := by
  unfold recordWarmupFrames
  induction handles using List.reverseRecOn with
  | nil => exact ⟨_, rfl⟩
  | append_singleton handles handle ih =>
      rcases ih with ⟨streams, hStreams⟩
      rw [List.foldl_append, List.foldl_cons,
        List.foldl_nil]
      simp only [hStreams]
      unfold recordWarmupFrame
      split
      · exact ⟨streams, rfl⟩
      · split
        · exact ⟨streams, rfl⟩
        · exact ⟨_, rfl⟩

theorem observeHealthWindow_fst
    (opts : Options)
    (metrics : CameraMetrics)
    (payload : Payload) :
    ∃ healthDeliveries streams,
      (observeHealthWindow opts metrics payload).1 =
        { metrics with
          warmupHealthDeliveries := healthDeliveries
          warmupStreams := streams } := by
  unfold observeHealthWindow
  split
  · rcases recordWarmupFrames_fst
      { metrics with
        warmupHealthDeliveries :=
          metrics.warmupHealthDeliveries + 1 }
      payload.handles with ⟨streams, hStreams⟩
    exact ⟨_, streams, hStreams⟩
  · exact ⟨_, _, rfl⟩

theorem recordWarmupDelivery_spec
    (opts : Options)
    (metrics : CameraMetrics)
    (payload : Payload)
    (hostNs : Nat) :
    WarmupStep opts metrics
      (recordWarmupDelivery opts metrics payload hostNs).1
      (recordWarmupDelivery opts metrics payload
        hostNs).2 := by
  rcases observeHealthWindow_fst opts
      (countWarmupDelivery metrics hostNs) payload with
    ⟨healthDeliveries, streams, hObserved⟩
  simp only [recordWarmupDelivery]
  generalize observeHealthWindow opts
    (countWarmupDelivery metrics hostNs) payload =
      observed at hObserved
  rcases observed with ⟨observed, error⟩
  simp only at hObserved
  subst hObserved
  have hReady :
      ∀ warmupDeliveries,
        modeledSchedulerRequested opts = true →
        (schedulerApplyThreshold opts).toNat ≤
            warmupDeliveries →
        (metrics.schedulerReady ||
          (modeledSchedulerRequested opts &&
            !metrics.schedulerReady &&
            decide ((schedulerApplyThreshold opts).toNat ≤
              warmupDeliveries))) = true := by
    intro warmupDeliveries hModeled hThreshold
    cases hWas : metrics.schedulerReady with
    | true => rfl
    | false => simp [hModeled, hThreshold]
  have hFresh :
      ∀ warmupDeliveries,
        (modeledSchedulerRequested opts &&
            !metrics.schedulerReady &&
            decide ((schedulerApplyThreshold opts).toNat ≤
              warmupDeliveries)) = true →
          metrics.schedulerReady = false := by
    intro warmupDeliveries hReaches
    simp only [Bool.and_eq_true, Bool.not_eq_true'] at hReaches
    exact hReaches.1.2
  split
  · next hCount =>
      split
      · next hHealth =>
          refine
            { same := ⟨rfl, rfl, rfl, rfl, rfl, rfl, rfl⟩
              deliveries_eq := rfl
              ready_eq := rfl
              ready_fresh := hFresh _
              ready_of_threshold := hReady _
              warmed_eq := by simp
              warm_count := fun _ => hCount
              warm_health := ?_
              complete_eq := rfl
              storage_eq := rfl }
          intro _
          exact (Option.or_eq_none_iff.mp hHealth).2
      · exact
          { same := ⟨rfl, rfl, rfl, rfl, rfl, rfl, rfl⟩
            deliveries_eq := rfl
            ready_eq := rfl
            ready_fresh := hFresh _
            ready_of_threshold := hReady _
            warmed_eq := by simp [countWarmupDelivery]
            warm_count := by simp
            warm_health := by simp
            complete_eq := rfl
            storage_eq := rfl }
  · exact
      { same := ⟨rfl, rfl, rfl, rfl, rfl, rfl, rfl⟩
        deliveries_eq := rfl
        ready_eq := rfl
        ready_fresh := hFresh _
        ready_of_threshold := hReady _
        warmed_eq := by simp [countWarmupDelivery]
        warm_count := by simp
        warm_health := by simp
        complete_eq := rfl
        storage_eq := rfl }

end

------------------------------------------------------------
-- What A Measured Delivery Changes
------------------------------------------------------------

open Steady

/- What a measured delivery does to its camera. -/
structure MeasuredStep
    (opts : Options)
    (hostNs : Nat)
    (before after : CameraMetrics)
    (outcome : DeliveryOutcome) : Prop where
  same : SameWarmup before after
  deliveries_eq : after.deliveries = before.deliveries + 1
  completed_eq :
    after.completed =
      (before.completed || outcome.becameComplete)
  complete_eq :
    outcome.becameComplete =
      (!fixedDurationMeasurement opts &&
        decide (opts.frames.toNat ≤ after.deliveries))
  events_host :
    ∀ event ∈ after.events.items,
      event ∈ before.events.items ∨
        event.hostBoottimeNs = hostNs
  ready_eq : outcome.becameSchedulerReady = false
  warm_eq : outcome.becameWarm = false
  health_eq : outcome.healthError = none

/-
  Recording the frames of a delivery changes the streams,
  the frame counter and the events, and nothing else.
-/
theorem recordMeasuredFrames_fst
    (metrics : CameraMetrics)
    (handles : List (Option Frame))
    (hostNs hostRealtimeNs delivery : Nat) :
    ∃ streams frames events,
      (recordMeasuredFrames metrics handles hostNs
          hostRealtimeNs delivery).1 =
        { metrics with
          streams := streams
          frames := frames
          events := events } ∧
      ∀ event ∈ events.items,
        event ∈ metrics.events.items ∨
          event.hostBoottimeNs = hostNs := by
  induction handles generalizing metrics with
  | nil => exact ⟨_, _, _, rfl, fun _ hEvent => .inl hEvent⟩
  | cons handle rest ih =>
      unfold recordMeasuredFrames
      rcases recordMeasuredFrame_cases metrics handle hostNs
          hostRealtimeNs delivery with
        ⟨_, hResult⟩ | ⟨_, _, _, hResult⟩ |
        ⟨_, _, _, _, _, hResult⟩ |
        ⟨_, _, _, _, _, hResult⟩ |
        ⟨frame, stream, _, _, _, _, hResult⟩
      all_goals rw [hResult]
      · exact ih metrics
      · exact ⟨_, _, _, rfl, fun _ hEvent => .inl hEvent⟩
      · exact ⟨_, _, _, rfl, fun _ hEvent => .inl hEvent⟩
      · exact ⟨_, _, _, rfl, fun _ hEvent => .inl hEvent⟩
      · rcases ih (metrics.append frame stream hostNs
            hostRealtimeNs delivery) with
          ⟨streams, frames, events, hRest, hHost⟩
        refine ⟨streams, frames, events, hRest, ?_⟩
        intro event hEvent
        rcases hHost event hEvent with hOld | hNew
        · simp only [CameraMetrics.append,
            GrowVector.items_pushBack, List.mem_append,
            List.mem_singleton] at hOld
          rcases hOld with hOld | hOwn
          · exact Or.inl hOld
          · exact Or.inr (hOwn ▸ rfl)
        · exact Or.inr hNew

/- The samples of a delivery touch the samples only. -/
theorem recordDeliverySamples_fst
    (metrics : CameraMetrics)
    (hostNs : Nat)
    (waitMs : ℚ) :
    ∃ intervals waits,
      (recordDeliverySamples metrics hostNs waitMs).1 =
        { countMeasuredDelivery metrics hostNs with
          lastDeliveryNs := hostNs
          lastMeasuredNs := hostNs
          deliveryInterarrivalMs := intervals
          waitMs := waits } := by
  have hInterval :
      ∃ intervals,
        (recordInterval
          (countMeasuredDelivery metrics hostNs) hostNs).1 =
        { countMeasuredDelivery metrics hostNs with
          deliveryInterarrivalMs := intervals } := by
    unfold recordInterval
    split
    · exact ⟨_, rfl⟩
    · split
      · exact ⟨_, rfl⟩
      · exact ⟨_, rfl⟩
  rcases hInterval with ⟨intervals, hInterval⟩
  unfold recordDeliverySamples
  simp only [hInterval, recordWait]
  split
  · exact ⟨intervals, _, rfl⟩
  · split
    · exact ⟨intervals, _, rfl⟩
    · exact ⟨intervals, _, rfl⟩

theorem recordMeasuredDelivery_spec
    (opts : Options)
    (metrics : CameraMetrics)
    (payload : Payload)
    (hostNs hostRealtimeNs : Nat)
    (waitMs : ℚ) :
    MeasuredStep opts hostNs metrics
      (recordMeasuredDelivery opts metrics payload hostNs
        hostRealtimeNs waitMs).1
      (recordMeasuredDelivery opts metrics payload hostNs
        hostRealtimeNs waitMs).2 := by
  rcases recordDeliverySamples_fst metrics hostNs waitMs with
    ⟨intervals, waits, hSamples⟩
  simp only [recordMeasuredDelivery]
  split
  · simp only [hSamples]
    exact
      { same := ⟨rfl, rfl, rfl, rfl, rfl⟩
        deliveries_eq := rfl
        completed_eq := rfl
        complete_eq := rfl
        events_host := fun _ hEvent => .inl hEvent
        ready_eq := rfl
        warm_eq := rfl
        health_eq := rfl }
  · rcases recordMeasuredFrames_fst
        (recordDeliverySamples metrics hostNs waitMs).1
        payload.handles hostNs hostRealtimeNs
        (recordDeliverySamples metrics hostNs
          waitMs).1.deliveries with
      ⟨streams, frames, events, hFrames, hHost⟩
    simp only [hFrames]
    simp only [hSamples] at hHost ⊢
    exact
      { same := ⟨rfl, rfl, rfl, rfl, rfl⟩
        deliveries_eq := rfl
        completed_eq := rfl
        complete_eq := rfl
        events_host := hHost
        ready_eq := rfl
        warm_eq := rfl
        health_eq := rfl }

end Probe

end RsCamera
