import RsCamera.Probe.Delivery
import RsCamera.Steady.Storage

/-
  The warm-up of a camera that delivers perfectly: one frame
  of each expected stream in every delivery, numbered without
  a gap.

  The health check wants two frames of each stream inside
  its window.  A camera therefore becomes warm with the last
  warm-up delivery when the window holds two deliveries, and
  never otherwise: a warm-up of fewer than two frames and a
  window of one frame are accepted on the command line and
  refuse every camera.

  Key definitions include:
    * `FreshDelivery`, `FreshDeliveries`
    * `recordDelivery`, `warmupRun`, `WarmsAtLast`
    * `WarmingUp`

  Key theorems include:
    * `recordWarmupFrames_fresh`
    * `WarmingUp.step`, `warmupRun_warmingUp`
    * `freshDeliveries_warm_iff`
-/

------------------------------------------------------------
-- Perfect Deliveries
------------------------------------------------------------

namespace RsCamera

namespace Probe

section

open Steady

/- A frameset with one frame of each stream, so numbered. -/
def FreshDelivery
    (keys : List String)
    (number : String → Nat)
    (payload : Payload) : Prop :=
  ∃ frames : List Frame,
    payload = .frameset (frames.map some) ∧
      (frames.map Frame.key).Perm keys ∧
      ∀ frame ∈ frames,
        frame.frameNumber = number frame.key

/- Deliveries whose numbers go up by one, within a word. -/
def FreshDeliveries
    (keys : List String)
    (first : String → Nat)
    (deliveries : List (Payload × Nat)) : Prop :=
  ∀ i delivery, deliveries[i]? = some delivery →
    FreshDelivery keys (fun key => first key + i) delivery.1 ∧
      ∀ key ∈ keys, first key + i < 2 ^ 64

/-
  What `record_delivery` does to a camera while the
  measurement is not enabled.
-/
def recordDelivery
    (opts : Options)
    (metrics : CameraMetrics)
    (delivery : Payload × Nat) :
    CameraMetrics × DeliveryOutcome :=
  if metrics.completed || metrics.warmed then
    (metrics, {})
  else
    recordWarmupDelivery opts metrics delivery.1 delivery.2

/- The camera after some deliveries, and what they reported. -/
def warmupRun
    (opts : Options)
    (metrics : CameraMetrics)
    (deliveries : List (Payload × Nat)) :
    CameraMetrics × List DeliveryOutcome :=
  deliveries.foldl
    (fun run delivery =>
      let recorded := recordDelivery opts run.1 delivery
      (recorded.1, run.2 ++ [recorded.2]))
    (metrics, [])

/- The camera becomes warm with the last delivery. -/
structure WarmsAtLast
    (opts : Options)
    (metrics : CameraMetrics)
    (deliveries : List (Payload × Nat)) : Prop where
  cold :
    ∀ n < deliveries.length,
      (warmupRun opts metrics
        (deliveries.take n)).1.warmed = false
  warm : (warmupRun opts metrics deliveries).1.warmed = true
  healthy :
    ∀ outcome ∈ (warmupRun opts metrics deliveries).2,
      outcome.healthError = none

end

------------------------------------------------------------
-- Observed Streams
------------------------------------------------------------

section

open Steady

/- A stream after some frames in a row. -/
def freshStream
    (first deliveries observed : Nat) :
    WarmupStreamMetrics where
  observedFrames := observed
  hasLast := observed ≠ 0
  lastFrameNumber :=
    if observed = 0 then 0 else first + deliveries - 1

theorem freshStream_observe
    {first deliveries observed : Nat}
    (hObserved : observed ≤ deliveries)
    (hWord : first + deliveries < 2 ^ 64) :
    (freshStream first deliveries observed).observe
        (first + deliveries) =
      freshStream first (deliveries + 1) (observed + 1) := by
  unfold freshStream WarmupStreamMetrics.observe
  by_cases hNone : observed = 0
  · simp [hNone]
  · have hNotSame :
        first + deliveries ≠ first + deliveries - 1 := by
      omega
    have hNotLess :
        ¬ first + deliveries < first + deliveries - 1 := by
      omega
    have hNext :
        u64 (first + deliveries - 1 + 1) =
          first + deliveries := by
      rw [u64_of_lt (by omega)]
      omega
    simp [hNone, hNotSame, hNotLess, hNext]

/- Frames of different known streams are all observed. -/
theorem recordWarmupFrames_fresh
    {frames : List Frame}
    (hNodup : (frames.map Frame.key).Nodup)
    {metrics : CameraMetrics}
    (hKnown :
      ∀ frame ∈ frames, frame.key ∈ metrics.warmupStreams) :
    (recordWarmupFrames metrics (frames.map some)).2 = none ∧
      (∀ frame ∈ frames,
        (recordWarmupFrames metrics
            (frames.map some)).1.warmupStreams[frame.key]? =
          metrics.warmupStreams[frame.key]?.map
            (fun stream => stream.observe frame.frameNumber)) ∧
      ∀ key, key ∉ frames.map Frame.key →
        (recordWarmupFrames metrics
            (frames.map some)).1.warmupStreams[key]? =
          metrics.warmupStreams[key]? := by
  unfold recordWarmupFrames
  induction frames using List.reverseRecOn with
  | nil => simp
  | append_singleton frames frame ih =>
      rw [List.map_append, List.nodup_append] at hNodup
      rcases ih hNodup.1
        (fun other hOther =>
          hKnown other (List.mem_append_left _ hOther)) with
        ⟨hHealthy, hObserved, hOthers⟩
      have hNew : frame.key ∉ frames.map Frame.key := by
        intro hMember
        exact hNodup.2.2 _ hMember _ (by simp) rfl
      have hSame := hOthers frame.key hNew
      rw [List.map_append, List.foldl_append]
      generalize
        (frames.map some).foldl
          (fun result handle =>
            let next := recordWarmupFrame result.1 handle
            (next.1, result.2.or next.2))
          (metrics, none) = result at *
      have hIn := hKnown frame (by simp)
      rw [Std.TreeMap.mem_iff_isSome_getElem?,
        Option.isSome_iff_exists] at hIn
      rcases hIn with ⟨stream, hStream⟩
      rw [hStream] at hSame
      simp only [List.map_cons, List.map_nil, List.foldl_cons,
        List.foldl_nil, recordWarmupFrame, hSame, hHealthy,
        Option.or_none, Std.TreeMap.getElem?_insert,
        true_and]
      constructor
      · intro other hOther
        rcases List.mem_append.mp hOther with hBefore | hIs
        · have hDifferent :
              compare frame.key other.key ≠ .eq := by
            intro hEq
            apply hNew
            rw [Std.LawfulEqOrd.eq_of_compare hEq]
            exact List.mem_map_of_mem hBefore
          rw [if_neg hDifferent]
          exact hObserved other hBefore
        · rw [List.mem_singleton.mp hIs]
          simp [hStream]
      · intro key hKey
        rw [List.map_append, List.mem_append] at hKey
        have hDifferent : compare frame.key key ≠ .eq := by
          intro hEq
          apply hKey
          right
          rw [← Std.LawfulEqOrd.eq_of_compare hEq]
          simp
        rw [if_neg hDifferent]
        exact hOthers key (fun hIn => hKey (Or.inl hIn))

end

------------------------------------------------------------
-- Warming Up
------------------------------------------------------------

section

open Steady

/- The deliveries inside the health window so far. -/
def windowDeliveries (opts : Options) (n : Nat) : Nat :=
  n + 1 - healthStart opts

/- A camera after so many perfect warm-up deliveries. -/
structure WarmingUp
    (opts : Options)
    (first : String → Nat)
    (n : Nat)
    (metrics : CameraMetrics) : Prop where
  completed_eq : metrics.completed = false
  warmed_eq : metrics.warmed = false
  deliveries_eq : metrics.warmupDeliveries = n
  health_eq :
    metrics.warmupHealthDeliveries = windowDeliveries opts n
  streams_eq :
    ∀ key, metrics.warmupStreams[key]? =
      if key ∈ expectedKeys opts.streamMode then
        some (freshStream (first key) n
          (windowDeliveries opts n))
      else
        none

theorem healthStart_pos
    (opts : Options) :
    1 ≤ healthStart opts := by
  unfold healthStart
  omega

theorem nodup_expectedKeys
    (streamMode : String) :
    (expectedKeys streamMode).Nodup := by
  unfold expectedKeys expectedStreams
  split
  · decide +kernel
  · simp only
    split <;> split <;> decide +kernel

/- A prepared camera has seen nothing. -/
theorem warmingUp_prepared
    (opts : Options)
    (plan : StoragePlan)
    (first : String → Nat) :
    WarmingUp opts first 0
      (prepareCameraMetrics {} opts.streamMode plan) := by
  have hPrepared :=
    prepareCameraMetrics_prepared opts.streamMode plan
  have hNone : windowDeliveries opts 0 = 0 := by
    have hStart := healthStart_pos opts
    unfold windowDeliveries
    omega
  rcases hPrepared.fresh with ⟨streams, warmupStreams, hFresh⟩
  constructor
  · rw [hFresh]
  · rw [hFresh]
  · rw [hFresh]
  · rw [hFresh, hNone]
  · intro key
    rw [hPrepared.warmup_eq, hNone]
    rfl

variable {opts : Options}
variable {first : String → Nat}
variable {n : Nat}
variable {metrics : CameraMetrics}

theorem WarmingUp.count_next
    (hWarming : WarmingUp opts first n metrics)
    (hostNs : Nat) :
    (countWarmupDelivery metrics hostNs).warmupDeliveries =
      n + 1 := by
  simp [countWarmupDelivery, hWarming.deliveries_eq]

/- Inside the window every frame is checked. -/
theorem WarmingUp.observe_inside
    (hWarming : WarmingUp opts first n metrics)
    {payload : Payload}
    (hFresh :
      FreshDelivery (expectedKeys opts.streamMode)
        (fun key => first key + n) payload)
    (hWords :
      ∀ key ∈ expectedKeys opts.streamMode,
        first key + n < 2 ^ 64)
    (hostNs : Nat)
    (hInside : healthStart opts ≤ n + 1) :
    (observeHealthWindow opts
        (countWarmupDelivery metrics hostNs)
        payload).2 = none ∧
      WarmingUp opts first (n + 1)
        (observeHealthWindow opts
          (countWarmupDelivery metrics hostNs) payload).1 := by
  have hCount := hWarming.count_next hostNs
  have hStart := healthStart_pos opts
  unfold observeHealthWindow
  have hWindow :
      windowDeliveries opts (n + 1) =
        windowDeliveries opts n + 1 := by
    unfold windowDeliveries
    omega
  have hSmall : windowDeliveries opts n ≤ n := by
    unfold windowDeliveries
    omega
  rcases hFresh with ⟨frames, hPayload, hKeys, hNumbers⟩
  have hNodup : (frames.map Frame.key).Nodup :=
    hKeys.nodup_iff.mpr (nodup_expectedKeys opts.streamMode)
  have hKnown :
      ∀ frame ∈ frames,
        frame.key ∈
          ({ countWarmupDelivery metrics hostNs with
            warmupHealthDeliveries :=
              (countWarmupDelivery metrics
                hostNs).warmupHealthDeliveries +
                1 } : CameraMetrics).warmupStreams := by
    intro frame hFrame
    have hKey := hKeys.subset (List.mem_map_of_mem hFrame)
    change frame.key ∈ metrics.warmupStreams
    rw [Std.TreeMap.mem_iff_isSome_getElem?,
      hWarming.streams_eq, if_pos hKey]
    rfl
  rcases recordWarmupFrames_fresh hNodup hKnown with
    ⟨hHealthy, hObserved, hOthers⟩
  rcases recordWarmupFrames_fst
    { countWarmupDelivery metrics hostNs with
      warmupHealthDeliveries :=
        (countWarmupDelivery metrics
          hostNs).warmupHealthDeliveries + 1 }
    (frames.map some) with ⟨streams, hStreams⟩
  rw [if_pos (by rw [hCount]; exact hInside), hPayload]
  refine ⟨hHealthy, ?_⟩
  change WarmingUp opts first (n + 1)
    (recordWarmupFrames
      { countWarmupDelivery metrics hostNs with
        warmupHealthDeliveries :=
          (countWarmupDelivery metrics
            hostNs).warmupHealthDeliveries + 1 }
      (frames.map some)).1
  constructor
  · rw [hStreams]
    exact hWarming.completed_eq
  · rw [hStreams]
    exact hWarming.warmed_eq
  · rw [hStreams]
    exact hCount
  · rw [hStreams, hWindow]
    exact congrArg (· + 1) hWarming.health_eq
  · intro key
    by_cases hKey : key ∈ expectedKeys opts.streamMode
    · rcases List.mem_map.mp (hKeys.symm.subset hKey) with
        ⟨frame, hFrame, hIs⟩
      rw [← hIs] at hKey ⊢
      rw [hObserved frame hFrame]
      change metrics.warmupStreams[frame.key]?.map _ = _
      rw [hWarming.streams_eq, if_pos hKey, if_pos hKey,
        Option.map_some, hNumbers frame hFrame,
        freshStream_observe hSmall (hWords _ hKey), hWindow]
    · rw [hOthers key (fun hIn => hKey (hKeys.subset hIn))]
      change metrics.warmupStreams[key]? = _
      rw [hWarming.streams_eq, if_neg hKey, if_neg hKey]

/- Before the window a delivery is only counted. -/
theorem WarmingUp.observe_outside
    (hWarming : WarmingUp opts first n metrics)
    (payload : Payload)
    (hostNs : Nat)
    (hOutside : ¬ healthStart opts ≤ n + 1) :
    (observeHealthWindow opts
        (countWarmupDelivery metrics hostNs)
        payload).2 = none ∧
      WarmingUp opts first (n + 1)
        (observeHealthWindow opts
          (countWarmupDelivery metrics hostNs) payload).1 := by
  have hCount := hWarming.count_next hostNs
  unfold observeHealthWindow
  have hNow : windowDeliveries opts n = 0 := by
    unfold windowDeliveries
    omega
  have hNext : windowDeliveries opts (n + 1) = 0 := by
    unfold windowDeliveries
    omega
  rw [if_neg (by rw [hCount]; exact hOutside)]
  refine ⟨rfl, ?_⟩
  constructor
  · exact hWarming.completed_eq
  · exact hWarming.warmed_eq
  · exact hCount
  · rw [hNext, ← hNow]
    exact hWarming.health_eq
  · intro key
    change metrics.warmupStreams[key]? = _
    rw [hWarming.streams_eq, hNow, hNext]
    rfl

/- The window has been observed, and nothing else changed. -/
theorem WarmingUp.observe
    (hWarming : WarmingUp opts first n metrics)
    {payload : Payload}
    (hFresh :
      FreshDelivery (expectedKeys opts.streamMode)
        (fun key => first key + n) payload)
    (hWords :
      ∀ key ∈ expectedKeys opts.streamMode,
        first key + n < 2 ^ 64)
    (hostNs : Nat) :
    (observeHealthWindow opts
        (countWarmupDelivery metrics hostNs)
        payload).2 = none ∧
      WarmingUp opts first (n + 1)
        (observeHealthWindow opts
          (countWarmupDelivery metrics hostNs) payload).1 := by
  by_cases hInside : healthStart opts ≤ n + 1
  · exact hWarming.observe_inside hFresh hWords hostNs hInside
  · exact hWarming.observe_outside payload hostNs hInside

end

------------------------------------------------------------
-- The Last Warm-up Delivery
------------------------------------------------------------

open Steady

variable {opts : Options}
variable {n : Nat}
variable {metrics : CameraMetrics}
variable {deliveries : List (Payload × Nat)}

theorem WarmingUp.streams_size
    {first : String → Nat}
    (hWarming : WarmingUp opts first n metrics)
    (hMode : expectedStreamCount opts.streamMode ≠ 0) :
    metrics.warmupStreams.size =
      expectedStreamCount opts.streamMode := by
  have hPerm :
      metrics.warmupStreams.keys.Perm
        (expectedKeys opts.streamMode) := by
    apply (List.perm_ext_iff_of_nodup Std.TreeMap.nodup_keys
      (nodup_expectedKeys opts.streamMode)).mpr
    intro key
    rw [Std.TreeMap.mem_keys,
      Std.TreeMap.mem_iff_isSome_getElem?,
      hWarming.streams_eq]
    by_cases hKey : key ∈ expectedKeys opts.streamMode
    · simp [hKey]
    · simp [hKey]
  rw [← Std.TreeMap.length_keys, hPerm.length_eq,
    length_expectedKeys hMode]

/- Two deliveries in the window are what the check wants. -/
theorem WarmingUp.finalHealthError_iff
    {first : String → Nat}
    (hWarming : WarmingUp opts first n metrics)
    (hMode : expectedStreamCount opts.streamMode ≠ 0) :
    finalHealthError opts metrics = none ↔
      2 ≤ windowDeliveries opts n := by
  have hFails :
      ∀ key ∈ expectedKeys opts.streamMode,
        warmupStreamFails metrics (opts.delivery = "wait")
            (opts.hardwareSyncMaster ≠ "") key
            (freshStream (first key) n
              (windowDeliveries opts n)) =
          decide (windowDeliveries opts n < 2) := by
    intro key _
    simp [warmupStreamFails, freshStream, hWarming.health_eq]
  unfold finalHealthError warmupHealthError
  rw [hWarming.streams_size hMode, if_neg (by simp),
    List.findSome?_eq_none_iff]
  constructor
  · intro hNone
    have hLength := length_expectedKeys hMode
    rcases List.exists_mem_of_length_pos
      (Nat.pos_of_ne_zero (hLength.trans_ne hMode)) with
      ⟨key, hKey⟩
    have hEntry := hWarming.streams_eq key
    rw [if_pos hKey] at hEntry
    have hHealthy :=
      hNone _ (Std.TreeMap.mem_toList_iff_getElem?_eq_some.mpr
        hEntry)
    simp only [hFails key hKey, decide_eq_true_eq,
      ite_eq_right_iff, reduceCtorEq, imp_false, not_lt]
      at hHealthy
    exact hHealthy
  · intro hTwo entry hEntry
    have hStream :=
      Std.TreeMap.mem_toList_iff_getElem?_eq_some.mp hEntry
    rw [hWarming.streams_eq] at hStream
    split at hStream
    next hKey =>
      rw [← Option.some.inj hStream, hFails _ hKey,
        if_neg (by
          rw [decide_eq_true_eq]
          omega)]
    · cases hStream

/- What a perfect delivery does before the last one. -/
theorem WarmingUp.step
    {first : String → Nat}
    (hWarming : WarmingUp opts first n metrics)
    {delivery : Payload × Nat}
    (hFresh :
      FreshDelivery (expectedKeys opts.streamMode)
        (fun key => first key + n) delivery.1)
    (hWords :
      ∀ key ∈ expectedKeys opts.streamMode,
        first key + n < 2 ^ 64)
    (hBefore : n + 1 < opts.warmupFrames.toNat) :
    WarmingUp opts first (n + 1)
        (recordDelivery opts metrics delivery).1 ∧
      (recordDelivery opts metrics
        delivery).2.healthError = none := by
  rcases hWarming.observe hFresh hWords delivery.2 with
    ⟨hHealthy, hObserved⟩
  unfold recordDelivery
  rw [hWarming.completed_eq, hWarming.warmed_eq,
    if_neg (by decide)]
  unfold recordWarmupDelivery
  generalize
    observeHealthWindow opts
      (countWarmupDelivery metrics delivery.2) delivery.1 =
        observed at hHealthy hObserved
  have hCount :
      ¬ opts.warmupFrames.toNat ≤ observed.1.warmupDeliveries := by
    rw [hObserved.deliveries_eq]
    exact Nat.not_le.mpr hBefore
  simp only [hHealthy, if_neg hCount, and_true]
  exact ⟨hObserved.completed_eq, hObserved.warmed_eq,
    hObserved.deliveries_eq, hObserved.health_eq,
    hObserved.streams_eq⟩

/- With the last one the camera is warm, or refused. -/
theorem WarmingUp.last
    {first : String → Nat}
    (hWarming : WarmingUp opts first n metrics)
    (hMode : expectedStreamCount opts.streamMode ≠ 0)
    {delivery : Payload × Nat}
    (hFresh :
      FreshDelivery (expectedKeys opts.streamMode)
        (fun key => first key + n) delivery.1)
    (hWords :
      ∀ key ∈ expectedKeys opts.streamMode,
        first key + n < 2 ^ 64)
    (hLast : opts.warmupFrames.toNat ≤ n + 1) :
    ((recordDelivery opts metrics delivery).1.warmed = true ∧
        (recordDelivery opts metrics
          delivery).2.healthError = none) ↔
      2 ≤ windowDeliveries opts (n + 1) := by
  rcases hWarming.observe hFresh hWords delivery.2 with
    ⟨hHealthy, hObserved⟩
  unfold recordDelivery
  rw [hWarming.completed_eq, hWarming.warmed_eq,
    if_neg (by decide)]
  unfold recordWarmupDelivery
  generalize
    observeHealthWindow opts
      (countWarmupDelivery metrics delivery.2) delivery.1 =
        observed at hHealthy hObserved
  have hCount :
      opts.warmupFrames.toNat ≤ observed.1.warmupDeliveries := by
    rw [hObserved.deliveries_eq]
    exact hLast
  have hReadied :
      WarmingUp opts first (n + 1)
        { observed.1 with
          schedulerReady :=
            observed.1.schedulerReady ||
              reachesSchedulerThreshold opts observed.1 } :=
    ⟨hObserved.completed_eq, hObserved.warmed_eq,
      hObserved.deliveries_eq, hObserved.health_eq,
      hObserved.streams_eq⟩
  rw [← hReadied.finalHealthError_iff hMode]
  simp only [hHealthy, if_pos hCount, Option.none_or]
  cases hFinal :
      finalHealthError opts
        { observed.1 with
          schedulerReady :=
            observed.1.schedulerReady ||
              reachesSchedulerThreshold opts observed.1 } with
  | none => simp
  | some error => simp [hObserved.warmed_eq]

/- A run of perfect deliveries that is not yet at its end. -/
theorem warmupRun_warmingUp
    {first : String → Nat}
    (hStart : WarmingUp opts first 0 metrics)
    (hFresh :
      FreshDeliveries (expectedKeys opts.streamMode) first
        deliveries)
    (hBefore :
      deliveries = [] ∨
        deliveries.length < opts.warmupFrames.toNat) :
    WarmingUp opts first deliveries.length
        (warmupRun opts metrics deliveries).1 ∧
      ∀ outcome ∈ (warmupRun opts metrics deliveries).2,
        outcome.healthError = none := by
  induction deliveries using List.reverseRecOn with
  | nil => exact ⟨hStart, by simp [warmupRun]⟩
  | append_singleton deliveries delivery ih =>
      have hLength :
          deliveries.length + 1 < opts.warmupFrames.toNat := by
        simpa using hBefore
      have hEarlier :
          FreshDeliveries (expectedKeys opts.streamMode) first
            deliveries := by
        intro i other hOther
        apply hFresh i other
        rw [List.getElem?_append_left
          (List.getElem?_eq_some_iff.mp hOther).1]
        exact hOther
      rcases hFresh deliveries.length delivery (by simp) with
        ⟨hOne, hWords⟩
      rcases ih hEarlier (Or.inr (by omega)) with
        ⟨hWarming, hHealthy⟩
      rcases hWarming.step hOne hWords hLength with
        ⟨hNext, hError⟩
      rw [List.length_append, List.length_singleton]
      unfold warmupRun at hNext hHealthy hError ⊢
      rw [List.foldl_append, List.foldl_cons, List.foldl_nil]
      refine ⟨hNext, ?_⟩
      intro outcome hOutcome
      rcases List.mem_append.mp hOutcome with hOld | hNew
      · exact hHealthy outcome hOld
      · rw [List.mem_singleton.mp hNew]
        exact hError

/- The window at the end of the warm-up. -/
theorem two_le_windowDeliveries_iff
    (opts : Options) :
    2 ≤ windowDeliveries opts
        (max 1 opts.warmupFrames.toNat) ↔
      2 ≤ opts.warmupFrames ∧
        opts.warmupHealthWindowFrames ≠ 1 := by
  unfold windowDeliveries healthStart healthWindow
  split <;> omega

theorem FreshDeliveries.take
    {keys : List String}
    {first : String → Nat}
    (hFresh : FreshDeliveries keys first deliveries)
    (n : Nat) :
    FreshDeliveries keys first (deliveries.take n) := by
  intro i other hOther
  apply hFresh i other
  rw [List.getElem?_take] at hOther
  split at hOther
  · exact hOther
  · cases hOther

/- Before the last delivery the camera is warming up. -/
theorem warmingUp_take
    (plan : StoragePlan)
    {first : String → Nat}
    (hFresh :
      FreshDeliveries (expectedKeys opts.streamMode) first
        deliveries)
    (hLength :
      deliveries.length = max 1 opts.warmupFrames.toNat)
    (hN : n < deliveries.length) :
    WarmingUp opts first n
        (warmupRun opts
          (prepareCameraMetrics {} opts.streamMode plan)
          (deliveries.take n)).1 ∧
      ∀ outcome ∈ (warmupRun opts
          (prepareCameraMetrics {} opts.streamMode plan)
          (deliveries.take n)).2,
        outcome.healthError = none := by
  have hTake : (deliveries.take n).length = n :=
    List.length_take_of_le hN.le
  have hBefore :
      deliveries.take n = [] ∨
        (deliveries.take n).length <
          opts.warmupFrames.toNat := by
    rw [hTake]
    by_cases hNone : n = 0
    · left
      rw [hNone, List.take_zero]
    · right
      omega
  have hRun :=
    warmupRun_warmingUp (warmingUp_prepared opts plan first)
      (hFresh.take n) hBefore
  rw [hTake] at hRun
  exact hRun

theorem warmupRun_append_singleton
    (opts : Options)
    (metrics : CameraMetrics)
    (before : List (Payload × Nat))
    (delivery : Payload × Nat) :
    warmupRun opts metrics (before ++ [delivery]) =
      ((recordDelivery opts (warmupRun opts metrics before).1
          delivery).1,
        (warmupRun opts metrics before).2 ++
          [(recordDelivery opts
            (warmupRun opts metrics before).1 delivery).2]) := by
  unfold warmupRun
  rw [List.foldl_append, List.foldl_cons, List.foldl_nil]

/-
  A camera that delivers perfectly is warm with the last
  warm-up delivery, and without a health error on the way,
  exactly when the warm-up has two frames and the window is
  not a single one.
-/
theorem freshDeliveries_warm_iff
    {opts : Options}
    (hMode : expectedStreamCount opts.streamMode ≠ 0)
    (plan : StoragePlan)
    {first : String → Nat}
    {deliveries : List (Payload × Nat)}
    (hFresh :
      FreshDeliveries (expectedKeys opts.streamMode) first
        deliveries)
    (hLength :
      deliveries.length = max 1 opts.warmupFrames.toNat) :
    WarmsAtLast opts
        (prepareCameraMetrics {} opts.streamMode plan)
        deliveries ↔
      2 ≤ opts.warmupFrames ∧
        opts.warmupHealthWindowFrames ≠ 1 := by
  rw [← two_le_windowDeliveries_iff, ← hLength]
  rcases List.eq_nil_or_concat deliveries with
    hNone | ⟨before, delivery, hAll⟩
  · rw [hNone] at hLength
    simp at hLength
    omega
  have hSplit : deliveries = before ++ [delivery] := by
    rw [hAll, List.concat_eq_append]
  have hCount : deliveries.length = before.length + 1 := by
    rw [hSplit]
    simp
  have hTake : deliveries.take before.length = before := by
    rw [hSplit, List.take_left]
  rcases warmingUp_take plan hFresh hLength
      (show before.length < deliveries.length by omega) with
    ⟨hWarming, hHealthy⟩
  rw [hTake] at hWarming hHealthy
  rcases hFresh before.length delivery (by rw [hSplit]; simp)
    with ⟨hOne, hWords⟩
  have hLast :=
    hWarming.last hMode hOne hWords (by omega)
  have hRun :=
    warmupRun_append_singleton opts
      (prepareCameraMetrics {} opts.streamMode plan) before
      delivery
  rw [← hSplit] at hRun
  rw [hCount, ← hLast]
  constructor
  · intro hWarms
    have hWarm := hWarms.warm
    have hAllHealthy := hWarms.healthy
    rw [hRun] at hWarm hAllHealthy
    exact ⟨hWarm, hAllHealthy _ (by simp)⟩
  · intro hBoth
    refine ⟨fun n hN =>
      (warmingUp_take plan hFresh hLength hN).1.warmed_eq,
      ?_, ?_⟩
    · rw [hRun]
      exact hBoth.1
    · rw [hRun]
      intro outcome hOutcome
      rcases List.mem_append.mp hOutcome with hOld | hNew
      · exact hHealthy outcome hOld
      · rw [List.mem_singleton.mp hNew]
        exact hBoth.2

/- Framesets with consecutive depth frames. -/
def depthDeliveries
    (count first : Nat) : List (Payload × Nat) :=
  (List.range count).map (fun i =>
    (.frameset [some (depthFrame (first + i))], i))

theorem depthDeliveries_fresh
    {count first : Nat}
    (hWords : first + count ≤ 2 ^ 64) :
    FreshDeliveries (expectedKeys "depth") (fun _ => first)
      (depthDeliveries count first) := by
  have hKeys : expectedKeys "depth" = ["Depth#0"] := by
    decide +kernel
  intro i delivery hDelivery
  unfold depthDeliveries at hDelivery
  rw [List.getElem?_map, Option.map_eq_some_iff] at hDelivery
  rcases hDelivery with ⟨j, hJ, hIs⟩
  rw [List.getElem?_eq_some_iff] at hJ
  rcases hJ with ⟨hLength, hSame⟩
  rw [List.length_range] at hLength
  rw [List.getElem_range] at hSame
  rw [← hIs, ← hSame, hKeys]
  constructor
  · exact ⟨[depthFrame (first + i)], rfl, by simp,
      by simp [depthFrame]⟩
  · intro _ _
    simp only
    omega

/- Three frames of warm-up, watched from the second on. -/
theorem threeFrames_warm :
    parseArgs ["--stream-mode", "depth", "--warmup-frames", "3",
        "--warmup-health-window-frames", "2"] =
      .ok
        { streamMode := "depth"
          warmupFrames := 3
          warmupHealthWindowFrames := 2 } ∧
      WarmsAtLast
        { streamMode := "depth"
          warmupFrames := 3
          warmupHealthWindowFrames := 2 }
        (prepareCameraMetrics {} "depth" ⟨4, 4, 4⟩)
        (depthDeliveries 3 7) := by
  refine ⟨by decide +kernel, ?_⟩
  exact (freshDeliveries_warm_iff (by decide) _
    (depthDeliveries_fresh (by decide)) (by decide)).mpr
    (by decide)

/- One frame of warm-up is accepted and refuses the camera. -/
theorem oneFrame_refused :
    parseArgs ["--stream-mode", "depth",
        "--warmup-frames", "1"] =
      .ok { streamMode := "depth", warmupFrames := 1 } ∧
      FreshDeliveries (expectedKeys "depth") (fun _ => 7)
        (depthDeliveries 1 7) ∧
      ¬ WarmsAtLast
        { streamMode := "depth", warmupFrames := 1 }
        (prepareCameraMetrics {} "depth" ⟨4, 4, 4⟩)
        (depthDeliveries 1 7) := by
  refine ⟨by decide +kernel,
    depthDeliveries_fresh (by decide), ?_⟩
  intro hWarms
  have hWarm := hWarms.warm
  revert hWarm
  decide +kernel

end Probe

end RsCamera
