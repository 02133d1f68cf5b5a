import Mathlib.Algebra.Order.Floor.Div
import RsCamera.Steady.Metrics

/-
  The storage plan in exact arithmetic: a plan that is
  returned has the capacities that the formulas give on the
  integers, and none of the 64-bit operations on the way has
  wrapped.

  The products with the number of streams are not all
  checked.  Those that are not stay below the number of
  events, which is.

  Key definitions include:
    * `headroomCapacity`, `exactPlan`
    * `storageOperations`

  Key theorems include:
    * `makeStoragePlan_cases`
    * `makeStoragePlan_exact`
-/

------------------------------------------------------------
-- Exact Capacities
------------------------------------------------------------

namespace RsCamera

namespace Steady

/- The room for two seconds or five percent more. -/
def headroom (expected rate : Nat) : Nat :=
  max (2 * rate) (expected ⌈/⌉ 20)

def headroomCapacity (expected rate : Nat) : Nat :=
  expected + headroom expected rate + 1

/- The frames of a stream in the time, rounded up. -/
def exactPerStream (durationMs fps : Nat) : Nat :=
  (durationMs * fps) ⌈/⌉ 1000

/- The number of deliveries that carry a set of frames. -/
def deliveriesPerSet
    (streamCount : Nat)
    (callbackDelivery : Bool) : Nat :=
  if callbackDelivery then streamCount else 1

def exactPlan
    (frames durationMs fps streamCount : Nat)
    (callbackDelivery : Bool) : StoragePlan :=
  let expected := exactPerStream durationMs fps
  let samples := headroomCapacity expected fps
  let multiplier :=
    deliveriesPerSet streamCount callbackDelivery
  if durationMs = 0 then
    { deliveryCapacity := frames
      eventCapacity := frames * streamCount
      streamSampleCapacity := frames }
  else
    { deliveryCapacity :=
        headroomCapacity (multiplier * expected)
          (multiplier * fps)
      eventCapacity := streamCount * samples
      streamSampleCapacity := samples }

/-
  The results of the operations on 64-bit words inside one
  capacity, as integers.  The difference
  `max - headroom - 1` is in range when `headroom + 1` is.
-/
def headroomOperations (expected rate : Nat) : List Nat :=
  [rate * 2, expected + 19, headroom expected rate + 1,
    expected + headroom expected rate,
    expected + headroom expected rate + 1]

/- The results of all operations that make a plan. -/
def storageOperations
    (frames durationMs fps streamCount : Nat)
    (callbackDelivery : Bool) : List Nat :=
  let expected := exactPerStream durationMs fps
  let multiplier :=
    deliveriesPerSet streamCount callbackDelivery
  [frames * streamCount] ++
    if durationMs = 0 then
      []
    else
      [durationMs * fps, durationMs * fps + 999] ++
        headroomOperations expected fps ++
        [headroomCapacity expected fps * streamCount,
          expected * multiplier, fps * multiplier] ++
        headroomOperations (expected * multiplier)
          (fps * multiplier)

------------------------------------------------------------
-- Plans That Are Returned
------------------------------------------------------------

/- A supported mode enables as many streams as it counts. -/
theorem length_expectedKeys
    {streamMode : String}
    (hKnown : expectedStreamCount streamMode ≠ 0) :
    (expectedKeys streamMode).length =
      expectedStreamCount streamMode := by
  unfold expectedKeys
  rw [List.length_map]
  unfold expectedStreamCount at hKnown ⊢
  unfold expectedStreams
  split_ifs at hKnown ⊢ <;> simp_all

theorem checkedProduct_eq
    {left right : Nat}
    {description : String}
    {result : Nat}
    (hResult :
      checkedProduct left right description = .ok result) :
    result = left * right ∧ left * right < 2 ^ 64 := by
  have hProduct : left * right < 2 ^ 64 := by
    unfold checkedProduct at hResult
    split at hResult
    · cases hResult
    next hFits =>
      by_cases hZero : right = 0
      · simp [hZero]
      · have hLe : left ≤ (2 ^ 64 - 1) / right := by
          by_contra hLess
          exact hFits ⟨hZero, Nat.lt_of_not_le hLess⟩
        have hMul : left * right ≤ 2 ^ 64 - 1 :=
          (Nat.le_div_iff_mul_le
            (Nat.pos_of_ne_zero hZero)).mp hLe
        omega
  refine ⟨?_, hProduct⟩
  unfold checkedProduct at hResult
  split at hResult
  · cases hResult
  · cases hResult
    exact u64_of_lt hProduct

theorem headroom_eq
    (expected rate : Nat) :
    headroom expected rate =
      max (rate * 2) ((expected + 19) / 20) := by
  unfold headroom
  rw [Nat.ceilDiv_eq_add_pred_div, Nat.mul_comm]
  rfl

/- Where the headroom itself is in range, so is the rest. -/
theorem capacityWithHeadroom_eq
    {expected rate : Nat}
    {description : String}
    {result : Nat}
    (hExpected : expected + 19 < 2 ^ 64)
    (hRate : rate * 2 + 1 < 2 ^ 64)
    (hResult :
      capacityWithHeadroom expected rate description =
        .ok result) :
    result = headroomCapacity expected rate ∧
      ∀ value ∈ headroomOperations expected rate,
        value < 2 ^ 64 := by
  have hDouble : u64 (rate * 2) = rate * 2 :=
    u64_of_lt (by omega)
  have hShare : u64 (expected + 19) = expected + 19 :=
    u64_of_lt hExpected
  have hRoom := headroom_eq expected rate
  simp only [capacityWithHeadroom, hDouble, hShare, ← hRoom]
    at hResult
  have hSmall : headroom expected rate + 1 < 2 ^ 64 := by
    omega
  split at hResult
  · cases hResult
  next hFits =>
    rw [not_or] at hFits
    have hGuard := hFits.1
    have hRest :
        u64Sub (2 ^ 64 - 1) (headroom expected rate) =
          2 ^ 64 - 1 - headroom expected rate :=
      u64Sub_of_le (by decide) (by omega)
    have hRestLess :
        u64Sub (2 ^ 64 - 1 - headroom expected rate) 1 =
          2 ^ 64 - 1 - headroom expected rate - 1 :=
      u64Sub_of_le (by omega) (by omega)
    rw [hRest, hRestLess] at hGuard
    have hSum :
        expected + headroom expected rate + 1 < 2 ^ 64 := by
      omega
    cases hResult
    refine ⟨u64_of_lt hSum, ?_⟩
    intro value hValue
    simp only [headroomOperations, List.mem_cons,
      List.not_mem_nil, or_false] at hValue
    omega

variable {streamCount : Nat}
variable {callbackDelivery : Bool}
variable {plan : StoragePlan}

/- What the two kinds of plans consist of. -/
theorem makeStoragePlan_cases
    {frames duration fps : Int}
    (hPlan :
      makeStoragePlan frames duration fps streamCount
        callbackDelivery = .ok plan) :
    streamCount ≠ 0 ∧ 0 < fps ∧
    frames.toNat * streamCount < 2 ^ 64 ∧
    ((duration = 0 ∧
      plan.deliveryCapacity = frames.toNat ∧
      plan.streamSampleCapacity = frames.toNat ∧
      plan.eventCapacity = frames.toNat * streamCount) ∨
    (0 < duration ∧
      capacityWithHeadroom (expectedPerStream duration fps)
          fps.toNat "Per-stream sample" =
        .ok plan.streamSampleCapacity ∧
      plan.eventCapacity =
        plan.streamSampleCapacity * streamCount ∧
      plan.streamSampleCapacity * streamCount < 2 ^ 64 ∧
      capacityWithHeadroom
          (u64 (expectedPerStream duration fps *
            if callbackDelivery then streamCount else 1))
          (u64 (fps.toNat *
            if callbackDelivery then streamCount else 1))
          "Delivery sample" =
        .ok plan.deliveryCapacity)) := by
  unfold makeStoragePlan at hPlan
  split at hPlan
  · cases hPlan
  next hValid =>
    simp only [not_or] at hValid
    rcases hValid with ⟨_, hDuration, hFps, hCount⟩
    rcases bind_eq_ok.mp hPlan with ⟨events, hEvents, hPlan⟩
    rcases checkedProduct_eq hEvents with ⟨hIs, hBound⟩
    refine ⟨hCount, by omega, hBound, ?_⟩
    by_cases hFixed : 0 < duration
    · right
      rw [if_pos hFixed] at hPlan
      rcases bind_eq_ok.mp hPlan with
        ⟨samples, hSamples, hPlan⟩
      rcases bind_eq_ok.mp hPlan with
        ⟨product, hProduct, hPlan⟩
      rcases bind_eq_ok.mp hPlan with
        ⟨deliveries, hDeliveries, hPlan⟩
      rcases checkedProduct_eq hProduct with
        ⟨hProductIs, hProductBound⟩
      cases hPlan
      exact ⟨hFixed, hSamples, hProductIs, hProductBound,
        hDeliveries⟩
    · left
      rw [if_neg hFixed] at hPlan
      cases hPlan
      exact ⟨by omega, rfl, rfl, hIs⟩

/- The frames of a stream are counted without wrapping. -/
theorem expectedPerStream_eq
    {duration fps : Int}
    (hDuration : duration < 2 ^ 31)
    (hFps : fps < 2 ^ 31) :
    expectedPerStream duration fps =
        exactPerStream duration.toNat fps.toNat ∧
      duration.toNat * fps.toNat < 2 ^ 62 ∧
      exactPerStream duration.toNat fps.toNat < 2 ^ 53 := by
  have hProduct :
      duration.toNat * fps.toNat < 2 ^ 31 * 2 ^ 31 :=
    Nat.mul_lt_mul'' (by omega) (by omega)
  have hInner :
      u64 (duration.toNat * fps.toNat) =
        duration.toNat * fps.toNat :=
    u64_of_lt (by omega)
  have hExact :
      exactPerStream duration.toNat fps.toNat =
        (duration.toNat * fps.toNat + 999) / 1000 := by
    unfold exactPerStream
    rw [Nat.ceilDiv_eq_add_pred_div]
    rfl
  refine ⟨?_, by omega, by omega⟩
  unfold expectedPerStream
  rw [hInner, u64_of_lt (by omega), hExact]

/- Two seconds of frames are part of every capacity. -/
theorem le_headroomCapacity
    (expected rate : Nat) :
    expected + rate * 2 + 1 ≤ headroomCapacity expected rate := by
  have hRoom := headroom_eq expected rate
  unfold headroomCapacity
  omega

/-
  The products with the number of deliveries in a set stay
  below the number of events.
-/
theorem multiplied_bounds
    {expected fps streamCount multiplier : Nat}
    (hExpected : expected < 2 ^ 53)
    (hFps : 0 < fps)
    (hEvents :
      headroomCapacity expected fps * streamCount < 2 ^ 64)
    (hMultiplier : multiplier ≤ streamCount) :
    expected * multiplier + 19 < 2 ^ 64 ∧
      fps * multiplier * 2 + 1 < 2 ^ 64 := by
  have hBelow :
      (expected + fps * 2 + 1) * multiplier < 2 ^ 64 :=
    Nat.lt_of_le_of_lt
      (Nat.mul_le_mul (le_headroomCapacity expected fps)
        hMultiplier)
      hEvents
  have hSplit :
      (expected + fps * 2 + 1) * multiplier =
        expected * multiplier + fps * multiplier * 2 +
          multiplier := by
    rw [Nat.add_mul, Nat.add_mul, Nat.one_mul,
      Nat.mul_right_comm]
  have hRate : multiplier ≤ fps * multiplier :=
    Nat.le_mul_of_pos_left multiplier hFps
  rw [hSplit] at hBelow
  -- Few deliveries leave the product itself small.
  by_cases hFew : multiplier < 7
  · have hSmall :
        expected * multiplier ≤ expected * 7 :=
      Nat.mul_le_mul_left expected hFew.le
    omega
  · omega

/- A plan by deliveries takes the numbers as they are. -/
theorem countPlan_exact
    {frames fps : Int}
    (hPlan :
      makeStoragePlan frames 0 fps streamCount
        callbackDelivery = .ok plan) :
    plan =
        exactPlan frames.toNat 0 fps.toNat streamCount
          callbackDelivery ∧
      ∀ value ∈ storageOperations frames.toNat 0 fps.toNat
          streamCount callbackDelivery,
        value < 2 ^ 64 := by
  rcases makeStoragePlan_cases hPlan with
    ⟨-, -, hFrames, hCount | hFixed⟩
  · rcases hCount with ⟨-, hDeliveries, hSamples, hEvents⟩
    unfold exactPlan storageOperations
    simp only [if_true, List.append_nil, List.mem_singleton,
      forall_eq]
    refine ⟨?_, hFrames⟩
    have hParts :
        plan =
          ⟨plan.deliveryCapacity, plan.eventCapacity,
            plan.streamSampleCapacity⟩ := rfl
    rw [hParts, hDeliveries, hSamples, hEvents]
  · exact absurd hFixed.1 (by decide)

theorem fixedPlan_exact
    {frames duration fps : Int}
    (hFixed : 0 < duration)
    (hDuration : duration < 2 ^ 31)
    (hFps : fps < 2 ^ 31)
    (hPlan :
      makeStoragePlan frames duration fps streamCount
        callbackDelivery = .ok plan) :
    plan =
        exactPlan frames.toNat duration.toNat fps.toNat
          streamCount callbackDelivery ∧
      ∀ value ∈ storageOperations frames.toNat duration.toNat
          fps.toNat streamCount callbackDelivery,
        value < 2 ^ 64 := by
  rcases makeStoragePlan_cases hPlan with
    ⟨hStreams, hPositive, hFrames, hCount | hSome⟩
  · omega
  rcases hSome with
    ⟨_, hSamples, hEvents, hEventsBound, hDeliveries⟩
  rcases expectedPerStream_eq hDuration hFps with
    ⟨hExpected, hProduct, hSmall⟩
  have hMultiplier :
      deliveriesPerSet streamCount callbackDelivery ≤
        streamCount := by
    unfold deliveriesPerSet
    split <;> omega
  rw [hExpected] at hSamples hDeliveries
  change capacityWithHeadroom
      (u64 (exactPerStream duration.toNat fps.toNat *
        deliveriesPerSet streamCount callbackDelivery))
      (u64 (fps.toNat *
        deliveriesPerSet streamCount callbackDelivery))
      "Delivery sample" = _ at hDeliveries
  unfold exactPlan storageOperations
  generalize
    deliveriesPerSet streamCount callbackDelivery = multiplier
      at *
  generalize
    exactPerStream duration.toNat fps.toNat = expected at *
  rcases capacityWithHeadroom_eq (by omega) (by omega)
    hSamples with ⟨hSamplesIs, hSamplesIn⟩
  rw [hSamplesIs] at hEvents hEventsBound
  rcases multiplied_bounds hSmall (by omega) hEventsBound
    hMultiplier with ⟨hExpectedIn, hFpsIn⟩
  rw [u64_of_lt (by omega), u64_of_lt (by omega)]
    at hDeliveries
  rcases capacityWithHeadroom_eq hExpectedIn hFpsIn
    hDeliveries with ⟨hDeliveriesIs, hDeliveriesIn⟩
  have hNotZero : duration.toNat ≠ 0 := by
    omega
  simp only [hNotZero, if_false]
  constructor
  · rw [Nat.mul_comm multiplier, Nat.mul_comm multiplier,
      Nat.mul_comm streamCount, ← hDeliveriesIs, ← hEvents,
      ← hSamplesIs]
  · intro value hValue
    simp only [List.mem_append, List.mem_cons,
      List.not_mem_nil, or_false] at hValue
    rcases hValue with hIs | ((hIs | hIn) | hIs) | hIn
    · rw [hIs]
      exact hFrames
    · omega
    · exact hSamplesIn value hIn
    · omega
    · exact hDeliveriesIn value hIn

/-
  Whatever the 32-bit parameters and the number of streams,
  a plan that is returned has the exact capacities, and no
  operation on the way to it has wrapped.
-/
theorem makeStoragePlan_exact
    {frames duration fps : Int}
    {streamCount : Nat}
    {callbackDelivery : Bool}
    {plan : StoragePlan}
    (hDuration : duration < 2 ^ 31)
    (hFps : fps < 2 ^ 31)
    (hPlan :
      makeStoragePlan frames duration fps streamCount
        callbackDelivery = .ok plan) :
    plan =
        exactPlan frames.toNat duration.toNat fps.toNat
          streamCount callbackDelivery ∧
      ∀ value ∈ storageOperations frames.toNat duration.toNat
          fps.toNat streamCount callbackDelivery,
        value < 2 ^ 64 := by
  rcases makeStoragePlan_cases hPlan with
    ⟨-, -, -, hCount | hFixed⟩
  · rw [hCount.1] at hPlan ⊢
    exact countPlan_exact hPlan
  · exact fixedPlan_exact hFixed.1 hDuration hFps hPlan

theorem tenSeconds_plan_exact :
    makeStoragePlan 300 10000 30 4 true =
        .ok (exactPlan 300 10000 30 4 true) ∧
      exactPlan 300 10000 30 4 true = ⟨1441, 1444, 361⟩ ∧
      ∀ value ∈ storageOperations 300 10000 30 4 true,
        value < 2 ^ 64 := by
  have hPlan :
      makeStoragePlan 300 10000 30 4 true =
        .ok ⟨1441, 1444, 361⟩ := by
    decide
  rcases makeStoragePlan_exact (by decide) (by decide)
    hPlan with ⟨hExact, hIn⟩
  exact ⟨hPlan.trans (congrArg _ hExact), hExact.symm, hIn⟩

end Steady

end RsCamera
