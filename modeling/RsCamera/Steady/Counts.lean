import Mathlib.Algebra.Order.BigOperators.Group.List
import Mathlib.Algebra.Order.Ring.Nat
import RsCamera.Lib.Gaps
import RsCamera.Steady.Drops

/-
  What the offline freshness analysis counts, for events in
  any order: streams interleaved, frames repeated or out of
  order, deliveries of any length.

  The counters of a stream depend on its numbers alone.  The
  deliveries are the maximal runs of events with one
  delivery id.

  Key definitions include:
    * `streamCounts`
    * `DeliveryKind`, `deliveryRuns`, `countDeliveries`

  Key theorems include:
    * `foldl_observe_counts`
    * `analyzeEvents_runsCounted`
    * `analyzeFreshness_counts`
-/

------------------------------------------------------------
-- What Is Counted
------------------------------------------------------------

namespace RsCamera

namespace Steady

/- The counters of a stream with these frame numbers. -/
def streamCounts
    (numbers : List Nat) : FrameFreshnessMetrics where
  observedFrames := numbers.length
  uniqueFrames := numbers.toFinset.card
  duplicateFrames := numbers.length - numbers.toFinset.card
  sequenceGaps := (unseenNumbers numbers).card
  nonadvancingFrames := (positionsBehind (· ≤ ·) numbers).card
  outOfOrderFrames := (positionsBehind (· < ·) numbers).card

/- No earlier frame of the stream has the number or more. -/
def newestOf
    (earlier : List FrameEvent)
    (event : FrameEvent) : Bool :=
  earlier.all (fun other =>
    other.key ≠ event.key ||
      other.frameNumber < event.frameNumber)

/- The delivery of each event, and whether it was newest. -/
def markAdvances
    (events : List FrameEvent) : List (Nat × Bool) :=
  events.zipIdx.map (fun entry =>
    (entry.1.delivery, newestOf (events.take entry.2) entry.1))

/- The maximal runs of events of one delivery. -/
def deliveryRuns
    (events : List FrameEvent) : List (List (Nat × Bool)) :=
  (markAdvances events).splitBy
    (fun first second => first.1 = second.1)

inductive DeliveryKind
| fullyFresh
| partiallyStale
| stale
deriving Repr, DecidableEq

/- Whether all, some or none of a run were newest. -/
def deliveryKind (run : List (Nat × Bool)) : DeliveryKind :=
  if run.all (fun mark => mark.2) then
    .fullyFresh
  else if run.any (fun mark => mark.2) then
    .partiallyStale
  else
    .stale

def countKinds
    (runs : List (List (Nat × Bool))) :
    DeliveryFreshnessMetrics where
  fullyFreshFramesets :=
    (runs.map deliveryKind).count .fullyFresh
  partiallyStaleFramesets :=
    (runs.map deliveryKind).count .partiallyStale
  staleFramesets := (runs.map deliveryKind).count .stale

def countDeliveries
    (events : List FrameEvent) : DeliveryFreshnessMetrics :=
  countKinds (deliveryRuns events)

------------------------------------------------------------
-- Counters Of A Stream
------------------------------------------------------------

/- What a stream knows of the numbers it has seen. -/
structure Observed
    (stream : WorkingStream)
    (numbers : List Nat) : Prop where
  hasHighest_iff : stream.hasHighest = true ↔ numbers ≠ []
  highest_mem : numbers ≠ [] → stream.highest ∈ numbers
  le_highest : ∀ number ∈ numbers, number ≤ stream.highest
  nonadvancing_eq :
    stream.nonadvancingFrames =
      (positionsBehind (· ≤ ·) numbers).card
  outOfOrder_eq :
    stream.outOfOrderFrames =
      (positionsBehind (· < ·) numbers).card
  numbers_eq : stream.frameNumbers = numbers

section

variable {stream : WorkingStream}
variable {numbers : List Nat}
variable {number : Nat}

theorem Observed.advances_iff
    (hObserved : Observed stream numbers)
    (number : Nat) :
    stream.advances number = true ↔
      ∀ earlier ∈ numbers, earlier < number := by
  unfold WorkingStream.advances
  rw [Bool.or_eq_true, Bool.not_eq_true', decide_eq_true_eq]
  constructor
  · intro hAdvances earlier hEarlier
    rcases hAdvances with hNone | hAbove
    · have hHas : stream.hasHighest = true :=
        hObserved.hasHighest_iff.mpr
          (List.ne_nil_of_mem hEarlier)
      rw [hNone] at hHas
      cases hHas
    · exact Nat.lt_of_le_of_lt
        (hObserved.le_highest earlier hEarlier) hAbove
  · intro hAbove
    by_cases hEmpty : numbers = []
    · left
      rw [Bool.eq_false_iff]
      intro hHas
      exact hObserved.hasHighest_iff.mp hHas hEmpty
    · exact Or.inr (hAbove _ (hObserved.highest_mem hEmpty))

/- A number that does not advance is at most the highest. -/
theorem Observed.behind_iff
    (hObserved : Observed stream numbers)
    (hStays : stream.advances number = false) :
    numbers ≠ [] ∧ number ≤ stream.highest := by
  unfold WorkingStream.advances at hStays
  rw [Bool.or_eq_false_iff, Bool.not_eq_false',
    decide_eq_false_iff_not, Nat.not_lt] at hStays
  exact ⟨hObserved.hasHighest_iff.mp hStays.1, hStays.2⟩

theorem Observed.observe_advance
    (hObserved : Observed stream numbers)
    (hAdvances : stream.advances number = true) :
    Observed (stream.observe number) (numbers ++ [number]) := by
  have hAbove := (hObserved.advances_iff number).mp hAdvances
  have hNotLe :
      ¬ ∃ earlier ∈ numbers, number ≤ earlier := by
    intro hSome
    rcases hSome with ⟨earlier, hEarlier, hLe⟩
    exact absurd (hAbove earlier hEarlier) (Nat.not_lt.mpr hLe)
  have hNotLt :
      ¬ ∃ earlier ∈ numbers, number < earlier := by
    intro hSome
    rcases hSome with ⟨earlier, hEarlier, hLt⟩
    exact hNotLe ⟨earlier, hEarlier, hLt.le⟩
  unfold WorkingStream.observe
  rw [if_pos hAdvances]
  constructor
  · simp
  · intro _
    simp
  · intro other hOther
    rcases List.mem_append.mp hOther with hEarlier | hNew
    · exact (hAbove other hEarlier).le
    · exact (List.mem_singleton.mp hNew).le
  · rw [positionsBehind_card_append_singleton,
      if_neg hNotLe]
    exact hObserved.nonadvancing_eq
  · rw [positionsBehind_card_append_singleton,
      if_neg hNotLt]
    exact hObserved.outOfOrder_eq
  · exact congrArg (· ++ [number]) hObserved.numbers_eq

theorem Observed.observe_stay
    (hObserved : Observed stream numbers)
    (hStays : stream.advances number = false) :
    Observed (stream.observe number) (numbers ++ [number]) := by
  rcases hObserved.behind_iff hStays with ⟨hSome, hLe⟩
  have hMember := hObserved.highest_mem hSome
  have hReached : ∃ earlier ∈ numbers, number ≤ earlier :=
    ⟨stream.highest, hMember, hLe⟩
  have hBelow :
      (∃ earlier ∈ numbers, number < earlier) ↔
        number < stream.highest := by
    constructor
    · intro hEarlier
      rcases hEarlier with ⟨earlier, hEarlier, hLt⟩
      exact Nat.lt_of_lt_of_le hLt
        (hObserved.le_highest earlier hEarlier)
    · intro hLt
      exact ⟨stream.highest, hMember, hLt⟩
  unfold WorkingStream.observe
  rw [if_neg (by simp [hStays])]
  constructor
  · simpa using hObserved.hasHighest_iff.mpr hSome
  · intro _
    exact List.mem_append_left _ hMember
  · intro other hOther
    rcases List.mem_append.mp hOther with hEarlier | hNew
    · exact hObserved.le_highest other hEarlier
    · rw [List.mem_singleton.mp hNew]
      exact hLe
  · rw [positionsBehind_card_append_singleton,
      if_pos hReached]
    exact congrArg (· + 1) hObserved.nonadvancing_eq
  · rw [positionsBehind_card_append_singleton]
    by_cases hLt : number < stream.highest
    · simp only [if_pos hLt, if_pos (hBelow.mpr hLt)]
      exact congrArg (· + 1) hObserved.outOfOrder_eq
    · simp only [if_neg hLt,
        if_neg (fun h => hLt (hBelow.mp h))]
      exact hObserved.outOfOrder_eq
  · exact congrArg (· ++ [number]) hObserved.numbers_eq

theorem foldl_observe_observed
    (numbers : List Nat) :
    Observed (numbers.foldl WorkingStream.observe {})
      numbers := by
  induction numbers using List.reverseRecOn with
  | nil =>
      constructor
      · simp
      · simp
      · simp
      · rfl
      · rfl
      · rfl
  | append_singleton numbers number ih =>
      rw [List.foldl_append, List.foldl_cons, List.foldl_nil]
      cases hAdvances :
          (numbers.foldl WorkingStream.observe {}).advances
            number with
      | true => exact ih.observe_advance hAdvances
      | false => exact ih.observe_stay hAdvances

/-
  The extremes and the distinct values of sorted numbers are
  those of the numbers.
-/
theorem sorted_extremes
    {first last : Nat}
    (hFirst :
      (numbers.insertionSort (· ≤ ·)).head? = some first)
    (hLast :
      (numbers.insertionSort (· ≤ ·)).getLast? = some last) :
    first ∈ numbers ∧ last ∈ numbers ∧
      ∀ number ∈ numbers, first ≤ number ∧ number ≤ last := by
  have hPerm := List.perm_insertionSort (· ≤ ·) numbers
  have hSorted := List.pairwise_insertionSort (· ≤ ·) numbers
  generalize numbers.insertionSort (· ≤ ·) = sorted at *
  refine ⟨hPerm.subset (List.mem_of_head? hFirst),
    hPerm.subset (List.mem_of_getLast? hLast), ?_⟩
  intro number hNumber
  have hMember := hPerm.symm.subset hNumber
  constructor
  · rcases List.head?_eq_some_iff.mp hFirst with ⟨rest, hIs⟩
    rw [hIs] at hSorted hMember
    rcases List.mem_cons.mp hMember with hHead | hRest
    · exact hHead.ge
    · exact (List.pairwise_cons.mp hSorted).1 number hRest
  · rcases List.getLast?_eq_some_iff.mp hLast with
      ⟨before, hIs⟩
    rw [hIs] at hSorted hMember
    rcases List.mem_append.mp hMember with hEarly | hEnd
    · exact (List.pairwise_append.mp hSorted).2.2 number hEarly
        last (by simp)
    · exact (List.mem_singleton.mp hEnd).le

theorem length_stdUnique_insertionSort
    (numbers : List Nat) :
    (stdUnique (numbers.insertionSort (· ≤ ·))).length =
      numbers.toFinset.card := by
  have hPerm := List.perm_insertionSort (· ≤ ·) numbers
  have hSorted := List.pairwise_insertionSort (· ≤ ·) numbers
  unfold stdUnique
  rw [hSorted.destutter_eq_dedup, ← List.card_toFinset,
    List.toFinset_eq_of_perm _ _ hPerm]

/- The wrapping formula counts the unseen numbers. -/
theorem freshness_unseen
    {working : WorkingStream}
    (hWords :
      ∀ number ∈ working.frameNumbers, number < 2 ^ 64) :
    working.freshness.sequenceGaps =
      (unseenNumbers working.frameNumbers).card := by
  have hSorted :=
    List.pairwise_insertionSort (· ≤ ·) working.frameNumbers
  have hUnique :
      (stdUnique
          (working.frameNumbers.insertionSort
            (· ≤ ·))).getLast? =
        (working.frameNumbers.insertionSort
          (· ≤ ·)).getLast? := by
    unfold stdUnique
    rw [hSorted.destutter_eq_dedup, dedup_getLast?]
  simp only [WorkingStream.freshness, hUnique,
    length_stdUnique_insertionSort]
  cases hFirst :
      (working.frameNumbers.insertionSort (· ≤ ·)).head? with
  | none =>
      have hEmpty : working.frameNumbers = [] := by
        have hLength :=
          List.length_insertionSort (· ≤ ·) working.frameNumbers
        rw [List.head?_eq_none_iff.mp hFirst] at hLength
        exact List.length_eq_zero_iff.mp hLength.symm
      simp [hEmpty, unseenNumbers]
  | some first =>
      cases hLast :
          (working.frameNumbers.insertionSort
            (· ≤ ·)).getLast? with
      | none =>
          rw [List.getLast?_eq_none_iff.mp hLast] at hFirst
          cases hFirst
      | some last =>
          rcases sorted_extremes hFirst hLast with
            ⟨hFirstSeen, hLastSeen, hRange⟩
          have hFill :=
            unseenNumbers_card hFirstSeen hLastSeen hRange
          rw [← List.card_toFinset] at hFill
          have hSome :
              0 < working.frameNumbers.toFinset.card :=
            Finset.card_pos.mpr
              ⟨first, List.mem_toFinset.mpr hFirstSeen⟩
          simp only
          rw [missingBetween_of_words (hWords last hLastSeen)
            (hRange last hLastSeen).1 hSome (by omega)]
          omega

/- The counters of a stream are those of its numbers. -/
theorem foldl_observe_counts
    (hWords : ∀ number ∈ numbers, number < 2 ^ 64) :
    (numbers.foldl WorkingStream.observe {}).freshness =
      streamCounts numbers := by
  have hObserved := foldl_observe_observed numbers
  have hGaps :
      (numbers.foldl WorkingStream.observe
          {}).freshness.sequenceGaps =
        (unseenNumbers numbers).card := by
    rw [freshness_unseen, hObserved.numbers_eq]
    rw [hObserved.numbers_eq]
    exact hWords
  have hLength :=
    List.length_insertionSort (· ≤ ·) numbers
  have hUnique := length_stdUnique_insertionSort numbers
  unfold streamCounts
  rw [← hGaps, ← hObserved.nonadvancing_eq,
    ← hObserved.outOfOrder_eq]
  simp only [WorkingStream.freshness, hObserved.numbers_eq,
    hLength, hUnique]

end

------------------------------------------------------------
-- Runs Of Events
------------------------------------------------------------

theorem markAdvances_append_singleton
    (events : List FrameEvent)
    (event : FrameEvent) :
    markAdvances (events ++ [event]) =
      markAdvances events ++
        [(event.delivery, newestOf events event)] := by
  unfold markAdvances
  rw [List.zipIdx_append, List.map_append]
  congr 1
  · apply List.map_congr_left
    intro entry hEntry
    have hIndex : entry.2 ≤ events.length := by
      have hBound := (List.mem_zipIdx hEntry).2.1
      omega
    rw [List.take_append_of_le_length hIndex]
  · simp

/- A frame advances its stream when it is the newest. -/
theorem analysis_advances_eq_newestOf
    (events : List FrameEvent)
    (event : FrameEvent) :
    ((analyzeEvents events).streams.getD event.key
        {}).advances event.frameNumber =
      newestOf events event := by
  have hStream :
      (analyzeEvents events).streams.getD event.key {} =
        (numbersOf event.key events).foldl
          WorkingStream.observe {} := by
    rw [Std.TreeMap.getD_eq_getD_getElem?,
      analysis_streams_getElem?]
    split
    · next hNone => rw [hNone]; rfl
    · rfl
  rw [hStream, Bool.eq_iff_iff,
    (foldl_observe_observed _).advances_iff]
  unfold newestOf numbersOf
  rw [List.all_eq_true]
  constructor
  · intro hAbove other hOther
    by_cases hKey : other.key = event.key
    · have hLt := hAbove other.frameNumber
        (List.mem_map_of_mem
          (List.mem_filter.mpr ⟨hOther, by simp [hKey]⟩))
      simp [hLt]
    · simp [hKey]
  · intro hAll number hNumber
    rcases List.mem_map.mp hNumber with ⟨other, hOther, hIs⟩
    rw [List.mem_filter, decide_eq_true_eq] at hOther
    have hEither := hAll other hOther.1
    simp only [hOther.2, ne_eq, not_true_eq_false,
      decide_false, Bool.false_or, decide_eq_true_eq] at hEither
    rw [← hIs]
    exact hEither

/-
  The walk has counted all runs but the last, and knows how
  the frames of the last one fared.
-/
structure RunsCounted
    (state : Analysis)
    (runs : List (List (Nat × Bool)))
    (run : List (Nat × Bool)) : Prop where
  have_eq : state.haveDelivery = true
  current_eq :
    ∀ mark ∈ run.getLast?, mark.1 = state.currentDelivery
  hasFrame_eq : state.deliveryHasFrame = true
  hasAdvance_eq :
    state.deliveryHasAdvance = run.any (fun mark => mark.2)
  allAdvance_eq :
    state.deliveryAllAdvance = run.all (fun mark => mark.2)
  counted : state.deliveries = countKinds runs
  run_ne_nil : run ≠ []

section

variable {state : Analysis}
variable {runs : List (List (Nat × Bool))}
variable {run : List (Nat × Bool)}

/- Finishing the last run counts it as well. -/
theorem RunsCounted.finish
    (hCounted : RunsCounted state runs run) :
    state.finishDelivery.deliveries =
      countKinds (runs ++ [run]) := by
  have hSome :
      run.all (fun mark => mark.2) = true →
        run.any (fun mark => mark.2) = true := by
    intro hAll
    rcases List.exists_mem_of_ne_nil _ hCounted.run_ne_nil with
      ⟨mark, hMark⟩
    exact List.any_eq_true.mpr
      ⟨mark, hMark, List.all_eq_true.mp hAll mark hMark⟩
  unfold Analysis.finishDelivery
  simp only [hCounted.hasFrame_eq, hCounted.hasAdvance_eq,
    hCounted.allAdvance_eq, hCounted.counted, Bool.not_true,
    Bool.false_eq_true, if_false, countKinds, List.map_append,
    List.map_singleton, List.count_append]
  cases hAll : run.all (fun mark => mark.2) with
  | true =>
      simp [deliveryKind, hAll, hSome hAll]
  | false =>
      cases hAny : run.any (fun mark => mark.2) with
      | true => simp [deliveryKind, hAll, hAny]
      | false => simp [deliveryKind, hAll, hAny]

/- The first event of all opens the first run. -/
theorem runsCounted_first
    (event : FrameEvent) :
    RunsCounted (analysisStep {} event) []
      [(event.delivery, true)] := by
  constructor
  all_goals
    simp [analysisStep, Analysis.enterDelivery,
      WorkingStream.advances, countKinds]

/- An event of the same delivery goes on with the run. -/
theorem RunsCounted.same_delivery
    (hCounted : RunsCounted state runs run)
    {event : FrameEvent}
    (hSame : event.delivery = state.currentDelivery) :
    RunsCounted (analysisStep state event) runs
      (run ++
        [(event.delivery,
          (state.streams.getD event.key {}).advances
            event.frameNumber)]) := by
  have hEnter : state.enterDelivery event.delivery = state := by
    unfold Analysis.enterDelivery
    simp [hCounted.have_eq, hSame]
  unfold analysisStep
  rw [hEnter]
  constructor
  · exact hCounted.have_eq
  · intro mark hMark
    simp only [List.getLast?_concat, Option.mem_def,
      Option.some.injEq] at hMark
    rw [← hMark]
    exact hSame
  · rfl
  · simp [hCounted.hasAdvance_eq]
  · simp [hCounted.allAdvance_eq]
  · exact hCounted.counted
  · simp

/- An event of another delivery opens the next run. -/
theorem RunsCounted.new_delivery
    (hCounted : RunsCounted state runs run)
    {event : FrameEvent}
    (hNew : event.delivery ≠ state.currentDelivery) :
    RunsCounted (analysisStep state event) (runs ++ [run])
      [(event.delivery,
        (state.streams.getD event.key {}).advances
          event.frameNumber)] := by
  have hEnter :
      state.enterDelivery event.delivery =
        { state.finishDelivery with
          haveDelivery := true
          currentDelivery := event.delivery
          deliveryHasFrame := false
          deliveryHasAdvance := false
          deliveryAllAdvance := true } := by
    unfold Analysis.enterDelivery
    simp [hCounted.have_eq, hNew]
  unfold analysisStep
  rw [hEnter]
  constructor
  · rfl
  · intro mark hMark
    simp only [List.getLast?_singleton, Option.mem_def,
      Option.some.injEq] at hMark
    rw [← hMark]
  · rfl
  · simp
  · simp
  · exact hCounted.finish
  · simp

/- The runs of the events are counted at every event. -/
theorem analyzeEvents_runsCounted
    {events : List FrameEvent}
    (hSome : events ≠ []) :
    ∃ runs run,
      deliveryRuns events = runs ++ [run] ∧
        RunsCounted (analyzeEvents events) runs run := by
  induction events using List.reverseRecOn with
  | nil => exact absurd rfl hSome
  | append_singleton events event ih =>
      have hStep :
          analyzeEvents (events ++ [event]) =
            analysisStep (analyzeEvents events) event := by
        unfold analyzeEvents
        rw [List.foldl_append, List.foldl_cons, List.foldl_nil]
      have hAdvances := analysis_advances_eq_newestOf events event
      unfold deliveryRuns at ih ⊢
      rw [hStep, markAdvances_append_singleton]
      by_cases hEmpty : events = []
      · subst hEmpty
        exact ⟨[], _, rfl, runsCounted_first event⟩
      · rcases ih hEmpty with ⟨runs, run, hRuns, hCounted⟩
        have hLast :
            ∀ mark ∈ (markAdvances events).getLast?,
              mark.1 = (analyzeEvents events).currentDelivery := by
          have hWhole := List.flatten_splitBy
            (fun first second : Nat × Bool =>
              first.1 = second.1) (markAdvances events)
          rw [hRuns, List.flatten_append, List.flatten_singleton]
            at hWhole
          rw [← hWhole,
            List.getLast?_append_of_ne_nil _
              hCounted.run_ne_nil]
          exact hCounted.current_eq
        by_cases hSame :
            event.delivery =
              (analyzeEvents events).currentDelivery
        · refine ⟨runs, _, ?_, hCounted.same_delivery hSame⟩
          rw [hAdvances]
          apply splitBy_extend hRuns
          intro mark hMark
          rw [decide_eq_true_eq, hCounted.current_eq mark hMark,
            hSame]
        · refine ⟨runs ++ [run], _, ?_,
            hCounted.new_delivery hSame⟩
          rw [hAdvances, ← hRuns]
          apply List.splitBy_append_cons
          intro mark hMark
          rw [decide_eq_false_iff_not, hLast mark hMark]
          exact fun hIs => hSame hIs.symm

end

------------------------------------------------------------
-- The Analysis
------------------------------------------------------------

variable {metrics : CameraMetrics}

theorem analyzeFreshness_getElem?
    (hWords :
      ∀ event ∈ metrics.events.items,
        event.frameNumber < 2 ^ 64)
    (key : String) :
    (analyzeFreshness metrics).streams[key]? =
      if numbersOf key metrics.events.items = [] then
        none
      else
        some (streamCounts
          (numbersOf key metrics.events.items)) := by
  have hNumbers :
      ∀ number ∈ numbersOf key metrics.events.items,
        number < 2 ^ 64 := by
    intro number hNumber
    rcases List.mem_map.mp hNumber with ⟨event, hEvent, hIs⟩
    rw [← hIs]
    exact hWords event (List.mem_filter.mp hEvent).1
  rw [(analyzeFreshness_streams metrics).1,
    Std.TreeMap.getElem?_map, analysis_streams_getElem?,
    ← foldl_observe_counts hNumbers]
  split <;> rfl

theorem analyzeFreshness_countDeliveries
    (metrics : CameraMetrics) :
    (analyzeFreshness metrics).deliveries =
      countDeliveries metrics.events.items := by
  unfold analyzeFreshness countDeliveries
  by_cases hEmpty : metrics.events.items = []
  · rw [hEmpty]
    rfl
  · rcases analyzeEvents_runsCounted hEmpty with
      ⟨runs, run, hRuns, hCounted⟩
    simp only [hCounted.have_eq, if_true]
    rw [hCounted.finish, hRuns]

/- The totals are the wrapped sums over the streams. -/
theorem frames_eq_u64
    (value : FrameFreshnessMetrics → Nat)
    (hEmpty : value {} = 0)
    (hAdd :
      ∀ total part : FrameFreshnessMetrics,
        value (total.add part) =
          u64 (value total + value part)) :
    value (analyzeFreshness metrics).frames =
      u64 (mapTotal value
        (analyzeFreshness metrics).streams) := by
  rcases analyzeFreshness_streams metrics with
    ⟨hStreams, hFrames⟩
  rw [hStreams, hFrames, foldl_add_field value hEmpty hAdd]
  congr 1
  apply mapTotal_congr
  intro key
  unfold keyWeight
  rw [Std.TreeMap.getElem?_map, Option.map_map]
  rfl

/- The frames of all streams are the events. -/
theorem mapTotal_observedFrames
    (hWords :
      ∀ event ∈ metrics.events.items,
        event.frameNumber < 2 ^ 64) :
    mapTotal FrameFreshnessMetrics.observedFrames
        (analyzeFreshness metrics).streams =
      metrics.events.items.length := by
  have hGet := analyzeFreshness_getElem? hWords
  have hKnown :
      ∀ key : String,
        key ∈ (analyzeFreshness metrics).streams →
          key ∈ (metrics.events.items.map
            FrameEvent.key).toFinset := by
    intro key hKey
    rw [Std.TreeMap.mem_iff_isSome_getElem?, hGet] at hKey
    by_cases hNone : numbersOf key metrics.events.items = []
    · simp [hNone] at hKey
    · rcases List.exists_mem_of_ne_nil _ hNone with
        ⟨number, hNumber⟩
      rcases List.mem_map.mp hNumber with ⟨event, hEvent, _⟩
      rw [List.mem_filter] at hEvent
      rw [← of_decide_eq_true hEvent.2]
      exact List.mem_toFinset.mpr
        (List.mem_map_of_mem hEvent.1)
  have hWeight :
      ∀ key,
        keyWeight FrameFreshnessMetrics.observedFrames
            (analyzeFreshness metrics).streams key =
          (metrics.events.items.map FrameEvent.key).count
            key := by
    intro key
    have hLength :
        (numbersOf key metrics.events.items).length =
          (metrics.events.items.map FrameEvent.key).count
            key := by
      unfold numbersOf
      rw [List.length_map, ← List.countP_eq_length_filter,
        List.count, List.countP_map]
      apply List.countP_congr
      intro event _
      simp
    unfold keyWeight
    rw [hGet, ← hLength]
    by_cases hNone : numbersOf key metrics.events.items = []
    · simp [hNone]
    · rw [if_neg hNone]
      rfl
  rw [mapTotal_eq_sum _ _ hKnown]
  simp only [hWeight]
  rw [List.sum_toFinset_count_eq_length, List.length_map]

/- A counter of each stream that never exceeds its frames. -/
theorem mapTotal_le_observed
    (hWords :
      ∀ event ∈ metrics.events.items,
        event.frameNumber < 2 ^ 64)
    {value : FrameFreshnessMetrics → Nat}
    (hValue :
      ∀ numbers,
        value (streamCounts numbers) ≤ numbers.length) :
    mapTotal value (analyzeFreshness metrics).streams ≤
      metrics.events.items.length := by
  rw [← mapTotal_observedFrames hWords]
  unfold mapTotal
  apply List.sum_le_sum
  intro entry hEntry
  have hGet :=
    Std.TreeMap.mem_toList_iff_getElem?_eq_some.mp hEntry
  rw [analyzeFreshness_getElem? hWords] at hGet
  split at hGet
  · cases hGet
  · rw [← Option.some.inj hGet]
    exact hValue _

/- A counter that is bounded by the events is added exactly. -/
theorem frames_eq_mapTotal
    (hWords :
      ∀ event ∈ metrics.events.items,
        event.frameNumber < 2 ^ 64)
    (hLength : metrics.events.items.length < 2 ^ 64)
    (value : FrameFreshnessMetrics → Nat)
    (hEmpty : value {} = 0)
    (hAdd :
      ∀ total part : FrameFreshnessMetrics,
        value (total.add part) = u64 (value total + value part))
    (hValue :
      ∀ numbers,
        value (streamCounts numbers) ≤ numbers.length) :
    value (analyzeFreshness metrics).frames =
      mapTotal value (analyzeFreshness metrics).streams := by
  have hBound := mapTotal_le_observed hWords hValue
  rw [frames_eq_u64 value hEmpty hAdd,
    u64_of_lt (hBound.trans_lt hLength)]

/-
  For events in any order, each stream has the counters of
  its own numbers, each run of events with one delivery id
  is counted once, and the totals are the sums over the
  streams.  The gaps alone are added with wrapping: they are
  not bounded by the number of the events.
-/
theorem analyzeFreshness_counts
    {metrics : CameraMetrics}
    (hWords :
      ∀ event ∈ metrics.events.items,
        event.frameNumber < 2 ^ 64)
    (hLength : metrics.events.items.length < 2 ^ 64) :
    (∀ key : String,
      (analyzeFreshness metrics).streams[key]? =
        if numbersOf key metrics.events.items = [] then
          none
        else
          some (streamCounts
            (numbersOf key metrics.events.items))) ∧
      (analyzeFreshness metrics).frames.observedFrames =
        mapTotal FrameFreshnessMetrics.observedFrames
          (analyzeFreshness metrics).streams ∧
      (analyzeFreshness metrics).frames.uniqueFrames =
        mapTotal FrameFreshnessMetrics.uniqueFrames
          (analyzeFreshness metrics).streams ∧
      (analyzeFreshness metrics).frames.duplicateFrames =
        mapTotal FrameFreshnessMetrics.duplicateFrames
          (analyzeFreshness metrics).streams ∧
      (analyzeFreshness metrics).frames.nonadvancingFrames =
        mapTotal FrameFreshnessMetrics.nonadvancingFrames
          (analyzeFreshness metrics).streams ∧
      (analyzeFreshness metrics).frames.outOfOrderFrames =
        mapTotal FrameFreshnessMetrics.outOfOrderFrames
          (analyzeFreshness metrics).streams ∧
      (analyzeFreshness metrics).frames.sequenceGaps =
        u64 (mapTotal FrameFreshnessMetrics.sequenceGaps
          (analyzeFreshness metrics).streams) ∧
      (analyzeFreshness metrics).deliveries =
        countDeliveries metrics.events.items := by
  refine ⟨analyzeFreshness_getElem? hWords, ?_, ?_, ?_, ?_,
    ?_, ?_, analyzeFreshness_countDeliveries metrics⟩
  · exact frames_eq_mapTotal hWords hLength _ rfl
      (fun _ _ => rfl) (fun _ => Nat.le_refl _)
  · exact frames_eq_mapTotal hWords hLength _ rfl
      (fun _ _ => rfl) List.toFinset_card_le
  · exact frames_eq_mapTotal hWords hLength _ rfl
      (fun _ _ => rfl) (fun _ => Nat.sub_le _ _)
  · exact frames_eq_mapTotal hWords hLength _ rfl
      (fun _ _ => rfl) (positionsBehind_card_le _)
  · exact frames_eq_mapTotal hWords hLength _ rfl
      (fun _ _ => rfl) (positionsBehind_card_le _)
  · exact frames_eq_u64 _ rfl (fun _ _ => rfl)

/- A camera that recorded these frames. -/
def cameraWith
    (frames : List (Nat × Rs2Stream × Nat)) : CameraMetrics where
  events := {
    items := frames.map (fun entry =>
      { delivery := entry.1
        stream := entry.2.1
        frameNumber := entry.2.2 }) }

/- A fresh delivery, one with a repeat and one out of order. -/
def mixedFrames : List (Nat × Rs2Stream × Nat) :=
  [(1, .depth, 5), (1, .color, 7), (2, .depth, 5),
    (2, .color, 8), (3, .depth, 4)]

theorem mixedFrames_counts :
    (analyzeFreshness (cameraWith mixedFrames)).deliveries =
        ⟨1, 1, 1⟩ ∧
      (analyzeFreshness
          (cameraWith mixedFrames)).streams["Depth#0"]? =
        some ⟨3, 2, 1, 0, 2, 1⟩ := by
  have hWords :
      ∀ event ∈ (cameraWith mixedFrames).events.items,
        event.frameNumber < 2 ^ 64 := by
    decide
  have hCounts := analyzeFreshness_counts hWords (by decide)
  constructor
  · rw [hCounts.2.2.2.2.2.2.2]
    decide
  · rw [hCounts.1]
    decide

/- Two streams with frames at both ends of the range. -/
def wideFrames : List (Nat × Rs2Stream × Nat) :=
  [(1, .depth, 0), (1, .color, 0), (2, .depth, 2 ^ 64 - 1),
    (2, .color, 2 ^ 64 - 1)]

theorem wideFrames_total_wraps :
    (analyzeFreshness
        (cameraWith wideFrames)).frames.sequenceGaps ≠
      mapTotal FrameFreshnessMetrics.sequenceGaps
        (analyzeFreshness (cameraWith wideFrames)).streams := by
  decide +kernel

end Steady

end RsCamera
