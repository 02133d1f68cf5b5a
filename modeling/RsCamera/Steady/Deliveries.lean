import RsCamera.Lib.Numeral
import RsCamera.Lib.Sightings
import RsCamera.Steady.Drops

/-
  What the offline freshness analysis of a camera counts, in
  terms of the sightings of its streams.

  Each delivery that was seen is counted once, as fully
  fresh, partially stale or stale; it is fully fresh when no
  frame in it repeats its stream.  The duplicates and the
  gaps of all streams are the repeats and the missing
  numbers of the sightings.

  Key definitions include:
    * `FrameEvent.sighting`, `EventsOrdered`

  Key theorems include:
    * `streamKey_injective`
    * `analyzeFreshness_deliveries`
    * `analyzeFreshness_duplicates`
    * `analyzeFreshness_gaps`
-/

------------------------------------------------------------
-- Events As Sightings
------------------------------------------------------------

namespace RsCamera

namespace Steady

def FrameEvent.sighting
    (event : FrameEvent) : Sighting (Rs2Stream × Int) Nat where
  stream := (event.stream, event.streamIndex)
  delivery := event.delivery
  number := event.frameNumber

/- The sighting under the key the analysis uses. -/
def FrameEvent.keyedSighting
    (event : FrameEvent) : Sighting String Nat where
  stream := event.key
  delivery := event.delivery
  number := event.frameNumber

/-
  The events of a camera as the probe records them: the
  deliveries come one after another, a stream is delivered
  at most once in each, and its numbers, which are machine
  words, never go back.
-/
structure EventsOrdered (events : List FrameEvent) : Prop where
  deliveries :
    events.Pairwise (fun first second =>
      first.delivery ≤ second.delivery)
  once :
    events.Pairwise (fun first second =>
      first.delivery = second.delivery →
        (first.stream, first.streamIndex) ≠
          (second.stream, second.streamIndex))
  ascending :
    events.Pairwise (fun first second =>
      (first.stream, first.streamIndex) =
          (second.stream, second.streamIndex) →
        first.frameNumber ≤ second.frameNumber)
  words : ∀ event ∈ events, event.frameNumber < 2 ^ 64

instance (events : List FrameEvent) :
    Decidable (EventsOrdered events) :=
  decidable_of_iff
    (events.Pairwise (fun first second =>
        first.delivery ≤ second.delivery) ∧
      events.Pairwise (fun first second =>
        first.delivery = second.delivery →
          (first.stream, first.streamIndex) ≠
            (second.stream, second.streamIndex)) ∧
      events.Pairwise (fun first second =>
        (first.stream, first.streamIndex) =
            (second.stream, second.streamIndex) →
          first.frameNumber ≤ second.frameNumber) ∧
      ∀ event ∈ events, event.frameNumber < 2 ^ 64)
    ⟨fun h => ⟨h.1, h.2.1, h.2.2.1, h.2.2.2⟩,
      fun h =>
        ⟨h.deliveries, h.once, h.ascending, h.words⟩⟩

theorem EventsOrdered.of_append
    {events : List FrameEvent}
    {event : FrameEvent}
    (hOrdered : EventsOrdered (events ++ [event])) :
    EventsOrdered events where
  deliveries := (List.pairwise_append.mp hOrdered.deliveries).1
  once := (List.pairwise_append.mp hOrdered.once).1
  ascending := (List.pairwise_append.mp hOrdered.ascending).1
  words := fun other hOther =>
    hOrdered.words other (List.mem_append_left _ hOther)

/- No event comes after the last one. -/
theorem EventsOrdered.le_last
    {events : List FrameEvent}
    (hOrdered : EventsOrdered events)
    {last event : FrameEvent}
    (hLast : events.getLast? = some last)
    (hEvent : event ∈ events) :
    event.delivery ≤ last.delivery := by
  rcases List.getLast?_eq_some_iff.mp hLast with
    ⟨before, hEq⟩
  have hDeliveries := hOrdered.deliveries
  rw [hEq] at hEvent hDeliveries
  rcases List.mem_append.mp hEvent with hBefore | hOne
  · exact (List.pairwise_append.mp hDeliveries).2.2 event
      hBefore last (by simp)
  · rw [List.mem_singleton.mp hOne]

theorem rs2StreamToString_injective :
    Function.Injective rs2StreamToString := by
  intro left right hEq
  cases left <;> cases right <;>
    first | rfl | exact absurd hEq (by decide)

theorem hash_not_mem_rs2StreamToString
    (stream : Rs2Stream) :
    '#' ∉ (rs2StreamToString stream).toList := by
  cases stream <;> decide

/- Different streams have different keys. -/
theorem streamKey_injective :
    Function.Injective
      (fun stream : Rs2Stream × Int =>
        streamKey stream.1 stream.2) := by
  intro left right hEq
  have hText :
      (rs2StreamToString left.1).toList ++
          '#' :: (toString left.2).toList =
        (rs2StreamToString right.1).toList ++
          '#' :: (toString right.2).toList := by
    have hLists := congrArg String.toList hEq
    simpa [streamKey] using hLists
  rcases append_cons_inj
    (hash_not_mem_rs2StreamToString left.1)
    (hash_not_mem_rs2StreamToString right.1) hText with
    ⟨hName, hIndex⟩
  apply Prod.ext
  · exact rs2StreamToString_injective
      (String.toList_injective hName)
  · exact toString_int_injective
      (String.toList_injective hIndex)

/- Keys are other names for the streams. -/
theorem map_keyedSighting
    (events : List FrameEvent) :
    events.map FrameEvent.keyedSighting =
      (events.map FrameEvent.sighting).map
        (Sighting.rename
          (fun stream => streamKey stream.1 stream.2) id) := by
  rw [List.map_map]
  rfl

theorem numbersSeen_keyedSighting
    (events : List FrameEvent)
    (key : String) :
    numbersSeen (events.map FrameEvent.keyedSighting) key =
      numbersOf key events := by
  unfold numbersSeen numbersOf
  rw [List.filter_map, List.map_map]
  rfl

------------------------------------------------------------
-- High-Water Marks
------------------------------------------------------------

/- The mark of ascending numbers is the last of them. -/
theorem foldl_observe_highest
    {numbers : List Nat}
    (hSorted : numbers.Pairwise (· ≤ ·)) :
    (numbers.foldl WorkingStream.observe {}).hasHighest =
        numbers.getLast?.isSome ∧
      ∀ last, numbers.getLast? = some last →
        (numbers.foldl WorkingStream.observe {}).highest =
          last := by
  induction numbers using List.reverseRecOn with
  | nil => simp
  | append_singleton numbers number ih =>
      rw [List.pairwise_append] at hSorted
      rcases ih hSorted.1 with ⟨hHas, hHighest⟩
      rw [List.foldl_append, List.foldl_cons, List.foldl_nil]
      generalize
        numbers.foldl WorkingStream.observe {} = stream at *
      have hEnd :
          (numbers ++ [number]).getLast? = some number := by
        simp
      simp only [hEnd, Option.isSome_some, Option.some.injEq,
        forall_eq']
      unfold WorkingStream.observe
      by_cases hAdvances : stream.advances number = true
      · simp [hAdvances]
      · simp only [hAdvances, Bool.false_eq_true, if_false]
        simp only [WorkingStream.advances, Bool.or_eq_true,
          Bool.not_eq_true', decide_eq_true_eq, not_or,
          Bool.not_eq_false, not_lt] at hAdvances
        rcases hAdvances with ⟨hMarked, hNotNewer⟩
        refine ⟨hMarked, ?_⟩
        rw [hHas, Option.isSome_iff_exists] at hMarked
        rcases hMarked with ⟨last, hLast⟩
        have hLe : last ≤ number :=
          hSorted.2.2 last (List.mem_of_getLast? hLast) number
            (by simp)
        rw [hHighest last hLast] at hNotNewer ⊢
        omega

/- A number advances unless it repeats. -/
theorem foldl_observe_advances
    {numbers : List Nat}
    (hSorted : numbers.Pairwise (· ≤ ·))
    (number : Nat) :
    (numbers.foldl WorkingStream.observe {}).advances number =
      !isRepeat numbers.getLast? number := by
  rcases foldl_observe_highest hSorted with
    ⟨hHas, hHighest⟩
  unfold WorkingStream.advances
  rw [hHas]
  cases hLast : numbers.getLast? with
  | none => rfl
  | some last =>
      rw [hHighest last hLast]
      by_cases hNewer : last < number
      · simp [hNewer]
      · simp [hNewer, Nat.not_lt.mp hNewer]

/- The numbers of each stream ascend. -/
theorem EventsOrdered.numbers_sorted
    {events : List FrameEvent}
    (hOrdered : EventsOrdered events)
    (key : String) :
    (numbersOf key events).Pairwise (· ≤ ·) := by
  unfold numbersOf
  rw [List.pairwise_map, List.pairwise_filter]
  apply hOrdered.ascending.imp
  intro first second hAscending hFirst hSecond
  apply hAscending
  apply streamKey_injective
  change first.key = second.key
  rw [of_decide_eq_true hFirst, of_decide_eq_true hSecond]

/- The walk sees a frame advance unless it repeats. -/
theorem analysis_advances
    {events : List FrameEvent}
    (hOrdered : EventsOrdered events)
    (event : FrameEvent) :
    ((analyzeEvents events).streams.getD event.key
        {}).advances event.frameNumber =
      !isRepeat
        (remembered (events.map FrameEvent.keyedSighting)
          event.keyedSighting) event.frameNumber := by
  have hMemory :
      remembered (events.map FrameEvent.keyedSighting)
          event.keyedSighting =
        (numbersOf event.key events).getLast? := by
    unfold remembered lastNumber
    rw [numbersSeen_keyedSighting]
    rfl
  rw [hMemory, Std.TreeMap.getD_eq_getD_getElem?,
    analysis_streams_getElem?,
    ← foldl_observe_advances
      (hOrdered.numbers_sorted event.key)]
  split
  · next hNone => rw [hNone]; rfl
  · rfl

------------------------------------------------------------
-- Delivery Counts
------------------------------------------------------------

/-
  The walk has counted every delivery but the current one,
  and knows whether a frame of the current one repeated.
-/
structure DeliveriesCounted
    (state : Analysis)
    (total : Tally Nat)
    (current : Nat) : Prop where
  have_eq : state.haveDelivery = true
  current_eq : state.currentDelivery = current
  hasFrame_eq : state.deliveryHasFrame = true
  seen : current ∈ total.deliveries
  allAdvance_eq :
    state.deliveryAllAdvance = decide (current ∉ total.stale)
  hasAdvance_or :
    state.deliveryHasAdvance = true ∨ current ∈ total.stale
  counted :
    state.deliveries.fullyFreshFramesets +
        state.deliveries.partiallyStaleFramesets +
        state.deliveries.staleFramesets =
      (total.deliveries.erase current).card
  stale_counted :
    state.deliveries.partiallyStaleFramesets +
        state.deliveries.staleFramesets =
      (total.stale.erase current).card

/- Finishing a delivery counts it as well. -/
theorem DeliveriesCounted.finish
    {state : Analysis}
    {total : Tally Nat}
    {current : Nat}
    (hCounted : DeliveriesCounted state total current) :
    state.finishDelivery.deliveries.fullyFreshFramesets +
        state.finishDelivery.deliveries.partiallyStaleFramesets +
        state.finishDelivery.deliveries.staleFramesets =
      total.deliveries.card ∧
    state.finishDelivery.deliveries.partiallyStaleFramesets +
        state.finishDelivery.deliveries.staleFramesets =
      total.stale.card := by
  have hAll := hCounted.counted
  have hStale := hCounted.stale_counted
  rw [Finset.card_erase_of_mem hCounted.seen] at hAll
  have hPositive : 0 < total.deliveries.card :=
    Finset.card_pos.mpr ⟨current, hCounted.seen⟩
  unfold Analysis.finishDelivery
  simp only [hCounted.hasFrame_eq, Bool.not_true,
    Bool.false_eq_true, if_false]
  by_cases hMember : current ∈ total.stale
  · -- A repeat makes the delivery stale, in part or whole.
    rw [Finset.card_erase_of_mem hMember] at hStale
    have hStalePositive : 0 < total.stale.card :=
      Finset.card_pos.mpr ⟨current, hMember⟩
    have hNotAll : state.deliveryAllAdvance = false := by
      simpa [hMember] using hCounted.allAdvance_eq
    by_cases hHas : state.deliveryHasAdvance = true
    · simp only [hHas, hNotAll, Bool.not_true,
        Bool.false_eq_true, if_false]
      omega
    · simp only [hHas, Bool.not_false, if_true]
      omega
  · rw [Finset.erase_eq_of_notMem hMember] at hStale
    have hAllAdvance : state.deliveryAllAdvance = true := by
      simpa [hMember] using hCounted.allAdvance_eq
    have hHas : state.deliveryHasAdvance = true :=
      hCounted.hasAdvance_or.resolve_right hMember
    simp only [hHas, hAllAdvance, Bool.not_true,
      Bool.false_eq_true, if_false, if_true]
    omega

/- Counting stays right for a frame of the same delivery. -/
theorem DeliveriesCounted.same_delivery
    {state : Analysis}
    {total : Tally Nat}
    {current : Nat}
    (hCounted : DeliveriesCounted state total current)
    {streams : Std.TreeMap String WorkingStream}
    (prior : Option Nat)
    (sighting : Sighting String Nat)
    (hDelivery : sighting.delivery = current) :
    DeliveriesCounted
      { state with
        streams := streams
        deliveryHasFrame := true
        deliveryHasAdvance :=
          state.deliveryHasAdvance ||
            !isRepeat prior sighting.number
        deliveryAllAdvance :=
          state.deliveryAllAdvance &&
            !isRepeat prior sighting.number }
      (total.observe prior sighting) current where
  have_eq := hCounted.have_eq
  current_eq := hCounted.current_eq
  hasFrame_eq := rfl
  seen := by
    unfold Tally.observe
    exact Finset.mem_insert_of_mem hCounted.seen
  allAdvance_eq := by
    have hBefore := hCounted.allAdvance_eq
    unfold Tally.observe
    simp only [hDelivery, hBefore]
    by_cases hRepeat : isRepeat prior sighting.number = true
    · simp [hRepeat]
    · simp [hRepeat]
  hasAdvance_or := by
    unfold Tally.observe
    simp only [hDelivery]
    by_cases hRepeat : isRepeat prior sighting.number = true
    · simp [hRepeat]
    · simp [hRepeat]
  counted := by
    unfold Tally.observe
    simp only [hDelivery, Finset.insert_eq_of_mem hCounted.seen]
    exact hCounted.counted
  stale_counted := by
    unfold Tally.observe
    simp only [hDelivery]
    rw [hCounted.stale_counted]
    split
    · rw [Finset.erase_insert_eq_erase]
    · rfl

/- Counting stays right for the first frame of a delivery. -/
theorem deliveriesCounted_new_delivery
    (state : Analysis)
    (total : Tally Nat)
    {streams : Std.TreeMap String WorkingStream}
    (prior : Option Nat)
    (sighting : Sighting String Nat)
    (hNew : sighting.delivery ∉ total.deliveries)
    (hSubset : total.stale ⊆ total.deliveries)
    (hAll :
      state.deliveries.fullyFreshFramesets +
          state.deliveries.partiallyStaleFramesets +
          state.deliveries.staleFramesets =
        total.deliveries.card)
    (hStale :
      state.deliveries.partiallyStaleFramesets +
          state.deliveries.staleFramesets =
        total.stale.card) :
    DeliveriesCounted
      { state with
        haveDelivery := true
        currentDelivery := sighting.delivery
        streams := streams
        deliveryHasFrame := true
        deliveryHasAdvance :=
          false || !isRepeat prior sighting.number
        deliveryAllAdvance :=
          true && !isRepeat prior sighting.number }
      (total.observe prior sighting) sighting.delivery where
  have_eq := rfl
  current_eq := rfl
  hasFrame_eq := rfl
  seen := by
    unfold Tally.observe
    exact Finset.mem_insert_self _ _
  allAdvance_eq := by
    have hFresh : sighting.delivery ∉ total.stale :=
      fun hMember => hNew (hSubset hMember)
    unfold Tally.observe
    by_cases hRepeat : isRepeat prior sighting.number = true
    · simp [hRepeat]
    · simp [hRepeat, hFresh]
  hasAdvance_or := by
    unfold Tally.observe
    by_cases hRepeat : isRepeat prior sighting.number = true
    · simp [hRepeat]
    · simp [hRepeat]
  counted := by
    unfold Tally.observe
    simp only [Finset.erase_insert hNew]
    exact hAll
  stale_counted := by
    have hFresh : sighting.delivery ∉ total.stale :=
      fun hMember => hNew (hSubset hMember)
    unfold Tally.observe
    simp only
    rw [hStale]
    split
    · rw [Finset.erase_insert hFresh]
    · rw [Finset.erase_eq_of_notMem hFresh]

/- The walk over ordered events counts their deliveries. -/
theorem analyzeEvents_deliveriesCounted
    {events : List FrameEvent}
    (hOrdered : EventsOrdered events)
    {last : FrameEvent}
    (hLast : events.getLast? = some last) :
    DeliveriesCounted (analyzeEvents events)
      (tally remembered
        (events.map FrameEvent.keyedSighting))
      last.delivery := by
  induction events using List.reverseRecOn
    generalizing last with
  | nil => cases hLast
  | append_singleton events event ih =>
      have hEvent : event = last := by
        simpa using hLast
      subst hEvent
      have hBefore := hOrdered.of_append
      have hAdvances := analysis_advances hBefore event
      have hWalk :
          analyzeEvents (events ++ [event]) =
            analysisStep (analyzeEvents events) event := by
        unfold analyzeEvents
        rw [List.foldl_append, List.foldl_cons, List.foldl_nil]
      rw [hWalk, List.map_append, List.map_singleton,
        tally_append_singleton]
      unfold analysisStep
      simp only [Analysis.enterDelivery_streams, hAdvances]
      have hSubset :=
        tally_subset_deliveries remembered
          (events.map FrameEvent.keyedSighting)
      have hStaleSubset :=
        Finset.subset_union_left.trans hSubset
      cases hPrevious : events.getLast? with
      | none =>
          have hEmpty : events = [] := by
            simpa using hPrevious
          subst hEmpty
          exact deliveriesCounted_new_delivery {} {} _
            event.keyedSighting (Finset.notMem_empty _) (Finset.empty_subset _)
            rfl rfl
      | some previous =>
          have hCounted := ih hBefore hPrevious
          by_cases hSame : event.delivery = previous.delivery
          · have hEnter :
                (analyzeEvents events).enterDelivery
                    event.delivery =
                  analyzeEvents events := by
              unfold Analysis.enterDelivery
              simp [hCounted.have_eq, hCounted.current_eq,
                hSame]
            rw [hEnter, hSame]
            exact hCounted.same_delivery _ event.keyedSighting
              hSame
          · have hNew :
                event.keyedSighting.delivery ∉
                  (tally remembered (events.map
                    FrameEvent.keyedSighting)).deliveries := by
              rw [tally_deliveries, List.mem_toFinset,
                List.map_map, List.mem_map]
              rintro ⟨other, hOther, hDelivery⟩
              have hOld : other.delivery ≤ previous.delivery :=
                hBefore.le_last hPrevious hOther
              have hNext : previous.delivery ≤ event.delivery :=
                (List.pairwise_append.mp
                  hOrdered.deliveries).2.2 previous
                    (List.mem_of_getLast? hPrevious) event
                    (by simp)
              have hEq : other.delivery = event.delivery :=
                hDelivery
              omega
            rcases hCounted.finish with ⟨hAll, hStale⟩
            have hEnter :
                (analyzeEvents events).enterDelivery
                    event.delivery =
                  { (analyzeEvents events).finishDelivery with
                    haveDelivery := true
                    currentDelivery := event.delivery
                    deliveryHasFrame := false
                    deliveryHasAdvance := false
                    deliveryAllAdvance := true } := by
              unfold Analysis.enterDelivery
              simp [hCounted.have_eq, hCounted.current_eq,
                hSame]
            rw [hEnter]
            exact deliveriesCounted_new_delivery _ _ _
              event.keyedSighting hNew hStaleSubset hAll hStale

------------------------------------------------------------
-- Counters Of The Analysis
------------------------------------------------------------

/- The streams are the same under their keys. -/
theorem tally_keyedSighting
    (events : List FrameEvent) :
    tally remembered (events.map FrameEvent.keyedSighting) =
      tally remembered (events.map FrameEvent.sighting) := by
  rw [map_keyedSighting, tally_rename streamKey_injective]
  unfold Tally.rename
  simp only [Finset.image_id]

variable {metrics : CameraMetrics}

/- Every delivery is counted, the stale ones as such. -/
theorem analyzeFreshness_deliveries
    (hOrdered : EventsOrdered metrics.events.items) :
    (analyzeFreshness metrics).deliveries.fullyFreshFramesets +
        (analyzeFreshness
          metrics).deliveries.partiallyStaleFramesets +
        (analyzeFreshness metrics).deliveries.staleFramesets =
      (tally remembered (metrics.events.items.map
        FrameEvent.sighting)).deliveries.card ∧
    (analyzeFreshness
          metrics).deliveries.partiallyStaleFramesets +
        (analyzeFreshness metrics).deliveries.staleFramesets =
      (tally remembered (metrics.events.items.map
        FrameEvent.sighting)).stale.card := by
  rw [← tally_keyedSighting]
  unfold analyzeFreshness
  cases hLast : metrics.events.items.getLast? with
  | none =>
      have hEmpty : metrics.events.items = [] := by
        simpa using hLast
      rw [hEmpty]
      exact ⟨rfl, rfl⟩
  | some last =>
      have hCounted :=
        analyzeEvents_deliveriesCounted hOrdered hLast
      simp only [hCounted.have_eq, if_true]
      exact hCounted.finish

/-
  A counter of the analysis, summed over the streams, is the
  counter of the tally that grows by the same amounts.
-/
theorem mapTotal_freshness
    (value : FrameFreshnessMetrics → Nat)
    (count : Tally Nat → Nat)
    (gain : Option Nat → Nat → Nat)
    (weight : List Nat → Nat)
    (hEmpty : count {} = 0)
    (hObserve :
      ∀ total prior (sighting : Sighting String Nat),
        count (total.observe prior sighting) =
          count total + gain prior sighting.number)
    (hNil : weight [] = 0)
    (hWeight :
      ∀ key, numbersOf key metrics.events.items ≠ [] →
        value ((numbersOf key metrics.events.items).foldl
            WorkingStream.observe {}).freshness =
          weight (numbersOf key metrics.events.items))
    (hGain :
      ∀ before (sighting : Sighting String Nat),
        before ++ [sighting] <+:
            metrics.events.items.map FrameEvent.keyedSighting →
          weight (numbersSeen before sighting.stream ++
              [sighting.number]) =
            weight (numbersSeen before sighting.stream) +
              gain (remembered before sighting)
                sighting.number) :
    mapTotal value (analyzeFreshness metrics).streams =
      count (tally remembered
        (metrics.events.items.map FrameEvent.sighting)) := by
  let keys : Finset String :=
    (metrics.events.items.map FrameEvent.key).toFinset
  have hKeys :
      ∀ sighting ∈ metrics.events.items.map
          FrameEvent.keyedSighting,
        sighting.stream ∈ keys := by
    intro sighting hSighting
    rcases List.mem_map.mp hSighting with
      ⟨event, hEvent, hEq⟩
    rw [← hEq]
    exact List.mem_toFinset.mpr (List.mem_map_of_mem hEvent)
  have hGet :
      ∀ key : String,
        (analyzeFreshness metrics).streams[key]? =
          if numbersOf key metrics.events.items = [] then
            none
          else
            some ((numbersOf key metrics.events.items).foldl
              WorkingStream.observe {}).freshness := by
    intro key
    rw [(analyzeFreshness_streams metrics).1,
      Std.TreeMap.getElem?_map, analysis_streams_getElem?]
    split <;> rfl
  have hKnown :
      ∀ key : String,
        key ∈ (analyzeFreshness metrics).streams →
          key ∈ keys := by
    intro key hKey
    rw [Std.TreeMap.mem_iff_isSome_getElem?, hGet] at hKey
    by_cases hNone : numbersOf key metrics.events.items = []
    · simp [hNone] at hKey
    · rcases List.exists_mem_of_ne_nil _ hNone with
        ⟨number, hNumber⟩
      rcases List.mem_map.mp hNumber with ⟨event, hEvent, _⟩
      rw [List.mem_filter] at hEvent
      rw [← of_decide_eq_true hEvent.2]
      exact List.mem_toFinset.mpr
        (List.mem_map_of_mem hEvent.1)
  rw [← tally_keyedSighting,
    tally_eq_sum_streams hEmpty hObserve hNil hGain hKeys,
    mapTotal_eq_sum _ _ hKnown]
  apply Finset.sum_congr rfl
  intro key _
  unfold keyWeight
  rw [hGet, numbersSeen_keyedSighting]
  by_cases hNone : numbersOf key metrics.events.items = []
  · simp [hNone, hNil]
  · rw [if_neg hNone]
    exact hWeight key hNone

/- Ascending numbers up to a sighting, and the next one. -/
theorem EventsOrdered.seen_sorted
    {events : List FrameEvent}
    (hOrdered : EventsOrdered events)
    {before : List (Sighting String Nat)}
    {sighting : Sighting String Nat}
    (hPrefix :
      before ++ [sighting] <+:
        events.map FrameEvent.keyedSighting) :
    (numbersSeen before sighting.stream ++
      [sighting.number]).Pairwise (· ≤ ·) := by
  rcases hPrefix with ⟨rest, hEq⟩
  have hSorted := hOrdered.numbers_sorted sighting.stream
  rw [← numbersSeen_keyedSighting, ← hEq, numbersSeen_append,
    numbersSeen_append] at hSorted
  have hOwn :
      numbersSeen [sighting] sighting.stream =
        [sighting.number] := by
    simp [numbersSeen]
  rw [hOwn] at hSorted
  exact (List.pairwise_append.mp hSorted).1

/- How many of the numbers occurred before. -/
def duplicateCount (numbers : List Nat) : Nat :=
  numbers.length - numbers.dedup.length

theorem duplicateCount_append_singleton
    {numbers : List Nat}
    {number : Nat}
    (hSorted : (numbers ++ [number]).Pairwise (· ≤ ·)) :
    duplicateCount (numbers ++ [number]) =
      duplicateCount numbers +
        (if isRepeat numbers.getLast? number then 1 else 0) := by
  rw [List.pairwise_append] at hSorted
  have hLength : numbers.dedup.length ≤ numbers.length :=
    (List.dedup_sublist numbers).length_le
  have hMember :
      isRepeat numbers.getLast? number = true ↔
        number ∈ numbers := by
    cases hLast : numbers.getLast? with
    | none =>
        have hEmpty : numbers = [] := by
          simpa using hLast
        simp [hEmpty]
    | some last =>
        have hLastMember := List.mem_of_getLast? hLast
        have hLe : last ≤ number :=
          hSorted.2.2 last hLastMember number (by simp)
        rw [isRepeat_some, decide_eq_true_eq]
        constructor
        · intro hRepeat
          have hEq : number = last := by omega
          rw [hEq]
          exact hLastMember
        · intro hSeen
          rcases List.getLast?_eq_some_iff.mp hLast with
            ⟨before, hEq⟩
          have hOrder := hSorted.1
          rw [hEq] at hOrder hSeen
          rcases List.mem_append.mp hSeen with hEarly | hOne
          · exact (List.pairwise_append.mp hOrder).2.2 number
              hEarly last (by simp)
          · rw [List.mem_singleton.mp hOne]
  unfold duplicateCount
  rw [← List.card_toFinset, ← List.card_toFinset,
    List.toFinset_append, List.length_append]
  rw [← List.card_toFinset] at hLength
  by_cases hSeen : number ∈ numbers
  · have hCard :
        (numbers.toFinset ∪ [number].toFinset).card =
          numbers.toFinset.card := by
      rw [Finset.union_eq_left.mpr]
      intro other hOther
      rw [List.mem_toFinset, List.mem_singleton] at hOther
      rw [hOther]
      exact List.mem_toFinset.mpr hSeen
    rw [hCard, if_pos (hMember.mpr hSeen)]
    simp only [List.length_singleton]
    omega
  · have hCard :
        (numbers.toFinset ∪ [number].toFinset).card =
          numbers.toFinset.card + 1 := by
      rw [List.toFinset_cons, List.toFinset_nil,
        Finset.union_insert, Finset.union_empty,
        Finset.card_insert_of_notMem
          (by rwa [List.mem_toFinset])]
    rw [hCard, if_neg (fun hRepeat =>
      hSeen (hMember.mp hRepeat))]
    simp only [List.length_singleton]
    omega

/- The duplicates of all streams are the repeats. -/
theorem analyzeFreshness_duplicates
    (hOrdered : EventsOrdered metrics.events.items) :
    mapTotal FrameFreshnessMetrics.duplicateFrames
        (analyzeFreshness metrics).streams =
      (tally remembered (metrics.events.items.map
        FrameEvent.sighting)).repeats := by
  apply mapTotal_freshness _ Tally.repeats
    (fun prior number =>
      if isRepeat prior number then 1 else 0)
    duplicateCount
  · rfl
  · intro total prior sighting
    rfl
  · rfl
  · intro key _
    have hSorted := hOrdered.numbers_sorted key
    have hNumbers :=
      foldl_observe_frameNumbers {}
        (numbersOf key metrics.events.items)
    rw [List.nil_append] at hNumbers
    unfold WorkingStream.freshness duplicateCount
    simp only [hNumbers]
    rw [hSorted.insertionSort_eq]
    unfold stdUnique
    rw [hSorted.destutter_eq_dedup]
  · intro before sighting hPrefix
    exact duplicateCount_append_singleton
      (hOrdered.seen_sorted hPrefix)

/- The gaps of all streams are the missing numbers. -/
theorem analyzeFreshness_gaps
    (hOrdered : EventsOrdered metrics.events.items) :
    mapTotal FrameFreshnessMetrics.sequenceGaps
        (analyzeFreshness metrics).streams =
      (tally remembered (metrics.events.items.map
        FrameEvent.sighting)).missing := by
  apply mapTotal_freshness _ Tally.missing missedSince gapSum
  · rfl
  · intro total prior sighting
    rfl
  · rfl
  · intro key _
    have hSorted := hOrdered.numbers_sorted key
    have hNumbers :=
      foldl_observe_frameNumbers {}
        (numbersOf key metrics.events.items)
    rw [List.nil_append] at hNumbers
    rw [freshness_sequenceGaps, hNumbers]
    · rw [hNumbers]
      exact hSorted
    · rw [hNumbers]
      intro number hNumber
      rcases List.mem_map.mp hNumber with ⟨event, hEvent, hEq⟩
      rw [← hEq]
      exact hOrdered.words event (List.mem_filter.mp hEvent).1
  · intro before sighting hPrefix
    unfold remembered lastNumber
    cases hLast :
        (numbersSeen before sighting.stream).getLast? with
    | none =>
        have hEmpty :
            numbersSeen before sighting.stream = [] := by
          simpa using hLast
        simp [hEmpty]
    | some last =>
        rw [gapSum_append_singleton hLast]
        rfl

end Steady

end RsCamera
