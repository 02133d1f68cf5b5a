import RsCamera.Steady.Consistency
import RsCamera.Steady.Freshness

/-
  The drop counter that is kept while frames are recorded
  agrees with the sequence gaps that are computed afterwards
  from the recorded events.

  Both sides are related to `gapSum` of the frame numbers of
  a stream: the online counter by induction over the calls,
  the offline formula by its closed form.

  Main declarations:
    * `NumbersAscend`
    * `freshness_sequenceGaps`
    * `recordMeasuredFrame_dropsMatch`
    * `recordCalls_drops_eq_sequenceGaps`
-/

------------------------------------------------------------
-- Offline Sequence Gaps
------------------------------------------------------------

namespace RsCamera

namespace Steady

/-
  Frame numbers that never go back and stay below the
  largest counter value.
-/
def NumbersAscend (numbers : List Nat) : Prop :=
  numbers.Pairwise (· ≤ ·) ∧
    ∀ number ∈ numbers, number < 2 ^ 64 - 1

instance
    (numbers : List Nat) :
    Decidable (NumbersAscend numbers) := by
  unfold NumbersAscend
  infer_instance

theorem dedup_getLast?
    (numbers : List Nat) :
    numbers.dedup.getLast? = numbers.getLast? := by
  induction numbers with
  | nil => rfl
  | cons a rest ih =>
      cases rest with
      | nil => simp
      | cons b rest =>
          have hTail :
              (a :: b :: rest).getLast? =
                (b :: rest).getLast? := by
            simp
          by_cases hMem : a ∈ b :: rest
          · rw [List.dedup_cons_of_mem hMem, ih, hTail]
          · rw [List.dedup_cons_of_notMem hMem, hTail, ← ih]
            have hSome :
                ((b :: rest).dedup).getLast? ≠ none := by
              rw [ih]
              simp
            cases hDedup : (b :: rest).dedup with
            | nil => exact absurd (by simp [hDedup]) hSome
            | cons c others => simp

/- A range of words and what is missing from it. -/
theorem missingBetween_of_words
    {first last unique : Nat}
    (hLast : last < 2 ^ 64)
    (hLe : first ≤ last)
    (hSome : 0 < unique)
    (hUnique : unique ≤ last - first + 1) :
    missingBetween first last unique =
      last - first + 1 - unique := by
  unfold missingBetween u64Sub u64
  omega

/-
  On ascending words the offline formula counts exactly the
  numbers skipped between neighbours.
-/
theorem freshness_sequenceGaps
    {working : WorkingStream}
    (hSorted : working.frameNumbers.Pairwise (· ≤ ·))
    (hWords :
      ∀ number ∈ working.frameNumbers, number < 2 ^ 64) :
    working.freshness.sequenceGaps =
      gapSum working.frameNumbers := by
  have hSort :
      working.frameNumbers.insertionSort (· ≤ ·) =
        working.frameNumbers :=
    hSorted.insertionSort_eq
  have hUnique :
      stdUnique working.frameNumbers =
        working.frameNumbers.dedup :=
    hSorted.destutter_eq_dedup
  simp only [WorkingStream.freshness, hSort, hUnique,
    dedup_getLast?]
  cases hNumbers : working.frameNumbers with
  | nil => simp
  | cons first rest =>
      rw [hNumbers] at hSorted hWords
      cases hLast : (first :: rest).getLast? with
      | none => simp at hLast
      | some last =>
          rcases gapSum_add_length_dedup hSorted hLast with
            ⟨hSum, hLe⟩
          have hDistinct :
              0 < (first :: rest).dedup.length := by
            apply List.length_pos_of_mem
            exact List.mem_dedup.mpr List.mem_cons_self
          simp only [List.head?_cons]
          rw [missingBetween_of_words
            (hWords last (List.mem_of_getLast? hLast)) hLe
            hDistinct (by omega)]
          omega

------------------------------------------------------------
-- Online Drop Counter
------------------------------------------------------------

/-
  Every stream's drop counter is the gap sum of its recorded
  numbers, as long as these ascend.
-/
def DropsMatch (metrics : CameraMetrics) : Prop :=
  ∀ (key : String) stream,
    metrics.streams[key]? = some stream →
      NumbersAscend (numbersOf key metrics.events.items) →
      stream.drops =
        gapSum (numbersOf key metrics.events.items)

/- The numbers of a stream are those of its events. -/
theorem numbersOf_eq_map_eventsOf
    (metrics : CameraMetrics)
    (key : String) :
    numbersOf key metrics.events.items =
      (metrics.eventsOf key).map FrameEvent.frameNumber := rfl

theorem NumbersAscend.of_append
    {numbers : List Nat}
    {number : Nat}
    (hAscend : NumbersAscend (numbers ++ [number])) :
    NumbersAscend numbers ∧ number < 2 ^ 64 - 1 ∧
      ∀ last, numbers.getLast? = some last →
        last ≤ number := by
  rcases hAscend with ⟨hSorted, hBound⟩
  rw [List.pairwise_append] at hSorted
  refine ⟨⟨hSorted.1, ?_⟩, ?_, ?_⟩
  · intro other hOther
    exact hBound other (List.mem_append_left _ hOther)
  · exact hBound number (by simp)
  · intro last hLast
    exact hSorted.2.2 last (List.mem_of_getLast? hLast)
      number (by simp)

/- Observing a frame adds the gap that precedes it. -/
theorem observe_drops
    {capacity : Nat}
    {events : List FrameEvent}
    {stream : StreamMetrics}
    (hStream : SamplesConsistent capacity events stream)
    (hDrops :
      stream.drops =
        gapSum (events.map FrameEvent.frameNumber))
    (frame : Frame)
    (hostBoottimeNs : Nat)
    (hAscend :
      NumbersAscend (events.map FrameEvent.frameNumber ++
        [frame.frameNumber])) :
    (stream.observe frame hostBoottimeNs).drops =
      gapSum (events.map FrameEvent.frameNumber ++
        [frame.frameNumber]) := by
  rcases hAscend.of_append with ⟨hBefore, hNumber, hLastLe⟩
  cases hLast : events.getLast? with
  | none =>
      have hEmpty : events = [] := by
        simpa using hLast
      have hHasLast : stream.hasLast = false := by
        simpa [hEmpty] using hStream.hasLast_eq
      subst hEmpty
      simpa [StreamMetrics.observe, hHasLast] using hDrops
  | some event =>
      have hNonempty : events ≠ [] := by
        intro hEmpty
        simp [hEmpty] at hLast
      have hHasLast : stream.hasLast = true := by
        rw [hStream.hasLast_eq]
        simpa using hNonempty
      have hLastNumber :
          stream.lastFrameNumber = event.frameNumber :=
        (hStream.last_eq event hLast).1
      have hMapLast :
          (events.map FrameEvent.frameNumber).getLast? =
            some event.frameNumber := by
        simp [hLast]
      have hLe := hLastLe event.frameNumber hMapLast
      have hSumLe := gapSum_le_last hBefore.1 hMapLast
      rw [gapSum_append_singleton hMapLast]
      -- Below the largest value neither the successor nor
      -- the running sum wraps.
      have hSucc :
          u64 (event.frameNumber + 1) =
            event.frameNumber + 1 :=
        u64_of_lt (by omega)
      simp only [StreamMetrics.observe, hHasLast, if_true,
        hLastNumber, hSucc, hDrops]
      split
      · rw [u64Sub_of_le (by omega) hLe,
          u64Sub_of_le (by omega) (by omega)]
        apply u64_of_lt
        omega
      · omega

theorem recordMeasuredFrame_dropsMatch
    {plan : StoragePlan}
    {metrics : CameraMetrics}
    (hConsistent : MetricsConsistent plan metrics)
    (hDrops : DropsMatch metrics)
    (frame : Option Frame)
    (hostBoottimeNs hostRealtimeNs delivery : Nat) :
    DropsMatch
      (recordMeasuredFrame metrics frame hostBoottimeNs
        hostRealtimeNs delivery).1 := by
  rcases recordMeasuredFrame_cases metrics frame
      hostBoottimeNs hostRealtimeNs delivery with
    ⟨_, hResult⟩ | ⟨_, _, _, hResult⟩ |
    ⟨_, _, _, _, _, hResult⟩ | ⟨_, _, _, _, _, hResult⟩ |
    ⟨f, stream, _, hStream, _, _, hResult⟩
  all_goals rw [hResult]
  · exact hDrops
  · exact hDrops
  · exact hDrops
  · exact hDrops
  · intro key other hOther
    rw [numbersOf_eq_map_eventsOf, eventsOf_append]
    have hKeyDrops := hDrops key
    rw [numbersOf_eq_map_eventsOf] at hKeyDrops
    simp only [CameraMetrics.append,
      Std.TreeMap.getElem?_insert,
      Std.LawfulEqOrd.compare_eq_iff_eq] at hOther
    by_cases hKey : f.key = key
    · subst hKey
      simp only [if_true, Option.some.injEq, List.map_append,
        List.map_cons, List.map_nil] at hOther ⊢
      intro hAscend
      rw [← hOther]
      exact observe_drops
        (hConsistent.streams_consistent f.key stream hStream)
        (hKeyDrops stream hStream hAscend.of_append.1)
        f hostBoottimeNs hAscend
    · simp only [hKey, if_false, List.append_nil] at hOther ⊢
      exact hKeyDrops other hOther

/- A prepared camera has seen no frame and no drop. -/
theorem Prepared.dropsMatch
    {plan : StoragePlan}
    {keys : List String}
    {metrics : CameraMetrics}
    (hPrepared : Prepared plan keys metrics) :
    DropsMatch metrics := by
  intro key stream hStream _
  rw [hPrepared.streams_eq] at hStream
  rcases hPrepared.fresh with
    ⟨streams, warmupStreams, hFresh⟩
  subst hFresh
  split at hStream
  · rw [← Option.some.inj hStream]
    rfl
  · cases hStream

theorem recordCalls_dropsMatch
    (streamMode : String)
    (plan : StoragePlan)
    (calls : List RecordCall) :
    DropsMatch
      (recordCalls (prepareCameraMetrics {} streamMode plan)
        calls) := by
  have hPrepared :=
    prepareCameraMetrics_prepared streamMode plan
  have hBoth :
      MetricsConsistent plan
          (recordCalls
            (prepareCameraMetrics {} streamMode plan)
              calls) ∧
        DropsMatch
          (recordCalls
            (prepareCameraMetrics {} streamMode plan)
              calls) := by
    induction calls using List.reverseRecOn with
    | nil => exact ⟨hPrepared.consistent, hPrepared.dropsMatch⟩
    | append_singleton calls call ih =>
        unfold recordCalls at ih ⊢
        rw [List.foldl_append, List.foldl_cons,
          List.foldl_nil]
        exact ⟨
          recordMeasuredFrame_consistent ih.1 _ _ _ _,
          recordMeasuredFrame_dropsMatch ih.1 ih.2 _ _ _ _⟩
  exact hBoth.2

------------------------------------------------------------
-- Agreement
------------------------------------------------------------

/- The streams an analysis reports, before finishing. -/
theorem analyzeFreshness_streams
    (metrics : CameraMetrics) :
    (analyzeFreshness metrics).streams =
        (analyzeEvents metrics.events.items).streams.map
          (fun _ working => working.freshness) ∧
      (analyzeFreshness metrics).frames =
        (analyzeEvents metrics.events.items).streams.foldl
          (fun total _ working =>
            total.add working.freshness) {} := by
  unfold analyzeFreshness
  by_cases hHave :
      (analyzeEvents metrics.events.items).haveDelivery
  · simp [hHave]
  · simp [hHave]

/-
  A counter that is added up with wrapping is the wrapped
  total of the counters of the streams.
-/
theorem foldl_add_field
    (value : FrameFreshnessMetrics → Nat)
    (hEmpty : value {} = 0)
    (hAdd :
      ∀ total part : FrameFreshnessMetrics,
        value (total.add part) = u64 (value total + value part))
    (streams : Std.TreeMap String WorkingStream) :
    value (streams.foldl
        (fun total _ working =>
          total.add working.freshness)
        ({} : FrameFreshnessMetrics)) =
      u64 (mapTotal
        (fun working : WorkingStream => value working.freshness)
        streams) := by
  rw [← foldl_u64_eq_mapTotal,
    Std.TreeMap.foldl_eq_foldl_toList,
    Std.TreeMap.foldl_eq_foldl_toList]
  have hFold :
      ∀ (entries : List (String × WorkingStream))
        (total : FrameFreshnessMetrics),
        value (entries.foldl
            (fun total entry =>
              total.add entry.2.freshness)
            total) =
          entries.foldl
            (fun count entry =>
              u64 (count + value entry.2.freshness))
            (value total) := by
    intro entries
    induction entries with
    | nil => exact fun total => rfl
    | cons entry entries ih =>
        intro total
        rw [List.foldl_cons, List.foldl_cons, ih, hAdd]
  rw [hFold, hEmpty]

/-
  The gaps the analysis finds for a key, also where the
  stream was never seen.
-/
theorem analysis_gaps
    (events : List FrameEvent)
    (key : String)
    (hAscend : NumbersAscend (numbersOf key events)) :
    keyWeight
        (fun working : WorkingStream =>
          working.freshness.sequenceGaps)
        (analyzeEvents events).streams key =
      gapSum (numbersOf key events) := by
  unfold keyWeight
  rw [analysis_streams_getElem?]
  split
  · next hNone => simp [hNone]
  · have hNumbers :=
      foldl_observe_frameNumbers {} (numbersOf key events)
    simp only [List.nil_append] at hNumbers
    rw [← hNumbers] at hAscend
    simp only [Option.map_some, Option.getD_some]
    have hWords :
        ∀ number ∈ ((numbersOf key events).foldl
          WorkingStream.observe {}).frameNumbers,
          number < 2 ^ 64 := by
      intro number hNumber
      have hBound := hAscend.2 number hNumber
      omega
    rw [freshness_sequenceGaps hAscend.1 hWords, hNumbers]

/- Events of a key exist only where the stream is known. -/
theorem numbersOf_eq_nil_of_unknown
    {plan : StoragePlan}
    {metrics : CameraMetrics}
    (hConsistent : MetricsConsistent plan metrics)
    {key : String}
    (hUnknown : metrics.streams[key]? = none) :
    numbersOf key metrics.events.items = [] := by
  unfold numbersOf
  rw [List.map_eq_nil_iff, List.filter_eq_nil_iff]
  intro event hEvent hKey
  have hKnown := hConsistent.events_known event hEvent
  rw [Std.TreeMap.mem_iff_isSome_getElem?] at hKnown
  simp [of_decide_eq_true hKey, hUnknown] at hKnown

/-
  For every sequence of recorded frames whose numbers ascend
  in each stream, the drop counter of a stream is the gap
  count of the analysis, and so are the totals.
-/
theorem recordCalls_drops_eq_sequenceGaps
    (streamMode : String)
    (plan : StoragePlan)
    (calls : List RecordCall)
    (hAscend :
      ∀ key, NumbersAscend (numbersOf key
        (recordCalls
          (prepareCameraMetrics {} streamMode plan)
          calls).events.items)) :
    (∀ (key : String) stream,
      (recordCalls (prepareCameraMetrics {} streamMode plan)
          calls).streams[key]? = some stream →
        stream.drops =
          ((analyzeFreshness
            (recordCalls
              (prepareCameraMetrics {} streamMode plan)
              calls)).streams.getD key {}).sequenceGaps) ∧
      totalDrops
          (recordCalls
            (prepareCameraMetrics {} streamMode plan)
            calls) =
        (analyzeFreshness
          (recordCalls
            (prepareCameraMetrics {} streamMode plan)
            calls)).frames.sequenceGaps := by
  have hConsistent :=
    (recordCalls_consistent streamMode plan calls).1
  have hDrops := recordCalls_dropsMatch streamMode plan calls
  generalize
    recordCalls (prepareCameraMetrics {} streamMode plan)
      calls = metrics at *
  rcases analyzeFreshness_streams metrics with
    ⟨hStreams, hFrames⟩
  constructor
  · intro key stream hStream
    rw [hDrops key stream hStream (hAscend key),
      ← analysis_gaps _ key (hAscend key), hStreams,
      Std.TreeMap.getD_eq_getD_getElem?,
      Std.TreeMap.getElem?_map]
    unfold keyWeight
    cases (analyzeEvents
      metrics.events.items).streams[key]? with
    | none => rfl
    | some working => rfl
  · rw [hFrames,
      foldl_add_field FrameFreshnessMetrics.sequenceGaps rfl
        (fun _ _ => rfl)]
    unfold totalDrops
    rw [foldl_u64_eq_mapTotal]
    congr 1
    apply mapTotal_congr
    intro key
    rw [analysis_gaps _ key (hAscend key)]
    unfold keyWeight
    cases hStream : metrics.streams[key]? with
    | none =>
        have hNone :=
          numbersOf_eq_nil_of_unknown hConsistent hStream
        simp [hNone]
    | some stream =>
        simp [hDrops key stream hStream (hAscend key)]

/- Three depth frames with a repeat and a gap of three. -/
def gapCalls : List RecordCall :=
  [⟨some (depthFrame 5), 10, 10, 1⟩,
    ⟨some (depthFrame 5), 20, 20, 2⟩,
    ⟨some (depthFrame 9), 30, 30, 3⟩]

theorem gapCalls_drops_eq_sequenceGaps :
    totalDrops
        (recordCalls
          (prepareCameraMetrics {} "depth" ⟨4, 4, 4⟩)
          gapCalls) = 3 ∧
      (analyzeFreshness
        (recordCalls
          (prepareCameraMetrics {} "depth" ⟨4, 4, 4⟩)
          gapCalls)).frames.sequenceGaps = 3 := by
  have hItems :
      (recordCalls
        (prepareCameraMetrics {} "depth" ⟨4, 4, 4⟩)
        gapCalls).events.items =
      [(depthFrame 5).event 10 10 1,
        (depthFrame 5).event 20 20 2,
        (depthFrame 9).event 30 30 3] := by
    decide +kernel
  have hTotal :
      totalDrops
        (recordCalls
          (prepareCameraMetrics {} "depth" ⟨4, 4, 4⟩)
          gapCalls) = 3 := by
    decide +kernel
  have hAgree :=
    recordCalls_drops_eq_sequenceGaps "depth" ⟨4, 4, 4⟩
      gapCalls (by
        intro key
        rw [hItems]
        by_cases hKey : "Depth#0" = key
        · subst hKey
          decide +kernel
        · simp [numbersOf, hKey, NumbersAscend])
  exact ⟨hTotal, hAgree.2 ▸ hTotal⟩

end Steady

end RsCamera
