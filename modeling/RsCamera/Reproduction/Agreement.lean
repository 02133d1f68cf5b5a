import RsCamera.Reproduction.FrameTable
import RsCamera.Steady.Deliveries

/-
  The recounts of a written table agree with each other and
  with the analysis that the probe makes itself.

  All of them are related to one tally of the rows.  Each
  pass is followed by what its dictionaries and counters say
  about the rows before; the probe's own analysis is the
  same tally, camera by camera.

  Key definitions include:
    * `tableSighting`, `taggedEvents`
    * `ProblemTracks`, `ReconstructionTracks`

  Key theorems include:
    * `framesetProblemCounts_writeEvents`
    * `reconstruct_writeEvents`
    * `recounts_agree`
-/

------------------------------------------------------------
-- The Table As Sightings
------------------------------------------------------------

namespace RsCamera

namespace Reproduction

section

open Steady

/- A stream of a camera, and a delivery of a camera. -/
abbrev TableStream := Nat × Rs2Stream × Int
abbrev TableDelivery := Nat × Nat

/- The sighting that a row of the table reports. -/
def tableSighting
    (row : Nat × FrameEvent) :
    Sighting TableStream TableDelivery where
  stream := (row.1, row.2.stream, row.2.streamIndex)
  delivery := (row.1, row.2.delivery)
  number := row.2.frameNumber

/- The events of the cameras with the index of the camera. -/
def taggedFrom :
    Nat → List CameraMetrics → List (Nat × FrameEvent)
| _, [] => []
| index, metrics :: cameras =>
    metrics.events.items.map (fun event => (index, event)) ++
      taggedFrom (index + 1) cameras

def taggedEvents
    (cameras : List CameraMetrics) : List (Nat × FrameEvent) :=
  taggedFrom 0 cameras

/- What the rows of a table report, in order. -/
def tableSightings
    (cameras : List CameraMetrics) :
    List (Sighting TableStream TableDelivery) :=
  (taggedEvents cameras).map tableSighting

theorem writeEvents_eq_map
    (cameras : List CameraMetrics) :
    writeEvents cameras =
      (taggedEvents cameras).map
        (fun row => eventRow row.1 row.2) := by
  have hFrom :
      ∀ index,
        writeEventsFrom index cameras =
          (taggedFrom index cameras).map
            (fun row => eventRow row.1 row.2) := by
    induction cameras with
    | nil => exact fun index => rfl
    | cons metrics cameras ih =>
        intro index
        rw [writeEventsFrom, taggedFrom, List.map_append,
          List.map_map, ih]
        rfl
  exact hFrom 0

variable {cameras : List CameraMetrics}

theorem le_of_mem_taggedFrom
    {index : Nat}
    {row : Nat × FrameEvent}
    (hRow : row ∈ taggedFrom index cameras) :
    index ≤ row.1 := by
  induction cameras generalizing index with
  | nil => cases hRow
  | cons metrics cameras ih =>
      rw [taggedFrom, List.mem_append, List.mem_map] at hRow
      rcases hRow with ⟨event, _, hEq⟩ | hRest
      · rw [← hEq]
      · exact Nat.le_of_succ_le (ih hRest)

/-
  A relation of the rows follows from one between the events
  of each camera and one between different cameras.
-/
theorem pairwise_taggedFrom
    {r : Nat × FrameEvent → Nat × FrameEvent → Prop}
    (hOwn :
      ∀ metrics ∈ cameras, ∀ index,
        metrics.events.items.Pairwise (fun first second =>
          r (index, first) (index, second)))
    (hOther :
      ∀ first second : Nat × FrameEvent,
        first.1 < second.1 → r first second)
    (index : Nat) :
    (taggedFrom index cameras).Pairwise r := by
  induction cameras generalizing index with
  | nil => exact List.Pairwise.nil
  | cons metrics cameras ih =>
      rw [taggedFrom, List.pairwise_append, List.pairwise_map]
      refine ⟨hOwn metrics (by simp) index, ?_, ?_⟩
      · exact ih (fun other hMember =>
          hOwn other (List.mem_cons_of_mem _ hMember))
          (index + 1)
      · intro first hFirst second hSecond
        apply hOther
        rcases List.mem_map.mp hFirst with ⟨event, _, hEq⟩
        rw [← hEq]
        exact le_of_mem_taggedFrom hSecond

/- The order of the deliveries in a table. -/
def deliveryOrder (first second : TableDelivery) : Prop :=
  first.1 < second.1 ∨
    first.1 = second.1 ∧ first.2 ≤ second.2

theorem deliveryOrder_antisymm
    (first second : TableDelivery)
    (hLeft : deliveryOrder first second)
    (hRight : deliveryOrder second first) :
    first = second := by
  unfold deliveryOrder at hLeft hRight
  apply Prod.ext <;> omega

theorem taggedEvents_sorted
    (hOrdered :
      ∀ metrics ∈ cameras,
        EventsOrdered metrics.events.items) :
    (taggedEvents cameras).Pairwise (fun first second =>
      deliveryOrder (tableSighting first).delivery
        (tableSighting second).delivery) := by
  apply pairwise_taggedFrom
  · intro metrics hMetrics index
    apply (hOrdered metrics hMetrics).deliveries.imp
    intro first second hLe
    exact Or.inr ⟨rfl, hLe⟩
  · intro first second hLt
    exact Or.inl hLt

/- The numbers of a stream ascend through the table. -/
theorem tableSightings_ascending
    (hOrdered :
      ∀ metrics ∈ cameras,
        EventsOrdered metrics.events.items) :
    (tableSightings cameras).Pairwise (fun first second =>
      first.stream = second.stream →
        first.number ≤ second.number) := by
  unfold tableSightings
  rw [List.pairwise_map]
  apply pairwise_taggedFrom
  · intro metrics hMetrics index
    apply (hOrdered metrics hMetrics).ascending.imp
    intro first second hAscending hStream
    exact hAscending (Prod.mk.inj hStream).2
  · intro first second hLt hStream
    have hCamera : first.1 = second.1 :=
      (Prod.mk.inj hStream).1
    omega

end

------------------------------------------------------------
-- Problem Counts
------------------------------------------------------------

section

open Steady

/- The keys under which the pass knows streams and deliveries. -/
def problemStream (stream : TableStream) : Int × String × Int :=
  (stream.1, rs2StreamToString stream.2.1, stream.2.2)

def problemDelivery (delivery : TableDelivery) : Int × Int :=
  (delivery.1, delivery.2)

theorem problemStream_injective :
    Function.Injective problemStream := by
  rintro ⟨camera, stream, index⟩ ⟨camera', stream', index'⟩ hEq
  simp only [problemStream, Prod.mk.injEq] at hEq ⊢
  exact ⟨by exact_mod_cast hEq.1,
    rs2StreamToString_injective hEq.2.1, hEq.2.2⟩

theorem problemDelivery_injective :
    Function.Injective problemDelivery := by
  rintro ⟨camera, delivery⟩ ⟨camera', delivery'⟩ hEq
  simp only [problemDelivery, Prod.mk.injEq] at hEq ⊢
  exact_mod_cast hEq

/- What the pass knows after some rows. -/
structure ProblemTracks
    (state : ProblemState)
    (seen : List (Sighting TableStream TableDelivery)) :
    Prop where
  highest :
    ∀ stream,
      state.highest.get? (problemStream stream) =
        (lastNumber seen stream).map Nat.cast
  deliveries :
    state.deliveries =
      (tally remembered seen).deliveries.image problemDelivery
  stale :
    state.stale =
      (tally remembered seen).stale.image problemDelivery
  gaps :
    state.gaps =
      (tally remembered seen).gapped.image problemDelivery

theorem ProblemTracks.observe
    {state : ProblemState}
    {seen : List (Sighting TableStream TableDelivery)}
    (hTracks : ProblemTracks state seen)
    {sighting : Sighting TableStream TableDelivery}
    (hAscending :
      ∀ last, lastNumber seen sighting.stream = some last →
        last ≤ sighting.number) :
    ProblemTracks
      (state.observe (problemDelivery sighting.delivery)
        (problemStream sighting.stream) sighting.number)
      (seen ++ [sighting]) where
  highest := by
    intro stream
    unfold ProblemState.observe
    simp only [Dict.get?_set, problemStream_injective.eq_iff]
    rw [lastNumber_append_singleton]
    by_cases hSame : stream = sighting.stream
    · subst hSame
      simp only [if_true, Option.map_some]
      unfold Dict.getD
      rw [hTracks.highest]
      cases hLast : lastNumber seen sighting.stream with
      | none => simp
      | some last =>
          have hLe := hAscending last hLast
          simp only [Option.map_some, Option.getD_some]
          rw [max_eq_right (by exact_mod_cast hLe)]
    · simp only [hSame, Ne.symm hSame, if_false]
      exact hTracks.highest stream
  deliveries := by
    rw [tally_append_singleton]
    unfold ProblemState.observe Tally.observe
    simp only [Finset.image_insert, hTracks.deliveries]
  stale := by
    rw [tally_append_singleton]
    have hHighest :
        state.highest.get? (problemStream sighting.stream) =
          (remembered seen sighting).map Nat.cast :=
      hTracks.highest sighting.stream
    unfold ProblemState.observe Tally.observe
    simp only [hHighest, hTracks.stale]
    cases remembered seen sighting with
    | none => simp
    | some last =>
        simp only [Option.map_some, isRepeat_some,
          decide_eq_true_eq, Int.ofNat_le]
        split
        · rw [Finset.image_insert]
        · rfl
  gaps := by
    rw [tally_append_singleton]
    have hHighest :
        state.highest.get? (problemStream sighting.stream) =
          (remembered seen sighting).map Nat.cast :=
      hTracks.highest sighting.stream
    unfold ProblemState.observe Tally.observe
    simp only [hHighest, hTracks.gaps]
    cases remembered seen sighting with
    | none => simp
    | some last =>
        simp only [Option.map_some, Int.ofNat_le]
        by_cases hGap : last + 1 < sighting.number
        · have hCast :
              (last : Int) + 1 < (sighting.number : Int) := by
            exact_mod_cast hGap
          rw [if_neg (by omega), if_pos hCast,
            if_pos (missedSince_pos_iff.mpr hGap),
            Finset.image_insert]
        · have hCast :
              ¬ (last : Int) + 1 < (sighting.number : Int) := by
            exact_mod_cast hGap
          rw [if_neg hCast, ite_self,
            if_neg (fun hSome =>
              hGap (missedSince_pos_iff.mp hSome))]

/- The pass over a table follows its rows. -/
theorem foldl_problemTracks
    {rows : List (Nat × FrameEvent)}
    (hAscending :
      (rows.map tableSighting).Pairwise (fun first second =>
        first.stream = second.stream →
          first.number ≤ second.number)) :
    ProblemTracks
      (rows.foldl
        (fun state row =>
          state.observe
            (problemDelivery (tableSighting row).delivery)
            (problemStream (tableSighting row).stream)
            (tableSighting row).number) {})
      (rows.map tableSighting) := by
  induction rows using List.reverseRecOn with
  | nil =>
      refine ⟨?_, rfl, rfl, rfl⟩
      intro stream
      rfl
  | append_singleton rows row ih =>
      rw [List.map_append, List.pairwise_append] at hAscending
      rw [List.foldl_append, List.foldl_cons, List.foldl_nil,
        List.map_append, List.map_singleton]
      apply (ih hAscending.1).observe
      intro last hLast
      rcases exists_of_lastNumber hLast with
        ⟨earlier, hEarlier, hStream, hNumber⟩
      rw [← hNumber]
      exact hAscending.2.2 earlier hEarlier _ (by simp) hStream

theorem framesetProblemCounts_writeEvents
    {cameras : List CameraMetrics}
    (hOrdered :
      ∀ metrics ∈ cameras,
        EventsOrdered metrics.events.items) :
    framesetProblemCounts (writeEvents cameras) =
      .ok {
        deliveredFramesets :=
          (tally remembered
            (tableSightings cameras)).deliveries.card
        framesetsWithStaleStreams :=
          (tally remembered
            (tableSightings cameras)).stale.card
        framesetsWithGaps :=
          (tally remembered
            (tableSightings cameras)).gapped.card
        problematicFramesets :=
          ((tally remembered (tableSightings cameras)).stale ∪
            (tally remembered
              (tableSightings cameras)).gapped).card } := by
  have hTracks :=
    foldl_problemTracks (tableSightings_ascending hOrdered)
  have hStep :
      ∀ (state : ProblemState) (row : Nat × FrameEvent),
        problemStep state (eventRow row.1 row.2) =
          .ok (state.observe
            (problemDelivery (tableSighting row).delivery)
            (problemStream (tableSighting row).stream)
            (tableSighting row).number) := by
    intro state row
    unfold problemStep eventRow
    simp only [pyInt_natCast, pyInt_toString, bind,
      Except.bind]
    rfl
  unfold framesetProblemCounts
  rw [writeEvents_eq_map, foldlM_map_ok hStep]
  simp only [bind, Except.bind]
  rw [hTracks.deliveries, hTracks.stale, hTracks.gaps,
    ← Finset.image_union,
    Finset.card_image_of_injective _ problemDelivery_injective,
    Finset.card_image_of_injective _ problemDelivery_injective,
    Finset.card_image_of_injective _ problemDelivery_injective,
    Finset.card_image_of_injective _ problemDelivery_injective]
  rfl

end

------------------------------------------------------------
-- Reconstructed Freshness
------------------------------------------------------------

section

open Steady

/- The texts under which the pass knows streams. -/
def reconstructStream
    (stream : TableStream) : String × String × String :=
  (toString stream.1, rs2StreamToString stream.2.1,
    toString stream.2.2)

def reconstructKey (delivery : TableDelivery) : String × String :=
  (toString delivery.1, toString delivery.2)

theorem reconstructStream_injective :
    Function.Injective reconstructStream := by
  rintro ⟨camera, stream, index⟩ ⟨camera', stream', index'⟩ hEq
  simp only [reconstructStream, Prod.mk.injEq] at hEq ⊢
  exact ⟨toString_nat_injective hEq.1,
    rs2StreamToString_injective hEq.2.1,
    toString_int_injective hEq.2.2⟩

theorem reconstructKey_injective :
    Function.Injective reconstructKey := by
  rintro ⟨camera, delivery⟩ ⟨camera', delivery'⟩ hEq
  simp only [reconstructKey, Prod.mk.injEq] at hEq ⊢
  exact ⟨toString_nat_injective hEq.1,
    toString_nat_injective hEq.2⟩

/- What the pass knows after some deliveries. -/
structure ReconstructionTracks
    (counters : Reconstruction)
    (seen : List (Sighting TableStream TableDelivery)) :
    Prop where
  previous :
    ∀ stream,
      counters.previous.get? (reconstructStream stream) =
        (lastNumber seen stream).map Nat.cast
  problem :
    counters.problem =
      ((tally remembered seen).stale ∪
        (tally remembered seen).gapped).card
  stale :
    counters.stale = (tally remembered seen).stale.card
  gapBearing :
    counters.gapBearing =
      (tally remembered seen).gapped.card
  repeats :
    counters.duplicateComponents =
      (tally remembered seen).repeats
  missing :
    counters.sequenceGaps =
      ((tally remembered seen).missing : Int)

/- What the pass knows amid the rows of a delivery. -/
structure ScanTracks
    (start : Reconstruction)
    (before : List (Sighting TableStream TableDelivery))
    (delivery : TableDelivery)
    (scan : DeliveryScan)
    (rows : List (Sighting TableStream TableDelivery)) :
    Prop where
  previous :
    ∀ stream,
      scan.counters.previous.get? (reconstructStream stream) =
        (lastNumber (before ++ rows) stream).map Nat.cast
  problem : scan.counters.problem = start.problem
  stale : scan.counters.stale = start.stale
  gapBearing : scan.counters.gapBearing = start.gapBearing
  counts :
    InDelivery remembered before delivery rows scan.anyStale
      scan.anyGap scan.counters.duplicateComponents
      scan.counters.sequenceGaps

/- The dictionary after a row holds its number. -/
theorem get?_set_reconstructStream
    {previous : Dict (String × String × String) Int}
    {seen : List (Sighting TableStream TableDelivery)}
    (hPrevious :
      ∀ stream,
        previous.get? (reconstructStream stream) =
          (lastNumber seen stream).map Nat.cast)
    (sighting : Sighting TableStream TableDelivery)
    (stream : TableStream) :
    (previous.set (reconstructStream sighting.stream)
        (sighting.number : Int)).get?
          (reconstructStream stream) =
      (lastNumber (seen ++ [sighting]) stream).map
        Nat.cast := by
  simp only [Dict.get?_set, reconstructStream_injective.eq_iff]
  rw [lastNumber_append_singleton]
  by_cases hSame : stream = sighting.stream
  · subst hSame
    simp
  · simp only [hSame, Ne.symm hSame, if_false]
    exact hPrevious stream

variable {scan : DeliveryScan}
variable {start : Reconstruction}
variable {delivery : TableDelivery}

/- A row is compared with the number remembered for it. -/
theorem DeliveryScan.observe_eq
    {stream : String × String × String}
    {prior : Option Nat}
    (hPrior :
      scan.counters.previous.get? stream =
        prior.map Nat.cast)
    (number : Nat) :
    scan.observe stream number =
      { counters := {
          scan.counters with
          previous := scan.counters.previous.set stream number
          duplicateComponents :=
            scan.counters.duplicateComponents +
              (if isRepeat prior number then 1 else 0)
          sequenceGaps :=
            scan.counters.sequenceGaps +
              (missedSince prior number : Int) }
        anyStale := scan.anyStale || isRepeat prior number
        anyGap :=
          scan.anyGap ||
            decide (0 < missedSince prior number) } := by
  unfold DeliveryScan.observe
  rw [hPrior]
  cases prior with
  | none => simp
  | some last =>
      simp only [Option.map_some, Int.ofNat_le, isRepeat_some,
        decide_eq_true_eq, missedSince_pos_iff]
      by_cases hRepeat : number ≤ last
      · have hNone : missedSince (some last) number = 0 := by
          rw [missedSince_some]
          omega
        simp [hRepeat, hNone, Nat.not_lt.mpr (by omega :
          number ≤ last + 1)]
      · by_cases hGap : last + 1 < number
        · have hCast : (last : Int) + 1 < (number : Int) := by
            exact_mod_cast hGap
          simp only [hRepeat, hGap, hCast, missedSince_some,
            if_true, if_false, decide_false, decide_true,
            Bool.or_false, Bool.or_true, Nat.add_zero]
          congr 2
          omega
        · have hCast :
              ¬ (last : Int) + 1 < (number : Int) := by
            exact_mod_cast hGap
          have hNone : missedSince (some last) number = 0 := by
            rw [missedSince_some]
            omega
          simp [hRepeat, hGap, hCast, hNone]

theorem ScanTracks.observe
    {before rows : List (Sighting TableStream TableDelivery)}
    (hTracks : ScanTracks start before delivery scan rows)
    {sighting : Sighting TableStream TableDelivery}
    (hDelivery : sighting.delivery = delivery) :
    ScanTracks start before delivery
      (scan.observe (reconstructStream sighting.stream)
        sighting.number)
      (rows ++ [sighting]) := by
  have hPrior :
      scan.counters.previous.get?
          (reconstructStream sighting.stream) =
        (remembered (before ++ rows) sighting).map Nat.cast :=
    hTracks.previous sighting.stream
  rw [DeliveryScan.observe_eq hPrior]
  constructor
  · intro stream
    rw [← List.append_assoc]
    exact get?_set_reconstructStream hTracks.previous sighting
      stream
  · exact hTracks.problem
  · exact hTracks.stale
  · exact hTracks.gapBearing
  · exact hTracks.counts.observe hDelivery rfl

/- The rows of one delivery are followed to their end. -/
theorem foldlM_scanTracks
    {before : List (Sighting TableStream TableDelivery)}
    {camera : String}
    {done : List (Sighting TableStream TableDelivery)}
    (hTracks : ScanTracks start before delivery scan done)
    {rows : List (Nat × FrameEvent)}
    (hRows :
      ∀ row ∈ rows,
        (tableSighting row).delivery = delivery ∧
          toString row.1 = camera) :
    ∃ last,
      (rows.map (fun row => eventRow row.1 row.2)).foldlM
          (scanStep camera) scan = .ok last ∧
        ScanTracks start before delivery last
          (done ++ rows.map tableSighting) := by
  induction rows generalizing scan done with
  | nil =>
      refine ⟨scan, rfl, ?_⟩
      rw [List.map_nil, List.append_nil]
      exact hTracks
  | cons row rows ih =>
      rcases hRows row (by simp) with ⟨hDelivery, hCamera⟩
      have hStep :
          scanStep camera scan (eventRow row.1 row.2) =
            .ok (scan.observe
              (reconstructStream (tableSighting row).stream)
              (tableSighting row).number) := by
        unfold scanStep eventRow
        simp only [pyInt_natCast, bind, Except.bind]
        rw [← hCamera]
        rfl
      rcases ih (hTracks.observe hDelivery)
        (fun other hOther =>
          hRows other (List.mem_cons_of_mem _ hOther)) with
        ⟨last, hLast, hEnd⟩
      refine ⟨last, ?_, ?_⟩
      · rw [List.map_cons, List.foldlM_cons, hStep]
        exact hLast
      · rw [List.map_cons]
        simpa using hEnd

/- Counting a delivery that had not been seen. -/
theorem ScanTracks.finish
    {before rows : List (Sighting TableStream TableDelivery)}
    (hStart : ReconstructionTracks start before)
    (hNew : delivery ∉ (tally remembered before).deliveries)
    (hTracks : ScanTracks start before delivery scan rows) :
    ReconstructionTracks scan.finish (before ++ rows) := by
  rcases hTracks.counts.card_eq hNew with
    ⟨hStale, hGapped, hProblem⟩
  unfold DeliveryScan.finish
  constructor
  · exact hTracks.previous
  · rw [hProblem, ← hStart.problem, ← hTracks.problem]
    cases scan.anyStale || scan.anyGap <;> rfl
  · rw [hStale, ← hStart.stale, ← hTracks.stale]
    cases scan.anyStale <;> rfl
  · rw [hGapped, ← hStart.gapBearing, ← hTracks.gapBearing]
    cases scan.anyGap <;> rfl
  · exact hTracks.counts.repeats_eq
  · exact hTracks.counts.missing_eq

/- The deliveries of a table are followed one by one. -/
theorem foldlM_reconstructionTracks
    {counters : Reconstruction}
    {before : List (Sighting TableStream TableDelivery)}
    (hTracks : ReconstructionTracks counters before)
    {items :
      List ((String × String) × List (Nat × FrameEvent))}
    (hRows :
      ∀ item ∈ items, ∀ row ∈ item.2,
        reconstructKey (tableSighting row).delivery = item.1)
    (hNonempty : ∀ item ∈ items, item.2 ≠ [])
    (hKeys : (items.map Prod.fst).Nodup)
    (hNew :
      ∀ item ∈ items,
        ∀ delivery ∈ (tally remembered before).deliveries,
          reconstructKey delivery ≠ item.1) :
    ∃ last,
      (items.map (fun item =>
          (item.1, item.2.map (fun row =>
            eventRow row.1 row.2)))).foldlM
          reconstructDelivery counters = .ok last ∧
        ReconstructionTracks last
          (before ++
            (items.flatMap Prod.snd).map tableSighting) := by
  induction items generalizing counters before with
  | nil =>
      refine ⟨counters, rfl, ?_⟩
      rw [List.flatMap_nil, List.map_nil, List.append_nil]
      exact hTracks
  | cons item items ih =>
      rcases List.exists_mem_of_ne_nil _
        (hNonempty item (by simp)) with ⟨first, hFirst⟩
      have hKey := hRows item (by simp)
      have hSame :
          ∀ row ∈ item.2,
            (tableSighting row).delivery =
                (tableSighting first).delivery ∧
              toString row.1 = item.1.1 := by
        intro row hRow
        constructor
        · apply reconstructKey_injective
          rw [hKey row hRow, hKey first hFirst]
        · rw [← hKey row hRow]
          rfl
      have hFresh :
          (tableSighting first).delivery ∉
            (tally remembered before).deliveries :=
        fun hMember =>
          hNew item (by simp) _ hMember (hKey first hFirst)
      have hOpen :
          ScanTracks counters before
            (tableSighting first).delivery
            { counters := counters } [] := by
        constructor
        · rw [List.append_nil]
          exact hTracks.previous
        · rfl
        · rfl
        · rfl
        · simp only [hTracks.repeats, hTracks.missing]
          exact inDelivery_nil before _
      rcases foldlM_scanTracks hOpen hSame with
        ⟨scan, hScan, hEnd⟩
      rw [List.nil_append] at hEnd
      have hCounted := hEnd.finish hTracks hFresh
      rw [List.map_cons, List.nodup_cons] at hKeys
      rcases ih hCounted
        (fun other hOther =>
          hRows other (List.mem_cons_of_mem _ hOther))
        (fun other hOther =>
          hNonempty other (List.mem_cons_of_mem _ hOther))
        hKeys.2
        (by
          intro other hOther delivery hDelivery hEq
          rw [tally_deliveries, List.map_append,
            List.toFinset_append, Finset.mem_union] at hDelivery
          rcases hDelivery with hOld | hOwn
          · rw [← tally_deliveries remembered] at hOld
            exact hNew other
              (List.mem_cons_of_mem _ hOther) delivery hOld hEq
          · rw [List.mem_toFinset, List.map_map,
              List.mem_map] at hOwn
            rcases hOwn with ⟨row, hRow, hRowEq⟩
            apply hKeys.1
            rw [← hKey row hRow]
            have hDeliveryEq :
                (tableSighting row).delivery = delivery :=
              hRowEq
            rw [hDeliveryEq, hEq]
            exact List.mem_map_of_mem hOther) with
        ⟨last, hLast, hTracksLast⟩
      refine ⟨last, ?_, ?_⟩
      · rw [List.map_cons, List.foldlM_cons]
        unfold reconstructDelivery
        simp only [hScan, bind, Except.bind]
        exact hLast
      · rw [List.flatMap_cons, List.map_append,
          ← List.append_assoc]
        exact hTracksLast

/- The pass over a table follows all its rows. -/
theorem reconstruct_writeEvents
    {cameras : List CameraMetrics}
    (hOrdered :
      ∀ metrics ∈ cameras,
        EventsOrdered metrics.events.items) :
    ∃ counters,
      reconstruct (writeEvents cameras) = .ok counters ∧
        ReconstructionTracks counters
          (tableSightings cameras) := by
  have hContiguous :=
    contiguous_of_sorted deliveryOrder_antisymm
      reconstructKey_injective (taggedEvents_sorted hOrdered)
  have hGroups := groupLists_of_contiguous hContiguous
  have hEmpty : ReconstructionTracks {} [] := by
    refine ⟨?_, rfl, rfl, rfl, rfl, rfl⟩
    intro stream
    rfl
  rcases foldlM_reconstructionTracks hEmpty
    (fun item hItem row hRow =>
      hGroups.same_key item hItem row hRow)
    hGroups.nonempty
    (groupLists
      (fun row => reconstructKey (tableSighting row).delivery)
      (taggedEvents cameras)).nodup
    (by
      intro item _ delivery hDelivery
      exact absurd hDelivery (Finset.notMem_empty _)) with
    ⟨counters, hRun, hTracks⟩
  refine ⟨counters, ?_, ?_⟩
  · unfold reconstruct
    rw [writeEvents_eq_map, groupLists_map]
    exact hRun
  · rw [List.nil_append, hGroups.flatten] at hTracks
    exact hTracks

end

------------------------------------------------------------
-- Agreement
------------------------------------------------------------

open Steady

/- A camera's sightings, with the index of the camera. -/
theorem map_tableSighting_camera
    (index : Nat)
    (events : List FrameEvent) :
    (events.map (fun event => (index, event))).map
        tableSighting =
      (events.map FrameEvent.sighting).map
        (Sighting.rename (fun stream => (index, stream))
          (fun delivery => (index, delivery))) := by
  rw [List.map_map, List.map_map]
  rfl

/- The first camera shares no stream with the later ones. -/
theorem tally_taggedFrom_cons
    (index : Nat)
    (metrics : CameraMetrics)
    (cameras : List CameraMetrics) :
    tally remembered
        ((taggedFrom index (metrics :: cameras)).map
          tableSighting) =
      ((tally remembered
        (metrics.events.items.map
          FrameEvent.sighting)).rename
          (fun delivery => (index, delivery))).join
        (tally remembered
          ((taggedFrom (index + 1) cameras).map
            tableSighting)) := by
  have hNames :
      Function.Injective
        (fun stream : Rs2Stream × Int => (index, stream)) :=
    fun _ _ hEq => (Prod.mk.inj hEq).2
  rw [taggedFrom, List.map_append, tally_append_of_disjoint,
    map_tableSighting_camera, tally_rename hNames]
  intro sighting hSighting other hOther hStream
  rcases List.mem_map.mp hSighting with ⟨row, hRow, hRowEq⟩
  rcases List.mem_map.mp hRow with ⟨event, _, hEvent⟩
  rcases List.mem_map.mp hOther with ⟨row', hRow', hRowEq'⟩
  have hLater := le_of_mem_taggedFrom hRow'
  rw [← hRowEq, ← hRowEq', ← hEvent] at hStream
  have hCamera : index = row'.1 := (Prod.mk.inj hStream).1
  omega

/- Nor a delivery. -/
theorem disjoint_image_index
    {index : Nat}
    {later : Finset (Nat × Nat)}
    (hLater : ∀ delivery ∈ later, index + 1 ≤ delivery.1)
    (own : Finset Nat) :
    Disjoint (own.image (fun delivery => (index, delivery)))
      later := by
  rw [Finset.disjoint_left]
  intro delivery hOwn hIn
  rcases Finset.mem_image.mp hOwn with ⟨id, _, hEq⟩
  have hLe := hLater delivery hIn
  rw [← hEq] at hLe
  exact absurd hLe (Nat.not_succ_le_self index)

/-
  The tally of a table is made of the tallies of its cameras:
  no two cameras share a stream or a delivery.
-/
theorem tally_taggedFrom
    (index : Nat)
    (cameras : List CameraMetrics) :
    let total :=
      tally remembered
        ((taggedFrom index cameras).map tableSighting)
    let parts :=
      cameras.map (fun metrics =>
        tally remembered
          (metrics.events.items.map FrameEvent.sighting))
    total.deliveries.card =
        (parts.map (fun part => part.deliveries.card)).sum ∧
      total.stale.card =
        (parts.map (fun part => part.stale.card)).sum ∧
      total.repeats = (parts.map Tally.repeats).sum ∧
      total.missing = (parts.map Tally.missing).sum ∧
      ∀ delivery ∈ total.deliveries, index ≤ delivery.1 := by
  induction cameras generalizing index with
  | nil =>
      refine ⟨rfl, rfl, rfl, rfl, ?_⟩
      intro delivery hDelivery
      exact absurd hDelivery (Finset.notMem_empty _)
  | cons metrics cameras ih =>
      rcases ih (index + 1) with
        ⟨hDeliveries, hStale, hRepeats, hMissing, hIndex⟩
      have hTags :
          Function.Injective
            (fun delivery : Nat => (index, delivery)) :=
        fun _ _ hEq => (Prod.mk.inj hEq).2
      have hApart := disjoint_image_index hIndex
      have hSubset :=
        Finset.subset_union_left.trans
          (tally_subset_deliveries remembered
            ((taggedFrom (index + 1) cameras).map
              tableSighting))
      simp only [tally_taggedFrom_cons, Tally.join, Tally.rename,
        List.map_cons, List.sum_cons]
      refine ⟨?_, ?_, ?_, ?_, ?_⟩
      · rw [Finset.card_union_of_disjoint (hApart _),
          Finset.card_image_of_injective _ hTags, hDeliveries]
      · rw [Finset.card_union_of_disjoint
            ((hApart _).mono_right hSubset),
          Finset.card_image_of_injective _ hTags, hStale]
      · rw [hRepeats]
      · rw [hMissing]
      · intro delivery hDelivery
        rcases Finset.mem_union.mp hDelivery with
          hOwn | hLater
        · rcases Finset.mem_image.mp hOwn with ⟨id, _, hEq⟩
          rw [← hEq]
        · exact Nat.le_of_succ_le (hIndex delivery hLater)

/- The framesets the probe classified, and the stale ones. -/
def classifiedFramesets (metrics : CameraMetrics) : Nat :=
  (analyzeFreshness metrics).deliveries.fullyFreshFramesets +
    (analyzeFreshness
      metrics).deliveries.partiallyStaleFramesets +
    (analyzeFreshness metrics).deliveries.staleFramesets

def staleFramesets (metrics : CameraMetrics) : Nat :=
  (analyzeFreshness
      metrics).deliveries.partiallyStaleFramesets +
    (analyzeFreshness metrics).deliveries.staleFramesets

/- The duplicates and gaps the probe found in all streams. -/
def duplicateFrames (metrics : CameraMetrics) : Nat :=
  mapTotal FrameFreshnessMetrics.duplicateFrames
    (analyzeFreshness metrics).streams

def sequenceGaps (metrics : CameraMetrics) : Nat :=
  mapTotal FrameFreshnessMetrics.sequenceGaps
    (analyzeFreshness metrics).streams

/- The probe's own counters, summed over the cameras. -/
theorem analyzeFreshness_totals
    {cameras : List CameraMetrics}
    (hOrdered :
      ∀ metrics ∈ cameras,
        EventsOrdered metrics.events.items) :
    let total := tally remembered (tableSightings cameras)
    total.deliveries.card =
        (cameras.map classifiedFramesets).sum ∧
      total.stale.card = (cameras.map staleFramesets).sum ∧
      total.repeats = (cameras.map duplicateFrames).sum ∧
      total.missing = (cameras.map sequenceGaps).sum := by
  rcases tally_taggedFrom 0 cameras with
    ⟨hDeliveries, hStale, hRepeats, hMissing, _⟩
  have hCounts :=
    fun metrics hMember =>
      analyzeFreshness_deliveries (hOrdered metrics hMember)
  simp only [List.map_map] at *
  refine ⟨hDeliveries.trans ?_, hStale.trans ?_,
    hRepeats.trans ?_, hMissing.trans ?_⟩
  · apply congrArg List.sum
    apply List.map_congr_left
    intro metrics hMember
    exact (hCounts metrics hMember).1.symm
  · apply congrArg List.sum
    apply List.map_congr_left
    intro metrics hMember
    exact (hCounts metrics hMember).2.symm
  · apply congrArg List.sum
    apply List.map_congr_left
    intro metrics hMember
    exact (analyzeFreshness_duplicates
      (hOrdered metrics hMember)).symm
  · apply congrArg List.sum
    apply List.map_congr_left
    intro metrics hMember
    exact (analyzeFreshness_gaps
      (hOrdered metrics hMember)).symm

/-
  All recounts of a written table succeed and agree: with
  the probe on the framesets and the stale ones, with each
  other on the problematic framesets, and with the probe on
  the duplicates and gaps of all cameras and streams.
-/
theorem recounts_agree
    (cameras : List CameraMetrics)
    (hOrdered :
      ∀ metrics ∈ cameras,
        EventsOrdered metrics.events.items) :
    ∃ counts e4 p1,
      framesetProblemCounts (writeEvents cameras) =
          .ok counts ∧
        E4.reconstructFreshness (writeEvents cameras) =
          .ok e4 ∧
        P1.reconstructFreshness (writeEvents cameras) =
          .ok p1 ∧
        counts.deliveredFramesets =
          (cameras.map classifiedFramesets).sum ∧
        counts.framesetsWithStaleStreams =
          (cameras.map staleFramesets).sum ∧
        e4.problemFramesets = counts.problematicFramesets ∧
        p1.problemFramesets = counts.problematicFramesets ∧
        e4.duplicateComponents =
          (cameras.map duplicateFrames).sum ∧
        p1.duplicateComponents =
          (cameras.map duplicateFrames).sum ∧
        e4.sequenceGaps =
          ((cameras.map sequenceGaps).sum : Nat) ∧
        p1.sequenceGaps =
          ((cameras.map sequenceGaps).sum : Nat) := by
  have hProblem := framesetProblemCounts_writeEvents hOrdered
  rcases reconstruct_writeEvents hOrdered with
    ⟨counters, hRun, hTracks⟩
  rcases analyzeFreshness_totals hOrdered with
    ⟨hDeliveries, hStale, hRepeats, hMissing⟩
  have hDuplicates := hTracks.repeats.trans hRepeats
  have hGaps :
      counters.sequenceGaps =
        ((cameras.map sequenceGaps).sum : Nat) := by
    rw [hTracks.missing, hMissing]
  refine ⟨_,
    ⟨counters.problem, counters.duplicateComponents,
      counters.sequenceGaps⟩,
    ⟨counters.problem, counters.stale, counters.gapBearing,
      counters.duplicateComponents, counters.sequenceGaps⟩,
    hProblem, ?_, ?_, hDeliveries, hStale,
    hTracks.problem, hTracks.problem, hDuplicates, hDuplicates,
    hGaps, hGaps⟩
  · unfold E4.reconstructFreshness
    rw [hRun]
    rfl
  · unfold P1.reconstructFreshness
    rw [hRun]
    rfl

/-
  Two cameras: the first repeats its depth frame in the
  second delivery, loses color there, and skips two depth
  frames in the third.
-/
def twoCameras : List CameraMetrics :=
  [{ events := ⟨[
        { delivery := 1, stream := .depth, frameNumber := 5 },
        { delivery := 1, stream := .color, frameNumber := 7 },
        { delivery := 2, stream := .depth, frameNumber := 5 },
        { delivery := 3, stream := .depth, frameNumber := 8 },
        { delivery := 3, stream := .color, frameNumber := 8 }],
        8⟩ },
    { events := ⟨[
        { delivery := 1, stream := .depth, frameNumber := 1 }],
        8⟩ }]

theorem twoCameras_agree :
    ∃ counts e4 p1,
      framesetProblemCounts (writeEvents twoCameras) =
          .ok counts ∧
        E4.reconstructFreshness (writeEvents twoCameras) =
          .ok e4 ∧
        P1.reconstructFreshness (writeEvents twoCameras) =
          .ok p1 ∧
        counts.deliveredFramesets = 4 ∧
        counts.problematicFramesets = 2 ∧
        e4.sequenceGaps =
          ((twoCameras.map sequenceGaps).sum : Nat) ∧
        p1.duplicateComponents =
          (twoCameras.map duplicateFrames).sum := by
  rcases recounts_agree twoCameras (by decide +kernel) with
    ⟨counts, e4, p1, hCounts, hE4, hP1, _, _, _, _, _,
      hDuplicates, hGaps, _⟩
  have hValue :
      framesetProblemCounts (writeEvents twoCameras) =
        .ok ⟨4, 1, 1, 2⟩ := by
    decide +kernel
  rw [hValue] at hCounts
  cases Except.ok.inj hCounts
  exact ⟨_, e4, p1, hValue, hE4, hP1, rfl, rfl, hGaps,
    hDuplicates⟩

end Reproduction

end RsCamera
