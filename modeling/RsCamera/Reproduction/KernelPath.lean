import RsCamera.Reproduction.Agreement

/-
  The freshness metrics of the kernel-path table against the
  other recounts.

  The pass compares a delivery only with the delivery of its
  camera just before, so a stream that was missing there is
  not compared at all.  It gives what the other recounts
  give exactly when every stream that comes back after a
  delivery without it continues with the next number.

  Key definitions include:
    * `previousDelivery`, `InPreviousDelivery`
    * `recentNumber`, `ResumesConsecutively`
    * `FreshnessTracks`

  Key theorems include:
    * `framesetFreshnessMetrics_writeEvents`
    * `framesetFreshness_agrees_iff`
-/

------------------------------------------------------------
-- The Delivery Before
------------------------------------------------------------

namespace RsCamera

namespace Reproduction

section

open Steady

abbrev TableSighting := Sighting TableStream TableDelivery

/- The last delivery seen of a camera. -/
def lastDelivery
    (seen : List TableSighting)
    (camera : Nat) : Option TableDelivery :=
  ((seen.filter (fun sighting =>
    sighting.delivery.1 = camera)).getLast?).map
      Sighting.delivery

/- The last delivery seen of a camera before a given one. -/
def previousDelivery
    (seen : List TableSighting)
    (delivery : TableDelivery) : Option TableDelivery :=
  lastDelivery
    (seen.filter (fun sighting => sighting.delivery ≠ delivery))
    delivery.1

/- The stream was part of the camera's delivery before. -/
def InPreviousDelivery
    (seen : List TableSighting)
    (sighting : TableSighting) : Prop :=
  ∃ other ∈ seen,
    previousDelivery seen sighting.delivery =
        some other.delivery ∧
      other.stream = sighting.stream

instance
    (seen : List TableSighting)
    (sighting : TableSighting) :
    Decidable (InPreviousDelivery seen sighting) :=
  inferInstanceAs (Decidable (∃ other ∈ seen, _))

/- The memory that only knows the delivery before. -/
def recentNumber
    (seen : List TableSighting)
    (sighting : TableSighting) : Option Nat :=
  if InPreviousDelivery seen sighting then
    remembered seen sighting
  else
    none

/-
  Every stream that was seen, but not in the delivery just
  before, comes back with the number after its last.
-/
def ResumesConsecutively (seen : List TableSighting) : Prop :=
  ∀ before sighting, before ++ [sighting] <+: seen →
    ¬ InPreviousDelivery before sighting →
      ∀ last, lastNumber before sighting.stream = some last →
        sighting.number = last + 1

theorem recentNumber_forgets
    (seen : List TableSighting)
    (sighting : TableSighting) :
    recentNumber seen sighting = remembered seen sighting ∨
      recentNumber seen sighting = none := by
  unfold recentNumber
  split
  · exact Or.inl rfl
  · exact Or.inr rfl

theorem harmless_iff_resumesConsecutively
    (seen : List TableSighting) :
    Harmless remembered recentNumber seen ↔
      ResumesConsecutively seen := by
  unfold Harmless ResumesConsecutively
  constructor
  · intro hHarmless before sighting hPrefix hAbsent last hLast
    apply hHarmless before sighting hPrefix _ last hLast
    unfold recentNumber
    rw [if_neg hAbsent]
    unfold remembered
    rw [hLast]
    exact Option.some_ne_none last |>.symm
  · intro hResumes before sighting hPrefix hDiffers
    apply hResumes before sighting hPrefix
    intro hPresent
    apply hDiffers
    unfold recentNumber
    rw [if_pos hPresent]

theorem lastDelivery_append_singleton
    (seen : List TableSighting)
    (sighting : TableSighting)
    (camera : Nat) :
    lastDelivery (seen ++ [sighting]) camera =
      if sighting.delivery.1 = camera then
        some sighting.delivery
      else
        lastDelivery seen camera := by
  unfold lastDelivery
  rw [List.filter_append]
  by_cases hCamera : sighting.delivery.1 = camera
  · simp [hCamera]
  · simp [hCamera]

/- Rows of one new delivery after what was seen before. -/
structure DeliveryRows
    (before : List TableSighting)
    (delivery : TableDelivery)
    (rows : List TableSighting) : Prop where
  new : ∀ sighting ∈ before, sighting.delivery ≠ delivery
  same : ∀ row ∈ rows, row.delivery = delivery
  camera : ∀ row ∈ rows, row.stream.1 = delivery.1
  streams : (rows.map Sighting.stream).Nodup

variable {before rows : List TableSighting}
variable {delivery : TableDelivery}

theorem DeliveryRows.of_append
    {row : TableSighting}
    (hRows : DeliveryRows before delivery (rows ++ [row])) :
    DeliveryRows before delivery rows where
  new := hRows.new
  same := fun other hOther =>
    hRows.same other (List.mem_append_left _ hOther)
  camera := fun other hOther =>
    hRows.camera other (List.mem_append_left _ hOther)
  streams := by
    have hStreams := hRows.streams
    rw [List.map_append] at hStreams
    exact (List.nodup_append.mp hStreams).1

/- Amid the rows of a delivery, the one before is known. -/
theorem DeliveryRows.previousDelivery_eq
    (hRows : DeliveryRows before delivery rows) :
    previousDelivery (before ++ rows) delivery =
      lastDelivery before delivery.1 := by
  have hBefore :
      before.filter (fun sighting =>
        sighting.delivery ≠ delivery) = before := by
    rw [List.filter_eq_self]
    intro sighting hMember
    simpa using hRows.new sighting hMember
  have hNone :
      rows.filter (fun sighting =>
        sighting.delivery ≠ delivery) = [] := by
    rw [List.filter_eq_nil_iff]
    intro sighting hMember
    simpa using hRows.same sighting hMember
  unfold previousDelivery
  rw [List.filter_append, hBefore, hNone, List.append_nil]

/- The number a stream had in the last delivery of its camera. -/
def lastDeliveredNumber
    (seen : List TableSighting)
    (stream : TableStream) : Option Nat :=
  if ∃ other ∈ seen,
      lastDelivery seen stream.1 = some other.delivery ∧
        other.stream = stream then
    lastNumber seen stream
  else
    none

/- A row is compared with the delivery before its own. -/
theorem DeliveryRows.recentNumber_eq
    {row : TableSighting}
    (hRows : DeliveryRows before delivery (rows ++ [row])) :
    recentNumber (before ++ rows) row =
      lastDeliveredNumber before row.stream := by
  have hDelivery : row.delivery = delivery :=
    hRows.same row (by simp)
  have hCamera : row.stream.1 = delivery.1 :=
    hRows.camera row (by simp)
  have hEarlier := hRows.of_append
  have hOther :
      ∀ other ∈ rows, other.stream ≠ row.stream := by
    have hStreams := hRows.streams
    rw [List.map_append, List.nodup_append] at hStreams
    intro other hMember
    exact hStreams.2.2 _ (List.mem_map_of_mem hMember) _
      (by simp)
  have hPresent :
      InPreviousDelivery (before ++ rows) row ↔
        ∃ other ∈ before,
          lastDelivery before row.stream.1 =
              some other.delivery ∧
            other.stream = row.stream := by
    unfold InPreviousDelivery
    rw [hDelivery, hEarlier.previousDelivery_eq, hCamera]
    constructor
    · rintro ⟨other, hMember, hLast, hStream⟩
      rcases List.mem_append.mp hMember with hOld | hNew
      · exact ⟨other, hOld, hLast, hStream⟩
      · exact absurd hStream (hOther other hNew)
    · rintro ⟨other, hMember, hLast, hStream⟩
      exact ⟨other, List.mem_append_left _ hMember, hLast,
        hStream⟩
  unfold recentNumber lastDeliveredNumber
  simp only [hPresent]
  split
  · unfold remembered
    exact lastNumber_append_left hOther before
  · rfl

end

------------------------------------------------------------
-- The Pass Over The Deliveries
------------------------------------------------------------

section

open Steady

/- The name of a stream within its camera. -/
def freshnessStream (stream : TableStream) : String × Int :=
  (rs2StreamToString stream.2.1, stream.2.2)

/- Streams of one camera have different names. -/
theorem freshnessStream_inj
    {first second : TableStream}
    (hCamera : first.1 = second.1)
    (hName : freshnessStream first = freshnessStream second) :
    first = second := by
  rcases Prod.mk.inj hName with ⟨hStream, hIndex⟩
  exact Prod.ext hCamera
    (Prod.ext (rs2StreamToString_injective hStream) hIndex)

/- The dictionary the pass makes of a delivery. -/
def deliveryStreams
    (rows : List (Nat × FrameEvent)) : DeliveryStreams :=
  rows.foldl
    (fun streams row =>
      streams.set (freshnessStream (tableSighting row).stream)
        (tableSighting row).number)
    ∅

/- What the pass knows after some deliveries. -/
structure FreshnessTracks
    (state : FreshnessState)
    (seen : List TableSighting) : Prop where
  previous :
    ∀ stream : TableStream,
      (state.previous.getD (stream.1 : Int) ∅).get?
          (freshnessStream stream) =
        (lastDeliveredNumber seen stream).map Nat.cast
  problem :
    state.problem =
      ((tally recentNumber seen).stale ∪
        (tally recentNumber seen).gapped).card
  stale :
    state.stale = (tally recentNumber seen).stale.card
  gapBearing :
    state.gapBearing = (tally recentNumber seen).gapped.card
  repeats :
    state.duplicateComponents =
      (tally recentNumber seen).repeats
  missing :
    state.sequenceGaps =
      ((tally recentNumber seen).missing : Int)

/- A stream is compared with its number before, if any. -/
theorem compareStream_eq
    {prior : DeliveryStreams}
    {last : Option Nat}
    {stream : String × Int}
    {number : Nat}
    (hPrior : prior.get? stream = last.map Nat.cast)
    (hAscending : ∀ old, last = some old → old ≤ number)
    (scan : StreamsScan) :
    compareStream prior scan (stream, (number : Int)) =
      { hasDuplicate :=
          scan.hasDuplicate || isRepeat last number
        hasGap :=
          scan.hasGap || decide (0 < missedSince last number)
        duplicateComponents :=
          scan.duplicateComponents +
            (if isRepeat last number then 1 else 0)
        sequenceGaps :=
          scan.sequenceGaps +
            (missedSince last number : Int) } := by
  unfold compareStream
  rw [hPrior]
  cases last with
  | none => simp
  | some old =>
      have hLe := hAscending old rfl
      simp only [Option.map_some, isRepeat_some,
        decide_eq_true_eq, missedSince_pos_iff]
      by_cases hRepeat : number ≤ old
      · have hSame : (number : Int) - old = 0 := by
          omega
        have hNone : missedSince (some old) number = 0 := by
          rw [missedSince_some]
          omega
        have hNext : ¬ old + 1 < number := by
          omega
        simp [hRepeat, hSame, hNone, hNext]
      · have hOther : (number : Int) - old ≠ 0 := by
          omega
        by_cases hGap : old + 1 < number
        · have hFar : 1 < (number : Int) - old := by
            omega
          simp only [hRepeat, hGap, hOther, hFar,
            missedSince_some, if_true, if_false, decide_false,
            decide_true, Bool.or_false, Bool.or_true,
            Nat.add_zero]
          congr 1
          omega
        · have hNear : ¬ 1 < (number : Int) - old := by
            omega
          have hNone : missedSince (some old) number = 0 := by
            rw [missedSince_some]
            omega
          simp [hRepeat, hGap, hOther, hNear, hNone]

variable {before : List TableSighting}
variable {delivery : TableDelivery}

/- The streams of a delivery are compared in turn. -/
theorem foldl_compareStream
    {prior : DeliveryStreams}
    (hPrior :
      ∀ stream : TableStream, stream.1 = delivery.1 →
        prior.get? (freshnessStream stream) =
          (lastDeliveredNumber before stream).map Nat.cast)
    {rows : List TableSighting}
    (hRows : DeliveryRows before delivery rows)
    (hAscending :
      ∀ row ∈ rows, ∀ old,
        lastDeliveredNumber before row.stream = some old →
          old ≤ row.number)
    {scan : StreamsScan}
    (hScan :
      scan =
        { duplicateComponents :=
            (tally recentNumber before).repeats
          sequenceGaps :=
            (tally recentNumber before).missing }) :
    let last :=
      (rows.map (fun row =>
        (freshnessStream row.stream,
          (row.number : Int)))).foldl
        (compareStream prior) scan
    InDelivery recentNumber before delivery rows
      last.hasDuplicate last.hasGap last.duplicateComponents
      last.sequenceGaps := by
  induction rows using List.reverseRecOn with
  | nil =>
      rw [hScan]
      exact inDelivery_nil before delivery
  | append_singleton rows row ih =>
      have hBefore :=
        ih hRows.of_append (fun other hOther =>
          hAscending other (List.mem_append_left _ hOther))
      rw [List.map_append, List.map_singleton,
        List.foldl_append, List.foldl_cons, List.foldl_nil,
        compareStream_eq
          (hPrior row.stream (hRows.camera row (by simp)))
          (hAscending row (by simp))]
      exact hBefore.observe (hRows.same row (by simp))
        hRows.recentNumber_eq

/- The last number of a stream is that of its only row. -/
theorem lastNumber_of_mem_rows
    {before rows : List TableSighting}
    (hStreams : (rows.map Sighting.stream).Nodup)
    {row : TableSighting}
    (hRow : row ∈ rows) :
    lastNumber (before ++ rows) row.stream =
      some row.number := by
  have hOne : numbersSeen rows row.stream = [row.number] := by
    unfold numbersSeen
    rw [filter_eq_singleton hStreams hRow]
    rfl
  unfold lastNumber
  rw [numbersSeen_append, hOne, List.getLast?_append]
  rfl

/- After its rows, a delivery is the last of its camera. -/
theorem DeliveryRows.lastDelivery_eq
    {before rows : List TableSighting}
    (hRows : DeliveryRows before delivery rows)
    (hNonempty : rows ≠ []) :
    lastDelivery (before ++ rows) delivery.1 =
      some delivery := by
  rcases List.eq_nil_or_concat rows with
    hNil | ⟨first, row, hConcat⟩
  · exact absurd hNil hNonempty
  · rw [List.concat_eq_append] at hConcat
    have hDelivery : row.delivery = delivery :=
      hRows.same row (by simp [hConcat])
    rw [hConcat, ← List.append_assoc,
      lastDelivery_append_singleton, hDelivery, if_pos rfl]

/- The rows of another camera change nothing for a stream. -/
theorem DeliveryRows.lastDeliveredNumber_other
    {before rows : List TableSighting}
    (hRows : DeliveryRows before delivery rows)
    {stream : TableStream}
    (hCamera : stream.1 ≠ delivery.1) :
    lastDeliveredNumber (before ++ rows) stream =
      lastDeliveredNumber before stream := by
  have hStreams : ∀ row ∈ rows, row.stream ≠ stream := by
    intro row hRow hEq
    apply hCamera
    rw [← hEq]
    exact hRows.camera row hRow
  have hNone :
      rows.filter (fun row => row.delivery.1 = stream.1) =
        [] := by
    rw [List.filter_eq_nil_iff]
    intro row hRow hEq
    apply hCamera
    rw [← of_decide_eq_true hEq, hRows.same row hRow]
  have hLast :
      lastDelivery (before ++ rows) stream.1 =
        lastDelivery before stream.1 := by
    unfold lastDelivery
    rw [List.filter_append, hNone, List.append_nil]
  have hPresent :
      (∃ other ∈ before ++ rows,
        lastDelivery before stream.1 = some other.delivery ∧
          other.stream = stream) ↔
        ∃ other ∈ before,
          lastDelivery before stream.1 =
              some other.delivery ∧
            other.stream = stream := by
    constructor
    · rintro ⟨other, hMember, hDelivery, hStream⟩
      rcases List.mem_append.mp hMember with hOld | hNew
      · exact ⟨other, hOld, hDelivery, hStream⟩
      · exact absurd hStream (hStreams other hNew)
    · rintro ⟨other, hMember, hDelivery, hStream⟩
      exact ⟨other, List.mem_append_left _ hMember, hDelivery,
        hStream⟩
  unfold lastDeliveredNumber
  simp only [hLast, hPresent,
    lastNumber_append_left hStreams before]

/- The dictionary of a delivery lists its rows. -/
theorem deliveryStreams_items
    {rows : List (Nat × FrameEvent)}
    (hRows :
      DeliveryRows before delivery (rows.map tableSighting)) :
    (deliveryStreams rows).items =
      (rows.map tableSighting).map (fun row =>
        (freshnessStream row.stream, (row.number : Int))) := by
  have hNames :
      (rows.map (fun row =>
        freshnessStream (tableSighting row).stream)).Nodup := by
    have hMapped :
        rows.map (fun row =>
            freshnessStream (tableSighting row).stream) =
          ((rows.map tableSighting).map
            Sighting.stream).map freshnessStream := by
      rw [List.map_map, List.map_map]
      rfl
    rw [hMapped]
    apply List.Nodup.map_on _ hRows.streams
    intro first hFirst second hSecond hName
    rcases List.mem_map.mp hFirst with ⟨row, hRow, hEq⟩
    rcases List.mem_map.mp hSecond with ⟨row', hRow', hEq'⟩
    apply freshnessStream_inj _ hName
    rw [← hEq, ← hEq', hRows.camera row hRow,
      hRows.camera row' hRow']
  unfold deliveryStreams
  rw [foldl_set_items hNames, List.map_map]
  rfl

/- Looking a stream up in the dictionary of a delivery. -/
theorem deliveryStreams_get?
    {rows : List (Nat × FrameEvent)}
    (hRows :
      DeliveryRows before delivery (rows.map tableSighting))
    (hNonempty : rows ≠ [])
    {stream : TableStream}
    (hCamera : stream.1 = delivery.1) :
    (deliveryStreams rows).get? (freshnessStream stream) =
      (lastDeliveredNumber
        (before ++ rows.map tableSighting) stream).map
          Nat.cast := by
  have hItems := deliveryStreams_items hRows
  have hLast :=
    hRows.lastDelivery_eq (by simpa using hNonempty)
  unfold lastDeliveredNumber
  rw [hCamera, hLast]
  by_cases hPresent :
      ∃ row ∈ rows.map tableSighting, row.stream = stream
  · rcases hPresent with ⟨row, hRow, hStream⟩
    have hGet :
        (deliveryStreams rows).get? (freshnessStream stream) =
          some (row.number : Int) := by
      rw [← Dict.mem_items_iff, hItems, ← hStream]
      exact List.mem_map_of_mem hRow
    rw [hGet, if_pos, ← hStream,
      lastNumber_of_mem_rows hRows.streams hRow]
    · rfl
    · exact ⟨row, List.mem_append_right _ hRow,
        by rw [hRows.same row hRow], hStream⟩
  · rw [if_neg]
    · cases hGet :
          (deliveryStreams rows).get?
            (freshnessStream stream) with
      | none => rfl
      | some number =>
          rw [← Dict.mem_items_iff, hItems,
            List.mem_map] at hGet
          rcases hGet with ⟨row, hRow, hEq⟩
          exfalso
          apply hPresent
          refine ⟨row, hRow, ?_⟩
          apply freshnessStream_inj
          · rw [hRows.camera row hRow, hCamera]
          · exact (Prod.mk.inj hEq).1
    · rintro ⟨other, hMember, hDelivery, hStream⟩
      rcases List.mem_append.mp hMember with hOld | hNew
      · exact hRows.new other hOld
          (Option.some.inj hDelivery).symm
      · exact hPresent ⟨other, hNew, hStream⟩

/- One delivery of the pass. -/
theorem FreshnessTracks.step
    {state : FreshnessState}
    (hTracks : FreshnessTracks state before)
    {rows : List (Nat × FrameEvent)}
    (hRows :
      DeliveryRows before delivery (rows.map tableSighting))
    (hNonempty : rows ≠ [])
    (hAscending :
      ∀ row ∈ rows.map tableSighting, ∀ old,
        lastDeliveredNumber before row.stream = some old →
          old ≤ row.number) :
    FreshnessTracks
      (freshnessStep state
        (problemDelivery delivery, deliveryStreams rows))
      (before ++ rows.map tableSighting) := by
  have hPrior :
      ∀ stream : TableStream, stream.1 = delivery.1 →
        (state.previous.getD (delivery.1 : Int) ∅).get?
            (freshnessStream stream) =
          (lastDeliveredNumber before stream).map
            Nat.cast := by
    intro stream hCamera
    rw [← hCamera]
    exact hTracks.previous stream
  have hCounts :=
    foldl_compareStream hPrior hRows hAscending rfl
  rw [← deliveryStreams_items hRows, ← hTracks.repeats,
    ← hTracks.missing] at hCounts
  have hNew :
      delivery ∉ (tally recentNumber before).deliveries := by
    rw [tally_deliveries, List.mem_toFinset, List.mem_map]
    rintro ⟨other, hOther, hEq⟩
    exact hRows.new other hOther hEq
  rcases hCounts.card_eq hNew with
    ⟨hStale, hGapped, hProblem⟩
  unfold freshnessStep
  constructor
  · intro stream
    unfold problemDelivery
    simp only [Dict.getD]
    rw [Dict.get?_set]
    by_cases hCamera : stream.1 = delivery.1
    · rw [if_pos (by rw [hCamera]), Option.getD_some]
      exact deliveryStreams_get? hRows hNonempty hCamera
    · rw [if_neg (by exact_mod_cast hCamera),
        hRows.lastDeliveredNumber_other hCamera]
      exact hTracks.previous stream
  · rw [hProblem, ← hTracks.problem]
    rfl
  · rw [hStale, ← hTracks.stale]
    rfl
  · rw [hGapped, ← hTracks.gapBearing]
    rfl
  · exact hCounts.repeats_eq
  · exact hCounts.missing_eq

/- What holds of all sightings of a table. -/
structure TableOrdered (seen : List TableSighting) : Prop where
  once :
    seen.Pairwise (fun first second =>
      first.delivery = second.delivery →
        first.stream ≠ second.stream)
  ascending :
    seen.Pairwise (fun first second =>
      first.stream = second.stream →
        first.number ≤ second.number)
  camera :
    ∀ sighting ∈ seen,
      sighting.stream.1 = sighting.delivery.1

theorem tableSightings_ordered
    {cameras : List CameraMetrics}
    (hOrdered :
      ∀ metrics ∈ cameras,
        EventsOrdered metrics.events.items) :
    TableOrdered (tableSightings cameras) where
  once := by
    unfold tableSightings
    rw [List.pairwise_map]
    apply pairwise_taggedFrom
    · intro metrics hMetrics index
      apply (hOrdered metrics hMetrics).once.imp
      intro first second hOnce hDelivery hStream
      exact hOnce (Prod.mk.inj hDelivery).2
        (Prod.mk.inj hStream).2
    · intro first second hLt hDelivery
      have hCamera : first.1 = second.1 :=
        (Prod.mk.inj hDelivery).1
      omega
  ascending := tableSightings_ascending hOrdered
  camera := by
    intro sighting hSighting
    rcases List.mem_map.mp hSighting with ⟨row, _, hEq⟩
    rw [← hEq]
    rfl

/- A number of the delivery before is one of the past. -/
theorem lastNumber_of_lastDelivered
    {seen : List TableSighting}
    {stream : TableStream}
    {last : Nat}
    (hLast : lastDeliveredNumber seen stream = some last) :
    lastNumber seen stream = some last := by
  unfold lastDeliveredNumber at hLast
  split at hLast
  · exact hLast
  · cases hLast

/- The rows of a delivery that follows others in a table. -/
theorem TableOrdered.deliveryRows
    {before rows : List TableSighting}
    (hTable : TableOrdered (before ++ rows))
    (hNew : ∀ sighting ∈ before, sighting.delivery ≠ delivery)
    (hSame : ∀ row ∈ rows, row.delivery = delivery) :
    DeliveryRows before delivery rows ∧
      ∀ row ∈ rows, ∀ old,
        lastDeliveredNumber before row.stream = some old →
          old ≤ row.number := by
  have hOnce := (List.pairwise_append.mp hTable.once).2.1
  have hAscending :=
    (List.pairwise_append.mp hTable.ascending).2.2
  refine ⟨⟨hNew, hSame, ?_, ?_⟩, ?_⟩
  · intro row hRow
    rw [hTable.camera row (List.mem_append_right _ hRow),
      hSame row hRow]
  · unfold List.Nodup
    rw [List.pairwise_map]
    apply hOnce.imp_of_mem
    intro first second hFirst hSecond hStreams
    apply hStreams
    rw [hSame first hFirst, hSame second hSecond]
  · intro row hRow old hOld
    rcases exists_of_lastNumber
      (lastNumber_of_lastDelivered hOld) with
      ⟨earlier, hEarlier, hStream, hNumber⟩
    rw [← hNumber]
    exact hAscending earlier hEarlier row hRow hStream

/- The pass follows the deliveries of a table in order. -/
theorem foldl_freshnessTracks
    {state : FreshnessState}
    (hTracks : FreshnessTracks state before)
    {items : List ((Int × Int) × List (Nat × FrameEvent))}
    (hTable :
      TableOrdered (before ++
        (items.flatMap Prod.snd).map tableSighting))
    (hRows :
      ∀ item ∈ items, ∀ row ∈ item.2,
        problemDelivery (tableSighting row).delivery = item.1)
    (hNonempty : ∀ item ∈ items, item.2 ≠ [])
    (hKeys : (items.map Prod.fst).Nodup)
    (hNew :
      ∀ item ∈ items, ∀ sighting ∈ before,
        problemDelivery sighting.delivery ≠ item.1) :
    FreshnessTracks
      ((items.map (fun item =>
        (item.1, deliveryStreams item.2))).foldl
        freshnessStep state)
      (before ++
        (items.flatMap Prod.snd).map tableSighting) := by
  induction items generalizing state before with
  | nil => simpa using hTracks
  | cons item items ih =>
      rcases List.exists_mem_of_ne_nil _
        (hNonempty item (by simp)) with ⟨first, hFirst⟩
      have hKey := hRows item (by simp)
      have hSame :
          ∀ row ∈ item.2.map tableSighting,
            row.delivery = (tableSighting first).delivery := by
        intro row hRow
        rcases List.mem_map.mp hRow with ⟨own, hOwn, hEq⟩
        apply problemDelivery_injective
        rw [← hEq, hKey own hOwn, hKey first hFirst]
      rw [List.flatMap_cons, List.map_append,
        ← List.append_assoc] at hTable ⊢
      have hPart :
          TableOrdered
            (before ++ item.2.map tableSighting) := by
        refine ⟨(List.pairwise_append.mp hTable.once).1,
          (List.pairwise_append.mp hTable.ascending).1, ?_⟩
        intro sighting hSighting
        exact hTable.camera sighting
          (List.mem_append_left _ hSighting)
      rcases hPart.deliveryRows
        (fun sighting hSighting hEq =>
          hNew item (by simp) sighting hSighting (by
            rw [hEq, hKey first hFirst])) hSame with
        ⟨hDelivery, hAscending⟩
      have hStep :=
        hTracks.step hDelivery (hNonempty item (by simp))
          hAscending
      rw [hKey first hFirst] at hStep
      rw [List.map_cons, List.nodup_cons] at hKeys
      rw [List.map_cons, List.foldl_cons]
      apply ih hStep hTable
      · exact fun other hOther =>
          hRows other (List.mem_cons_of_mem _ hOther)
      · exact fun other hOther =>
          hNonempty other (List.mem_cons_of_mem _ hOther)
      · exact hKeys.2
      · intro other hOther sighting hSighting hEq
        rcases List.mem_append.mp hSighting with hOld | hOwn
        · exact hNew other (List.mem_cons_of_mem _ hOther)
            sighting hOld hEq
        · apply hKeys.1
          rw [← hKey first hFirst, ← hSame sighting hOwn, hEq]
          exact List.mem_map_of_mem hOther

end

------------------------------------------------------------
-- Comparison
------------------------------------------------------------

open Steady

/- The delivery of a row, and the rows of each delivery. -/
def rowDelivery (row : Nat × FrameEvent) : Int × Int :=
  problemDelivery (tableSighting row).delivery

def deliveryGroups
    (cameras : List CameraMetrics) :
    List ((Int × Int) × List (Nat × FrameEvent)) :=
  (groupLists rowDelivery (taggedEvents cameras)).items

section Groups

variable {cameras : List CameraMetrics}

theorem deliveryGroups_spec
    (hOrdered :
      ∀ metrics ∈ cameras,
        EventsOrdered metrics.events.items) :
    GroupsOf rowDelivery (taggedEvents cameras)
      (deliveryGroups cameras) :=
  groupLists_of_contiguous
    (contiguous_of_sorted deliveryOrder_antisymm
      problemDelivery_injective (taggedEvents_sorted hOrdered))

/- What is collected is the streams of each delivery. -/
theorem foldlM_collectRow
    (cameras : List CameraMetrics) :
    ∃ deliveries,
      (writeEvents cameras).foldlM collectRow ∅ =
          .ok deliveries ∧
        deliveries.items =
          (deliveryGroups cameras).map (fun item =>
            (item.1, deliveryStreams item.2)) := by
  refine ⟨groupFold rowDelivery
    (fun streams row =>
      streams.set
        (freshnessStream (tableSighting row).stream)
        (tableSighting row).number)
    ∅ (taggedEvents cameras), ?_, ?_⟩
  · rw [writeEvents_eq_map]
    unfold groupFold
    apply foldlM_map_ok
    intro deliveries row
    unfold collectRow eventRow
    simp only [pyInt_natCast, pyInt_toString, bind,
      Except.bind]
    rfl
  · rw [groupFold_items]
    rfl

/- The deliveries are collected in order. -/
theorem insertionSort_deliveryGroups
    (hOrdered :
      ∀ metrics ∈ cameras,
        EventsOrdered metrics.events.items) :
    ((deliveryGroups cameras).map (fun item =>
        (item.1, deliveryStreams item.2))).insertionSort
        (fun left right => beforeOrSame left.1 right.1) =
      (deliveryGroups cameras).map (fun item =>
        (item.1, deliveryStreams item.2)) := by
  apply List.Pairwise.insertionSort_eq
  rw [List.pairwise_map]
  apply (deliveryGroups_spec hOrdered).pairwise_keys
  apply (taggedEvents_sorted hOrdered).imp
  intro first second hOrder
  unfold deliveryOrder at hOrder
  unfold beforeOrSame
  simp only [rowDelivery, problemDelivery]
  omega

/- There is one group for each delivery of the table. -/
theorem length_deliveryGroups
    (hOrdered :
      ∀ metrics ∈ cameras,
        EventsOrdered metrics.events.items) :
    (deliveryGroups cameras).length =
      (tally recentNumber
        (tableSightings cameras)).deliveries.card := by
  have hGroups := deliveryGroups_spec hOrdered
  have hNodup :=
    (groupLists rowDelivery (taggedEvents cameras)).nodup
  have hImage :
      ((deliveryGroups cameras).map Prod.fst).toFinset =
        ((tableSightings cameras).map
          Sighting.delivery).toFinset.image
            problemDelivery := by
    ext delivery
    rw [List.mem_toFinset, hGroups.mem_keys, Finset.mem_image]
    unfold tableSightings
    constructor
    · intro hKey
      rcases List.mem_map.mp hKey with ⟨row, hRow, hEq⟩
      refine ⟨(tableSighting row).delivery, ?_, hEq⟩
      rw [List.mem_toFinset, List.map_map]
      exact List.mem_map.mpr ⟨row, hRow, rfl⟩
    · rintro ⟨own, hOwn, hEq⟩
      rw [List.mem_toFinset, List.map_map] at hOwn
      rcases List.mem_map.mp hOwn with ⟨row, hRow, hRowEq⟩
      refine List.mem_map.mpr ⟨row, hRow, ?_⟩
      rw [← hEq, ← hRowEq]
      rfl
  rw [tally_deliveries,
    ← Finset.card_image_of_injective _
      problemDelivery_injective,
    ← hImage]
  unfold deliveryGroups
  rw [List.toFinset_card_of_nodup hNodup, List.length_map]

/- The pass over the groups follows the table. -/
theorem foldl_deliveryGroups
    (hOrdered :
      ∀ metrics ∈ cameras,
        EventsOrdered metrics.events.items) :
    FreshnessTracks
      (((deliveryGroups cameras).map (fun item =>
        (item.1, deliveryStreams item.2))).foldl
        freshnessStep {})
      (tableSightings cameras) := by
  have hGroups := deliveryGroups_spec hOrdered
  have hEmpty : FreshnessTracks {} [] := by
    refine ⟨?_, rfl, rfl, rfl, rfl, rfl⟩
    intro stream
    rfl
  have hTracks :=
    foldl_freshnessTracks hEmpty
      (by
        rw [List.nil_append, hGroups.flatten]
        exact tableSightings_ordered hOrdered)
      hGroups.same_key hGroups.nonempty
      (groupLists rowDelivery (taggedEvents cameras)).nodup
      (by
        intro item _ sighting hSighting
        cases hSighting)
  rw [List.nil_append, hGroups.flatten] at hTracks
  exact hTracks

end Groups

theorem framesetFreshnessMetrics_writeEvents
    {cameras : List CameraMetrics}
    (hOrdered :
      ∀ metrics ∈ cameras,
        EventsOrdered metrics.events.items) :
    ∃ metrics,
      framesetFreshnessMetrics (writeEvents cameras) =
          .ok metrics ∧
        metrics.deliveries =
          (tally recentNumber
            (tableSightings cameras)).deliveries.card ∧
        metrics.staleFramesets =
          (tally recentNumber
            (tableSightings cameras)).stale.card ∧
        metrics.gapBearingFramesets =
          (tally recentNumber
            (tableSightings cameras)).gapped.card ∧
        metrics.nonfreshFramesets =
          ((tally recentNumber
              (tableSightings cameras)).stale ∪
            (tally recentNumber
              (tableSightings cameras)).gapped).card ∧
        metrics.duplicateComponents =
          (tally recentNumber
            (tableSightings cameras)).repeats ∧
        metrics.sequenceGaps =
          ((tally recentNumber
            (tableSightings cameras)).missing : Int) := by
  have hTracks := foldl_deliveryGroups hOrdered
  rcases foldlM_collectRow cameras with
    ⟨deliveries, hCollect, hItems⟩
  let last :=
    ((deliveryGroups cameras).map (fun item =>
      (item.1, deliveryStreams item.2))).foldl
      freshnessStep {}
  refine ⟨⟨_, last.stale, last.gapBearing, last.problem,
      last.duplicateComponents, last.sequenceGaps⟩,
    ?_, length_deliveryGroups hOrdered, hTracks.stale,
    hTracks.gapBearing, hTracks.problem, hTracks.repeats,
    hTracks.missing⟩
  unfold framesetFreshnessMetrics
  rw [hCollect]
  simp only [bind, Except.bind]
  rw [hItems, List.length_map,
    insertionSort_deliveryGroups hOrdered]
  rfl

/-
  The metrics of the kernel-path table are those of the other
  recounts exactly when every stream that comes back after a
  delivery without it continues with the next number.
-/
theorem framesetFreshness_agrees_iff
    (cameras : List CameraMetrics)
    (hOrdered :
      ∀ metrics ∈ cameras,
        EventsOrdered metrics.events.items) :
    (∃ metrics counts e4,
      framesetFreshnessMetrics (writeEvents cameras) =
          .ok metrics ∧
        framesetProblemCounts (writeEvents cameras) =
          .ok counts ∧
        E4.reconstructFreshness (writeEvents cameras) =
          .ok e4 ∧
        metrics.deliveries = counts.deliveredFramesets ∧
        metrics.staleFramesets =
          counts.framesetsWithStaleStreams ∧
        metrics.gapBearingFramesets =
          counts.framesetsWithGaps ∧
        metrics.nonfreshFramesets =
          counts.problematicFramesets ∧
        metrics.duplicateComponents =
          e4.duplicateComponents ∧
        metrics.sequenceGaps = e4.sequenceGaps) ↔
      ResumesConsecutively (tableSightings cameras) := by
  have hProblem := framesetProblemCounts_writeEvents hOrdered
  rcases reconstruct_writeEvents hOrdered with
    ⟨counters, hRun, hTracks⟩
  rcases framesetFreshnessMetrics_writeEvents hOrdered with
    ⟨metrics, hMetrics, hDeliveries, hStale, hGapped, hNonfresh,
      hRepeats, hMissing⟩
  have hE4 :
      E4.reconstructFreshness (writeEvents cameras) =
        .ok ⟨counters.problem, counters.duplicateComponents,
          counters.sequenceGaps⟩ := by
    unfold E4.reconstructFreshness
    rw [hRun]
    rfl
  have hForgetful :=
    tally_forgetful recentNumber_forgets
      (tableSightings cameras)
  rw [← harmless_iff_resumesConsecutively]
  constructor
  · rintro ⟨metrics', counts, e4, hMetrics', _, hE4', _, _, _, _,
      hDuplicates, hGaps⟩
    cases Except.ok.inj (hMetrics.symm.trans hMetrics')
    cases Except.ok.inj (hE4.symm.trans hE4')
    apply hForgetful.2
    · rw [← hRepeats, ← hTracks.repeats]
      exact hDuplicates
    · have hCast := hMissing.symm.trans hGaps
      simp only [hTracks.missing] at hCast
      exact_mod_cast hCast
  · intro hHarmless
    have hSame :=
      tally_eq_of_harmless recentNumber_forgets hHarmless
    rw [hSame] at hDeliveries hStale hGapped hNonfresh
    rw [hSame] at hRepeats hMissing
    exact ⟨metrics, _, _, hMetrics, hProblem, hE4, hDeliveries,
      hStale, hGapped, hNonfresh,
      hRepeats.trans hTracks.repeats.symm,
      hMissing.trans hTracks.missing.symm⟩

/-
  Depth is missing from the second delivery and comes back
  with the number it had.
-/
def absentDepth : List CameraMetrics :=
  [{ events := ⟨[
        { delivery := 1, stream := .depth, frameNumber := 5 },
        { delivery := 1, stream := .color, frameNumber := 7 },
        { delivery := 2, stream := .color, frameNumber := 8 },
        { delivery := 3, stream := .depth, frameNumber := 5 }],
        8⟩ }]

/- The pass does not see the repeat that the others count. -/
theorem absentDepth_repeat_unseen :
    (∀ metrics ∈ absentDepth,
      EventsOrdered metrics.events.items) ∧
      framesetFreshnessMetrics (writeEvents absentDepth) =
        .ok ⟨3, 0, 0, 0, 0, 0⟩ ∧
      framesetProblemCounts (writeEvents absentDepth) =
        .ok ⟨3, 1, 0, 1⟩ ∧
      E4.reconstructFreshness (writeEvents absentDepth) =
        .ok ⟨1, 1, 0⟩ := by
  decide +kernel

theorem twoCameras_resume :
    framesetFreshnessMetrics (writeEvents twoCameras) =
        .ok ⟨4, 1, 1, 2, 1, 2⟩ ∧
      framesetProblemCounts (writeEvents twoCameras) =
        .ok ⟨4, 1, 1, 2⟩ ∧
      E4.reconstructFreshness (writeEvents twoCameras) =
        .ok ⟨2, 1, 2⟩ ∧
      ResumesConsecutively (tableSightings twoCameras) := by
  have hMetrics :
      framesetFreshnessMetrics (writeEvents twoCameras) =
        .ok ⟨4, 1, 1, 2, 1, 2⟩ := by
    decide +kernel
  have hCounts :
      framesetProblemCounts (writeEvents twoCameras) =
        .ok ⟨4, 1, 1, 2⟩ := by
    decide +kernel
  have hE4 :
      E4.reconstructFreshness (writeEvents twoCameras) =
        .ok ⟨2, 1, 2⟩ := by
    decide +kernel
  have hResumes :=
    (framesetFreshness_agrees_iff twoCameras
      (by decide +kernel)).mp
      ⟨_, _, _, hMetrics, hCounts, hE4, rfl, rfl, rfl, rfl, rfl,
        rfl⟩
  exact ⟨hMetrics, hCounts, hE4, hResumes⟩

end Reproduction

end RsCamera
