import RsCamera.V4l2.Diagnostic

/-
  The durations of the stages (the end of the loop of
  `parse_trace`).

  A thread moves between processors, so its events are in
  several lanes of the file.  Sorting all events brings each
  thread's back into its own order, and the durations of a
  stage are those of the thread's own events on one device.

  Key definitions include:
    * `Recorded`
    * `stageEvents`
    * `Event.isBegin`

  Key theorems include:
    * `sortRows_thread`
    * `scanRows_pairing`
    * `scanRows_key`
    * `parseTrace_durationRows`
-/

------------------------------------------------------------
-- Threads And Lanes
------------------------------------------------------------

namespace RsCamera

namespace V4l2

/-
  The file holds the events of each thread, in any places:
  the lanes of the processors may divide them in any way.
-/
structure Recorded
    (threads : Nat → List Event)
    (events : List Event) : Prop where
  own :
    ∀ tid,
      (events.filter (fun event => event.tid = tid)).Perm
        (threads tid)
  increasing :
    ∀ tid,
      (threads tid).Pairwise (fun left right =>
        left.timestampNs < right.timestampNs)

theorem sortRows_perm
    (rows : List EventRow) :
    (sortRows rows).Perm rows :=
  List.perm_insertionSort _ rows

theorem sortRows_sorted
    (rows : List EventRow) :
    (sortRows rows).Pairwise
      (fun left right => left.order ≤ right.order) := by
  have hTotal :
      Std.Total (fun left right : EventRow =>
        left.order ≤ right.order) :=
    ⟨fun left right => le_total left.order right.order⟩
  have hTrans :
      IsTrans EventRow (fun left right =>
        left.order ≤ right.order) :=
    ⟨fun _ _ _ hFirst hSecond => hFirst.trans hSecond⟩
  exact List.pairwise_insertionSort _ rows

/- Rows of one thread are in the order of their times. -/
theorem timestampNs_le_of_order
    {left right : EventRow}
    (hOrder : left.order ≤ right.order) :
    left.timestampNs ≤ right.timestampNs := by
  rcases Prod.Lex.toLex_le_toLex.mp hOrder with
    hBefore | ⟨hSame, -⟩
  · exact hBefore.le
  · exact hSame.le

section Threads

variable {threads : Nat → List Event}
variable {events : List Event}
variable (window : Window)
variable (activations : ActivationIndex)

/- Sorting restores the order of each thread. -/
theorem sortRows_thread
    (hRecorded : Recorded threads events)
    (tid : Nat) :
    (sortRows (events.map (eventRow window activations))).filter
        (fun row => row.tid = (tid : Int)) =
      (threads tid).map (eventRow window activations) := by
  have hOwn :
      ((events.map (eventRow window activations)).filter
          (fun row => row.tid = (tid : Int))) =
        (events.filter (fun event => event.tid = tid)).map
          (eventRow window activations) := by
    rw [List.filter_map]
    congr 1
    apply List.filter_congr
    intro event _
    simp [eventRow]
  have hPerm :
      ((sortRows (events.map (eventRow window
          activations))).filter (fun row => row.tid = (tid : Int))).Perm
        ((threads tid).map (eventRow window activations)) := by
    have hRows :=
      (sortRows_perm (events.map (eventRow window
        activations))).filter (fun row => row.tid = (tid : Int))
    rw [hOwn] at hRows
    exact hRows.trans ((hRecorded.own tid).map _)
  have hIncreasing :
      ((threads tid).map (eventRow window activations)).Pairwise
        (fun left right =>
          left.timestampNs < right.timestampNs) := by
    rw [List.pairwise_map]
    exact (hRecorded.increasing tid).imp (fun hLess => by
      simpa [eventRow] using hLess)
  have hSorted :
      ((sortRows (events.map (eventRow window
          activations))).filter
            (fun row => row.tid = (tid : Int))).Pairwise
        (fun left right =>
          left.timestampNs ≤ right.timestampNs) :=
    ((sortRows_sorted _).imp timestampNs_le_of_order).filter _
  refine List.Perm.eq_of_pairwise ?_ hSorted
    (hIncreasing.imp le_of_lt) hPerm
  -- Rows of a thread with the same time are the same row.
  intro left right hLeft hRight hLess hGreater
  have hTime : left.timestampNs = right.timestampNs :=
    le_antisymm hLess hGreater
  have hNodup :
      (((threads tid).map (eventRow window activations)).map
        EventRow.timestampNs).Nodup :=
    List.pairwise_map.mpr (hIncreasing.imp ne_of_lt)
  exact List.inj_on_of_nodup_map hNodup (hPerm.subset hLeft)
    hRight hTime

end Threads

------------------------------------------------------------
-- The Stacks Of The Loop
------------------------------------------------------------

section

open Brackets

/- A row begins or ends a stage of a thread on a device. -/
def EventRow.mark
    (row : EventRow) : Option (Mark (Int × Int × Span)) :=
  match row.stage with
  | .opening span => some (.opening (row.tid, row.fd, span))
  | .closing span => some (.closing (row.tid, row.fd, span))
  | _ => none

/- The row of a matched pair. -/
def matchedRow (pair : EventRow × EventRow) : Option DurationRow :=
  match pair.2.stage with
  | .closing span => some (durationRow span pair.1 pair.2)
  | _ => none

/- What is matched within. -/
def DurationRow.key (row : DurationRow) : Int × Int × Span :=
  (row.tid, row.fd, row.stage)

theorem recordVideo_stageStacks
    (scan : Scan)
    (row : EventRow) :
    (recordVideo scan row).stageStacks = scan.stageStacks ∧
      (recordVideo scan row).durationRows =
        scan.durationRows := by
  unfold recordVideo
  split <;> simp

/- What the loop does with the stacks is a pairing by keys. -/
theorem scanRows_pairing
    (rows : List EventRow) :
    (scanRows rows).stageStacks =
        (keyedPairUp EventRow.mark rows).opened ∧
      (scanRows rows).durationRows =
        (keyedPairUp EventRow.mark rows).pairs.filterMap
          matchedRow := by
  induction rows using List.reverseRecOn with
  | nil => simp [scanRows, Scan.start, keyedPairUp]
  | append_singleton rows row ih =>
      have hConcat :
          scanRows (rows ++ [row]) =
            recordStage (recordVideo (scanRows rows) row)
              row := by
        simp [scanRows]
      have hVideo := recordVideo_stageStacks (scanRows rows) row
      rw [ih.1, ih.2] at hVideo
      rw [hConcat, keyedPairUp_concat]
      generalize keyedPairUp EventRow.mark rows = pairing
        at hVideo ⊢
      unfold recordStage keyedStep EventRow.mark
      cases hStage : row.stage with
      | selectReturn => exact hVideo
      | unknown stageId => exact hVideo
      | opening span => simp [hVideo]
      | closing span =>
          simp only [hVideo.1]
          cases pairing.opened.getD (row.tid, row.fd, span) [] with
          | nil => simp [hVideo]
          | cons beginRow rest =>
              simp [hVideo, matchedRow, hStage]

theorem filter_matchedRow
    {pairs : List (EventRow × EventRow)}
    (hClosing :
      ∀ pair ∈ pairs, ∃ key,
        pair.2.mark = some (.closing key))
    (key : Int × Int × Span) :
    (pairs.filterMap matchedRow).filter
        (fun row => row.key = key) =
      (pairs.filter (fun pair =>
        belongs EventRow.mark key pair.2)).map
          (fun pair => durationRow key.2.2 pair.1 pair.2) := by
  induction pairs with
  | nil => rfl
  | cons pair pairs ih =>
      simp only [List.forall_mem_cons] at hClosing
      rcases hClosing with ⟨⟨other, hMark⟩, hRest⟩
      have hKey := hMark
      unfold EventRow.mark at hKey
      cases hStage : pair.2.stage with
      | selectReturn => simp [hStage] at hKey
      | unknown stageId => simp [hStage] at hKey
      | opening span => simp [hStage] at hKey
      | closing span =>
          simp only [hStage, Option.some.injEq,
            Mark.closing.injEq] at hKey
          have hMatched :
              matchedRow pair =
                some (durationRow span pair.1 pair.2) := by
            simp [matchedRow, hStage]
          have hDuration :
              (durationRow span pair.1 pair.2).key = other := by
            rw [← hKey]
            rfl
          rw [List.filterMap_cons_some hMatched,
            List.filter_cons, List.filter_cons, ih hRest,
            hDuration]
          by_cases hSame : other = key
          · subst hKey
            subst hSame
            simp [belongs, hMark, Mark.key]
          · simp [belongs, hMark, Mark.key, hSame]

theorem length_matchedRow
    {pairs : List (EventRow × EventRow)}
    (hClosing :
      ∀ pair ∈ pairs, ∃ key,
        pair.2.mark = some (.closing key)) :
    (pairs.filterMap matchedRow).length = pairs.length := by
  rw [List.length_filterMap_eq_countP, List.countP_eq_length]
  intro pair hPair
  rcases hClosing pair hPair with ⟨key, hMark⟩
  unfold EventRow.mark at hMark
  unfold matchedRow
  cases hStage : pair.2.stage <;> simp [hStage] at hMark ⊢

/- Every beginning of any key is in a duration or open. -/
theorem scanRows_total
    (rows : List EventRow) :
    (scanRows rows).durationRows.length +
        ((scanRows rows).stageStacks.items.map
          (fun item => item.2.length)).sum =
      rows.countP (isOpening EventRow.mark) := by
  rcases scanRows_pairing rows with ⟨hStacks, hDurations⟩
  rw [hStacks, hDurations,
    length_matchedRow (keyedPairUp_closing rows)]
  exact length_pairs_add_height rows

/-
  The durations and the open beginnings of a key, from the
  rows of the key alone.
-/
theorem scanRows_key
    (rows : List EventRow)
    (key : Int × Int × Span) :
    (scanRows rows).stageStacks.getD key [] =
        (pairUp (isOpening EventRow.mark)
          (rows.filter (belongs EventRow.mark key))).stack ∧
      (scanRows rows).durationRows.filter
          (fun row => row.key = key) =
        (pairUp (isOpening EventRow.mark)
          (rows.filter (belongs EventRow.mark key))).pairs.map
            (fun pair =>
              durationRow key.2.2 pair.1 pair.2) := by
  rcases scanRows_pairing rows with ⟨hStacks, hDurations⟩
  have hView := @view_keyedPairUp _ _ _ EventRow.mark key rows
  rw [hStacks, hDurations,
    filter_matchedRow (keyedPairUp_closing rows), ← hView]
  exact ⟨rfl, rfl⟩

end

------------------------------------------------------------
-- The Events Of A Key
------------------------------------------------------------

section

open Brackets

/- An event that begins a stage. -/
def Event.isBegin (event : Event) : Bool :=
  match stageOf event.stageId with
  | .opening _ => true
  | _ => false

/- A thread's events of one stage on one device. -/
def stageEvents
    (thread : List Event)
    (fd : Int)
    (span : Span) : List Event :=
  thread.filter (fun event =>
    event.fd = fd ∧
      (stageOf event.stageId = .opening span ∨
        stageOf event.stageId = .closing span))

theorem isOpening_eventRow
    (window : Window)
    (activations : ActivationIndex)
    (event : Event) :
    isOpening EventRow.mark (eventRow window activations event) =
      event.isBegin := by
  unfold isOpening EventRow.mark Event.isBegin
  simp only [eventRow]
  cases stageOf event.stageId <;> simp

theorem belongs_eventRow_iff
    (window : Window)
    (activations : ActivationIndex)
    (event : Event)
    (tid : Nat)
    (fd : Int)
    (span : Span) :
    belongs EventRow.mark ((tid : Int), fd, span)
        (eventRow window activations event) = true ↔
      event.tid = tid ∧ event.fd = fd ∧
        (stageOf event.stageId = .opening span ∨
          stageOf event.stageId = .closing span) := by
  rw [belongs, decide_eq_true_iff, EventRow.mark]
  simp only [eventRow]
  cases stageOf event.stageId <;> simp [Mark.key]

section Keys

variable {threads : Nat → List Event}
variable {events : List Event}
variable (window : Window)
variable (activations : ActivationIndex)

theorem Recorded.tid_eq
    (hRecorded : Recorded threads events)
    {tid : Nat}
    {event : Event}
    (hMem : event ∈ threads tid) :
    event.tid = tid := by
  have hOwn := (hRecorded.own tid).mem_iff.mpr hMem
  simpa using List.of_mem_filter hOwn

/- The rows of a key, in the order of the loop. -/
theorem sortRows_key
    (hRecorded : Recorded threads events)
    (tid : Nat)
    (fd : Int)
    (span : Span) :
    (sortRows (events.map (eventRow window activations))).filter
        (belongs EventRow.mark ((tid : Int), fd, span)) =
      (stageEvents (threads tid) fd span).map
        (eventRow window activations) := by
  have hThread :
      ∀ row : EventRow,
        belongs EventRow.mark ((tid : Int), fd, span) row =
          (belongs EventRow.mark ((tid : Int), fd, span) row &&
            decide (row.tid = (tid : Int))) := by
    intro row
    unfold belongs EventRow.mark
    cases row.stage <;> simp [Mark.key]
    all_goals
      intro hTid _ _
      exact hTid
  rw [List.filter_congr (fun row _ => hThread row),
    ← List.filter_filter, sortRows_thread window activations
      hRecorded, List.filter_map]
  congr 1
  apply List.filter_congr
  intro event hMem
  rw [Bool.eq_iff_iff, Function.comp_apply,
    belongs_eventRow_iff]
  simp [hRecorded.tid_eq hMem]

theorem stageEvents_increasing
    (hRecorded : Recorded threads events)
    (tid : Nat)
    (fd : Int)
    (span : Span) :
    (stageEvents (threads tid) fd span).Pairwise
      (fun left right =>
        left.timestampNs < right.timestampNs) :=
  (hRecorded.increasing tid).filter _

end Keys

/-
  What is reported of a key whose events are `own`: each
  beginning is in one duration or open, each end in at most
  one duration, and if no end comes before its beginning,
  an end is matched with the beginning that it closes.
-/
structure Timed
    (row : Event → EventRow)
    (span : Span)
    (own : List Event)
    (durations : List DurationRow)
    (unmatched : List EventRow) : Prop where
  durations_eq :
    durations =
      (pairUp Event.isBegin own).pairs.map (fun pair =>
        durationRow span (row pair.1) (row pair.2))
  unmatched_eq :
    unmatched = (pairUp Event.isBegin own).stack.map row
  begins :
    (durations.map DurationRow.beginNs ++
        unmatched.map EventRow.timestampNs).Perm
      ((own.filter Event.isBegin).map
        (fun event => (event.timestampNs : Int)))
  begins_nodup :
    (durations.map DurationRow.beginNs ++
      unmatched.map EventRow.timestampNs).Nodup
  ends :
    (durations.map DurationRow.endNs).Sublist
      ((own.filter (fun event => !event.isBegin)).map
        (fun event => (event.timestampNs : Int)))
  ends_nodup :
    (durations.map DurationRow.endNs).Nodup
  counts :
    durations.length + unmatched.length =
      own.countP Event.isBegin
  forward :
    ∀ duration ∈ durations,
      duration.beginNs < duration.endNs ∧
        0 ≤ duration.durationMs
  nested :
    (∀ front, front <+: own →
      front.countP (fun event => !event.isBegin) ≤
        front.countP Event.isBegin) →
    ∀ before last after,
      own = before ++ last :: after →
      last.isBegin = false →
      ∃ front first mid,
        before = front ++ first :: mid ∧
          first.isBegin = true ∧
          Balanced Event.isBegin mid ∧
          durationRow span (row first) (row last) ∈ durations

section Timing

variable {row : Event → EventRow}
variable {own : List Event}

/- Two events of a thread, one behind the other. -/
theorem timestampNs_lt_of_sublist
    (hIncreasing :
      own.Pairwise (fun left right =>
        left.timestampNs < right.timestampNs))
    {first last : Event}
    (hSublist : [first, last].Sublist own) :
    first.timestampNs < last.timestampNs :=
  List.pairwise_iff_forall_sublist.mp hIncreasing hSublist

theorem timestamps_nodup
    (hIncreasing :
      own.Pairwise (fun left right =>
        left.timestampNs < right.timestampNs))
    (keep : Event → Bool) :
    ((own.filter keep).map
      (fun event => (event.timestampNs : Int))).Nodup := by
  apply List.pairwise_map.mpr
  apply (hIncreasing.filter keep).imp
  intro left right hLess hSame
  omega

theorem timed_pairUp
    (hRow :
      ∀ event, (row event).timestampNs = event.timestampNs)
    (hIncreasing :
      own.Pairwise (fun left right =>
        left.timestampNs < right.timestampNs))
    (span : Span) :
    Timed row span own
      ((pairUp Event.isBegin own).pairs.map (fun pair =>
        durationRow span (row pair.1) (row pair.2)))
      ((pairUp Event.isBegin own).stack.map row) := by
  have hBegins :
      (((pairUp Event.isBegin own).pairs.map (fun pair =>
          durationRow span (row pair.1) (row pair.2))).map
            DurationRow.beginNs ++
        ((pairUp Event.isBegin own).stack.map row).map
          EventRow.timestampNs) =
        ((pairUp Event.isBegin own).pairs.map Prod.fst ++
          (pairUp Event.isBegin own).stack).map
            (fun event => (event.timestampNs : Int)) := by
    simp [durationRow, hRow, Function.comp_def]
  have hEnds :
      ((pairUp Event.isBegin own).pairs.map (fun pair =>
          durationRow span (row pair.1) (row pair.2))).map
            DurationRow.endNs =
        ((pairUp Event.isBegin own).pairs.map Prod.snd).map
          (fun event => (event.timestampNs : Int)) := by
    simp [durationRow, hRow, Function.comp_def]
  have hPerm :=
    (@pairUp_perm _ Event.isBegin own).map
      (fun event => (event.timestampNs : Int))
  have hSublist :=
    (@pairUp_sublist _ Event.isBegin own).map
      (fun event => (event.timestampNs : Int))
  constructor
  case durations_eq => rfl
  case unmatched_eq => rfl
  case begins =>
    rw [hBegins]
    exact hPerm
  case begins_nodup =>
    rw [hBegins]
    exact hPerm.nodup_iff.mpr (timestamps_nodup hIncreasing _)
  case ends =>
    rw [hEnds]
    exact hSublist
  case ends_nodup =>
    rw [hEnds]
    exact (timestamps_nodup hIncreasing _).sublist hSublist
  case counts =>
    have hLength := (@pairUp_perm _ Event.isBegin own).length_eq
    rw [List.countP_eq_length_filter, ← hLength]
    simp
  case forward =>
    intro duration hDuration
    rcases List.mem_map.mp hDuration with ⟨pair, hPair, rfl⟩
    have hLess :=
      timestampNs_lt_of_sublist hIncreasing
        (pairUp_ordered own pair hPair)
    simp only [durationRow, hRow]
    refine ⟨by omega, ?_⟩
    apply div_nonneg _ (by norm_num)
    exact_mod_cast (by omega :
      (0 : Int) ≤ pair.2.timestampNs - pair.1.timestampNs)
  case nested =>
    intro hProper before last after hSplit hLast
    have hSurplus :
        before.countP (fun event => !event.isBegin) <
          before.countP Event.isBegin := by
      have hPrefix := hProper (before ++ [last])
        ⟨after, by simp [hSplit]⟩
      simp only [List.countP_append, List.countP_singleton,
        hLast, Bool.not_false] at hPrefix
      simp only [if_true, Bool.false_eq_true, if_false] at hPrefix
      omega
    rcases @pairUp_closing _ Event.isBegin before after last
      hLast hSurplus with
      ⟨front, first, mid, hBefore, hFirst, hMid, hPair⟩
    rw [← hSplit] at hPair
    exact ⟨front, first, mid, hBefore, hFirst, hMid,
      List.mem_map.mpr ⟨(first, last), hPair, rfl⟩⟩

end Timing

end

------------------------------------------------------------
-- The Durations Of A Trace
------------------------------------------------------------

open Brackets

theorem parseTrace_of_ok
    {file : List UInt8}
    {lifecycle : List LifecycleRow}
    {window : Window}
    {header : Header}
    {events : List Event}
    (hWindow : phaseWindow lifecycle = .ok window)
    (hRead : readTrace file = .ok (header, events))
    (activationRows : List ActivationRow)
    (compactOutput : Bool) :
    ∃ report,
      parseTrace file lifecycle activationRows compactOutput =
        .ok report := by
  unfold parseTrace
  rw [hWindow, hRead]
  exact ⟨_, rfl⟩

theorem parseTrace_durationRows
    {file : List UInt8}
    {lifecycle : List LifecycleRow}
    {window : Window}
    {header : Header}
    {events : List Event}
    {threads : Nat → List Event}
    (hWindow : phaseWindow lifecycle = .ok window)
    (hRead : readTrace file = .ok (header, events))
    (hRecorded : Recorded threads events)
    (activationRows : List ActivationRow)
    (compactOutput : Bool) :
    ∃ report,
      parseTrace file lifecycle activationRows compactOutput =
          .ok report ∧
        report.durationRows.length +
            report.summary.unmatchedBeginCount =
          events.countP Event.isBegin ∧
        ∀ (tid : Nat) (fd : Int) (span : Span),
          Timed (eventRow window (loadActivations activationRows))
            span
            (stageEvents (threads tid) fd span)
            (report.durationRows.filter (fun row =>
              row.tid = tid ∧ row.fd = fd ∧ row.stage = span))
            ((scanRows report.eventRows).stageStacks.getD
              ((tid : Int), fd, span) []) := by
  rcases parseTrace_of_ok hWindow hRead activationRows
    compactOutput with ⟨report, hParse⟩
  refine ⟨report, hParse, ?_⟩
  rcases parseTrace_ok hParse with
    ⟨window', header', events', hWindow', hRead', hEvents,
      hDurations, -, hSummary⟩
  rw [hWindow] at hWindow'
  rw [hRead] at hRead'
  cases hWindow'
  cases hRead'
  constructor
  · rw [hDurations, hSummary]
    simp only [summarize]
    rw [scanRows_total, hEvents, (sortRows_perm _).countP_eq,
      List.countP_map]
    congr 1
    funext event
    exact isOpening_eventRow _ _ event
  · intro tid fd span
    have hKey :
        ∀ row : DurationRow,
          decide (row.tid = tid ∧ row.fd = fd ∧
            row.stage = span) =
              decide (row.key = ((tid : Int), fd, span)) := by
      intro row
      simp [DurationRow.key]
    rcases scanRows_key report.eventRows ((tid : Int), fd, span)
      with ⟨hStack, hFound⟩
    rw [List.filter_congr (fun row _ => hKey row), hDurations,
      hFound, hStack, hEvents,
      sortRows_key window _ hRecorded,
      pairUp_map (isOpening_eventRow _ _), List.map_map]
    exact timed_pairUp (fun event => rfl)
      (stageEvents_increasing hRecorded tid fd span) span

/-
  A thread begins a callback on one processor and ends it on
  another, whose lane comes first.  A second thread does not
  get to the end of its own.
-/
def laneHeader : List UInt8 :=
  [0x52, 0x53, 0x56, 0x34, 0x4c, 0x32, 0x44, 0,
    1, 0, 0, 0, 0, 16, 0, 0, 32, 0, 0, 0, 0, 0, 0, 0,
    8, 0, 0, 0, 0, 0, 0, 0, 3, 0, 0, 0, 0, 0, 0, 0,
    0, 0, 0, 0, 0, 0, 0, 0] ++ List.replicate 4048 0

/- The bytes of an event. -/
def laneEvent
    (timestampNs tid cpu stageId : UInt8) : List UInt8 :=
  [timestampNs, 0, 0, 0, 0, 0, 0, 0, tid, 0, 0, 0, cpu, 0,
    stageId, 0, 5, 0, 0, 0, 0, 0, 0, 0, 1, 0, 0, 0, 0, 0, 0, 0]

/- Three events of two threads. -/
def laneFile : List UInt8 :=
  laneHeader ++
    (laneEvent 20 7 0 9 ++ laneEvent 10 7 1 8 ++
      laneEvent 15 8 1 8)

/- A steady state around them. -/
def laneLifecycle : List LifecycleRow :=
  [⟨"phase_marker", "steady_state_begin", 0⟩,
    ⟨"phase_marker", "steady_state_end", 100⟩]

/- The end of a stage. -/
def laneEnd : Event := ⟨20, 7, 0, 9, 5, 0, 1⟩

/- Its beginning, on another processor. -/
def laneBegin : Event := ⟨10, 7, 1, 8, 5, 0, 1⟩

/- A beginning without an end. -/
def laneOther : Event := ⟨15, 8, 1, 8, 5, 0, 1⟩

/- The events by thread. -/
def laneThreads (tid : Nat) : List Event :=
  if tid = 7 then [laneBegin, laneEnd]
  else if tid = 8 then [laneOther]
  else []

theorem recorded_laneThreads :
    Recorded laneThreads [laneEnd, laneBegin, laneOther] where
  own := by
    intro tid
    by_cases hFirst : tid = 7
    · subst hFirst
      decide
    · by_cases hSecond : tid = 8
      · subst hSecond
        decide
      · simp [laneThreads, laneEnd, laneBegin, laneOther,
          hFirst, hSecond, Ne.symm hFirst, Ne.symm hSecond]
  increasing := by
    intro tid
    unfold laneThreads
    split
    · decide
    · split <;> simp

theorem parseTrace_durationRows_lanes :
    ∃ report,
      parseTrace laneFile laneLifecycle [] false = .ok report ∧
        report.durationRows.length +
            report.summary.unmatchedBeginCount = 2 ∧
        (report.durationRows.filter (fun row =>
          row.tid = 7 ∧ row.fd = 5 ∧
            row.stage = .callback)).map
              (fun row => (row.beginNs, row.endNs)) =
          [(10, 20)] := by
  have hWindow : phaseWindow laneLifecycle = .ok ⟨0, 100⟩ := by
    decide +kernel
  have hRead :
      readTrace laneFile =
        .ok (⟨[0x52, 0x53, 0x56, 0x34, 0x4c, 0x32, 0x44, 0],
          1, 4096, 32, 8, 3, 0⟩,
          [laneEnd, laneBegin, laneOther]) := by
    decide +kernel
  rcases parseTrace_durationRows hWindow hRead
    recorded_laneThreads [] false with
    ⟨report, hParse, hTotal, hKeys⟩
  refine ⟨report, hParse, hTotal, ?_⟩
  have hTimed := hKeys 7 5 .callback
  have hDurations := hTimed.durations_eq
  simp only [Nat.cast_ofNat] at hDurations
  rw [hDurations]
  decide +kernel

end V4l2

end RsCamera
