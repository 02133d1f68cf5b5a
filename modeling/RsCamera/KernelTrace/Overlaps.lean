import Mathlib.Algebra.BigOperators.Ring.Finset
import Mathlib.Algebra.Order.BigOperators.Group.Finset
import Mathlib.Tactic.IntervalCases
import RsCamera.KernelTrace.Interrupts

/-
  The interrupt time of an activation, as it is summed over a
  slice of the intervals of its thread and as it really was.

  The slice goes back one interval before the release. It is
  too short if an interval before that one is still open at
  the release, and the sums count an instant as often as there
  are intervals open at it.

  Key definitions include:
    * `plainOverlapNs`
    * `Interrupt.openAt`, `instants`, `elapsedNs`
    * `lastBegunOn`
    * `WellNested`, `Tracked`

  Key theorems include:
    * `correctedRows_plain_iff`
    * `sum_inWindowNs`
    * `correctedRows_elapsed_iff`
    * `openAt_once`
-/

------------------------------------------------------------
-- Sums Over The Slice
------------------------------------------------------------

namespace RsCamera

namespace KernelTrace

/- The time of an interval that lies in a window. -/
def Interrupt.inWindowNs
    (begin finish : Int)
    (row : Interrupt) : Int :=
  overlapNs begin finish row.beginNs row.endNs

/- The same for the intervals of one kind. -/
def Interrupt.ofKindNs
    (begin finish : Int)
    (kind : IrqKind)
    (row : Interrupt) : Int :=
  if row.kind = kind then
    row.inWindowNs begin finish
  else
    0

/- All recorded overlaps of a thread, for one kind. -/
def plainOverlapNs
    (rows : List Interrupt)
    (kind : IrqKind)
    (activation : IrqActivation) : Int :=
  ((rows.filter (fun row =>
      row.kind = kind ∧
        row.contextTid = activation.tid)).map
    (Interrupt.inWindowNs activation.releaseNs
      activation.completionNs)).sum

theorem interruptLoop_eq
    (begin finish : Int)
    (interrupts : List Interrupt)
    (totals : Int × Int) :
    interruptLoop begin finish interrupts totals =
      (totals.1 +
          (interrupts.map
            (Interrupt.ofKindNs begin finish .hardirq)).sum,
        totals.2 +
          (interrupts.map
            (Interrupt.ofKindNs begin finish
              .softirq)).sum) := by
  induction interrupts generalizing totals with
  | nil => simp [interruptLoop]
  | cons interrupt rest ih =>
      rcases totals with ⟨hardirqNs, softirqNs⟩
      simp only [interruptLoop, ih, List.map_cons,
        List.sum_cons, Interrupt.ofKindNs,
        Interrupt.inWindowNs]
      cases interrupt.kind with
      | hardirq => simp [add_assoc]
      | softirq => simp [add_assoc]

/- A sum over the rows of a kind is one over all of them. -/
theorem sum_filter_kind
    (begin finish : Int)
    (kind : IrqKind)
    (rows : List Interrupt) :
    ((rows.filter (fun row => row.kind = kind)).map
        (Interrupt.inWindowNs begin finish)).sum =
      (rows.map
        (Interrupt.ofKindNs begin finish kind)).sum := by
  induction rows with
  | nil => rfl
  | cons row rest ih =>
      by_cases hKind : row.kind = kind
      · simp [Interrupt.ofKindNs, hKind, ih]
      · simp [Interrupt.ofKindNs, hKind, ih]

/- The plain sum, over the intervals in order. -/
theorem plainOverlapNs_eq
    (rows : List Interrupt)
    (kind : IrqKind)
    (activation : IrqActivation) :
    plainOverlapNs rows kind activation =
      ((threadInterrupts rows activation.tid).map
        (Interrupt.ofKindNs activation.releaseNs
          activation.completionNs kind)).sum := by
  have hPerm :=
    (threadInterrupts_perm rows activation.tid).map
      (Interrupt.ofKindNs activation.releaseNs
        activation.completionNs kind)
  have hBoth :
      rows.filter (fun row =>
          row.kind = kind ∧
            row.contextTid = activation.tid) =
        (rows.filter (fun row =>
          row.contextTid = activation.tid)).filter
            (fun row => row.kind = kind) := by
    simp [List.filter_filter]
  rw [hPerm.sum_eq, ← sum_filter_kind, ← hBoth]
  rfl

/-
  The candidates have the overlaps of all intervals from the
  last one on that begins before the release.
-/
theorem sum_candidates
    {interrupts : List Interrupt}
    (hSorted :
      interrupts.Pairwise (fun first next =>
        first.beginNs ≤ next.beginNs))
    (begin : Int)
    {finish : Int}
    {weight : Interrupt → Int}
    (hWeight :
      ∀ row, finish ≤ row.beginNs → weight row = 0) :
    ((candidateInterrupts interrupts begin finish).map
        weight).sum =
      ((interrupts.drop
        (interrupts.countP (fun row =>
          row.beginNs < begin) - 1)).map weight).sum := by
  unfold candidateInterrupts slice
  simp only [bisectLeft_map Interrupt.beginNs hSorted]
  have hFirst :=
    leftFirst_lt Interrupt.beginNs hSorted finish
  -- What stands behind the slice begins after the window.
  have hBehind :
      ∀ row ∈ interrupts.drop
          (interrupts.countP (fun row =>
            row.beginNs < finish)),
        weight row = 0 := by
    intro row hRow
    rw [drop_countP hFirst] at hRow
    apply hWeight
    simpa using (List.mem_filter.mp hRow).2
  generalize
    interrupts.countP (fun row => row.beginNs < finish) =
      pastLast at hBehind ⊢
  generalize
    interrupts.countP (fun row => row.beginNs < begin) - 1 =
      first
  have hParts :
      interrupts.drop first =
        (interrupts.take pastLast).drop first ++
          (interrupts.drop pastLast).drop
            (first - (interrupts.take pastLast).length) := by
    rw [← List.drop_append, List.take_append_drop]
  have hNone :
      (((interrupts.drop pastLast).drop
          (first - (interrupts.take pastLast).length)).map
            weight).sum = 0 := by
    apply List.sum_eq_zero
    intro value hValue
    rcases List.mem_map.mp hValue with ⟨row, hRow, hIs⟩
    exact hIs.symm.trans
      (hBehind row (List.mem_of_mem_drop hRow))
  rw [hParts, List.map_append, List.sum_append, hNone,
    add_zero]

/- Overlaps of intervals with an empty window are empty. -/
theorem ofKindNs_nonneg
    (begin finish : Int)
    (kind : IrqKind)
    (row : Interrupt) :
    0 ≤ row.ofKindNs begin finish kind := by
  unfold Interrupt.ofKindNs
  split
  · exact overlapNs_nonneg _ _ _ _
  · exact le_refl 0

theorem ofKindNs_of_le_begin
    (begin : Int)
    {finish : Int}
    (kind : IrqKind)
    (row : Interrupt)
    (hLe : finish ≤ row.beginNs) :
    row.ofKindNs begin finish kind = 0 := by
  unfold Interrupt.ofKindNs
  split
  · exact overlapNs_of_le_start hLe
  · rfl

/- An interval that has begun is in no sum if it is over. -/
theorem ofKindNs_eq_zero_iff
    {begin finish : Int}
    (hWindow : begin < finish)
    {row : Interrupt}
    (hBegun : row.beginNs < begin) :
    (∀ kind, row.ofKindNs begin finish kind = 0) ↔
      row.endNs ≤ begin := by
  constructor
  · intro hZero
    have hOwn := hZero row.kind
    simp only [Interrupt.ofKindNs, if_true,
      Interrupt.inWindowNs, overlapNs] at hOwn
    omega
  · intro hOver kind
    unfold Interrupt.ofKindNs
    split
    · exact overlapNs_of_finish_le hOver
    · rfl

theorem sum_map_eq_zero_iff
    {weight : Interrupt → Int}
    (hNonneg : ∀ row, 0 ≤ weight row)
    (rows : List Interrupt) :
    (rows.map weight).sum = 0 ↔
      ∀ row ∈ rows, weight row = 0 := by
  induction rows with
  | nil => simp
  | cons row rest ih =>
      have hRest : 0 ≤ (rest.map weight).sum :=
        List.sum_nonneg (by
          intro value hValue
          rcases List.mem_map.mp hValue with ⟨x, -, hIs⟩
          exact hIs ▸ hNonneg x)
      have hRow := hNonneg row
      rw [List.map_cons, List.sum_cons, List.forall_mem_cons,
        ← ih]
      omega

/-
  No interval of the thread is still open at the release that
  begins before another which begins before the release.
-/
def NothingHidden
    (rows : List Interrupt)
    (activation : IrqActivation) : Prop :=
  (threadInterrupts rows activation.tid).Pairwise
    (fun first next =>
      next.beginNs < activation.releaseNs →
        first.endNs ≤ activation.releaseNs)

instance
    (rows : List Interrupt)
    (activation : IrqActivation) :
    Decidable (NothingHidden rows activation) :=
  inferInstanceAs (Decidable (List.Pairwise _ _))

/- Both sums of an activation, over the intervals in order. -/
theorem correctActivation_sums
    (rows : List Interrupt)
    (activation : IrqActivation) :
    (correctActivation rows activation).hardirqNs =
        ((candidateInterrupts
          (threadInterrupts rows activation.tid)
          activation.releaseNs activation.completionNs).map
            (Interrupt.ofKindNs activation.releaseNs
              activation.completionNs .hardirq)).sum ∧
      (correctActivation rows activation).softirqNs =
        ((candidateInterrupts
          (threadInterrupts rows activation.tid)
          activation.releaseNs activation.completionNs).map
            (Interrupt.ofKindNs activation.releaseNs
              activation.completionNs .softirq)).sum := by
  simp [correctActivation, interruptLoop_eq]

/- The intervals before the last one begun by the release. -/
def hiddenInterrupts
    (interrupts : List Interrupt)
    (begin : Int) : List Interrupt :=
  interrupts.take
    (interrupts.countP (fun row => row.beginNs < begin) - 1)

/- The sum of the slice and of what it leaves out. -/
theorem sum_hidden_add_candidates
    (rows : List Interrupt)
    (activation : IrqActivation)
    {weight : Interrupt → Int}
    (hWeight :
      ∀ row, activation.completionNs ≤ row.beginNs →
        weight row = 0) :
    let interrupts := threadInterrupts rows activation.tid
    (interrupts.map weight).sum =
      ((hiddenInterrupts interrupts
        activation.releaseNs).map weight).sum +
      ((candidateInterrupts interrupts activation.releaseNs
        activation.completionNs).map weight).sum := by
  intro interrupts
  have hCandidates :=
    sum_candidates (threadInterrupts_sorted rows activation.tid)
      activation.releaseNs hWeight
  simp only [interrupts, hCandidates, hiddenInterrupts]
  rw [← List.sum_append, ← List.map_append,
    List.take_append_drop]

/- Every hidden interval has begun before the release. -/
theorem leftFirst_begun
    (rows : List Interrupt)
    (tid begin : Int) :
    LeftFirst
      (fun row : Interrupt => decide (row.beginNs < begin))
      (threadInterrupts rows tid) :=
  leftFirst_lt Interrupt.beginNs
    (threadInterrupts_sorted rows tid) begin

theorem begun_of_hidden
    {rows : List Interrupt}
    {tid begin : Int}
    {row : Interrupt}
    (hRow :
      row ∈ hiddenInterrupts (threadInterrupts rows tid)
        begin) :
    row.beginNs < begin := by
  have hTake :
      row ∈ (threadInterrupts rows tid).take
        ((threadInterrupts rows tid).countP
          (fun row => row.beginNs < begin)) :=
    List.take_subset_take_left _ (Nat.sub_le _ 1) hRow
  rw [take_countP (leftFirst_begun rows tid begin)] at hTake
  simpa using (List.mem_filter.mp hTake).2

theorem nothingHidden_iff
    (rows : List Interrupt)
    (activation : IrqActivation) :
    NothingHidden rows activation ↔
      ∀ row ∈ hiddenInterrupts
          (threadInterrupts rows activation.tid)
          activation.releaseNs,
        row.endNs ≤ activation.releaseNs := by
  have hIff :=
    forall_take_countP_iff
      (leftFirst_begun rows activation.tid
        activation.releaseNs)
      (fun row => row.endNs ≤ activation.releaseNs)
  simp only [decide_eq_true_eq] at hIff
  exact hIff.symm

/- The sum of a kind is plain if the hidden ones have none. -/
theorem candidates_plain_iff
    (rows : List Interrupt)
    (kind : IrqKind)
    (activation : IrqActivation) :
    ((candidateInterrupts
          (threadInterrupts rows activation.tid)
          activation.releaseNs activation.completionNs).map
            (Interrupt.ofKindNs activation.releaseNs
              activation.completionNs kind)).sum =
        plainOverlapNs rows kind activation ↔
      ∀ row ∈ hiddenInterrupts
          (threadInterrupts rows activation.tid)
          activation.releaseNs,
        row.ofKindNs activation.releaseNs
          activation.completionNs kind = 0 := by
  have hParts :=
    @sum_hidden_add_candidates rows activation
      (Interrupt.ofKindNs activation.releaseNs
        activation.completionNs kind)
      (ofKindNs_of_le_begin activation.releaseNs kind)
  rw [plainOverlapNs_eq, ← sum_map_eq_zero_iff
    (ofKindNs_nonneg activation.releaseNs
      activation.completionNs kind)]
  simp only at hParts
  omega

/- The threads of the activations are the application's. -/
theorem correctActivation_rows
    {steadyBegin steadyEnd : Int}
    {xhciIrqIds : List Int}
    {events : List KernelEvent}
    {activations : List IrqActivation}
    {activation : IrqActivation}
    (hMem : activation ∈ activations) :
    let scope :=
      traceScope steadyBegin steadyEnd xhciIrqIds activations
    correctActivation
        (irqTrace scope events).applicationRows activation =
      correctActivation (irqTrace scope events).rows
        activation := by
  intro scope
  have hTid : activation.tid ∈ scope.applicationTids :=
    List.mem_map_of_mem hMem
  simp only [correctActivation,
    threadInterrupts_application (irqTrace_kept scope events)
      hTid]

/- Every row is made from the intervals of the whole trace. -/
theorem exists_correctActivation
    {steadyBegin steadyEnd : Int}
    {xhciIrqIds : List Int}
    {events : List KernelEvent}
    {activations : List IrqActivation}
    {row : CorrectedActivation}
    (hRow :
      row ∈ correctedRows steadyBegin steadyEnd xhciIrqIds
        events activations) :
    ∃ activation,
      row.activation = activation ∧
        row =
          correctActivation
            (irqTrace
              (traceScope steadyBegin steadyEnd xhciIrqIds
                activations) events).rows
            activation := by
  rcases List.mem_map.mp hRow with ⟨activation, hMem, hIs⟩
  refine ⟨activation, ?_, ?_⟩
  · rw [← hIs]
    rfl
  · rw [← hIs]
    exact correctActivation_rows hMem

/-
  Whatever the recorded intervals: the slice gives the plain
  sums exactly if the window is empty or nothing is hidden.
-/
theorem correctActivation_plain_iff
    (rows : List Interrupt)
    (activation : IrqActivation) :
    ((correctActivation rows activation).hardirqNs =
        plainOverlapNs rows .hardirq activation ∧
      (correctActivation rows activation).softirqNs =
        plainOverlapNs rows .softirq activation) ↔
      activation.completionNs ≤ activation.releaseNs ∨
        NothingHidden rows activation := by
  rcases correctActivation_sums rows activation with
    ⟨hHard, hSoft⟩
  rw [hHard, hSoft, candidates_plain_iff,
    candidates_plain_iff, nothingHidden_iff]
  constructor
  · intro hBoth
    by_cases hWindow :
        activation.completionNs ≤ activation.releaseNs
    · exact Or.inl hWindow
    · right
      intro row hRow
      apply (ofKindNs_eq_zero_iff (not_le.mp hWindow)
        (begun_of_hidden hRow)).mp
      intro kind
      cases kind with
      | hardirq => exact hBoth.1 row hRow
      | softirq => exact hBoth.2 row hRow
  · intro hEither
    have hZero :
        ∀ kind, ∀ row ∈ hiddenInterrupts
            (threadInterrupts rows activation.tid)
            activation.releaseNs,
          row.ofKindNs activation.releaseNs
            activation.completionNs kind = 0 := by
      intro kind row hRow
      unfold Interrupt.ofKindNs
      split
      · rcases hEither with hWindow | hOver
        · exact overlapNs_of_empty hWindow _ _
        · exact overlapNs_of_finish_le (hOver row hRow)
      · rfl
    exact ⟨hZero .hardirq, hZero .softirq⟩

/-
  In every trace and for every activation of the table: the
  interrupt times are the plain sums over the recorded
  intervals of the thread exactly if the activation is empty
  or nothing is hidden from the slice.
-/
theorem correctedRows_plain_iff
    (steadyBegin steadyEnd : Int)
    (xhciIrqIds : List Int)
    (events : List KernelEvent)
    (activations : List IrqActivation)
    (row : CorrectedActivation)
    (hRow :
      row ∈ correctedRows steadyBegin steadyEnd xhciIrqIds
        events activations) :
    let rows :=
      (irqTrace
        (traceScope steadyBegin steadyEnd xhciIrqIds
          activations) events).rows
    (row.hardirqNs =
          plainOverlapNs rows .hardirq row.activation ∧
        row.softirqNs =
          plainOverlapNs rows .softirq row.activation) ↔
      row.activation.completionNs ≤
          row.activation.releaseNs ∨
        NothingHidden rows row.activation := by
  rcases exists_correctActivation hRow with
    ⟨activation, hActivation, hIs⟩
  rw [hActivation, hIs]
  exact correctActivation_plain_iff _ activation

/-
  A softirq of one hundred nanoseconds that two short hardirqs
  interrupt, in the context of thread 7.
-/
def interruptedSoftirq : List KernelEvent :=
  [⟨0, 7, 0, .entry .softirq, 3⟩,
    ⟨10, 7, 0, .entry .hardirq, 40⟩,
    ⟨20, 7, 0, .exit .hardirq, 40⟩,
    ⟨30, 7, 0, .entry .hardirq, 40⟩,
    ⟨40, 7, 0, .exit .hardirq, 40⟩,
    ⟨100, 7, 0, .exit .softirq, 3⟩]

/-
  An activation during the rest of the softirq: the hardirq
  that began last before it hides the softirq.
-/
def lateActivation : IrqActivation :=
  ⟨7, 50, 90, 1⟩

theorem lateActivation_misses_softirq :
    ∃ row ∈ correctedRows 0 200 [] interruptedSoftirq
        [lateActivation],
      row.softirqNs = 0 ∧
        plainOverlapNs
            (irqTrace (traceScope 0 200 [] [lateActivation])
              interruptedSoftirq).rows
            .softirq row.activation = 40 := by
  decide +kernel

/- An activation that begins with the first hardirq. -/
def earlyActivation : IrqActivation :=
  ⟨7, 10, 35, 1⟩

theorem earlyActivation_plain :
    ∃ row ∈ correctedRows 0 200 [] interruptedSoftirq
        [earlyActivation],
      row.hardirqNs =
          plainOverlapNs
            (irqTrace (traceScope 0 200 [] [earlyActivation])
              interruptedSoftirq).rows
            .hardirq row.activation ∧
        row.softirqNs =
          plainOverlapNs
            (irqTrace (traceScope 0 200 [] [earlyActivation])
              interruptedSoftirq).rows
            .softirq row.activation := by
  have hRow :
      correctActivation
          (irqTrace (traceScope 0 200 [] [earlyActivation])
            interruptedSoftirq).applicationRows
          earlyActivation ∈
        correctedRows 0 200 [] interruptedSoftirq
          [earlyActivation] :=
    List.mem_map_of_mem List.mem_cons_self
  refine ⟨_, hRow, ?_⟩
  apply (correctedRows_plain_iff 0 200 [] interruptedSoftirq
    [earlyActivation] _ hRow).mpr
  right
  decide +kernel

------------------------------------------------------------
-- Instants
------------------------------------------------------------

/- Whether the interrupt runs in the nanosecond at a time. -/
def Interrupt.openAt
    (row : Interrupt)
    (instant : Int) : Bool :=
  row.beginNs ≤ instant && instant < row.endNs

/- The nanoseconds of a window. -/
def instants (begin finish : Int) : Finset Int :=
  (Finset.range (finish - begin).toNat).image
    (fun elapsed : Nat => begin + elapsed)

theorem mem_instants
    {begin finish instant : Int} :
    instant ∈ instants begin finish ↔
      begin ≤ instant ∧ instant < finish := by
  simp only [instants, Finset.mem_image, Finset.mem_range]
  constructor
  · intro hInstant
    rcases hInstant with ⟨elapsed, hElapsed, hIs⟩
    omega
  · intro hInstant
    exact ⟨(instant - begin).toNat, by omega, by omega⟩

theorem card_instants
    (begin finish : Int) :
    (instants begin finish).card = (finish - begin).toNat := by
  rw [instants, Finset.card_image_of_injective,
    Finset.card_range]
  intro left right hSame
  simpa using hSame

/-
  The interrupt time of the thread in a window: the number of
  nanoseconds in which one of its intervals is open.
-/
def elapsedNs
    (rows : List Interrupt)
    (activation : IrqActivation) : Int :=
  ((instants activation.releaseNs
      activation.completionNs).filter (fun instant =>
        ∃ row ∈ rows, row.contextTid = activation.tid ∧
          row.openAt instant = true)).card

/- An overlap is as long as the instants are many. -/
theorem inWindowNs_eq_sum
    (begin finish : Int)
    (row : Interrupt) :
    row.inWindowNs begin finish =
      ∑ instant ∈ instants begin finish,
        (if row.openAt instant then 1 else 0 : Int) := by
  have hCommon :
      (instants begin finish).filter (fun instant =>
          row.openAt instant = true) =
        instants (max begin row.beginNs)
          (min finish row.endNs) := by
    ext instant
    simp only [Interrupt.openAt, Finset.mem_filter,
      mem_instants, Bool.and_eq_true, decide_eq_true_eq]
    omega
  rw [Finset.sum_boole, hCommon, card_instants]
  simp only [Interrupt.inWindowNs, overlapNs]
  omega

/- Each instant is counted for each interval open at it. -/
theorem sum_inWindowNs
    (begin finish : Int)
    (rows : List Interrupt) :
    (rows.map (Interrupt.inWindowNs begin finish)).sum =
      ∑ instant ∈ instants begin finish,
        (rows.countP (fun row => row.openAt instant) : Int) := by
  induction rows with
  | nil => simp
  | cons row rest ih =>
      rw [List.map_cons, List.sum_cons, ih, inWindowNs_eq_sum,
        ← Finset.sum_add_distrib]
      apply Finset.sum_congr rfl
      intro instant _
      rw [List.countP_cons]
      split <;> simp [add_comm]

/-
  A count that is positive only where something holds adds up
  to the number of such places, without counting one twice,
  exactly if it is one at each.
-/
theorem sum_eq_card_iff_one
    {places : Finset Int}
    {count : Int → Nat}
    {holds : Int → Prop}
    [DecidablePred holds]
    (hHolds :
      ∀ place ∈ places, 0 < count place → holds place) :
    (∑ place ∈ places, (count place : Int) =
          ((places.filter holds).card : Int) ∧
        ∀ place ∈ places, count place ≤ 1) ↔
      ∀ place ∈ places, holds place → count place = 1 := by
  rw [← Finset.sum_boole]
  constructor
  · intro hBoth
    rcases hBoth with ⟨hSum, hOnce⟩
    have hLe :
        ∀ place ∈ places,
          (count place : Int) ≤
            (if holds place then 1 else 0) := by
      intro place hPlace
      have hOne := hOnce place hPlace
      split
      · omega
      next hNot =>
        have hZero : ¬ 0 < count place :=
          fun hPos => hNot (hHolds place hPlace hPos)
        omega
    have hSame :=
      (Finset.sum_eq_sum_iff_of_le hLe).mp hSum
    intro place hPlace hIs
    have hCount := hSame place hPlace
    rw [if_pos hIs] at hCount
    omega
  · intro hOne
    have hSame :
        ∀ place ∈ places,
          (count place : Int) =
            (if holds place then 1 else 0) := by
      intro place hPlace
      split
      next hIs =>
        have hCount := hOne place hPlace hIs
        omega
      next hNot =>
        have hZero : ¬ 0 < count place :=
          fun hPos => hNot (hHolds place hPlace hPos)
        omega
    refine ⟨Finset.sum_congr rfl hSame, ?_⟩
    intro place hPlace
    have hCount := hSame place hPlace
    split at hCount <;> omega

/-
  A count that is positive exactly where something holds adds
  up to the number of such places if it is never two.
-/
theorem sum_eq_card_iff_le_one
    {places : Finset Int}
    {count : Int → Nat}
    {holds : Int → Prop}
    [DecidablePred holds]
    (hHolds :
      ∀ place ∈ places, 0 < count place ↔ holds place) :
    ∑ place ∈ places, (count place : Int) =
        ((places.filter holds).card : Int) ↔
      ∀ place ∈ places, count place ≤ 1 := by
  rw [← Finset.sum_boole]
  have hLe :
      ∀ place ∈ places,
        ((if holds place then 1 else 0 : Int)) ≤
          (count place : Int) := by
    intro place hPlace
    split
    next hIs =>
      have hPos := (hHolds place hPlace).mpr hIs
      omega
    · omega
  rw [eq_comm, Finset.sum_eq_sum_iff_of_le hLe]
  apply forall₂_congr
  intro place hPlace
  split
  next hIs =>
    have hPos := (hHolds place hPlace).mpr hIs
    omega
  next hNot =>
    have hZero : ¬ 0 < count place :=
      fun hPos => hNot ((hHolds place hPlace).mp hPos)
    omega

------------------------------------------------------------
-- Time That Really Elapsed
------------------------------------------------------------

/-
  The intervals of a thread from the last one on that begins
  before a time.
-/
def lastBegunOn (begin : Int) :
    List Interrupt → List Interrupt
| first :: next :: rest =>
    if next.beginNs < begin then
      lastBegunOn begin (next :: rest)
    else
      first :: next :: rest
| short => short

theorem drop_eq_lastBegunOn
    {interrupts : List Interrupt}
    (hSorted :
      interrupts.Pairwise (fun first next =>
        first.beginNs ≤ next.beginNs))
    (begin : Int) :
    interrupts.drop
        (interrupts.countP (fun row =>
          row.beginNs < begin) - 1) =
      lastBegunOn begin interrupts := by
  induction interrupts with
  | nil => rfl
  | cons first rest ih =>
      cases rest with
      | nil =>
          have hLe :
              [first].countP (fun row =>
                decide (row.beginNs < begin)) ≤ 1 :=
            List.countP_le_length
          rw [Nat.sub_eq_zero_of_le hLe]
          rfl
      | cons next rest =>
          rcases List.pairwise_cons.mp hSorted with
            ⟨hFirst, hRest⟩
          have hIh := ih hRest
          have hOrder := hFirst next List.mem_cons_self
          rw [lastBegunOn]
          split
          next hBegun =>
            have hFirstBegun :
                decide (first.beginNs < begin) = true := by
              simp only [decide_eq_true_eq]
              omega
            have hSome :
                0 < (next :: rest).countP (fun row =>
                  decide (row.beginNs < begin)) := by
              apply List.countP_pos_iff.mpr
              exact ⟨next, List.mem_cons_self,
                by simpa using hBegun⟩
            rw [← hIh, List.countP_cons, if_pos hFirstBegun,
              Nat.add_sub_cancel]
            generalize
              (next :: rest).countP (fun row =>
                decide (row.beginNs < begin)) = count at hSome
            cases count with
            | zero => omega
            | succ count => rfl
          next hLater =>
            have hNone :
                (next :: rest).countP (fun row =>
                  decide (row.beginNs < begin)) = 0 := by
              apply List.countP_eq_zero.mpr
              intro row hRow
              simp only [decide_eq_true_eq]
              rcases List.mem_cons.mp hRow with hIs | hIn
              · rw [hIs]
                exact hLater
              · have hBehind :=
                  (List.pairwise_cons.mp hRest).1 row hIn
                omega
            rw [List.countP_cons, hNone]
            split <;> rfl

/- The two sums together, over instants. -/
theorem correctActivation_total
    (rows : List Interrupt)
    (activation : IrqActivation) :
    (correctActivation rows activation).hardirqNs +
        (correctActivation rows activation).softirqNs =
      ∑ instant ∈ instants activation.releaseNs
          activation.completionNs,
        ((lastBegunOn activation.releaseNs
          (threadInterrupts rows activation.tid)).countP
            (fun row => row.openAt instant) : Int) := by
  rcases correctActivation_sums rows activation with
    ⟨hHard, hSoft⟩
  have hKinds :
      ∀ row : Interrupt,
        row.ofKindNs activation.releaseNs
            activation.completionNs .hardirq +
          row.ofKindNs activation.releaseNs
            activation.completionNs .softirq =
        row.inWindowNs activation.releaseNs
          activation.completionNs := by
    intro row
    cases hKind : row.kind with
    | hardirq => simp [Interrupt.ofKindNs, hKind]
    | softirq => simp [Interrupt.ofKindNs, hKind]
  have hCandidates :=
    @sum_candidates _
      (threadInterrupts_sorted rows activation.tid)
      activation.releaseNs activation.completionNs
      (Interrupt.inWindowNs activation.releaseNs
        activation.completionNs)
      (fun row hLe => overlapNs_of_le_start hLe)
  rw [drop_eq_lastBegunOn
    (threadInterrupts_sorted rows activation.tid)]
    at hCandidates
  rw [hHard, hSoft, ← List.sum_map_add, ← sum_inWindowNs,
    ← hCandidates]
  simp only [hKinds]

theorem sum_map_boole
    (holds : Interrupt → Bool)
    (rows : List Interrupt) :
    (rows.map (fun row =>
        if holds row then 1 else 0 : Interrupt → Int)).sum =
      (rows.countP holds : Int) := by
  induction rows with
  | nil => rfl
  | cons row rest ih =>
      rw [List.map_cons, List.sum_cons, ih, List.countP_cons]
      split <;> simp [add_comm]

/- In the window the slice counts what the rest counts. -/
theorem candidates_countP
    (rows : List Interrupt)
    (activation : IrqActivation)
    {instant : Int}
    (hInstant : instant < activation.completionNs) :
    (candidateInterrupts (threadInterrupts rows activation.tid)
        activation.releaseNs activation.completionNs).countP
          (fun row => row.openAt instant) =
      (lastBegunOn activation.releaseNs
        (threadInterrupts rows activation.tid)).countP
          (fun row => row.openAt instant) := by
  have hCandidates :=
    @sum_candidates _
      (threadInterrupts_sorted rows activation.tid)
      activation.releaseNs activation.completionNs
      (fun row => if row.openAt instant then 1 else 0)
      (by
        intro row hLe
        have hClosed : row.openAt instant = false := by
          simp only [Interrupt.openAt, Bool.and_eq_false_iff,
            decide_eq_false_iff_not]
          left
          omega
        simp [hClosed])
  rw [drop_eq_lastBegunOn
      (threadInterrupts_sorted rows activation.tid),
    sum_map_boole, sum_map_boole] at hCandidates
  exact_mod_cast hCandidates

/- Something of the thread is open, said of the rows. -/
theorem exists_openAt_iff
    (rows : List Interrupt)
    (tid instant : Int) :
    (∃ row ∈ threadInterrupts rows tid,
        row.openAt instant = true) ↔
      ∃ row ∈ rows, row.contextTid = tid ∧
        row.openAt instant = true := by
  simp only [(threadInterrupts_perm rows tid).mem_iff,
    List.mem_filter, decide_eq_true_eq, and_assoc]

/- What is not hidden is part of the intervals. -/
theorem exists_openAt_of_countP_pos
    {rows : List Interrupt}
    {tid begin instant : Int}
    (hPos :
      0 < (lastBegunOn begin (threadInterrupts rows
        tid)).countP (fun row => row.openAt instant)) :
    ∃ row ∈ rows, row.contextTid = tid ∧
      row.openAt instant = true := by
  rcases List.countP_pos_iff.mp hPos with ⟨row, hRow, hOpen⟩
  rw [← drop_eq_lastBegunOn
    (threadInterrupts_sorted rows tid)] at hRow
  exact (exists_openAt_iff rows tid instant).mp
    ⟨row, List.mem_of_mem_drop hRow, hOpen⟩

/- Hidden intervals that are over are open at no instant. -/
theorem countP_openAt_of_nothingHidden
    {rows : List Interrupt}
    {activation : IrqActivation}
    (hNothing : NothingHidden rows activation)
    {instant : Int}
    (hInstant : activation.releaseNs ≤ instant) :
    (lastBegunOn activation.releaseNs
        (threadInterrupts rows activation.tid)).countP
          (fun row => row.openAt instant) =
      (threadInterrupts rows activation.tid).countP
        (fun row => row.openAt instant) := by
  have hOver :=
    (nothingHidden_iff rows activation).mp hNothing
  have hHidden :
      (hiddenInterrupts
        (threadInterrupts rows activation.tid)
        activation.releaseNs).countP
          (fun row => row.openAt instant) = 0 := by
    apply List.countP_eq_zero.mpr
    intro row hRow
    have hEnd := hOver row hRow
    simp only [Interrupt.openAt, Bool.and_eq_true,
      decide_eq_true_eq, not_and]
    omega
  rw [← drop_eq_lastBegunOn
    (threadInterrupts_sorted rows activation.tid)]
  conv_rhs =>
    rw [← List.take_append_drop
      ((threadInterrupts rows activation.tid).countP
        (fun row => decide
          (row.beginNs < activation.releaseNs)) - 1)
      (threadInterrupts rows activation.tid),
      List.countP_append]
  unfold hiddenInterrupts at hHidden
  rw [hHidden, Nat.zero_add]

/- An activation whose interrupt time is counted once. -/
theorem correctActivation_elapsed_iff
    (rows : List Interrupt)
    (activation : IrqActivation) :
    ((correctActivation rows activation).hardirqNs +
          (correctActivation rows activation).softirqNs =
        elapsedNs rows activation ∧
      ∀ instant, activation.releaseNs ≤ instant →
        instant < activation.completionNs →
        (candidateInterrupts
          (threadInterrupts rows activation.tid)
          activation.releaseNs
          activation.completionNs).countP
            (fun row => row.openAt instant) ≤ 1) ↔
      ∀ instant, activation.releaseNs ≤ instant →
        instant < activation.completionNs →
        (∃ row ∈ rows, row.contextTid = activation.tid ∧
          row.openAt instant = true) →
        (lastBegunOn activation.releaseNs
          (threadInterrupts rows activation.tid)).countP
            (fun row => row.openAt instant) = 1 := by
  have hIff :=
    @sum_eq_card_iff_one
      (instants activation.releaseNs
        activation.completionNs)
      (fun instant =>
        (lastBegunOn activation.releaseNs
          (threadInterrupts rows activation.tid)).countP
            (fun row => row.openAt instant))
      (fun instant =>
        ∃ row ∈ rows, row.contextTid = activation.tid ∧
          row.openAt instant = true)
      inferInstance
      (fun instant _ hPos => exists_openAt_of_countP_pos hPos)
  rw [← correctActivation_total] at hIff
  simp only [mem_instants, and_imp] at hIff
  rw [← hIff]
  apply and_congr_right
  intro _
  apply forall_congr'
  intro instant
  apply forall_congr'
  intro _
  apply forall_congr'
  intro hInstant
  rw [candidates_countP rows activation hInstant]

theorem correctActivation_total_iff
    {rows : List Interrupt}
    {activation : IrqActivation}
    (hNothing : NothingHidden rows activation) :
    (correctActivation rows activation).hardirqNs +
          (correctActivation rows activation).softirqNs =
        elapsedNs rows activation ↔
      ∀ instant, activation.releaseNs ≤ instant →
        instant < activation.completionNs →
        (threadInterrupts rows activation.tid).countP
          (fun row => row.openAt instant) ≤ 1 := by
  rw [correctActivation_total]
  have hIff :=
    @sum_eq_card_iff_le_one
      (instants activation.releaseNs
        activation.completionNs)
      (fun instant =>
        (threadInterrupts rows activation.tid).countP
          (fun row => row.openAt instant))
      (fun instant =>
        ∃ row ∈ rows, row.contextTid = activation.tid ∧
          row.openAt instant = true)
      inferInstance
      (by
        intro instant _
        rw [← exists_openAt_iff, List.countP_pos_iff])
  simp only [mem_instants, and_imp] at hIff
  rw [← hIff]
  have hSame :
      ∑ instant ∈ instants activation.releaseNs
          activation.completionNs,
        ((lastBegunOn activation.releaseNs
          (threadInterrupts rows activation.tid)).countP
            (fun row => row.openAt instant) : Int) =
      ∑ instant ∈ instants activation.releaseNs
          activation.completionNs,
        ((threadInterrupts rows activation.tid).countP
          (fun row => row.openAt instant) : Int) := by
    apply Finset.sum_congr rfl
    intro instant hInstant
    rw [countP_openAt_of_nothingHidden hNothing
      (mem_instants.mp hInstant).1]
  rw [hSame]
  rfl

/-
  In every trace and for every activation of the table. The
  sums are the time in which an interrupt of the thread ran,
  no instant counted twice, exactly if at every such instant
  one interval is open among those from the last one on that
  began before the release. Where nothing is hidden from the
  slice, it is enough that never two are open at once.
-/
theorem correctedRows_elapsed_iff
    (steadyBegin steadyEnd : Int)
    (xhciIrqIds : List Int)
    (events : List KernelEvent)
    (activations : List IrqActivation)
    (row : CorrectedActivation)
    (hRow :
      row ∈ correctedRows steadyBegin steadyEnd xhciIrqIds
        events activations) :
    let rows :=
      (irqTrace
        (traceScope steadyBegin steadyEnd xhciIrqIds
          activations) events).rows
    let interrupts :=
      threadInterrupts rows row.activation.tid
    let inWindow := fun instant =>
      row.activation.releaseNs ≤ instant ∧
        instant < row.activation.completionNs
    ((row.hardirqNs + row.softirqNs =
            elapsedNs rows row.activation ∧
          ∀ instant, inWindow instant →
            (candidateInterrupts interrupts
              row.activation.releaseNs
              row.activation.completionNs).countP
                (fun interrupt =>
                  interrupt.openAt instant) ≤ 1) ↔
        ∀ instant, inWindow instant →
          (∃ interrupt ∈ interrupts,
            interrupt.openAt instant = true) →
          (lastBegunOn row.activation.releaseNs
            interrupts).countP (fun interrupt =>
              interrupt.openAt instant) = 1) ∧
      (NothingHidden rows row.activation →
        (row.hardirqNs + row.softirqNs =
            elapsedNs rows row.activation ↔
          ∀ instant, inWindow instant →
            interrupts.countP (fun interrupt =>
              interrupt.openAt instant) ≤ 1)) := by
  rcases exists_correctActivation hRow with
    ⟨activation, hActivation, hIs⟩
  rw [hActivation, hIs]
  simp only [and_imp, exists_openAt_iff]
  exact ⟨correctActivation_elapsed_iff _ activation,
    correctActivation_total_iff⟩

/-
  An exit ends the innermost interrupt on its processor, and
  only a hardirq interrupts another one, a softirq.
-/
def nested
    (stack : Int → List IrqKind) :
    List KernelEvent → Bool
| [] => true
| event :: rest =>
    match event.edge, stack event.cpu with
    | .neither, _ => nested stack rest
    | .entry kind, [] =>
        nested (Function.update stack event.cpu [kind]) rest
    | .entry .hardirq, [.softirq] =>
        nested
          (Function.update stack event.cpu
            [.hardirq, .softirq]) rest
    | .exit kind, top :: below =>
        kind = top &&
          nested (Function.update stack event.cpu below) rest
    | _, _ => false

/- Timestamps in order and interrupts inside one another. -/
def WellNested (events : List KernelEvent) : Prop :=
  events.Pairwise (fun first next =>
      first.timestampNs ≤ next.timestampNs) ∧
    nested (fun _ => []) events = true

instance
    (events : List KernelEvent) :
    Decidable (WellNested events) :=
  inferInstanceAs (Decidable (_ ∧ _))

------------------------------------------------------------
-- Intervals Of A Processor
------------------------------------------------------------

/- Where two intervals of a processor stand, by their exits. -/
def Interrupt.Inside (first next : Interrupt) : Prop :=
  first.cpu = next.cpu →
    first.endNs ≤ next.beginNs ∨
      first.kind = .hardirq ∧ next.kind = .softirq ∧
        next.beginNs ≤ first.beginNs ∧
        first.endNs ≤ next.endNs

/- An entry, against the intervals that are over. -/
def IrqEntry.Behind
    (entry : IrqEntry)
    (kind : IrqKind)
    (row : Interrupt) : Prop :=
  row.endNs ≤ entry.timestampNs ∨
    row.kind = .hardirq ∧ kind = .softirq ∧
      entry.timestampNs ≤ row.beginNs

/- The stacks of the parser, beside that of the processors. -/
structure Tracked
    (now : Int)
    (stack : Int → List IrqKind)
    (trace : IrqTrace) : Prop where
  shape :
    ∀ cpu,
      stack cpu =
        (trace.irqStacks (cpu, .hardirq)).map
            (fun _ => IrqKind.hardirq) ++
          (trace.irqStacks (cpu, .softirq)).map
            (fun _ => IrqKind.softirq)
  single :
    ∀ cpu kind, (trace.irqStacks (cpu, kind)).length ≤ 1
  ended : ∀ row ∈ trace.rows, row.endNs ≤ now
  entries :
    ∀ cpu kind, ∀ entry ∈ trace.irqStacks (cpu, kind),
      entry.timestampNs ≤ now ∧
        ∀ row ∈ trace.rows, row.cpu = cpu →
          entry.Behind kind row
  inner :
    ∀ cpu, ∀ outer ∈ trace.irqStacks (cpu, .softirq),
      ∀ entry ∈ trace.irqStacks (cpu, .hardirq),
        outer.timestampNs ≤ entry.timestampNs
  rows : trace.rows.Pairwise Interrupt.Inside

section Tracked

variable {scope : IrqScope}
variable {now : Int}
variable {stack : Int → List IrqKind}
variable {trace : IrqTrace}
variable {event : KernelEvent}
variable {rest : List KernelEvent}

/- Time goes on. -/
theorem Tracked.later
    {next : Int}
    (hTracked : Tracked now stack trace)
    (hNow : now ≤ next) :
    Tracked next stack trace where
  shape := hTracked.shape
  single := hTracked.single
  ended row hRow := (hTracked.ended row hRow).trans hNow
  entries cpu kind entry hEntry :=
    ⟨(hTracked.entries cpu kind entry hEntry).1.trans hNow,
      (hTracked.entries cpu kind entry hEntry).2⟩
  inner := hTracked.inner
  rows := hTracked.rows

/- Where an interrupt may begin, none of its kind is open. -/
theorem Tracked.free
    {cpu : Int}
    {kind : IrqKind}
    (hTracked : Tracked now stack trace)
    (hMay :
      stack cpu = [] ∨ kind = .hardirq ∧ stack cpu = [.softirq]) :
    trace.irqStacks (cpu, .hardirq) = [] ∧
      trace.irqStacks (cpu, kind) = [] := by
  have hShape := hTracked.shape cpu
  rcases hMay with hNone | ⟨hKind, hSoft⟩
  · rw [hNone, eq_comm, List.append_eq_nil_iff,
      List.map_eq_nil_iff, List.map_eq_nil_iff] at hShape
    refine ⟨hShape.1, ?_⟩
    cases kind with
    | hardirq => exact hShape.1
    | softirq => exact hShape.2
  · have hHard : trace.irqStacks (cpu, .hardirq) = [] := by
      cases hOpen : trace.irqStacks (cpu, .hardirq) with
      | nil => rfl
      | cons entry below =>
          rw [hOpen, hSoft] at hShape
          cases hShape
    exact ⟨hHard, hKind ▸ hHard⟩

theorem Tracked.enter
    {kind : IrqKind}
    (hTracked : Tracked event.timestampNs stack trace)
    (hMay :
      stack event.cpu = [] ∨
        kind = .hardirq ∧ stack event.cpu = [.softirq]) :
    Tracked event.timestampNs
      (Function.update stack event.cpu
        (kind :: stack event.cpu))
      (trace.enter scope kind event) := by
  rcases hTracked.free hMay with ⟨hHard, hFree⟩
  let entered : IrqEntry :=
    { timestampNs := event.timestampNs
      contextTid := event.contextTid
      identifier := event.identifier
      inSteadyState := scope.inSteadyState event.timestampNs }
  have hStacks (place : Int × IrqKind) :
      (trace.enter scope kind event).irqStacks place =
        if place = (event.cpu, kind) then
          [entered]
        else
          trace.irqStacks place := by
    change Function.update trace.irqStacks _
      (entered :: trace.irqStacks _) place = _
    rw [Function.update_apply, hFree]
  have hEntry {cpu : Int} {other : IrqKind} {entry : IrqEntry}
      (hIn :
        entry ∈
          (trace.enter scope kind event).irqStacks (cpu, other)) :
      (cpu = event.cpu ∧ other = kind ∧ entry = entered) ∨
        entry ∈ trace.irqStacks (cpu, other) := by
    rw [hStacks] at hIn
    split at hIn
    next hHere =>
      rw [Prod.mk.injEq] at hHere
      exact Or.inl
        ⟨hHere.1, hHere.2, List.mem_singleton.mp hIn⟩
    next => exact Or.inr hIn
  constructor
  case shape =>
    intro cpu
    rw [hStacks, hStacks, Function.update_apply]
    by_cases hCpu : cpu = event.cpu
    · subst hCpu
      have hShape := hTracked.shape event.cpu
      rw [hHard, List.map_nil, List.nil_append] at hShape
      rw [if_pos rfl]
      cases kind with
      | hardirq => simp [hShape]
      | softirq => simp [hShape, hHard, hFree]
    · simp [hCpu, hTracked.shape cpu]
  case single =>
    intro cpu other
    rw [hStacks]
    split
    · exact Nat.le_refl 1
    · exact hTracked.single cpu other
  case ended => exact hTracked.ended
  case entries =>
    intro cpu other entry hIn
    rcases hEntry hIn with ⟨-, -, hIs⟩ | hOld
    · rw [hIs]
      exact ⟨le_refl _, fun row hRow _ =>
        Or.inl (hTracked.ended row hRow)⟩
    · exact hTracked.entries cpu other entry hOld
  case inner =>
    intro cpu outer hOuter entry hInner
    rcases hEntry hOuter with ⟨hCpu, hKind, -⟩ | hOld
    · -- a softirq begins where no hardirq is open
      rcases hEntry hInner with ⟨-, hOther, -⟩ | hOpen
      · exact absurd (hKind.trans hOther.symm) (by decide)
      · rw [hCpu, hHard] at hOpen
        cases hOpen
    · rcases hEntry hInner with ⟨-, -, hIs⟩ | hOpen
      · rw [hIs]
        exact (hTracked.entries cpu _ outer hOld).1
      · exact hTracked.inner cpu outer hOld entry hOpen
  case rows => exact hTracked.rows

/- The innermost interrupt is the only one of its kind. -/
theorem Tracked.innermost
    {cpu : Int}
    {kind : IrqKind}
    {below : List IrqKind}
    (hTracked : Tracked now stack trace)
    (hTop : stack cpu = kind :: below) :
    ∃ begin, trace.irqStacks (cpu, kind) = [begin] ∧
      (kind = .softirq → trace.irqStacks (cpu, .hardirq) = []) := by
  have hShape := hTracked.shape cpu
  have hSingle := hTracked.single cpu kind
  rw [hTop] at hShape
  have hSome : trace.irqStacks (cpu, kind) ≠ [] := by
    intro hNone
    cases kind with
    | hardirq =>
        rw [hNone] at hShape
        cases hSoft : trace.irqStacks (cpu, .softirq) with
        | nil =>
            rw [hSoft] at hShape
            cases hShape
        | cons entry more =>
            rw [hSoft] at hShape
            cases hShape
    | softirq =>
        rw [hNone] at hShape
        cases hHard : trace.irqStacks (cpu, .hardirq) with
        | nil =>
            rw [hHard] at hShape
            cases hShape
        | cons entry more =>
            rw [hHard] at hShape
            cases hShape
  rcases List.exists_cons_of_ne_nil hSome with
    ⟨begin, more, hBegin⟩
  rw [hBegin, List.length_cons] at hSingle
  have hMore : more = [] :=
    List.eq_nil_of_length_eq_zero (by omega)
  refine ⟨begin, by rw [hBegin, hMore], ?_⟩
  intro hKind
  cases hHard : trace.irqStacks (cpu, .hardirq) with
  | nil => rfl
  | cons entry more =>
      rw [hHard, hKind] at hShape
      cases hShape

/- An exit from the innermost interrupt. -/
theorem Tracked.leave
    {kind : IrqKind}
    {below : List IrqKind}
    (hTracked : Tracked event.timestampNs stack trace)
    (hTop : stack event.cpu = kind :: below) :
    Tracked event.timestampNs
      (Function.update stack event.cpu below)
      (trace.leave scope kind event) := by
  rcases hTracked.innermost hTop with
    ⟨begin, hBegin, hInnermost⟩
  have hStacks (place : Int × IrqKind) :
      (trace.leave scope kind event).irqStacks place =
        if place = (event.cpu, kind) then
          []
        else
          trace.irqStacks place := by
    unfold IrqTrace.leave
    rw [hBegin]
    exact Function.update_apply _ _ _ _
  have hRows :
      (trace.leave scope kind event).rows =
        trace.rows ++ [pairedInterrupt scope kind begin event] := by
    unfold IrqTrace.leave
    rw [hBegin]
    rfl
  have hEntry {place : Int × IrqKind} {entry : IrqEntry}
      (hIn :
        entry ∈ (trace.leave scope kind event).irqStacks place) :
      place ≠ (event.cpu, kind) ∧
        entry ∈ trace.irqStacks place := by
    rw [hStacks] at hIn
    split at hIn
    next => cases hIn
    next hOther => exact ⟨hOther, hIn⟩
  have hOpened :=
    hTracked.entries event.cpu kind begin
      (hBegin ▸ List.mem_singleton_self begin)
  constructor
  case shape =>
    intro cpu
    rw [hStacks, hStacks, Function.update_apply]
    by_cases hCpu : cpu = event.cpu
    · subst hCpu
      have hShape := hTracked.shape event.cpu
      rw [hTop] at hShape
      rw [if_pos rfl]
      cases kind with
      | hardirq =>
          rw [hBegin] at hShape
          simpa using (List.cons.inj hShape).2
      | softirq =>
          rw [hBegin, hInnermost rfl] at hShape
          simpa [hInnermost rfl] using (List.cons.inj hShape).2
    · simp [hCpu, hTracked.shape cpu]
  case single =>
    intro cpu other
    rw [hStacks]
    split
    · exact Nat.zero_le 1
    · exact hTracked.single cpu other
  case ended =>
    rw [hRows, List.forall_mem_append]
    exact ⟨hTracked.ended,
      List.forall_mem_singleton.mpr (le_refl _)⟩
  case entries =>
    intro cpu other entry hIn
    rcases hEntry hIn with ⟨hPlace, hOld⟩
    have hEntries := hTracked.entries cpu other entry hOld
    refine ⟨hEntries.1, ?_⟩
    rw [hRows, List.forall_mem_append]
    refine ⟨hEntries.2, List.forall_mem_singleton.mpr ?_⟩
    intro hCpu
    -- what is still open there is the softirq around a hardirq
    change event.cpu = cpu at hCpu
    subst hCpu
    cases kind with
    | hardirq =>
        cases other with
        | hardirq => exact absurd rfl hPlace
        | softirq =>
            exact Or.inr ⟨rfl, rfl,
              hTracked.inner event.cpu entry hOld begin
                (hBegin ▸ List.mem_singleton_self begin)⟩
    | softirq =>
        cases other with
        | hardirq =>
            rw [hInnermost rfl] at hOld
            cases hOld
        | softirq => exact absurd rfl hPlace
  case inner =>
    intro cpu outer hOuter entry hInner
    exact hTracked.inner cpu outer (hEntry hOuter).2 entry
      (hEntry hInner).2
  case rows =>
    rw [hRows, List.pairwise_append]
    refine ⟨hTracked.rows, List.pairwise_singleton _ _, ?_⟩
    intro row hRow paired hPaired hCpu
    rw [List.mem_singleton.mp hPaired] at hCpu ⊢
    rcases hOpened.2 row hRow hCpu with
      hBefore | ⟨hHard, hSoft, hWithin⟩
    · exact Or.inl hBefore
    · exact Or.inr
        ⟨hHard, hSoft, hWithin, hTracked.ended row hRow⟩

theorem nested_tracked
    {events : List KernelEvent}
    (hOrder :
      events.Pairwise (fun first next =>
        first.timestampNs ≤ next.timestampNs))
    (hNow : ∀ event ∈ events, now ≤ event.timestampNs)
    (hNested : nested stack events = true)
    (hTracked : Tracked now stack trace) :
    (events.foldl (IrqTrace.step scope) trace).rows.Pairwise
      Interrupt.Inside := by
  induction events generalizing now stack trace with
  | nil => exact hTracked.rows
  | cons event rest ih =>
      rw [List.pairwise_cons] at hOrder
      have hHere :=
        hTracked.later (hNow event List.mem_cons_self)
      rw [List.foldl_cons]
      unfold nested at hNested
      unfold IrqTrace.step
      split at hNested
      next hEdge =>
        rw [hEdge]
        exact ih hOrder.2 hOrder.1 hNested hHere
      next kind hEdge hStack =>
        rw [hEdge]
        refine ih hOrder.2 hOrder.1 hNested ?_
        have hNext :
            Tracked _ _ (trace.enter scope kind event) :=
          hHere.enter (Or.inl hStack)
        rwa [hStack] at hNext
      next hEdge hStack =>
        rw [hEdge]
        refine ih hOrder.2 hOrder.1 hNested ?_
        have hNext :
            Tracked _ _ (trace.enter scope .hardirq event) :=
          hHere.enter (Or.inr ⟨rfl, hStack⟩)
        rwa [hStack] at hNext
      next kind top below hEdge hStack =>
        rw [Bool.and_eq_true, decide_eq_true_eq] at hNested
        rw [hEdge]
        refine ih hOrder.2 hOrder.1 hNested.2 ?_
        exact hHere.leave (hNested.1 ▸ hStack)
      next => cases hNested

end Tracked

/-
  In a trace that is well nested, two intervals of a processor
  are open at once only where a hardirq interrupts a softirq.
-/
theorem openAt_once
    {events : List KernelEvent}
    (hNested : WellNested events)
    (scope : IrqScope) :
    (irqTrace scope events).rows.Pairwise (fun first next =>
      first.cpu = next.cpu →
        ∀ instant, first.openAt instant = true →
          next.openAt instant = true →
            first.kind = .hardirq ∧ next.kind = .softirq ∧
              next.beginNs ≤ first.beginNs ∧
              first.endNs ≤ next.endNs) := by
  have hStart (now : Int) :
      Tracked now (fun _ => []) ({} : IrqTrace) := by
    constructor
    case shape => exact fun _ => rfl
    case single => exact fun _ _ => Nat.zero_le 1
    case ended => exact fun _ hRow => by cases hRow
    case entries => exact fun _ _ _ hEntry => by cases hEntry
    case inner => exact fun _ _ hOuter => by cases hOuter
    case rows => exact List.Pairwise.nil
  have hInside :
      (irqTrace scope events).rows.Pairwise
        Interrupt.Inside := by
    cases events with
    | nil => exact List.Pairwise.nil
    | cons event rest =>
        refine nested_tracked hNested.1 ?_ hNested.2
          (hStart event.timestampNs)
        rw [List.forall_mem_cons]
        exact ⟨le_refl _, (List.pairwise_cons.mp hNested.1).1⟩
  refine hInside.imp ?_
  intro first next hPlaces hCpu instant hFirst hNext
  rcases hPlaces hCpu with hBefore | hWithin
  · unfold Interrupt.openAt at hFirst hNext
    rw [Bool.and_eq_true, decide_eq_true_eq,
      decide_eq_true_eq] at hFirst hNext
    omega
  · exact hWithin

/- An activation as long as the softirq. -/
def wholeActivation : IrqActivation :=
  ⟨7, 0, 100, 1⟩

theorem wholeActivation_counts_twice :
    WellNested interruptedSoftirq ∧
      ∃ row ∈ correctedRows 0 200 [] interruptedSoftirq
          [wholeActivation],
        row.hardirqNs + row.softirqNs = 120 ∧
          elapsedNs
              (irqTrace
                (traceScope 0 200 [] [wholeActivation])
                interruptedSoftirq).rows
              row.activation = 100 := by
  decide +kernel

/- A hardirq of 2 ns, and a softirq of 3 ns behind it. -/
def separateInterrupts : List KernelEvent :=
  [⟨1, 7, 0, .entry .hardirq, 130⟩,
    ⟨3, 7, 0, .exit .hardirq, 130⟩,
    ⟨4, 7, 0, .entry .softirq, 3⟩,
    ⟨7, 7, 0, .exit .softirq, 3⟩]

/- An activation around both of them. -/
def firstActivation : IrqActivation :=
  ⟨7, 0, 8, 1⟩

theorem firstActivation_counts_once :
    ∃ row ∈ correctedRows 0 200 [] separateInterrupts
        [firstActivation],
      row.hardirqNs = 2 ∧ row.softirqNs = 3 ∧
      row.hardirqNs + row.softirqNs =
        elapsedNs
          (irqTrace (traceScope 0 200 [] [firstActivation])
            separateInterrupts).rows
          row.activation := by
  have hRow :
      correctActivation
          (irqTrace (traceScope 0 200 [] [firstActivation])
            separateInterrupts).applicationRows
          firstActivation ∈
        correctedRows 0 200 [] separateInterrupts
          [firstActivation] :=
    List.mem_map_of_mem List.mem_cons_self
  refine ⟨_, hRow, by decide, by decide, ?_⟩
  apply ((correctedRows_elapsed_iff 0 200 []
    separateInterrupts [firstActivation] _ hRow).2
      (by decide +kernel)).mpr
  intro instant hWindow
  rcases hWindow with ⟨hLower, hUpper⟩
  have hFrom : 0 ≤ instant := hLower
  have hTo : instant < 8 := hUpper
  interval_cases instant <;> decide +kernel

end KernelTrace

end RsCamera
