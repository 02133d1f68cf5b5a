import Mathlib.Algebra.BigOperators.Group.List.Basic
import Mathlib.Algebra.Order.Ring.Int
import Mathlib.Data.List.MinMax
import Mathlib.Data.Rat.Defs
import RsCamera.Lib.Sorted

/-
  Interrupt intervals of a kernel trace and the activations
  that are corrected by them (`parse_overrun_kernel_trace.py`).

  Entries and exits are paired on one stack for each processor
  and kind of interrupt. An interval is recorded when it ends;
  those of application threads and those of xHCI interrupts
  are also kept apart.

  The lines of the trace are decoded here: an event is an
  entry, an exit or neither. The rows about throttling and
  signals do not touch the interrupts and are left out.

  Key definitions include:
    * `IrqKind`, `KernelEvent`, `Interrupt`
    * `IrqTrace`, `IrqTrace.step`, `irqTrace`
    * `overlapNs`
    * `threadInterrupts`, `candidateInterrupts`
    * `correctActivation`

  Key theorems include:
    * `irqTrace_kept`
    * `overlapNs_add`
    * `threadInterrupts_application`
-/

------------------------------------------------------------
-- Events And Intervals
------------------------------------------------------------

namespace RsCamera

namespace KernelTrace

/- The two kinds of interrupt. -/
inductive IrqKind
| hardirq
| softirq
deriving Repr, DecidableEq

/- An event begins an interrupt, ends one or does neither. -/
inductive IrqEdge
| entry (kind : IrqKind)
| exit (kind : IrqKind)
| neither
deriving Repr, DecidableEq

/- A line of the trace; the identifier is an irq or vector. -/
structure KernelEvent where
  timestampNs : Int
  contextTid : Int
  cpu : Int
  edge : IrqEdge
  identifier : Int := 0
deriving Repr, DecidableEq

/- An entry that waits for its exit. -/
structure IrqEntry where
  timestampNs : Int
  contextTid : Int
  identifier : Int
  inSteadyState : Bool
deriving Repr, DecidableEq

/- A recorded interval; it belongs to the interrupted thread. -/
structure Interrupt where
  kind : IrqKind
  identifier : Int
  cpu : Int
  contextTid : Int
  beginNs : Int
  endNs : Int
  durationMs : ℚ
  inSteadyState : Bool
deriving Repr, DecidableEq

/- What the loop over the trace reads besides the lines. -/
structure IrqScope where
  steadyBegin : Int
  steadyEnd : Int
  applicationTids : List Int
  xhciIrqIds : List Int
deriving Repr, DecidableEq

------------------------------------------------------------
-- Pairing Entries And Exits
------------------------------------------------------------

/- The stacks, and the rows in the order of exits. -/
structure IrqTrace where
  irqStacks : Int × IrqKind → List IrqEntry := fun _ => []
  rows : List Interrupt := []
  applicationRows : List Interrupt := []
  xhciBegins : List Int := []
  xhciDurationsNs : List Int := []

/- The steady state, both ends included. -/
def IrqScope.inSteadyState
    (scope : IrqScope)
    (timestampNs : Int) : Bool :=
  scope.steadyBegin ≤ timestampNs &&
    timestampNs ≤ scope.steadyEnd

/- A hardirq of a camera controller. -/
def IrqScope.isXhci
    (scope : IrqScope)
    (interrupt : Interrupt) : Bool :=
  interrupt.kind = .hardirq &&
    scope.xhciIrqIds.contains interrupt.identifier

/- An entry goes onto the stack of its processor and kind. -/
def IrqTrace.enter
    (scope : IrqScope)
    (trace : IrqTrace)
    (kind : IrqKind)
    (event : KernelEvent) : IrqTrace :=
  { trace with
    irqStacks :=
      Function.update trace.irqStacks (event.cpu, kind)
        ({ timestampNs := event.timestampNs
           contextTid := event.contextTid
           identifier := event.identifier
           inSteadyState :=
             scope.inSteadyState event.timestampNs } ::
          trace.irqStacks (event.cpu, kind)) }

/- The interval between an entry and the exit. -/
def pairedInterrupt
    (scope : IrqScope)
    (kind : IrqKind)
    (begin : IrqEntry)
    (event : KernelEvent) : Interrupt where
  kind := kind
  identifier := begin.identifier
  cpu := event.cpu
  contextTid := begin.contextTid
  beginNs := begin.timestampNs
  endNs := event.timestampNs
  durationMs :=
    ((event.timestampNs - begin.timestampNs : Int) : ℚ) /
      1000000
  inSteadyState :=
    begin.inSteadyState &&
      scope.inSteadyState event.timestampNs

/- A row is written, and kept if it is of a kind in question. -/
def IrqTrace.record
    (scope : IrqScope)
    (trace : IrqTrace)
    (interrupt : Interrupt) : IrqTrace :=
  { trace with
    rows := trace.rows ++ [interrupt]
    applicationRows :=
      if scope.applicationTids.contains
          interrupt.contextTid then
        trace.applicationRows ++ [interrupt]
      else
        trace.applicationRows
    xhciBegins :=
      if scope.isXhci interrupt then
        trace.xhciBegins ++ [interrupt.beginNs]
      else
        trace.xhciBegins
    xhciDurationsNs :=
      if scope.isXhci interrupt then
        trace.xhciDurationsNs ++
          [interrupt.endNs - interrupt.beginNs]
      else
        trace.xhciDurationsNs }

/- An exit takes the last entry; without one it is passed. -/
def IrqTrace.leave
    (scope : IrqScope)
    (trace : IrqTrace)
    (kind : IrqKind)
    (event : KernelEvent) : IrqTrace :=
  match trace.irqStacks (event.cpu, kind) with
  | [] => trace
  | begin :: below =>
      { trace with
        irqStacks :=
          Function.update trace.irqStacks (event.cpu, kind)
            below }.record scope
              (pairedInterrupt scope kind begin event)

/- One event of the pass. -/
def IrqTrace.step
    (scope : IrqScope)
    (trace : IrqTrace)
    (event : KernelEvent) : IrqTrace :=
  match event.edge with
  | .entry kind => trace.enter scope kind event
  | .exit kind => trace.leave scope kind event
  | .neither => trace

/- The pass over the events of the trace. -/
def irqTrace
    (scope : IrqScope)
    (events : List KernelEvent) : IrqTrace :=
  events.foldl (IrqTrace.step scope) {}

------------------------------------------------------------
-- What Is Kept
------------------------------------------------------------

/- The lists kept apart are parts of the rows, in order. -/
structure IrqTrace.Kept
    (scope : IrqScope)
    (trace : IrqTrace) : Prop where
  application :
    trace.applicationRows =
      trace.rows.filter (fun row =>
        scope.applicationTids.contains row.contextTid)
  begins :
    trace.xhciBegins =
      (trace.rows.filter scope.isXhci).map Interrupt.beginNs
  durations :
    trace.xhciDurationsNs =
      (trace.rows.filter scope.isXhci).map (fun row =>
        row.endNs - row.beginNs)

theorem IrqTrace.Kept.record
    {scope : IrqScope}
    {trace : IrqTrace}
    (hKept : trace.Kept scope)
    (interrupt : Interrupt) :
    (trace.record scope interrupt).Kept scope where
  application := by
    simp only [IrqTrace.record, List.filter_append,
      hKept.application]
    split
    next hIn =>
      simp only [List.filter_cons, if_pos hIn, List.filter_nil]
    next hOut =>
      simp only [List.filter_cons, if_neg hOut,
        List.filter_nil, List.append_nil]
  begins := by
    simp only [IrqTrace.record, List.filter_append,
      hKept.begins]
    split
    next hIs => simp [hIs]
    next hNot => simp [hNot]
  durations := by
    simp only [IrqTrace.record, List.filter_append,
      hKept.durations]
    split
    next hIs => simp [hIs]
    next hNot => simp [hNot]

theorem IrqTrace.Kept.step
    {scope : IrqScope}
    {trace : IrqTrace}
    (hKept : trace.Kept scope)
    (event : KernelEvent) :
    (trace.step scope event).Kept scope := by
  unfold IrqTrace.step
  cases event.edge with
  | entry kind =>
      exact ⟨hKept.application, hKept.begins,
        hKept.durations⟩
  | exit kind =>
      simp only [IrqTrace.leave]
      split
      · exact hKept
      next begin below hStack =>
        apply IrqTrace.Kept.record
        exact ⟨hKept.application, hKept.begins,
          hKept.durations⟩
  | neither => exact hKept

/- In every trace the lists kept apart are parts of the rows. -/
theorem irqTrace_kept
    (scope : IrqScope)
    (events : List KernelEvent) :
    (irqTrace scope events).Kept scope := by
  unfold irqTrace
  induction events using List.reverseRecOn with
  | nil => exact ⟨rfl, rfl, rfl⟩
  | append_singleton events event ih =>
      simp only [List.foldl_append, List.foldl_cons,
        List.foldl_nil]
      exact ih.step event

------------------------------------------------------------
-- Overlaps
------------------------------------------------------------

/- The length of what two intervals have in common. -/
def overlapNs
    (leftBegin leftEnd rightBegin rightEnd : Int) : Int :=
  max 0 (min leftEnd rightEnd - max leftBegin rightBegin)

theorem overlapNs_nonneg
    (leftBegin leftEnd rightBegin rightEnd : Int) :
    0 ≤ overlapNs leftBegin leftEnd rightBegin rightEnd :=
  le_max_left _ _

theorem overlapNs_of_finish_le
    {beginNs endNs start finish : Int}
    (hLe : finish ≤ beginNs) :
    overlapNs beginNs endNs start finish = 0 := by
  unfold overlapNs
  omega

theorem overlapNs_of_le_start
    {beginNs endNs start finish : Int}
    (hLe : endNs ≤ start) :
    overlapNs beginNs endNs start finish = 0 := by
  unfold overlapNs
  omega

theorem overlapNs_of_empty
    {beginNs endNs : Int}
    (hEmpty : endNs ≤ beginNs)
    (start finish : Int) :
    overlapNs beginNs endNs start finish = 0 := by
  unfold overlapNs
  omega

/- A window may be cut at any time inside it. -/
theorem overlapNs_add
    {beginNs middle endNs : Int}
    (hLower : beginNs ≤ middle)
    (hUpper : middle ≤ endNs)
    (start finish : Int) :
    overlapNs beginNs middle start finish +
        overlapNs middle endNs start finish =
      overlapNs beginNs endNs start finish := by
  unfold overlapNs
  omega

------------------------------------------------------------
-- Corrected Activations
------------------------------------------------------------

/- A row of the table of activations. -/
structure IrqActivation where
  tid : Int
  releaseNs : Int
  completionNs : Int
  executionMs : ℚ
deriving Repr, DecidableEq

/- An activation with the columns that the correction adds. -/
structure CorrectedActivation where
  activation : IrqActivation
  schedulerResidencyMs : ℚ
  hardirqNs : Int
  softirqNs : Int
  hardirqMs : ℚ
  softirqMs : ℚ
  taskExecutionMs : ℚ
deriving Repr, DecidableEq

/- The kept intervals of a thread in the order of begins. -/
def threadInterrupts
    (rows : List Interrupt)
    (tid : Int) : List Interrupt :=
  (rows.filter (fun row => row.contextTid = tid)).insertionSort
    (fun first next => first.beginNs ≤ next.beginNs)

/-
  The slice of the intervals of a thread that is looked at:
  from one before the place of the release to the place of
  the completion.
-/
def candidateInterrupts
    (interrupts : List Interrupt)
    (begin finish : Int) : List Interrupt :=
  let begins := interrupts.map Interrupt.beginNs
  slice interrupts (bisectLeft begins begin - 1)
    (bisectLeft begins finish)

/- The loop over the candidates, by kind. -/
def interruptLoop
    (begin finish : Int) :
    List Interrupt → Int × Int → Int × Int
| [], totals => totals
| interrupt :: rest, (hardirqNs, softirqNs) =>
    let duration :=
      overlapNs begin finish interrupt.beginNs
        interrupt.endNs
    interruptLoop begin finish rest
      (if interrupt.kind = .hardirq then
        (hardirqNs + duration, softirqNs)
      else
        (hardirqNs, softirqNs + duration))

/-
  The interrupt time in an activation, taken off its execution.
-/
def correctActivation
    (applicationRows : List Interrupt)
    (activation : IrqActivation) : CorrectedActivation :=
  let totals :=
    interruptLoop activation.releaseNs
      activation.completionNs
      (candidateInterrupts
        (threadInterrupts applicationRows activation.tid)
        activation.releaseNs activation.completionNs)
      (0, 0)
  { activation := activation
    schedulerResidencyMs := activation.executionMs
    hardirqNs := totals.1
    softirqNs := totals.2
    hardirqMs := (totals.1 : ℚ) / 1000000
    softirqMs := (totals.2 : ℚ) / 1000000
    taskExecutionMs :=
      max 0 (activation.executionMs -
        ((totals.1 + totals.2 : Int) : ℚ) / 1000000) }

/- The threads of the activations are the application's. -/
def traceScope
    (steadyBegin steadyEnd : Int)
    (xhciIrqIds : List Int)
    (activations : List IrqActivation) : IrqScope where
  steadyBegin := steadyBegin
  steadyEnd := steadyEnd
  applicationTids := activations.map IrqActivation.tid
  xhciIrqIds := xhciIrqIds

/- The corrected rows of a trace and a table of activations. -/
def correctedRows
    (steadyBegin steadyEnd : Int)
    (xhciIrqIds : List Int)
    (events : List KernelEvent)
    (activations : List IrqActivation) :
    List CorrectedActivation :=
  activations.map
    (correctActivation
      (irqTrace
        (traceScope steadyBegin steadyEnd xhciIrqIds
          activations)
        events).applicationRows)

/- Nothing of an application thread is left out. -/
theorem threadInterrupts_application
    {scope : IrqScope}
    {trace : IrqTrace}
    (hKept : trace.Kept scope)
    {tid : Int}
    (hTid : tid ∈ scope.applicationTids) :
    threadInterrupts trace.applicationRows tid =
      threadInterrupts trace.rows tid := by
  unfold threadInterrupts
  rw [hKept.application, List.filter_filter]
  congr 1
  apply List.filter_congr
  intro row _
  by_cases hIs : row.contextTid = tid
  · simp [hIs, hTid]
  · simp [hIs]

theorem threadInterrupts_sorted
    (rows : List Interrupt)
    (tid : Int) :
    (threadInterrupts rows tid).Pairwise (fun first next =>
      first.beginNs ≤ next.beginNs) :=
  (insertionSort_stablySorted Interrupt.beginNs _).sorted

theorem threadInterrupts_perm
    (rows : List Interrupt)
    (tid : Int) :
    (threadInterrupts rows tid).Perm
      (rows.filter (fun row => row.contextTid = tid)) :=
  List.perm_insertionSort _ _

end KernelTrace

end RsCamera
