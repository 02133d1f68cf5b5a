import RsCamera.KernelTrace.Interrupts
import RsCamera.Lib.Lookup

/-
  xHCI interrupts around a point in time
  (`xhci_windows` in `parse_overrun_kernel_trace.py`).

  The begins are kept in the order in which the interrupts
  ended, and searched by bisection. The windows are exact if
  that is also the order in which they began. If no two begin
  at the same time, they are exact only then.

  Key definitions include:
    * `XhciWindow`, `xhciWindow`, `xhciWindows`
    * `exactWindow`

  Key theorems include:
    * `xhciWindow_exact`
    * `sorted_of_exact`
    * `xhciWindows_exact_iff`
-/

------------------------------------------------------------
-- Windows
------------------------------------------------------------

namespace RsCamera

namespace KernelTrace

/- The columns of one radius. -/
structure XhciWindow where
  radiusMs : Nat
  intervalCount : Int
  serviceMs : ℚ
  maximumServiceMs : ℚ
deriving Repr, DecidableEq

/- A window with the durations that fall into it. -/
def XhciWindow.of
    (radiusMs : Nat)
    (intervalCount : Int)
    (durations : List Int) : XhciWindow where
  radiusMs := radiusMs
  intervalCount := intervalCount
  serviceMs := (durations.sum : ℚ) / 1000000
  maximumServiceMs :=
    ((durations.max?.getD 0 : Int) : ℚ) / 1000000

/- One round of the loop over the radii. -/
def xhciWindow
    (begins durationsNs : List Int)
    (timestampNs : Int)
    (radiusMs : Nat) : XhciWindow :=
  let radiusNs : Int := radiusMs * 1000000
  let first := bisectLeft begins (timestampNs - radiusNs)
  let pastLast := bisectRight begins (timestampNs + radiusNs)
  .of radiusMs ((pastLast : Int) - (first : Int))
    (slice durationsNs first pastLast)

/- The radii, in milliseconds. -/
def xhciRadiiMs : List Nat :=
  [1, 10, 100, 1000]

/- The windows of all radii around a time. -/
def xhciWindows
    (trace : IrqTrace)
    (timestampNs : Int) : List XhciWindow :=
  xhciRadiiMs.map
    (xhciWindow trace.xhciBegins trace.xhciDurationsNs
      timestampNs)

/- Whether an interval begins in the closed window. -/
def Interrupt.beginsWithin
    (timestampNs radiusNs : Int)
    (row : Interrupt) : Bool :=
  timestampNs - radiusNs ≤ row.beginNs &&
    row.beginNs ≤ timestampNs + radiusNs

/- The window over all intervals that begin in it. -/
def exactWindow
    (rows : List Interrupt)
    (timestampNs : Int)
    (radiusMs : Nat) : XhciWindow :=
  let inside :=
    rows.filter (Interrupt.beginsWithin timestampNs
      (radiusMs * 1000000))
  .of radiusMs inside.length
    (inside.map (fun row => row.endNs - row.beginNs))

------------------------------------------------------------
-- Begins In Order
------------------------------------------------------------

theorem slice_map
    {X Y : Type}
    (f : X → Y)
    (values : List X)
    (first pastLast : Nat) :
    slice (values.map f) first pastLast =
      (slice values first pastLast).map f := by
  simp [slice, List.map_take, List.map_drop]

/- How many intervals begin in a window, as a difference. -/
theorem length_beginsWithin
    (rows : List Interrupt)
    (timestampNs : Int)
    {radiusNs : Int}
    (hRadius : 0 ≤ radiusNs) :
    ((rows.filter
        (Interrupt.beginsWithin timestampNs
          radiusNs)).length : Int) =
      (rows.countP (fun row =>
        row.beginNs ≤ timestampNs + radiusNs) : Int) -
      (rows.countP (fun row =>
        row.beginNs < timestampNs - radiusNs) : Int) := by
  rw [← List.countP_eq_length_filter]
  induction rows with
  | nil => rfl
  | cons row rest ih =>
      simp only [List.countP_cons, Interrupt.beginsWithin,
        Bool.and_eq_true, decide_eq_true_eq] at ih ⊢
      split_ifs <;> omega

/- On begins in order every window is exact. -/
theorem xhciWindow_exact
    {rows : List Interrupt}
    (hSorted :
      rows.Pairwise (fun first next =>
        first.beginNs ≤ next.beginNs))
    (timestampNs : Int)
    (radiusMs : Nat) :
    xhciWindow (rows.map Interrupt.beginNs)
        (rows.map (fun row => row.endNs - row.beginNs))
        timestampNs radiusMs =
      exactWindow rows timestampNs radiusMs := by
  unfold xhciWindow exactWindow
  simp only [slice_map]
  generalize hRadius : (radiusMs : Int) * 1000000 = radiusNs
  have hNonneg : 0 ≤ radiusNs := by omega
  have hSlice :
      slice rows
          (bisectLeft (rows.map Interrupt.beginNs)
            (timestampNs - radiusNs))
          (bisectRight (rows.map Interrupt.beginNs)
            (timestampNs + radiusNs)) =
        rows.filter
          (Interrupt.beginsWithin timestampNs radiusNs) := by
    rw [slice_bisect Interrupt.beginNs hSorted]
    apply List.filter_congr
    intro row _
    exact Bool.decide_and _ _
  rw [hSlice, bisectLeft_map Interrupt.beginNs hSorted,
    bisectRight_map Interrupt.beginNs hSorted,
    length_beginsWithin rows timestampNs hNonneg]

------------------------------------------------------------
-- Only In Order
------------------------------------------------------------

/-
  If every window of one radius has the right count, and no
  two intervals begin at the same time, they are in order.
-/
theorem sorted_of_exact
    {rows : List Interrupt}
    (hNodup : (rows.map Interrupt.beginNs).Nodup)
    {durationsNs : List Int}
    (radiusMs : Nat)
    (hExact :
      ∀ timestampNs,
        xhciWindow (rows.map Interrupt.beginNs) durationsNs
            timestampNs radiusMs =
          exactWindow rows timestampNs radiusMs) :
    rows.Pairwise (fun first next =>
      first.beginNs ≤ next.beginNs) := by
  have hCounts :
      ∀ bound,
        bisectRight (rows.map Interrupt.beginNs) bound =
          (rows.map Interrupt.beginNs).countP
            (fun value => value ≤ bound) := by
    apply bisectRight_eq_countP_of_windows
      (radiusMs * 1000000)
    intro time
    have hCount :=
      congrArg XhciWindow.intervalCount (hExact time)
    have hNonneg : (0 : Int) ≤ radiusMs * 1000000 := by
      omega
    simp only [xhciWindow, exactWindow, XhciWindow.of,
      length_beginsWithin rows time hNonneg] at hCount
    simpa [List.countP_map, Function.comp_def] using hCount
  have hStrict := sorted_of_bisectRight hNodup hCounts
  exact (List.pairwise_map.mp hStrict).imp le_of_lt

/-
  In every trace: if the xHCI intervals end in the order in
  which they begin, every window is exact. If their begins
  differ, the windows that are reported are exact only then.
-/
theorem xhciWindows_exact_iff
    (scope : IrqScope)
    (events : List KernelEvent) :
    let trace := irqTrace scope events
    let xhciRows := trace.rows.filter scope.isXhci
    (xhciRows.Pairwise (fun first next =>
        first.beginNs ≤ next.beginNs) →
      ∀ timestampNs radiusMs,
        xhciWindow trace.xhciBegins trace.xhciDurationsNs
            timestampNs radiusMs =
          exactWindow xhciRows timestampNs radiusMs) ∧
      ((xhciRows.map Interrupt.beginNs).Nodup →
        ((∀ timestampNs,
            xhciWindows trace timestampNs =
              xhciRadiiMs.map
                (exactWindow xhciRows timestampNs)) ↔
          xhciRows.Pairwise (fun first next =>
            first.beginNs ≤ next.beginNs))) := by
  intro trace xhciRows
  have hKept := irqTrace_kept scope events
  simp only [xhciWindows, trace, hKept.begins,
    hKept.durations]
  refine ⟨xhciWindow_exact, ?_⟩
  intro hNodup
  constructor
  · intro hWindows
    apply sorted_of_exact hNodup 1
    intro timestampNs
    exact (List.map_inj_left.mp (hWindows timestampNs)) 1
      List.mem_cons_self
  · intro hSorted timestampNs
    apply List.map_congr_left
    intro radiusMs _
    exact xhciWindow_exact hSorted timestampNs radiusMs

/-
  Two processors serve an xHCI interrupt; the second is done
  before the first.
-/
def overtakingIrqs : List KernelEvent :=
  [⟨0, 7, 0, .entry .hardirq, 40⟩,
    ⟨10, 8, 1, .entry .hardirq, 41⟩,
    ⟨20, 8, 1, .exit .hardirq, 41⟩,
    ⟨100, 7, 0, .exit .hardirq, 40⟩]

/- Two interrupts of cameras, and no application. -/
def xhciScope : IrqScope :=
  ⟨0, 1000, [], [40, 41]⟩

/- A window from five nanoseconds on finds no interrupt. -/
theorem overtakingIrqs_not_found :
    overtakingIrqs.Pairwise (fun first next =>
        first.timestampNs ≤ next.timestampNs) ∧
      xhciWindow (irqTrace xhciScope overtakingIrqs).xhciBegins
          (irqTrace xhciScope overtakingIrqs).xhciDurationsNs
          1000005 1 = ⟨1, 0, 0, 0⟩ ∧
      exactWindow
          ((irqTrace xhciScope overtakingIrqs).rows.filter
            xhciScope.isXhci)
          1000005 1 = ⟨1, 1, 1 / 100000, 1 / 100000⟩ := by
  decide +kernel

/- The same interrupts one after the other. -/
def consecutiveIrqs : List KernelEvent :=
  [⟨0, 7, 0, .entry .hardirq, 40⟩,
    ⟨10, 7, 0, .exit .hardirq, 40⟩,
    ⟨20, 8, 1, .entry .hardirq, 41⟩,
    ⟨100, 8, 1, .exit .hardirq, 41⟩]

theorem consecutiveIrqs_found :
    ∀ timestampNs,
      xhciWindows (irqTrace xhciScope consecutiveIrqs)
          timestampNs =
        xhciRadiiMs.map
          (exactWindow
            ((irqTrace xhciScope consecutiveIrqs).rows.filter
              xhciScope.isXhci) timestampNs) :=
  ((xhciWindows_exact_iff xhciScope consecutiveIrqs).2
    (by decide +kernel)).mpr (by decide +kernel)

end KernelTrace

end RsCamera
