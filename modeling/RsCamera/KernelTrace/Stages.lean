import RsCamera.KernelTrace.Interrupts

/-
  The processor time of a traced stage: how long a thread ran
  inside a window, and how much of that went to interrupts
  (`analyze_capture_residual.py`).

  Both scans start one interval before the place where the
  window would be inserted, and stop at the first interval
  behind it. On disjoint intervals in order nothing is lost
  by that.

  Key definitions include:
    * `IrqSpan`, `RunInterval`
    * `intervalOverlapNs`, `stageCpuNs`
    * `residencyNs`, `interruptNs`

  Key theorems include:
    * `intervalOverlapNs_eq_sum`
    * `stageLoop_eq`
    * `stageCpuNs_eq_plain_sums`
-/

------------------------------------------------------------
-- Intervals
------------------------------------------------------------

namespace RsCamera

namespace KernelTrace

/- An interrupt, from its entry to its exit. -/
structure IrqSpan where
  beginNs : Int
  endNs : Int
deriving Repr, DecidableEq

/- A time on a processor. -/
structure RunInterval where
  beginNs : Int
  endNs : Int
  cpu : Int
deriving Repr, DecidableEq

/- Interrupts by kind and processor. -/
abbrev IrqMap (X : Type) := IrqKind × Int → Option (List X)

------------------------------------------------------------
-- Time In A Window
------------------------------------------------------------

/- The loop over the intervals from an index on. -/
def overlapLoop
    (beginNs endNs : Int) :
    List IrqSpan → Int → Int
| [], total => total
| interval :: rest, total =>
    if endNs ≤ interval.beginNs then
      total
    else
      overlapLoop beginNs endNs rest
        (total +
          max 0 (min endNs interval.endNs -
            max beginNs interval.beginNs))

/-
  `interval_overlap_ns`: the loop begins at the last interval
  that may reach in.
-/
def intervalOverlapNs
    (intervals : List IrqSpan)
    (starts : List Int)
    (beginNs endNs : Int) : Int :=
  if intervals = [] ∨ endNs ≤ beginNs then
    0
  else
    overlapLoop beginNs endNs
      (intervals.drop (bisectRight starts beginNs - 1)) 0

/- The processor time of a stage. -/
structure StageCpu where
  scheduler : Int := 0
  hardirq : Int := 0
  softirq : Int := 0
  task : Int := 0
deriving Repr, DecidableEq

/- The interrupt time of one kind on a processor. -/
def interruptOverlapNs
    (interrupts : IrqMap IrqSpan)
    (interruptStarts : IrqMap Int)
    (kind : IrqKind)
    (cpu beginNs endNs : Int) : Int :=
  intervalOverlapNs ((interrupts (kind, cpu)).getD [])
    ((interruptStarts (kind, cpu)).getD []) beginNs endNs

/- The loop over the run intervals from an index on. -/
def stageLoop
    (interrupts : IrqMap IrqSpan)
    (interruptStarts : IrqMap Int)
    (beginNs endNs : Int) :
    List RunInterval → StageCpu → StageCpu
| [], spent => spent
| run :: rest, spent =>
    if endNs ≤ run.beginNs then
      spent
    else
      let overlapBegin := max beginNs run.beginNs
      let overlapEnd := min endNs run.endNs
      stageLoop interrupts interruptStarts beginNs endNs rest
        (if overlapBegin < overlapEnd then
          { spent with
            scheduler :=
              spent.scheduler + (overlapEnd - overlapBegin)
            hardirq :=
              spent.hardirq +
                interruptOverlapNs interrupts interruptStarts
                  .hardirq run.cpu overlapBegin overlapEnd
            softirq :=
              spent.softirq +
                interruptOverlapNs interrupts interruptStarts
                  .softirq run.cpu overlapBegin overlapEnd }
        else
          spent)

/-
  `stage_cpu_ns`: the loop begins at the last run that may reach
  in.
-/
def stageCpuNs
    (intervals : List RunInterval)
    (runStarts : List Int)
    (interrupts : IrqMap IrqSpan)
    (interruptStarts : IrqMap Int)
    (beginNs endNs : Int) : StageCpu :=
  if intervals = [] ∨ endNs ≤ beginNs then
    {}
  else
    let spent :=
      stageLoop interrupts interruptStarts beginNs endNs
        (intervals.drop (bisectRight runStarts beginNs - 1))
        {}
    { spent with
      task :=
        max 0 (spent.scheduler - spent.hardirq -
          spent.softirq) }

------------------------------------------------------------
-- Plain Sums
------------------------------------------------------------

/- The time in a window that a thread was on a processor. -/
def residencyNs
    (intervals : List RunInterval)
    (beginNs endNs : Int) : Int :=
  (intervals.map (fun run =>
    overlapNs beginNs endNs run.beginNs run.endNs)).sum

/-
  The time in a window in which the thread was on a processor
  and an interrupt of the kind ran there.
-/
def interruptNs
    (interrupts : IrqMap IrqSpan)
    (kind : IrqKind)
    (intervals : List RunInterval)
    (beginNs endNs : Int) : Int :=
  (intervals.map (fun run =>
    (((interrupts (kind, run.cpu)).getD []).map (fun irq =>
      overlapNs beginNs endNs (max run.beginNs irq.beginNs)
        (min run.endNs irq.endNs))).sum)).sum

theorem sum_map_eq_zero
    {X : Type}
    {items : List X}
    {weight : X → Int}
    (hZero : ∀ x ∈ items, weight x = 0) :
    (items.map weight).sum = 0 := by
  apply List.sum_eq_zero
  intro value hValue
  rcases List.mem_map.mp hValue with ⟨x, hX, hIs⟩
  exact hIs.symm.trans (hZero x hX)

theorem residencyNs_add
    (intervals : List RunInterval)
    {beginNs middle endNs : Int}
    (hLower : beginNs ≤ middle)
    (hUpper : middle ≤ endNs) :
    residencyNs intervals beginNs middle +
        residencyNs intervals middle endNs =
      residencyNs intervals beginNs endNs := by
  unfold residencyNs
  rw [← List.sum_map_add]
  congr 1
  apply List.map_congr_left
  intro run _
  exact overlapNs_add hLower hUpper run.beginNs run.endNs

theorem interruptNs_add
    (interrupts : IrqMap IrqSpan)
    (kind : IrqKind)
    (intervals : List RunInterval)
    {beginNs middle endNs : Int}
    (hLower : beginNs ≤ middle)
    (hUpper : middle ≤ endNs) :
    interruptNs interrupts kind intervals beginNs middle +
        interruptNs interrupts kind intervals middle endNs =
      interruptNs interrupts kind intervals beginNs endNs := by
  unfold interruptNs
  rw [← List.sum_map_add]
  congr 1
  apply List.map_congr_left
  intro run _
  rw [← List.sum_map_add]
  congr 1
  apply List.map_congr_left
  intro irq _
  exact overlapNs_add hLower hUpper _ _

------------------------------------------------------------
-- The Scans
------------------------------------------------------------

variable {beginNs endNs : Int}
variable {interrupts : IrqMap IrqSpan}

/- The intervals behind the window add nothing. -/
theorem overlapLoop_eq
    {intervals : List IrqSpan}
    (hSorted :
      intervals.Pairwise (fun first next =>
        first.beginNs ≤ next.beginNs))
    (total : Int) :
    overlapLoop beginNs endNs intervals total =
      total +
        (intervals.map (fun interval =>
          overlapNs beginNs endNs interval.beginNs
            interval.endNs)).sum := by
  induction intervals generalizing total with
  | nil => simp [overlapLoop]
  | cons interval rest ih =>
      rcases List.pairwise_cons.mp hSorted with ⟨hFirst, hRest⟩
      rw [overlapLoop]
      split
      next hBehind =>
        have hNone :
            ((interval :: rest).map (fun interval =>
              overlapNs beginNs endNs interval.beginNs
                interval.endNs)).sum = 0 := by
          apply sum_map_eq_zero
          intro later hLater
          apply overlapNs_of_le_start
          rcases List.mem_cons.mp hLater with hIs | hIn
          · exact hIs ▸ hBehind
          · exact hBehind.trans (hFirst later hIn)
        omega
      next hInside =>
        rw [ih hRest, List.map_cons, List.sum_cons, overlapNs]
        omega

theorem intervalOverlapNs_eq_sum
    {intervals : List IrqSpan}
    (hDisjoint :
      Disjointed IrqSpan.beginNs IrqSpan.endNs intervals)
    (beginNs endNs : Int) :
    intervalOverlapNs intervals
        (intervals.map IrqSpan.beginNs) beginNs endNs =
      (intervals.map (fun interval =>
        overlapNs beginNs endNs interval.beginNs
          interval.endNs)).sum := by
  unfold intervalOverlapNs
  split
  next hNothing =>
    rcases hNothing with hEmpty | hWindow
    · simp [hEmpty]
    · symm
      apply sum_map_eq_zero
      intro interval _
      exact overlapNs_of_empty hWindow _ _
  next hSomething =>
    rw [overlapLoop_eq
      (hDisjoint.sorted.sublist (List.drop_sublist _ _)),
      zero_add]
    exact hDisjoint.sum_drop
      (fun interval hOver => overlapNs_of_finish_le hOver)

/-
  An interrupt in the window and in a run interval is one in
  the part of the run interval that lies in the window.
-/
theorem interruptOverlapNs_eq_sum
    (hIrqs :
      ∀ key spans, interrupts key = some spans →
        Disjointed IrqSpan.beginNs IrqSpan.endNs spans)
    (kind : IrqKind)
    (run : RunInterval)
    (beginNs endNs : Int) :
    interruptOverlapNs interrupts
        (fun key =>
          (interrupts key).map (List.map IrqSpan.beginNs))
        kind run.cpu (max beginNs run.beginNs)
        (min endNs run.endNs) =
      (((interrupts (kind, run.cpu)).getD []).map
        (fun irq =>
          overlapNs beginNs endNs
            (max run.beginNs irq.beginNs)
            (min run.endNs irq.endNs))).sum := by
  unfold interruptOverlapNs
  cases hKey : interrupts (kind, run.cpu) with
  | none => simp [intervalOverlapNs]
  | some spans =>
      simp only [hKey, Option.map_some, Option.getD_some]
      rw [intervalOverlapNs_eq_sum (hIrqs _ _ hKey)]
      congr 1
      apply List.map_congr_left
      intro irq _
      simp only [overlapNs, max_assoc, min_assoc]

/- Outside the window a run interval has no interrupts. -/
theorem interruptSum_eq_zero
    (spans : List IrqSpan)
    {run : RunInterval}
    (hApart :
      min endNs run.endNs ≤ max beginNs run.beginNs) :
    (spans.map (fun irq =>
      overlapNs beginNs endNs (max run.beginNs irq.beginNs)
        (min run.endNs irq.endNs))).sum = 0 := by
  apply sum_map_eq_zero
  intro irq _
  unfold overlapNs
  omega

theorem residencyNs_eq_zero
    {intervals : List RunInterval}
    (hBehind : ∀ run ∈ intervals, endNs ≤ run.beginNs) :
    residencyNs intervals beginNs endNs = 0 := by
  apply sum_map_eq_zero
  intro run hRun
  exact overlapNs_of_le_start (hBehind run hRun)

theorem interruptNs_eq_zero
    (interrupts : IrqMap IrqSpan)
    (kind : IrqKind)
    {intervals : List RunInterval}
    (hBehind : ∀ run ∈ intervals, endNs ≤ run.beginNs) :
    interruptNs interrupts kind intervals beginNs endNs =
      0 := by
  apply sum_map_eq_zero
  intro run hRun
  apply interruptSum_eq_zero
  have hRunBehind := hBehind run hRun
  omega

/- What a run interval adds to the times of a stage. -/
theorem stageLoop_eq
    (hIrqs :
      ∀ key spans, interrupts key = some spans →
        Disjointed IrqSpan.beginNs IrqSpan.endNs spans)
    {intervals : List RunInterval}
    (hSorted :
      intervals.Pairwise (fun first next =>
        first.beginNs ≤ next.beginNs))
    (spent : StageCpu) :
    stageLoop interrupts
        (fun key =>
          (interrupts key).map (List.map IrqSpan.beginNs))
        beginNs endNs intervals spent =
      { spent with
        scheduler :=
          spent.scheduler +
            residencyNs intervals beginNs endNs
        hardirq :=
          spent.hardirq +
            interruptNs interrupts .hardirq intervals
              beginNs endNs
        softirq :=
          spent.softirq +
            interruptNs interrupts .softirq intervals
              beginNs endNs } := by
  induction intervals generalizing spent with
  | nil => simp [stageLoop, residencyNs, interruptNs]
  | cons run rest ih =>
      rcases List.pairwise_cons.mp hSorted with ⟨hFirst, hRest⟩
      rw [stageLoop]
      split
      next hBehind =>
        have hAll :
            ∀ later ∈ run :: rest, endNs ≤ later.beginNs := by
          intro later hLater
          rcases List.mem_cons.mp hLater with hIs | hIn
          · exact hIs ▸ hBehind
          · exact hBehind.trans (hFirst later hIn)
        simp only [residencyNs_eq_zero hAll,
          interruptNs_eq_zero interrupts _ hAll, add_zero]
      next hInside =>
        simp only [ih hRest]
        split
        next hOverlap =>
          have hCommon :
              overlapNs beginNs endNs run.beginNs run.endNs =
                min endNs run.endNs -
                  max beginNs run.beginNs := by
            unfold overlapNs
            omega
          simp only [residencyNs, interruptNs, List.map_cons,
            List.sum_cons, hCommon, add_assoc,
            interruptOverlapNs_eq_sum hIrqs]
        next hApart =>
          have hCommon :
              overlapNs beginNs endNs run.beginNs run.endNs =
                0 := by
            unfold overlapNs
            omega
          simp only [residencyNs, interruptNs, List.map_cons,
            List.sum_cons, hCommon, zero_add,
            interruptSum_eq_zero _ (not_lt.mp hApart)]

theorem stageCpuNs_eq
    {intervals : List RunInterval}
    (hRuns :
      Disjointed RunInterval.beginNs RunInterval.endNs
        intervals)
    (hIrqs :
      ∀ key spans, interrupts key = some spans →
        Disjointed IrqSpan.beginNs IrqSpan.endNs spans)
    (beginNs endNs : Int) :
    stageCpuNs intervals
        (intervals.map RunInterval.beginNs) interrupts
        (fun key =>
          (interrupts key).map (List.map IrqSpan.beginNs))
        beginNs endNs =
      { scheduler := residencyNs intervals beginNs endNs
        hardirq :=
          interruptNs interrupts .hardirq intervals
            beginNs endNs
        softirq :=
          interruptNs interrupts .softirq intervals
            beginNs endNs
        task :=
          max 0 (residencyNs intervals beginNs endNs -
            interruptNs interrupts .hardirq intervals
              beginNs endNs -
            interruptNs interrupts .softirq intervals
              beginNs endNs) } := by
  unfold stageCpuNs
  split
  next hNothing =>
    -- An empty list or an empty window.
    have hResidency :
        residencyNs intervals beginNs endNs = 0 := by
      apply sum_map_eq_zero
      intro run hRun
      rcases hNothing with hEmpty | hWindow
      · simp [hEmpty] at hRun
      · exact overlapNs_of_empty hWindow _ _
    have hInterrupt :
        ∀ kind,
          interruptNs interrupts kind intervals beginNs
            endNs = 0 := by
      intro kind
      apply sum_map_eq_zero
      intro run hRun
      rcases hNothing with hEmpty | hWindow
      · simp [hEmpty] at hRun
      · apply interruptSum_eq_zero
        omega
    simp [hResidency, hInterrupt]
  next hSomething =>
    simp only
    rw [stageLoop_eq hIrqs
      (hRuns.sorted.sublist (List.drop_sublist _ _))]
    -- The run intervals left out are over.
    have hResidency :
        residencyNs
            (intervals.drop (bisectRight
              (intervals.map RunInterval.beginNs)
              beginNs - 1)) beginNs endNs =
          residencyNs intervals beginNs endNs :=
      hRuns.sum_drop
        (fun run hOver => overlapNs_of_finish_le hOver)
    have hInterrupt :
        ∀ kind,
          interruptNs interrupts kind
              (intervals.drop (bisectRight
                (intervals.map RunInterval.beginNs)
                beginNs - 1)) beginNs endNs =
            interruptNs interrupts kind intervals beginNs
              endNs := by
      intro kind
      apply hRuns.sum_drop
      intro run hOver
      apply interruptSum_eq_zero
      omega
    simp only [hResidency, hInterrupt, zero_add]

/-
  The times of a stage are the plain sums over all intervals,
  and add up where a window is cut in two.
-/
theorem stageCpuNs_eq_plain_sums
    (intervals : List RunInterval)
    (interrupts : IrqMap IrqSpan)
    (hRuns :
      Disjointed RunInterval.beginNs RunInterval.endNs
        intervals)
    (hIrqs :
      ∀ key spans, interrupts key = some spans →
        Disjointed IrqSpan.beginNs IrqSpan.endNs spans) :
    let spent :=
      stageCpuNs intervals
        (intervals.map RunInterval.beginNs) interrupts
        (fun key =>
          (interrupts key).map (List.map IrqSpan.beginNs))
    (∀ beginNs endNs,
      spent beginNs endNs =
        { scheduler := residencyNs intervals beginNs endNs
          hardirq :=
            interruptNs interrupts .hardirq intervals
              beginNs endNs
          softirq :=
            interruptNs interrupts .softirq intervals
              beginNs endNs
          task :=
            max 0 (residencyNs intervals beginNs endNs -
              interruptNs interrupts .hardirq intervals
                beginNs endNs -
              interruptNs interrupts .softirq intervals
                beginNs endNs) }) ∧
      ∀ beginNs middle endNs,
        beginNs ≤ middle → middle ≤ endNs →
        (spent beginNs middle).scheduler +
            (spent middle endNs).scheduler =
          (spent beginNs endNs).scheduler ∧
        (spent beginNs middle).hardirq +
            (spent middle endNs).hardirq =
          (spent beginNs endNs).hardirq ∧
        (spent beginNs middle).softirq +
            (spent middle endNs).softirq =
          (spent beginNs endNs).softirq := by
  intro spent
  have hPlain := stageCpuNs_eq hRuns hIrqs
  refine ⟨hPlain, ?_⟩
  intro beginNs middle endNs hLower hUpper
  simp only [spent, hPlain]
  exact ⟨residencyNs_add intervals hLower hUpper,
    interruptNs_add interrupts .hardirq intervals hLower
      hUpper,
    interruptNs_add interrupts .softirq intervals hLower
      hUpper⟩

/- A run on one processor, and then one on another. -/
def twoRuns : List RunInterval :=
  [⟨0, 10, 2⟩, ⟨10, 30, 3⟩]

/- Two hardirqs on the first of them. -/
def twoHardirqs : IrqMap IrqSpan
| (.hardirq, 2) => some [⟨1, 2⟩, ⟨4, 12⟩]
| _ => none

theorem stageCpuNs_twoRuns :
    stageCpuNs twoRuns (twoRuns.map RunInterval.beginNs)
        twoHardirqs
        (fun key =>
          (twoHardirqs key).map (List.map IrqSpan.beginNs))
        3 20 =
      { scheduler := 17, hardirq := 6, task := 11 } := by
  have hRuns :
      Disjointed RunInterval.beginNs RunInterval.endNs
        twoRuns := by
    simp [Disjointed, twoRuns]
  have hIrqs :
      ∀ key spans, twoHardirqs key = some spans →
        Disjointed IrqSpan.beginNs IrqSpan.endNs spans := by
    intro key spans hSome
    unfold twoHardirqs at hSome
    split at hSome
    · cases hSome
      simp [Disjointed]
    · cases hSome
  have hPlain :=
    (stageCpuNs_eq_plain_sums twoRuns twoHardirqs hRuns
      hIrqs).1 3 20
  exact hPlain.trans (by decide)

end KernelTrace

end RsCamera
