import RsCamera.Probe.Window

/-
  The barriers of a run: every camera is counted at most once
  at each milestone, the scheduler transition comes before
  the end of the warm-up, the measurement opens only when
  every camera is warm and healthy, and a run in
  delivery-count mode that ends without a failure has
  measured the requested number of deliveries of every
  camera.

  The flags of a camera are guarded by its own mutex and the
  counters by another one.  What connects them is the number
  of increments still to be signalled (`pendingAdds`).

  Main declarations:
    * `CameraFacts`, `LockFacts`, `Counted`
    * `BarrierInvariant`
    * `step_barrierInvariant`
    * `run_barriers`
-/

------------------------------------------------------------
-- One Camera
------------------------------------------------------------

namespace RsCamera

namespace Probe

section

open Steady

variable {n m : Nat}

/- Whether a camera has reached a milestone. -/
def reached (metrics : CameraMetrics) : Counter → Bool
| .schedulerReady => metrics.schedulerReady
| .warmed => metrics.warmed
| .completed => metrics.completed

/- Whether a delivery made its camera reach a milestone. -/
def DeliveryOutcome.became
    (outcome : DeliveryOutcome) : Counter → Bool
| .schedulerReady => outcome.becameSchedulerReady
| .warmed => outcome.becameWarm
| .completed => outcome.becameComplete

/- What always holds of the metrics of one camera. -/
structure CameraFacts
    (opts : Options)
    (metrics : CameraMetrics) : Prop where
  ready :
    modeledSchedulerRequested opts = true →
    (schedulerApplyThreshold opts).toNat ≤
        metrics.warmupDeliveries →
      metrics.schedulerReady = true
  healthy :
    metrics.warmed = true →
      finalHealthError opts metrics = none
  complete :
    fixedDurationMeasurement opts = false →
    metrics.completed = true →
      metrics.deliveries = opts.frames.toNat
  incomplete :
    fixedDurationMeasurement opts = false →
    metrics.completed = false →
      metrics.deliveries < opts.frames.toNat

theorem countTimeout_sameWarmup
    (metrics : CameraMetrics)
    (wasEnabled : Bool) :
    SameWarmup metrics (countTimeout metrics wasEnabled) := by
  unfold countTimeout
  split
  · exact ⟨rfl, rfl, rfl, rfl, rfl⟩
  · exact ⟨rfl, rfl, rfl, rfl, rfl⟩

variable {opts : Options}
variable {before after : CameraMetrics}

theorem CameraFacts.of_same
    (hFacts : CameraFacts opts before)
    (hWarmup : SameWarmup before after)
    (hMeasurement : SameMeasurement before after) :
    CameraFacts opts after where
  ready := by
    rw [hWarmup.deliveries_eq, hWarmup.ready_eq]
    exact hFacts.ready
  healthy := by
    rw [hWarmup.warmed_eq, hWarmup.finalHealthError_eq]
    exact hFacts.healthy
  complete := by
    rw [hMeasurement.completed_eq, hMeasurement.deliveries_eq]
    exact hFacts.complete
  incomplete := by
    rw [hMeasurement.completed_eq, hMeasurement.deliveries_eq]
    exact hFacts.incomplete

theorem CameraFacts.of_warmup
    {outcome : DeliveryOutcome}
    (hFacts : CameraFacts opts before)
    (hStep : WarmupStep opts before after outcome)
    (hCold : before.warmed = false) :
    CameraFacts opts after where
  ready := hStep.ready_of_threshold
  healthy := by
    rw [hStep.warmed_eq, hCold, Bool.false_or]
    exact hStep.warm_health
  complete := by
    rw [hStep.same.completed_eq, hStep.same.deliveries_eq]
    exact hFacts.complete
  incomplete := by
    rw [hStep.same.completed_eq, hStep.same.deliveries_eq]
    exact hFacts.incomplete

theorem CameraFacts.of_measured
    {hostNs : Nat}
    {outcome : DeliveryOutcome}
    (hFacts : CameraFacts opts before)
    (hStep : MeasuredStep opts hostNs before after outcome)
    (hOpen : before.completed = false) :
    CameraFacts opts after := by
  have hAfter := hStep.deliveries_eq
  have hCompleted :
      fixedDurationMeasurement opts = false →
        after.completed =
          decide (opts.frames.toNat ≤ after.deliveries) := by
    intro hMode
    rw [hStep.completed_eq, hOpen, hStep.complete_eq, hMode]
    simp
  refine
    { ready := ?_
      healthy := ?_
      complete := ?_
      incomplete := ?_ }
  · rw [hStep.same.deliveries_eq, hStep.same.ready_eq]
    exact hFacts.ready
  · rw [hStep.same.warmed_eq, hStep.same.finalHealthError_eq]
    exact hFacts.healthy
  · intro hMode hDone
    have hBefore := hFacts.incomplete hMode hOpen
    rw [hCompleted hMode, decide_eq_true_eq] at hDone
    omega
  · intro hMode hNot
    rw [hCompleted hMode, decide_eq_false_iff_not] at hNot
    omega

/- What a step of a thread can do to a camera. -/
inductive CameraChange
    (cfg : Config n)
    (s : State n m)
    (id : ThreadId n m)
    (camera : Fin n)
    (phase : ThreadPhase n) : CameraMetrics → Prop
| same :
    CameraChange cfg s id camera phase (s.cameras camera)
| timeout
    (wasEnabled : Bool) :
    CameraChange cfg s id camera phase
      (countTimeout (s.cameras camera) wasEnabled)
| warm
    (d : Delivery n)
    (hFrom : s.threads id = .arrived d)
    (hCamera : d.camera = camera)
    (hUnlocked : s.locked camera = false)
    (hWarmed : (s.cameras camera).warmed = false)
    (hPhase :
      phase =
        .signalling camera
          ((recordWarmupDelivery cfg.opts (s.cameras camera)
            d.payload d.hostNs).2.ops (cfg.serials camera))
          false) :
    CameraChange cfg s id camera phase
      (recordWarmupDelivery cfg.opts (s.cameras camera)
        d.payload d.hostNs).1
| record
    (d : Delivery n)
    (hFrom : s.threads id = .measuring d)
    (hCamera : d.camera = camera)
    (hPhase :
      phase =
        .signalling camera
          ((recordMeasuredDelivery cfg.opts
            (s.cameras camera) d.payload d.hostNs
            d.hostRealtimeNs d.waitMs).2.ops
              (cfg.serials camera)) false) :
    CameraChange cfg s id camera phase
      (recordMeasuredDelivery cfg.opts (s.cameras camera)
        d.payload d.hostNs d.hostRealtimeNs d.waitMs).1

theorem ThreadEffect.camera_change
    {cfg : Config n}
    {s t : State n m}
    {id : ThreadId n m}
    (hEffect : ThreadEffect cfg s id t)
    (camera : Fin n) :
    CameraChange cfg s id camera (t.threads id)
      (t.cameras camera) := by
  cases hEffect with
  | timeout other wasEnabled phase =>
      by_cases hCamera : camera = other
      · subst hCamera
        simp only [setThread_cameras, setCamera_cameras,
          Function.update_self]
        exact .timeout wasEnabled
      · simp only [setThread_cameras, setCamera_cameras,
          Function.update_of_ne hCamera]
        exact .same
  | warm d hFrom hUnlocked _ hWarmed =>
      by_cases hCamera : camera = d.camera
      · subst hCamera
        simp only [setThread_cameras, setCamera_cameras,
          setThread_threads, Function.update_self]
        exact .warm d hFrom rfl hUnlocked hWarmed rfl
      · simp only [setThread_cameras, setCamera_cameras,
          Function.update_of_ne hCamera]
        exact .same
  | record d hFrom =>
      by_cases hCamera : camera = d.camera
      · subst hCamera
        simp only [setThread_cameras, State.setLocked,
          setCamera_cameras, setThread_threads,
          Function.update_self]
        exact .record d hFrom rfl rfl
      · simp only [setThread_cameras, State.setLocked,
          setCamera_cameras, Function.update_of_ne hCamera]
        exact .same
  | _ => exact .same

end

------------------------------------------------------------
-- Counting Cameras
------------------------------------------------------------

section

open Steady

variable {n m : Nat}

/- The increments a thread has still to signal. -/
def pendingAdds
    (camera : Fin n)
    (counter : Counter) : ThreadPhase n → Nat
| .signalling other ops _ =>
    if other = camera then ops.count (.add counter) else 0
| _ => 0

/- The increment a step makes, with its camera. -/
def increments
    (s : State n m)
    (action : Action n m) : List (Fin n × Counter) :=
  match action with
  | .thread id _ =>
      match s.threads id with
      | .signalling camera (.add counter :: _) _ =>
          [(camera, counter)]
      | _ => []
  | _ => []

/- A milestone as a number. -/
def reachedCount
    (metrics : CameraMetrics)
    (counter : Counter) : Nat :=
  if reached metrics counter then 1 else 0

/-
  The increments made and the increments pending account for
  no more than the milestones reached, and the shared
  counters are the increments made.
-/
structure Counted
    (log : List (Fin n × Counter))
    (s : State n m) : Prop where
  le_reached :
    ∀ camera counter,
      log.count (camera, counter) +
          ∑ id, pendingAdds camera counter (s.threads id) ≤
        reachedCount (s.cameras camera) counter
  total :
    ∀ counter,
      s.control.count counter =
        ∑ camera, log.count (camera, counter)

variable {phase : ThreadPhase n}
variable {outcome : DeliveryOutcome}
variable {id : ThreadId n m}
variable {cfg : Config n}

theorem pendingAdds_of_free
    (hFree : phase.free = true)
    (camera : Fin n)
    (counter : Counter) :
    pendingAdds camera counter phase = 0 := by
  cases phase with
  | signalling other ops exits =>
      have hNil : ops = [] := by
        simpa [ThreadPhase.free] using hFree
      simp [pendingAdds, hNil]
  | _ => rfl

theorem count_setFailure
    (failure : Failure)
    (counter : Counter) :
    (setFailure failure).count (.add counter) = 0 := by
  simp [setFailure]

/- A delivery signals only the milestones it reached. -/
theorem count_ops_le
    (outcome : DeliveryOutcome)
    (serial : String)
    (counter : Counter) :
    (outcome.ops serial).count (.add counter) ≤
      if outcome.became counter then 1 else 0 := by
  unfold DeliveryOutcome.ops
  split
  · rw [count_setFailure]
    exact Nat.zero_le _
  · rw [count_setFailure]
    exact Nat.zero_le _
  · rcases outcome with ⟨ready, warm, complete, _, _⟩
    cases counter with
    | schedulerReady =>
        cases ready <;> cases warm <;> cases complete <;>
          simp [DeliveryOutcome.became]
    | warmed =>
        cases ready <;> cases warm <;> cases complete <;>
          simp [DeliveryOutcome.became]
    | completed =>
        cases ready <;> cases warm <;> cases complete <;>
          simp [DeliveryOutcome.became]

/- Reaching a milestone is what an outcome reports. -/
def Reaches
    (before after : CameraMetrics)
    (outcome : DeliveryOutcome) : Prop :=
  ∀ counter,
    reached after counter =
        (reached before counter || outcome.became counter) ∧
      (outcome.became counter = true →
        reached before counter = false)

theorem WarmupStep.reaches
    {opts : Options}
    {before after : CameraMetrics}
    (hStep : WarmupStep opts before after outcome)
    (hCold : before.warmed = false) :
    Reaches before after outcome := by
  intro counter
  cases counter with
  | schedulerReady =>
      exact ⟨hStep.ready_eq, hStep.ready_fresh⟩
  | warmed => exact ⟨hStep.warmed_eq, fun _ => hCold⟩
  | completed =>
      simp only [reached, DeliveryOutcome.became,
        hStep.complete_eq, Bool.or_false]
      exact ⟨hStep.same.completed_eq, by simp⟩

theorem MeasuredStep.reaches
    {opts : Options}
    {hostNs : Nat}
    {before after : CameraMetrics}
    (hStep : MeasuredStep opts hostNs before after outcome)
    (hOpen : before.completed = false) :
    Reaches before after outcome := by
  intro counter
  cases counter with
  | schedulerReady =>
      simp only [reached, DeliveryOutcome.became,
        hStep.ready_eq, Bool.or_false]
      exact ⟨hStep.same.ready_eq, by simp⟩
  | warmed =>
      simp only [reached, DeliveryOutcome.became,
        hStep.warm_eq, Bool.or_false]
      exact ⟨hStep.same.warmed_eq, by simp⟩
  | completed => exact ⟨hStep.completed_eq, fun _ => hOpen⟩

/- The signals of a delivery are covered by its milestones. -/
theorem Reaches.count_le
    {before after : CameraMetrics}
    (hReaches : Reaches before after outcome)
    (serial : String)
    (counter : Counter) :
    (outcome.ops serial).count (.add counter) +
        reachedCount before counter ≤
      reachedCount after counter := by
  have hOps := count_ops_le outcome serial counter
  rcases hReaches counter with ⟨hAfter, hFresh⟩
  unfold reachedCount
  rw [hAfter]
  cases hBecame : outcome.became counter with
  | true =>
      rw [hFresh hBecame]
      simpa [hBecame] using hOps
  | false =>
      simp only [hBecame, Bool.false_eq_true, if_false,
        Nat.le_zero] at hOps
      simp [hOps]

theorem reachedCount_of_same
    {before after : CameraMetrics}
    (hWarmup : SameWarmup before after)
    (hMeasurement : SameMeasurement before after)
    (counter : Counter) :
    reachedCount after counter =
      reachedCount before counter := by
  have hSame :
      reached after counter = reached before counter := by
    cases counter with
    | schedulerReady => exact hWarmup.ready_eq
    | warmed => exact hWarmup.warmed_eq
    | completed => exact hMeasurement.completed_eq
  unfold reachedCount
  rw [hSame]

/-
  One thread changes its phase: what it adds to the log and
  to the pending increments is covered by what it had pending
  and by the milestones its camera reached.
-/
theorem le_reached_of_thread
    {log new : List (Fin n × Counter)}
    {s : State n m}
    {camera : Fin n}
    {counter : Counter}
    {after : Nat}
    (hBefore :
      log.count (camera, counter) +
          ∑ other, pendingAdds camera counter
            (s.threads other) ≤
        reachedCount (s.cameras camera) counter)
    (hCovered :
      new.count (camera, counter) +
          pendingAdds camera counter phase +
          reachedCount (s.cameras camera) counter ≤
        pendingAdds camera counter (s.threads id) + after) :
    (log ++ new).count (camera, counter) +
        ∑ other, pendingAdds camera counter
          (Function.update s.threads id phase other) ≤
      after := by
  have hTotal :=
    total_update_add (pendingAdds camera counter) s.threads
      id phase
  rw [List.count_append]
  omega

/- Only a signalling thread makes an increment. -/
theorem increments_of_not_signalling
    {s : State n m}
    (hThread :
      ∀ camera counter ops exits,
        s.threads id ≠
          .signalling camera (.add counter :: ops) exits)
    (action : ThreadAction n) :
    increments s (.thread id action) = [] := by
  unfold increments
  dsimp only
  split
  next camera counter ops exits hFrom =>
    exact absurd hFrom (hThread camera counter ops exits)
  · rfl

theorem increments_of_free
    {s : State n m}
    (hFree : (s.threads id).free = true)
    (action : ThreadAction n) :
    increments s (.thread id action) = [] := by
  refine increments_of_not_signalling ?_ action
  intro camera counter ops exits hFrom
  rw [hFrom] at hFree
  cases hFree

theorem ThreadEffect.threads_eq
    {s t : State n m}
    (hEffect : ThreadEffect cfg s id t) :
    t.threads =
      Function.update s.threads id (t.threads id) := by
  cases hEffect <;> simp [State.setThread, State.setCamera,
    State.setLocked]

/-
  What a step adds to the log and leaves pending is covered
  by what was pending and by the milestones newly reached.
-/
def Covered
    (s t : State n m)
    (id : ThreadId n m)
    (new : List (Fin n × Counter)) : Prop :=
  ∀ camera counter,
    new.count (camera, counter) +
        pendingAdds camera counter (t.threads id) +
        reachedCount (s.cameras camera) counter ≤
      pendingAdds camera counter (s.threads id) +
        reachedCount (t.cameras camera) counter

/- A delivery is covered by the milestones of its camera. -/
theorem covered_delivery
    {s : State n m}
    {camera : Fin n}
    {metrics : CameraMetrics}
    {serial : String}
    (hReaches :
      Reaches (s.cameras camera) metrics outcome) :
    Covered s
      ((s.setCamera camera metrics).setThread id
        (.signalling camera (outcome.ops serial) false))
      id [] := by
  intro other counter
  simp only [setThread_threads, setThread_cameras,
    setCamera_cameras, Function.update_self, pendingAdds,
    List.count_nil]
  by_cases hOther : other = camera
  · subst hOther
    have hCount := hReaches.count_le serial counter
    simp only [if_true, Function.update_self]
    omega
  · have hSym : ¬ camera = other := fun hEq =>
      hOther hEq.symm
    simp only [hSym, if_false, Function.update_of_ne hOther]
    omega

theorem covered_of_free
    {s : State n m}
    (hPhase :
      ∀ camera counter,
        pendingAdds camera counter phase = 0) :
    Covered s (s.setThread id phase) id [] := by
  intro camera counter
  simp only [setThread_threads, setThread_cameras,
    Function.update_self, hPhase, List.count_nil]
  omega

theorem ThreadEffect.covered
    {s t : State n m}
    (hEffect : ThreadEffect cfg s id t)
    (hOpen :
      ∀ d, s.threads id = .measuring d →
        (s.cameras d.camera).completed = false)
    (action : ThreadAction n) :
    Covered s t id (increments s (.thread id action)) := by
  have hArrived :
      ∀ d, s.threads id = .arrived d →
        increments s (.thread id action) = [] := by
    intro d hFrom
    exact increments_of_not_signalling (by simp [hFrom]) _
  have hMeasuring :
      ∀ d, s.threads id = .measuring d →
        increments s (.thread id action) = [] := by
    intro d hFrom
    exact increments_of_not_signalling (by simp [hFrom]) _
  cases hEffect with
  | quiet phase hFrom hTo =>
      rw [increments_of_free hFrom]
      exact covered_of_free (pendingAdds_of_free hTo)
  | arrive d hFrom =>
      rw [increments_of_free hFrom]
      exact covered_of_free (fun _ _ => rfl)
  | timeout camera wasEnabled phase hFrom hTo =>
      rw [increments_of_free hFrom]
      intro other counter
      simp only [setThread_threads, setThread_cameras,
        setCamera_cameras, Function.update_self,
        pendingAdds_of_free hTo, List.count_nil]
      by_cases hOther : other = camera
      · subst hOther
        rw [Function.update_self,
          reachedCount_of_same (countTimeout_sameWarmup _ _)
            (countTimeout_sameMeasurement _ _)]
        omega
      · rw [Function.update_of_ne hOther]
        omega
  | report camera failure hFrom =>
      rw [increments_of_free hFrom]
      refine covered_of_free ?_
      intro other counter
      simp [pendingAdds, count_setFailure]
  | skip d hFrom =>
      rw [hArrived d hFrom]
      exact covered_of_free (pendingAdds_of_free rfl)
  | warm d hFrom _ _ hCold =>
      rw [hArrived d hFrom]
      exact covered_delivery
        ((recordWarmupDelivery_spec _ _ _ _).reaches hCold)
  | lock d hFrom =>
      rw [hArrived d hFrom]
      exact covered_of_free (fun _ _ => rfl)
  | late d hFrom =>
      rw [hMeasuring d hFrom]
      exact covered_of_free (pendingAdds_of_free rfl)
  | record d hFrom =>
      rw [hMeasuring d hFrom]
      exact covered_delivery
        ((recordMeasuredDelivery_spec _ _ _ _ _ _).reaches
          (hOpen d hFrom))
  | signal camera op ops exits hFrom =>
      intro other counter
      simp only [setThread_threads, setThread_cameras,
        Function.update_self, increments, hFrom, pendingAdds]
      cases op with
      | add added =>
          by_cases hOther : camera = other
          · by_cases hCounter : added = counter
            · simp [hOther, hCounter]
              omega
            · simp [hOther, hCounter]
          · simp [hOther]
      | fail failure => simp
      | raiseStop => simp

/- The counters grow by the increments. -/
theorem ThreadEffect.count_eq
    {s t : State n m}
    (hEffect : ThreadEffect cfg s id t)
    (action : ThreadAction n)
    (counter : Counter) :
    t.control.count counter =
      s.control.count counter +
        ∑ camera, (increments s (.thread id action)).count
          (camera, counter) := by
  have hNone :
      increments s (.thread id action) = [] →
        s.control.count counter =
          s.control.count counter +
            ∑ camera, (increments s (.thread id action)).count
              (camera, counter) := by
    intro hEmpty
    simp [hEmpty]
  have hCarried :
      ∀ d, s.threads id = .arrived d ∨
          s.threads id = .measuring d →
        increments s (.thread id action) = [] := by
    intro d hFrom
    refine increments_of_not_signalling ?_ action
    rcases hFrom with hFrom | hFrom <;> simp [hFrom]
  cases hEffect with
  | quiet phase hFrom =>
      exact hNone (increments_of_free hFrom action)
  | arrive d hFrom =>
      exact hNone (increments_of_free hFrom action)
  | timeout camera wasEnabled phase hFrom =>
      exact hNone (increments_of_free hFrom action)
  | report camera failure hFrom =>
      exact hNone (increments_of_free hFrom action)
  | skip d hFrom => exact hNone (hCarried d (.inl hFrom))
  | warm d hFrom => exact hNone (hCarried d (.inl hFrom))
  | lock d hFrom => exact hNone (hCarried d (.inl hFrom))
  | late d hFrom => exact hNone (hCarried d (.inr hFrom))
  | record d hFrom => exact hNone (hCarried d (.inr hFrom))
  | signal camera op ops exits hFrom =>
      simp only [setThread_control, count_apply, increments,
        hFrom]
      cases op with
      | add added =>
          by_cases hCounter : added = counter
          · simp [hCounter, List.count_singleton]
          · simp [hCounter]
      | fail failure => simp
      | raiseStop => simp

theorem Counted.of_thread
    {log : List (Fin n × Counter)}
    {s t : State n m}
    (hCounted : Counted log s)
    (hEffect : ThreadEffect cfg s id t)
    (hOpen :
      ∀ d, s.threads id = .measuring d →
        (s.cameras d.camera).completed = false)
    (action : ThreadAction n) :
    Counted (log ++ increments s (.thread id action)) t := by
  constructor
  · intro camera counter
    rw [hEffect.threads_eq]
    exact le_reached_of_thread
      (hCounted.le_reached camera counter)
      (hEffect.covered hOpen action camera counter)
  · intro counter
    simp only [List.count_append, Finset.sum_add_distrib]
    rw [hEffect.count_eq action counter,
      hCounted.total counter]

/- The main thread makes no increments. -/
theorem Counted.of_main
    {log : List (Fin n × Counter)}
    {s t : State n m}
    (hCounted : Counted log s)
    (hFrame : MainFrame s t) :
    Counted log t := by
  constructor
  · intro camera counter
    have hPending :
        ∑ id, pendingAdds camera counter (t.threads id) ≤
          ∑ id, pendingAdds camera counter (s.threads id) := by
      refine Finset.sum_le_sum ?_
      intro id _
      rcases hFrame.threads id with hSame | hFree
      · rw [hSame]
      · rw [pendingAdds_of_free hFree]
        exact Nat.zero_le _
    have hBefore := hCounted.le_reached camera counter
    rw [hFrame.cameras_eq]
    omega
  · intro counter
    rw [hFrame.count_eq]
    exact hCounted.total counter

end

------------------------------------------------------------
-- Locks And Records
------------------------------------------------------------

section

open Steady

variable {n m : Nat}

/- A measuring thread holds its camera alone. -/
structure LockFacts (s : State n m) : Prop where
  locked :
    ∀ id d, s.threads id = .measuring d →
      s.locked d.camera = true
  incomplete :
    ∀ id d, s.threads id = .measuring d →
      (s.cameras d.camera).completed = false
  alone :
    ∀ id d, s.threads id = .measuring d →
    ∀ other e, s.threads other = .measuring e →
      d.camera = e.camera → id = other

variable {s t : State n m}
variable {id : ThreadId n m}

/- A thread that is not measuring afterwards. -/
theorem LockFacts.of_thread
    {phase : ThreadPhase n}
    (hLocks : LockFacts s)
    (hThreads : t.threads = Function.update s.threads id phase)
    (hPhase : ∀ d, phase ≠ .measuring d)
    (hOthers :
      ∀ other d, other ≠ id →
        s.threads other = .measuring d →
          t.locked d.camera = true ∧
            (t.cameras d.camera).completed = false) :
    LockFacts t := by
  have hOld :
      ∀ other d, t.threads other = .measuring d →
        other ≠ id ∧ s.threads other = .measuring d := by
    intro other d hThread
    rw [hThreads] at hThread
    by_cases hOther : other = id
    · subst hOther
      rw [Function.update_self] at hThread
      exact absurd hThread (hPhase d)
    · rw [Function.update_of_ne hOther] at hThread
      exact ⟨hOther, hThread⟩
  constructor
  · intro other d hThread
    rcases hOld other d hThread with ⟨hOther, hFrom⟩
    exact (hOthers other d hOther hFrom).1
  · intro other d hThread
    rcases hOld other d hThread with ⟨hOther, hFrom⟩
    exact (hOthers other d hOther hFrom).2
  · intro one d hOne two e hTwo hCamera
    exact hLocks.alone one d (hOld one d hOne).2 two e
      (hOld two e hTwo).2 hCamera

theorem measuring_ne_of_free
    {phase : ThreadPhase n}
    (hFree : phase.free = true)
    (d : Delivery n) :
    phase ≠ .measuring d := by
  intro hPhase
  rw [measuring_not_free hPhase] at hFree
  cases hFree

/- A thread that takes the lock of a camera for a delivery. -/
theorem LockFacts.lock
    {s : State n m}
    {e : Delivery n}
    (hLocks : LockFacts s)
    (hUnlocked : s.locked e.camera = false)
    (hCompleted : (s.cameras e.camera).completed = false) :
    LockFacts
      ((s.setLocked e.camera true).setThread id
        (.measuring e)) := by
  have hFree :
      ∀ other d, s.threads other = .measuring d →
        d.camera ≠ e.camera := by
    intro other d hOther hEq
    have hLocked := hLocks.locked other d hOther
    rw [hEq, hUnlocked] at hLocked
    cases hLocked
  have hCases :
      ∀ other d,
        Function.update s.threads id (.measuring e) other =
            .measuring d →
          (other = id ∧ d = e) ∨
            s.threads other = .measuring d := by
    intro other d hThread
    by_cases hOther : other = id
    · subst hOther
      simp only [Function.update_self,
        ThreadPhase.measuring.injEq] at hThread
      exact Or.inl ⟨rfl, hThread.symm⟩
    · rw [Function.update_of_ne hOther] at hThread
      exact Or.inr hThread
  constructor
  · intro other d hThread
    rcases hCases other d hThread with ⟨_, hEq⟩ | hOld
    · simp [hEq]
    · simp only [setThread_locked, setLocked_locked,
        Function.update_of_ne (hFree other d hOld)]
      exact hLocks.locked other d hOld
  · intro other d hThread
    rcases hCases other d hThread with ⟨_, hEq⟩ | hOld
    · rw [hEq]
      exact hCompleted
    · exact hLocks.incomplete other d hOld
  · intro one d hOne two c hTwo hCamera
    rcases hCases one d hOne with ⟨hId, hEq⟩ | hOldOne
    · rcases hCases two c hTwo with ⟨hId', _⟩ | hOldTwo
      · rw [hId, hId']
      · exact absurd (hEq ▸ hCamera.symm)
          (hFree two c hOldTwo)
    · rcases hCases two c hTwo with ⟨_, hEq⟩ | hOldTwo
      · exact absurd (hEq ▸ hCamera) (hFree one d hOldOne)
      · exact hLocks.alone one d hOldOne two c hOldTwo hCamera

theorem ThreadEffect.locks
    {cfg : Config n}
    (hEffect : ThreadEffect cfg s id t)
    (hLocks : LockFacts s) :
    LockFacts t := by
  have hKept :
      ∀ other d, other ≠ id →
        s.threads other = .measuring d →
          s.locked d.camera = true ∧
            (s.cameras d.camera).completed = false :=
    fun other d _ hFrom =>
      ⟨hLocks.locked other d hFrom,
        hLocks.incomplete other d hFrom⟩
  cases hEffect with
  | quiet phase _ hTo =>
      exact hLocks.of_thread rfl (measuring_ne_of_free hTo)
        hKept
  | arrive d => exact hLocks.of_thread rfl (by simp) hKept
  | timeout camera wasEnabled phase _ hTo =>
      refine hLocks.of_thread rfl (measuring_ne_of_free hTo)
        ?_
      intro other d hOther hFrom
      refine ⟨(hKept other d hOther hFrom).1, ?_⟩
      simp only [setThread_cameras, setCamera_cameras]
      by_cases hCamera : d.camera = camera
      · rw [hCamera, Function.update_self,
          (countTimeout_sameMeasurement _ _).completed_eq,
          ← hCamera]
        exact (hKept other d hOther hFrom).2
      · rw [Function.update_of_ne hCamera]
        exact (hKept other d hOther hFrom).2
  | report camera failure =>
      exact hLocks.of_thread rfl (by simp) hKept
  | skip d => exact hLocks.of_thread rfl (by simp) hKept
  | warm e _ hUnlocked =>
      refine hLocks.of_thread rfl (by simp) ?_
      intro other d hOther hFrom
      refine ⟨(hKept other d hOther hFrom).1, ?_⟩
      have hCamera : d.camera ≠ e.camera := by
        intro hEq
        have hLocked := (hKept other d hOther hFrom).1
        rw [hEq, hUnlocked] at hLocked
        cases hLocked
      simp only [setThread_cameras, setCamera_cameras,
        Function.update_of_ne hCamera]
      exact (hKept other d hOther hFrom).2
  | lock e _ hUnlocked hCompleted =>
      exact hLocks.lock hUnlocked hCompleted
  | late e hFrom =>
      refine hLocks.of_thread rfl (by simp) ?_
      intro other d hOther hMeasuring
      have hCamera : d.camera ≠ e.camera := fun hEq =>
        hOther (hLocks.alone other d hMeasuring id e hFrom hEq)
      simp only [setThread_locked, setLocked_locked,
        Function.update_of_ne hCamera]
      exact hKept other d hOther hMeasuring
  | record e hFrom =>
      refine hLocks.of_thread rfl (by simp) ?_
      intro other d hOther hMeasuring
      have hCamera : d.camera ≠ e.camera := fun hEq =>
        hOther (hLocks.alone other d hMeasuring id e hFrom hEq)
      simp only [setThread_locked, setThread_cameras,
        State.setLocked, State.setCamera,
        Function.update_of_ne hCamera]
      exact hKept other d hOther hMeasuring
  | signal camera op ops exits =>
      exact hLocks.of_thread rfl (by simp) hKept

theorem LockFacts.of_main
    (hLocks : LockFacts s)
    (hFrame : MainFrame s t) :
    LockFacts t := by
  constructor
  · intro id d hThread
    rw [hFrame.locked_eq]
    exact hLocks.locked id d (hFrame.measuring hThread)
  · intro id d hThread
    rw [hFrame.cameras_eq]
    exact hLocks.incomplete id d (hFrame.measuring hThread)
  · intro id d hThread other e hOther
    exact hLocks.alone id d (hFrame.measuring hThread) other e
      (hFrame.measuring hOther)

end

------------------------------------------------------------
-- The Barrier Invariant
------------------------------------------------------------

section

open Steady

variable {n m : Nat}

structure BarrierInvariant
    (cfg : Config n)
    (log : List (Fin n × Counter))
    (s : State n m) : Prop where
  facts : MainFacts cfg s
  counted : Counted log s
  locks : LockFacts s
  cameras : ∀ camera, CameraFacts cfg.opts (s.cameras camera)
  measuring_warm :
    ∀ id d, s.threads id = .measuring d →
      n ≤ s.control.warmedCameras
  recorded_warm :
    ∀ camera, (s.cameras camera).events.items ≠ [] →
      n ≤ s.control.warmedCameras

variable {log : List (Fin n × Counter)}
variable {cfg : Config n}
variable {s t : State n m}
variable {id : ThreadId n m}

/- Every camera has reached what is counted `n` times. -/
theorem Counted.all_reached
    {s : State n m}
    (hCounted : Counted log s)
    (counter : Counter)
    (hAll : n ≤ s.control.count counter)
    (camera : Fin n) :
    reached (s.cameras camera) counter = true := by
  have hLe :
      ∀ other, log.count (other, counter) ≤
        reachedCount (s.cameras other) counter := fun other =>
    Nat.le_trans (Nat.le_add_right _ _)
      (hCounted.le_reached other counter)
  have hOne :
      ∀ other,
        reachedCount (s.cameras other) counter ≤ 1 := by
    intro other
    unfold reachedCount
    split <;> omega
  rw [hCounted.total counter] at hAll
  have hCount :=
    eq_one_of_card_le_total
      (fun other => Nat.le_trans (hLe other) (hOne other))
      hAll camera
  have hReached := hLe camera
  rw [hCount] at hReached
  unfold reachedCount at hReached
  by_contra hNot
  simp [hNot] at hReached

theorem thread_cameraFacts
    (hEffect : ThreadEffect cfg s id t)
    (hLocks : LockFacts s)
    (hCameras :
      ∀ camera, CameraFacts cfg.opts (s.cameras camera))
    (camera : Fin n) :
    CameraFacts cfg.opts (t.cameras camera) := by
  have hChange := hEffect.camera_change camera
  generalize t.cameras camera = after at hChange ⊢
  cases hChange with
  | same => exact hCameras camera
  | timeout wasEnabled =>
      exact (hCameras camera).of_same
        (countTimeout_sameWarmup _ _)
        (countTimeout_sameMeasurement _ _)
  | warm d _ _ _ hCold =>
      exact (hCameras camera).of_warmup
        (recordWarmupDelivery_spec _ _ _ _) hCold
  | record d hFrom hCamera =>
      have hOpen := hLocks.incomplete id d hFrom
      rw [hCamera] at hOpen
      exact (hCameras camera).of_measured
        (recordMeasuredDelivery_spec _ _ _ _ _ _) hOpen

/- New records come from a measuring thread only. -/
theorem thread_recorded
    (hEffect : ThreadEffect cfg s id t)
    (camera : Fin n) :
    (t.cameras camera).events = (s.cameras camera).events ∨
      ∃ d, s.threads id = .measuring d := by
  have hChange := hEffect.camera_change camera
  generalize t.cameras camera = after at hChange ⊢
  cases hChange with
  | same => exact Or.inl rfl
  | timeout wasEnabled =>
      exact Or.inl
        (countTimeout_sameMeasurement _ _).events_eq
  | warm d =>
      exact Or.inl
        (recordWarmupDelivery_spec _ _ _ _).same.events_eq
  | record d hFrom => exact Or.inr ⟨d, hFrom⟩

/- A thread starts to measure only while it is enabled. -/
theorem thread_measuring
    (hEffect : ThreadEffect cfg s id t)
    {other : ThreadId n m}
    {d : Delivery n}
    (hThread : t.threads other = .measuring d) :
    s.threads other = .measuring d ∨
      s.control.measurementEnabled = true := by
  rw [hEffect.threads_eq] at hThread
  by_cases hOther : other = id
  · subst hOther
    rw [Function.update_self] at hThread
    cases hEffect with
    | lock e _ _ _ _ hEnabled => exact Or.inr hEnabled
    | quiet phase _ hTo =>
        simp only [setThread_threads,
          Function.update_self] at hThread
        exact absurd hThread (measuring_ne_of_free hTo d)
    | timeout camera wasEnabled phase _ hTo =>
        simp only [setThread_threads,
          Function.update_self] at hThread
        exact absurd hThread (measuring_ne_of_free hTo d)
    | _ => simp at hThread
  · rw [Function.update_of_ne hOther] at hThread
    exact Or.inl hThread

theorem thread_barrierInvariant
    (hInv : BarrierInvariant cfg log s)
    (hEffect : ThreadEffect cfg s id t)
    (action : ThreadAction n) :
    BarrierInvariant cfg
      (log ++ increments s (.thread id action)) t := by
  have hFrame := hEffect.frame
  have hWarm : s.control.warmedCameras ≤
      t.control.warmedCameras :=
    hFrame.grows.count_le .warmed
  refine
    { facts := hFrame.facts hInv.facts
      counted :=
        hInv.counted.of_thread hEffect
          (hInv.locks.incomplete id) action
      locks := hEffect.locks hInv.locks
      cameras :=
        thread_cameraFacts hEffect hInv.locks hInv.cameras
      measuring_warm := ?_
      recorded_warm := ?_ }
  · intro other d hThread
    rcases thread_measuring hEffect hThread with
      hOld | hEnabled
    · exact Nat.le_trans (hInv.measuring_warm other d hOld)
        hWarm
    · have hPosition := hInv.facts.enabled_position hEnabled
      exact Nat.le_trans
        (hInv.facts.warmed_measured (by omega) (by omega))
        hWarm
  · intro camera hEvents
    rcases thread_recorded hEffect camera with
      hSame | ⟨d, hMeasuring⟩
    · rw [hSame] at hEvents
      exact Nat.le_trans (hInv.recorded_warm camera hEvents)
        hWarm
    · exact Nat.le_trans (hInv.measuring_warm id d hMeasuring)
        hWarm

theorem main_barrierInvariant
    {input : MainInput}
    (hInv : BarrierInvariant cfg log s)
    (hStep : mainStep cfg s input = some t) :
    BarrierInvariant cfg log t := by
  have hFrame := mainStep_frame hInv.facts hStep
  have hWarm : t.control.warmedCameras =
      s.control.warmedCameras :=
    hFrame.count_eq .warmed
  refine
    { facts := mainStep_facts hInv.facts hStep
      counted := hInv.counted.of_main hFrame
      locks := hInv.locks.of_main hFrame
      cameras := ?_
      measuring_warm := ?_
      recorded_warm := ?_ }
  · rw [hFrame.cameras_eq]
    exact hInv.cameras
  · intro id d hThread
    rw [hWarm]
    exact hInv.measuring_warm id d (hFrame.measuring hThread)
  · rw [hFrame.cameras_eq, hWarm]
    exact hInv.recorded_warm

theorem step_barrierInvariant
    {action : Action n m}
    (hInv : BarrierInvariant cfg log s)
    (hStep : step cfg s action = some t) :
    BarrierInvariant cfg (log ++ increments s action) t := by
  cases action with
  | tick now =>
      have hFacts := step_facts hInv.facts hStep
      simp only [step] at hStep
      split at hStep
      · cases hStep
        simp only [increments, List.append_nil]
        exact
          { facts := hFacts
            counted :=
              ⟨hInv.counted.le_reached, hInv.counted.total⟩
            locks :=
              ⟨hInv.locks.locked, hInv.locks.incomplete,
                hInv.locks.alone⟩
            cameras := hInv.cameras
            measuring_warm := hInv.measuring_warm
            recorded_warm := hInv.recorded_warm }
      · cases hStep
  | thread id action =>
      exact thread_barrierInvariant hInv
        (threadStep_effect hStep) action
  | main input =>
      simp only [increments, List.append_nil]
      exact main_barrierInvariant hInv hStep

end

------------------------------------------------------------
-- Runs
------------------------------------------------------------

open Steady

variable {n m : Nat}

theorem start_barrierInvariant
    (cfg : Config n) :
    BarrierInvariant cfg [] (start cfg m) := by
  have hAccepted := parseArgs_accepted cfg.parsed
  rcases (prepareCameraMetrics_prepared cfg.opts.streamMode
      cfg.plan).fresh with ⟨streams, warmupStreams, hFresh⟩
  have hCamera :
      ∀ camera, (start cfg m).cameras camera =
        prepareCameraMetrics {} cfg.opts.streamMode
          cfg.plan := fun _ => rfl
  have hMeasuring :
      ∀ id d, (start cfg m).threads id ≠ .measuring d :=
    fun id =>
      measuring_ne_of_free (start_threads_free cfg id)
  refine
    { facts := start_facts cfg
      counted := ⟨?_, ?_⟩
      locks := ⟨?_, ?_, ?_⟩
      cameras := ?_
      measuring_warm := fun id d hThread =>
        absurd hThread (hMeasuring id d)
      recorded_warm := fun camera hEvents =>
        absurd (start_events cfg camera) hEvents }
  · intro camera counter
    simp [pendingAdds_of_free (start_threads_free cfg _)]
  · intro counter
    cases counter <;> simp [start, Control.count]
  · intro id d hThread
    exact absurd hThread (hMeasuring id d)
  · intro id d hThread
    exact absurd hThread (hMeasuring id d)
  · intro id d hThread
    exact absurd hThread (hMeasuring id d)
  · intro camera
    have hFrames := hAccepted.frames_pos
    have hThreshold : 0 < schedulerApplyThreshold cfg.opts := by
      have hFps := hAccepted.fps_pos
      unfold schedulerApplyThreshold
      split <;> omega
    rw [hCamera, hFresh]
    exact
      { ready := fun _ hReached => by
          simp only at hReached
          omega
        healthy := by simp
        complete := by simp
        incomplete := fun _ _ => by
          simp only
          omega }

/-
  A camera is ready for the scheduler before the delivery
  that ends its warm-up.
-/
theorem ready_before_warm
    {cfg : Config n}
    {s t : State n m}
    {action : Action n m}
    (hFacts : MainFacts cfg s)
    (hCameras :
      ∀ camera, CameraFacts cfg.opts (s.cameras camera))
    (hModeled : modeledSchedulerRequested cfg.opts = true)
    (hStep : step cfg s action = some t)
    {camera : Fin n}
    (hCold : (s.cameras camera).warmed = false)
    (hWarm : (t.cameras camera).warmed = true) :
    (s.cameras camera).schedulerReady = true := by
  cases action with
  | tick now =>
      simp only [step] at hStep
      split at hStep
      · cases hStep
        rw [hCold] at hWarm
        cases hWarm
      · cases hStep
  | main input =>
      rw [(mainStep_frame hFacts hStep).cameras_eq,
        hCold] at hWarm
      cases hWarm
  | thread id action =>
      have hChange :=
        (threadStep_effect hStep).camera_change camera
      generalize t.cameras camera = after at hChange hWarm
      cases hChange with
      | same =>
          rw [hCold] at hWarm
          cases hWarm
      | timeout wasEnabled =>
          rw [(countTimeout_sameWarmup _ _).warmed_eq,
            hCold] at hWarm
          cases hWarm
      | warm d =>
          have hSpec :=
            recordWarmupDelivery_spec cfg.opts
              (s.cameras camera) d.payload d.hostNs
          rw [hSpec.warmed_eq, hCold,
            Bool.false_or] at hWarm
          have hCount := hSpec.warm_count hWarm
          have hThreshold :=
            (parseArgs_accepted cfg.parsed).threshold_lt
              hModeled
          rw [hSpec.deliveries_eq] at hCount
          exact (hCameras camera).ready hModeled (by omega)
      | record d =>
          rw [(recordMeasuredDelivery_spec _ _ _ _ _
            _).same.warmed_eq, hCold] at hWarm
          cases hWarm

/-
  In every run: each camera adds at most one to each counter,
  and the counters are these increments; a camera is ready
  for the scheduler before the delivery that warms it; the
  measurement is enabled only when every camera is warm and
  healthy; no event is recorded before every camera is warm;
  and a run in delivery-count mode that ends without failure
  has measured exactly the requested deliveries.
-/
theorem run_barriers
    (cfg : Config n)
    (actions : List (Action n m))
    (s : State n m)
    (hRun :
      (probe cfg m).run (start cfg m) actions = some s) :
    (∀ camera counter,
      ((probe cfg m).observe increments (start cfg m)
        actions).count (camera, counter) ≤ 1) ∧
    (∀ counter,
      s.control.count counter =
        ∑ camera,
          ((probe cfg m).observe increments (start cfg m)
            actions).count (camera, counter)) ∧
    (modeledSchedulerRequested cfg.opts = true →
      ∀ action t camera, step cfg s action = some t →
        (s.cameras camera).warmed = false →
        (t.cameras camera).warmed = true →
          (s.cameras camera).schedulerReady = true) ∧
    (s.control.measurementEnabled = true →
      ∀ camera, (s.cameras camera).warmed = true ∧
        finalHealthError cfg.opts (s.cameras camera) =
          none) ∧
    ((∃ camera, (s.cameras camera).events.items ≠ []) →
      ∀ camera, (s.cameras camera).warmed = true) ∧
    (s.main = .done → s.mainOps = [] →
      fixedDurationMeasurement cfg.opts = false →
      s.control.failed = false →
        ∀ camera,
          ((s.cameras camera).deliveries : Int) =
            cfg.opts.frames) := by
  have hInv :
      BarrierInvariant cfg
        ([] ++ (probe cfg m).observe increments
          (start cfg m) actions) s :=
    (probe cfg m).run_observe_invariant
      (fun _ _ _ _ hBefore hStep =>
        step_barrierInvariant hBefore hStep)
      (start_barrierInvariant cfg) hRun
  rw [List.nil_append] at hInv
  have hAllWarm :
      n ≤ s.control.warmedCameras →
        ∀ camera, (s.cameras camera).warmed = true :=
    fun hAll camera =>
      hInv.counted.all_reached .warmed hAll camera
  refine ⟨?_, hInv.counted.total, ?_, ?_, ?_, ?_⟩
  · intro camera counter
    have hLe := hInv.counted.le_reached camera counter
    unfold reachedCount at hLe
    split at hLe <;> omega
  · intro hModeled action t camera hStep hCold hWarm
    exact ready_before_warm hInv.facts hInv.cameras hModeled
      hStep hCold hWarm
  · intro hEnabled camera
    have hPosition := hInv.facts.enabled_position hEnabled
    have hWarm :=
      hAllWarm
        (hInv.facts.warmed_measured (by omega) (by omega))
        camera
    exact ⟨hWarm, (hInv.cameras camera).healthy hWarm⟩
  · rintro ⟨camera, hEvents⟩
    exact hAllWarm (hInv.recorded_warm camera hEvents)
  · intro hDone hOps hMode hFailed camera
    have hComplete :=
      hInv.facts.completed_or_failing (by simp [hDone]) hMode
    rcases hComplete with hFailing | hAll
    · rw [failing_iff_of_no_ops hOps, hFailed] at hFailing
      cases hFailing
    · have hReached :=
        hInv.counted.all_reached .completed hAll camera
      have hCount :=
        (hInv.cameras camera).complete hMode hReached
      have hFrames :=
        (parseArgs_accepted cfg.parsed).frames_pos
      omega

/- The run of one camera ends with its one delivery. -/
theorem settledRun_barriers :
    ∃ s,
      (probe depthConfig 0).run (start depthConfig 0)
          settledRun = some s ∧
      s.main = .done ∧ s.control.failed = false ∧
      s.control.warmedCameras = 1 ∧
      ((s.cameras 0).deliveries : Int) = 1 := by
  have hEnd :
      ((probe depthConfig 0).run (start depthConfig 0)
        settledRun).map (fun s =>
          (decide (s.main = .done), s.mainOps,
            s.control.failed, s.control.warmedCameras)) =
        some (true, [], false, 1) := by
    decide +kernel
  rcases Option.map_eq_some_iff.mp hEnd with
    ⟨s, hRun, hFinal⟩
  simp only [Prod.mk.injEq, decide_eq_true_eq] at hFinal
  rcases hFinal with ⟨hDone, hOps, hFailed, hWarm⟩
  have hBarriers := run_barriers depthConfig settledRun s hRun
  have hFrames :=
    hBarriers.2.2.2.2.2 hDone hOps rfl hFailed 0
  exact ⟨s, hRun, hDone, hFailed, hWarm, hFrames⟩

end Probe

end RsCamera
