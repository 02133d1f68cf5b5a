import RsCamera.Lib.Gaps
import RsCamera.MemoryNoise.Workers

/-
  The slots that the rate limiter grants.

  Whoever holds the mutex waits for the next slot, and no one
  else changes it.  It is never less than an interval behind
  a slot that was granted, so that no delay of a worker is
  made up for later.

  Key definitions include:
    * `Place.Holds`, `Place.slot?`
    * `Held`, `Granted`

  Key theorems include:
    * `step_held`
    * `run_granted`
    * `limiter_grants`
-/

------------------------------------------------------------
-- The Mutex
------------------------------------------------------------

namespace RsCamera

namespace MemoryNoise

/- The places at which the mutex is held. -/
def Place.Holds : Place → Prop
| .locked => True
| .slotLoop _ => True
| .passed _ => True
| .sleeping _ _ => True
| .returning _ => True
| _ => False

/- The slot that is waited for. -/
def Place.slot? : Place → Option Int
| .slotLoop slot => some slot
| .passed slot => some slot
| .sleeping slot _ => some slot
| _ => none

theorem Place.holds_of_slot?
    {place : Place}
    {slot : Int}
    (hSlot : place.slot? = some slot) :
    place.Holds := by
  cases place
  all_goals trivial

/-
  A place at which the mutex is held is one of its owner, and
  the slot that is waited for there is the next one.
-/
structure Held
    {W : Type}
    (noise : Noise)
    (s : State W) : Prop where
  owner :
    ∀ w, (s.workers w).place.Holds → s.shared.owner = some w
  slot :
    ∀ w slot, (s.workers w).place.slot? = some slot →
      slot = s.shared.nextSlot ∧ s.shared.initialized = true
  enabled :
    ∀ w, (s.workers w).place.Holds →
      noise.limiter.enabled = true

section

variable {W : Type}
variable {noise : Noise}
variable {s t : State W}

theorem held_start
    (noise : Noise)
    (clock : Int) :
    Held noise (start W clock) where
  owner := fun _ hHolds => nomatch hHolds
  slot := fun _ _ hSlot => nomatch hSlot
  enabled := fun _ hHolds => nomatch hHolds

/- A step that leaves the mutex and the next slot alone. -/
theorem Held.of_shared
    (hHeld : Held noise s)
    (hOwner : t.shared.owner = s.shared.owner)
    (hSlot : t.shared.nextSlot = s.shared.nextSlot)
    (hInitialized :
      t.shared.initialized = s.shared.initialized)
    (hHolds :
      ∀ w, (t.workers w).place.Holds →
        (s.workers w).place.Holds)
    (hSlots :
      ∀ w slot, (t.workers w).place.slot? = some slot →
        slot = s.shared.nextSlot ∧
          s.shared.initialized = true) :
    Held noise t where
  owner := fun w hHere => by
    rw [hOwner]
    exact hHeld.owner w (hHolds w hHere)
  slot := fun w slot hHere => by
    rw [hSlot, hInitialized]
    exact hSlots w slot hHere
  enabled := fun w hHere => hHeld.enabled w (hHolds w hHere)

/- What a worker copies and counts needs no mutex. -/
theorem copied_place
    (noise : Noise)
    (measurementStarted : Bool)
    (worker : Worker) :
    (worker.copied noise measurementStarted).place =
      .counting := by
  unfold Worker.copied
  simp only
  split
  · rfl
  · rfl

section Owner

variable {W : Type}
variable {noise : Noise}
variable {s : State W}
variable {w : W}

/- The owner of the mutex is the only one who holds it. -/
theorem Held.unique
    (hHeld : Held noise s)
    {v : W}
    (hHere : (s.workers w).place.Holds)
    (hThere : (s.workers v).place.Holds) :
    v = w := by
  have hBoth := hHeld.owner v hThere
  rw [hHeld.owner w hHere] at hBoth
  exact (Option.some.inj hBoth).symm

theorem Held.alone
    (hHeld : Held noise s)
    (hHere : (s.workers w).place.Holds) :
    ∀ v, v ≠ w → ¬(s.workers v).place.Holds :=
  fun _ hNot hThere => hNot (hHeld.unique hHere hThere)

end Owner

section Update

variable {W : Type}
variable [DecidableEq W]
variable {noise : Noise}
variable {s : State W}
variable {w : W}

/- One worker has a new place; nothing else has changed. -/
theorem Held.replaced
    (hHeld : Held noise s)
    {worker : Worker}
    (hHolds :
      worker.place.Holds → (s.workers w).place.Holds)
    (hSlots :
      ∀ slot, worker.place.slot? = some slot →
        slot = s.shared.nextSlot ∧
          s.shared.initialized = true) :
    Held noise
      { s with workers := Function.update s.workers w worker } := by
  refine @Held.of_shared _ _ s
    { s with workers := Function.update s.workers w worker }
    hHeld rfl rfl rfl ?_ ?_
  · intro v hHere
    by_cases hIs : v = w
    · subst hIs
      simp only [Function.update_self] at hHere
      exact hHolds hHere
    · simpa only [Function.update_of_ne hIs] using hHere
  · intro v slot hHere
    by_cases hIs : v = w
    · subst hIs
      simp only [Function.update_self] at hHere
      exact hSlots slot hHere
    · simp only [Function.update_of_ne hIs] at hHere
      exact hHeld.slot v slot hHere

/- What the owner does to the next slot, or to the mutex. -/
theorem held_owned
    {shared : Shared W}
    {worker : Worker}
    (hAlone :
      ∀ v, v ≠ w → ¬(s.workers v).place.Holds)
    (hOwner : worker.place.Holds → shared.owner = some w)
    (hEnabled :
      worker.place.Holds → noise.limiter.enabled = true)
    (hSlots :
      ∀ slot, worker.place.slot? = some slot →
        slot = shared.nextSlot ∧ shared.initialized = true) :
    Held noise
      { shared := shared
        workers := Function.update s.workers w worker } where
  owner := fun v hHere => by
    by_cases hIs : v = w
    · subst hIs
      simp only [Function.update_self] at hHere
      exact hOwner hHere
    · simp only [Function.update_of_ne hIs] at hHere
      exact absurd hHere (hAlone v hIs)
  slot := fun v slot hHere => by
    by_cases hIs : v = w
    · subst hIs
      simp only [Function.update_self] at hHere
      exact hSlots slot hHere
    · simp only [Function.update_of_ne hIs] at hHere
      exact absurd (Place.holds_of_slot? hHere) (hAlone v hIs)
  enabled := fun v hHere => by
    by_cases hIs : v = w
    · subst hIs
      simp only [Function.update_self] at hHere
      exact hEnabled hHere
    · simp only [Function.update_of_ne hIs] at hHere
      exact absurd hHere (hAlone v hIs)

theorem work_held
    (hHeld : Held noise s)
    {shared : Shared W}
    {worker : Worker}
    {grants : List (Grant W)}
    (hMoves :
      Moves noise w s.shared (s.workers w) shared worker grants) :
    Held noise
      { shared := shared
        workers := Function.update s.workers w worker } := by
  have hPlace :
      ∀ {place : Place}, (s.workers w).place = place →
        place.Holds → (s.workers w).place.Holds := by
    intro place hFrom hHolds
    rwa [hFrom]
  cases hMoves with
  | checked hFrom hTo =>
      rcases hTo with hIs | hIs
      all_goals
        subst hIs
        exact hHeld.replaced (fun hNot => nomatch hNot)
          (fun _ hSlot => nomatch hSlot)
  | ungranted hFrom hDisabled hStop =>
      exact hHeld.replaced (fun hNot => nomatch hNot)
        (fun _ hSlot => nomatch hSlot)
  | unlimited hFrom hDisabled hStop =>
      exact hHeld.replaced (fun hNot => nomatch hNot)
        (fun _ hSlot => nomatch hSlot)
  | acquired hFrom hEnabled hFree =>
      apply held_owned
      · intro v _ hThere
        have hOther := hHeld.owner v hThere
        rw [hFree] at hOther
        cases hOther
      · exact fun _ => rfl
      · exact fun _ => hEnabled
      · exact fun _ hSlot => nomatch hSlot
  | present hFrom hBehind =>
      have hHere := hPlace hFrom trivial
      apply held_owned (hHeld.alone hHere)
      · exact fun _ => hHeld.owner w hHere
      · exact fun _ => hHeld.enabled w hHere
      · intro slot hSlot
        cases hSlot
        exact ⟨rfl, rfl⟩
  | future hFrom hInitialized =>
      apply hHeld.replaced (fun _ => hPlace hFrom trivial)
      intro slot hSlot
      cases hSlot
      exact ⟨rfl, hInitialized⟩
  | stopped hFrom hStop =>
      exact hHeld.replaced (fun _ => hPlace hFrom trivial)
        (fun _ hSlot => nomatch hSlot)
  | passed hFrom hStop =>
      apply hHeld.replaced (fun _ => hPlace hFrom trivial)
      intro slot hSlot
      cases hSlot
      exact hHeld.slot w _ (by rw [hFrom]; rfl)
  | granted hFrom hSlot =>
      have hHere := hPlace hFrom trivial
      apply held_owned (hHeld.alone hHere)
      · exact fun _ => hHeld.owner w hHere
      · exact fun _ => hHeld.enabled w hHere
      · exact fun _ hSlot => nomatch hSlot
  | slept hFrom hSlot =>
      apply hHeld.replaced (fun _ => hPlace hFrom trivial)
      intro slot hSlot
      cases hSlot
      exact hHeld.slot w _ (by rw [hFrom]; rfl)
  | woke hFrom =>
      apply hHeld.replaced (fun _ => hPlace hFrom trivial)
      intro slot hSlot
      cases hSlot
      exact hHeld.slot w _ (by rw [hFrom]; rfl)
  | released hFrom hTo =>
      have hHere := hPlace hFrom trivial
      have hNot : ∀ {place : Place},
          place = .copying ∨ place = .finished → ¬place.Holds := by
        intro place hIs hHolds
        rcases hIs with hIs | hIs
        · subst hIs
          exact hHolds
        · subst hIs
          exact hHolds
      apply held_owned (hHeld.alone hHere)
      · exact fun hHolds => absurd hHolds (hNot hTo)
      · exact fun hHolds => absurd hHolds (hNot hTo)
      · exact fun _ hSlot =>
          absurd (Place.holds_of_slot? hSlot) (hNot hTo)
  | copied hFrom =>
      have hIs :=
        copied_place noise s.shared.measurementStarted (s.workers w)
      apply hHeld.replaced
      · rw [hIs]
        exact fun hNot => nomatch hNot
      · rw [hIs]
        exact fun _ hSlot => nomatch hSlot
  | counted hFrom =>
      exact hHeld.replaced (fun hNot => nomatch hNot)
        (fun _ hSlot => nomatch hSlot)

end Update

theorem step_work
    [DecidableEq W]
    {w : W}
    (hStep : step noise s (.work w) = some t) :
    ∃ shared worker,
      t =
          { shared := shared
            workers := Function.update s.workers w worker } ∧
        Moves noise w s.shared (s.workers w) shared worker
          (grantOf noise s (.work w)) := by
  simp only [step] at hStep
  split at hStep
  · cases hStep
  next shared worker hAdvance =>
    cases hStep
    exact ⟨shared, worker, rfl, advance_moves hAdvance⟩

theorem step_held
    [DecidableEq W]
    {action : Action W}
    (hHeld : Held noise s)
    (hStep : step noise s action = some t) :
    Held noise t := by
  cases action with
  | tick elapsed =>
      cases hStep
      exact hHeld.of_shared rfl rfl rfl (fun _ => id) hHeld.slot
  | requestStop =>
      cases hStep
      exact hHeld.of_shared rfl rfl rfl (fun _ => id) hHeld.slot
  | startMeasurement =>
      cases hStep
      exact hHeld.of_shared rfl rfl rfl (fun _ => id) hHeld.slot
  | work w =>
      rcases step_work hStep with ⟨shared, worker, hIs, hMoves⟩
      rw [hIs]
      exact work_held hHeld hMoves

end

------------------------------------------------------------
-- Granted Slots
------------------------------------------------------------

/- The slots that were granted so far, and the next one. -/
structure Granted
    {W : Type}
    (noise : Noise)
    (grants : List (Grant W))
    (s : State W) : Prop where
  held : Held noise s
  past : ∀ grant ∈ grants, grant.time ≤ s.shared.clock
  next :
    noise.limiter.enabled = true →
      ∀ grant ∈ grants,
        s.shared.initialized = true ∧
          grant.time + (noise.limiter.intervalNs : Int) ≤
            s.shared.nextSlot
  spaced :
    Spaced noise.limiter.intervalNs
      (grants.map (fun grant => grant.time))

theorem granted_start
    {W : Type}
    (noise : Noise)
    (clock : Int) :
    Granted noise [] (start W clock) where
  held := held_start noise clock
  past := by simp
  next := by simp
  spaced := List.Pairwise.nil

section Granted

variable {W : Type}
variable {noise : Noise}
variable {grants : List (Grant W)}
variable {s t : State W}

/- No slot is granted, and the next one is not put forward. -/
theorem Granted.kept
    (hGranted : Granted noise grants s)
    (hHeld : Held noise t)
    (hClock : s.shared.clock ≤ t.shared.clock)
    (hInitialized :
      s.shared.initialized = true → t.shared.initialized = true)
    (hNext :
      s.shared.initialized = true →
        s.shared.nextSlot ≤ t.shared.nextSlot) :
    Granted noise (grants ++ []) t where
  held := hHeld
  past := by
    rw [List.append_nil]
    intro grant hIn
    exact Int.le_trans (hGranted.past grant hIn) hClock
  next := by
    rw [List.append_nil]
    intro hEnabled grant hIn
    have hBefore := hGranted.next hEnabled grant hIn
    exact ⟨hInitialized hBefore.1,
      Int.le_trans hBefore.2 (hNext hBefore.1)⟩
  spaced := by
    rw [List.append_nil]
    exact hGranted.spaced

/- A slot is granted now, an interval behind all others. -/
theorem Granted.more
    (hGranted : Granted noise grants s)
    (hHeld : Held noise t)
    (hClock : t.shared.clock = s.shared.clock)
    (w : W)
    (hBehind :
      ∀ grant ∈ grants,
        grant.time + (noise.limiter.intervalNs : Int) ≤
          s.shared.clock)
    (hNext :
      noise.limiter.enabled = true →
        t.shared.initialized = true ∧
          t.shared.nextSlot =
            s.shared.clock + (noise.limiter.intervalNs : Int)) :
    Granted noise (grants ++ [⟨s.shared.clock, w⟩]) t where
  held := hHeld
  past := by
    rw [List.forall_mem_append, List.forall_mem_singleton, hClock]
    exact ⟨hGranted.past, Int.le_refl _⟩
  next := by
    intro hEnabled
    rcases hNext hEnabled with ⟨hInitialized, hIs⟩
    rw [List.forall_mem_append, List.forall_mem_singleton, hIs]
    refine ⟨?_, hInitialized, Int.le_refl _⟩
    intro grant hIn
    have hBefore := hBehind grant hIn
    exact ⟨hInitialized, by omega⟩
  spaced := by
    rw [List.map_append, List.map_singleton]
    apply hGranted.spaced.append_singleton
    intro time hTime
    rcases List.mem_map.mp hTime with ⟨grant, hIn, hIs⟩
    rw [← hIs]
    exact hBehind grant hIn

variable [DecidableEq W]

theorem work_granted
    {w : W}
    {shared : Shared W}
    {worker : Worker}
    {more : List (Grant W)}
    (hGranted : Granted noise grants s)
    (hMoves :
      Moves noise w s.shared (s.workers w) shared worker more) :
    Granted noise (grants ++ more)
      { shared := shared
        workers := Function.update s.workers w worker } := by
  have hHeld := work_held hGranted.held hMoves
  cases hMoves with
  | unlimited hFrom hDisabled hStop =>
      have hInterval :=
        noise.limiter.interval_eq_zero hDisabled
      apply hGranted.more hHeld rfl
      · intro grant hIn
        have hPast := hGranted.past grant hIn
        omega
      · intro hEnabled
        rw [hDisabled] at hEnabled
        cases hEnabled
  | granted hFrom hSlot =>
      -- The slot that was waited for is the next one.
      have hHere :=
        hGranted.held.slot w _ (by rw [hFrom]; rfl)
      have hEnabled :=
        hGranted.held.enabled w (by rw [hFrom]; trivial)
      apply hGranted.more hHeld rfl
      · intro grant hIn
        have hNext := (hGranted.next hEnabled grant hIn).2
        omega
      · exact fun _ => ⟨hHere.2, rfl⟩
  | present hFrom hBehind =>
      apply hGranted.kept hHeld (Int.le_refl _) (fun _ => rfl)
      intro hInitialized
      rcases hBehind with hNot | hLess
      · rw [hInitialized] at hNot
        cases hNot
      · exact Int.le_of_lt hLess
  | _ =>
      exact hGranted.kept hHeld (Int.le_refl _) id
        (fun _ => Int.le_refl _)

theorem step_granted
    {action : Action W}
    (hGranted : Granted noise grants s)
    (hStep : step noise s action = some t) :
    Granted noise (grants ++ grantOf noise s action) t := by
  have hHeld := step_held hGranted.held hStep
  cases action with
  | tick elapsed =>
      cases hStep
      apply hGranted.kept hHeld _ id (fun _ => Int.le_refl _)
      change s.shared.clock ≤ s.shared.clock + (elapsed : Int)
      omega
  | requestStop =>
      cases hStep
      exact hGranted.kept hHeld (Int.le_refl _) id
        (fun _ => Int.le_refl _)
  | startMeasurement =>
      cases hStep
      exact hGranted.kept hHeld (Int.le_refl _) id
        (fun _ => Int.le_refl _)
  | work w =>
      rcases step_work hStep with ⟨shared, worker, hIs, hMoves⟩
      rw [hIs]
      exact work_granted hGranted hMoves

/- The induction is on the run, with the slots granted in it. -/
theorem run_granted
    {actions : List (Action W)}
    (hGranted : Granted noise grants s)
    (hRun : (system W noise).run s actions = some t) :
    Granted noise
      (grants ++
        (system W noise).observe (grantOf noise) s actions) t :=
  (system W noise).run_observe_invariant
    (fun _ _ _ _ hBefore hStep => step_granted hBefore hStep)
    hGranted hRun

end Granted

------------------------------------------------------------
-- After A Stop
------------------------------------------------------------

/-
  What is granted after a stop was requested in a state: one
  slot at most, to a worker that is behind its check there.
-/
structure Stopped
    {W : Type}
    (noise : Noise)
    (s : State W)
    (later : List (Grant W))
    (t : State W) : Prop where
  held : Held noise t
  stop : t.shared.stopRequested = true
  passed :
    ∀ w slot, (t.workers w).place = .passed slot →
      (s.workers w).place = .passed slot
  granted :
    later = [] ∨
      ∃ grant slot, later = [grant] ∧
        (s.workers grant.worker).place = .passed slot ∧
        ∀ w slot, (t.workers w).place ≠ .passed slot

section Stopped

variable {W : Type}
variable {noise : Noise}
variable {s t u : State W}
variable {later : List (Grant W)}

/- No slot is granted, and no worker passes its check. -/
theorem Stopped.kept
    (hStopped : Stopped noise s later t)
    (hHeld : Held noise u)
    (hStop : u.shared.stopRequested = true)
    (hPassed :
      ∀ w slot, (u.workers w).place = .passed slot →
        (t.workers w).place = .passed slot) :
    Stopped noise s (later ++ []) u where
  held := hHeld
  stop := hStop
  passed := fun w slot hHere =>
    hStopped.passed w slot (hPassed w slot hHere)
  granted := by
    rw [List.append_nil]
    rcases hStopped.granted with hNil | hOne
    · exact Or.inl hNil
    · rcases hOne with ⟨grant, slot, hIs, hFrom, hNone⟩
      exact Or.inr
        ⟨grant, slot, hIs, hFrom, fun w slot hHere =>
          hNone w slot (hPassed w slot hHere)⟩

variable [DecidableEq W]

/- A worker that is not behind its check has a new place. -/
theorem passed_of_update
    {w : W}
    {worker : Worker}
    (hWorker : ∀ slot, worker.place ≠ .passed slot) :
    ∀ v slot,
      (Function.update t.workers w worker v).place =
          .passed slot →
        v ≠ w ∧ (t.workers v).place = .passed slot := by
  intro v slot hHere
  by_cases hIs : v = w
  · subst hIs
    rw [Function.update_self] at hHere
    exact absurd hHere (hWorker slot)
  · rw [Function.update_of_ne hIs] at hHere
    exact ⟨hIs, hHere⟩

theorem work_stopped
    {w : W}
    {shared : Shared W}
    {worker : Worker}
    {more : List (Grant W)}
    (hStopped : Stopped noise s later t)
    (hMoves :
      Moves noise w t.shared (t.workers w) shared worker more) :
    Stopped noise s (later ++ more)
      { shared := shared
        workers := Function.update t.workers w worker } := by
  have hHeld := work_held hStopped.held hMoves
  have hStop := hStopped.stop
  have hKept :
      (∀ slot, worker.place ≠ .passed slot) →
        shared.stopRequested = true → more = [] →
          Stopped noise s (later ++ more)
            { shared := shared
              workers :=
                Function.update t.workers w worker } := by
    intro hNot hStill hNone
    rw [hNone]
    exact hStopped.kept hHeld hStill (fun v slot hHere =>
      (passed_of_update hNot v slot hHere).2)
  cases hMoves with
  | unlimited hFrom hDisabled hRunning =>
      rw [hStop] at hRunning
      cases hRunning
  | passed hFrom hRunning =>
      rw [hStop] at hRunning
      cases hRunning
  | @granted slot hFrom hSlot =>
      have hNone :
          ∀ v other, (t.workers v).place = .passed other →
            v = w := by
        intro v other hThere
        exact hStopped.held.unique (by rw [hFrom]; trivial)
          (by rw [hThere]; trivial)
      refine ⟨hHeld, hStop, ?_, Or.inr ?_⟩
      · intro v other hHere
        have hOld :=
          passed_of_update (by simp) v other hHere
        exact hStopped.passed v other hOld.2
      · refine ⟨⟨t.shared.clock, w⟩, slot, ?_,
          hStopped.passed w slot hFrom, ?_⟩
        · rcases hStopped.granted with hNil | hOne
          · rw [hNil]
            rfl
          · rcases hOne with ⟨_, _, -, -, hNot⟩
            exact absurd hFrom (hNot w slot)
        · intro v other hHere
          have hOld :=
            passed_of_update (by simp) v other hHere
          exact hOld.1 (hNone v other hOld.2)
  | checked hFrom hTo =>
      apply hKept _ hStop rfl
      rcases hTo with hIs | hIs
      all_goals
        subst hIs
        simp
  | released hFrom hTo =>
      apply hKept _ hStop rfl
      rcases hTo with hIs | hIs
      all_goals
        subst hIs
        simp
  | copied hFrom =>
      apply hKept _ hStop rfl
      rw [copied_place]
      simp
  | _ => exact hKept (by simp [Worker.counted]) hStop rfl

theorem step_stopped
    {action : Action W}
    (hStopped : Stopped noise s later t)
    (hStep : step noise t action = some u) :
    Stopped noise s (later ++ grantOf noise t action) u := by
  have hHeld := step_held hStopped.held hStep
  cases action with
  | tick elapsed =>
      cases hStep
      exact hStopped.kept hHeld hStopped.stop (fun _ _ => id)
  | requestStop =>
      cases hStep
      exact hStopped.kept hHeld rfl (fun _ _ => id)
  | startMeasurement =>
      cases hStep
      exact hStopped.kept hHeld hStopped.stop (fun _ _ => id)
  | work w =>
      rcases step_work hStep with ⟨shared, worker, hIs, hMoves⟩
      rw [hIs]
      exact work_stopped hStopped hMoves

theorem run_stopped
    {actions : List (Action W)}
    (hHeld : Held noise s)
    (hStop : s.shared.stopRequested = true)
    (hRun : (system W noise).run s actions = some t) :
    Stopped noise s
      ((system W noise).observe (grantOf noise) s actions) t := by
  have hStart : Stopped noise s [] s :=
    ⟨hHeld, hStop, fun _ _ => id, Or.inl rfl⟩
  exact (system W noise).run_observe_invariant
    (fun _ _ _ _ hBefore hStep => step_stopped hBefore hStep)
    hStart hRun

end Stopped

/-
  In every run, slots are granted an interval apart; so a
  window holds no more of them than intervals that fit, and
  one.  When a stop was requested, at most one more is
  granted, to the worker that is behind its check.
-/
theorem limiter_grants
    {W : Type}
    [DecidableEq W]
    {noise : Noise}
    {clock : Int}
    {actions : List (Action W)}
    {s : State W}
    (hRun :
      (system W noise).run (start W clock) actions = some s) :
    let grants :=
      (system W noise).observe (grantOf noise) (start W clock)
        actions
    Spaced noise.limiter.intervalNs
        (grants.map (fun grant => grant.time)) ∧
      (noise.limiter.enabled = true →
        ∀ (opening : Int) (window : Nat),
          (grants.filter (fun grant =>
              opening ≤ grant.time ∧
                grant.time ≤ opening + window)).length ≤
            window / noise.limiter.intervalNs + 1) ∧
      (s.shared.stopRequested = true →
        ∀ more t, (system W noise).run s more = some t →
          let later :=
            (system W noise).observe (grantOf noise) s more
          later.length ≤ 1 ∧
            ∀ grant ∈ later, ∃ slot,
              (s.workers grant.worker).place = .passed slot) := by
  intro grants
  have hGranted :=
    run_granted (granted_start noise clock) hRun
  rw [List.nil_append] at hGranted
  refine ⟨hGranted.spaced, ?_, ?_⟩
  · intro hEnabled opening window
    have hTimes :
        Spaced noise.limiter.intervalNs
          ((grants.filter (fun grant =>
            opening ≤ grant.time ∧
              grant.time ≤ opening + window)).map
            (fun grant => grant.time)) :=
      hGranted.spaced.sublist
        (List.filter_sublist.map (fun grant : Grant W => grant.time))
    have hCount :=
      @Spaced.length_le _ window
        (noise.limiter.interval_pos hEnabled) opening _ hTimes (by
          intro time hTime
          rcases List.mem_map.mp hTime with ⟨grant, hIn, hIs⟩
          rw [← hIs]
          exact of_decide_eq_true (List.mem_filter.mp hIn).2)
    rwa [List.length_map] at hCount
  · intro hStop more t hMore later
    have hStopped := run_stopped hGranted.held hStop hMore
    rcases hStopped.granted with hNil | hOne
    · change (later : List (Grant W)) = [] at hNil
      rw [hNil]
      simp
    · rcases hOne with ⟨grant, slot, hIs, hFrom, -⟩
      change (later : List (Grant W)) = [grant] at hIs
      rw [hIs, List.forall_mem_singleton]
      exact ⟨Nat.le_refl _, slot, hFrom⟩

/- Two workers, of which one is delayed and one waits. -/
def pacedNoise : Noise where
  bufferSizeBytes := 1048576
  copyChunkBytes := 524288
  limiter := AggregateRateLimiter.make (.finite 1) 5

def pacedActions : List (Action Bool) :=
  [.work true, .work true, .work true, .work true, .work true,
    .work true, .tick 3, .work false, .work false, .work false,
    .work false, .work false, .tick 2, .work false, .work false,
    .requestStop]

theorem limiter_grants_paced :
    ∃ s,
      (system Bool pacedNoise).run (start Bool 100) pacedActions =
          some s ∧
        s.shared.stopRequested = true ∧
        ((system Bool pacedNoise).observe (grantOf pacedNoise) s
            [.work false]) = [⟨105, false⟩] ∧
        ∀ more t, (system Bool pacedNoise).run s more = some t →
          ((system Bool pacedNoise).observe (grantOf pacedNoise) s
              more).length ≤ 1 :=
  ⟨_, rfl, rfl, rfl, fun more t hMore =>
    (((@limiter_grants Bool _ pacedNoise 100 pacedActions _ rfl).2.2
      rfl) more t hMore).1⟩

end MemoryNoise

end RsCamera
