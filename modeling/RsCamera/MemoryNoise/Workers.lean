import Mathlib.Logic.Function.Basic
import RsCamera.Lib.Transition
import RsCamera.MemoryNoise.Options

/-
  The copy workers and the rate limiter that they share
  (`copy_worker` and `AggregateRateLimiter`).

  A worker takes one step at a time, from one access to what
  is shared to the next.  Between two steps anything may
  happen: other workers take steps, the clock moves on, the
  measurement starts, or a stop is requested.  Times are
  those of the steady clock, in nanoseconds.

  Key definitions include:
    * `AggregateRateLimiter`
    * `Shared`, `Worker`, `advance`
    * `Action`, `system`
    * `Moves`
    * `grantOf`, `copiedOf`

  Key theorems include:
    * `advance_moves`
-/

------------------------------------------------------------
-- The Limiter
------------------------------------------------------------

namespace RsCamera

namespace MemoryNoise

/- Only a limiter that is enabled has an interval. -/
structure AggregateRateLimiter where
  enabled : Bool
  intervalNs : Nat
  interval_pos : enabled = true → 0 < intervalNs
  interval_eq_zero : enabled = false → intervalNs = 0

/-
  The duration is what `duration_cast` makes of the quotient
  of the quantum and the rate, in nanoseconds.
-/
def AggregateRateLimiter.make
    (targetMibPerSecond : Double)
    (duration : Int) : AggregateRateLimiter where
  enabled := targetMibPerSecond.gt 0
  intervalNs :=
    if targetMibPerSecond.gt 0 then
      if duration < 1 then 1 else duration.toNat
    else
      0
  interval_pos := by
    intro hEnabled
    rw [if_pos hEnabled]
    split
    · decide
    · omega
  interval_eq_zero := by
    intro hDisabled
    rw [hDisabled, if_neg (by decide)]

/- What all workers are started with. -/
structure Noise where
  bufferSizeBytes : UInt64
  copyChunkBytes : UInt64
  limiter : AggregateRateLimiter

------------------------------------------------------------
-- Workers
------------------------------------------------------------

/- What the workers share; the mutex has an owner or none. -/
structure Shared (W : Type) where
  clock : Int
  stopRequested : Bool := false
  measurementStarted : Bool := false
  owner : Option W := none
  initialized : Bool := false
  nextSlot : Int := 0

/-
  Where a worker is: in front of the loop, in front of
  `wait_for_slot`, in it with the mutex, or behind it.
-/
inductive Place
| loop
| waitForSlot
| locked
| slotLoop (slot : Int)
| passed (slot : Int)
| sleeping (slot wake : Int)
| returning (granted : Bool)
| copying
| counting
| finished
deriving Repr, DecidableEq

/- The two buffers of a worker. -/
inductive Buffer
| first
| second
deriving Repr, DecidableEq

/- The variables of a worker. -/
structure Worker where
  place : Place := .loop
  source : Buffer := .first
  destination : Buffer := .second
  offset : UInt64 := 0
  progressChunks : UInt64 := 0
  chunks : UInt64 := 0
  passes : UInt64 := 0
deriving Repr, DecidableEq

/- Ten milliseconds. -/
def sleepLimit : Int :=
  10000000

/- Behind a copy: the offset, and the buffers at its end. -/
def Worker.copied
    (noise : Noise)
    (measurementStarted : Bool)
    (worker : Worker) : Worker :=
  let offset := worker.offset + noise.copyChunkBytes
  if offset = noise.bufferSizeBytes then
    { worker with
      place := .counting
      source := worker.destination
      destination := worker.source
      offset := 0
      passes :=
        if measurementStarted then
          worker.passes + 1
        else
          worker.passes }
  else
    { worker with
      place := .counting
      offset := offset }

/- A chunk is counted. -/
def Worker.counted
    (measurementStarted : Bool)
    (worker : Worker) : Worker :=
  { worker with
    place := .loop
    progressChunks := worker.progressChunks + 1
    chunks :=
      if measurementStarted then
        worker.chunks + 1
      else
        worker.chunks }

/- The next step of a worker, if it can take one. -/
def advance
    {W : Type}
    (noise : Noise)
    (w : W)
    (shared : Shared W)
    (worker : Worker) : Option (Shared W × Worker) :=
  let goTo (place : Place) : Worker :=
    { worker with place := place }
  match worker.place with
  | .loop =>
      some
        (shared,
          goTo
            (if shared.stopRequested then
              .finished
            else
              .waitForSlot))
  | .waitForSlot =>
      if noise.limiter.enabled then
        if shared.owner.isNone then
          some ({ shared with owner := some w }, goTo .locked)
        else
          none
      else
        some
          (shared,
            goTo
              (if shared.stopRequested then
                .finished
              else
                .copying))
  | .locked =>
      if !shared.initialized || shared.nextSlot < shared.clock then
        some
          ({ shared with
              nextSlot := shared.clock
              initialized := true },
            goTo (.slotLoop shared.clock))
      else
        some (shared, goTo (.slotLoop shared.nextSlot))
  | .slotLoop slot =>
      some
        (shared,
          goTo
            (if shared.stopRequested then
              .returning false
            else
              .passed slot))
  | .passed slot =>
      let current := shared.clock
      if slot ≤ current then
        some
          ({ shared with
              nextSlot := current + noise.limiter.intervalNs },
            goTo (.returning true))
      else
        some
          (shared,
            goTo
              (.sleeping slot
                (current + min (slot - current) sleepLimit)))
  | .sleeping slot wake =>
      if wake ≤ shared.clock then
        some (shared, goTo (.slotLoop slot))
      else
        none
  | .returning granted =>
      some
        ({ shared with owner := none },
          goTo (if granted then .copying else .finished))
  | .copying =>
      some (shared, worker.copied noise shared.measurementStarted)
  | .counting =>
      some (shared, worker.counted shared.measurementStarted)
  | .finished => none

------------------------------------------------------------
-- The System
------------------------------------------------------------

/- All workers and what they share. -/
structure State (W : Type) where
  shared : Shared W
  workers : W → Worker

/- The clock moves on by any time, also by none. -/
inductive Action (W : Type)
| tick (elapsed : Nat)
| requestStop
| startMeasurement
| work (w : W)

/- One action of the program. -/
def step
    {W : Type}
    [DecidableEq W]
    (noise : Noise)
    (s : State W) : Action W → Option (State W)
| .tick elapsed =>
    some
      { s with
        shared :=
          { s.shared with clock := s.shared.clock + elapsed } }
| .requestStop =>
    some { s with shared := { s.shared with stopRequested := true } }
| .startMeasurement =>
    some
      { s with
        shared := { s.shared with measurementStarted := true } }
| .work w =>
    match advance noise w s.shared (s.workers w) with
    | none => none
    | some (shared, worker) =>
        some
          { shared := shared
            workers := Function.update s.workers w worker }

/- The runs of the program. -/
def system
    (W : Type)
    [DecidableEq W]
    (noise : Noise) : TransitionSystem (State W) (Action W) where
  step := step noise

/- Before the first action. -/
def start (W : Type) (clock : Int) : State W where
  shared := { clock := clock }
  workers := fun _ => {}

/- A slot that was granted to a worker. -/
structure Grant (W : Type) where
  time : Int
  worker : W
deriving Repr, DecidableEq

/- A limiter that is not enabled grants what it is asked for. -/
def grantOf
    {W : Type}
    (noise : Noise)
    (s : State W) : Action W → List (Grant W)
| .work w =>
    match (s.workers w).place with
    | .waitForSlot =>
        if !noise.limiter.enabled && !s.shared.stopRequested then
          [⟨s.shared.clock, w⟩]
        else
          []
    | .passed slot =>
        if slot ≤ s.shared.clock then
          [⟨s.shared.clock, w⟩]
        else
          []
    | _ => []
| _ => []

/- A call of `memcpy`. -/
structure Copied (W : Type) where
  worker : W
  source : Buffer
  destination : Buffer
  offset : UInt64
deriving Repr, DecidableEq

def copiedOf
    {W : Type}
    (s : State W) : Action W → List (Copied W)
| .work w =>
    let worker := s.workers w
    if worker.place = .copying then
      [⟨w, worker.source, worker.destination, worker.offset⟩]
    else
      []
| _ => []

------------------------------------------------------------
-- The Steps Of A Worker
------------------------------------------------------------

/-
  All that one step of a worker can do, with the slots that
  it is granted.
-/
inductive Moves
    {W : Type}
    (noise : Noise)
    (w : W)
    (shared : Shared W) :
    Worker → Shared W → Worker → List (Grant W) → Prop
| checked
    {worker : Worker}
    {place : Place}
    (hFrom : worker.place = .loop)
    (hTo : place = .finished ∨ place = .waitForSlot) :
    Moves noise w shared worker shared
      { worker with place := place } []
| ungranted
    {worker : Worker}
    (hFrom : worker.place = .waitForSlot)
    (hDisabled : noise.limiter.enabled = false)
    (hStop : shared.stopRequested = true) :
    Moves noise w shared worker shared
      { worker with place := .finished } []
| unlimited
    {worker : Worker}
    (hFrom : worker.place = .waitForSlot)
    (hDisabled : noise.limiter.enabled = false)
    (hStop : shared.stopRequested = false) :
    Moves noise w shared worker shared
      { worker with place := .copying } [⟨shared.clock, w⟩]
| acquired
    {worker : Worker}
    (hFrom : worker.place = .waitForSlot)
    (hEnabled : noise.limiter.enabled = true)
    (hFree : shared.owner = none) :
    Moves noise w shared worker
      { shared with owner := some w }
      { worker with place := .locked } []
| present
    {worker : Worker}
    (hFrom : worker.place = .locked)
    (hBehind :
      shared.initialized = false ∨ shared.nextSlot < shared.clock) :
    Moves noise w shared worker
      { shared with
        nextSlot := shared.clock
        initialized := true }
      { worker with place := .slotLoop shared.clock } []
| future
    {worker : Worker}
    (hFrom : worker.place = .locked)
    (hInitialized : shared.initialized = true) :
    Moves noise w shared worker shared
      { worker with place := .slotLoop shared.nextSlot } []
| stopped
    {worker : Worker}
    {slot : Int}
    (hFrom : worker.place = .slotLoop slot)
    (hStop : shared.stopRequested = true) :
    Moves noise w shared worker shared
      { worker with place := .returning false } []
| passed
    {worker : Worker}
    {slot : Int}
    (hFrom : worker.place = .slotLoop slot)
    (hStop : shared.stopRequested = false) :
    Moves noise w shared worker shared
      { worker with place := .passed slot } []
| granted
    {worker : Worker}
    {slot : Int}
    (hFrom : worker.place = .passed slot)
    (hSlot : slot ≤ shared.clock) :
    Moves noise w shared worker
      { shared with
        nextSlot := shared.clock + noise.limiter.intervalNs }
      { worker with place := .returning true } [⟨shared.clock, w⟩]
| slept
    {worker : Worker}
    {slot wake : Int}
    (hFrom : worker.place = .passed slot)
    (hSlot : shared.clock < slot) :
    Moves noise w shared worker shared
      { worker with place := .sleeping slot wake } []
| woke
    {worker : Worker}
    {slot wake : Int}
    (hFrom : worker.place = .sleeping slot wake) :
    Moves noise w shared worker shared
      { worker with place := .slotLoop slot } []
| released
    {worker : Worker}
    {granted : Bool}
    {place : Place}
    (hFrom : worker.place = .returning granted)
    (hTo : place = .copying ∨ place = .finished) :
    Moves noise w shared worker
      { shared with owner := none }
      { worker with place := place } []
| copied
    {worker : Worker}
    (hFrom : worker.place = .copying) :
    Moves noise w shared worker shared
      (worker.copied noise shared.measurementStarted) []
| counted
    {worker : Worker}
    (hFrom : worker.place = .counting) :
    Moves noise w shared worker shared
      (worker.counted shared.measurementStarted) []

theorem advance_moves
    {W : Type}
    {noise : Noise}
    {w : W}
    {s : State W}
    {next : Shared W × Worker}
    (hAdvance : advance noise w s.shared (s.workers w) = some next) :
    Moves noise w s.shared (s.workers w) next.1 next.2
      (grantOf noise s (.work w)) := by
  unfold advance at hAdvance
  unfold grantOf
  simp only at hAdvance ⊢
  split at hAdvance
  next hFrom =>
    rw [hFrom]
    cases hAdvance
    apply Moves.checked hFrom
    split
    · exact Or.inl rfl
    · exact Or.inr rfl
  next hFrom =>
    rw [hFrom]
    split at hAdvance
    next hEnabled =>
      split at hAdvance
      next hFree =>
        cases hAdvance
        simp only [hEnabled, Bool.not_true, Bool.false_and,
          Bool.false_eq_true, if_false]
        exact .acquired hFrom hEnabled (by simpa using hFree)
      · cases hAdvance
    next hDisabled =>
      rw [Bool.not_eq_true] at hDisabled
      cases hAdvance
      cases hStop : s.shared.stopRequested with
      | true =>
          simp only [hDisabled, Bool.not_true, Bool.and_false,
            Bool.false_eq_true, if_false, if_true]
          exact .ungranted hFrom hDisabled hStop
      | false =>
          simp only [hDisabled, Bool.not_false, Bool.and_self,
            Bool.false_eq_true, if_false, if_true]
          exact .unlimited hFrom hDisabled hStop
  next hFrom =>
    rw [hFrom]
    split at hAdvance
    next hBehind =>
      cases hAdvance
      exact .present hFrom (by simpa using hBehind)
    next hNot =>
      cases hAdvance
      exact .future hFrom (by
        simp only [Bool.or_eq_true, Bool.not_eq_true', not_or,
          Bool.not_eq_false] at hNot
        exact hNot.1)
  next slot hFrom =>
    rw [hFrom]
    cases hAdvance
    cases hStop : s.shared.stopRequested with
    | true => exact .stopped hFrom hStop
    | false => exact .passed hFrom hStop
  next slot hFrom =>
    rw [hFrom]
    simp only
    split at hAdvance
    next hSlot =>
      cases hAdvance
      rw [if_pos hSlot]
      exact .granted hFrom hSlot
    next hSlot =>
      cases hAdvance
      rw [if_neg hSlot]
      exact .slept hFrom (by omega)
  next slot wake hFrom =>
    rw [hFrom]
    split at hAdvance
    · cases hAdvance
      exact .woke hFrom
    · cases hAdvance
  next granted hFrom =>
    rw [hFrom]
    cases hAdvance
    apply Moves.released hFrom
    split
    · exact Or.inl rfl
    · exact Or.inr rfl
  next hFrom =>
    rw [hFrom]
    cases hAdvance
    exact .copied hFrom
  next hFrom =>
    rw [hFrom]
    cases hAdvance
    exact .counted hFrom
  · cases hAdvance

end MemoryNoise

end RsCamera
