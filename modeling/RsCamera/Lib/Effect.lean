import Mathlib.Data.List.Basic

/-
  Computations that change a state and may raise.  The
  changes made before an exception stay made.

  A triple gives a computation a precondition and two
  postconditions, one for a return and one for an exception.
  A step that either happens as a whole or raises without
  any effect is described by its postconditions once, and
  the rules below carry them through sequences, loops and
  handlers.

  Main declarations:
    * `Effect`, `Effect.Triple`, `Effect.Returns`
    * `Triple.bind`, `Triple.forEach`
    * `Triple.attempt`, `Triple.onRaise`
-/

------------------------------------------------------------
-- Computations
------------------------------------------------------------

/- The texts of the exceptions are strings. -/
abbrev Effect (S A : Type) : Type :=
  EStateM String S A

namespace Effect

section

variable {S A B X : Type}

/- Run a body on the elements of a list, in order. -/
def forEach (body : X → Effect S Unit) : List X → Effect S Unit
| [] => pure ()
| x :: xs => do
    body x
    forEach body xs

/- Catch an exception and report it under a label. -/
def attempt
    (label : String)
    (m : Effect S Unit) : Effect S (List String) :=
  fun s =>
    match m s with
    | .ok _ t => .ok [] t
    | .error e t => .ok [label ++ ": " ++ e] t

/-
  Run a handler when an exception is raised, then raise the
  exception again.  An exception of the handler itself is
  raised under a label.
-/
def onRaise
    (label : String)
    (m : Effect S A)
    (handler : Effect S Unit) : Effect S A :=
  fun s =>
    match m s with
    | .ok a t => .ok a t
    | .error e t =>
        match handler t with
        | .ok _ u => .error e u
        | .error e' u => .error (label ++ e') u

/- Raise when there are reports, all of them in one text. -/
def report (errors : List String) : Effect S Unit :=
  if errors = [] then
    pure ()
  else
    throw (String.intercalate " | " errors)

/- Do something to the state or raise. -/
def perform
    (failure : Option String)
    (f : S → S) : Effect S Unit :=
  fun s =>
    match failure with
    | none => .ok () (f s)
    | some e => .error e s

/- An answer of the environment to a question about the state. -/
def ask (answer : S → Except String A) : Effect S A :=
  fun s =>
    match answer s with
    | .ok a => .ok a s
    | .error e => .error e s

theorem forEach_modify
    (f : X → S → S)
    (xs : List X)
    (s : S) :
    forEach (fun x => (modify (f x) : Effect S Unit)) xs s =
      .ok () (xs.foldl (fun s x => f x s) s) := by
  induction xs generalizing s with
  | nil => rfl
  | cons x xs ih => exact ih (f x s)

/- A computation that returns from a state. -/
def Returns (m : Effect S A) (s : S) : Prop :=
  ∃ a t, m s = .ok a t

theorem returns_bind_iff
    {m : Effect S A}
    {f : A → Effect S B}
    {s : S} :
    Returns (m >>= f) s ↔
      ∃ a t, m s = .ok a t ∧ Returns (f a) t := by
  unfold Returns
  cases hRun : m s with
  | ok a t => simp [bind, EStateM.bind, hRun]
  | error e t => simp [bind, EStateM.bind, hRun]

theorem returns_ask_bind_iff
    {answer : S → Except String A}
    {f : A → Effect S B}
    {s : S} :
    Returns (ask answer >>= f) s ↔
      ∃ a, answer s = .ok a ∧ Returns (f a) s := by
  rw [returns_bind_iff]
  unfold ask
  cases answer s with
  | ok a => simp
  | error e => simp

/- A question whose answer is known can be left out. -/
theorem returns_ask_bind_of_ok
    {answer : S → Except String A}
    {f : A → Effect S B}
    {s : S}
    {a : A}
    (hAnswer : answer s = .ok a) :
    Returns (ask answer >>= f) s ↔ Returns (f a) s := by
  rw [returns_ask_bind_iff, hAnswer]
  simp

/- Where the state does not matter to the body of a loop. -/
theorem returns_forEach_iff
    {body : X → Effect S Unit}
    {C : X → Prop}
    (hBody : ∀ x s, Returns (body x) s ↔ C x)
    (xs : List X)
    (s : S) :
    Returns (forEach body xs) s ↔ ∀ x ∈ xs, C x := by
  induction xs generalizing s with
  | nil =>
      refine iff_of_true ⟨(), s, rfl⟩ ?_
      intro x hIn
      cases hIn
  | cons x xs ih =>
      rw [forEach, returns_bind_iff, List.forall_mem_cons,
        ← hBody x s]
      constructor
      · rintro ⟨_, t, hRun, hRest⟩
        exact ⟨⟨_, t, hRun⟩, (ih t).mp hRest⟩
      · rintro ⟨⟨_, t, hRun⟩, hRest⟩
        exact ⟨_, t, hRun, (ih t).mpr hRest⟩

/- The state after a computation, however it ended. -/
def after (m : Effect S A) (s : S) : S :=
  match m s with
  | .ok _ t => t
  | .error _ t => t

theorem after_forEach_cons
    (body : X → Effect S Unit)
    (x : X)
    (xs : List X)
    (s : S) :
    after (forEach body (x :: xs)) s =
      match body x s with
      | .ok _ t => after (forEach body xs) t
      | .error _ t => t := by
  unfold after
  rw [forEach]
  simp only [bind, EStateM.bind]
  cases body x s <;> rfl

end

------------------------------------------------------------
-- Triples
------------------------------------------------------------

variable {S A B X : Type}

/- The postconditions of a return and of an exception. -/
def Triple
    (P : S → Prop)
    (m : Effect S A)
    (Q : A → S → Prop)
    (R : S → Prop) : Prop :=
  ∀ s, P s →
    match m s with
    | .ok a t => Q a t
    | .error _ t => R t

/- A computation that keeps a property whatever happens. -/
def Keeps (P : S → Prop) (m : Effect S A) : Prop :=
  Triple P m (fun _ => P) P

namespace Triple

variable {P P' : S → Prop}
variable {Q Q' : A → S → Prop}
variable {R R' : S → Prop}

variable {a : A}
variable {start : S}
variable {answer : S → Except String A}

theorem of_ok
    {m : Effect S A}
    (hTriple : Triple P m Q R)
    {s t : S}
    (hStart : P s)
    (hRun : m s = .ok a t) :
    Q a t := by
  have hResult := hTriple s hStart
  rwa [hRun] at hResult

theorem of_error
    {m : Effect S A}
    (hTriple : Triple P m Q R)
    {s t : S}
    {e : String}
    (hStart : P s)
    (hRun : m s = .error e t) :
    R t := by
  have hResult := hTriple s hStart
  rwa [hRun] at hResult

/- What both postconditions say holds of the state after. -/
theorem of_after
    {m : Effect S A}
    (hTriple : Triple P m Q R)
    {C : S → Prop}
    (hPost : ∀ a s, Q a s → C s)
    (hRaise : ∀ s, R s → C s)
    {s : S}
    (hStart : P s) :
    C (Effect.after m s) := by
  unfold Effect.after
  cases hRun : m s with
  | ok a t => exact hPost a t (hTriple.of_ok hStart hRun)
  | error e t => exact hRaise t (hTriple.of_error hStart hRun)

theorem weaken
    {m : Effect S A}
    (hTriple : Triple P m Q R)
    (hPre : ∀ s, P' s → P s)
    (hPost : ∀ a s, Q a s → Q' a s)
    (hRaise : ∀ s, R s → R' s) :
    Triple P' m Q' R' := by
  intro s hStart
  have hResult := hTriple s (hPre s hStart)
  cases hRun : m s with
  | ok a t =>
      rw [hRun] at hResult
      exact hPost a t hResult
  | error e t =>
      rw [hRun] at hResult
      exact hRaise t hResult

/- A computation that never raises. -/
theorem never_raises
    {m : Effect S A}
    (hTriple : Triple P m Q (fun _ => False)) :
    Triple P m Q R :=
  hTriple.weaken (fun _ hStart => hStart)
    (fun _ _ hPost => hPost) (fun _ hFalse => hFalse.elim)

/- The state at the start may be given a name. -/
theorem fix_start
    {m : Effect S A}
    (hAll : ∀ start, P start → Triple (· = start) m Q R) :
    Triple P m Q R :=
  fun s hStart => hAll s hStart s rfl

/- A computation that reads the state at its start. -/
theorem get_bind
    {f : S → Effect S A}
    (hRest : Triple (· = start) (f start) Q R) :
    Triple (· = start) (get >>= f) Q R := by
  rintro s rfl
  exact hRest s rfl

theorem pure
    (hPost : ∀ s, P s → Q a s) :
    Triple P (Pure.pure a : Effect S A) Q R :=
  fun s hStart => hPost s hStart

theorem throw
    {e : String}
    (hRaise : ∀ s, P s → R s) :
    Triple P (throw e : Effect S A) Q R :=
  fun s hStart => hRaise s hStart

theorem bind
    {m : Effect S A}
    {f : A → Effect S B}
    {Q' : B → S → Prop}
    (hFirst : Triple P m Q R)
    (hRest : ∀ a, Triple (Q a) (f a) Q' R) :
    Triple P (m >>= f) Q' R := by
  intro s hStart
  have hResult := hFirst s hStart
  cases hRun : m s with
  | ok a t =>
      rw [hRun] at hResult
      have hNext := hRest a t hResult
      have hBind : (m >>= f) s = f a t := by
        simp [Bind.bind, EStateM.bind, hRun]
      rw [hBind]
      exact hNext
  | error e t =>
      rw [hRun] at hResult
      have hBind : (m >>= f) s = .error e t := by
        simp [Bind.bind, EStateM.bind, hRun]
      rw [hBind]
      exact hResult

theorem perform
    {failure : Option String}
    {f : S → S}
    {Q : Unit → S → Prop}
    (hDone : failure = none → ∀ s, P s → Q () (f s))
    (hRaise : failure ≠ none → ∀ s, P s → R s) :
    Triple P (Effect.perform failure f) Q R := by
  intro s hStart
  cases failure with
  | none => exact hDone rfl s hStart
  | some e => exact hRaise (by simp) s hStart

theorem ask
    (hAnswer : ∀ s a, P s → answer s = .ok a → Q a s)
    (hRaise : ∀ s, P s → R s) :
    Triple P (Effect.ask answer) Q R := by
  intro s hStart
  cases hRun : answer s with
  | ok a => simpa [Effect.ask, hRun] using hAnswer s a hStart hRun
  | error e => simpa [Effect.ask, hRun] using hRaise s hStart

/- A question asked in a known state. -/
theorem ask_bind
    {f : A → Effect S B}
    {Q : B → S → Prop}
    (hRaise : R start)
    (hRest :
      ∀ a, answer start = .ok a →
        Triple (· = start) (f a) Q R) :
    Triple (· = start) (Effect.ask answer >>= f) Q R := by
  refine bind
    (Q := fun a s => s = start ∧ answer start = .ok a) ?_ ?_
  · apply Triple.ask
    · rintro s a rfl hAnswer
      exact ⟨rfl, hAnswer⟩
    · rintro s rfl
      exact hRaise
  · intro a
    apply fix_start
    rintro s ⟨rfl, hAnswer⟩
    exact hRest a hAnswer

/- A question whose answer is known. -/
theorem ask_bind_of_ok
    {f : A → Effect S B}
    {Q : B → S → Prop}
    (hAnswer : answer start = .ok a)
    (hRest : Triple (· = start) (f a) Q R) :
    Triple (· = start) (Effect.ask answer >>= f) Q R := by
  rintro s rfl
  have hBind : (Effect.ask answer >>= f) s = f a s := by
    simp only [Bind.bind, EStateM.bind, Effect.ask, hAnswer]
  rw [hBind]
  exact hRest s rfl

/-
  A loop whose invariant speaks of the elements that are
  done and of those to come.
-/
theorem forEach
    {body : X → Effect S Unit}
    {I : List X → List X → S → Prop}
    (hBody :
      ∀ front x back,
        Triple (I front (x :: back)) (body x)
          (fun _ => I (front ++ [x]) back) R)
    (front back : List X) :
    Triple (I front back) (Effect.forEach body back)
      (fun _ => I (front ++ back) []) R := by
  induction back generalizing front with
  | nil =>
      apply Triple.pure
      intro s hStart
      simpa using hStart
  | cons x back ih =>
      refine bind (hBody front x back) ?_
      intro a
      simpa using ih (front ++ [x])

/- A loop keeps what each of its rounds keeps. -/
theorem keeps_forEach
    {body : X → Effect S Unit}
    {list : List X}
    (hBody : ∀ x ∈ list, Keeps P (body x)) :
    Keeps P (Effect.forEach body list) := by
  induction list with
  | nil => exact Triple.pure (fun _ hStart => hStart)
  | cons x list ih =>
      rw [List.forall_mem_cons] at hBody
      exact bind hBody.1 (fun _ => ih hBody.2)

theorem attempt
    {label : String}
    {m : Effect S Unit}
    {Q : List String → S → Prop}
    (hBody :
      Triple P m (fun _ => Q [])
        (fun s => ∀ e, Q [label ++ ": " ++ e] s)) :
    Triple P (Effect.attempt label m) Q R := by
  intro s hStart
  have hResult := hBody s hStart
  cases hRun : m s with
  | ok a t =>
      rw [hRun] at hResult
      simpa [Effect.attempt, hRun] using hResult
  | error e t =>
      rw [hRun] at hResult
      simpa [Effect.attempt, hRun] using hResult e

theorem report
    {errors : List String}
    {Q : Unit → S → Prop}
    (hNone : errors = [] → ∀ s, P s → Q () s)
    (hSome : errors ≠ [] → ∀ s, P s → R s) :
    Triple P (Effect.report errors) Q R := by
  unfold Effect.report
  split
  · next hErrors => exact Triple.pure (hNone hErrors)
  · next hErrors => exact Triple.throw (hSome hErrors)

theorem onRaise
    {label : String}
    {m : Effect S A}
    {handler : Effect S Unit}
    {C : S → Prop}
    (hBody : Triple P m Q C)
    (hHandler : Triple C handler (fun _ => R) R) :
    Triple P (Effect.onRaise label m handler) Q R := by
  intro s hStart
  have hResult := hBody s hStart
  cases hRun : m s with
  | ok a t =>
      rw [hRun] at hResult
      simpa [Effect.onRaise, hRun] using hResult
  | error e t =>
      rw [hRun] at hResult
      have hCleaned := hHandler t hResult
      cases hUndo : handler t with
      | ok a u =>
          rw [hUndo] at hCleaned
          simpa [Effect.onRaise, hRun, hUndo] using hCleaned
      | error e' u =>
          rw [hUndo] at hCleaned
          simpa [Effect.onRaise, hRun, hUndo] using hCleaned

end Triple

end Effect
