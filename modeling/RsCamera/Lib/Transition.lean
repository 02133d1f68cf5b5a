import Mathlib.Algebra.Order.BigOperators.Group.Finset
import Mathlib.Algebra.BigOperators.Fin

/-
  Guarded transition systems: the runs of a system of
  interleaved actors, and the invariant rules for them.

  A step is a partial function of the state and an action;
  it is undefined where the action is not enabled.  A run is
  a list of actions, each enabled where it is taken.  An
  observation attaches a list of records to every step, so
  that a property of the history can be stated without
  adding history variables to the state.

  Main declarations:
    * `TransitionSystem.run`
    * `TransitionSystem.observe`
    * `TransitionSystem.StepsSatisfy`
    * `TransitionSystem.run_invariant`
    * `TransitionSystem.run_observe_invariant`
    * `TransitionSystem.run_invariant_of_stepsSatisfy`
    * `TransitionSystem.stepsSatisfy_append`
    * `TransitionSystem.stepsSatisfy_congr`
-/

------------------------------------------------------------
-- Runs
------------------------------------------------------------

/- A transition system over states `S` and actions `A`. -/
structure TransitionSystem (S A : Type) where
  step : S → A → Option S

namespace TransitionSystem

section

variable {S A B : Type}

/- Execute a list of actions, each enabled in its turn. -/
def run
    (T : TransitionSystem S A) :
    S → List A → Option S
| s, [] => some s
| s, a :: as =>
    match T.step s a with
    | none => none
    | some t => run T t as

/- A run stops at the first action that is not enabled. -/
example :
    run ⟨fun s a : Nat => if a ≤ s then some (s - a) else none⟩
        5 [2, 4] =
      none := by
  simp [run]

/- The records an observer collects along a run. -/
def observe
    (T : TransitionSystem S A)
    (f : S → A → List B) :
    S → List A → List B
| _, [] => []
| s, a :: as =>
    match T.step s a with
    | none => []
    | some t => f s a ++ observe T f t as

/- Every step taken along a run meets a condition. -/
def StepsSatisfy
    (T : TransitionSystem S A)
    (C : S → A → Prop) :
    S → List A → Prop
| _, [] => True
| s, a :: as =>
    C s a ∧ ∀ t, T.step s a = some t → StepsSatisfy T C t as

variable (T : TransitionSystem S A)

instance decidableStepsSatisfy
    (C : S → A → Prop)
    [∀ s a, Decidable (C s a)] :
    ∀ s as, Decidable (T.StepsSatisfy C s as)
| _, [] => isTrue trivial
| s, a :: as =>
    match hStep : T.step s a with
    | none =>
        decidable_of_iff (C s a) (by
          simp [StepsSatisfy, hStep])
    | some t =>
        have := decidableStepsSatisfy C t as
        decidable_of_iff (C s a ∧ T.StepsSatisfy C t as) (by
          simp [StepsSatisfy, hStep])

theorem run_cons_eq_some
    {s t : S}
    {a : A}
    {as : List A} :
    T.run s (a :: as) = some t ↔
      ∃ u, T.step s a = some u ∧ T.run u as = some t := by
  cases hStep : T.step s a with
  | none => simp [run, hStep]
  | some u => simp [run, hStep]

/- A run in two parts continues where the first part ends. -/
theorem run_append
    (s : S)
    (as bs : List A) :
    T.run s (as ++ bs) =
      (T.run s as).bind (fun t => T.run t bs) := by
  induction as generalizing s with
  | nil => rfl
  | cons a as ih =>
      cases hStep : T.step s a with
      | none => simp [run, hStep]
      | some u => simp [run, hStep, ih]

end

------------------------------------------------------------
-- Invariant Rules
------------------------------------------------------------

variable {S A B : Type}
variable (T : TransitionSystem S A)

/-
  A property kept by every step that meets a condition holds
  after every run whose steps all meet the condition.
-/
theorem run_invariant_of_stepsSatisfy
    {P : S → Prop}
    {C : S → A → Prop}
    (hStep :
      ∀ s a t, P s → C s a → T.step s a = some t → P t)
    {s t : S}
    {as : List A}
    (hStart : P s)
    (hSteps : T.StepsSatisfy C s as)
    (hRun : T.run s as = some t) :
    P t := by
  induction as generalizing s with
  | nil =>
      simp only [run, Option.some.injEq] at hRun
      exact hRun ▸ hStart
  | cons a as ih =>
      rcases (run_cons_eq_some T).mp hRun with
        ⟨u, hFirst, hRest⟩
      exact ih (hStep s a u hStart hSteps.1 hFirst)
        (hSteps.2 u hFirst) hRest

/- A condition on a run is one on each of its two parts. -/
theorem stepsSatisfy_append
    {C : S → A → Prop}
    {s t : S}
    {as bs : List A}
    (hSteps : T.StepsSatisfy C s (as ++ bs))
    (hRun : T.run s as = some t) :
    T.StepsSatisfy C s as ∧ T.StepsSatisfy C t bs := by
  induction as generalizing s with
  | nil =>
      simp only [run, Option.some.injEq] at hRun
      subst hRun
      exact ⟨trivial, hSteps⟩
  | cons a as ih =>
      rcases (run_cons_eq_some T).mp hRun with
        ⟨u, hFirst, hRest⟩
      have hParts := ih (hSteps.2 u hFirst) hRest
      refine ⟨⟨hSteps.1, ?_⟩, hParts.2⟩
      intro v hTaken
      rw [hFirst] at hTaken
      cases hTaken
      exact hParts.1

/-
  Two conditions that agree as long as an invariant holds,
  one of which keeps it, agree along every run.
-/
theorem stepsSatisfy_congr
    {P : S → Prop}
    {C D : S → A → Prop}
    (hIff : ∀ s a, P s → (C s a ↔ D s a))
    (hStep :
      ∀ s a t, P s → C s a → T.step s a = some t → P t)
    {s : S}
    (hStart : P s)
    (as : List A) :
    T.StepsSatisfy C s as ↔ T.StepsSatisfy D s as := by
  induction as generalizing s with
  | nil => exact Iff.rfl
  | cons a as ih =>
      have hSame := hIff s a hStart
      constructor
      · rintro ⟨hFirst, hRest⟩
        refine ⟨hSame.mp hFirst, fun t hTaken => ?_⟩
        have hNext := hStep s a t hStart hFirst hTaken
        exact (ih hNext).mp (hRest t hTaken)
      · rintro ⟨hFirst, hRest⟩
        refine ⟨hSame.mpr hFirst, fun t hTaken => ?_⟩
        have hNext :=
          hStep s a t hStart (hSame.mpr hFirst) hTaken
        exact (ih hNext).mpr (hRest t hTaken)

/- The trivial condition holds along every run. -/
theorem stepsSatisfy_true
    (s : S)
    (as : List A) :
    T.StepsSatisfy (fun _ _ => True) s as := by
  induction as generalizing s with
  | nil => trivial
  | cons a as ih => exact ⟨trivial, fun t _ => ih t⟩

/- A property kept by every step holds after every run. -/
theorem run_invariant
    {P : S → Prop}
    (hStep : ∀ s a t, P s → T.step s a = some t → P t)
    {s t : S}
    {as : List A}
    (hStart : P s)
    (hRun : T.run s as = some t) :
    P t :=
  run_invariant_of_stepsSatisfy T
    (fun s a t hP _ hTaken => hStep s a t hP hTaken)
    hStart (stepsSatisfy_true T s as) hRun

/-
  A relation between the observations made so far and the
  state, kept by every step, holds after every run.
-/
theorem run_observe_invariant
    {f : S → A → List B}
    {P : List B → S → Prop}
    (hStep :
      ∀ log s a t, P log s → T.step s a = some t →
        P (log ++ f s a) t)
    {log : List B}
    {s t : S}
    {as : List A}
    (hStart : P log s)
    (hRun : T.run s as = some t) :
    P (log ++ T.observe f s as) t := by
  induction as generalizing log s with
  | nil =>
      simp only [run, Option.some.injEq] at hRun
      subst hRun
      simpa [observe] using hStart
  | cons a as ih =>
      rcases (run_cons_eq_some T).mp hRun with
        ⟨u, hFirst, hRest⟩
      have hNext := ih (hStep log s a u hStart hFirst) hRest
      simpa [observe, hFirst, List.append_assoc] using hNext

end TransitionSystem

------------------------------------------------------------
-- Totals Over Actors
------------------------------------------------------------

/-
  Changing the state of one actor changes a total over all
  actors by the difference of that actor's shares.
-/
theorem total_update_add
    {I X : Type}
    [Fintype I]
    [DecidableEq I]
    (g : X → Nat)
    (f : I → X)
    (i : I)
    (x : X) :
    (∑ j, g (Function.update f i x j)) + g (f i) =
      (∑ j, g (f j)) + g x := by
  have hOld :=
    Finset.add_sum_erase Finset.univ (fun j => g (f j))
      (Finset.mem_univ i)
  have hNew :=
    Finset.add_sum_erase Finset.univ
      (fun j => g (Function.update f i x j))
      (Finset.mem_univ i)
  have hRest :
      ∑ j ∈ Finset.univ.erase i,
          g (Function.update f i x j) =
        ∑ j ∈ Finset.univ.erase i, g (f j) := by
    apply Finset.sum_congr rfl
    intro j hj
    rw [Function.update_of_ne (Finset.ne_of_mem_erase hj)]
  simp only [Function.update_self] at hNew
  omega

/-
  Actors that each give at most one give one each when the
  total reaches their number.
-/
theorem eq_one_of_card_le_total
    {n : Nat}
    {f : Fin n → Nat}
    (hLe : ∀ i, f i ≤ 1)
    (hTotal : n ≤ ∑ i, f i)
    (i : Fin n) :
    f i = 1 := by
  by_contra hNot
  have hLess : ∑ j, f j < ∑ _j : Fin n, 1 := by
    refine Finset.sum_lt_sum (fun j _ => hLe j)
      ⟨i, Finset.mem_univ i, ?_⟩
    exact Nat.lt_of_le_of_ne (hLe i) hNot
  simp only [Finset.sum_const, Finset.card_univ,
    Fintype.card_fin, smul_eq_mul, mul_one] at hLess
  omega
