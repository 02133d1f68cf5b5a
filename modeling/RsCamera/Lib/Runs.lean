import Mathlib.Order.Basic
import Mathlib.Data.List.Pairwise

/-
  Sets of numbers as runs.

  A list of runs stands for the numbers between their first
  and last ones.  The runs are maximal when they follow each
  other with a number missing between any two of them; a set
  has only one such list.

  Main declarations:
    * `Runs.Holds`, `Runs.Maximal`
    * `Runs.Maximal.not_holds_after`
    * `Runs.Maximal.not_holds_before`
    * `Runs.Maximal.unique`
-/

namespace Runs

/- A number lies in a run. -/
def Holds (runs : List (Nat × Nat)) (n : Nat) : Prop :=
  ∃ run ∈ runs, run.1 ≤ n ∧ n ≤ run.2

structure Maximal (runs : List (Nat × Nat)) : Prop where
  filled : ∀ run ∈ runs, run.1 ≤ run.2
  apart :
    runs.Pairwise (fun earlier later =>
      earlier.2 + 1 < later.1)

variable {run : Nat × Nat}
variable {runs : List (Nat × Nat)}
variable {n : Nat}

theorem holds_cons
    {n : Nat} :
    Holds (run :: runs) n ↔
      (run.1 ≤ n ∧ n ≤ run.2) ∨ Holds runs n := by
  simp [Holds]

theorem maximal_nil : Maximal [] where
  filled := by simp
  apart := List.Pairwise.nil

theorem maximal_cons
    {runs : List (Nat × Nat)} :
    Maximal (run :: runs) ↔
      run.1 ≤ run.2 ∧
        (∀ later ∈ runs, run.2 + 1 < later.1) ∧
        Maximal runs := by
  constructor
  · intro hMaximal
    have hFilled := List.forall_mem_cons.mp hMaximal.filled
    have hApart := List.pairwise_cons.mp hMaximal.apart
    exact ⟨hFilled.1, hApart.1, hFilled.2, hApart.2⟩
  · rintro ⟨hFilled, hApart, hRest⟩
    exact
      { filled :=
          List.forall_mem_cons.mpr ⟨hFilled, hRest.filled⟩
        apart :=
          List.pairwise_cons.mpr ⟨hApart, hRest.apart⟩ }

/- What the later runs hold is far behind the first one. -/
theorem Maximal.lt_of_holds
    (hMaximal : Maximal (run :: runs))
    (hHolds : Holds runs n) :
    run.2 + 1 < n := by
  rcases hHolds with ⟨later, hLater, hFirst, -⟩
  have hApart := (maximal_cons.mp hMaximal).2.1 later hLater
  omega

theorem Maximal.not_holds_after
    (hMaximal : Maximal runs)
    (hRun : run ∈ runs) :
    ¬Holds runs (run.2 + 1) := by
  induction runs with
  | nil => cases hRun
  | cons first runs ih =>
      have hParts := maximal_cons.mp hMaximal
      rw [holds_cons]
      rcases List.mem_cons.mp hRun with hIs | hLater
      · subst hIs
        rintro (hHere | hBehind)
        · omega
        · have hFar := hMaximal.lt_of_holds hBehind
          omega
      · rintro (hHere | hBehind)
        · have hApart := hParts.2.1 run hLater
          have hFilled := hParts.2.2.filled run hLater
          omega
        · exact ih hParts.2.2 hLater hBehind

theorem Maximal.not_holds_before
    (hMaximal : Maximal runs)
    (hRun : run ∈ runs)
    (hBefore : n + 1 = run.1) :
    ¬Holds runs n := by
  induction runs with
  | nil => cases hRun
  | cons first runs ih =>
      have hParts := maximal_cons.mp hMaximal
      rw [holds_cons]
      rcases List.mem_cons.mp hRun with hIs | hLater
      · subst hIs
        rintro (hHere | hBehind)
        · omega
        · have hFar := hMaximal.lt_of_holds hBehind
          omega
      · rintro (hHere | hBehind)
        · have hApart := hParts.2.1 run hLater
          omega
        · exact ih hParts.2.2 hLater hBehind

/- The least number of a set is the start of its first run. -/
theorem Maximal.first_le
    (hMaximal : Maximal (run :: runs))
    (hHolds : Holds (run :: runs) n) :
    run.1 ≤ n := by
  rcases holds_cons.mp hHolds with hHere | hBehind
  · exact hHere.1
  · have hFar := hMaximal.lt_of_holds hBehind
    have hFilled := (maximal_cons.mp hMaximal).1
    omega

theorem Maximal.unique
    {left right : List (Nat × Nat)}
    (hLeft : Maximal left)
    (hRight : Maximal right)
    (hSame : ∀ n, Holds left n ↔ Holds right n) :
    left = right := by
  induction left generalizing right with
  | nil =>
      cases right with
      | nil => rfl
      | cons run runs =>
          have hFilled := (maximal_cons.mp hRight).1
          have hNone := (hSame run.1).mpr
            (holds_cons.mpr (Or.inl ⟨Nat.le_refl _, hFilled⟩))
          simp [Holds] at hNone
  | cons run runs ih =>
      have hFilled := (maximal_cons.mp hLeft).1
      have hStart : Holds (run :: runs) run.1 :=
        holds_cons.mpr (Or.inl ⟨Nat.le_refl _, hFilled⟩)
      have hEnd : Holds (run :: runs) run.2 :=
        holds_cons.mpr (Or.inl ⟨hFilled, Nat.le_refl _⟩)
      cases right with
      | nil =>
          have hNone := (hSame run.1).mp hStart
          simp [Holds] at hNone
      | cons other others =>
          have hFilled' := (maximal_cons.mp hRight).1
          have hStart' : Holds (other :: others) other.1 :=
            holds_cons.mpr
              (Or.inl ⟨Nat.le_refl _, hFilled'⟩)
          have hEnd' : Holds (other :: others) other.2 :=
            holds_cons.mpr
              (Or.inl ⟨hFilled', Nat.le_refl _⟩)
          have hFirst : run.1 = other.1 := by
            have hLe :=
              hLeft.first_le ((hSame other.1).mpr hStart')
            have hGe :=
              hRight.first_le ((hSame run.1).mp hStart)
            omega
          -- A run that ended earlier would miss a number.
          have hLast : run.2 = other.2 := by
            have hAfter :=
              hLeft.not_holds_after List.mem_cons_self
            have hAfter' :=
              hRight.not_holds_after List.mem_cons_self
            rw [hSame, holds_cons, not_or] at hAfter
            rw [← hSame, holds_cons, not_or] at hAfter'
            omega
          have hRun : run = other := Prod.ext hFirst hLast
          subst hRun
          rw [ih (maximal_cons.mp hLeft).2.2
            (maximal_cons.mp hRight).2.2]
          intro n
          have hHere := hSame n
          rw [holds_cons, holds_cons] at hHere
          constructor
          · intro hHolds
            have hFar := hLeft.lt_of_holds hHolds
            rcases hHere.mp (Or.inr hHolds) with hIn | hIn
            · omega
            · exact hIn
          · intro hHolds
            have hFar := hRight.lt_of_holds hHolds
            rcases hHere.mpr (Or.inr hHolds) with hIn | hIn
            · omega
            · exact hIn

end Runs
