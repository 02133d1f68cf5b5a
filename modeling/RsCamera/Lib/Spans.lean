import Mathlib.Algebra.BigOperators.Group.List.Basic
import Mathlib.Algebra.Order.Ring.Int
import Mathlib.Data.List.Induction

/-
  Lists of spans of time, in order.

  `Within` says that the spans follow one another inside a
  range, and `Tiles` that they fill it without a gap.  Both
  carry the lower end of what is left of the range, so that
  spans are easily appended at the end of the list.

  Main declarations:
    * `Spans.Within`, `Spans.Tiles`
    * `Spans.within_append`, `Spans.tiles_append`
    * `Spans.Within.length_le`, `Spans.Tiles.length_eq`
-/

namespace Spans

------------------------------------------------------------
-- Spans In A Range
------------------------------------------------------------

section Ranges

variable {X : Type}
variable (start finish : X → Int)

/- Spans that follow one another inside a range. -/
def Within : Int → Int → List X → Prop
| lower, upper, [] => lower ≤ upper
| lower, upper, x :: xs =>
    lower ≤ start x ∧ start x ≤ finish x ∧
      Within (finish x) upper xs

/- Spans that fill a range. -/
def Tiles : Int → Int → List X → Prop
| lower, upper, [] => lower = upper
| lower, upper, x :: xs =>
    lower = start x ∧ start x ≤ finish x ∧
      Tiles (finish x) upper xs

/- The time that the spans take together. -/
def length (xs : List X) : Int :=
  (xs.map (fun x => finish x - start x)).sum

variable {start finish}

variable {lower upper : Int}
variable {xs : List X}
variable {x : X}

theorem within_append
    {xs ys : List X} :
    Within start finish lower upper (xs ++ ys) ↔
      ∃ middle,
        Within start finish lower middle xs ∧
          Within start finish middle upper ys := by
  induction xs generalizing lower with
  | nil =>
      constructor
      · intro hYs
        exact ⟨lower, le_refl lower, hYs⟩
      · intro hSome
        rcases hSome with ⟨middle, hLe, hYs⟩
        have hLower : lower ≤ middle := hLe
        cases ys with
        | nil => exact hLower.trans hYs
        | cons y ys => exact ⟨hLower.trans hYs.1, hYs.2⟩
  | cons x xs ih =>
      constructor
      · intro hAll
        rcases ih.mp hAll.2.2 with ⟨middle, hXs, hYs⟩
        exact ⟨middle, ⟨hAll.1, hAll.2.1, hXs⟩, hYs⟩
      · intro hSome
        rcases hSome with ⟨middle, hXs, hYs⟩
        exact ⟨hXs.1, hXs.2.1, ih.mpr ⟨middle, hXs.2.2, hYs⟩⟩

theorem tiles_append
    {xs ys : List X} :
    Tiles start finish lower upper (xs ++ ys) ↔
      ∃ middle,
        Tiles start finish lower middle xs ∧
          Tiles start finish middle upper ys := by
  induction xs generalizing lower with
  | nil =>
      constructor
      · intro hYs
        exact ⟨lower, rfl, hYs⟩
      · intro hSome
        rcases hSome with ⟨middle, hIs, hYs⟩
        have hLower : lower = middle := hIs
        rw [hLower]
        exact hYs
  | cons x xs ih =>
      constructor
      · intro hAll
        rcases ih.mp hAll.2.2 with ⟨middle, hXs, hYs⟩
        exact ⟨middle, ⟨hAll.1, hAll.2.1, hXs⟩, hYs⟩
      · intro hSome
        rcases hSome with ⟨middle, hXs, hYs⟩
        exact ⟨hXs.1, hXs.2.1, ih.mpr ⟨middle, hXs.2.2, hYs⟩⟩

/- A range with spans in it has its ends in order. -/
theorem Within.le
    (hWithin : Within start finish lower upper xs) :
    lower ≤ upper := by
  induction xs generalizing lower with
  | nil => exact hWithin
  | cons x xs ih =>
      exact (hWithin.1.trans hWithin.2.1).trans
        (ih hWithin.2.2)

theorem Within.mono
    {lower upper higher : Int}
    (hWithin : Within start finish lower upper xs)
    (hLe : upper ≤ higher) :
    Within start finish lower higher xs := by
  induction xs generalizing lower with
  | nil => exact le_trans hWithin hLe
  | cons x xs ih =>
      exact ⟨hWithin.1, hWithin.2.1, ih hWithin.2.2⟩

/- A span that starts where the range ends. -/
theorem Within.snoc
    (hWithin : Within start finish lower (start x) xs)
    (hSpan : start x ≤ finish x)
    (hLe : finish x ≤ upper) :
    Within start finish lower upper (xs ++ [x]) :=
  within_append.mpr
    ⟨start x, hWithin, le_refl _, hSpan, hLe⟩

theorem Tiles.snoc
    {lower : Int}
    (hTiles : Tiles start finish lower (start x) xs)
    (hSpan : start x ≤ finish x) :
    Tiles start finish lower (finish x) (xs ++ [x]) :=
  tiles_append.mpr ⟨start x, hTiles, rfl, hSpan, rfl⟩

theorem Within.mem
    (hWithin : Within start finish lower upper xs)
    (hX : x ∈ xs) :
    lower ≤ start x ∧ start x ≤ finish x ∧
      finish x ≤ upper := by
  induction xs generalizing lower with
  | nil => cases hX
  | cons y ys ih =>
      rcases List.mem_cons.mp hX with hIs | hRest
      · rw [hIs]
        exact ⟨hWithin.1, hWithin.2.1, hWithin.2.2.le⟩
      · rcases ih hWithin.2.2 hRest with
          ⟨hLower, hSpan, hUpper⟩
        exact ⟨(hWithin.1.trans hWithin.2.1).trans hLower,
          hSpan, hUpper⟩

/- Each span ends before any later one starts. -/
theorem Within.pairwise
    (hWithin : Within start finish lower upper xs) :
    xs.Pairwise (fun x y => finish x ≤ start y) := by
  induction xs generalizing lower with
  | nil => exact List.Pairwise.nil
  | cons x xs ih =>
      apply List.Pairwise.cons
      · intro y hY
        exact (hWithin.2.2.mem hY).1
      · exact ih hWithin.2.2

/- The spans together are no longer than the range. -/
theorem Within.length_le
    (hWithin : Within start finish lower upper xs) :
    length start finish xs ≤ upper - lower := by
  induction xs generalizing lower with
  | nil =>
      have hLe : lower ≤ upper := hWithin
      simpa [length] using hLe
  | cons x xs ih =>
      have hRest := ih hWithin.2.2
      have hLower := hWithin.1
      unfold length at hRest ⊢
      rw [List.map_cons, List.sum_cons]
      omega

/- Spans that fill the range are as long as it is. -/
theorem Tiles.length_eq
    (hTiles : Tiles start finish lower upper xs) :
    length start finish xs = upper - lower := by
  induction xs generalizing lower with
  | nil =>
      have hIs : lower = upper := hTiles
      simp [length, hIs]
  | cons x xs ih =>
      have hRest := ih hTiles.2.2
      have hLower := hTiles.1
      unfold length at hRest ⊢
      rw [List.map_cons, List.sum_cons]
      omega

end Ranges

end Spans
