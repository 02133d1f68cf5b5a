import Mathlib.Data.List.Basic
import Mathlib.Logic.Function.Basic

/-
  Undoing a sequence of writes by a fixed compensation.

  A store maps indices to values.  The writes of a failed
  transaction are undone by writing a compensation to each
  written index.  The compensation does not know the old
  values: it may only depend on what every write leaves
  alone, and then the outcome is the compensation of the
  value before the transaction.

  Main declarations:
    * `write`, `writeAll`, `compensate`
    * `writeAll_of_not_mem`
    * `writeAll_compensation`
    * `compensate_writeAll`
-/

------------------------------------------------------------
-- Writes
------------------------------------------------------------

namespace Rollback

section

variable {I A : Type}
variable [DecidableEq I]

/- Change the value of one index. -/
def write (store : I → A) (i : I) (f : A → A) : I → A :=
  Function.update store i (f (store i))

/- Change the values of several indices, one by one. -/
def writeAll
    (store : I → A)
    (writes : List (I × (A → A))) : I → A :=
  writes.foldl (fun store w => write store w.1 w.2) store

/- Write the compensation to each index of a list. -/
def compensate
    (undo : A → A)
    (store : I → A)
    (indices : List I) : I → A :=
  writeAll store (indices.map (fun i => (i, undo)))

@[simp] theorem writeAll_nil
    (store : I → A) :
    writeAll store [] = store := rfl

@[simp] theorem writeAll_cons
    (store : I → A)
    (w : I × (A → A))
    (writes : List (I × (A → A))) :
    writeAll store (w :: writes) =
      writeAll (write store w.1 w.2) writes := rfl

/- An index that no write names keeps its value. -/
theorem writeAll_of_not_mem
    {writes : List (I × (A → A))}
    {i : I}
    (hFresh : i ∉ writes.map Prod.fst)
    (store : I → A) :
    writeAll store writes i = store i := by
  induction writes generalizing store with
  | nil => rfl
  | cons w writes ih =>
      rw [List.map_cons, List.mem_cons, not_or] at hFresh
      rw [writeAll_cons, ih hFresh.2, write,
        Function.update_of_ne hFresh.1]

end

------------------------------------------------------------
-- Compensation
------------------------------------------------------------

variable {I A : Type}
variable [DecidableEq I]

/- Writes that the compensation absorbs stay invisible to it. -/
theorem writeAll_compensation
    {undo : A → A}
    {writes : List (I × (A → A))}
    (hAbsorbed : ∀ w ∈ writes, ∀ a, undo (w.2 a) = undo a)
    (store : I → A)
    (i : I) :
    undo (writeAll store writes i) = undo (store i) := by
  induction writes generalizing store with
  | nil => rfl
  | cons w writes ih =>
      have hHead := hAbsorbed w (List.mem_cons_self ..)
      have hTail :=
        ih (fun v hMember =>
          hAbsorbed v (List.mem_cons_of_mem _ hMember))
      rw [writeAll_cons, hTail, write]
      by_cases hIndex : i = w.1
      · rw [hIndex, Function.update_self, hHead]
      · rw [Function.update_of_ne hIndex]

theorem compensate_apply
    {undo : A → A}
    (hTwice : ∀ a, undo (undo a) = undo a)
    (store : I → A)
    (indices : List I)
    (i : I) :
    compensate undo store indices i =
      if i ∈ indices then undo (store i) else store i := by
  unfold compensate
  induction indices generalizing store with
  | nil => simp
  | cons j indices ih =>
      rw [List.map_cons, writeAll_cons, ih, write]
      by_cases hIndex : i = j
      · subst hIndex
        simp [hTwice]
      · rw [Function.update_of_ne hIndex]
        simp [hIndex]

/-
  A transaction that is compensated at every written index
  leaves the compensation of the old values there, and the
  old values elsewhere.
-/
theorem compensate_writeAll
    {undo : A → A}
    (hTwice : ∀ a, undo (undo a) = undo a)
    {writes : List (I × (A → A))}
    (hAbsorbed : ∀ w ∈ writes, ∀ a, undo (w.2 a) = undo a)
    (store : I → A)
    (i : I) :
    compensate undo (writeAll store writes)
        (writes.map Prod.fst) i =
      if i ∈ writes.map Prod.fst then undo (store i)
      else store i := by
  rw [compensate_apply hTwice]
  split
  · exact writeAll_compensation hAbsorbed store i
  next hFresh => exact writeAll_of_not_mem hFresh store

end Rollback
