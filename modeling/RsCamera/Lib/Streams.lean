import Mathlib.Algebra.BigOperators.Group.List.Basic
import Mathlib.Algebra.Order.Ring.Int
import Mathlib.Data.List.Induction
import RsCamera.Lib.Dict

/-
  Breaks in numbered streams that arrive interleaved.

  Every element belongs to the stream of its key and has a
  number.  `detect` remembers the last number of each key
  and reports the elements that do not continue it.  What is
  reported for a key are the breaks between neighbours in
  its own stream.

  Main declarations:
    * `neighbours`, `sum_neighbours`
    * `detect`, `Detection.breaks`
    * `previous_detect`, `breaks_detect`
    * `breaks_relabel`
-/

------------------------------------------------------------
-- Neighbours
------------------------------------------------------------

namespace Streams

section Neighbours

variable {X : Type}

def neighbours (own : List X) : List (X × X) :=
  own.zip own.tail

@[simp] theorem neighbours_cons_cons
    (a b : X)
    (rest : List X) :
    neighbours (a :: b :: rest) =
      (a, b) :: neighbours (b :: rest) := rfl

theorem neighbours_concat
    {own : List X}
    {last : X}
    (hLast : own.getLast? = some last)
    (x : X) :
    neighbours (own ++ [x]) =
      neighbours own ++ [(last, x)] := by
  induction own with
  | nil => simp at hLast
  | cons a rest ih =>
      cases rest with
      | nil =>
          simp only [List.getLast?_singleton,
            Option.some.injEq] at hLast
          subst hLast
          rfl
      | cons b rest =>
          have hTail : (b :: rest).getLast? = some last := by
            simpa using hLast
          have hRest := ih hTail
          simp only [List.cons_append] at hRest ⊢
          simp [hRest]

theorem neighbours_map
    {Y : Type}
    (f : X → Y)
    (own : List X) :
    neighbours (own.map f) =
      (neighbours own).map (Prod.map f f) := by
  unfold neighbours
  rw [← List.map_tail, List.zip_map]

/- What is missing between the numbers of a growing stream. -/
theorem sum_neighbours
    {numbers : List Int}
    {first last : Int}
    (hFirst : numbers.head? = some first)
    (hLast : numbers.getLast? = some last)
    (hIncreasing : numbers.Pairwise (· < ·)) :
    ((neighbours numbers).map (fun pair =>
        max 0 (pair.2 - pair.1 - 1))).sum =
      last - first + 1 - numbers.length := by
  induction numbers generalizing first with
  | nil => simp at hFirst
  | cons a rest ih =>
      simp only [List.head?_cons, Option.some.injEq] at hFirst
      subst hFirst
      cases rest with
      | nil =>
          simp only [List.getLast?_singleton,
            Option.some.injEq] at hLast
          subst hLast
          simp [neighbours]
      | cons b rest =>
          have hTail : (b :: rest).getLast? = some last := by
            simpa using hLast
          rcases List.pairwise_cons.mp hIncreasing with
            ⟨hAbove, hRest⟩
          have hLess : a < b := hAbove b List.mem_cons_self
          have hSum := ih List.head?_cons hTail hRest
          have hMissing : max 0 (b - a - 1) = b - a - 1 := by
            apply max_eq_right
            omega
          rw [neighbours_cons_cons, List.map_cons,
            List.sum_cons, hSum]
          simp only [hMissing, List.length_cons]
          omega

end Neighbours

------------------------------------------------------------
-- Detection
------------------------------------------------------------

section Detect

variable {K X : Type}
variable [DecidableEq K]

/- The last numbers, and the breaks with the number before. -/
structure Detection (K X : Type) where
  previous : Dict K Int
  breaks : List (Int × X)

variable (key : X → K)
variable (number : X → Int)

def detectStep
    (state : Detection K X)
    (x : X) : Detection K X where
  previous := state.previous.set (key x) (number x)
  breaks :=
    match state.previous.get? (key x) with
    | none => state.breaks
    | some last =>
        if number x ≠ last + 1 then
          state.breaks ++ [(last, x)]
        else
          state.breaks

def detect (xs : List X) : Detection K X :=
  xs.foldl (detectStep key number) { previous := ∅, breaks := [] }

/- The breaks between the neighbours of one stream. -/
def breaksOf (own : List X) : List (Int × X) :=
  ((neighbours own).filter (fun pair =>
    number pair.2 ≠ number pair.1 + 1)).map (fun pair =>
      (number pair.1, pair.2))

theorem detect_concat
    (xs : List X)
    (x : X) :
    detect key number (xs ++ [x]) =
      detectStep key number (detect key number xs) x := by
  simp [detect]

theorem previous_detect
    (xs : List X)
    (k : K) :
    (detect key number xs).previous.get? k =
      (xs.filter (fun x => key x = k)).getLast?.map number := by
  induction xs using List.reverseRecOn with
  | nil => simp [detect, Dict.get?]
  | append_singleton xs x ih =>
      rw [detect_concat, detectStep, Dict.get?_set,
        List.filter_append]
      by_cases hKey : k = key x
      · subst hKey
        simp
      · simp [hKey, Ne.symm hKey, ih]

theorem breaksOf_concat
    {own : List X}
    {last : X}
    (hLast : own.getLast? = some last)
    (x : X) :
    breaksOf number (own ++ [x]) =
      if number x ≠ number last + 1 then
        breaksOf number own ++ [(number last, x)]
      else
        breaksOf number own := by
  unfold breaksOf
  rw [neighbours_concat hLast, List.filter_append,
    List.map_append]
  by_cases hNext : number x = number last + 1
  · simp [hNext]
  · simp [hNext]

/- The breaks of a key are those of its own stream. -/
theorem breaks_detect
    (xs : List X)
    (k : K) :
    (detect key number xs).breaks.filter
        (fun found => key found.2 = k) =
      breaksOf number (xs.filter (fun x => key x = k)) := by
  induction xs using List.reverseRecOn with
  | nil => simp [detect, breaksOf, neighbours]
  | append_singleton xs x ih =>
      rw [detect_concat, detectStep, previous_detect,
        List.filter_append]
      by_cases hKey : key x = k
      · subst hKey
        cases hLast :
            (xs.filter (fun y => key y = key x)).getLast? with
        | none =>
            rw [List.getLast?_eq_none_iff] at hLast
            rw [hLast] at ih
            simpa [hLast, breaksOf, neighbours] using ih
        | some last =>
            simp only [Option.map_some, decide_true,
              List.filter_cons_of_pos, List.filter_nil]
            rw [breaksOf_concat number hLast, ← ih]
            split
            · simp
            · rfl
      · -- An element of another stream.
        have hNone : [x].filter (fun y => key y = k) = [] := by
          simp [hKey]
        rw [hNone, List.append_nil, ← ih]
        split
        · rfl
        · split
          · simp [hKey]
          · rfl

variable {L : Type}
variable [DecidableEq L]

/- Only the names of the keys are changed. -/
theorem breaks_map
    {label : K → L}
    (hLabel : Function.Injective label)
    (xs : List X) :
    (detect key number xs).breaks.map (fun found =>
        (found.1, label (key found.2), number found.2)) =
      (detect Prod.fst Prod.snd
        (xs.map (fun x => (label (key x), number x)))).breaks := by
  induction xs using List.reverseRecOn with
  | nil => simp [detect]
  | append_singleton xs x ih =>
      have hPrevious :
          (detect Prod.fst Prod.snd (xs.map (fun y =>
              (label (key y), number y)))).previous.get?
                (label (key x)) =
            (detect key number xs).previous.get? (key x) := by
        rw [previous_detect, previous_detect, List.filter_map,
          List.getLast?_map, Option.map_map]
        simp [Function.comp_def, hLabel.eq_iff]
      rw [detect_concat, List.map_append, List.map_singleton,
        detect_concat, detectStep, detectStep, ← ih]
      simp only [hPrevious]
      split
      · rfl
      · split
        · simp
        · rfl

/- Streams with the same numbers have the same breaks. -/
theorem breaks_relabel
    {Y : Type}
    {key' : Y → L}
    {number' : Y → Int}
    {label : K → L}
    (hLabel : Function.Injective label)
    {xs : List X}
    {ys : List Y}
    (hSame :
      xs.map (fun x => (label (key x), number x)) =
        ys.map (fun y => (key' y, number' y))) :
    (detect key number xs).breaks.map (fun found =>
        (found.1, label (key found.2), number found.2)) =
      (detect key' number' ys).breaks.map (fun found =>
        (found.1, key' found.2, number' found.2)) := by
  have hOther :=
    breaks_map key' number' Function.injective_id ys
  simp only [id] at hOther
  rw [breaks_map key number hLabel, hSame, hOther]

end Detect

end Streams
