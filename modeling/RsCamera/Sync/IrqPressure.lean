import Mathlib.Algebra.Order.Archimedean.Real.Basic
import Mathlib.Algebra.Order.Floor.Ring
import Mathlib.Data.List.Induction
import Mathlib.Data.List.Sort
import Mathlib.Data.Rat.Floor
import Mathlib.Order.Bounds.Basic

/-
  The pressure of interrupts
  (`compare_usb_irq_pressure.py`).

  The distances to the nearest partner, the busiest window
  and the counts of fixed bins are each found in one pass
  over sorted timestamps.  Divisions are exact here.

  Key definitions include:
    * `nearestDeltasUs`
    * `slidingWindowMax`
    * `binCounts`, `binnedConcentration`

  Key theorems include:
    * `nearestLoop_spec`
    * `slidingWindowMax_spec`
    * `binCounts_spec`
    * `irqPressure_exact`
-/

------------------------------------------------------------
-- The Passes
------------------------------------------------------------

namespace RsCamera

namespace Sync

/-
  The pointer moves on while the partner behind it is not
  later than the timestamp.
-/
def advance (timestamp : Int) : List Int → Nat → Nat
| [], index => index
| next :: rest, index =>
    if next ≤ timestamp then
      advance timestamp rest (index + 1)
    else
      index

/- The distance to the partner at the pointer, or behind it. -/
def nearestDelta
    (right : List Int)
    (index : Nat)
    (timestamp : Int) : Int :=
  let candidate := |timestamp - right.getD index 0|
  match right[index + 1]? with
  | none => candidate
  | some next => min candidate |timestamp - next|

/- The loop over the left list. -/
def nearestLoop (right : List Int) : Nat → List Int → List ℚ
| _, [] => []
| index, timestamp :: left =>
    let index :=
      advance timestamp (right.drop (index + 1)) index
    (nearestDelta right index timestamp : ℚ) / 1000 ::
      nearestLoop right index left

/- `nearest_deltas_us`. -/
def nearestDeltasUs (left right : List Int) : List ℚ :=
  if left = [] ∨ right = [] then
    []
  else
    nearestLoop right 0 left

/- The deque `active`, and `maximum`. -/
structure Window where
  active : List Int
  maximum : Nat
deriving DecidableEq, Repr

/- One interrupt of the loop. -/
def Window.push
    (widthNs : Int)
    (window : Window)
    (timestamp : Int) : Window :=
  let active :=
    (window.active ++ [timestamp]).dropWhile (fun first =>
      widthNs ≤ timestamp - first)
  { active := active
    maximum := max window.maximum active.length }

/- `sliding_window_max`. -/
def slidingWindowMax
    (timestamps : List Int)
    (widthNs : Int) : Nat :=
  (timestamps.foldl (Window.push widthNs) ⟨[], 0⟩).maximum

/- `percentile`. -/
def percentile (values : List ℚ) (quantile : ℚ) : ℚ :=
  let ordered := values.insertionSort (· ≤ ·)
  if ordered = [] then
    0
  else
    let position := quantile * ((ordered.length - 1 : Nat) : ℚ)
    let lower := ⌊position⌋.toNat
    let upper := min (lower + 1) (ordered.length - 1)
    let fraction := position - lower
    ordered.getD lower 0 * (1 - fraction) +
      ordered.getD upper 0 * fraction

/- `counts[index] += 1`; an index below zero is from the end. -/
def addAt
    (counts : List Nat)
    (index : Int) : Except String (List Nat) :=
  let place :=
    if index < 0 then index + counts.length else index
  if 0 ≤ place ∧ place < counts.length then
    .ok (counts.modify place.toNat (· + 1))
  else
    .error "list index out of range"

/- The number of bins. -/
def binCount (startNs endNs widthNs : Int) : Nat :=
  (max 1 ⌈((endNs - startNs : Int) : ℚ) / widthNs⌉).toNat

/- The interrupts of each bin. -/
def binCounts
    (timestamps : List Int)
    (startNs endNs widthNs : Int) :
    Except String (List Nat) :=
  let bins := binCount startNs endNs widthNs
  timestamps.foldlM
    (fun counts timestamp =>
      addAt counts
        (min ((timestamp - startNs).fdiv widthNs)
          ((bins : Int) - 1)))
    (List.replicate bins 0)

/- What the function returns. -/
structure Concentration where
  widthUs : ℚ
  bins : Nat
  meanCount : ℚ
  p99Count : ℚ
  maxCount : Nat
  zeroFraction : ℚ
  fanoFactor : ℚ
  slidingMaxCount : Nat
deriving DecidableEq

/- `binned_concentration`. -/
def binnedConcentration
    (timestamps : List Int)
    (startNs endNs widthNs : Int) :
    Except String Concentration := do
  let counts ← binCounts timestamps startNs endNs widthNs
  let bins := binCount startNs endNs widthNs
  let floatCounts := counts.map (fun count => (count : ℚ))
  let mean := floatCounts.sum / counts.length
  let variance :=
    (floatCounts.map (fun count =>
      (count - mean) * (count - mean))).sum / counts.length
  .ok
    { widthUs := (widthNs : ℚ) / 1000
      bins := bins
      meanCount := mean
      p99Count := percentile floatCounts (99 / 100)
      maxCount := counts.max?.getD 0
      zeroFraction :=
        (counts.countP (fun count => count = 0) : ℚ) / bins
      fanoFactor := if mean = 0 then 0 else variance / mean
      slidingMaxCount := slidingWindowMax timestamps widthNs }

------------------------------------------------------------
-- The Nearest Partner
------------------------------------------------------------

section Nearest

variable {right : List Int}

/-
  Where the pointer stands: the partners up to it, but for
  the first one, are not later than the timestamp.
-/
structure Reached
    (right : List Int)
    (timestamp : Int)
    (index : Nat) : Prop where
  inside : index < right.length
  passed :
    ∀ j, 1 ≤ j → j ≤ index →
      ∀ partner ∈ right[j]?, partner ≤ timestamp

theorem Reached.mono
    {timestamp later : Int}
    {index : Nat}
    (hReached : Reached right timestamp index)
    (hLe : timestamp ≤ later) :
    Reached right later index where
  inside := hReached.inside
  passed := by
    intro j hFrom hTo partner hPartner
    exact (hReached.passed j hFrom hTo partner hPartner).trans
      hLe

/- The pointer stops in front of a partner that is later. -/
theorem advance_spec
    {timestamp : Int}
    {index : Nat}
    {rest : List Int}
    (hRest : right.drop (index + 1) = rest)
    (hReached : Reached right timestamp index) :
    Reached right timestamp (advance timestamp rest index) ∧
      ∀ next ∈ right[advance timestamp rest index + 1]?,
        timestamp < next := by
  induction rest generalizing index with
  | nil =>
      rw [advance]
      refine ⟨hReached, ?_⟩
      intro next hNext
      have hEnd := List.drop_eq_nil_iff.mp hRest
      rw [List.getElem?_eq_none hEnd] at hNext
      cases hNext
  | cons next rest ih =>
      have hNext : right[index + 1]? = some next := by
        rw [← List.head?_drop, hRest]
        rfl
      rw [advance]
      split
      next hLe =>
        apply ih
        · rw [← List.drop_drop, hRest]
          rfl
        · rcases List.getElem?_eq_some_iff.mp hNext with
            ⟨hInside, -⟩
          refine ⟨hInside, ?_⟩
          intro j hFrom hTo partner hPartner
          by_cases hHere : j = index + 1
          · rw [hHere, hNext, Option.mem_some_iff] at hPartner
            rw [← hPartner]
            exact hLe
          · exact hReached.passed j hFrom (by omega) partner
              hPartner
      next hLater =>
        refine ⟨hReached, ?_⟩
        intro other hOther
        rw [hNext, Option.mem_some_iff] at hOther
        omega

/- No partner is nearer than the two at the pointer. -/
theorem nearestDelta_isLeast
    {timestamp : Int}
    {index : Nat}
    (hSorted : right.Pairwise (· ≤ ·))
    (hReached : Reached right timestamp index)
    (hStop :
      ∀ next ∈ right[index + 1]?, timestamp < next) :
    IsLeast
      {delta | ∃ partner ∈ right,
        delta = |timestamp - partner|}
      (nearestDelta right index timestamp) := by
  have hInside := hReached.inside
  have hHere : right.getD index 0 = right[index] := by
    simp [hInside]
  have hOrder :
      ∀ i j (hI : i < right.length) (hJ : j < right.length),
        i ≤ j → right[i] ≤ right[j] := by
    intro i j hI hJ hLe
    rcases Nat.eq_or_lt_of_le hLe with hSame | hLess
    · subst hSame
      exact le_refl _
    · exact List.pairwise_iff_getElem.mp hSorted i j hI hJ
        hLess
  -- Up to the pointer, the partner at it is the nearest.
  have hBefore :
      ∀ j (hJ : j < right.length), j ≤ index →
        |timestamp - right[index]| ≤
          |timestamp - right[j]| := by
    intro j hJ hLe
    by_cases hSame : j = index
    · subst hSame
      exact le_refl _
    · have hPassed :=
        hReached.passed index (by omega) (Nat.le_refl _)
          right[index] (by simp [hInside])
      have hLower := hOrder j index hJ hInside hLe
      rw [abs_of_nonneg (by omega), abs_of_nonneg (by omega)]
      omega
  unfold nearestDelta
  rw [hHere]
  cases hNext : right[index + 1]? with
  | none =>
      have hEnd := List.getElem?_eq_none_iff.mp hNext
      constructor
      · exact ⟨right[index], List.getElem_mem hInside, rfl⟩
      · rintro delta ⟨partner, hPartner, hDelta⟩
        rcases List.getElem_of_mem hPartner with ⟨j, hJ, hIs⟩
        rw [hDelta, ← hIs]
        exact hBefore j hJ (by omega)
  | some next =>
      rcases List.getElem?_eq_some_iff.mp hNext with
        ⟨hBehind, hIs⟩
      have hLater := hStop next (by simp [hNext])
      constructor
      · rcases min_choice |timestamp - right[index]|
          |timestamp - next| with hMin | hMin
        · exact ⟨right[index], List.getElem_mem hInside, hMin⟩
        · refine ⟨next, ?_, hMin⟩
          rw [← hIs]
          exact List.getElem_mem hBehind
      · rintro delta ⟨partner, hPartner, hDelta⟩
        rcases List.getElem_of_mem hPartner with ⟨j, hJ, hAt⟩
        rw [hDelta, ← hAt]
        by_cases hSide : j ≤ index
        · exact (min_le_left _ _).trans (hBefore j hJ hSide)
        · have hUpper :=
            hOrder (index + 1) j hBehind hJ (by omega)
          refine (min_le_right _ _).trans ?_
          rw [abs_of_neg (by omega), abs_of_neg (by omega)]
          omega

theorem nearestLoop_spec
    {left : List Int}
    {index : Nat}
    (hSorted : right.Pairwise (· ≤ ·))
    (hLeft : left.Pairwise (· ≤ ·))
    (hReached :
      ∀ timestamp ∈ left.head?,
        Reached right timestamp index) :
    List.Forall₂
      (fun timestamp delta =>
        ∃ nearest : Int, delta = (nearest : ℚ) / 1000 ∧
          IsLeast
            {delta | ∃ partner ∈ right,
              delta = |timestamp - partner|} nearest)
      left (nearestLoop right index left) := by
  induction left generalizing index with
  | nil => exact List.Forall₂.nil
  | cons timestamp left ih =>
      rw [List.pairwise_cons] at hLeft
      have hHere := hReached timestamp (by simp)
      rcases advance_spec rfl hHere with ⟨hNow, hStop⟩
      rw [nearestLoop]
      refine List.Forall₂.cons
        ⟨_, rfl, nearestDelta_isLeast hSorted hNow hStop⟩
        (ih hLeft.2 ?_)
      intro later hLater
      exact hNow.mono
        (hLeft.1 later (List.mem_of_head? hLater))

end Nearest

------------------------------------------------------------
-- The Busiest Window
------------------------------------------------------------

section Windows

variable {widthNs : Int}

/- The timestamps of the window that ends at a time. -/
def recent (widthNs now : Int) (done : List Int) : List Int :=
  done.filter (fun timestamp => now - widthNs < timestamp)

/- On a sorted list, what is dropped is what is too early. -/
theorem dropWhile_eq_recent
    {now : Int}
    {timestamps : List Int}
    (hSorted : timestamps.Pairwise (· ≤ ·)) :
    timestamps.dropWhile (fun first =>
        widthNs ≤ now - first) =
      recent widthNs now timestamps := by
  unfold recent
  induction timestamps with
  | nil => rfl
  | cons first rest ih =>
      rw [List.pairwise_cons] at hSorted
      by_cases hEarly : widthNs ≤ now - first
      · rw [List.dropWhile_cons_of_pos (by simpa using hEarly),
          List.filter_cons_of_neg (by simp; omega),
          ih hSorted.2]
      · rw [List.dropWhile_cons_of_neg (by simpa using hEarly),
          List.filter_eq_self.mpr]
        intro other hOther
        rw [decide_eq_true_eq]
        rcases List.mem_cons.mp hOther with hIs | hLater
        · omega
        · have hLe := hSorted.1 other hLater
          omega

/-
  The deque holds what later windows can need, and the
  maximum is that of the windows so far.
-/
structure WindowOf
    (widthNs : Int)
    (done : List Int)
    (window : Window) : Prop where
  sublist : window.active.Sublist done
  active :
    ∀ now, (∀ timestamp ∈ done, timestamp ≤ now) →
      recent widthNs now window.active =
        recent widthNs now done
  bound :
    ∀ earlier now later, done = earlier ++ now :: later →
      (recent widthNs now (earlier ++ [now])).length ≤
        window.maximum
  attained :
    (done = [] ∧ window.maximum = 0) ∨
      ∃ earlier now later, done = earlier ++ now :: later ∧
        window.maximum =
          (recent widthNs now (earlier ++ [now])).length

theorem windowOf_nil : WindowOf widthNs [] ⟨[], 0⟩ where
  sublist := List.Sublist.refl _
  active := fun _ _ => rfl
  bound := by simp
  attained := Or.inl ⟨rfl, rfl⟩

theorem WindowOf.push
    {done : List Int}
    {window : Window}
    {now : Int}
    (hWindow : WindowOf widthNs done window)
    (hSorted : (done ++ [now]).Pairwise (· ≤ ·)) :
    WindowOf widthNs (done ++ [now])
      (window.push widthNs now) := by
  have hSublist :
      (window.active ++ [now]).Sublist (done ++ [now]) :=
    hWindow.sublist.append (List.Sublist.refl _)
  have hLast : ∀ timestamp ∈ done, timestamp ≤ now := by
    intro timestamp hIn
    exact (List.pairwise_append.mp hSorted).2.2 timestamp hIn
      now List.mem_cons_self
  have hAppend :
      ∀ later, now ≤ later →
        recent widthNs later (window.active ++ [now]) =
          recent widthNs later (done ++ [now]) := by
    intro later hLater
    have hSame := hWindow.active later (fun timestamp hIn =>
      (hLast timestamp hIn).trans hLater)
    unfold recent at hSame ⊢
    rw [List.filter_append, List.filter_append, hSame]
  have hActive :
      (window.push widthNs now).active =
        recent widthNs now (done ++ [now]) := by
    rw [← hAppend now (le_refl _)]
    exact dropWhile_eq_recent (hSorted.sublist hSublist)
  have hMaximum :
      (window.push widthNs now).maximum =
        max window.maximum
          (recent widthNs now (done ++ [now])).length := by
    rw [← hActive]
    rfl
  refine
    { sublist := ?_
      active := ?_
      bound := ?_
      attained := ?_ }
  · rw [hActive]
    exact List.filter_sublist
  · intro later hLater
    have hNow := hLater now (by simp)
    rw [hActive]
    unfold recent
    rw [List.filter_filter]
    apply List.filter_congr
    intro timestamp _
    rw [← Bool.decide_and, decide_eq_decide]
    omega
  · intro earlier at' later hSplit
    rw [hMaximum]
    rcases List.eq_nil_or_concat later with hNil | hConcat
    · subst hNil
      have hParts := List.append_inj' hSplit rfl
      rw [← hParts.1, ← (List.cons.inj hParts.2).1]
      exact le_max_right _ _
    · rcases hConcat with ⟨between, final, hIs⟩
      subst hIs
      have hFront : done = earlier ++ at' :: between := by
        have hWhole :
            done ++ [now] =
              (earlier ++ at' :: between) ++ [final] := by
          simpa using hSplit
        exact (List.append_inj' hWhole rfl).1
      exact (hWindow.bound earlier at' between hFront).trans
        (le_max_left _ _)
  · right
    rw [hMaximum]
    rcases max_choice window.maximum
      (recent widthNs now (done ++ [now])).length with
      hOld | hNew
    · rcases hWindow.attained with
        ⟨hNone, hZero⟩ | ⟨earlier, at', later, hSplit, hIs⟩
      · refine ⟨done, now, [], rfl, ?_⟩
        rw [hZero]
        exact Nat.zero_max _
      · refine ⟨earlier, at', later ++ [now], ?_, ?_⟩
        · rw [hSplit]
          simp
        · rw [hOld, hIs]
    · exact ⟨done, now, [], rfl, hNew⟩

theorem windowOf_foldl
    (timestamps : List Int)
    (hSorted : timestamps.Pairwise (· ≤ ·)) :
    WindowOf widthNs timestamps
      (timestamps.foldl (Window.push widthNs) ⟨[], 0⟩) := by
  induction timestamps using List.reverseRecOn with
  | nil => exact windowOf_nil
  | append_singleton done now ih =>
      rw [List.foldl_append, List.foldl_cons, List.foldl_nil]
      exact (ih (List.pairwise_append.mp hSorted).1).push
        hSorted

/- The timestamps in a half-open interval. -/
def inInterval (first widthNs : Int) (timestamps : List Int) :
    Nat :=
  timestamps.countP (fun timestamp =>
    first ≤ timestamp ∧ timestamp < first + widthNs)

/- The last element that meets a condition. -/
theorem exists_last_of_countP_pos
    {X : Type}
    {p : X → Bool}
    {xs : List X}
    (hSome : 0 < xs.countP p) :
    ∃ earlier x later,
      xs = earlier ++ x :: later ∧ p x = true ∧
        later.countP p = 0 := by
  induction xs using List.reverseRecOn with
  | nil => simp at hSome
  | append_singleton xs x ih =>
      by_cases hHere : p x = true
      · exact ⟨xs, x, [], rfl, hHere, rfl⟩
      · rw [List.countP_append,
          List.countP_singleton, if_neg hHere] at hSome
        rcases ih hSome with
          ⟨earlier, y, later, hSplit, hY, hNone⟩
        refine ⟨earlier, y, later ++ [x], ?_, hY, ?_⟩
        · rw [hSplit]
          simp
        · rw [List.countP_append, hNone,
            List.countP_singleton, if_neg hHere]

theorem slidingWindowMax_spec
    {timestamps : List Int}
    (hSorted : timestamps.Pairwise (· ≤ ·)) :
    (∀ first, inInterval first widthNs timestamps ≤
        slidingWindowMax timestamps widthNs) ∧
      ∃ first, inInterval first widthNs timestamps =
        slidingWindowMax timestamps widthNs := by
  have hWindow := @windowOf_foldl widthNs timestamps hSorted
  have hBound :
      ∀ first, inInterval first widthNs timestamps ≤
        slidingWindowMax timestamps widthNs := by
    intro first
    rcases Nat.eq_zero_or_pos
      (inInterval first widthNs timestamps) with hNone | hSome
    · rw [hNone]
      exact Nat.zero_le _
    · -- The window that ends at the last one in the interval.
      rcases exists_last_of_countP_pos hSome with
        ⟨earlier, now, later, hSplit, hNow, hLater⟩
      refine Nat.le_trans ?_
        (hWindow.bound earlier now later hSplit)
      unfold inInterval recent
      rw [hSplit, List.append_cons earlier now later, List.countP_append,
        hLater, Nat.add_zero, ← List.countP_eq_length_filter]
      apply List.countP_mono_left
      intro timestamp _ hIn
      rw [decide_eq_true_eq] at hNow hIn ⊢
      omega
  refine ⟨hBound, ?_⟩
  rcases hWindow.attained with
    ⟨hNone, hZero⟩ | ⟨earlier, now, later, hSplit, hIs⟩
  · refine ⟨0, ?_⟩
    unfold slidingWindowMax
    rw [hZero, hNone]
    rfl
  · refine ⟨now - widthNs + 1, Nat.le_antisymm (hBound _) ?_⟩
    unfold slidingWindowMax
    rw [hIs]
    unfold inInterval recent
    rw [hSplit, List.append_cons earlier now later, List.countP_append,
      ← List.countP_eq_length_filter]
    refine Nat.le_trans (List.countP_mono_left ?_)
      (Nat.le_add_right _ _)
    intro timestamp hIn hRecent
    have hLe : timestamp ≤ now := by
      rw [hSplit, List.append_cons earlier now later] at hSorted
      have hFront := (List.pairwise_append.mp hSorted).1
      rcases List.mem_append.mp hIn with hEarlier | hLast
      · exact (List.pairwise_append.mp hFront).2.2 timestamp
          hEarlier now List.mem_cons_self
      · rw [List.mem_singleton.mp hLast]
    rw [decide_eq_true_eq] at hRecent ⊢
    omega

end Windows

------------------------------------------------------------
-- Bins
------------------------------------------------------------

section Bins

variable {startNs endNs widthNs : Int}

theorem sum_modify
    {counts : List Nat}
    {place : Nat}
    (hPlace : place < counts.length) :
    (counts.modify place (· + 1)).sum = counts.sum + 1 := by
  induction counts generalizing place with
  | nil => simp at hPlace
  | cons count counts ih =>
      cases place with
      | zero =>
          rw [List.modify_zero_cons, List.sum_cons,
            List.sum_cons]
          omega
      | succ place =>
          rw [List.modify_succ_cons, List.sum_cons,
            List.sum_cons, ih (by simpa using hPlace)]
          omega

theorem getD_modify
    {counts : List Nat}
    {place : Nat}
    (hPlace : place < counts.length)
    (i : Nat) :
    (counts.modify place (· + 1)).getD i 0 =
      counts.getD i 0 + if place = i then 1 else 0 := by
  rw [List.getD_eq_getElem?_getD, List.getD_eq_getElem?_getD,
    List.getElem?_modify]
  by_cases hSame : place = i
  · subst hSame
    simp [hPlace]
  · simp [hSame]

/- The bin of a timestamp, before it is clamped. -/
def bin (startNs widthNs timestamp : Int) : Int :=
  (timestamp - startNs).fdiv widthNs

theorem bin_eq_iff
    (hWidth : 0 < widthNs)
    {timestamp i : Int} :
    bin startNs widthNs timestamp = i ↔
      startNs + i * widthNs ≤ timestamp ∧
        timestamp < startNs + i * widthNs + widthNs := by
  unfold bin
  rw [Int.fdiv_eq_ediv_of_nonneg _ hWidth.le]
  have hLower :
      i ≤ (timestamp - startNs) / widthNs ↔
        i * widthNs ≤ timestamp - startNs :=
    Int.le_ediv_iff_mul_le hWidth
  have hUpper :
      (timestamp - startNs) / widthNs < i + 1 ↔
        timestamp - startNs < (i + 1) * widthNs :=
    Int.ediv_lt_iff_lt_mul hWidth
  rw [add_mul, one_mul] at hUpper
  omega

/- No timestamp before the end is clamped. -/
theorem bin_lt_binCount
    (hWidth : 0 < widthNs)
    {timestamp : Int}
    (hEnd : timestamp < endNs) :
    bin startNs widthNs timestamp <
      binCount startNs endNs widthNs := by
  have hWidthQ : (0 : ℚ) < widthNs := by exact_mod_cast hWidth
  have hBin :=
    ((@bin_eq_iff startNs widthNs hWidth timestamp _).mp
      rfl).1
  have hBinQ :
      (bin startNs widthNs timestamp : ℚ) * widthNs <
        ((endNs - startNs : Int) : ℚ) := by
    exact_mod_cast (by omega :
      bin startNs widthNs timestamp * widthNs <
        endNs - startNs)
  have hCeil :
      bin startNs widthNs timestamp <
        ⌈((endNs - startNs : Int) : ℚ) / widthNs⌉ := by
    rw [Int.lt_ceil, lt_div_iff₀ hWidthQ]
    exact hBinQ
  unfold binCount
  omega

theorem one_le_binCount : 1 ≤ binCount startNs endNs widthNs := by
  unfold binCount
  omega

/- Each timestamp is counted in its bin. -/
theorem addAt_bin
    (hWidth : 0 < widthNs)
    {timestamp : Int}
    (hStart : startNs ≤ timestamp)
    (hEnd : timestamp < endNs)
    {counts : List Nat}
    (hLength :
      counts.length = binCount startNs endNs widthNs) :
    addAt counts
        (min (bin startNs widthNs timestamp)
          ((binCount startNs endNs widthNs : Int) - 1)) =
      .ok (counts.modify
        (bin startNs widthNs timestamp).toNat (· + 1)) := by
  have hUpper := @bin_lt_binCount startNs endNs widthNs hWidth
    timestamp hEnd
  have hLower : 0 ≤ bin startNs widthNs timestamp := by
    unfold bin
    exact Int.fdiv_nonneg (by omega) hWidth.le
  rw [min_eq_left (by omega)]
  unfold addAt
  simp only [if_neg (not_lt.mpr hLower)]
  rw [if_pos ⟨hLower, by omega⟩]

theorem binCounts_foldlM
    (hWidth : 0 < widthNs)
    {timestamps : List Int}
    (hInside :
      ∀ timestamp ∈ timestamps,
        startNs ≤ timestamp ∧ timestamp < endNs)
    {counts : List Nat}
    (hLength :
      counts.length = binCount startNs endNs widthNs) :
    ∃ filled,
      timestamps.foldlM
          (fun counts timestamp =>
            addAt counts
              (min (bin startNs widthNs timestamp)
                ((binCount startNs endNs widthNs : Int) - 1)))
          counts =
        .ok filled ∧
      filled.length = binCount startNs endNs widthNs ∧
      filled.sum = counts.sum + timestamps.length ∧
      ∀ i : Nat,
        filled.getD i 0 =
          counts.getD i 0 +
            inInterval (startNs + i * widthNs) widthNs
              timestamps := by
  induction timestamps generalizing counts with
  | nil => exact ⟨counts, rfl, hLength, rfl, fun _ => rfl⟩
  | cons timestamp timestamps ih =>
      rw [List.forall_mem_cons] at hInside
      have hUpper :=
        @bin_lt_binCount startNs endNs widthNs hWidth timestamp
          hInside.1.2
      have hLower : 0 ≤ bin startNs widthNs timestamp :=
        Int.fdiv_nonneg (by omega) hWidth.le
      have hPlace :
          (bin startNs widthNs timestamp).toNat <
            counts.length := by
        omega
      rcases @ih hInside.2
        (counts.modify (bin startNs widthNs timestamp).toNat
          (· + 1)) (by rw [List.length_modify, hLength]) with
        ⟨filled, hFold, hFilled, hSum, hBins⟩
      refine ⟨filled, ?_, hFilled, ?_, ?_⟩
      · rw [List.foldlM_cons,
          addAt_bin hWidth hInside.1.1 hInside.1.2 hLength]
        exact hFold
      · rw [hSum, sum_modify hPlace, List.length_cons]
        omega
      · intro i
        have hHere :=
          @bin_eq_iff startNs widthNs hWidth timestamp i
        rw [hBins i, getD_modify hPlace i]
        have hSame :
            startNs + i * widthNs ≤ timestamp ∧
                timestamp < startNs + i * widthNs + widthNs ↔
              (bin startNs widthNs timestamp).toNat = i := by
          rw [← hHere]
          omega
        unfold inInterval
        rw [List.countP_cons]
        simp only [decide_eq_true_eq, hSame]
        omega

/- The counts of the bins are those of their intervals. -/
theorem binCounts_spec
    (hWidth : 0 < widthNs)
    {timestamps : List Int}
    (hInside :
      ∀ timestamp ∈ timestamps,
        startNs ≤ timestamp ∧ timestamp < endNs) :
    ∃ counts,
      binCounts timestamps startNs endNs widthNs =
        .ok counts ∧
      counts.length = binCount startNs endNs widthNs ∧
      counts.sum = timestamps.length ∧
      ∀ count ∈ counts, ∃ i : Nat,
        count =
          inInterval (startNs + i * widthNs) widthNs
            timestamps := by
  rcases @binCounts_foldlM startNs endNs widthNs hWidth
    timestamps hInside
    (List.replicate (binCount startNs endNs widthNs) 0)
    (by simp) with ⟨counts, hFold, hLength, hSum, hBins⟩
  refine ⟨counts, hFold, hLength, by simpa using hSum, ?_⟩
  intro count hCount
  rcases List.getElem_of_mem hCount with ⟨i, hI, hIs⟩
  refine ⟨i, ?_⟩
  have hHere := hBins i
  rw [List.getD_eq_getElem?_getD,
    List.getElem?_eq_getElem hI, Option.getD_some, hIs]
    at hHere
  have hZero :
      (List.replicate (binCount startNs endNs widthNs)
        0).getD i 0 = 0 := by
    rw [List.getD_eq_getElem?_getD, List.getElem?_replicate]
    split
    · rfl
    · rfl
  rw [hHere, hZero, Nat.zero_add]

end Bins

------------------------------------------------------------
-- What The Passes Find
------------------------------------------------------------

/- A half-open interval holds the integers of an integer one. -/
theorem inInterval_real
    (first : ℝ)
    (widthNs : Int)
    (timestamps : List Int) :
    timestamps.countP (fun timestamp : Int =>
        first ≤ timestamp ∧ (timestamp : ℝ) < first + widthNs) =
      inInterval ⌈first⌉ widthNs timestamps := by
  unfold inInterval
  apply List.countP_congr
  intro timestamp _
  rw [decide_eq_true_eq, decide_eq_true_eq, Int.ceil_le]
  have hUpper :
      (timestamp : ℝ) < first + widthNs ↔
        timestamp - widthNs < ⌈first⌉ := by
    rw [Int.lt_ceil, Int.cast_sub, sub_lt_iff_lt_add]
  rw [hUpper, sub_lt_iff_lt_add]

theorem inInterval_real'
    (first : ℝ)
    (widthNs : Int)
    (timestamps : List Int) :
    timestamps.countP (fun timestamp : Int =>
        first < timestamp ∧ (timestamp : ℝ) ≤ first + widthNs) =
      inInterval (⌊first⌋ + 1) widthNs timestamps := by
  unfold inInterval
  apply List.countP_congr
  intro timestamp _
  rw [decide_eq_true_eq, decide_eq_true_eq, ← Int.floor_lt]
  have hUpper :
      (timestamp : ℝ) ≤ first + widthNs ↔
        timestamp - widthNs ≤ ⌊first⌋ := by
    rw [Int.le_floor, Int.cast_sub, sub_le_iff_le_add]
  rw [hUpper]
  omega

theorem irqPressure_exact :
    (∀ left right : List Int,
      left.Pairwise (· ≤ ·) → right.Pairwise (· ≤ ·) →
        (right = [] → nearestDeltasUs left right = []) ∧
        (right ≠ [] →
          List.Forall₂
            (fun timestamp delta =>
              ∃ nearest : Int, delta = (nearest : ℚ) / 1000 ∧
                IsLeast
                  {delta | ∃ partner ∈ right,
                    delta = |timestamp - partner|} nearest)
            left (nearestDeltasUs left right))) ∧
    (∀ (timestamps : List Int) (widthNs : Int),
      timestamps.Pairwise (· ≤ ·) → 0 < widthNs →
        IsGreatest
            {count | ∃ first : ℝ,
              count = timestamps.countP (fun timestamp : Int =>
                first ≤ timestamp ∧
                  (timestamp : ℝ) < first + widthNs)}
            (slidingWindowMax timestamps widthNs) ∧
          IsGreatest
            {count | ∃ first : ℝ,
              count = timestamps.countP (fun timestamp : Int =>
                first < timestamp ∧
                  (timestamp : ℝ) ≤ first + widthNs)}
            (slidingWindowMax timestamps widthNs)) ∧
    ∀ (timestamps : List Int) (startNs endNs widthNs : Int),
      timestamps.Pairwise (· ≤ ·) → 0 < widthNs →
        (∀ timestamp ∈ timestamps,
          startNs ≤ timestamp ∧ timestamp < endNs) →
        ∃ counts report,
          binCounts timestamps startNs endNs widthNs =
              .ok counts ∧
            binnedConcentration timestamps startNs endNs
                widthNs =
              .ok report ∧
            counts.sum = timestamps.length ∧
            counts.max? = some report.maxCount ∧
            report.slidingMaxCount =
              slidingWindowMax timestamps widthNs ∧
            report.maxCount ≤ report.slidingMaxCount := by
  refine ⟨?_, ?_, ?_⟩
  · intro left right hLeft hRight
    constructor
    · intro hNone
      unfold nearestDeltasUs
      rw [if_pos (Or.inr hNone)]
    · intro hSome
      unfold nearestDeltasUs
      split
      next hEmpty =>
        have hNil : left = [] := hEmpty.resolve_right hSome
        subst hNil
        exact List.Forall₂.nil
      next =>
        apply nearestLoop_spec hRight hLeft
        intro timestamp _
        exact
          { inside := List.length_pos_iff.mpr hSome
            passed := by omega }
  · intro timestamps widthNs hSorted _
    rcases @slidingWindowMax_spec widthNs timestamps hSorted
      with ⟨hBound, first, hFirst⟩
    constructor
    · constructor
      · refine ⟨(first : ℝ), ?_⟩
        rw [inInterval_real, Int.ceil_intCast, hFirst]
      · rintro count ⟨start, hCount⟩
        rw [hCount, inInterval_real]
        exact hBound _
    · constructor
      · refine ⟨((first - 1 : Int) : ℝ), ?_⟩
        rw [inInterval_real', Int.floor_intCast,
          sub_add_cancel, hFirst]
      · rintro count ⟨start, hCount⟩
        rw [hCount, inInterval_real']
        exact hBound _
  · intro timestamps startNs endNs widthNs hSorted hWidth
      hInside
    rcases binCounts_spec hWidth hInside with
      ⟨counts, hCounts, hLength, hSum, hBins⟩
    have hSome : counts ≠ [] := by
      intro hNil
      have hBins := @one_le_binCount startNs endNs widthNs
      rw [hNil, List.length_nil] at hLength
      omega
    rcases Option.isSome_iff_exists.mp
      (List.isSome_max?_iff.mpr hSome) with ⟨most, hMost⟩
    unfold binnedConcentration
    rw [hCounts]
    refine ⟨counts, _, rfl, rfl, hSum, ?_, rfl, ?_⟩
    · rw [hMost]
      rfl
    · rcases hBins most (List.max?_mem hMost) with ⟨i, hIs⟩
      simp only [hMost, Option.getD_some]
      rw [hIs]
      exact (slidingWindowMax_spec hSorted).1 _

end Sync

end RsCamera
