import Mathlib.Algebra.BigOperators.Group.List.Basic
import Mathlib.Algebra.Order.Ring.Int
import Mathlib.Data.List.Chain
import Mathlib.Data.List.Count
import Mathlib.Data.List.Sort
import Mathlib.Tactic.Linarith
import Mathlib.Tactic.Ring

/-
  Sorted sequences: what it means that a list is another one
  stably sorted by a key, and searching by bisection.

  `bisect` is the search loop as it runs on any list, sorted
  or not. On a list that is sorted for the question asked it
  counts the elements on the left.

  Main declarations:
    * `eq_of_keys_lt`, `keys_lt_insertionSort`
    * `filter_mergeSort`
    * `StablySorted`, `insertionSort_stablySorted`
    * `bisect`, `bisectLeft`, `bisectRight`
    * `bisect_eq_countP`
    * `take_countP`, `drop_countP`, `slice_countP`
    * `Disjointed`, `Disjointed.sum_drop`
-/

------------------------------------------------------------
-- Sorted Lists Without Repeats
------------------------------------------------------------

/- Lists in the order of their keys, by what is in them. -/
theorem eq_of_keys_lt
    {X K : Type}
    [LinearOrder K]
    {key : X → K}
    {left right : List X}
    (hLeft : (left.map key).Pairwise (· < ·))
    (hRight : (right.map key).Pairwise (· < ·))
    (hMem : ∀ x, x ∈ left ↔ x ∈ right) :
    left = right := by
  rw [List.pairwise_map] at hLeft hRight
  have hNodup {list : List X}
      (hSorted : list.Pairwise (fun x y => key x < key y)) :
      list.Nodup :=
    hSorted.imp (fun hLt hEq => hLt.ne (congrArg key hEq))
  have hPerm : left.Perm right :=
    (List.perm_ext_iff_of_nodup (hNodup hLeft)
      (hNodup hRight)).mpr hMem
  exact hPerm.eq_of_pairwise
    (fun _ _ _ _ hLt hGt => absurd hGt hLt.asymm) hLeft hRight

/- Sorting by keys that do not repeat. -/
theorem keys_lt_insertionSort
    {X K : Type}
    [LinearOrder K]
    {key : X → K}
    {list : List X}
    (hNodup : (list.map key).Nodup) :
    ((list.insertionSort (fun left right =>
      key left ≤ key right)).map key).Pairwise (· < ·) := by
  have hTotal :
      Std.Total (fun left right : X => key left ≤ key right) :=
    ⟨fun left right => le_total (key left) (key right)⟩
  have hTrans :
      IsTrans X (fun left right => key left ≤ key right) :=
    ⟨fun _ _ _ => le_trans⟩
  have hLe :=
    List.pairwise_insertionSort
      (fun left right : X => key left ≤ key right) list
  have hSorted :
      ((list.insertionSort (fun left right =>
        key left ≤ key right)).map key).Nodup :=
    ((List.perm_insertionSort _ list).map key).nodup_iff.mpr
      hNodup
  have hNe :=
    List.pairwise_map.mp (List.nodup_iff_pairwise_ne.mp hSorted)
  rw [List.pairwise_map]
  exact (hLe.and hNe).imp (fun hBoth =>
    lt_of_le_of_ne hBoth.1 hBoth.2)

------------------------------------------------------------
-- Stable Sorting
------------------------------------------------------------

section StableSorting

variable {X : Type}

/- Elements that are in order among themselves stay so. -/
theorem filter_mergeSort
    {K : Type}
    [LinearOrder K]
    (key : X → K)
    {keep : X → Bool}
    {list : List X}
    (hSorted :
      (list.filter keep).Pairwise (fun left right =>
        key left ≤ key right)) :
    (list.mergeSort (fun left right =>
        key left ≤ key right)).filter keep =
      list.filter keep := by
  have hBefore :
      (list.filter keep).Sublist
        (list.mergeSort (fun left right =>
          key left ≤ key right)) := by
    refine List.sublist_mergeSort ?_ ?_ ?_
      List.filter_sublist
    · intro x y z hLeft hRight
      exact decide_eq_true
        (le_trans (of_decide_eq_true hLeft)
          (of_decide_eq_true hRight))
    · intro x y
      simp only [Bool.or_eq_true, decide_eq_true_eq]
      exact le_total (key x) (key y)
    · exact hSorted.imp (fun hLe => decide_eq_true hLe)
  have hKept := hBefore.filter keep
  rw [List.filter_filter] at hKept
  simp only [Bool.and_self] at hKept
  exact (hKept.eq_of_length
    ((List.mergeSort_perm _ _).filter keep).length_eq.symm).symm

/-
  The second list is the first one in the order of a key,
  elements of one key in their old order.
-/
structure StablySorted
    (key : X → Int)
    (input output : List X) : Prop where
  perm : output.Perm input
  sorted :
    output.Pairwise (fun left right => key left ≤ key right)
  stable :
    ∀ value : Int,
      output.filter (fun x => key x = value) =
        input.filter (fun x => key x = value)

theorem orderedInsert_filter_key
    (key : X → Int)
    (value : Int)
    (x : X)
    (sorted : List X) :
    (sorted.orderedInsert
        (fun left right => key left ≤ key right) x).filter
          (fun x => key x = value) =
      (x :: sorted).filter (fun x => key x = value) := by
  induction sorted with
  | nil => simp
  | cons head rest ih =>
      rw [List.orderedInsert_cons]
      split
      · rfl
      next hAfter =>
        rw [List.filter_cons, ih]
        -- The head is smaller, so it is of another key.
        by_cases hHead : key head = value
        · have hOther : key x ≠ value := by omega
          simp [hHead, hOther]
        · simp [List.filter_cons, hHead]

theorem insertionSort_stablySorted
    (key : X → Int)
    (input : List X) :
    StablySorted key input
      (input.insertionSort
        (fun left right => key left ≤ key right)) where
  perm := List.perm_insertionSort _ input
  sorted := by
    have hTotal :
        Std.Total
          (fun left right : X => key left ≤ key right) :=
      ⟨fun left right => le_total (key left) (key right)⟩
    have hTrans :
        IsTrans X (fun left right => key left ≤ key right) :=
      ⟨fun _ _ _ hFirst hSecond => hFirst.trans hSecond⟩
    exact List.pairwise_insertionSort _ input
  stable := by
    intro value
    induction input with
    | nil => rfl
    | cons x rest ih =>
        rw [List.insertionSort_cons, orderedInsert_filter_key,
          List.filter_cons, List.filter_cons, ih]

end StableSorting

------------------------------------------------------------
-- Bisection
------------------------------------------------------------

section Bisection

variable {X : Type}

/-
  The search loop between two positions: it looks at the
  middle and goes on with the right half if the element
  there belongs to the left.
-/
def bisectLoop
    (before : X → Bool)
    (values : List X) : Nat → Nat → Nat → Nat
| 0, low, _ => low
| fuel + 1, low, high =>
    if low < high then
      let middle := (low + high) / 2
      if (values[middle]?).any before then
        bisectLoop before values fuel (middle + 1) high
      else
        bisectLoop before values fuel low middle
    else
      low

def bisect
    (before : X → Bool)
    (values : List X) : Nat :=
  bisectLoop before values values.length 0 values.length

/- The position before the elements equal to the value. -/
def bisectLeft
    (values : List Int)
    (value : Int) : Nat :=
  bisect (fun x => x < value) values

/- The position behind the elements equal to the value. -/
def bisectRight
    (values : List Int)
    (value : Int) : Nat :=
  bisect (fun x => !(value < x)) values

/-
  On any list the loop ends between an element that belongs
  to the left and one that does not, or at an end.
-/
theorem bisectLoop_between
    {before : X → Bool}
    {values : List X}
    {fuel low high : Nat}
    (hFuel : high - low ≤ fuel)
    (hOrder : low ≤ high)
    (hHigh : high ≤ values.length)
    (hBelow :
      low = 0 ∨ (values[low - 1]?).any before = true)
    (hAbove :
      high = values.length ∨
        (values[high]?).any before = false) :
    let found := bisectLoop before values fuel low high
    low ≤ found ∧ found ≤ high ∧
      (found = 0 ∨
        (values[found - 1]?).any before = true) ∧
      (found = values.length ∨
        (values[found]?).any before = false) := by
  induction fuel generalizing low high with
  | zero =>
      have hMeet : low = high := by omega
      subst hMeet
      exact ⟨le_refl _, le_refl _, hBelow, hAbove⟩
  | succ fuel ih =>
      rw [bisectLoop]
      split
      next hOpen =>
        simp only
        split
        next hBefore =>
          have hRest := @ih ((low + high) / 2 + 1) high
            (by omega) (by omega) hHigh
            (Or.inr (by simpa using hBefore)) hAbove
          exact ⟨by omega, hRest.2⟩
        next hAfter =>
          have hRest := @ih low ((low + high) / 2)
            (by omega) (by omega) (by omega) hBelow
            (Or.inr (by simpa using hAfter))
          exact ⟨hRest.1, by omega, hRest.2.2⟩
      next hClosed =>
        have hMeet : low = high := by omega
        subst hMeet
        exact ⟨le_refl _, le_refl _, hBelow, hAbove⟩

theorem bisect_between
    (before : X → Bool)
    (values : List X) :
    bisect before values ≤ values.length ∧
      (bisect before values = 0 ∨
        (values[bisect before values - 1]?).any before =
          true) ∧
      (bisect before values = values.length ∨
        (values[bisect before values]?).any before =
          false) :=
  (bisectLoop_between (by omega) (Nat.zero_le _) (le_refl _)
    (Or.inl rfl) (Or.inl rfl)).2

end Bisection

------------------------------------------------------------
-- Elements On The Left
------------------------------------------------------------

section LeftElements

variable {X : Type}

/- The elements that belong to the left come first. -/
def LeftFirst
    (before : X → Bool)
    (values : List X) : Prop :=
  values.Pairwise (fun left right =>
    before right = true → before left = true)

variable {before : X → Bool}
variable {values : List X}

theorem take_countP
    (hFirst : LeftFirst before values) :
    values.take (values.countP before) =
      values.filter before := by
  induction values with
  | nil => rfl
  | cons x rest ih =>
      rcases List.pairwise_cons.mp hFirst with ⟨hHead, hRest⟩
      by_cases hX : before x = true
      · rw [List.countP_cons_of_pos hX, List.take_succ_cons,
          ih hRest, List.filter_cons_of_pos hX]
      · have hNone : ∀ y ∈ rest, ¬ before y = true :=
          fun y hY hBefore => hX (hHead y hY hBefore)
        rw [List.countP_cons_of_neg hX,
          List.countP_eq_zero.mpr hNone,
          List.filter_cons_of_neg hX,
          List.filter_eq_nil_iff.mpr hNone, List.take_zero]

theorem drop_countP
    (hFirst : LeftFirst before values) :
    values.drop (values.countP before) =
      values.filter (fun x => !before x) := by
  induction values with
  | nil => rfl
  | cons x rest ih =>
      rcases List.pairwise_cons.mp hFirst with ⟨hHead, hRest⟩
      by_cases hX : before x = true
      · rw [List.countP_cons_of_pos hX, List.drop_succ_cons,
          ih hRest, List.filter_cons_of_neg (by simp [hX])]
      · have hNone : ∀ y ∈ rest, ¬ before y = true :=
          fun y hY hBefore => hX (hHead y hY hBefore)
        rw [List.countP_cons_of_neg hX,
          List.countP_eq_zero.mpr hNone, List.drop_zero]
        symm
        apply List.filter_eq_self.mpr
        intro y hY
        rcases List.mem_cons.mp hY with hIs | hIn
        · simp [hIs, hX]
        · simpa using hNone y hIn

/-
  Something holds of all elements on the left but the last
  one exactly if it holds of each that stands before another.
-/
theorem forall_take_countP_iff
    (hFirst : LeftFirst before values)
    (holds : X → Prop) :
    (∀ x ∈ values.take (values.countP before - 1), holds x) ↔
      values.Pairwise (fun left right =>
        before right = true → holds left) := by
  induction values with
  | nil => simp
  | cons x rest ih =>
      rcases List.pairwise_cons.mp hFirst with ⟨hHead, hRest⟩
      rw [List.pairwise_cons, ← ih hRest]
      by_cases hX : before x = true
      · rw [List.countP_cons_of_pos hX,
          Nat.add_sub_cancel]
        cases hCount : rest.countP before with
        | zero =>
            have hNone := List.countP_eq_zero.mp hCount
            simp only [List.take_zero, List.not_mem_nil,
              false_implies, implies_true, Nat.zero_sub,
              and_true, true_iff]
            intro next hNext hBefore
            exact absurd hBefore (hNone next hNext)
        | succ count =>
            have hSome : 0 < rest.countP before := by omega
            rcases List.countP_pos_iff.mp hSome with
              ⟨next, hNext, hBefore⟩
            simp only [List.take_succ_cons,
              List.forall_mem_cons, Nat.add_sub_cancel]
            constructor
            · intro hAll
              exact ⟨fun _ _ _ => hAll.1, hAll.2⟩
            · intro hAll
              exact ⟨hAll.1 next hNext hBefore, hAll.2⟩
      · have hNone : ∀ y ∈ rest, ¬ before y = true :=
          fun y hY hBefore => hX (hHead y hY hBefore)
        rw [List.countP_cons_of_neg hX,
          List.countP_eq_zero.mpr hNone]
        simp only [Nat.zero_sub, List.take_zero,
          List.not_mem_nil, false_implies, implies_true,
          and_true, true_iff]
        intro next hNext hBefore
        exact absurd hBefore (hNone next hNext)

/- On a sorted list bisection counts the elements. -/
theorem bisect_eq_countP
    (hFirst : LeftFirst before values) :
    bisect before values = values.countP before := by
  rcases bisect_between before values with
    ⟨hLength, hBelow, hAbove⟩
  have hCount : values.countP before ≤ values.length :=
    List.countP_le_length
  rcases lt_trichotomy (bisect before values)
    (values.countP before) with hLt | hEq | hGt
  · -- The element found is one of those on the left.
    have hInside : bisect before values < values.length := by
      omega
    have hMem :
        values[bisect before values] ∈
          values.take (values.countP before) :=
      List.mem_take_iff_getElem.mpr ⟨_, by omega, rfl⟩
    rw [take_countP hFirst] at hMem
    have hBefore := (List.mem_filter.mp hMem).2
    rcases hAbove with hEnd | hAfter
    · omega
    · rw [List.getElem?_eq_getElem hInside] at hAfter
      simp [hBefore] at hAfter
  · exact hEq
  · -- The element before it is not one of them.
    have hInside :
        bisect before values - 1 < values.length := by
      omega
    have hMem :
        values[bisect before values - 1] ∈
          values.drop (values.countP before) := by
      apply List.mem_drop_iff_getElem.mpr
      refine ⟨bisect before values - 1 -
        values.countP before, by omega, ?_⟩
      congr 1
      omega
    rw [drop_countP hFirst] at hMem
    have hAfter := (List.mem_filter.mp hMem).2
    rcases hBelow with hStart | hBefore
    · omega
    · rw [List.getElem?_eq_getElem hInside] at hBefore
      simp only [Option.any_some] at hBefore
      simp [hBefore] at hAfter

/- The part of a list from a position to before another. -/
def slice
    (values : List X)
    (first pastLast : Nat) : List X :=
  (values.take pastLast).drop first

/- A slice between two counts is a filter. -/
theorem slice_countP
    {before within : X → Bool}
    (hBefore : LeftFirst before values)
    (hWithin : LeftFirst within values)
    (hLe : ∀ x, before x = true → within x = true) :
    slice values (values.countP before)
        (values.countP within) =
      values.filter (fun x => within x && !before x) := by
  have hSub :
      (values.filter within).countP before =
        values.countP before := by
    rw [List.countP_filter]
    apply List.countP_congr
    intro x _
    simp only [Bool.and_eq_true]
    exact ⟨And.left, fun h => ⟨h, hLe x h⟩⟩
  have hPart : LeftFirst before (values.filter within) :=
    hBefore.sublist List.filter_sublist
  rw [slice, take_countP hWithin, ← hSub, drop_countP hPart,
    List.filter_filter]
  apply List.filter_congr
  intro x _
  rw [Bool.and_comm]

end LeftElements

------------------------------------------------------------
-- Bisection By A Key
------------------------------------------------------------

section Keys

variable {X : Type}
variable (key : X → Int)

variable {values : List X}

/- In the order of a key, small keys come first. -/
theorem leftFirst_lt
    (hSorted :
      values.Pairwise (fun left right =>
        key left ≤ key right))
    (value : Int) :
    LeftFirst (fun x => decide (key x < value)) values := by
  apply hSorted.imp
  intro left right hLe hRight
  simp only [decide_eq_true_eq] at hRight ⊢
  omega

theorem leftFirst_le
    (hSorted :
      values.Pairwise (fun left right =>
        key left ≤ key right))
    (value : Int) :
    LeftFirst (fun x => decide (key x ≤ value)) values := by
  apply hSorted.imp
  intro left right hLe hRight
  simp only [decide_eq_true_eq] at hRight ⊢
  omega

theorem bisectLoop_map
    {Y : Type}
    (f : Y → X)
    (before : X → Bool)
    (values : List Y)
    (fuel low high : Nat) :
    bisectLoop before (values.map f) fuel low high =
      bisectLoop (fun y => before (f y)) values fuel low
        high := by
  induction fuel generalizing low high with
  | zero => rfl
  | succ fuel ih =>
      simp only [bisectLoop, List.getElem?_map, ih,
        Option.any_map]

theorem bisectLeft_map
    (hSorted :
      values.Pairwise (fun left right =>
        key left ≤ key right))
    (value : Int) :
    bisectLeft (values.map key) value =
      values.countP (fun x => key x < value) := by
  have hMap :
      bisectLeft (values.map key) value =
        bisect (fun x => decide (key x < value)) values := by
    rw [bisectLeft, bisect, bisectLoop_map, List.length_map]
    rfl
  rw [hMap]
  exact bisect_eq_countP (leftFirst_lt key hSorted value)

theorem bisectRight_map
    (hSorted :
      values.Pairwise (fun left right =>
        key left ≤ key right))
    (value : Int) :
    bisectRight (values.map key) value =
      values.countP (fun x => key x ≤ value) := by
  have hMap :
      bisectRight (values.map key) value =
        bisect (fun x => decide (key x ≤ value)) values := by
    rw [bisectRight, bisect, bisectLoop_map, List.length_map]
    simp only [← not_lt, decide_not]
    rfl
  rw [hMap]
  exact bisect_eq_countP (leftFirst_le key hSorted value)

/- The element in front of the position is not above. -/
theorem exists_last_le
    (hSorted :
      values.Pairwise (fun left right =>
        key left ≤ key right))
    {value : Int}
    {last : Nat}
    (hCount : bisectRight (values.map key) value = last + 1) :
    ∃ x, values[last]? = some x ∧ key x ≤ value := by
  rw [bisectRight_map key hSorted] at hCount
  have hInside : last < values.length := by
    have hLe :
        values.countP (fun x => key x ≤ value) ≤
          values.length :=
      List.countP_le_length
    omega
  have hMem : values[last] ∈ values.take (last + 1) :=
    List.mem_take_iff_getElem.mpr ⟨last, by omega, rfl⟩
  rw [← hCount, take_countP (leftFirst_le key hSorted value)]
    at hMem
  refine ⟨values[last], List.getElem?_eq_getElem hInside, ?_⟩
  simpa using (List.mem_filter.mp hMem).2

end Keys

------------------------------------------------------------
-- Disjoint Intervals
------------------------------------------------------------

section Disjoint

variable {X : Type}
variable (start finish : X → Int)

/- Intervals in order, each over before the next begins. -/
def Disjointed (intervals : List X) : Prop :=
  intervals.Pairwise (fun first next =>
    start first ≤ start next ∧ finish first ≤ start next)

variable {start finish}

theorem Disjointed.sorted
    {intervals : List X}
    (hDisjoint : Disjointed start finish intervals) :
    intervals.Pairwise (fun first next =>
      start first ≤ start next) :=
  hDisjoint.imp And.left

theorem Disjointed.finish_le_start
    {intervals : List X}
    (hDisjoint : Disjointed start finish intervals)
    {position : Nat}
    {x last : X}
    (hX : x ∈ intervals.take position)
    (hLast : intervals[position]? = some last) :
    finish x ≤ start last := by
  have hDrop : last ∈ intervals.drop position := by
    rcases List.getElem?_eq_some_iff.mp hLast with
      ⟨hInside, hIs⟩
    exact List.mem_drop_iff_getElem.mpr
      ⟨0, by omega, by simpa using hIs⟩
  have hParts :
      (intervals.take position ++
        intervals.drop position).Pairwise
          (fun first next =>
            start first ≤ start next ∧
              finish first ≤ start next) := by
    rw [List.take_append_drop]
    exact hDisjoint
  exact ((List.pairwise_append.mp hParts).2.2 x hX last
    hDrop).2

/-
  What stands before the last interval that has begun by a
  time is over at that time.
-/
theorem Disjointed.finish_le
    {intervals : List X}
    (hDisjoint : Disjointed start finish intervals)
    {time : Int}
    {x : X}
    (hX :
      x ∈ intervals.take
        (bisectRight (intervals.map start) time - 1)) :
    finish x ≤ time := by
  cases hCount : bisectRight (intervals.map start) time with
  | zero =>
      rw [hCount] at hX
      simp at hX
  | succ position =>
      rw [hCount, Nat.add_sub_cancel] at hX
      rcases exists_last_le start hDisjoint.sorted hCount with
        ⟨last, hLast, hBegun⟩
      exact (hDisjoint.finish_le_start hX hLast).trans hBegun

/- Intervals that are over count nothing, and may be left. -/
theorem Disjointed.sum_drop
    {intervals : List X}
    (hDisjoint : Disjointed start finish intervals)
    {time : Int}
    {weight : X → Int}
    (hWeight : ∀ x, finish x ≤ time → weight x = 0) :
    ((intervals.drop
        (bisectRight (intervals.map start) time - 1)).map
          weight).sum =
      (intervals.map weight).sum := by
  have hOver :
      ((intervals.take
          (bisectRight (intervals.map start) time - 1)).map
            weight).sum = 0 := by
    apply List.sum_eq_zero
    intro value hValue
    rcases List.mem_map.mp hValue with ⟨x, hX, hIs⟩
    exact hIs.symm.trans (hWeight x (hDisjoint.finish_le hX))
  calc
    _ = ((intervals.take
          (bisectRight (intervals.map start) time - 1)).map
            weight).sum +
        ((intervals.drop
          (bisectRight (intervals.map start) time - 1)).map
            weight).sum := by
      rw [hOver, zero_add]
    _ = (intervals.map weight).sum := by
      rw [← List.sum_append, ← List.map_append,
        List.take_append_drop]

end Disjoint

------------------------------------------------------------
-- Searching Any List
------------------------------------------------------------

/- A search to the left is one to the right of one less. -/
theorem bisectLeft_eq_bisectRight
    (values : List Int)
    (value : Int) :
    bisectLeft values value =
      bisectRight values (value - 1) := by
  unfold bisectLeft bisectRight
  congr 1
  funext x
  rw [← decide_not]
  apply decide_eq_decide.mpr
  omega

theorem exists_below
    (values : List Int) :
    ∃ bound, ∀ value ∈ values, bound < value := by
  induction values with
  | nil => exact ⟨0, by simp⟩
  | cons first rest ih =>
      rcases ih with ⟨bound, hBound⟩
      refine ⟨min bound (first - 1), ?_⟩
      intro value hValue
      rcases List.mem_cons.mp hValue with hIs | hIn
      · omega
      · have hLt := hBound value hIn
        omega

/- What repeats and is zero far below is zero. -/
theorem eq_zero_of_repeats
    {error : Int → Int}
    {bound : Int}
    {period : Nat}
    (hPeriod : 0 < period)
    (hRepeats : ∀ x, error (x + period) = error x)
    (hBelow : ∀ x, x ≤ bound → error x = 0)
    (x : Int) :
    error x = 0 := by
  have hBack :
      ∀ n : Nat, error (x - n * period) = error x := by
    intro n
    induction n with
    | zero => simp
    | succ n ih =>
        have hStep := hRepeats (x - (n + 1 : Nat) * period)
        rw [← ih, ← hStep]
        congr 1
        push_cast
        ring
  have hFar :
      x - ((x - bound).toNat : Int) * period ≤ bound := by
    have hOne : (1 : Int) ≤ period := by omega
    have hNonneg : (0 : Int) ≤ ((x - bound).toNat : Int) :=
      Int.natCast_nonneg _
    have hLe : x - bound ≤ ((x - bound).toNat : Int) := by
      omega
    nlinarith
  rw [← hBack (x - bound).toNat]
  exact hBelow _ hFar

/-
  If the counts of all windows of one radius are right, the
  search finds the number of values up to any bound.
-/
theorem bisectRight_eq_countP_of_windows
    {values : List Int}
    (radius : Nat)
    (hWindows :
      ∀ time : Int,
        (bisectRight values (time + radius) : Int) -
            (bisectLeft values (time - radius) : Int) =
          (values.countP (fun value =>
            value ≤ time + radius) : Int) -
          (values.countP (fun value =>
            value < time - radius) : Int))
    (bound : Int) :
    bisectRight values bound =
      values.countP (fun value => value ≤ bound) := by
  rcases exists_below values with ⟨lower, hLower⟩
  have hZero :=
    @eq_zero_of_repeats
      (fun x =>
        (bisectRight values x : Int) -
          (values.countP (fun value => value ≤ x) : Int))
      lower (2 * radius + 1) (by omega)
      (by
        intro x
        have hWindow := hWindows (x + radius + 1)
        rw [bisectLeft_eq_bisectRight] at hWindow
        have hUpper :
            x + radius + 1 + radius =
              x + (2 * radius + 1 : Nat) := by
          push_cast
          ring
        have hDown : x + radius + 1 - radius - 1 = x := by
          omega
        have hBelow :
            ∀ value : Int,
              value < x + radius + 1 - radius ↔
                value ≤ x := by
          intro value
          omega
        simp only [hUpper, hDown, hBelow] at hWindow
        omega)
      (by
        intro x hX
        -- Below all values both counts are zero.
        have hNone :
            ∀ value ∈ values, ¬ value ≤ x := by
          intro value hValue hLe
          have hGt := hLower value hValue
          omega
        have hCount :
            values.countP (fun value => value ≤ x) = 0 := by
          apply List.countP_eq_zero.mpr
          simpa using hNone
        have hFirst :
            LeftFirst (fun value => !decide (x < value))
              values := by
          apply List.pairwise_of_forall_mem_list
          intro left hLeft right hRight hBefore
          have hNot := hNone right hRight
          simp only [Bool.not_eq_true',
            decide_eq_false_iff_not] at hBefore
          omega
        have hSearch : bisectRight values x = 0 := by
          rw [bisectRight, bisect_eq_countP hFirst]
          apply List.countP_eq_zero.mpr
          intro value hValue
          have hNot := hNone value hValue
          simp only [Bool.not_eq_true',
            decide_eq_false_iff_not]
          omega
        rw [hCount, hSearch]
        rfl)
      bound
  omega

/- In a strictly increasing list, a value and those before. -/
theorem countP_le_middle
    {before after : List Int}
    {middle : Int}
    (hSorted :
      (before ++ middle :: after).Pairwise (· < ·)) :
    (before ++ middle :: after).countP
        (fun value => value ≤ middle) =
      before.length + 1 := by
  rcases List.pairwise_append.mp hSorted with
    ⟨-, hRest, hAcross⟩
  have hBefore :
      before.countP (fun value => value ≤ middle) =
        before.length := by
    apply List.countP_eq_length.mpr
    intro value hValue
    have hLt := hAcross value hValue middle List.mem_cons_self
    simp only [decide_eq_true_eq]
    omega
  have hAfter :
      after.countP (fun value => value ≤ middle) = 0 := by
    apply List.countP_eq_zero.mpr
    intro value hValue
    have hLt := (List.pairwise_cons.mp hRest).1 value hValue
    simp only [decide_eq_true_eq]
    omega
  simp [hBefore, hAfter]

/- Among distinct values every count has its bound. -/
theorem exists_bound_of_nodup
    {values : List Int}
    (hNodup : values.Nodup)
    {count : Nat}
    (hCount : count < values.length) :
    ∃ bound,
      values.countP (fun value => value ≤ bound) =
        count + 1 := by
  have hPerm :
      (values.insertionSort (· ≤ ·)).Perm values :=
    List.perm_insertionSort _ values
  have hLength : count < (values.insertionSort (· ≤ ·)).length := by
    rw [hPerm.length_eq]
    exact hCount
  have hStrict :
      (values.insertionSort (· ≤ ·)).Pairwise (· < ·) := by
    have hLe :=
      List.pairwise_insertionSort (· ≤ ·) values
    have hNe : (values.insertionSort (· ≤ ·)).Nodup :=
      hPerm.nodup_iff.mpr hNodup
    exact (hLe.and hNe).imp
      (fun hBoth => lt_of_le_of_ne hBoth.1 hBoth.2)
  have hParts :
      (values.insertionSort (· ≤ ·)).take count ++
          (values.insertionSort (· ≤ ·))[count] ::
            (values.insertionSort (· ≤ ·)).drop (count + 1) =
        values.insertionSort (· ≤ ·) := by
    rw [List.getElem_cons_drop, List.take_append_drop]
  refine ⟨(values.insertionSort (· ≤ ·))[count], ?_⟩
  rw [← hParts] at hStrict
  have hMiddle := countP_le_middle hStrict
  rw [hParts, hPerm.countP_eq, List.length_take] at hMiddle
  omega

/-
  If the search is right for every bound, each place between
  two neighbours is found, and they are in order.
-/
theorem sorted_of_bisectRight
    {values : List Int}
    (hNodup : values.Nodup)
    (hSearch :
      ∀ bound,
        bisectRight values bound =
          values.countP (fun value => value ≤ bound)) :
    values.Pairwise (· < ·) := by
  apply List.isChain_iff_pairwise.mp
  apply List.isChain_iff_getElem.mpr
  intro i hI
  rcases exists_bound_of_nodup hNodup
    (Nat.lt_of_succ_lt hI) with ⟨bound, hBound⟩
  rcases bisect_between
      (fun value => !decide (bound < value)) values with
    ⟨-, hBelow, hAbove⟩
  have hFound :
      bisect (fun value => !decide (bound < value)) values =
        i + 1 :=
    (hSearch bound).trans hBound
  rw [hFound] at hBelow hAbove
  have hLeft : values[i] ≤ bound := by
    rcases hBelow with hZero | hSome
    · omega
    · simpa [Nat.lt_of_succ_lt hI] using hSome
  have hRight : bound < values[i + 1] := by
    rcases hAbove with hEnd | hSome
    · omega
    · simpa [hI] using hSome
  omega
