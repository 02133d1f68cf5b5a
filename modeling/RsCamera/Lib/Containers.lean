import Mathlib.Algebra.BigOperators.Group.Finset.Basic
import Mathlib.Algebra.BigOperators.Group.List.Basic
import Mathlib.Algebra.GroupWithZero.Nat
import Mathlib.Data.List.Count
import Mathlib.Data.List.Forall2
import Mathlib.Data.List.Induction
import Mathlib.Data.List.SplitBy

/-
  Fixed-width words, growable vectors with an explicit
  capacity, and totals over the values of an ordered map.

  A `GrowVector` records the capacity of its allocation, so
  that a program which promises never to reallocate can be
  checked against it: `GrowVector.pushBack` grows a full
  allocation, as the C++ container does.

  Main declarations:
    * `u64`, `u64Sub`
    * `GrowVector`, `GrowVector.pushBack`
    * `mapTotal`
    * `mapTotal_insert_of_getElem?`, `mapTotal_congr`
    * `keyedFold`, `keyedFold_getElem?`
    * `exists_left_of_mem`, `filter_eq_singleton`
    * `splitBy_extend`
    * `bind_eq_ok`, `foldlM_concat_eq_ok`, `forM_eq_ok_iff`
    * `mapM_eq_ok_iff`, `mapM_ok_iff`
-/

------------------------------------------------------------
-- Fixed-Width Words
------------------------------------------------------------

/- The value kept by an unsigned 64-bit register. -/
def u64 (value : Nat) : Nat :=
  value % 2 ^ 64

/- Unsigned 64-bit subtraction, which wraps below zero. -/
def u64Sub (left right : Nat) : Nat :=
  (left + 2 ^ 64 - right) % 2 ^ 64

theorem u64_lt
    (value : Nat) :
    u64 value < 2 ^ 64 :=
  Nat.mod_lt value (by decide)

theorem u64_of_lt
    {value : Nat}
    (hValue : value < 2 ^ 64) :
    u64 value = value :=
  Nat.mod_eq_of_lt hValue

theorem u64Sub_of_le
    {left right : Nat}
    (hLeft : left < 2 ^ 64)
    (hLe : right ≤ left) :
    u64Sub left right = left - right := by
  unfold u64Sub
  omega

------------------------------------------------------------
-- Vectors With A Capacity
------------------------------------------------------------

/- A vector together with the size of its allocation. -/
structure GrowVector (X : Type) where
  items : List X := []
  capacity : Nat := 0
deriving Repr, DecidableEq

namespace GrowVector

variable {X : Type}

instance : Inhabited (GrowVector X) :=
  ⟨{}⟩

/- The number of stored elements. -/
def size (v : GrowVector X) : Nat :=
  v.items.length

/- Whether the next append would have to reallocate. -/
def full (v : GrowVector X) : Bool :=
  v.capacity ≤ v.size

/- Append one element; a full allocation is doubled. -/
def pushBack (v : GrowVector X) (x : X) : GrowVector X where
  items := v.items ++ [x]
  capacity :=
    if v.full then max 1 (2 * v.capacity) else v.capacity

/- Set the size, padding with the default element. -/
def resize
    [Inhabited X]
    (v : GrowVector X)
    (n : Nat) : GrowVector X where
  items :=
    v.items.take n ++ List.replicate (n - v.size) default
  capacity := max v.capacity n

/- Drop the elements and keep the allocation. -/
def clear (v : GrowVector X) : GrowVector X where
  items := []
  capacity := v.capacity

@[simp] theorem size_pushBack
    (v : GrowVector X)
    (x : X) :
    (v.pushBack x).size = v.size + 1 := by
  simp [pushBack, size]

@[simp] theorem items_pushBack
    (v : GrowVector X)
    (x : X) :
    (v.pushBack x).items = v.items ++ [x] := rfl

/- An append below the capacity does not reallocate. -/
theorem capacity_pushBack_of_not_full
    {v : GrowVector X}
    (hRoom : v.full = false)
    (x : X) :
    (v.pushBack x).capacity = v.capacity := by
  simp [pushBack, hRoom]

theorem full_eq_false_iff
    {v : GrowVector X} :
    v.full = false ↔ v.size < v.capacity := by
  simp [full]

end GrowVector

------------------------------------------------------------
-- Ordered Pairs
------------------------------------------------------------

section OrderedPairs

variable {A B : Type}
variable [Ord A] [Ord B]

/- Pairs are compared by their first parts, then the second. -/
instance pairOrd : Ord (A × B) := lexOrd

variable [Std.TransOrd A] [Std.TransOrd B]

instance pairTransOrd : Std.TransOrd (A × B) :=
  inferInstanceAs (Std.TransCmp
    (compareLex (compareOn Prod.fst) (compareOn Prod.snd)))

variable [Std.LawfulEqOrd A] [Std.LawfulEqOrd B]

omit [Std.TransOrd A] [Std.TransOrd B] in
theorem eq_of_compare_pair
    {left right : A × B}
    (hEq : compare left right = .eq) :
    left = right := by
  have hBoth := compareLex_eq_eq.mp hEq
  exact Prod.ext
    (Std.LawfulEqOrd.eq_of_compare hBoth.1)
    (Std.LawfulEqOrd.eq_of_compare hBoth.2)

instance pairLawfulEqOrd : Std.LawfulEqOrd (A × B) where
  eq_of_compare := eq_of_compare_pair

end OrderedPairs

------------------------------------------------------------
-- Totals Over Ordered Maps
------------------------------------------------------------

section MapTotals

variable {K V : Type}
variable [Ord K] [Std.TransOrd K] [Std.LawfulEqOrd K]
variable [DecidableEq K]

/- The total of a weight over the values of a map. -/
def mapTotal
    (weight : V → Nat)
    (m : Std.TreeMap K V) : Nat :=
  (m.toList.map (fun entry => weight entry.2)).sum

/-
  Replacing the value of a present key changes a total by
  the difference of the two weights.
-/
theorem mapTotal_insert_of_getElem?
    (weight : V → Nat)
    {m : Std.TreeMap K V}
    {k : K}
    {old : V}
    (hOld : m[k]? = some old)
    (new : V) :
    mapTotal weight (m.insert k new) + weight old =
      mapTotal weight m + weight new := by
  have hSame : (m.insert k old).toList.Perm m.toList := by
    apply Std.TreeMap.equiv_iff_toList_perm.mp
    apply Std.TreeMap.Equiv.of_forall_constGet?_eq
    intro k'
    rw [Std.TreeMap.getElem?_insert]
    split
    · next hEq =>
        rw [← Std.LawfulEqOrd.eq_of_compare hEq, hOld]
    · rfl
  have hRest :=
    hSame.symm.trans Std.TreeMap.toList_insert_perm
  have hBefore :=
    (hRest.map (fun entry => weight entry.2)).sum_eq
  have hAfter :=
    ((Std.TreeMap.toList_insert_perm (t := m) (k := k)
      (v := new)).map (fun entry => weight entry.2)).sum_eq
  simp only [List.map_cons, List.sum_cons] at hBefore hAfter
  unfold mapTotal
  omega

/- A map of weightless values has no total. -/
omit [DecidableEq K] in
theorem mapTotal_eq_zero
    (weight : V → Nat)
    {m : Std.TreeMap K V}
    (hZero : ∀ (k : K) v, m[k]? = some v → weight v = 0) :
    mapTotal weight m = 0 := by
  unfold mapTotal
  apply List.sum_eq_zero
  intro total hTotal
  rcases List.mem_map.mp hTotal with ⟨entry, hEntry, rfl⟩
  exact hZero entry.1 entry.2
    (Std.TreeMap.mem_toList_iff_getElem?_eq_some.mp hEntry)

/- The weight a map gives to a key, zero where absent. -/
def keyWeight
    (weight : V → Nat)
    (m : Std.TreeMap K V)
    (k : K) : Nat :=
  (m[k]?.map weight).getD 0

/- A total is a sum over any finite set with all the keys. -/
theorem mapTotal_eq_sum
    (weight : V → Nat)
    (m : Std.TreeMap K V)
    {keys : Finset K}
    (hKeys : ∀ (k : K), k ∈ m → k ∈ keys) :
    mapTotal weight m = ∑ k ∈ keys, keyWeight weight m k := by
  have hEntries :
      m.toList.map (fun entry => weight entry.2) =
        m.keys.map (keyWeight weight m) := by
    rw [← Std.TreeMap.map_fst_toList_eq_keys, List.map_map]
    apply List.map_congr_left
    intro entry hEntry
    have hGet :=
      Std.TreeMap.mem_toList_iff_getElem?_eq_some.mp hEntry
    simp [keyWeight, hGet]
  have hNodup : m.keys.Nodup := Std.TreeMap.nodup_keys
  have hSubset : m.keys.toFinset ⊆ keys := by
    intro k hk
    exact hKeys k
      (Std.TreeMap.mem_keys.mp (List.mem_toFinset.mp hk))
  unfold mapTotal
  rw [hEntries, ← List.sum_toFinset _ hNodup]
  apply Finset.sum_subset hSubset
  intro k _ hAbsent
  have hNone : m[k]? = none := by
    apply Std.TreeMap.getElem?_eq_none
    intro hMem
    exact hAbsent
      (List.mem_toFinset.mpr (Std.TreeMap.mem_keys.mpr hMem))
  simp [keyWeight, hNone]

/- Maps that weigh every key equally have equal totals. -/
theorem mapTotal_congr
    {W : Type}
    (weight : V → Nat)
    (weight' : W → Nat)
    {m : Std.TreeMap K V}
    {m' : Std.TreeMap K W}
    (hWeights :
      ∀ k, keyWeight weight m k = keyWeight weight' m' k) :
    mapTotal weight m = mapTotal weight' m' := by
  let keys := m.keys.toFinset ∪ m'.keys.toFinset
  have hLeft : ∀ (k : K), k ∈ m → k ∈ keys := by
    intro k hk
    apply Finset.mem_union_left
    exact List.mem_toFinset.mpr (Std.TreeMap.mem_keys.mpr hk)
  have hRight : ∀ (k : K), k ∈ m' → k ∈ keys := by
    intro k hk
    apply Finset.mem_union_right
    exact List.mem_toFinset.mpr (Std.TreeMap.mem_keys.mpr hk)
  rw [mapTotal_eq_sum weight m hLeft,
    mapTotal_eq_sum weight' m' hRight]
  exact Finset.sum_congr rfl (fun k _ => hWeights k)

/- A wrapping fold over the values is the wrapped total. -/
omit [Std.TransOrd K] [Std.LawfulEqOrd K] [DecidableEq K] in
theorem foldl_u64_eq_mapTotal
    (weight : V → Nat)
    (m : Std.TreeMap K V) :
    m.foldl (fun total _ value => u64 (total + weight value))
        0 =
      u64 (mapTotal weight m) := by
  have hFold :
      ∀ (entries : List (K × V)) (total : Nat),
        total < 2 ^ 64 →
        entries.foldl
            (fun total entry =>
              u64 (total + weight entry.2)) total =
          u64 (total + (entries.map
            (fun entry => weight entry.2)).sum) := by
    intro entries
    induction entries with
    | nil =>
        intro total hTotal
        simpa using (u64_of_lt hTotal).symm
    | cons entry entries ih =>
        intro total _
        rw [List.foldl_cons, ih _ (u64_lt _), List.map_cons,
          List.sum_cons]
        unfold u64
        omega
  rw [Std.TreeMap.foldl_eq_foldl_toList,
    hFold m.toList 0 (by decide), Nat.zero_add]
  rfl

end MapTotals

------------------------------------------------------------
-- Keyed Folds
------------------------------------------------------------

section KeyedFolds

variable {K V E : Type}
variable [Ord K] [Std.TransOrd K] [Std.LawfulEqOrd K]
variable [DecidableEq K]

/-
  Fold a list of records into a map: each record updates the
  value of its own key, starting from a default value.
-/
def keyedFold
    (key : E → K)
    (f : V → E → V)
    (start : V)
    (records : List E) : Std.TreeMap K V :=
  records.foldl
    (fun m record =>
      m.insert (key record)
        (f (m.getD (key record) start) record)) ∅

/-
  The value a keyed fold leaves under a key depends only on
  the records of that key.
-/
theorem keyedFold_getElem?
    (key : E → K)
    (f : V → E → V)
    (start : V)
    (records : List E)
    (k : K) :
    (keyedFold key f start records)[k]? =
      if records.filter (fun record => key record = k) = []
      then none
      else
        some ((records.filter
          (fun record => key record = k)).foldl f start) := by
  induction records using List.reverseRecOn with
  | nil => simp [keyedFold]
  | append_singleton records record ih =>
      unfold keyedFold at ih ⊢
      rw [List.foldl_append, List.foldl_cons, List.foldl_nil,
        Std.TreeMap.getElem?_insert]
      by_cases hKey : key record = k
      · subst hKey
        rw [Std.TreeMap.getD_eq_getD_getElem?, ih]
        by_cases hOwn :
            records.filter
              (fun other => key other = key record) = []
        · simp [List.filter_append, hOwn]
        · simp [List.filter_append, hOwn]
      · have hOther : compare (key record) k ≠ .eq := by
          intro hEq
          exact hKey (Std.LawfulEqOrd.eq_of_compare hEq)
        simp [hOther, ih, List.filter_append, hKey]

end KeyedFolds

------------------------------------------------------------
-- Related Lists
------------------------------------------------------------

/- Every element of the second list has a partner. -/
theorem exists_left_of_mem
    {X Y : Type}
    {R : X → Y → Prop}
    {xs : List X}
    {ys : List Y}
    (hRelated : List.Forall₂ R xs ys)
    {y : Y}
    (hMember : y ∈ ys) :
    ∃ x ∈ xs, R x y := by
  induction hRelated with
  | nil => cases hMember
  | @cons x y' xs ys hHead hTail ih =>
      rcases List.mem_cons.mp hMember with hEq | hRest
      · exact ⟨x, List.mem_cons_self .., hEq ▸ hHead⟩
      · rcases ih hRest with ⟨other, hOther, hAt⟩
        exact ⟨other, List.mem_cons_of_mem _ hOther, hAt⟩

/- Distinct images single out an element. -/
theorem filter_eq_singleton
    {X Y : Type}
    [DecidableEq Y]
    {f : X → Y}
    {xs : List X}
    (hNodup : (xs.map f).Nodup)
    {x : X}
    (hMember : x ∈ xs) :
    xs.filter (fun y => f y = f x) = [x] := by
  induction xs with
  | nil => cases hMember
  | cons y xs ih =>
      rw [List.map_cons, List.nodup_cons] at hNodup
      rcases List.mem_cons.mp hMember with hEq | hRest
      · have hNone : xs.filter (fun z => f z = f y) = [] := by
          rw [List.filter_eq_nil_iff]
          intro z hZ hSame
          apply hNodup.1
          rw [← of_decide_eq_true hSame]
          exact List.mem_map_of_mem hZ
        rw [hEq, List.filter_cons_of_pos (by simp), hNone]
      · have hOther : f y ≠ f x := by
          intro hSame
          apply hNodup.1
          rw [hSame]
          exact List.mem_map_of_mem hRest
        rw [List.filter_cons_of_neg (by simpa using hOther)]
        exact ih hNodup.2 hRest

/- The part before a separator that occurs once. -/
theorem append_cons_inj
    {X : Type}
    {c : X}
    {left left' right right' : List X}
    (hLeft : c ∉ left)
    (hLeft' : c ∉ left')
    (hEq : left ++ c :: right = left' ++ c :: right') :
    left = left' ∧ right = right' := by
  induction left generalizing left' with
  | nil =>
      cases left' with
      | nil => simpa using hEq
      | cons d rest =>
          simp only [List.nil_append, List.cons_append,
            List.cons.injEq] at hEq
          exact absurd (by simp [hEq.1]) hLeft'
  | cons d rest ih =>
      cases left' with
      | nil =>
          simp only [List.nil_append, List.cons_append,
            List.cons.injEq] at hEq
          exact absurd (by simp [hEq.1]) hLeft
      | cons e rest' =>
          simp only [List.cons_append, List.cons.injEq] at hEq
          rw [List.mem_cons, not_or] at hLeft hLeft'
          rcases ih hLeft.2 hLeft'.2 hEq.2 with
            ⟨hRest, hRight⟩
          exact ⟨by rw [hEq.1, hRest], hRight⟩

/- A run that goes on is extended by the next element. -/
theorem splitBy_extend
    {X : Type}
    {same : X → X → Bool}
    {elements run : List X}
    {runs : List (List X)}
    (hRuns : elements.splitBy same = runs ++ [run])
    {x : X}
    (hLast : ∀ y ∈ run.getLast?, same y x = true) :
    (elements ++ [x]).splitBy same = runs ++ [run ++ [x]] := by
  rcases List.splitBy_eq_iff.mp hRuns with
    ⟨hFlat, hNil, hChain, hBreaks⟩
  have hRun : run ≠ [] := by
    intro hEmpty
    exact hNil (by simp [hEmpty])
  rw [List.isChain_append] at hBreaks
  rcases hBreaks with ⟨hBefore, -, hBetween⟩
  apply List.splitBy_eq_iff.mpr
  refine ⟨?_, ?_, ?_, ?_⟩
  · simp [hFlat]
  · intro hMember
    rcases List.mem_append.mp hMember with hEarly | hEnd
    · exact hNil (List.mem_append_left _ hEarly)
    · simp at hEnd
  · intro other hMember
    rcases List.mem_append.mp hMember with hEarly | hEnd
    · exact hChain other (List.mem_append_left _ hEarly)
    · rw [List.mem_singleton.mp hEnd, List.isChain_append]
      refine ⟨hChain run (by simp), List.isChain_singleton x, ?_⟩
      intro y hY z hZ
      cases hZ
      exact hLast y hY
  · rw [List.isChain_append]
    refine ⟨hBefore, List.isChain_singleton _, ?_⟩
    intro early hEarly late hLate
    cases hLate
    rcases hBetween early hEarly run (by simp) with
      ⟨hSome, _, hBreak⟩
    refine ⟨hSome, by simp, ?_⟩
    rw [List.head_append_of_ne_nil hRun]
    exact hBreak

------------------------------------------------------------
-- Computations That May Fail
------------------------------------------------------------

/- A computation that succeeds has succeeded step by step. -/
theorem bind_eq_ok
    {E X Y : Type}
    {first : Except E X}
    {rest : X → Except E Y}
    {y : Y} :
    (first >>= rest) = .ok y ↔
      ∃ x, first = .ok x ∧ rest x = .ok y := by
  cases first with
  | error e => simp [bind, Except.bind]
  | ok x => simp [bind, Except.bind]

/- A loop that may fail, with its last step split off. -/
theorem foldlM_concat_eq_ok
    {E S X : Type}
    {step : S → X → Except E S}
    {first last : S}
    {xs : List X}
    {x : X} :
    (xs ++ [x]).foldlM step first = .ok last ↔
      ∃ next,
        xs.foldlM step first = .ok next ∧
          step next x = .ok last := by
  rw [List.foldlM_append, bind_eq_ok]
  simp only [List.foldlM_cons, List.foldlM_nil, bind_pure]

/- A check of a list succeeds when every check does. -/
theorem forM_eq_ok_iff
    {E X : Type}
    {check : X → Except E PUnit}
    {list : List X} :
    list.forM check = .ok () ↔ ∀ x ∈ list, check x = .ok () := by
  induction list with
  | nil => simp [pure, Except.pure]
  | cons x list ih =>
      change (check x >>= fun _ => list.forM check) = _ ↔ _
      rw [bind_eq_ok, List.forall_mem_cons, ← ih]
      constructor
      · intro hBoth
        rcases hBoth with ⟨⟨⟩, hFirst, hRest⟩
        exact ⟨hFirst, hRest⟩
      · intro hBoth
        exact ⟨(), hBoth.1, hBoth.2⟩

/- A loop that may fail succeeds when each step does. -/
theorem mapM_eq_ok_iff
    {E X Y : Type}
    {f : X → Except E Y}
    {xs : List X}
    {ys : List Y} :
    xs.mapM f = .ok ys ↔
      List.Forall₂ (fun x y => f x = .ok y) xs ys := by
  induction xs generalizing ys with
  | nil =>
      rw [List.mapM_nil, List.forall₂_nil_left_iff]
      constructor
      · intro hOk
        exact (Except.ok.inj hOk).symm
      · intro hNil
        rw [hNil]
        rfl
  | cons x xs ih =>
      rw [List.mapM_cons, List.forall₂_cons_left_iff,
        bind_eq_ok]
      constructor
      · rintro ⟨y, hHead, hRest⟩
        rcases bind_eq_ok.mp hRest with ⟨rest, hTail, hEq⟩
        exact ⟨y, rest, hHead, ih.mp hTail,
          (Except.ok.inj hEq).symm⟩
      · rintro ⟨y, rest, hHead, hTail, hEq⟩
        refine ⟨y, hHead, bind_eq_ok.mpr ⟨rest, ?_, ?_⟩⟩
        · exact ih.mpr hTail
        · rw [hEq]
          rfl

theorem mapM_ok_iff
    {E X Y : Type}
    {f : X → Except E Y}
    {xs : List X} :
    (∃ ys, xs.mapM f = .ok ys) ↔
      ∀ x ∈ xs, ∃ y, f x = .ok y := by
  induction xs with
  | nil =>
      constructor
      · intro _ x hMember
        cases hMember
      · intro _
        exact ⟨[], rfl⟩
  | cons x xs ih =>
      simp only [List.mapM_cons, bind_eq_ok]
      constructor
      · rintro ⟨_, y, hHead, rest, hTail, _⟩ z hMember
        rcases List.mem_cons.mp hMember with hEq | hRest
        · exact ⟨y, hEq ▸ hHead⟩
        · exact ih.mp ⟨rest, hTail⟩ z hRest
      · intro hEach
        rcases hEach x (List.mem_cons_self ..) with
          ⟨y, hHead⟩
        rcases ih.mpr (fun z hRest =>
            hEach z (List.mem_cons_of_mem _ hRest)) with
          ⟨rest, hTail⟩
        exact ⟨y :: rest, y, hHead, rest, hTail, rfl⟩

/- A loop whose steps cannot fail is a plain fold. -/
theorem foldlM_map_ok
    {E S X Y : Type}
    {step : S → Y → Except E S}
    {row : X → Y}
    {f : S → X → S}
    (hStep : ∀ s x, step s (row x) = .ok (f s x))
    (s : S)
    (xs : List X) :
    (xs.map row).foldlM step s = .ok (xs.foldl f s) := by
  induction xs generalizing s with
  | nil => rfl
  | cons x xs ih =>
      rw [List.map_cons, List.foldlM_cons, hStep]
      exact ih (f s x)
