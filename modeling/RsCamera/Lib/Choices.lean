import Mathlib.Data.List.Induction
import Mathlib.Data.List.Nodup
import Mathlib.Data.List.Perm.Basic
import Mathlib.Data.List.Pairwise

/-
  Choosing from lists: all pairs of a list, the first element
  of each key, and the heads of several queues in turn.

  Main declarations:
    * `pairsOf`, `mem_pairsOf_iff`, `nodup_pairsOf`
    * `keepFirst`, `keepFirst_sublist`
    * `nodup_keepFirst`, `keepFirst_of_nodup`
    * `takeTurns`, `takeTurns_perm`
    * `turns_of_le`, `Separate`, `takeTurns_balanced`
-/

------------------------------------------------------------
-- Pairs
------------------------------------------------------------

namespace Choices

section Pairs

variable {X : Type}

/- Two elements in the order of the list, in all ways. -/
def pairsOf : List X → List (X × X)
| [] => []
| x :: rest => rest.map (fun y => (x, y)) ++ pairsOf rest

theorem mem_pairsOf_iff
    {xs : List X}
    {pair : X × X} :
    pair ∈ pairsOf xs ↔ [pair.1, pair.2].Sublist xs := by
  induction xs with
  | nil => simp [pairsOf]
  | cons x rest ih =>
      rw [pairsOf, List.mem_append, List.mem_map, ih,
        List.sublist_cons_iff]
      constructor
      · rintro (⟨y, hMem, rfl⟩ | hRest)
        · exact Or.inr ⟨[y], rfl,
            List.singleton_sublist.mpr hMem⟩
        · exact Or.inl hRest
      · rintro (hRest | ⟨tail, hTail, hSublist⟩)
        · exact Or.inr hRest
        · simp only [List.cons.injEq] at hTail
          rcases hTail with ⟨hFirst, rfl⟩
          rw [List.singleton_sublist] at hSublist
          exact Or.inl ⟨pair.2, hSublist, by rw [← hFirst]⟩

theorem nodup_pairsOf
    {xs : List X}
    (hNodup : xs.Nodup) :
    (pairsOf xs).Nodup := by
  induction xs with
  | nil => exact List.nodup_nil
  | cons x rest ih =>
      rw [List.nodup_cons] at hNodup
      rw [pairsOf, List.nodup_append]
      refine ⟨hNodup.2.map ?_, ih hNodup.2, ?_⟩
      · intro left right hSame
        exact (Prod.mk.inj hSame).2
      · intro pair hPair other hOther hSame
        subst hSame
        rcases List.mem_map.mp hPair with ⟨y, -, rfl⟩
        have hSublist := mem_pairsOf_iff.mp hOther
        exact hNodup.1 (hSublist.subset List.mem_cons_self)

/- Two different elements are a pair in one of the orders. -/
theorem mem_pairsOf_or
    {xs : List X}
    {x y : X}
    (hx : x ∈ xs)
    (hy : y ∈ xs)
    (hNe : x ≠ y) :
    (x, y) ∈ pairsOf xs ∨ (y, x) ∈ pairsOf xs := by
  induction xs with
  | nil => simp at hx
  | cons z rest ih =>
      simp only [pairsOf, List.mem_append, List.mem_map]
      rcases List.mem_cons.mp hx with rfl | hxRest
      · rcases List.mem_cons.mp hy with rfl | hyRest
        · exact absurd rfl hNe
        · exact Or.inl (Or.inl ⟨y, hyRest, rfl⟩)
      · rcases List.mem_cons.mp hy with rfl | hyRest
        · exact Or.inr (Or.inl ⟨x, hxRest, rfl⟩)
        · rcases ih hxRest hyRest with hFound | hFound
          · exact Or.inl (Or.inr hFound)
          · exact Or.inr (Or.inr hFound)

end Pairs

------------------------------------------------------------
-- The First Of Each Key
------------------------------------------------------------

section First

variable {K X : Type}
variable [DecidableEq K]
variable (key : X → K)

def keepFirst (seen : List K) : List X → List X
| [] => []
| x :: rest =>
    if key x ∈ seen then
      keepFirst seen rest
    else
      x :: keepFirst (key x :: seen) rest

theorem keepFirst_sublist
    (seen : List K)
    (xs : List X) :
    (keepFirst key seen xs).Sublist xs := by
  induction xs generalizing seen with
  | nil => exact List.Sublist.refl _
  | cons x rest ih =>
      rw [keepFirst]
      split
      · exact (ih seen).cons x
      · exact (ih _).cons_cons x

theorem keepFirst_fresh
    (seen : List K)
    (xs : List X) :
    ∀ x ∈ keepFirst key seen xs, key x ∉ seen := by
  induction xs generalizing seen with
  | nil => simp [keepFirst]
  | cons x rest ih =>
      rw [keepFirst]
      split
      next hSeen => exact ih seen
      next hNew =>
        intro y hy
        rcases List.mem_cons.mp hy with rfl | hRest
        · exact hNew
        · have hFresh := ih _ y hRest
          rw [List.mem_cons, not_or] at hFresh
          exact hFresh.2

theorem nodup_keepFirst
    (seen : List K)
    (xs : List X) :
    ((keepFirst key seen xs).map key).Nodup := by
  induction xs generalizing seen with
  | nil => simp [keepFirst]
  | cons x rest ih =>
      rw [keepFirst]
      split
      · exact ih seen
      · rw [List.map_cons, List.nodup_cons]
        refine ⟨?_, ih _⟩
        intro hMem
        rcases List.mem_map.mp hMem with ⟨y, hy, hKey⟩
        apply keepFirst_fresh key _ _ y hy
        rw [hKey]
        exact List.mem_cons_self

/- Nothing is left out if the keys are all different. -/
theorem keepFirst_of_nodup
    {seen : List K}
    {xs : List X}
    (hNodup : (xs.map key).Nodup)
    (hFresh : ∀ x ∈ xs, key x ∉ seen) :
    keepFirst key seen xs = xs := by
  induction xs generalizing seen with
  | nil => simp [keepFirst]
  | cons x rest ih =>
      rw [List.map_cons, List.nodup_cons] at hNodup
      rw [List.forall_mem_cons] at hFresh
      rw [keepFirst, if_neg hFresh.1]
      congr 1
      apply ih hNodup.2
      intro y hy hSeen
      rcases List.mem_cons.mp hSeen with hSame | hOld
      · apply hNodup.1
        rw [← hSame]
        exact List.mem_map_of_mem hy
      · exact hFresh.2 y hy hOld

end First

------------------------------------------------------------
-- Taking Turns
------------------------------------------------------------

section Turns

variable {X : Type}

/-
  In each round every queue that is not empty gives its
  head, until all are empty.
-/
def turns : Nat → List (List X) → List X
| 0, _ => []
| fuel + 1, queues =>
    if queues.all List.isEmpty then
      []
    else
      queues.filterMap List.head? ++
        turns fuel (queues.map List.tail)

def takeTurns (queues : List (List X)) : List X :=
  turns queues.flatten.length queues

/- A round takes the heads and leaves the tails. -/
theorem heads_append_tails_perm
    (queues : List (List X)) :
    (queues.filterMap List.head? ++
        (queues.map List.tail).flatten).Perm
      queues.flatten := by
  induction queues with
  | nil => simp
  | cons queue queues ih =>
      cases queue with
      | nil => simpa [List.filterMap_cons] using ih
      | cons head tail =>
          simp only [List.filterMap_cons, List.head?_cons,
            List.map_cons, List.tail_cons, List.flatten_cons,
            List.cons_append]
          apply List.Perm.cons
          rw [← List.append_assoc]
          refine (List.Perm.append_right _
            List.perm_append_comm).trans ?_
          rw [List.append_assoc]
          exact List.Perm.append_left tail ih

variable {queues : List (List X)}

/- In a round that is not the last, something is taken. -/
theorem heads_ne_nil
    (hSome : ¬queues.all List.isEmpty = true) :
    queues.filterMap List.head? ≠ [] := by
  intro hNone
  apply hSome
  rw [List.filterMap_eq_nil_iff] at hNone
  rw [List.all_eq_true]
  intro queue hQueue
  simpa [List.isEmpty_iff] using hNone queue hQueue

theorem flatten_of_all_isEmpty
    (hAll : queues.all List.isEmpty = true) :
    queues.flatten = [] := by
  rw [List.all_eq_true] at hAll
  rw [List.flatten_eq_nil_iff]
  intro queue hQueue
  exact List.isEmpty_iff.mp (hAll queue hQueue)

/- With a round for each element, every element is taken. -/
theorem turns_perm
    {fuel : Nat}
    (hFuel : queues.flatten.length ≤ fuel) :
    (turns fuel queues).Perm queues.flatten := by
  induction fuel generalizing queues with
  | zero =>
      have hNil : queues.flatten = [] :=
        List.length_eq_zero_iff.mp (by omega)
      rw [hNil, turns]
  | succ fuel ih =>
      rw [turns]
      split
      next hAll => rw [flatten_of_all_isEmpty hAll]
      next hSome =>
        have hRound := heads_append_tails_perm queues
        have hTaken :=
          List.length_pos_iff.mpr (heads_ne_nil hSome)
        have hLength := hRound.length_eq
        rw [List.length_append] at hLength
        have hRest :=
          @ih (queues.map List.tail) (by omega)
        exact (List.Perm.append_left _ hRest).trans hRound

theorem takeTurns_perm
    (queues : List (List X)) :
    (takeTurns queues).Perm queues.flatten :=
  turns_perm (Nat.le_refl _)

/- Rounds after the last one take nothing. -/
theorem turns_of_le
    {fuel more : Nat}
    (hFuel : queues.flatten.length ≤ fuel)
    (hMore : fuel ≤ more) :
    turns more queues = turns fuel queues := by
  induction fuel generalizing queues more with
  | zero =>
      have hAll : queues.all List.isEmpty = true := by
        have hNil : queues.flatten = [] :=
          List.length_eq_zero_iff.mp (by omega)
        simpa [List.isEmpty_iff] using hNil
      cases more with
      | zero => rfl
      | succ more =>
          rw [turns.eq_2, if_pos hAll, turns.eq_1]
  | succ fuel ih =>
      cases more with
      | zero => omega
      | succ more =>
          rw [turns, turns]
          split
          next hAll => rfl
          next hSome =>
            have hLength :=
              (heads_append_tails_perm queues).length_eq
            have hTaken :=
              List.length_pos_iff.mpr (heads_ne_nil hSome)
            rw [List.length_append] at hLength
            rw [ih (by omega) (by omega)]

end Turns

------------------------------------------------------------
-- Balance
------------------------------------------------------------

section Balance

variable {X K : Type}
variable [DecidableEq K]

/- The elements of a key. -/
def ofKey (key : X → K) (k : K) (xs : List X) : Nat :=
  xs.countP (fun x => key x = k)

@[simp] theorem ofKey_append
    (key : X → K)
    (k : K)
    (xs ys : List X) :
    ofKey key k (xs ++ ys) =
      ofKey key k xs + ofKey key k ys := by
  unfold ofKey
  rw [List.countP_append]

theorem ofKey_perm
    (key : X → K)
    (k : K)
    {xs ys : List X}
    (hPerm : xs.Perm ys) :
    ofKey key k xs = ofKey key k ys :=
  hPerm.countP_eq _

/- Every queue has one key, and no two queues share a key. -/
def Separate (key : X → K) (queues : List (List X)) : Prop :=
  (∀ queue ∈ queues, ∀ x ∈ queue, ∀ y ∈ queue,
      key x = key y) ∧
    queues.Pairwise (fun earlier later =>
      ∀ x ∈ earlier, ∀ y ∈ later, key x ≠ key y)

variable {key : X → K}
variable {queues : List (List X)}

omit [DecidableEq K] in
theorem Separate.tails
    (hSeparate : Separate key queues) :
    Separate key (queues.map List.tail) := by
  constructor
  · intro queue hQueue x hX y hY
    rcases List.mem_map.mp hQueue with ⟨whole, hWhole, hTail⟩
    subst hTail
    exact hSeparate.1 whole hWhole x (List.mem_of_mem_tail hX)
      y (List.mem_of_mem_tail hY)
  · rw [List.pairwise_map]
    refine hSeparate.2.imp ?_
    intro earlier later hApart x hX y hY
    exact hApart x (List.mem_of_mem_tail hX) y
      (List.mem_of_mem_tail hY)

/- A round takes one element of each key that is left. -/
theorem ofKey_heads
    (hSeparate : Separate key queues)
    (k : K) :
    ofKey key k (queues.filterMap List.head?) =
      min 1 (ofKey key k queues.flatten) := by
  induction queues with
  | nil => simp [ofKey]
  | cons queue queues ih =>
      have hRest : Separate key queues :=
        ⟨fun other hOther =>
            hSeparate.1 other (List.mem_cons_of_mem _ hOther),
          (List.pairwise_cons.mp hSeparate.2).2⟩
      have hHere := hSeparate.1 queue List.mem_cons_self
      have hApart := (List.pairwise_cons.mp hSeparate.2).1
      cases queue with
      | nil => simpa [List.filterMap_cons] using ih hRest
      | cons head tail =>
          have hHeads := ih hRest
          by_cases hKey : key head = k
          · -- The queues behind have other keys.
            have hNone : ofKey key k queues.flatten = 0 := by
              unfold ofKey
              rw [List.countP_eq_zero]
              intro y hY
              rcases List.mem_flatten.mp hY with
                ⟨other, hOther, hIn⟩
              have hNe :=
                hApart other hOther head List.mem_cons_self
                  y hIn
              rw [hKey] at hNe
              simpa using hNe.symm
            rw [hNone] at hHeads
            unfold ofKey at hHeads hNone ⊢
            rw [List.filterMap_cons_some List.head?_cons,
              List.countP_cons_of_pos (by simpa using hKey),
              hHeads, List.flatten_cons, List.cons_append,
              List.countP_cons_of_pos (by simpa using hKey)]
            omega
          · have hTail : ofKey key k tail = 0 := by
              unfold ofKey
              rw [List.countP_eq_zero]
              intro y hY
              have hSame :=
                hHere y (List.mem_cons_of_mem _ hY) head
                  List.mem_cons_self
              rw [hSame]
              simpa using hKey
            unfold ofKey at hHeads hTail ⊢
            rw [List.filterMap_cons_some List.head?_cons,
              List.countP_cons_of_neg (by simpa using hKey),
              hHeads, List.flatten_cons, List.cons_append,
              List.countP_cons_of_neg (by simpa using hKey),
              List.countP_append, hTail, Nat.zero_add]

theorem ofKey_turns_le
    (key : X → K)
    (k : K)
    (fuel : Nat)
    (queues : List (List X)) :
    ofKey key k (turns fuel queues) ≤
      ofKey key k queues.flatten := by
  induction fuel generalizing queues with
  | zero => simp [turns, ofKey]
  | succ fuel ih =>
      rw [turns]
      split
      next hAll => simp [ofKey]
      next hSome =>
        rw [← ofKey_perm key k (heads_append_tails_perm queues),
          ofKey_append, ofKey_append]
        exact Nat.add_le_add_left (ih _) _

/-
  At any time a key is at most one element ahead of another
  one, unless nothing of the other one is left.
-/
def Balanced
    (key : X → K)
    (all taken : List X) : Prop :=
  ∀ k other,
    ofKey key k taken ≤ ofKey key other taken + 1 ∨
      ofKey key other taken = ofKey key other all

theorem turns_balanced
    {fuel : Nat}
    (hSeparate : Separate key queues)
    {taken : List X}
    (hTaken : taken <+: turns fuel queues) :
    Balanced key queues.flatten taken := by
  induction fuel generalizing queues taken with
  | zero =>
      intro k other
      rw [turns, List.prefix_nil] at hTaken
      subst hTaken
      exact Or.inl (by simp [ofKey])
  | succ fuel ih =>
      intro k other
      rw [turns] at hTaken
      split at hTaken
      next hAll =>
        rw [List.prefix_nil] at hTaken
        subst hTaken
        exact Or.inl (by simp [ofKey])
      next hSome =>
        have hHeads := ofKey_heads hSeparate
        rcases List.prefix_or_prefix_of_prefix hTaken
          (List.prefix_append _ _) with hFirst | hLater
        · -- In the first round a key is taken once at most.
          have hLe : ofKey key k taken ≤
              ofKey key k (queues.filterMap List.head?) :=
            hFirst.sublist.countP_le
          rw [hHeads k] at hLe
          exact Or.inl (by omega)
        · rcases hLater with ⟨later, hLater⟩
          subst hLater
          rw [List.prefix_append_right_inj] at hTaken
          have hRest := ih hSeparate.tails hTaken k other
          have hAll :=
            ofKey_perm key other
              (heads_append_tails_perm queues)
          have hMost : ofKey key other later ≤
              ofKey key other (queues.map List.tail).flatten :=
            Nat.le_trans hTaken.sublist.countP_le
              (ofKey_turns_le key other fuel _)
          simp only [ofKey_append, hHeads] at hAll ⊢
          omega

theorem takeTurns_balanced
    (hSeparate : Separate key queues)
    {taken : List X}
    (hTaken : taken <+: takeTurns queues) :
    Balanced key queues.flatten taken :=
  turns_balanced hSeparate hTaken

end Balance

end Choices
