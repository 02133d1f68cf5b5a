import Mathlib.Algebra.Order.Group.Defs
import Mathlib.Algebra.Order.Group.Unbundled.Basic
import Mathlib.Data.List.Pairwise

/-
  Spans that are joined where the gap between them is small.

  The spans come in the order of their starts, and only the
  newest cluster is ever extended.  This is enough: what comes
  later starts no earlier than the newest cluster does.

  Key definitions include:
    * `Clusters.extend`, `Clusters.join`
    * `Clusters.Joined`

  Key theorems include:
    * `Clusters.Joined.extend`
    * `Clusters.join_joined`
    * `Clusters.Joined.unique`
-/

------------------------------------------------------------
-- Joining Spans
------------------------------------------------------------

namespace Clusters

variable {T : Type}
variable [AddCommGroup T] [LinearOrder T]

/- The newest cluster is the first. -/
def extend
    (gap : T)
    (clusters : List (T × T))
    (span : T × T) : List (T × T) :=
  match clusters with
  | [] => [span]
  | last :: before =>
      if gap < span.1 - last.2 then
        span :: last :: before
      else
        (last.1, max last.2 span.2) :: before

def join (gap : T) (spans : List (T × T)) : List (T × T) :=
  spans.foldl (extend gap) []

/- The clusters of the spans that were joined so far. -/
structure Joined
    (gap : T)
    (spans clusters : List (T × T)) : Prop where
  apart :
    clusters.Pairwise (fun later earlier =>
      gap < later.1 - earlier.2)
  filled : ∀ cluster ∈ clusters, cluster.1 ≤ cluster.2
  covers :
    ∀ span ∈ spans,
      ∃ cluster ∈ clusters,
        cluster.1 ≤ span.1 ∧ span.2 ≤ cluster.2
  starts :
    ∀ cluster ∈ clusters,
      ∃ span ∈ spans, cluster.1 = span.1
  ends :
    ∀ cluster ∈ clusters,
      ∃ span ∈ spans, cluster.2 = span.2

section Spans

variable {gap : T}
variable {spans clusters : List (T × T)}

theorem joined_nil : Joined gap ([] : List (T × T)) [] where
  apart := .nil
  filled := by simp
  covers := by simp
  starts := by simp
  ends := by simp

/- A span behind the gap is a cluster of its own. -/
theorem Joined.start
    (hJoined : Joined gap spans clusters)
    {span : T × T}
    (hSpan : span.1 ≤ span.2)
    (hGap : ∀ cluster ∈ clusters, gap < span.1 - cluster.2) :
    Joined gap (spans ++ [span]) (span :: clusters) := by
  refine
    { apart := List.pairwise_cons.mpr ⟨hGap, hJoined.apart⟩
      filled := ?_
      covers := ?_
      starts := ?_
      ends := ?_ }
  · rw [List.forall_mem_cons]
    exact ⟨hSpan, hJoined.filled⟩
  · intro other hOther
    rcases List.mem_append.mp hOther with hOld | hNew
    · rcases hJoined.covers other hOld with
        ⟨cluster, hCluster, hIn⟩
      exact ⟨cluster, List.mem_cons_of_mem _ hCluster, hIn⟩
    · rw [List.mem_singleton.mp hNew]
      exact ⟨span, List.mem_cons_self, le_refl _, le_refl _⟩
  · rw [List.forall_mem_cons]
    refine ⟨⟨span, by simp, rfl⟩, ?_⟩
    intro cluster hCluster
    rcases hJoined.starts cluster hCluster with
      ⟨other, hOther, hIs⟩
    exact ⟨other, List.mem_append_left _ hOther, hIs⟩
  · rw [List.forall_mem_cons]
    refine ⟨⟨span, by simp, rfl⟩, ?_⟩
    intro cluster hCluster
    rcases hJoined.ends cluster hCluster with
      ⟨other, hOther, hIs⟩
    exact ⟨other, List.mem_append_left _ hOther, hIs⟩

/- A span before the gap goes into the newest cluster. -/
theorem Joined.grow
    {last : T × T}
    {before : List (T × T)}
    (hJoined : Joined gap spans (last :: before))
    {span : T × T}
    (hLast : last.1 ≤ span.1) :
    Joined gap (spans ++ [span])
      ((last.1, max last.2 span.2) :: before) := by
  have hApart := List.pairwise_cons.mp hJoined.apart
  have hFilled := List.forall_mem_cons.mp hJoined.filled
  refine
    { apart := List.pairwise_cons.mpr ⟨hApart.1, hApart.2⟩
      filled := ?_
      covers := ?_
      starts := ?_
      ends := ?_ }
  · rw [List.forall_mem_cons]
    exact ⟨le_max_of_le_left hFilled.1, hFilled.2⟩
  · intro other hOther
    rcases List.mem_append.mp hOther with hOld | hNew
    · rcases hJoined.covers other hOld with
        ⟨cluster, hCluster, hStart, hEnd⟩
      rcases List.mem_cons.mp hCluster with hIs | hBefore
      · subst hIs
        exact ⟨_, List.mem_cons_self, hStart,
          le_max_of_le_left hEnd⟩
      · exact ⟨cluster, List.mem_cons_of_mem _ hBefore,
          hStart, hEnd⟩
    · rw [List.mem_singleton.mp hNew]
      exact ⟨_, List.mem_cons_self, hLast, le_max_right _ _⟩
  · intro cluster hCluster
    have hOld :
        ∃ other ∈ last :: before, cluster.1 = other.1 := by
      rcases List.mem_cons.mp hCluster with hIs | hBefore
      · exact ⟨last, List.mem_cons_self, by rw [hIs]⟩
      · exact ⟨cluster, List.mem_cons_of_mem _ hBefore, rfl⟩
    rcases hOld with ⟨other, hOther, hSame⟩
    rcases hJoined.starts other hOther with ⟨own, hOwn, hIs⟩
    exact ⟨own, List.mem_append_left _ hOwn,
      hSame.trans hIs⟩
  · intro cluster hCluster
    have hOld :
        cluster.2 = span.2 ∨
          ∃ other ∈ last :: before, cluster.2 = other.2 := by
      rcases List.mem_cons.mp hCluster with hIs | hBefore
      · subst hIs
        rcases max_choice last.2 span.2 with hLeft | hRight
        · exact Or.inr ⟨last, List.mem_cons_self, hLeft⟩
        · exact Or.inl hRight
      · exact Or.inr
          ⟨cluster, List.mem_cons_of_mem _ hBefore, rfl⟩
    rcases hOld with hNew | ⟨other, hOther, hSame⟩
    · exact ⟨span, by simp, hNew⟩
    · rcases hJoined.ends other hOther with ⟨own, hOwn, hIs⟩
      exact ⟨own, List.mem_append_left _ hOwn,
        hSame.trans hIs⟩

variable [IsOrderedAddMonoid T]

/- A gap to the newest cluster is one to all of them. -/
theorem Joined.gap_before
    (hGap : 0 ≤ gap)
    {last : T × T}
    {before : List (T × T)}
    (hJoined : Joined gap spans (last :: before))
    {start : T}
    (hFar : gap < start - last.2) :
    ∀ cluster ∈ last :: before, gap < start - cluster.2 := by
  have hApart := List.pairwise_cons.mp hJoined.apart
  have hFilled := List.forall_mem_cons.mp hJoined.filled
  rw [List.forall_mem_cons]
  refine ⟨hFar, ?_⟩
  intro cluster hCluster
  have hNear := hApart.1 cluster hCluster
  have hLe : last.1 ≤ last.2 := hFilled.1
  calc gap < last.1 - cluster.2 := hNear
    _ ≤ last.2 - cluster.2 := sub_le_sub_right hLe _
    _ ≤ start - cluster.2 := by
        apply sub_le_sub_right
        apply sub_nonneg.mp
        exact hGap.trans hFar.le

theorem Joined.extend
    (hGap : 0 ≤ gap)
    (hJoined : Joined gap spans clusters)
    {span : T × T}
    (hSpan : span.1 ≤ span.2)
    (hOrder : ∀ other ∈ spans, other.1 ≤ span.1) :
    Joined gap (spans ++ [span])
      (Clusters.extend gap clusters span) := by
  cases clusters with
  | nil => exact hJoined.start hSpan (by simp)
  | cons last before =>
      rw [Clusters.extend]
      split
      next hFar =>
        exact hJoined.start hSpan
          (hJoined.gap_before hGap hFar)
      next hNear =>
        rcases hJoined.starts last List.mem_cons_self with
          ⟨other, hOther, hIs⟩
        exact hJoined.grow (hIs ▸ hOrder other hOther)

theorem Joined.foldl
    (hGap : 0 ≤ gap)
    {more : List (T × T)}
    (hJoined : Joined gap spans clusters)
    (hSpans : ∀ span ∈ more, span.1 ≤ span.2)
    (hOrder :
      (spans ++ more).Pairwise (fun earlier later =>
        earlier.1 ≤ later.1)) :
    Joined gap (spans ++ more)
      (more.foldl (Clusters.extend gap) clusters) := by
  induction more generalizing spans clusters with
  | nil => simpa using hJoined
  | cons span rest ih =>
      rw [List.forall_mem_cons] at hSpans
      have hBefore :
          ∀ other ∈ spans, other.1 ≤ span.1 := by
        intro other hOther
        exact (List.pairwise_append.mp hOrder).2.2 other hOther
          span List.mem_cons_self
      rw [List.append_cons] at hOrder ⊢
      exact ih (hJoined.extend hGap hSpans.1 hBefore) hSpans.2
        hOrder

theorem join_joined
    (hGap : 0 ≤ gap)
    (hSpans : ∀ span ∈ spans, span.1 ≤ span.2)
    (hOrder :
      spans.Pairwise (fun earlier later =>
        earlier.1 ≤ later.1)) :
    Joined gap spans (join gap spans) :=
  joined_nil.foldl hGap hSpans hOrder

/- What is filled lies in one cluster only. -/
theorem Joined.unique
    (hGap : 0 ≤ gap)
    (hJoined : Joined gap spans clusters)
    {left right : T × T}
    (hLeft : left ∈ clusters)
    (hRight : right ∈ clusters)
    {instant : T}
    (hInLeft : left.1 ≤ instant ∧ instant ≤ left.2)
    (hInRight : right.1 ≤ instant ∧ instant ≤ right.2) :
    left = right := by
  have hNever :
      ∀ later earlier : T × T,
        gap < later.1 - earlier.2 → later.1 ≤ instant →
          instant ≤ earlier.2 → False := by
    intro later earlier hApart hLater hEarlier
    have hLe : later.1 - earlier.2 ≤ 0 :=
      sub_nonpos.mpr (hLater.trans hEarlier)
    exact absurd (hGap.trans_lt hApart) (not_lt.mpr hLe)
  by_contra hOther
  have hSymm :
      Std.Symm (fun one two : T × T =>
        gap < one.1 - two.2 ∨ gap < two.1 - one.2) :=
    ⟨fun _ _ hEither => hEither.symm⟩
  have hEither :
      clusters.Pairwise (fun one two =>
        gap < one.1 - two.2 ∨ gap < two.1 - one.2) :=
    hJoined.apart.imp Or.inl
  rcases hEither.forall hLeft hRight hOther with
    hApart | hApart
  · exact hNever left right hApart hInLeft.1 hInRight.2
  · exact hNever right left hApart hInRight.1 hInLeft.2

end Spans

end Clusters
