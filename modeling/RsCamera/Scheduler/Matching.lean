import Mathlib.Data.List.Sort
import RsCamera.Lib.Ranking
import RsCamera.Scheduler.Kernel
import RsCamera.Scheduler.Profile

/-
  Matching the entries of a profile with the live threads
  (`snapshot_threads` and the loops that
  `apply_deadline_profile` and `apply_rate_monotonic_profile`
  share).

  A live thread is known by its signature and by its rank,
  in the order of creation, among the threads of that
  signature.

  Key definitions include:
    * `ThreadInfo`, `snapshotThreads`
    * `LiveThreads`, `liveThreads`
    * `matchEntries`
    * `creationRank`

  Key theorems include:
    * `liveThreads_numbers`
    * `matchEntries_eq_ok_iff`
    * `Matches.tids_perm`
    * `ranked_snapshot`
-/

------------------------------------------------------------
-- Live Threads
------------------------------------------------------------

namespace RsCamera

namespace Scheduler

/- A record of the preloaded thread tracer. -/
structure ThreadInfo where
  tid : Tid
  creationSequence : Nat
  signature : String
deriving Repr, DecidableEq

/-
  What the tracer answers, when it is loaded: the number of
  live threads at the first call, and the live threads at
  the second call.
-/
structure ThreadTrace where
  count : Nat
  live : List ThreadInfo
deriving Repr, DecidableEq

/- The order of creation; sequence numbers are never reused. -/
def createdBefore (left right : ThreadInfo) : Prop :=
  left.creationSequence ≤ right.creationSequence
deriving Decidable

def snapshotThreads
    (trace : Option ThreadTrace) :
    Except String (List ThreadInfo) :=
  match trace with
  | none =>
      .error
        ("Modeled scheduling requires libtrace_pthreads.so" ++
          " in LD_PRELOAD")
  | some trace =>
      if trace.count < trace.live.length then
        .error
          ("Thread set changed while applying scheduler" ++
            " model profile")
      else
        .ok (trace.live.insertionSort createdBefore)

/- The maps that number the live threads. -/
structure LiveThreads where
  instanceCounts : Std.TreeMap String Nat := {}
  live : Std.TreeMap (String × Nat) ThreadInfo := {}

/- The counts are 32-bit words. -/
def LiveThreads.add
    (threads : LiveThreads)
    (thread : ThreadInfo) : LiveThreads :=
  let number :=
    (threads.instanceCounts.getD thread.signature 0 + 1) %
      2 ^ 32
  { instanceCounts :=
      threads.instanceCounts.insert thread.signature number
    live :=
      threads.live.insertIfNew (thread.signature, number)
        thread }

def liveThreads (threads : List ThreadInfo) : LiveThreads :=
  threads.foldl LiveThreads.add {}

/- The assignment for one entry. -/
def matchEntry
    {P : Type}
    (kind : String)
    (parameters : ProfileEntry → Except String P)
    (threads : LiveThreads)
    (entry : ProfileEntry) :
    Except String (Assignment P) :=
  match threads.live[entry.key]? with
  | none =>
      .error
        ("No live thread matches " ++ kind ++
          " profile entry instance " ++
          toString entry.instanceNumber ++
          " with signature " ++ entry.signature)
  | some thread => do
      let parameters ← parameters entry
      .ok
        { tid := thread.tid
          signature := entry.signature
          instanceNumber := entry.instanceNumber
          name := entry.name
          parameters := parameters }

def matchEntries
    {P : Type}
    (kind : String)
    (parameters : ProfileEntry → Except String P)
    (threads : LiveThreads)
    (profile : List ProfileEntry) :
    Except String (List (Assignment P)) :=
  profile.mapM (matchEntry kind parameters threads)

------------------------------------------------------------
-- Ranks Of Live Threads
------------------------------------------------------------

section

open Ranking

/- What the maps hold after some threads. -/
structure LiveThreads.Numbers
    (maps : LiveThreads)
    (threads : List ThreadInfo) : Prop where
  counts :
    ∀ signature,
      maps.instanceCounts.getD signature 0 =
        (classOf ThreadInfo.signature threads
          signature).length
  find :
    ∀ slot : String × Nat,
      maps.live[slot]? =
        ranked ThreadInfo.signature threads slot
  size : maps.live.size = threads.length

theorem LiveThreads.Numbers.add
    {maps : LiveThreads}
    {threads : List ThreadInfo}
    (hNumbers : maps.Numbers threads)
    (hLength : threads.length + 1 < 2 ^ 32)
    (thread : ThreadInfo) :
    (maps.add thread).Numbers (threads ++ [thread]) := by
  have hClass :=
    length_classOf_le ThreadInfo.signature threads
      thread.signature
  have hNumber :
      (maps.instanceCounts.getD thread.signature 0 + 1) %
          2 ^ 32 =
        (classOf ThreadInfo.signature threads
          thread.signature).length + 1 := by
    rw [hNumbers.counts]
    omega
  have hFresh :
      maps.live[(thread.signature,
          (classOf ThreadInfo.signature threads
            thread.signature).length + 1)]? = none := by
    rw [hNumbers.find, ← Option.not_isSome_iff_eq_none,
      ranked_isSome_iff]
    simp only
    omega
  have hAbsent :
      (thread.signature,
          (classOf ThreadInfo.signature threads
            thread.signature).length + 1) ∉ maps.live := by
    rw [Std.TreeMap.mem_iff_isSome_getElem?, hFresh]
    simp
  constructor
  · intro signature
    simp only [LiveThreads.add, hNumber,
      Std.TreeMap.getD_insert, classOf_append_singleton]
    by_cases hSignature : thread.signature = signature
    · subst hSignature
      simp
    · have hCompare :
          compare thread.signature signature ≠ .eq :=
        fun hEq =>
          hSignature (Std.LawfulEqOrd.eq_of_compare hEq)
      rw [if_neg hCompare, if_neg hSignature,
        hNumbers.counts]
  · intro slot
    simp only [LiveThreads.add, hNumber,
      Std.TreeMap.getElem?_insertIfNew]
    rw [ranked_append_singleton]
    by_cases hSlot :
        slot =
          (thread.signature,
            (classOf ThreadInfo.signature threads
              thread.signature).length + 1)
    · rw [if_pos hSlot, hSlot, if_pos]
      exact ⟨Std.ReflCmp.compare_self, hAbsent⟩
    · rw [if_neg hSlot, if_neg, hNumbers.find]
      rintro ⟨hEq, _⟩
      exact hSlot (Std.LawfulEqOrd.eq_of_compare hEq).symm
  · simp only [LiveThreads.add, hNumber,
      Std.TreeMap.size_insertIfNew]
    rw [if_neg hAbsent, hNumbers.size]
    simp

theorem liveThreads_numbers
    {threads : List ThreadInfo}
    (hLength : threads.length < 2 ^ 32) :
    (liveThreads threads).Numbers threads := by
  induction threads using List.reverseRecOn with
  | nil =>
      exact ⟨by simp [liveThreads, classOf],
        by simp [liveThreads, ranked, classOf],
        by simp [liveThreads]⟩
  | append_singleton threads thread ih =>
      rw [List.length_append, List.length_singleton] at hLength
      have hBefore := ih (by omega)
      have hStep :
          liveThreads (threads ++ [thread]) =
            (liveThreads threads).add thread := by
        simp [liveThreads]
      rw [hStep]
      exact hBefore.add hLength thread

end

------------------------------------------------------------
-- Matched Entries
------------------------------------------------------------

section

open Ranking

section Matched

variable {P : Type}
variable {kind : String}
variable {parameters : ProfileEntry → Except String P}
variable {threads : List ThreadInfo}
variable {profile : List ProfileEntry}
variable {assignments : List (Assignment P)}

/-
  An entry and its assignment: the thread is the one whose
  signature and rank the entry names.
-/
structure Matches
    (parameters : ProfileEntry → Except String P)
    (threads : List ThreadInfo)
    (entry : ProfileEntry)
    (assignment : Assignment P) : Prop where
  thread :
    ∃ thread,
      ranked ThreadInfo.signature threads entry.key =
          some thread ∧
        assignment.tid = thread.tid
  signature : assignment.signature = entry.signature
  instanceNumber :
    assignment.instanceNumber = entry.instanceNumber
  name : assignment.name = entry.name
  parameters :
    parameters entry = .ok assignment.parameters
  applied : assignment.applied = false
  errorNumber : assignment.errorNumber = 0

theorem matchEntry_eq_ok_iff
    (hLength : threads.length < 2 ^ 32)
    {entry : ProfileEntry}
    {assignment : Assignment P} :
    matchEntry kind parameters (liveThreads threads) entry =
        .ok assignment ↔
      Matches parameters threads entry assignment := by
  have hFind :=
    (liveThreads_numbers hLength).find entry.key
  unfold matchEntry
  rw [hFind]
  cases hRanked :
      ranked ThreadInfo.signature threads entry.key with
  | none =>
      constructor
      · intro hOk
        cases hOk
      · intro hMatches
        rcases hMatches.thread with ⟨thread, hSome, _⟩
        rw [hRanked] at hSome
        cases hSome
  | some thread =>
      simp only
      rw [bind_eq_ok]
      constructor
      · rintro ⟨p, hParameters, hEq⟩
        cases Except.ok.inj hEq
        exact ⟨⟨thread, hRanked, rfl⟩, rfl, rfl, rfl,
          hParameters, rfl, rfl⟩
      · intro hMatches
        refine ⟨assignment.parameters,
          hMatches.parameters, ?_⟩
        rcases hMatches.thread with ⟨other, hSome, hTid⟩
        rw [hRanked] at hSome
        cases Option.some.inj hSome
        rw [← hTid, ← hMatches.signature,
          ← hMatches.instanceNumber, ← hMatches.name]
        have hApplied := hMatches.applied
        have hError := hMatches.errorNumber
        cases assignment
        simp only at hApplied hError
        rw [hApplied, hError]

theorem matchEntries_eq_ok_iff
    (hLength : threads.length < 2 ^ 32) :
    matchEntries kind parameters (liveThreads threads)
        profile =
        .ok assignments ↔
      List.Forall₂ (Matches parameters threads) profile
        assignments := by
  unfold matchEntries
  rw [mapM_eq_ok_iff]
  constructor
  · apply List.Forall₂.imp
    intro entry assignment hOk
    exact (matchEntry_eq_ok_iff hLength).mp hOk
  · apply List.Forall₂.imp
    intro entry assignment hMatches
    exact (matchEntry_eq_ok_iff hLength).mpr hMatches

/- A new assignment is not applied yet. -/
theorem matchEntries_applied
    {maps : LiveThreads}
    (hOk :
      matchEntries kind parameters maps profile =
        .ok assignments)
    {assignment : Assignment P}
    (hMember : assignment ∈ assignments) :
    assignment.applied = false := by
  rcases exists_left_of_mem (mapM_eq_ok_iff.mp hOk)
      hMember with
    ⟨entry, _, hEntry⟩
  unfold matchEntry at hEntry
  split at hEntry
  · cases hEntry
  · rcases bind_eq_ok.mp hEntry with ⟨p, _, hEq⟩
    rw [← Except.ok.inj hEq]

/- Distinct thread ids bound the number of threads. -/
theorem length_lt_of_nodup_tids
    (hTids : (threads.map ThreadInfo.tid).Nodup) :
    threads.length < 2 ^ 31 := by
  have hValues :
      (threads.map (fun t => t.tid.val)).Nodup := by
    have hMap := hTids.map Subtype.val_injective
    rw [List.map_map] at hMap
    exact hMap
  have hSubset :
      0 :: threads.map (fun t => t.tid.val) ⊆
        List.range (2 ^ 31) := by
    intro value hMember
    rw [List.mem_range]
    rcases List.mem_cons.mp hMember with hEq | hRest
    · rw [hEq]
      decide
    · rcases List.mem_map.mp hRest with ⟨thread, _, hEq⟩
      rw [← hEq]
      exact thread.tid.property.2
  have hFresh : 0 ∉ threads.map (fun t => t.tid.val) := by
    intro hMember
    rcases List.mem_map.mp hMember with ⟨thread, _, hEq⟩
    have hPositive := thread.tid.property.1
    omega
  have hBound :=
    ((List.nodup_cons.mpr ⟨hFresh, hValues⟩).subperm
      hSubset).length_le
  rw [List.length_cons, List.length_map,
    List.length_range] at hBound
  omega

/- The threads that the assignments are for. -/
theorem Matches.exists_picks
    (hMatches :
      List.Forall₂ (Matches parameters threads) profile
        assignments) :
    ∃ picks,
      List.Forall₂
          (fun slot thread =>
            ranked ThreadInfo.signature threads slot =
              some thread)
          (profile.map ProfileEntry.key) picks ∧
        assignments.map Assignment.tid =
          picks.map ThreadInfo.tid := by
  induction hMatches with
  | nil => exact ⟨[], List.Forall₂.nil, rfl⟩
  | @cons entry assignment profile assignments hHead hTail ih =>
      rcases ih with ⟨picks, hPicks, hTids⟩
      rcases hHead.thread with ⟨thread, hRanked, hTid⟩
      refine ⟨thread :: picks,
        List.Forall₂.cons hRanked hPicks, ?_⟩
      rw [List.map_cons, List.map_cons, hTid, hTids]

/-
  Entries with distinct keys, as many as there are threads,
  give every thread exactly one assignment.
-/
theorem Matches.tids_perm
    (hTids : (threads.map ThreadInfo.tid).Nodup)
    (hKeys : (profile.map ProfileEntry.key).Nodup)
    (hLength : threads.length ≤ profile.length)
    (hMatches :
      List.Forall₂ (Matches parameters threads) profile
        assignments) :
    (assignments.map Assignment.tid).Perm
      (threads.map ThreadInfo.tid) := by
  rcases Matches.exists_picks hMatches with
    ⟨picks, hPicks, hEq⟩
  have hThreads : threads.Nodup := hTids.of_map
  have hPerm : picks.Perm threads := by
    apply perm_of_ranked hThreads hKeys hPicks
    rw [List.length_map]
    exact hLength
  rw [hEq]
  exact hPerm.map ThreadInfo.tid

end Matched

end

------------------------------------------------------------
-- Ranks In Creation Order
------------------------------------------------------------

open Ranking

/-
  The rank of a thread among the live threads of its
  signature: the number of them created up to it.
-/
def creationRank
    (live : List ThreadInfo)
    (thread : ThreadInfo) : Nat :=
  (live.filter
    (fun other =>
      other.signature = thread.signature ∧
        other.creationSequence ≤
          thread.creationSequence)).length

theorem snapshotThreads_eq_ok_iff
    {trace : Option ThreadTrace}
    {threads : List ThreadInfo} :
    snapshotThreads trace = .ok threads ↔
      ∃ answer, trace = some answer ∧
        answer.live.length ≤ answer.count ∧
        threads = answer.live.insertionSort createdBefore := by
  unfold snapshotThreads
  cases trace with
  | none => simp
  | some answer =>
      simp only
      split
      next hMore =>
        constructor
        · intro hOk
          cases hOk
        · rintro ⟨other, hSome, hFits, _⟩
          cases Option.some.inj hSome
          omega
      next hFits =>
        constructor
        · intro hOk
          exact ⟨answer, rfl, by omega,
            (Except.ok.inj hOk).symm⟩
        · rintro ⟨other, hSome, _, hEq⟩
          cases Option.some.inj hSome
          rw [hEq]

instance : Std.Total createdBefore where
  total left right :=
    Nat.le_total left.creationSequence right.creationSequence

instance : IsTrans ThreadInfo createdBefore where
  trans _ _ _ hFirst hSecond := Nat.le_trans hFirst hSecond

/- Distinct sequence numbers are strictly sorted. -/
theorem snapshot_pairwise_lt
    {live : List ThreadInfo}
    (hSequences :
      (live.map ThreadInfo.creationSequence).Nodup) :
    (live.insertionSort createdBefore).Pairwise
      (fun left right =>
        left.creationSequence < right.creationSequence) := by
  have hSorted :=
    List.pairwise_insertionSort createdBefore live
  have hPerm := List.perm_insertionSort createdBefore live
  have hDistinct :
      (live.insertionSort createdBefore).Pairwise
        (fun left right =>
          left.creationSequence ≠
            right.creationSequence) := by
    rw [← List.pairwise_map (R := (· ≠ ·))]
    exact (hPerm.map _).nodup_iff.mpr hSequences
  apply (hSorted.and hDistinct).imp
  intro left right hBoth
  exact lt_of_le_of_ne hBoth.1 hBoth.2

/-
  A slot of the sorted snapshot stands for the live thread
  with that signature and that creation rank.
-/
theorem ranked_snapshot
    {live : List ThreadInfo}
    (hSequences :
      (live.map ThreadInfo.creationSequence).Nodup)
    {slot : String × Nat}
    {thread : ThreadInfo}
    (hRanked :
      ranked ThreadInfo.signature
          (live.insertionSort createdBefore) slot =
        some thread) :
    thread ∈ live ∧ thread.signature = slot.1 ∧
      creationRank live thread = slot.2 := by
  have hPerm := List.perm_insertionSort createdBefore live
  rcases mem_of_ranked hRanked with ⟨hMember, hSignature⟩
  refine ⟨hPerm.mem_iff.mp hMember, hSignature, ?_⟩
  unfold ranked at hRanked
  split at hRanked
  · cases hRanked
  next hPositive =>
    have hClass :
        (classOf ThreadInfo.signature
          (live.insertionSort createdBefore)
          slot.1).Pairwise
          (fun left right =>
            left.creationSequence <
              right.creationSequence) :=
      (snapshot_pairwise_lt hSequences).filter _
    have hLength :=
      length_filter_le_of_getElem? hClass hRanked
    have hRank :
        creationRank live thread =
          ((classOf ThreadInfo.signature
            (live.insertionSort createdBefore)
            slot.1).filter
            (fun other =>
              other.creationSequence ≤
                thread.creationSequence)).length := by
      unfold creationRank classOf
      rw [List.filter_filter]
      apply List.Perm.length_eq
      have hFilter :=
        (hPerm.filter
          (fun other =>
            other.signature = thread.signature ∧
              other.creationSequence ≤
                thread.creationSequence)).symm
      refine hFilter.trans (List.Perm.of_eq ?_)
      apply List.filter_congr
      intro other _
      rw [hSignature, Bool.decide_and, Bool.and_comm]
    rw [hRank, hLength]
    omega

end Scheduler

end RsCamera
