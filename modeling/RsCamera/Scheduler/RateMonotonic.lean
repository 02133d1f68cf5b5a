import RsCamera.Scheduler.Apply

/-
  The priorities of a rate-monotonic profile: what an
  application that returns has assigned, and when none is
  possible.

  Key definitions include:
    * `AssignedTo`
    * `RateMonotonicSchedule`

  Key theorems include:
    * `assignPriorities_getElem?`
    * `planRateMonotonic_schedule`
    * `applyRateMonotonicProfile_schedules`
-/

------------------------------------------------------------
-- Schedules
------------------------------------------------------------

namespace RsCamera

namespace Scheduler

/-
  An assignment carries out a row: the thread has the
  signature of the row, and its rank in creation order is
  the instance number.
-/
structure AssignedTo
    (live : List ThreadInfo)
    (row : ProfileEntry)
    (assignment : Assignment FixedPriority) : Prop where
  thread :
    ∃ thread ∈ live,
      assignment.tid = thread.tid ∧
      thread.signature = row.signature ∧
      creationRank live thread = row.instanceNumber
  signature : assignment.signature = row.signature
  instanceNumber :
    assignment.instanceNumber = row.instanceNumber
  name : assignment.name = row.name
  period : assignment.parameters.periodNs = row.periodNs

/-
  The rate-monotonic assignments of the rows to the live
  threads: one row for each thread, shorter periods before
  longer ones, and no gap between the priorities.
-/
structure RateMonotonicSchedule
    (minimum maximum : Int)
    (rows : List ProfileEntry)
    (live : List ThreadInfo)
    (lowest highest : Int)
    (assignments : List (Assignment FixedPriority)) :
    Prop where
  rows_assigned :
    List.Forall₂ (AssignedTo live) rows assignments
  threads_assigned :
    (assignments.map Assignment.tid).Perm
      (live.map ThreadInfo.tid)
  period_lt_iff :
    ∀ a ∈ assignments, ∀ b ∈ assignments,
      a.parameters.periodNs < b.parameters.periodNs ↔
        b.parameters.priority < a.parameters.priority
  period_eq_iff :
    ∀ a ∈ assignments, ∀ b ∈ assignments,
      a.parameters.periodNs = b.parameters.periodNs ↔
        a.parameters.priority = b.parameters.priority
  priorities_used :
    ∀ priority,
      (∃ a ∈ assignments,
        a.parameters.priority = priority) ↔
        lowest ≤ priority ∧ priority ≤ highest
  minimum_le : minimum ≤ lowest
  le_maximum : highest ≤ maximum

------------------------------------------------------------
-- Priorities Of Periods
------------------------------------------------------------

theorem mem_uniquePeriods
    {profile : List ProfileEntry}
    {period : Nat} :
    period ∈ (uniquePeriods profile).toList ↔
      ∃ entry ∈ profile, entry.periodNs = period := by
  rw [Std.TreeSet.mem_toList]
  unfold uniquePeriods
  induction profile using List.reverseRecOn with
  | nil => simp
  | append_singleton profile entry ih =>
      rw [List.foldl_append, List.foldl_cons, List.foldl_nil,
        Std.TreeSet.mem_insert, ih]
      simp only [Std.LawfulEqOrd.compare_eq_iff_eq,
        List.mem_append, List.mem_singleton]
      constructor
      · rintro (hEq | ⟨other, hMember, hEq⟩)
        · exact ⟨entry, Or.inr rfl, hEq⟩
        · exact ⟨other, Or.inl hMember, hEq⟩
      · rintro ⟨other, hMember | hLast, hEq⟩
        · exact Or.inr ⟨other, hMember, hEq⟩
        · exact Or.inl (hLast ▸ hEq)

theorem size_uniquePeriods_le
    (profile : List ProfileEntry) :
    (uniquePeriods profile).size ≤ profile.length := by
  unfold uniquePeriods
  induction profile using List.reverseRecOn with
  | nil => simp
  | append_singleton profile entry ih =>
      rw [List.foldl_append, List.foldl_cons, List.foldl_nil,
        List.length_append, List.length_singleton]
      have hInsert :=
        Std.TreeSet.size_insert_le
          (t := profile.foldl
            (fun periods entry =>
              periods.insert entry.periodNs)
            (∅ : Std.TreeSet Nat))
          (k := entry.periodNs)
      omega

theorem pairwise_uniquePeriods
    (profile : List ProfileEntry) :
    (uniquePeriods profile).toList.Pairwise
      (fun left right => left < right) := by
  apply (Std.TreeSet.ordered_toList
    (t := uniquePeriods profile)).imp
  intro left right hLess
  exact Nat.compare_eq_lt.mp hLess

/- Each period has the priority of its position. -/
theorem assignPriorities_getElem?
    {periods : List Nat}
    (hNodup : periods.Nodup)
    (highest : Int)
    (priorities : Std.TreeMap Nat Int)
    (period : Nat) :
    (assignPriorities periods highest priorities)[period]? =
      if period ∈ periods ∧ period ∉ priorities then
        some (highest - periods.idxOf period)
      else
        priorities[period]? := by
  induction periods generalizing highest priorities with
  | nil => simp [assignPriorities]
  | cons first periods ih =>
      rcases List.nodup_cons.mp hNodup with ⟨hFresh, hRest⟩
      rw [assignPriorities, ih hRest]
      simp only [Std.TreeMap.getElem?_insertIfNew,
        Std.TreeMap.mem_insertIfNew,
        Std.LawfulEqOrd.compare_eq_iff_eq, List.mem_cons]
      by_cases hFirst : first = period
      · subst hFirst
        by_cases hMember : first ∈ priorities
        · simp [hMember]
        · simp [hMember, hFresh]
      · have hOther : ¬ period = first := fun hEq =>
          hFirst hEq.symm
        rw [List.idxOf_cons_ne _ hFirst]
        by_cases hLater :
            period ∈ periods ∧ period ∉ priorities
        · simp only [hFirst, hOther, hLater, false_or,
            not_false_eq_true, and_self, if_true]
          congr 1
          push_cast
          omega
        · simp only [hFirst, hOther, hLater, false_or,
            false_and, if_false]

------------------------------------------------------------
-- Plans Are Schedules
------------------------------------------------------------

open Ranking

section Plans

variable {profile : List ProfileEntry}
variable {highest : Int}

/- A planned assignment has the priority of its period. -/
theorem fixedPriority_eq_ok
    {entry : ProfileEntry}
    (hEntry : entry ∈ profile)
    {parameters : FixedPriority}
    (hOk :
      entry.fixedPriority
          (assignPriorities (uniquePeriods profile).toList
            highest ∅) =
        .ok parameters) :
    parameters.periodNs = entry.periodNs ∧
      parameters.priority =
        highest -
          (uniquePeriods profile).toList.idxOf
            entry.periodNs := by
  have hPeriod :
      entry.periodNs ∈ (uniquePeriods profile).toList :=
    mem_uniquePeriods.mpr ⟨entry, hEntry, rfl⟩
  have hNodup : (uniquePeriods profile).toList.Nodup :=
    (pairwise_uniquePeriods profile).imp (fun hLess => hLess.ne)
  unfold ProfileEntry.fixedPriority at hOk
  rw [assignPriorities_getElem? hNodup, if_pos ⟨hPeriod, by simp⟩]
    at hOk
  rw [← Except.ok.inj hOk]
  exact ⟨rfl, rfl⟩

/- The priorities and the periods of planned assignments. -/
structure Planned
    (profile : List ProfileEntry)
    (highest : Int)
    (assignments : List (Assignment FixedPriority)) :
    Prop where
  period_mem :
    ∀ a ∈ assignments,
      a.parameters.periodNs ∈ (uniquePeriods profile).toList
  priority :
    ∀ a ∈ assignments,
      a.parameters.priority =
        highest -
          (uniquePeriods profile).toList.idxOf
            a.parameters.periodNs
  period_used :
    ∀ period ∈ (uniquePeriods profile).toList,
      ∃ a ∈ assignments, a.parameters.periodNs = period

variable {assignments : List (Assignment FixedPriority)}

theorem planned_of_matches
    {threads : List ThreadInfo}
    (hMatches :
      List.Forall₂
        (Matches
          (ProfileEntry.fixedPriority
            (assignPriorities (uniquePeriods profile).toList
              highest ∅))
          threads)
        profile assignments) :
    Planned profile highest assignments := by
  have hEach :
      ∀ a ∈ assignments, ∃ entry ∈ profile,
        a.parameters.periodNs = entry.periodNs ∧
        a.parameters.priority =
          highest -
            (uniquePeriods profile).toList.idxOf
              entry.periodNs := by
    intro a hMember
    rcases exists_left_of_mem hMatches hMember with
      ⟨entry, hEntry, hMatch⟩
    exact ⟨entry, hEntry,
      fixedPriority_eq_ok hEntry hMatch.parameters⟩
  constructor
  · intro a hMember
    rcases hEach a hMember with ⟨entry, hEntry, hPeriod, _⟩
    exact mem_uniquePeriods.mpr ⟨entry, hEntry, hPeriod.symm⟩
  · intro a hMember
    rcases hEach a hMember with ⟨entry, _, hPeriod, hPriority⟩
    rw [hPeriod]
    exact hPriority
  · intro period hPeriod
    rcases mem_uniquePeriods.mp hPeriod with
      ⟨entry, hEntry, hEq⟩
    rcases exists_left_of_mem hMatches.flip hEntry with
      ⟨a, hMember, hMatch⟩
    refine ⟨a, hMember, ?_⟩
    rw [← hEq]
    exact (fixedPriority_eq_ok hEntry hMatch.parameters).1

/- Shorter periods have higher priorities. -/
theorem Planned.period_lt_iff
    (hPlanned : Planned profile highest assignments)
    {a b : Assignment FixedPriority}
    (hA : a ∈ assignments)
    (hB : b ∈ assignments) :
    a.parameters.periodNs < b.parameters.periodNs ↔
      b.parameters.priority < a.parameters.priority := by
  have hOrder :=
    idxOf_lt_idxOf_iff (pairwise_uniquePeriods profile)
      (hPlanned.period_mem a hA) (hPlanned.period_mem b hB)
  rw [← hOrder, hPlanned.priority a hA,
    hPlanned.priority b hB]
  omega

theorem Planned.period_eq_iff
    (hPlanned : Planned profile highest assignments)
    {a b : Assignment FixedPriority}
    (hA : a ∈ assignments)
    (hB : b ∈ assignments) :
    a.parameters.periodNs = b.parameters.periodNs ↔
      a.parameters.priority = b.parameters.priority := by
  have hLess := hPlanned.period_lt_iff hA hB
  have hGreater := hPlanned.period_lt_iff hB hA
  omega

/- The priorities run from the highest down, with no gap. -/
theorem Planned.priorities_used
    (hPlanned : Planned profile highest assignments)
    (priority : Int) :
    (∃ a ∈ assignments, a.parameters.priority = priority) ↔
      highest - (uniquePeriods profile).size + 1 ≤ priority ∧
        priority ≤ highest := by
  have hSize :
      (uniquePeriods profile).toList.length =
        (uniquePeriods profile).size :=
    Std.TreeSet.length_toList
  constructor
  · rintro ⟨a, hMember, hEq⟩
    have hBound :=
      List.idxOf_lt_length_of_mem
        (hPlanned.period_mem a hMember)
    have hPriority := hPlanned.priority a hMember
    omega
  · rintro ⟨hLow, hHigh⟩
    have hIndex :
        (highest - priority).toNat <
          (uniquePeriods profile).toList.length := by
      omega
    rcases hPlanned.period_used _
        (List.getElem_mem hIndex) with
      ⟨a, hMember, hPeriod⟩
    refine ⟨a, hMember, ?_⟩
    have hNodup : (uniquePeriods profile).toList.Nodup :=
      (pairwise_uniquePeriods profile).imp
        (fun hLess => hLess.ne)
    rw [hPlanned.priority a hMember, hPeriod,
      hNodup.idxOf_getElem _ hIndex]
    omega

theorem toInt_of_lt
    {size : Nat}
    (hSize : size < 2 ^ 31) :
    toInt size = size := by
  unfold toInt
  rw [Int.bmod_eq_of_le]
  · omega
  · omega

/- A matched entry is carried out by its assignment. -/
theorem assignedTo_of_matches
    {live : List ThreadInfo}
    (hSequences :
      (live.map ThreadInfo.creationSequence).Nodup)
    {entry : ProfileEntry}
    (hEntry : entry ∈ profile)
    {assignment : Assignment FixedPriority}
    (hMatch :
      Matches
        (ProfileEntry.fixedPriority
          (assignPriorities (uniquePeriods profile).toList
            highest ∅))
        (live.insertionSort createdBefore) entry
        assignment) :
    AssignedTo live entry assignment := by
  rcases hMatch.thread with ⟨thread, hRanked, hTid⟩
  rcases ranked_snapshot hSequences hRanked with
    ⟨hMember, hSignature, hRank⟩
  exact ⟨⟨thread, hMember, hTid, hSignature, hRank⟩,
    hMatch.signature, hMatch.instanceNumber, hMatch.name,
    (fixedPriority_eq_ok hEntry hMatch.parameters).1⟩

end Plans

/- A plan that is made is a rate-monotonic schedule. -/
theorem matchRateMonotonic_schedule
    {path policyName : String}
    {minimum maximum highest : Int}
    {profile : List ProfileEntry}
    {live : List ThreadInfo}
    {plan : RateMonotonicApplication}
    (hKeys : (profile.map ProfileEntry.key).Nodup)
    (hTids : (live.map ThreadInfo.tid).Nodup)
    (hSequences :
      (live.map ThreadInfo.creationSequence).Nodup)
    (hMaximum : highest ≤ maximum)
    (hPlan :
      matchRateMonotonic path policyName minimum highest
          profile (live.insertionSort createdBefore) =
        .ok plan) :
    RateMonotonicSchedule minimum maximum profile live
      plan.lowestPriority highest plan.assignments := by
  rcases matchRateMonotonic_eq_ok hPlan with
    ⟨hCount, _, _, hLowest, hMinimum, hEntries⟩
  have hPerm := List.perm_insertionSort createdBefore live
  have hSortedTids :
      ((live.insertionSort createdBefore).map
        ThreadInfo.tid).Nodup :=
    (hPerm.map _).nodup_iff.mpr hTids
  have hThreads := length_lt_of_nodup_tids hSortedTids
  have hLive :
      (liveThreads
          (live.insertionSort createdBefore)).live.size =
        (live.insertionSort createdBefore).length :=
    (liveThreads_numbers (by omega)).size
  have hMatches :=
    (matchEntries_eq_ok_iff (by omega)).mp hEntries
  have hPlanned := planned_of_matches hMatches
  have hLevels := size_uniquePeriods_le profile
  have hBand :
      plan.lowestPriority =
        highest - (uniquePeriods profile).size + 1 := by
    rw [hLowest, toInt_of_lt (by omega)]
  constructor
  · refine List.forall₂_iff_get.mpr ⟨hMatches.length_eq, ?_⟩
    intro i hRow hAssignment
    exact assignedTo_of_matches hSequences
      (List.get_mem profile ⟨i, hRow⟩)
      (hMatches.get hRow hAssignment)
  · exact (Matches.tids_perm hSortedTids hKeys (by omega)
      hMatches).trans (hPerm.map _)
  · exact fun a hA b hB => hPlanned.period_lt_iff hA hB
  · exact fun a hA b hB => hPlanned.period_eq_iff hA hB
  · rw [hBand]
    exact hPlanned.priorities_used
  · exact hMinimum
  · exact hMaximum

/- Marking the assignments as made keeps a schedule. -/
theorem RateMonotonicSchedule.made
    {minimum maximum lowest highest : Int}
    {rows : List ProfileEntry}
    {live : List ThreadInfo}
    {assignments : List (Assignment FixedPriority)}
    (hSchedule :
      RateMonotonicSchedule minimum maximum rows live lowest
        highest assignments) :
    RateMonotonicSchedule minimum maximum rows live lowest
      highest (assignments.map Assignment.made) := by
  have hTids :
      (assignments.map Assignment.made).map Assignment.tid =
        assignments.map Assignment.tid := by
    rw [List.map_map]
    rfl
  constructor
  · rw [List.forall₂_map_right_iff]
    apply hSchedule.rows_assigned.imp
    intro row assignment hAssigned
    exact ⟨hAssigned.thread, hAssigned.signature,
      hAssigned.instanceNumber, hAssigned.name,
      hAssigned.period⟩
  · rw [hTids]
    exact hSchedule.threads_assigned
  · simp only [List.forall_mem_map]
    exact hSchedule.period_lt_iff
  · simp only [List.forall_mem_map]
    exact hSchedule.period_eq_iff
  · intro priority
    rw [← hSchedule.priorities_used priority]
    simp only [List.mem_map, exists_exists_and_eq_and]
    rfl
  · exact hSchedule.minimum_le
  · exact hSchedule.le_maximum

theorem planRateMonotonic_schedule
    {env : Environment}
    {path : String}
    {policy : Policy}
    {highest : Int}
    {profile : List ProfileEntry}
    {trace : ThreadTrace}
    (hLoad : loadProfile path (env.files path) = .ok profile)
    (hTrace : env.trace = some trace)
    (hTids : (trace.live.map ThreadInfo.tid).Nodup)
    (hSequences :
      (trace.live.map ThreadInfo.creationSequence).Nodup)
    {plan : RateMonotonicApplication}
    (hPlan :
      planRateMonotonic env path policy highest = .ok plan) :
    plan.highestPriority = highest ∧
      RateMonotonicSchedule (env.priorityMin policy)
        (env.priorityMax policy) profile trace.live
        plan.lowestPriority highest plan.assignments := by
  rcases planRateMonotonic_eq_ok_iff.mp hPlan with
    ⟨_, hRange, policyName, loaded, threads, _, hLoaded,
      hSnapshot, hMatched⟩
  rw [hLoad] at hLoaded
  cases Except.ok.inj hLoaded
  rcases snapshotThreads_eq_ok_iff.mp hSnapshot with
    ⟨answer, hAnswer, _, hThreads⟩
  rw [hTrace] at hAnswer
  cases Option.some.inj hAnswer
  rw [hThreads] at hMatched
  exact ⟨(matchRateMonotonic_eq_ok hMatched).2.2.1,
    matchRateMonotonic_schedule
      (loadProfile_accepts hLoad).keys hTids hSequences
      hRange.2 hMatched⟩

/-
  An application that returns has carried out a
  rate-monotonic schedule of all live threads; where there
  is none, it fails before the first call.
-/
theorem applyRateMonotonicProfile_schedules
    (env : Environment)
    (path : String)
    (policy : Policy)
    (highest : Int)
    (profile : List ProfileEntry)
    (trace : ThreadTrace)
    (hLoad : loadProfile path (env.files path) = .ok profile)
    (hTrace : env.trace = some trace)
    (hTids : (trace.live.map ThreadInfo.tid).Nodup)
    (hSequences :
      (trace.live.map ThreadInfo.creationSequence).Nodup)
    (kernel : Kernel) :
    (∀ result after,
      applyRateMonotonicProfile env path policy highest
          kernel = (.ok result, after) →
        result.highestPriority = highest ∧
        RateMonotonicSchedule (env.priorityMin policy)
          (env.priorityMax policy) profile trace.live
          result.lowestPriority result.highestPriority
          result.assignments) ∧
    ((¬ ∃ lowest assignments,
        RateMonotonicSchedule (env.priorityMin policy)
          (env.priorityMax policy) profile trace.live lowest
          highest assignments) →
      ∃ message,
        applyRateMonotonicProfile env path policy highest
            kernel = (.error message, kernel)) := by
  unfold applyRateMonotonicProfile
  cases hPlan : planRateMonotonic env path policy highest with
  | error message =>
      constructor
      · intro result after hOk
        cases (Prod.mk.inj hOk).1
      · intro _
        exact ⟨message, rfl⟩
  | ok plan =>
      rcases planRateMonotonic_schedule hLoad hTrace hTids
          hSequences hPlan with
        ⟨hHighest, hSchedule⟩
      constructor
      · intro result after hOk
        rw [runPlan_eq_ok hOk]
        refine ⟨hHighest, ?_⟩
        rw [hHighest]
        exact hSchedule.made
      · intro hNone
        exact absurd ⟨_, _, hSchedule⟩ hNone

/-
  Three workers on two periods: the slower one is a level
  below the two that share a period.
-/
def threeWorkers : Environment where
  files _ :=
    some (writeProfile
      [⟨"capture", 1, "rs-wait-0", 100, 200, 200⟩,
        ⟨"capture", 2, "rs-wait-1", 100, 200, 200⟩,
        ⟨"depth", 1, "", 100, 500, 500⟩])
  trace :=
    some
      { count := 3
        live :=
          [⟨⟨73, by decide⟩, 9, "depth"⟩,
            ⟨⟨72, secondWorker_isTid⟩, 5, "capture"⟩,
            ⟨⟨71, firstWorker_isTid⟩, 2, "capture"⟩] }
  errors _ := 0
  strerror _ := "Success"
  priorityMin _ := 1
  priorityMax _ := 99

/- What the application of `threeWorkers` returns. -/
def threeWorkersResult : RateMonotonicApplication where
  profilePath := "profile.csv"
  policy := "SCHED_RR"
  highestPriority := 80
  lowestPriority := 79
  priorityLevels := 2
  profileEntries := 3
  liveThreads := 3
  assignments :=
    [⟨⟨71, firstWorker_isTid⟩, "capture", 1, "rs-wait-0",
        ⟨200, 80⟩, true, 0⟩,
      ⟨⟨72, secondWorker_isTid⟩, "capture", 2, "rs-wait-1",
        ⟨200, 80⟩, true, 0⟩,
      ⟨⟨73, by decide⟩, "depth", 1, "", ⟨500, 79⟩, true, 0⟩]

theorem threeWorkers_loads :
    loadProfile "profile.csv"
        (threeWorkers.files "profile.csv") =
      .ok
        [⟨"capture", 1, "rs-wait-0", 100, 200, 200⟩,
          ⟨"capture", 2, "rs-wait-1", 100, 200, 200⟩,
          ⟨"depth", 1, "", 100, 500, 500⟩] := by
  decide +kernel

theorem threeWorkers_scheduled :
    (applyRateMonotonicProfile threeWorkers "profile.csv" .rr
        80 ⟨fun _ => {}, []⟩).1 = .ok threeWorkersResult ∧
      RateMonotonicSchedule 1 99
        [⟨"capture", 1, "rs-wait-0", 100, 200, 200⟩,
          ⟨"capture", 2, "rs-wait-1", 100, 200, 200⟩,
          ⟨"depth", 1, "", 100, 500, 500⟩]
        [⟨⟨73, by decide⟩, 9, "depth"⟩,
          ⟨⟨72, by decide⟩, 5, "capture"⟩,
          ⟨⟨71, by decide⟩, 2, "capture"⟩]
        79 80 threeWorkersResult.assignments := by
  have hOk :
      (applyRateMonotonicProfile threeWorkers "profile.csv"
          .rr 80 ⟨fun _ => {}, []⟩).1 =
        .ok threeWorkersResult := by
    rw [applyRateMonotonicProfile, planRateMonotonic_of_load
      rfl (by decide) (by decide) threeWorkers_loads]
    decide +kernel
  refine ⟨hOk, ?_⟩
  cases hRun :
      applyRateMonotonicProfile threeWorkers "profile.csv" .rr 80
        ⟨fun _ => {}, []⟩ with
  | mk outcome after =>
      rw [hRun] at hOk
      simp only at hOk
      rw [hOk] at hRun
      exact ((applyRateMonotonicProfile_schedules threeWorkers
        "profile.csv" .rr 80
        [⟨"capture", 1, "rs-wait-0", 100, 200, 200⟩,
          ⟨"capture", 2, "rs-wait-1", 100, 200, 200⟩,
          ⟨"depth", 1, "", 100, 500, 500⟩]
        { count := 3
          live :=
            [⟨⟨73, by decide⟩, 9, "depth"⟩,
              ⟨⟨72, by decide⟩, 5, "capture"⟩,
              ⟨⟨71, by decide⟩, 2, "capture"⟩] }
        threeWorkers_loads rfl (by decide +kernel)
        (by decide +kernel) ⟨fun _ => {}, []⟩).1
        threeWorkersResult after hRun).2

end Scheduler

end RsCamera
