import RsCamera.Generator.Bounds
import RsCamera.Scheduler.Apply
import RsCamera.Scheduler.Written

/-
  The generator numbers the threads of a signature by the
  time they started, the probe by the order they were
  created.  The two orders can differ, and it does not
  matter: what a thread is assigned depends on its signature
  alone.

  A set of live threads is given by thread ids and
  signatures.  The tracer may show it with any creation
  sequence, for one with the order of the start times.

  Key definitions include:
    * `ThreadTrace.Shows`
    * `assignedParameters`, `roleParameters`

  Key theorems include:
    * `assignedParameters_of_matches`
    * `planDeadline_ok_iff`
    * `applyDeadlineProfile_by_signature`
-/

------------------------------------------------------------
-- Assigned Parameters
------------------------------------------------------------

namespace RsCamera

namespace Scheduler

section

open Ranking

/- What a thread is given by a list of assignments. -/
def assignedParameters
    {P : Type}
    (assignments : List (Assignment P))
    (tid : Tid) : List P :=
  (assignments.filter (fun a => a.tid = tid)).map
    Assignment.parameters

/- The parameters that the rows have for a signature. -/
def roleParameters
    (rows : List ProfileEntry)
    (signature : String) : List DeadlineParameters :=
  ((rows.find? (fun row => row.signature = signature)).map
    ProfileEntry.deadlineParameters).toList

/- Rows of one signature have the same parameters. -/
def SharedParameters (rows : List ProfileEntry) : Prop :=
  ∀ row ∈ rows, ∀ row' ∈ rows,
    row.signature = row'.signature →
      row.deadlineParameters = row'.deadlineParameters

/- As many threads as rows, for each signature with rows. -/
def SameCounts
    (rows : List ProfileEntry)
    (threads : List (Tid × String)) : Prop :=
  ∀ row ∈ rows,
    (threads.filter
      (fun thread => thread.2 = row.signature)).length =
    (rows.filter
      (fun other => other.signature = row.signature)).length

end

------------------------------------------------------------
-- Matched By Signature
------------------------------------------------------------

section

open Ranking

section Matched

variable {threads : List ThreadInfo}
variable {profile : List ProfileEntry}
variable {assignments : List (Assignment DeadlineParameters)}

/- An assignment of a thread is for its signature. -/
theorem Matches.entry_of_tid
    {parameters : ProfileEntry → Except String
      DeadlineParameters}
    (hTids : (threads.map ThreadInfo.tid).Nodup)
    (hMatches :
      List.Forall₂ (Matches parameters threads) profile
        assignments)
    {thread : ThreadInfo}
    (hThread : thread ∈ threads)
    {assignment : Assignment DeadlineParameters}
    (hMember : assignment ∈ assignments)
    (hTid : assignment.tid = thread.tid) :
    ∃ entry ∈ profile,
      entry.signature = thread.signature ∧
        parameters entry = .ok assignment.parameters := by
  rcases exists_left_of_mem hMatches hMember with
    ⟨entry, hEntry, hMatch⟩
  rcases hMatch.thread with ⟨found, hRanked, hFound⟩
  rcases mem_of_ranked hRanked with ⟨hLive, hSignature⟩
  have hSame : found = thread :=
    List.inj_on_of_nodup_map hTids hLive hThread
      (hFound.symm.trans hTid)
  refine ⟨entry, hEntry, ?_, hMatch.parameters⟩
  rw [← hSame]
  exact hSignature.symm

/- No thread is assigned twice. -/
theorem Matches.nodup_tids
    {parameters : ProfileEntry → Except String
      DeadlineParameters}
    (hTids : (threads.map ThreadInfo.tid).Nodup)
    (hKeys : (profile.map ProfileEntry.key).Nodup)
    (hMatches :
      List.Forall₂ (Matches parameters threads) profile
        assignments) :
    (assignments.map Assignment.tid).Nodup := by
  rcases Matches.exists_picks hMatches with
    ⟨picks, hPicks, hEq⟩
  have hDistinct :=
    nodup_of_ranked hTids.of_map hKeys hPicks
  rw [hEq]
  apply List.Nodup.map_on _ hDistinct
  intro left hLeft right hRight hSame
  rcases exists_left_of_mem hPicks hLeft with ⟨_, _, hAt⟩
  rcases exists_left_of_mem hPicks hRight with ⟨_, _, hAt'⟩
  exact List.inj_on_of_nodup_map hTids (mem_of_ranked hAt).1
    (mem_of_ranked hAt').1 hSame

/- A signature with enough rows has all threads assigned. -/
theorem Matches.tid_mem
    {parameters : ProfileEntry → Except String
      DeadlineParameters}
    (hTids : (threads.map ThreadInfo.tid).Nodup)
    (hKeys : (profile.map ProfileEntry.key).Nodup)
    (hMatches :
      List.Forall₂ (Matches parameters threads) profile
        assignments)
    {thread : ThreadInfo}
    (hThread : thread ∈ threads)
    (hCount :
      (classOf ThreadInfo.signature threads
        thread.signature).length ≤
      (profile.filter (fun entry =>
        entry.signature = thread.signature)).length) :
    thread.tid ∈ assignments.map Assignment.tid := by
  rcases Matches.exists_picks hMatches with
    ⟨picks, hPicks, hEq⟩
  have hSlots :
      ((profile.map ProfileEntry.key).filter
        (fun slot => slot.1 = thread.signature)).length =
      (profile.filter (fun entry =>
        entry.signature = thread.signature)).length := by
    rw [List.filter_map, List.length_map]
    rfl
  have hClass :
      (classOf ThreadInfo.signature picks
          thread.signature).Perm
        (classOf ThreadInfo.signature threads
          thread.signature) := by
    apply perm_classOf_of_ranked hTids.of_map hKeys hPicks
    rw [hSlots]
    exact hCount
  have hPick :=
    hClass.mem_iff.mpr (mem_classOf.mpr ⟨hThread, rfl⟩)
  rw [hEq]
  exact List.mem_map_of_mem (mem_classOf.mp hPick).1

/-
  With as many threads as entries for each signature, every
  thread is given the parameters of its signature.
-/
theorem assignedParameters_of_matches
    (hTids : (threads.map ThreadInfo.tid).Nodup)
    (hKeys : (profile.map ProfileEntry.key).Nodup)
    (hShared : SharedParameters profile)
    (hCounts :
      SameCounts profile
        (threads.map (fun t => (t.tid, t.signature))))
    (hMatches :
      List.Forall₂
        (Matches
          (fun entry => .ok entry.deadlineParameters) threads)
        profile assignments)
    {thread : ThreadInfo}
    (hThread : thread ∈ threads) :
    assignedParameters assignments thread.tid =
      roleParameters profile thread.signature := by
  unfold assignedParameters roleParameters
  cases hFind :
      profile.find?
        (fun row => row.signature = thread.signature) with
  | none =>
      have hNone :
          assignments.filter
            (fun a => a.tid = thread.tid) = [] := by
        rw [List.filter_eq_nil_iff]
        intro a hMember hTid
        rcases Matches.entry_of_tid hTids hMatches hThread
            hMember (of_decide_eq_true hTid) with
          ⟨entry, hEntry, hSignature, _⟩
        exact List.find?_eq_none.mp hFind entry hEntry
          (decide_eq_true hSignature)
      rw [hNone]
      rfl
  | some first =>
      have hFirst : first ∈ profile :=
        List.mem_of_find?_eq_some hFind
      have hSignature :
          first.signature = thread.signature := by
        simpa using List.find?_some hFind
      have hCount :
          (classOf ThreadInfo.signature threads
            thread.signature).length ≤
          (profile.filter (fun entry =>
            entry.signature = thread.signature)).length := by
        have hEq := hCounts first hFirst
        rw [List.filter_map, List.length_map,
          hSignature] at hEq
        exact le_of_eq hEq
      rcases List.mem_map.mp
          (Matches.tid_mem hTids hKeys hMatches hThread
            hCount) with
        ⟨a, hMember, hTid⟩
      rcases Matches.entry_of_tid hTids hMatches hThread
          hMember hTid with
        ⟨entry, hEntry, hEntrySignature, hParameters⟩
      have hEqual :=
        hShared entry hEntry first hFirst
          (hEntrySignature.trans hSignature.symm)
      rw [← hTid,
        filter_eq_singleton
          (Matches.nodup_tids hTids hKeys hMatches) hMember]
      simp only [List.map_cons, List.map_nil, Option.map_some,
        Option.toList_some]
      rw [← Except.ok.inj hParameters, hEqual]

end Matched

end

------------------------------------------------------------
-- Snapshots Of The Same Threads
------------------------------------------------------------

section

open Ranking

/-
  A snapshot of a set of threads: all of them are shown, in
  any order and with any creation sequence.
-/
def ThreadTrace.Shows
    (trace : ThreadTrace)
    (threads : List (Tid × String)) : Prop :=
  (trace.live.map (fun t => (t.tid, t.signature))).Perm
      threads ∧
    trace.live.length ≤ trace.count

/- The same environment with another snapshot. -/
def Environment.withTrace
    (env : Environment)
    (trace : ThreadTrace) : Environment :=
  { env with trace := some trace }

variable {trace : ThreadTrace}

/- The snapshot in creation order has the same threads. -/
theorem ThreadTrace.Shows.sorted_perm
    {threads : List (Tid × String)}
    (hShows : trace.Shows threads) :
    ((trace.live.insertionSort createdBefore).map
      (fun t => (t.tid, t.signature))).Perm threads :=
  ((List.perm_insertionSort createdBefore trace.live).map
    _).trans hShows.1

theorem ThreadTrace.Shows.nodup_tids
    {threads : List (Tid × String)}
    (hShows : trace.Shows threads)
    (hTids : (threads.map Prod.fst).Nodup) :
    ((trace.live.insertionSort createdBefore).map
      ThreadInfo.tid).Nodup := by
  have hPerm := hShows.sorted_perm.map Prod.fst
  rw [List.map_map] at hPerm
  exact hPerm.nodup_iff.mpr hTids

theorem ThreadTrace.Shows.length_classOf
    {threads : List (Tid × String)}
    (hShows : trace.Shows threads)
    (signature : String) :
    (classOf ThreadInfo.signature
      (trace.live.insertionSort createdBefore)
      signature).length =
    (threads.filter
      (fun thread => thread.2 = signature)).length := by
  have hLength :=
    (hShows.sorted_perm.filter
      (fun thread => thread.2 = signature)).length_eq
  rw [List.filter_map, List.length_map] at hLength
  exact hLength

theorem SameCounts.of_shows
    {rows : List ProfileEntry}
    {threads : List (Tid × String)}
    (hCounts : SameCounts rows threads)
    (hShows : trace.Shows threads) :
    SameCounts rows
      ((trace.live.insertionSort createdBefore).map
        (fun t => (t.tid, t.signature))) := by
  intro row hRow
  rw [(hShows.sorted_perm.filter _).length_eq]
  exact hCounts row hRow

/- An entry has a thread when its number is a rank. -/
theorem matchEntry_ok_iff
    {P : Type}
    {kind : String}
    {parameters : ProfileEntry → P}
    {threads : List ThreadInfo}
    (hLength : threads.length < 2 ^ 32)
    {entry : ProfileEntry} :
    (∃ assignment,
      matchEntry kind (fun entry => .ok (parameters entry))
          (liveThreads threads) entry =
        .ok assignment) ↔
      1 ≤ entry.instanceNumber ∧
        entry.instanceNumber ≤
          (classOf ThreadInfo.signature threads
            entry.signature).length := by
  have hFind :=
    (liveThreads_numbers hLength).find entry.key
  have hSome :
      (ranked ThreadInfo.signature threads
        entry.key).isSome ↔
        1 ≤ entry.instanceNumber ∧
          entry.instanceNumber ≤
            (classOf ThreadInfo.signature threads
              entry.signature).length :=
    ranked_isSome_iff
  unfold matchEntry
  rw [hFind, ← hSome]
  cases ranked ThreadInfo.signature threads entry.key with
  | none => simp
  | some thread => simp [bind, Except.bind]

theorem matchDeadline_ok_iff
    {path : String}
    {requireAll : Bool}
    {profile : List ProfileEntry}
    {threads : List ThreadInfo}
    (hLength : threads.length < 2 ^ 32) :
    (∃ plan,
      matchDeadline path requireAll profile threads =
        .ok plan) ↔
      (requireAll = true →
        threads.length = profile.length) ∧
      profile.length ≤ threads.length ∧
      ∀ entry ∈ profile,
        1 ≤ entry.instanceNumber ∧
          entry.instanceNumber ≤
            (classOf ThreadInfo.signature threads
              entry.signature).length := by
  have hSize := (liveThreads_numbers hLength).size
  have hEntries :
      (∃ assignments,
        matchEntries "SCHED_DEADLINE"
            (fun entry => .ok entry.deadlineParameters)
            (liveThreads threads) profile =
          .ok assignments) ↔
      ∀ entry ∈ profile,
        1 ≤ entry.instanceNumber ∧
          entry.instanceNumber ≤
            (classOf ThreadInfo.signature threads
              entry.signature).length := by
    unfold matchEntries
    rw [mapM_ok_iff]
    simp only [matchEntry_ok_iff hLength]
  constructor
  · rintro ⟨plan, hPlan⟩
    rcases matchDeadline_eq_ok hPlan with
      ⟨hFits, hAll, hMatched⟩
    rw [hSize] at hFits hAll
    exact ⟨hAll, hFits, hEntries.mp ⟨_, hMatched⟩⟩
  · rintro ⟨hAll, hFits, hRanks⟩
    rcases hEntries.mpr hRanks with ⟨assignments, hMatched⟩
    unfold matchDeadline
    simp only [hSize]
    rw [if_neg, if_neg (by omega), hMatched]
    · exact ⟨_, rfl⟩
    · rintro ⟨hRequired, hDiffers⟩
      exact hDiffers (hAll hRequired)

/-
  Whether there is a plan depends on the threads alone, not
  on how the snapshot shows them.
-/
theorem planDeadline_ok_iff
    {env : Environment}
    {path : String}
    {requireAll : Bool}
    {threads : List (Tid × String)}
    (hTids : (threads.map Prod.fst).Nodup)
    (hShows : trace.Shows threads) :
    (∃ plan,
      planDeadline (env.withTrace trace) path requireAll =
        .ok plan) ↔
      env.sigactionError = 0 ∧
        ∃ profile,
          loadProfile path (env.files path) = .ok profile ∧
          (requireAll = true →
            threads.length = profile.length) ∧
          profile.length ≤ threads.length ∧
          ∀ entry ∈ profile,
            1 ≤ entry.instanceNumber ∧
              entry.instanceNumber ≤
                (threads.filter (fun thread =>
                  thread.2 = entry.signature)).length := by
  have hShort :=
    length_lt_of_nodup_tids (hShows.nodup_tids hTids)
  have hLength :
      (trace.live.insertionSort createdBefore).length =
        threads.length := by
    have hEq := hShows.sorted_perm.length_eq
    rw [List.length_map] at hEq
    exact hEq
  have hMatch :
      ∀ profile : List ProfileEntry,
        (∃ plan,
          matchDeadline path requireAll profile
              (trace.live.insertionSort createdBefore) =
            .ok plan) ↔
        (requireAll = true →
          threads.length = profile.length) ∧
        profile.length ≤ threads.length ∧
        ∀ entry ∈ profile,
          1 ≤ entry.instanceNumber ∧
            entry.instanceNumber ≤
              (threads.filter (fun thread =>
                thread.2 = entry.signature)).length := by
    intro profile
    rw [matchDeadline_ok_iff (by omega), hLength]
    simp only [hShows.length_classOf]
  constructor
  · rintro ⟨plan, hPlan⟩
    rcases planDeadline_eq_ok_iff.mp hPlan with
      ⟨hSignal, profile, sorted, hLoad, hSnapshot, hMatched⟩
    rcases snapshotThreads_eq_ok_iff.mp hSnapshot with
      ⟨answer, hAnswer, _, hSorted⟩
    cases Option.some.inj hAnswer
    rw [hSorted] at hMatched
    exact ⟨hSignal, profile, hLoad,
      (hMatch profile).mp ⟨plan, hMatched⟩⟩
  · rintro ⟨hSignal, profile, hLoad, hRanks⟩
    rcases (hMatch profile).mpr hRanks with
      ⟨plan, hMatched⟩
    refine ⟨plan, planDeadline_eq_ok_iff.mpr
      ⟨hSignal, profile, _, hLoad, ?_, hMatched⟩⟩
    exact snapshotThreads_eq_ok_iff.mpr
      ⟨trace, rfl, hShows.2, rfl⟩

end

------------------------------------------------------------
-- Rows And Assignments As They Are Returned
------------------------------------------------------------

theorem assignedParameters_made
    {P : Type}
    (assignments : List (Assignment P))
    (tid : Tid) :
    assignedParameters (assignments.map Assignment.made) tid =
      assignedParameters assignments tid := by
  unfold assignedParameters
  rw [List.filter_map, List.map_map]
  rfl

theorem SharedParameters.wrapped
    {rows : List ProfileEntry}
    (hShared : SharedParameters rows) :
    SharedParameters (rows.map ProfileEntry.wrapped) := by
  intro row hRow row' hRow' hSignature
  rcases List.mem_map.mp hRow with ⟨old, hOld, hEq⟩
  rcases List.mem_map.mp hRow' with ⟨old', hOld', hEq'⟩
  rw [← hEq, ← hEq'] at hSignature ⊢
  exact hShared old hOld old' hOld' hSignature

theorem SameCounts.wrapped
    {rows : List ProfileEntry}
    {threads : List (Tid × String)}
    (hCounts : SameCounts rows threads) :
    SameCounts (rows.map ProfileEntry.wrapped) threads := by
  intro row hRow
  rcases List.mem_map.mp hRow with ⟨old, hOld, hEq⟩
  rw [← hEq, List.filter_map, List.length_map]
  exact hCounts old hOld

theorem roleParameters_wrapped
    (rows : List ProfileEntry)
    (signature : String) :
    roleParameters (rows.map ProfileEntry.wrapped)
        signature =
      roleParameters rows signature := by
  unfold roleParameters
  rw [List.find?_map]
  cases hFind :
      rows.find? (fun row => row.signature = signature) with
  | none =>
      have hSame :
          rows.find?
            ((fun row : ProfileEntry =>
              decide (row.signature = signature)) ∘
              ProfileEntry.wrapped) = none := hFind
      rw [hSame]
      rfl
  | some row =>
      have hSame :
          rows.find?
            ((fun row : ProfileEntry =>
              decide (row.signature = signature)) ∘
              ProfileEntry.wrapped) = some row := hFind
      rw [hSame]
      rfl

end Scheduler

end RsCamera

------------------------------------------------------------
-- Generated Profiles
------------------------------------------------------------

namespace RsCamera

namespace Generator

open Scheduler

theorem generateProfile_shared
    {traceRuns : List TraceRun}
    {options : GeneratorOptions}
    {profile : GeneratedProfile}
    (hOk :
      generateProfile traceRuns options = .ok profile) :
    SharedParameters profile.rows := by
  rcases generateProfile_eq_ok hOk with
    ⟨_, _, perRun, expected, _, hRows⟩
  intro row hRow row' hRow' hSignature
  rcases hRows.shared row hRow row' hRow' hSignature with
    ⟨hRuntime, hDeadline, hPeriod⟩
  unfold ProfileEntry.deadlineParameters
  rw [hRuntime, hDeadline, hPeriod]

/-
  What a generated profile gives to a live thread depends on
  its signature alone.  The snapshots may number the threads
  in any way: by creation, by the time they started, or with
  the threads of a signature permuted; the parameters are
  the same, and so is whether the profile fits at all.
-/
theorem applyDeadlineProfile_by_signature
    (traceRuns : List TraceRun)
    (options : GeneratorOptions)
    (profile : GeneratedProfile)
    (hGenerated :
      generateProfile traceRuns options = .ok profile)
    (env : Environment)
    (path : String)
    (hFile :
      env.files path = some (writeProfile profile.rows))
    (threads : List (Tid × String))
    (hTids : (threads.map Prod.fst).Nodup)
    (hCounts : SameCounts profile.rows threads)
    (requireAll : Bool) :
    (∀ trace, trace.Shows threads →
      ∀ kernel result after,
        applyDeadlineProfile (env.withTrace trace) path
            requireAll kernel =
          (.ok result, after) →
        ∀ thread ∈ threads,
          assignedParameters result.assignments thread.1 =
            roleParameters profile.rows thread.2) ∧
    (∀ trace trace', trace.Shows threads →
      trace'.Shows threads →
      ((∃ plan,
        planDeadline (env.withTrace trace) path requireAll =
          .ok plan) ↔
        ∃ plan,
          planDeadline (env.withTrace trace') path
              requireAll =
            .ok plan)) := by
  constructor
  · intro trace hShows kernel result after hOk
      thread hThread
    have hDistinct := hShows.nodup_tids hTids
    have hShort := length_lt_of_nodup_tids hDistinct
    unfold applyDeadlineProfile at hOk
    split at hOk
    · cases (Prod.mk.inj hOk).1
    next plan hPlan =>
      rcases (planDeadline_eq_ok_iff.mp hPlan).2 with
        ⟨entries, sorted, hLoad, hSnapshot, hMatched⟩
      rcases snapshotThreads_eq_ok_iff.mp hSnapshot with
        ⟨answer, hAnswer, _, hSorted⟩
      cases Option.some.inj hAnswer
      have hKeys := (loadProfile_accepts hLoad).keys
      have hRead : entries =
          profile.rows.map ProfileEntry.wrapped := by
        apply loadProfile_written
        rw [← hFile]
        exact hLoad
      rw [hSorted] at hMatched
      have hMatches :=
        (matchEntries_eq_ok_iff (by omega)).mp
          (matchDeadline_eq_ok hMatched).2.2
      rcases List.mem_map.mp
          (hShows.sorted_perm.mem_iff.mpr hThread) with
        ⟨info, hInfo, hEq⟩
      rw [runPlan_eq_ok hOk, assignedParameters_made, ← hEq,
        ← roleParameters_wrapped, ← hRead]
      apply assignedParameters_of_matches hDistinct hKeys _ _
        hMatches hInfo
      · rw [hRead]
        exact (generateProfile_shared hGenerated).wrapped
      · rw [hRead]
        exact hCounts.wrapped.of_shows hShows
  · intro trace trace' hShows hShows'
    rw [planDeadline_ok_iff hTids hShows,
      planDeadline_ok_iff hTids hShows']

/-
  Two workers of one signature; the one that is created
  second starts first.
-/
def twinTrace : TraceFiles where
  lifecycle :=
    [{ kind := .pthreadCreate, timestampNs := some 2,
        pthreadValue := "0xa", success := some true,
        signature := "entry=worker@0x1" },
      { kind := .pthreadCreate, timestampNs := some 3,
        pthreadValue := "0xb", success := some true,
        signature := "entry=worker@0x1" },
      { kind := .threadStart, timestampNs := some 4,
        tid := some 102, pthreadValue := "0xb",
        createTimestampNs := some 3, name := "second" },
      { kind := .threadStart, timestampNs := some 5,
        tid := some 101, pthreadValue := "0xa",
        createTimestampNs := some 2, name := "first" },
      { kind := .phaseMarker, timestampNs := some 10,
        name := "steady_state_begin" },
      { kind := .phaseMarker, timestampNs := some 9000000,
        name := "steady_state_end" }]
  activations :=
    [⟨101, 1000000, 1 / 10, false, false⟩,
      ⟨101, 2000000, 1 / 5, false, false⟩,
      ⟨101, 3000000, 1 / 10, false, false⟩,
      ⟨102, 1000000, 1 / 4, false, false⟩,
      ⟨102, 3000000, 1 / 4, false, false⟩,
      ⟨102, 5000000, 1 / 4, false, false⟩]
  summary :=
    [⟨some 101, "SCHED_OTHER", ""⟩,
      ⟨some 102, "SCHED_OTHER", ""⟩]

/- Two rows of one signature whose thread names are swapped. -/
def twinRows : List ProfileEntry :=
  [⟨"entry=worker@0x1", 1, "second", 300000, 910000, 910000⟩,
    ⟨"entry=worker@0x1", 2, "first", 300000, 910000, 910000⟩]

/- A kernel that permits everything, with that profile. -/
def twinEnvironment : Environment where
  files _ := some (writeProfile twinRows)
  trace := none
  errors _ := 0
  strerror _ := "Success"
  priorityMin _ := 1
  priorityMax _ := 99

/- Two threads of that signature. -/
def twinThreads : List (Tid × String) :=
  [(⟨71, firstWorker_isTid⟩, "entry=worker@0x1"),
    (⟨72, secondWorker_isTid⟩, "entry=worker@0x1")]

/- The two workers, created in the given order. -/
def twinSnapshot (first second : Nat) : ThreadTrace where
  count := 2
  live :=
    [⟨⟨71, firstWorker_isTid⟩, first, "entry=worker@0x1"⟩,
      ⟨⟨72, secondWorker_isTid⟩, second, "entry=worker@0x1"⟩]

/- The profile is applied, with these parameters for both. -/
def TwinsReserved (first second : Nat) : Prop :=
  ∃ result after,
    applyDeadlineProfile
        (twinEnvironment.withTrace
          (twinSnapshot first second))
        "profile.csv" true ⟨fun _ => {}, []⟩ =
      (.ok result, after) ∧
    ∀ thread ∈ twinThreads,
      assignedParameters result.assignments thread.1 =
        [⟨300000, 910000, 910000⟩]

theorem twinEnvironment_loads :
    loadProfile "profile.csv"
        (twinEnvironment.files "profile.csv") =
      .ok twinRows := by
  decide +kernel

theorem twinWorkers_by_signature :
    TwinsReserved 1 2 ∧ TwinsReserved 2 1 := by
  have hRows :
      (generateProfile [.ok twinTrace] workerOptions).map
          GeneratedProfile.rows =
        .ok twinRows := by
    decide +kernel
  have hRole :
      ∀ thread ∈ twinThreads,
        roleParameters twinRows thread.2 =
          [⟨300000, 910000, 910000⟩] := by
    decide +kernel
  have hEach :
      ∀ first second,
        (applyDeadlineProfile
          (twinEnvironment.withTrace
            (twinSnapshot first second))
          "profile.csv" true
          ⟨fun _ => {}, []⟩).1.isOk = true →
        TwinsReserved first second := by
    intro first second hApplied
    cases hOk :
        generateProfile [.ok twinTrace] workerOptions with
    | error message =>
        rw [hOk] at hRows
        cases hRows
    | ok profile =>
        rw [hOk] at hRows
        have hEq : profile.rows = twinRows :=
          Except.ok.inj hRows
        have hAssigned :=
          (applyDeadlineProfile_by_signature
            [.ok twinTrace] workerOptions profile hOk
            twinEnvironment "profile.csv"
            (by rw [hEq]; rfl) twinThreads
            (by decide +kernel)
            (by rw [hEq]; unfold SameCounts; decide +kernel)
            true).1
            (twinSnapshot first second)
            ⟨List.Perm.refl _, le_refl 2⟩
        unfold TwinsReserved
        cases hResult :
            applyDeadlineProfile
              (twinEnvironment.withTrace
                (twinSnapshot first second))
              "profile.csv" true ⟨fun _ => {}, []⟩ with
        | mk outcome after =>
            rw [hResult] at hApplied
            cases outcome with
            | error message => cases hApplied
            | ok result =>
                refine ⟨result, after, rfl, ?_⟩
                intro thread hThread
                rw [hAssigned _ result after hResult thread
                  hThread, hEq]
                exact hRole thread hThread
  refine ⟨hEach 1 2 ?_, hEach 2 1 ?_⟩
  · rw [applyDeadlineProfile,
      @planDeadline_of_load (twinEnvironment.withTrace _) _ _ _
        twinEnvironment_loads rfl]
    decide +kernel
  · rw [applyDeadlineProfile,
      @planDeadline_of_load (twinEnvironment.withTrace _) _ _ _
        twinEnvironment_loads rfl]
    decide +kernel

end Generator

end RsCamera
