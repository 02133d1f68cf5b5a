import RsCamera.Generator.Traces
import RsCamera.Lib.Numbering

/-
  The numbers of the threads of a trace, in the profile
  generator and in the summary of the steady state
  (`parse_steady_trace.py`).

  Both count the records of a signature in the order of their
  start, and both keep the number under the TID.  The summary
  also counts the records named `main`, under a signature of
  its own.  The two agree, and the numbers have no hole, as
  long as no TID is used twice in the steady state.

  Key definitions include:
    * `summarySignature`, `ProfileInstances`
    * `SteadyThread`, `steadyThreads`
    * `steadyRecords`
    * `Consistent`

  Key theorems include:
    * `foldl_identities`, `foldl_instances`
    * `dense_iff_distinct`
    * `threadIdentities_consistent_iff`
-/

------------------------------------------------------------
-- The Summary Of The Steady State
------------------------------------------------------------

namespace RsCamera

namespace Generator

section

open Trace

/- The signature of the main thread in a summary. -/
def mainThreadSignature : String := "process-main"

/- The signature under which the summary counts a record. -/
def summarySignature (record : Record) : String :=
  if record.name = "main" then mainThreadSignature
  else record.signature

/- The counters by signature, and the number of each thread. -/
structure ProfileInstances where
  counts : Std.TreeMap String Nat := {}
  instances : Dict Int Nat := ∅

/- The body of the summary's loop over the sorted records. -/
def ProfileInstances.add
    (begin finish : Int)
    (state : ProfileInstances)
    (record : Record) : ProfileInstances :=
  match record.tid with
  | none => state
  | some tid =>
      if summarySignature record = "" ∨
          livesBetween begin finish record = false then
        state
      else
        let number :=
          state.counts.getD (summarySignature record) 0 + 1
        { counts :=
            state.counts.insert (summarySignature record)
              number
          instances := state.instances.set tid number }

/- What the summary takes of a thread from its record. -/
structure SteadyThread where
  tid : Int
  name : String
  signature : String
  profileInstance : Nat
  creationSequence : Option Int
  entryModule : String
  entryModuleOffset : String
deriving Repr, DecidableEq

/- The row of a record that lives in the steady state. -/
def steadyThread
    (begin finish : Int)
    (instances : Dict Int Nat)
    (record : Record) : Option SteadyThread :=
  match record.tid with
  | none => none
  | some tid =>
      if livesBetween begin finish record then
        some
          { tid := tid
            name := record.name
            signature := summarySignature record
            profileInstance := instances.getD tid 0
            creationSequence := record.creationSequence
            entryModule := record.entryModule
            entryModuleOffset := record.entryModuleOffset }
      else
        none

/- `thread_summary`, as far as it names the threads. -/
def steadyThreads
    (lifecycle : List Event) :
    Except String (List SteadyThread) := do
  let events := sortEvents lifecycle
  let begin ← markerTime events "steady_state_begin"
  let finish ← markerTime events "steady_state_end"
  if finish ≤ begin then
    .error
      "steady_state_end must be after steady_state_begin"
  else
    let (records, _) ← lifecycleRecords events ∅
    let sorted :=
      records.insertionSort (fun left right =>
        (firstSeen left).getD 0 ≤ (firstSeen right).getD 0)
    let state :=
      sorted.foldl (ProfileInstances.add begin finish) {}
    .ok
      (records.filterMap
        (steadyThread begin finish state.instances))

end

------------------------------------------------------------
-- Counted Records
------------------------------------------------------------

section

open Trace

/- The signature under which the generator counts a record. -/
def threadLabel (record : Record) : String :=
  if record.name = "main" then "" else record.signature

/- A record that the numbering counts, under its label. -/
def isCounted
    (label : Record → String)
    (begin finish : Int)
    (record : Record) : Bool :=
  record.tid.isSome && label record ≠ "" &&
    livesBetween begin finish record

/- The records that a loop counts. -/
def counted
    (label : Record → String)
    (begin finish : Int)
    (records : List Record) : List Record :=
  records.filter (isCounted label begin finish)

theorem counted_append_singleton
    (label : Record → String)
    (begin finish : Int)
    (seen : List Record)
    (record : Record) :
    counted label begin finish (seen ++ [record]) =
      if isCounted label begin finish record then
        counted label begin finish seen ++ [record]
      else
        counted label begin finish seen := by
  unfold counted
  rw [List.filter_append]
  cases hIs : isCounted label begin finish record with
  | true => simp [hIs]
  | false => simp [hIs]

variable {begin finish : Int}
variable {record : Record}

theorem isCounted_iff
    {label : Record → String}
    {record : Record} :
    isCounted label begin finish record = true ↔
      (∃ tid, record.tid = some tid) ∧ label record ≠ "" ∧
        livesBetween begin finish record = true := by
  simp [isCounted, Option.isSome_iff_exists, and_assoc]

theorem Identities.add_of_counted
    (state : Identities)
    {tid : Int}
    (hTid : record.tid = some tid)
    (hCounted :
      isCounted threadLabel begin finish record = true) :
    record.name ≠ "main" ∧
      state.add begin finish record =
        { counts :=
            state.counts.insert record.signature
              (state.counts.getD record.signature 0 + 1)
          identities :=
            state.identities.set tid
              ⟨record.signature,
                state.counts.getD record.signature 0 + 1,
                record.name⟩ } := by
  rcases isCounted_iff.mp hCounted with ⟨-, hLabel, hLives⟩
  unfold threadLabel at hLabel
  by_cases hMain : record.name = "main"
  · exact absurd (if_pos hMain) hLabel
  · rw [if_neg hMain] at hLabel
    refine ⟨hMain, ?_⟩
    unfold Identities.add
    rw [if_neg hMain, hTid]
    simp [hLabel, hLives]

theorem Identities.add_of_not_counted
    (state : Identities)
    (hCounted :
      isCounted threadLabel begin finish record = false) :
    state.add begin finish record = state := by
  unfold Identities.add
  split
  · rfl
  next hMain =>
    split
    · rfl
    next tid hTid =>
      rw [if_pos]
      by_contra hKept
      rw [not_or, Bool.not_eq_false] at hKept
      have hLabel : threadLabel record ≠ "" := by
        rw [threadLabel, if_neg hMain]
        exact hKept.1
      have hIs :=
        isCounted_iff.mpr ⟨⟨tid, hTid⟩, hLabel, hKept.2⟩
      rw [hIs] at hCounted
      cases hCounted

theorem ProfileInstances.add_of_counted
    (state : ProfileInstances)
    {tid : Int}
    (hTid : record.tid = some tid)
    (hCounted :
      isCounted summarySignature begin finish record = true) :
    state.add begin finish record =
      { counts :=
          state.counts.insert (summarySignature record)
            (state.counts.getD (summarySignature record) 0 + 1)
        instances :=
          state.instances.set tid
            (state.counts.getD (summarySignature record) 0 +
              1) } := by
  rcases isCounted_iff.mp hCounted with ⟨-, hLabel, hLives⟩
  unfold ProfileInstances.add
  rw [hTid]
  simp [hLabel, hLives]

theorem ProfileInstances.add_of_not_counted
    (state : ProfileInstances)
    (hCounted :
      isCounted summarySignature begin finish record =
        false) :
    state.add begin finish record = state := by
  unfold ProfileInstances.add
  split
  · rfl
  next tid hTid =>
    rw [if_pos]
    by_contra hKept
    rw [not_or, Bool.not_eq_false] at hKept
    have hIs :=
      isCounted_iff.mpr ⟨⟨tid, hTid⟩, hKept.1, hKept.2⟩
    rw [hIs] at hCounted
    cases hCounted

end

------------------------------------------------------------
-- What The Loops Keep
------------------------------------------------------------

section

open Trace

/- The counts of a loop after the records seen so far. -/
def CountsOf
    (label : Record → String)
    (seen : List Record)
    (counts : Std.TreeMap String Nat) : Prop :=
  ∀ signature,
    counts.getD signature 0 =
      seen.countP (fun record => label record = signature)

theorem CountsOf.insert
    {label : Record → String}
    {seen : List Record}
    {counts : Std.TreeMap String Nat}
    (hCounts : CountsOf label seen counts)
    (record : Record) :
    counts.getD (label record) 0 + 1 =
        Numbering.rank label seen record ∧
      CountsOf label (seen ++ [record])
        (counts.insert (label record)
          (counts.getD (label record) 0 + 1)) := by
  constructor
  · rw [hCounts (label record), Numbering.rank]
  · intro signature
    rw [Std.TreeMap.getD_insert, List.countP_append,
      List.countP_singleton]
    by_cases hSame : label record = signature
    · simp [hSame, hCounts signature]
    · simp [hSame, hCounts signature]

/- The identity of a record with its number. -/
def identityOf
    (record : Record)
    (number : Nat) : Identity :=
  ⟨record.signature, number, record.name⟩

/- The state of the generator after a list of records. -/
structure KeepsIdentities
    (seen : List Record)
    (state : Identities) : Prop where
  counts : CountsOf threadLabel seen state.counts
  kept :
    Numbering.Keeps Record.tid threadLabel some identityOf seen
      state.identities.get?

/- The state of the parser after a list of records. -/
structure KeepsInstances
    (seen : List Record)
    (state : ProfileInstances) : Prop where
  counts : CountsOf summarySignature seen state.counts
  kept :
    Numbering.Keeps Record.tid summarySignature some
      (fun _ number => number) seen state.instances.get?

theorem threadLabel_of_ne_main
    {record : Record}
    (hMain : record.name ≠ "main") :
    threadLabel record = record.signature :=
  if_neg hMain

theorem KeepsIdentities.add
    {begin finish : Int}
    {seen : List Record}
    {state : Identities}
    (hKeeps :
      KeepsIdentities (counted threadLabel begin finish seen)
        state)
    (record : Record) :
    KeepsIdentities
      (counted threadLabel begin finish (seen ++ [record]))
      (state.add begin finish record) := by
  rw [counted_append_singleton]
  cases hIs : isCounted threadLabel begin finish record with
  | false =>
      rw [state.add_of_not_counted hIs]
      exact hKeeps
  | true =>
      rcases (isCounted_iff.mp hIs).1 with ⟨tid, hTid⟩
      rcases state.add_of_counted hTid hIs with ⟨hMain, hAdd⟩
      rcases hKeeps.counts.insert record with
        ⟨hRank, hCounts⟩
      rw [threadLabel_of_ne_main hMain] at hRank hCounts
      rw [hAdd, if_pos rfl]
      refine ⟨hCounts, ?_⟩
      refine hKeeps.kept.store (Option.some_injective _) hTid ?_
      intro other
      rw [Dict.get?_set, hRank]
      rfl

theorem KeepsInstances.add
    {begin finish : Int}
    {seen : List Record}
    {state : ProfileInstances}
    (hKeeps :
      KeepsInstances
        (counted summarySignature begin finish seen) state)
    (record : Record) :
    KeepsInstances
      (counted summarySignature begin finish
        (seen ++ [record]))
      (state.add begin finish record) := by
  rw [counted_append_singleton]
  cases hIs :
      isCounted summarySignature begin finish record with
  | false =>
      rw [state.add_of_not_counted hIs]
      exact hKeeps
  | true =>
      rcases (isCounted_iff.mp hIs).1 with ⟨tid, hTid⟩
      rcases hKeeps.counts.insert record with
        ⟨hRank, hCounts⟩
      rw [state.add_of_counted hTid hIs, if_pos rfl]
      refine ⟨hCounts, ?_⟩
      refine hKeeps.kept.store (Option.some_injective _) hTid ?_
      intro other
      rw [Dict.get?_set, hRank]

theorem countsOf_nil
    (label : Record → String) :
    CountsOf label [] {} :=
  fun _ => Std.TreeMap.getD_emptyc

theorem foldl_identities
    (begin finish : Int)
    (records : List Record) :
    KeepsIdentities (counted threadLabel begin finish records)
      (records.foldl (Identities.add begin finish) {}) := by
  induction records using List.reverseRecOn with
  | nil =>
      exact ⟨countsOf_nil _, Numbering.keeps_nil some _⟩
  | append_singleton seen record ih =>
      rw [List.foldl_concat]
      exact ih.add record

theorem foldl_instances
    (begin finish : Int)
    (records : List Record) :
    KeepsInstances
      (counted summarySignature begin finish records)
      (records.foldl
        (ProfileInstances.add begin finish) {}) := by
  induction records using List.reverseRecOn with
  | nil =>
      exact ⟨countsOf_nil _, Numbering.keeps_nil some _⟩
  | append_singleton seen record ih =>
      rw [List.foldl_concat]
      exact ih.add record

end

------------------------------------------------------------
-- Consistent Numbers
------------------------------------------------------------

section

open Trace

/- A record of a thread besides the main one. -/
def isThread (record : Record) : Bool :=
  record.name ≠ "main"

/- How many threads of a signature there are. -/
def threadsOf
    (signature : String)
    (records : List Record) : Nat :=
  records.countP (fun record =>
    record.name ≠ "main" && record.signature = signature)

/-
  When the numbers of threads are consistent.  Threads have
  TIDs of their own.  A thread that carries the signature of
  the main thread does not come after a record named `main`.
  Where a record named `main` takes over the TID of a thread,
  both were counted equally far.
-/
structure Consistent
    (records : List Record) : Prop where
  distinct :
    ((records.filter isThread).map Record.tid).Nodup
  reserved :
    ∀ before record after,
      records = before ++ record :: after →
        record.name ≠ "main" →
        record.signature = mainThreadSignature →
        (∀ other ∈ after, other.tid ≠ record.tid) →
        ∀ other ∈ before, other.name ≠ "main"
  shadowed :
    ∀ before record between last after,
      records =
          before ++ record :: (between ++ last :: after) →
        record.name ≠ "main" → last.name = "main" →
        last.tid = record.tid →
        (∀ other ∈ after, other.tid ≠ record.tid) →
        (before ++ record :: between).countP
            (fun other =>
              summarySignature other = mainThreadSignature) =
          threadsOf record.signature before

theorem counted_threads
    (begin finish : Int)
    (records : List Record) :
    counted threadLabel begin finish records =
      (counted summarySignature begin finish records).filter
        isThread := by
  unfold counted
  rw [List.filter_filter]
  apply List.filter_congr
  intro record _
  unfold isCounted isThread threadLabel summarySignature
  by_cases hMain : record.name = "main"
  · simp [hMain]
  · simp [hMain]

/- Records named `main` count under one signature only. -/
theorem countP_summarySignature
    (signature : String)
    (records : List Record) :
    records.countP (fun record =>
        summarySignature record = signature) =
      threadsOf signature records +
        if signature = mainThreadSignature then
          records.countP (fun record => record.name = "main")
        else 0 := by
  induction records with
  | nil => simp [threadsOf]
  | cons record rest ih =>
      unfold threadsOf at ih ⊢
      simp only [List.countP_cons, ih]
      unfold summarySignature
      by_cases hMain : record.name = "main"
      · by_cases hSignature : signature = mainThreadSignature
        · simp [hMain, hSignature]
          omega
        · simp [hMain, hSignature, Ne.symm hSignature]
      · by_cases hSignature : record.signature = signature
        · simp [hMain, hSignature]
          omega
        · simp [hMain, hSignature]

theorem rank_threads
    (before : List Record)
    {record : Record}
    (hMain : record.name ≠ "main") :
    Numbering.rank threadLabel (before.filter isThread)
        record =
      threadsOf record.signature before + 1 := by
  unfold Numbering.rank threadsOf
  rw [threadLabel_of_ne_main hMain, List.countP_filter]
  congr 2
  funext other
  unfold isThread threadLabel
  by_cases hOther : other.name = "main"
  · simp [hOther]
  · simp [hOther]

theorem rank_summary
    (before : List Record)
    {record : Record}
    (hMain : record.name ≠ "main") :
    Numbering.rank summarySignature before record =
      threadsOf record.signature before +
          (if record.signature = mainThreadSignature then
            before.countP (fun other => other.name = "main")
          else 0) + 1 := by
  unfold Numbering.rank
  rw [countP_summarySignature, summarySignature,
    if_neg hMain]

/- The thread of a place, as the generator keeps it. -/
theorem holds_thread
    {records before after : List Record}
    {record : Record}
    (hRecords : records = before ++ record :: after)
    (hMain : record.name ≠ "main")
    (hDistinct :
      ((records.filter isThread).map Record.tid).Nodup) :
    Numbering.Holds Record.tid threadLabel
      (records.filter isThread) record.tid record
      (threadsOf record.signature before + 1) := by
  have hThread : isThread record = true := by
    simp [isThread, hMain]
  have hFilter :
      records.filter isThread =
        before.filter isThread ++
          record :: after.filter isThread := by
    rw [hRecords, List.filter_append,
      List.filter_cons_of_pos hThread]
  rw [List.Nodup, List.pairwise_map] at hDistinct
  refine ⟨_, _, hFilter, rfl, ?_,
    (rank_threads before hMain).symm⟩
  intro other hOther hSame
  exact Numbering.places_of_pairwise hDistinct hFilter other
    hOther hSame.symm

/- Whether both loops give every thread one number. -/
def SameNumbers (records : List Record) : Prop :=
  ∀ tid thread number record number',
    Numbering.Holds Record.tid threadLabel
        (records.filter isThread) tid thread number →
      Numbering.Holds Record.tid summarySignature records tid
        record number' →
      number' = number

theorem SameNumbers.consistent
    {records : List Record}
    (hSame : SameNumbers records)
    (hDistinct :
      ((records.filter isThread).map Record.tid).Nodup) :
    Consistent records := by
  refine ⟨hDistinct, ?_, ?_⟩
  · intro before record after hRecords hMain hSignature hLast
    have hThread := holds_thread hRecords hMain hDistinct
    have hNumber :=
      hSame _ _ _ _ _ hThread
        ⟨before, after, hRecords, rfl, hLast, rfl⟩
    rw [rank_summary before hMain, if_pos hSignature]
      at hNumber
    have hNone :
        before.countP (fun other => other.name = "main") =
          0 := by
      omega
    intro other hOther hIs
    rw [List.countP_eq_zero] at hNone
    exact hNone other hOther (by simp [hIs])
  · intro before record between last after hRecords hMain
      hLast hTid hAfter
    have hThread := holds_thread hRecords hMain hDistinct
    have hRecords' :
        records =
          (before ++ record :: between) ++ last :: after := by
      rw [hRecords]
      simp
    have hNumber :=
      hSame _ _ _ _ _ hThread
        ⟨_, after, hRecords', hTid, hAfter, rfl⟩
    rw [Numbering.rank, summarySignature, if_pos hLast]
      at hNumber
    omega

theorem Consistent.sameNumbers
    {records : List Record}
    (hConsistent : Consistent records) :
    SameNumbers records := by
  intro tid thread number record number' hThread hRecord
  rcases hThread with
    ⟨kept, later, hFilter, hTid, hLater, hNumber⟩
  rcases Numbering.filter_places hFilter with
    ⟨before, after, hRecords, hIs, hKept, hAfter⟩
  have hMain : thread.name ≠ "main" := by
    simpa [isThread] using hIs
  rw [← hKept, rank_threads before hMain] at hNumber
  rcases hRecord with
    ⟨before', after', hRecords', hTid', hAfter', hNumber'⟩
  rcases Numbering.places_cases
    (hRecords.symm.trans hRecords') with
    ⟨hBefore, hSame, hRest⟩ | ⟨between, hBefore, hRest⟩ |
      ⟨between, -, hRest⟩
  · rw [← hBefore, ← hSame, rank_summary before hMain]
      at hNumber'
    rw [hNumber', hNumber]
    split
    next hSignature =>
      have hBeforeThreads :=
        hConsistent.reserved before thread after hRecords hMain
          hSignature (by rw [hRest, hTid]; exact hAfter')
      have hNone :
          before.countP (fun other => other.name = "main") =
            0 := by
        rw [List.countP_eq_zero]
        intro other hOther hIsMain
        exact hBeforeThreads other hOther (by simpa using hIsMain)
      rw [hNone]
    · omega
  · -- The last record of the TID can only be one of main.
    have hLast : record.name = "main" := by
      by_contra hThread
      have hMember : record ∈ later := by
        rw [← hAfter, hRest]
        simp [isThread, hThread]
      exact hLater record hMember hTid'
    have hCounts :=
      hConsistent.shadowed before thread between record after'
        (by rw [hRecords, hRest]) hMain hLast
        (hTid'.trans hTid.symm) (by rw [hTid]; exact hAfter')
    rw [hNumber', hBefore, Numbering.rank,
      summarySignature, if_pos hLast, hCounts, hNumber]
  · exact absurd hTid (hAfter' thread (by simp [hRest]))

end

------------------------------------------------------------
-- Both Numberings Of A Trace
------------------------------------------------------------

open Trace

/- The records that are counted in a trace, by their start. -/
def steadyRecords
    (lifecycle : List Event)
    (begin finish : Int) : List Record :=
  match lifecycleRecords (sortEvents lifecycle) ∅ with
  | .error _ => []
  | .ok (records, _) =>
      counted summarySignature begin finish
        (records.insertionSort (fun left right =>
          (firstSeen left).getD 0 ≤ (firstSeen right).getD 0))

variable {begin finish : Int}
variable {records : List Record}
variable {record : Record}

theorem steadyThread_profileInstance
    {instances : Dict Int Nat}
    {thread : SteadyThread}
    (hThread :
      thread ∈
        records.filterMap
          (steadyThread begin finish instances)) :
    thread.profileInstance = instances.getD thread.tid 0 := by
  rcases List.mem_filterMap.mp hThread with ⟨record, -, hMade⟩
  unfold steadyThread at hMade
  split at hMade
  · cases hMade
  · split at hMade
    · cases hMade
      rfl
    · cases hMade

/- Every record that is counted has its line. -/
theorem exists_steadyThread
    (instances : Dict Int Nat)
    {label : Record → String}
    (hRecord : record ∈ counted label begin finish records)
    {tid : Int}
    (hTid : record.tid = some tid) :
    ∃ thread ∈
        records.filterMap
          (steadyThread begin finish instances),
      thread.tid = tid := by
  rcases List.mem_filter.mp hRecord with ⟨hMember, hCounted⟩
  have hMade :
      ∃ thread,
        steadyThread begin finish instances record =
            some thread ∧
          thread.tid = tid := by
    unfold steadyThread
    rw [hTid]
    simp only [if_pos (isCounted_iff.mp hCounted).2.2]
    exact ⟨_, rfl, rfl⟩
  rcases hMade with ⟨thread, hThread, hIs⟩
  exact ⟨thread,
    List.mem_filterMap.mpr ⟨record, hMember, hThread⟩, hIs⟩

/- What both programs make of the records of a trace. -/
theorem threadIdentities_keeps
    {lifecycle : List Event}
    {identities : Dict Int Identity}
    (hOk :
      threadIdentities lifecycle =
        .ok (identities, begin, finish)) :
    Numbering.Keeps Record.tid threadLabel some identityOf
        ((steadyRecords lifecycle begin finish).filter isThread)
        identities.get? ∧
      (begin < finish →
        ∃ (records : List Record) (instances : Dict Int Nat),
          steadyThreads lifecycle =
              .ok
                (records.filterMap
                  (steadyThread begin finish instances)) ∧
            (steadyRecords lifecycle begin finish).Perm
              (counted summarySignature begin finish
                records) ∧
            Numbering.Keeps Record.tid summarySignature some
              (fun _ number => number)
              (steadyRecords lifecycle begin finish)
              instances.get?) := by
  unfold threadIdentities at hOk
  simp only [bind_eq_ok] at hOk
  rcases hOk with
    ⟨b, hBegin, f, hFinish, ⟨records, table⟩, hRecords, hEq⟩
  rcases Prod.mk.inj (Except.ok.inj hEq) with ⟨hIds, hWindow⟩
  rcases Prod.mk.inj hWindow with ⟨hB, hF⟩
  subst hB hF
  unfold steadyRecords
  rw [hRecords]
  simp only
  constructor
  · rw [← counted_threads, ← hIds]
    exact (foldl_identities b f _).kept
  · intro hLt
    refine ⟨records, _, ?_,
      (List.perm_insertionSort _ records).filter _,
      (foldl_instances b f _).kept⟩
    unfold steadyThreads
    simp only [hBegin, hFinish, hRecords, bind_eq_ok]
    refine ⟨b, rfl, f, rfl, ?_⟩
    rw [if_neg (not_le.mpr hLt)]
    rfl

theorem isCounted_of_mem
    {lifecycle : List Event}
    (hRecord : record ∈ steadyRecords lifecycle begin finish) :
    (∃ tid, record.tid = some tid) ∧ begin < finish := by
  unfold steadyRecords at hRecord
  split at hRecord
  · cases hRecord
  · rcases isCounted_iff.mp (List.mem_filter.mp hRecord).2 with
      ⟨hTid, -, hLives⟩
    refine ⟨hTid, ?_⟩
    have hLt := of_decide_eq_true hLives
    exact (le_max_left _ _).trans_lt
      (hLt.trans_le (min_le_left _ _))

/- What is kept of the threads is a thread. -/
theorem thread_of_holds
    {tid : Option Int}
    {number : Nat}
    (hHolds :
      Numbering.Holds Record.tid threadLabel
        (records.filter isThread) tid record number) :
    record ∈ records ∧ record.tid = tid ∧
      threadLabel record = record.signature := by
  rcases hHolds with ⟨before, after, hFilter, hTid, -, -⟩
  rcases Numbering.filter_places hFilter with
    ⟨front, rest, hRecords, hIs, -, -⟩
  refine ⟨?_, hTid, threadLabel_of_ne_main ?_⟩
  · rw [hRecords]
    simp
  · simpa [isThread] using hIs

theorem countP_threads
    (signature : String)
    (records : List Record) :
    (records.filter isThread).countP
        (fun record => threadLabel record = signature) =
      threadsOf signature records := by
  unfold threadsOf
  rw [List.countP_filter]
  congr 1
  funext record
  unfold isThread threadLabel
  by_cases hMain : record.name = "main"
  · simp [hMain]
  · simp [hMain]

section Numberings

variable {lifecycle : List Event}
variable {identities : Dict Int Identity}
variable {begin finish : Int}

theorem identities_keys_unique
    (hOk :
      threadIdentities lifecycle =
        .ok (identities, begin, finish))
    {tid tid' : Int}
    {identity identity' : Identity}
    (hGet : identities.get? tid = some identity)
    (hGet' : identities.get? tid' = some identity')
    (hKey : identity.key = identity'.key) :
    tid = tid' := by
  have hKeeps := (threadIdentities_keeps hOk).1
  rcases (hKeeps tid identity).mp hGet with
    ⟨record, number, hHolds, hMade⟩
  rcases (hKeeps tid' identity').mp hGet' with
    ⟨record', number', hHolds', hMade'⟩
  rw [← hMade, ← hMade'] at hKey
  rcases Prod.mk.inj hKey with ⟨hSignature, hNumber⟩
  have hNumbers : number = number' := hNumber
  rw [← hNumbers] at hHolds'
  have hLabel : threadLabel record = threadLabel record' := by
    rw [(thread_of_holds hHolds).2.2,
      (thread_of_holds hHolds').2.2]
    exact hSignature
  exact Option.some.inj (hHolds.unique hHolds' hLabel)

/- The numbers of identities have no hole exactly if no TID
   stands for two threads. -/
theorem dense_iff_distinct
    (hOk :
      threadIdentities lifecycle =
        .ok (identities, begin, finish)) :
    (∀ signature number,
        (∃ tid identity,
          identities.get? tid = some identity ∧
            identity.key = (signature, number)) ↔
          1 ≤ number ∧
            number ≤
              threadsOf signature
                (steadyRecords lifecycle begin finish)) ↔
      (((steadyRecords lifecycle begin finish).filter
        isThread).map Record.tid).Nodup := by
  have hKeeps := (threadIdentities_keeps hOk).1
  have hNodup :
      Numbering.Dense Record.tid threadLabel
          ((steadyRecords lifecycle begin finish).filter
            isThread) ↔
        _ :=
    Numbering.dense_iff_nodup
  rw [← hNodup]
  unfold Numbering.Dense
  simp only [countP_threads]
  have hSame :
      ∀ signature number,
        (∃ tid identity,
          identities.get? tid = some identity ∧
            identity.key = (signature, number)) ↔
          ∃ tid record,
            Numbering.Holds Record.tid threadLabel
                ((steadyRecords lifecycle begin
                  finish).filter isThread)
                tid record number ∧
              threadLabel record = signature := by
    intro signature number
    constructor
    · intro hIdentity
      rcases hIdentity with ⟨tid, identity, hGet, hKey⟩
      rcases (hKeeps tid identity).mp hGet with
        ⟨record, rank, hHolds, hMade⟩
      rw [← hMade] at hKey
      rcases Prod.mk.inj hKey with ⟨hSignature, hNumber⟩
      have hRank : rank = number := hNumber
      rw [hRank] at hHolds
      refine ⟨some tid, record, hHolds, ?_⟩
      rw [(thread_of_holds hHolds).2.2]
      exact hSignature
    · intro hHeld
      rcases hHeld with ⟨key, record, hHolds, hLabel⟩
      rcases thread_of_holds hHolds with
        ⟨hMember, hTid, hSignature⟩
      rcases (isCounted_of_mem hMember).1 with ⟨tid, hIs⟩
      rw [← hTid, hIs] at hHolds
      refine ⟨tid, identityOf record number,
        (hKeeps tid _).mpr ⟨record, number, hHolds, rfl⟩, ?_⟩
      rw [← hLabel, hSignature]
      rfl
  constructor
  · intro hDense signature number
    rw [← hSame]
    exact hDense signature number
  · intro hDense signature number
    rw [hSame]
    exact hDense signature number

theorem instances_iff_sameNumbers
    (hOk :
      threadIdentities lifecycle =
        .ok (identities, begin, finish)) :
    (∀ tid identity,
        identities.get? tid = some identity →
          ∃ threads,
            steadyThreads lifecycle = .ok threads ∧
              (∃ thread ∈ threads, thread.tid = tid) ∧
              ∀ thread ∈ threads, thread.tid = tid →
                thread.profileInstance =
                  identity.instanceNumber) ↔
      SameNumbers (steadyRecords lifecycle begin finish) := by
  rcases threadIdentities_keeps hOk with ⟨hKeeps, hSummary⟩
  constructor
  · intro hSame key record number other number' hHolds hOther
    rcases thread_of_holds hHolds with ⟨hMember, hTid, -⟩
    rcases isCounted_of_mem hMember with ⟨⟨tid, hIs⟩, hLt⟩
    rw [← hTid, hIs] at hHolds hOther
    rcases hSummary hLt with
      ⟨records, instances, hThreads, -, hInstances⟩
    rcases hSame tid (identityOf record number)
      ((hKeeps tid _).mpr ⟨record, number, hHolds, rfl⟩) with
      ⟨threads, hOkThreads, ⟨thread, hThread, hThreadTid⟩,
        hNumbers⟩
    rw [hThreads] at hOkThreads
    have hEq := Except.ok.inj hOkThreads
    rw [← hEq] at hThread hNumbers
    have hGet :=
      (hInstances tid number').mpr ⟨other, number', hOther, rfl⟩
    have hNumber := hNumbers thread hThread hThreadTid
    rw [steadyThread_profileInstance hThread, hThreadTid,
      Dict.getD, hGet] at hNumber
    exact hNumber
  · intro hSame tid identity hGet
    rcases (hKeeps tid identity).mp hGet with
      ⟨record, number, hHolds, hMade⟩
    rcases thread_of_holds hHolds with ⟨hMember, hTid, -⟩
    rcases hSummary (isCounted_of_mem hMember).2 with
      ⟨records, instances, hThreads, hPerm, hInstances⟩
    refine ⟨_, hThreads,
      exists_steadyThread instances
        (hPerm.mem_iff.mp hMember) hTid, ?_⟩
    intro thread hThread hThreadTid
    have hKept :
        ∃ other number',
          Numbering.Holds Record.tid summarySignature
            (steadyRecords lifecycle begin finish) record.tid
            other number' :=
      Numbering.exists_holds hMember
    rcases hKept with ⟨other, number', hOther⟩
    rw [hTid] at hOther
    have hGetNumber :=
      (hInstances tid number').mpr ⟨other, number', hOther, rfl⟩
    rw [steadyThread_profileInstance hThread, hThreadTid,
      Dict.getD, hGetNumber, ← hMade]
    exact hSame _ _ _ _ _ hHolds hOther

end Numberings

/-
  The identities have keys of their own, their numbers have
  no hole, and the summary of the steady state gives the same
  numbers, exactly if the counted records are consistent.
-/
theorem threadIdentities_consistent_iff
    {lifecycle : List Event}
    {identities : Dict Int Identity}
    {begin finish : Int}
    (hOk :
      threadIdentities lifecycle =
        .ok (identities, begin, finish)) :
    ((∀ tid tid' identity identity',
        identities.get? tid = some identity →
          identities.get? tid' = some identity' →
          identity.key = identity'.key → tid = tid') ∧
      (∀ signature number,
        (∃ tid identity,
          identities.get? tid = some identity ∧
            identity.key = (signature, number)) ↔
          1 ≤ number ∧
            number ≤
              threadsOf signature
                (steadyRecords lifecycle begin finish)) ∧
      (∀ tid identity,
        identities.get? tid = some identity →
          ∃ threads,
            steadyThreads lifecycle = .ok threads ∧
              (∃ thread ∈ threads, thread.tid = tid) ∧
              ∀ thread ∈ threads, thread.tid = tid →
                thread.profileInstance =
                  identity.instanceNumber)) ↔
      Consistent (steadyRecords lifecycle begin finish) := by
  constructor
  · intro hNumbers
    rcases hNumbers with ⟨-, hDense, hInstances⟩
    exact ((instances_iff_sameNumbers hOk).mp
      hInstances).consistent ((dense_iff_distinct hOk).mp hDense)
  · intro hConsistent
    refine ⟨?_, ?_, ?_⟩
    · intro tid tid' identity identity' hGet hGet' hKey
      exact identities_keys_unique hOk hGet hGet' hKey
    · exact (dense_iff_distinct hOk).mpr hConsistent.distinct
    · exact (instances_iff_sameNumbers hOk).mpr
        hConsistent.sameNumbers

/- In the ordinary case every TID is used once. -/
theorem consistent_of_distinct
    (hDistinct : (records.map Record.tid).Nodup)
    (hSignatures :
      ∀ record ∈ records, record.name ≠ "main" →
        record.signature ≠ mainThreadSignature) :
    Consistent records := by
  refine ⟨?_, ?_, ?_⟩
  · exact hDistinct.sublist (List.filter_sublist.map _)
  · intro before record after hRecords hMain hSignature
    exact absurd hSignature
      (hSignatures record (by simp [hRecords]) hMain)
  · intro before record between last after hRecords _ _ hTid
    rw [List.Nodup, List.pairwise_map] at hDistinct
    have hOther :=
      Numbering.places_of_pairwise hDistinct hRecords last
        (by simp)
    exact absurd hTid.symm hOther

/- Two threads of a signature; the second takes a TID. -/
def twoThreads (tid : Int) : List Event :=
  [{ kind := .phaseMarker, name := "process_start",
      tid := some 1, timestampNs := some 1 },
    { kind := .phaseMarker, name := "steady_state_begin",
      timestampNs := some 2 },
    { kind := .pthreadCreate, pthreadValue := "a",
      signature := "s", result := some 0,
      timestampNs := some 3 },
    { kind := .threadStart, pthreadValue := "a",
      tid := some 7, createTimestampNs := some 3,
      timestampNs := some 4 },
    { kind := .threadExit, tid := some 7,
      timestampNs := some 5 },
    { kind := .pthreadCreate, pthreadValue := "b",
      signature := "s", result := some 0,
      timestampNs := some 6 },
    { kind := .threadStart, pthreadValue := "b",
      tid := some tid, createTimestampNs := some 6,
      timestampNs := some 7 },
    { kind := .phaseMarker, name := "steady_state_end",
      timestampNs := some 9 }]

theorem twoThreads_identities
    {tid : Int}
    {items : List (Int × Identity)}
    (hItems :
      (threadIdentities (twoThreads tid)).toOption.map
          (fun result => (result.1.items, result.2)) =
        some (items, 2, 9)) :
    ∃ identities,
      threadIdentities (twoThreads tid) =
          .ok (identities, 2, 9) ∧
        identities.items = items := by
  cases hResult : threadIdentities (twoThreads tid) with
  | error error =>
      rw [hResult] at hItems
      cases hItems
  | ok result =>
      rw [hResult] at hItems
      rcases Prod.mk.inj (Option.some.inj hItems) with
        ⟨hIs, hWindow⟩
      refine ⟨result.1, ?_, hIs⟩
      rw [← hWindow]

theorem freshTid_consistent :
    ∃ identities,
      threadIdentities (twoThreads 8) =
          .ok (identities, 2, 9) ∧
        ∀ signature number,
          (∃ tid identity,
            identities.get? tid = some identity ∧
              identity.key = (signature, number)) ↔
            1 ≤ number ∧
              number ≤
                threadsOf signature
                  (steadyRecords (twoThreads 8) 2 9) := by
  have hItems :
      (threadIdentities (twoThreads 8)).toOption.map
          (fun result => (result.1.items, result.2)) =
        some ([(7, ⟨"s", 1, ""⟩), (8, ⟨"s", 2, ""⟩)], 2, 9) := by
    decide +kernel
  rcases twoThreads_identities hItems with
    ⟨identities, hOk, -⟩
  have hConsistent :
      Consistent (steadyRecords (twoThreads 8) 2 9) :=
    consistent_of_distinct (by decide +kernel)
      (by decide +kernel)
  exact ⟨identities, hOk,
    ((threadIdentities_consistent_iff hOk).mpr
      hConsistent).2.1⟩

/- A TID that is taken again leaves a hole. -/
theorem reusedTid_leaves_hole :
    ∃ identities,
      threadIdentities (twoThreads 7) =
          .ok (identities, 2, 9) ∧
        ¬ ∀ signature number,
          (∃ tid identity,
            identities.get? tid = some identity ∧
              identity.key = (signature, number)) ↔
            1 ≤ number ∧
              number ≤
                threadsOf signature
                  (steadyRecords (twoThreads 7) 2 9) := by
  have hItems :
      (threadIdentities (twoThreads 7)).toOption.map
          (fun result => (result.1.items, result.2)) =
        some ([(7, ⟨"s", 2, ""⟩)], 2, 9) := by
    decide +kernel
  have hTwo :
      threadsOf "s" (steadyRecords (twoThreads 7) 2 9) =
        2 := by
    decide +kernel
  rcases twoThreads_identities hItems with
    ⟨identities, hOk, hIs⟩
  refine ⟨identities, hOk, ?_⟩
  intro hDense
  have hFirst := (hDense "s" 1).mpr
  rw [hTwo] at hFirst
  rcases hFirst ⟨le_refl 1, by decide⟩ with
    ⟨tid, identity, hGet, hKey⟩
  have hMember := Dict.mem_items_iff.mpr hGet
  rw [hIs] at hMember
  cases List.mem_singleton.mp hMember
  cases hKey

end Generator

end RsCamera
