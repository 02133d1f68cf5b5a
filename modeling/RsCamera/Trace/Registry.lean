import Mathlib.Data.List.Nodup
import Mathlib.Data.List.Perm.Basic
import RsCamera.Lib.Transition
import RsCamera.Scheduler.Matching

/-
  The registry of live threads of the preloaded tracer
  (`trace_registry_add`, `trace_registry_exit` and
  `rs_thread_trace_snapshot`).

  The registry is a table of `TRACE_MAX_THREADS` slots that
  is filled from the front.  An exit clears the mark of a
  slot and never frees it, so the table records the first
  `TRACE_MAX_THREADS` threads of the process and no others.

  The process is a transition system that remembers, beside
  the registry, which threads are alive and how many were
  started before each of them.

  Key definitions include:
    * `Registry`, `traceRegistryAdd`, `traceRegistryExit`
    * `rsThreadTraceSnapshot`
    * `tracedProcess`, `Faithful`

  Key theorems include:
    * `rsThreadTraceSnapshot_eq`
    * `Tracks.run`
    * `snapshot_faithful_iff`
-/

------------------------------------------------------------
-- The Table
------------------------------------------------------------

namespace RsCamera

namespace Trace

section

open Scheduler (Tid ThreadInfo)

/- `TRACE_MAX_THREADS`. -/
def traceMaxThreads : Nat :=
  512

/- `RS_THREAD_TRACE_SIGNATURE_SIZE`. -/
def rsThreadTraceSignatureSize : Nat :=
  1024

/- A terminated text in a buffer of signature size. -/
abbrev Signature : Type :=
  { text : String // text.length < rsThreadTraceSignatureSize }

/- The copy that `snprintf` makes of a text. -/
def snprintfSignature (text : String) : Signature :=
  ⟨String.ofList
      (text.toList.take (rsThreadTraceSignatureSize - 1)),
    by simp [rsThreadTraceSignatureSize]⟩

/- The part of a start context that the registry reads. -/
structure StartContext where
  creationSequence : Nat
  signature : Signature
deriving DecidableEq

/- A used slot of the table. -/
structure LiveThread where
  tid : Tid
  creationSequence : Nat
  alive : Bool
  signature : Signature
deriving DecidableEq

/- The used slots, in the order of their use. -/
structure Registry where
  records : List LiveThread
  hCount : records.length ≤ traceMaxThreads

/- No thread was added. -/
def Registry.empty : Registry where
  records := []
  hCount := Nat.zero_le _

/- A full table drops the thread. -/
def traceRegistryAdd
    (registry : Registry)
    (tid : Tid)
    (ctx : StartContext) : Registry :=
  if hRoom : registry.records.length < traceMaxThreads then
    { records :=
        registry.records ++
          [{ tid := tid
             creationSequence := ctx.creationSequence
             alive := true
             signature :=
               snprintfSignature ctx.signature.val }]
      hCount := by
        simp only [List.length_append, List.length_singleton]
        omega }
  else
    registry

/- Clear the first live record of a thread. -/
def clearFirst (tid : Tid) : List LiveThread → List LiveThread
| [] => []
| record :: records =>
    if record.tid = tid ∧ record.alive then
      { record with alive := false } :: records
    else
      record :: clearFirst tid records

theorem length_clearFirst
    (tid : Tid)
    (records : List LiveThread) :
    (clearFirst tid records).length = records.length := by
  induction records with
  | nil => rfl
  | cons record records ih =>
      simp only [clearFirst]
      split
      · rfl
      · simp [ih]

/- The table is searched from its newest record. -/
def traceRegistryExit
    (registry : Registry)
    (tid : Tid) : Registry where
  records := (clearFirst tid registry.records.reverse).reverse
  hCount := by
    simpa [length_clearFirst] using registry.hCount

/- What a snapshot says of a record. -/
def LiveThread.info (record : LiveThread) : ThreadInfo where
  tid := record.tid
  creationSequence := record.creationSequence
  signature := (snprintfSignature record.signature.val).val

/- The number of live records and the records written. -/
def snapshotStep
    (buffer : Option Nat)
    (snapshot : Nat × List ThreadInfo)
    (source : LiveThread) : Nat × List ThreadInfo :=
  if ¬ source.alive then
    snapshot
  else
    match buffer with
    | none => (snapshot.1 + 1, snapshot.2)
    | some capacity =>
        if snapshot.1 < capacity then
          (snapshot.1 + 1, snapshot.2 ++ [source.info])
        else
          (snapshot.1 + 1, snapshot.2)

/- A null buffer has no capacity to speak of. -/
def rsThreadTraceSnapshot
    (registry : Registry)
    (buffer : Option Nat) : Nat × List ThreadInfo :=
  registry.records.foldl (snapshotStep buffer) (0, [])

end

------------------------------------------------------------
-- What A Snapshot Returns
------------------------------------------------------------

section

open Scheduler (Tid ThreadInfo)

/- The infos of the records that are marked alive. -/
def liveInfos (records : List LiveThread) : List ThreadInfo :=
  (records.filter LiveThread.alive).map LiveThread.info

theorem snprintfSignature_val
    (signature : Signature) :
    snprintfSignature signature.val = signature := by
  apply Subtype.ext
  have hLength : signature.val.toList.length ≤
      rsThreadTraceSignatureSize - 1 := by
    have hLess := signature.property
    simp only [String.length_toList]
    omega
  simp [snprintfSignature, List.take_of_length_le hLength]

/- The loop over the table, from any point of it. -/
theorem foldl_snapshotStep
    (capacity : Nat)
    (records : List LiveThread)
    (written : List ThreadInfo) :
    records.foldl (snapshotStep (some capacity))
        (written.length, written.take capacity) =
      ((written ++ liveInfos records).length,
        (written ++ liveInfos records).take capacity) := by
  induction records generalizing written with
  | nil => simp [liveInfos]
  | cons source records ih =>
      by_cases hAlive : source.alive
      · have hNext := ih (written ++ [source.info])
        have hStep :
            snapshotStep (some capacity)
                (written.length, written.take capacity)
                source =
              ((written ++ [source.info]).length,
                (written ++ [source.info]).take capacity) := by
          by_cases hRoom : written.length < capacity
          · have hAll := List.take_of_length_le hRoom.le
            have hAllNext :
                (written ++ [source.info]).take capacity =
                  written ++ [source.info] := by
              apply List.take_of_length_le
              rw [List.length_append, List.length_singleton]
              exact hRoom
            simp [snapshotStep, hAlive, hRoom, hAll, hAllNext]
          · have hFull : capacity ≤ written.length := by omega
            simp [snapshotStep, hAlive, hRoom,
              List.take_append_of_le_length hFull]
        rw [List.foldl_cons, hStep, hNext]
        simp [liveInfos, hAlive]
      · have hSkip :
            snapshotStep (some capacity)
                (written.length, written.take capacity)
                source =
              (written.length, written.take capacity) := by
          simp [snapshotStep, hAlive]
        rw [List.foldl_cons, hSkip, ih]
        simp [liveInfos, hAlive]

theorem rsThreadTraceSnapshot_eq
    (registry : Registry)
    (capacity : Nat) :
    rsThreadTraceSnapshot registry (some capacity) =
      ((liveInfos registry.records).length,
        (liveInfos registry.records).take capacity) := by
  have hLoop :=
    foldl_snapshotStep capacity registry.records []
  simpa [rsThreadTraceSnapshot] using hLoop

/-
  With one live record to a thread, clearing a record takes
  the thread out of the live ones, wherever the search
  starts.
-/
theorem liveInfos_clearFirst
    (tid : Tid)
    {records : List LiveThread}
    (hDistinct :
      ((liveInfos records).map ThreadInfo.tid).Nodup) :
    liveInfos (clearFirst tid records) =
      (liveInfos records).filter
        (fun info => info.tid ≠ tid) := by
  induction records with
  | nil => rfl
  | cons record records ih =>
      by_cases hAlive : record.alive
      · have hLive :
            liveInfos (record :: records) =
              record.info :: liveInfos records := by
          simp [liveInfos, hAlive]
        rw [hLive, List.map_cons, List.nodup_cons]
          at hDistinct
        by_cases hTid : record.tid = tid
        · have hOthers :
              (liveInfos records).filter
                  (fun info => info.tid ≠ tid) =
                liveInfos records := by
            apply List.filter_eq_self.mpr
            intro info hInfo
            have hNe : info.tid ≠ tid := by
              intro hEq
              apply hDistinct.1
              have hMem :=
                List.mem_map_of_mem (f := ThreadInfo.tid) hInfo
              rwa [hEq, ← hTid] at hMem
            simpa using hNe
          have hHead : record.info.tid = tid := hTid
          rw [hLive, List.filter_cons_of_neg (by simp [hHead]),
            hOthers]
          simp [clearFirst, hTid, hAlive, liveInfos]
        · have hHead : record.info.tid ≠ tid := hTid
          rw [hLive, List.filter_cons_of_pos (by simp [hHead]),
            ← ih hDistinct.2]
          simp [clearFirst, hTid, hAlive, liveInfos]
      · have hLive :
            liveInfos (record :: records) =
              liveInfos records := by
          simp [liveInfos, hAlive]
        rw [hLive] at hDistinct
        rw [hLive, ← ih hDistinct]
        simp [clearFirst, hAlive, liveInfos]

theorem liveInfos_reverse
    (records : List LiveThread) :
    liveInfos records.reverse = (liveInfos records).reverse := by
  simp [liveInfos, List.filter_reverse]

theorem liveInfos_traceRegistryExit
    (tid : Tid)
    {registry : Registry}
    (hDistinct :
      ((liveInfos registry.records).map
        ThreadInfo.tid).Nodup) :
    liveInfos (traceRegistryExit registry tid).records =
      (liveInfos registry.records).filter
        (fun info => info.tid ≠ tid) := by
  have hReversed :
      ((liveInfos registry.records.reverse).map
        ThreadInfo.tid).Nodup := by
    rw [liveInfos_reverse, List.map_reverse,
      List.nodup_reverse]
    exact hDistinct
  simp only [traceRegistryExit]
  rw [liveInfos_reverse, liveInfos_clearFirst tid hReversed,
    liveInfos_reverse, List.filter_reverse,
    List.reverse_reverse]

end

------------------------------------------------------------
-- The Traced Process
------------------------------------------------------------

section

open Scheduler (Tid ThreadInfo)

/- A thread, with the number of threads started before it. -/
structure Started where
  number : Nat
  info : ThreadInfo
deriving DecidableEq

/- The registry beside the threads that are really alive. -/
structure TracedProcess where
  registry : Registry
  started : Nat
  alive : List Started

/- A thread starts or ends. -/
inductive ThreadEvent
| start (tid : Tid) (ctx : StartContext)
| exit (tid : Tid)

/- Before the first thread. -/
def initialProcess : TracedProcess where
  registry := Registry.empty
  started := 0
  alive := []

/- The thread that a start adds to the process. -/
def TracedProcess.newThread
    (process : TracedProcess)
    (tid : Tid)
    (ctx : StartContext) : Started where
  number := process.started
  info :=
    { tid := tid
      creationSequence := ctx.creationSequence
      signature := ctx.signature.val }

/-
  A thread starts with an identifier that no live thread
  has, while there are less than `TRACE_MAX_THREADS` live
  threads.
-/
def tracedProcess : TransitionSystem TracedProcess ThreadEvent where
  step process event :=
    match event with
    | .start tid ctx =>
        if (∀ thread ∈ process.alive, thread.info.tid ≠ tid) ∧
            process.alive.length < traceMaxThreads then
          some
            { registry :=
                traceRegistryAdd process.registry tid ctx
              started := process.started + 1
              alive :=
                process.alive ++ [process.newThread tid ctx] }
        else
          none
    | .exit tid =>
        if ∃ thread ∈ process.alive, thread.info.tid = tid then
          some
            { registry :=
                traceRegistryExit process.registry tid
              started := process.started
              alive :=
                process.alive.filter
                  (fun thread => thread.info.tid ≠ tid) }
        else
          none

/-
  A snapshot into a buffer has one record for every live
  thread, with the data of that thread, and no other.
-/
def Faithful
    (process : TracedProcess)
    (capacity : Nat) : Prop :=
  let snapshot :=
    rsThreadTraceSnapshot process.registry (some capacity)
  snapshot.1 = process.alive.length ∧
    snapshot.2.Perm (process.alive.map Started.info)

/- The threads that found a slot when they started. -/
def slotted (threads : List Started) : List Started :=
  threads.filter (fun thread => thread.number < traceMaxThreads)

/- What the registry knows of the live threads. -/
structure Tracks (process : TracedProcess) : Prop where
  hUsed :
    process.registry.records.length =
      min process.started traceMaxThreads
  hLive :
    liveInfos process.registry.records =
      (slotted process.alive).map Started.info
  hDistinct :
    (process.alive.map (fun thread => thread.info.tid)).Nodup

theorem Tracks.initial : Tracks initialProcess where
  hUsed := by simp [initialProcess, Registry.empty]
  hLive := by
    simp [initialProcess, Registry.empty, liveInfos, slotted]
  hDistinct := by simp [initialProcess]

/- Live records belong to different threads. -/
theorem Tracks.live_distinct
    {process : TracedProcess}
    (hTracks : Tracks process) :
    ((liveInfos process.registry.records).map
      ThreadInfo.tid).Nodup := by
  rw [hTracks.hLive, List.map_map]
  exact hTracks.hDistinct.sublist
    (List.filter_sublist.map _)

theorem tracedProcess_start
    {process next : TracedProcess}
    {tid : Tid}
    {ctx : StartContext}
    (hStep :
      tracedProcess.step process (.start tid ctx) =
        some next) :
    (∀ thread ∈ process.alive, thread.info.tid ≠ tid) ∧
      next =
        { registry :=
            traceRegistryAdd process.registry tid ctx
          started := process.started + 1
          alive :=
            process.alive ++ [process.newThread tid ctx] } := by
  simp only [tracedProcess] at hStep
  split at hStep
  · next hFree =>
      exact ⟨hFree.1, (Option.some.inj hStep).symm⟩
  · cases hStep

theorem tracedProcess_exit
    {process next : TracedProcess}
    {tid : Tid}
    (hStep :
      tracedProcess.step process (.exit tid) = some next) :
    next =
      { registry := traceRegistryExit process.registry tid
        started := process.started
        alive :=
          process.alive.filter
            (fun thread => thread.info.tid ≠ tid) } := by
  simp only [tracedProcess] at hStep
  split at hStep
  · exact (Option.some.inj hStep).symm
  · cases hStep

/- A start takes a slot exactly while one is unused. -/
theorem Tracks.start
    {process : TracedProcess}
    (hTracks : Tracks process)
    {tid : Tid}
    {ctx : StartContext}
    (hFree :
      ∀ thread ∈ process.alive, thread.info.tid ≠ tid) :
    Tracks
      { registry := traceRegistryAdd process.registry tid ctx
        started := process.started + 1
        alive :=
          process.alive ++ [process.newThread tid ctx] } := by
  have hNew :
      ((process.alive ++ [process.newThread tid ctx]).map
        (fun thread => thread.info.tid)).Nodup := by
    rw [List.map_append]
    refine List.Nodup.append hTracks.hDistinct
      (List.nodup_singleton _) ?_
    intro other hOther hMem
    rcases List.mem_map.mp hOther with ⟨thread, hThread, rfl⟩
    simp only [List.map_cons, List.map_nil,
      List.mem_singleton] at hMem
    exact hFree thread hThread hMem
  have hUsed := hTracks.hUsed
  by_cases hRoom :
      process.registry.records.length < traceMaxThreads
  · have hNumber : process.started < traceMaxThreads := by omega
    refine ⟨?_, ?_, hNew⟩
    · simp only [traceRegistryAdd, hRoom, ↓reduceDIte,
        List.length_append, List.length_singleton]
      omega
    · have hSlotted :
          slotted
              (process.alive ++ [process.newThread tid ctx]) =
            slotted process.alive ++
              [process.newThread tid ctx] := by
        simp [slotted, TracedProcess.newThread, hNumber]
      rw [hSlotted, List.map_append, ← hTracks.hLive]
      simp [traceRegistryAdd, hRoom, liveInfos,
        TracedProcess.newThread, LiveThread.info,
        snprintfSignature_val]
  · have hNumber : ¬ process.started < traceMaxThreads := by
      omega
    refine ⟨?_, ?_, hNew⟩
    · simp only [traceRegistryAdd, hRoom, ↓reduceDIte]
      omega
    · have hSlotted :
          slotted
              (process.alive ++ [process.newThread tid ctx]) =
            slotted process.alive := by
        simp [slotted, TracedProcess.newThread, hNumber]
      rw [hSlotted, ← hTracks.hLive]
      simp [traceRegistryAdd, hRoom]

/- An exit clears the record of the thread, if it has one. -/
theorem Tracks.exit
    {process : TracedProcess}
    (hTracks : Tracks process)
    (tid : Tid) :
    Tracks
      { registry := traceRegistryExit process.registry tid
        started := process.started
        alive :=
          process.alive.filter
            (fun thread => thread.info.tid ≠ tid) } where
  hUsed := by
    have hUsed := hTracks.hUsed
    simpa [traceRegistryExit, length_clearFirst] using hUsed
  hLive := by
    rw [liveInfos_traceRegistryExit tid hTracks.live_distinct,
      hTracks.hLive, List.filter_map]
    congr 1
    simp only [slotted]
    rw [List.filter_comm]
    rfl
  hDistinct :=
    hTracks.hDistinct.sublist (List.filter_sublist.map _)

theorem Tracks.step
    {process next : TracedProcess}
    {event : ThreadEvent}
    (hTracks : Tracks process)
    (hStep : tracedProcess.step process event = some next) :
    Tracks next := by
  cases event with
  | start tid ctx =>
      rcases tracedProcess_start hStep with ⟨hFree, rfl⟩
      exact hTracks.start hFree
  | exit tid =>
      rw [tracedProcess_exit hStep]
      exact hTracks.exit tid

theorem Tracks.run
    {events : List ThreadEvent}
    {process : TracedProcess}
    (hRun :
      tracedProcess.run initialProcess events = some process) :
    Tracks process :=
  tracedProcess.run_invariant
    (fun _ _ _ hTracks hStep => hTracks.step hStep)
    Tracks.initial hRun

/- The snapshot of a tracked process. -/
theorem Tracks.snapshot
    {process : TracedProcess}
    (hTracks : Tracks process)
    (capacity : Nat) :
    rsThreadTraceSnapshot process.registry (some capacity) =
      ((slotted process.alive).length,
        ((slotted process.alive).map
          Started.info).take capacity) := by
  rw [rsThreadTraceSnapshot_eq, hTracks.hLive, List.length_map]

/-
  At any moment of any run, a snapshot is faithful exactly
  when every thread alive is among the first
  `TRACE_MAX_THREADS` threads the process has started.
-/
theorem snapshot_faithful_iff
    {events : List ThreadEvent}
    {process : TracedProcess}
    {capacity : Nat}
    (hRun :
      tracedProcess.run initialProcess events = some process)
    (hCapacity : process.alive.length ≤ capacity) :
    Faithful process capacity ↔
      ∀ thread ∈ process.alive,
        thread.number < traceMaxThreads := by
  have hSnapshot := (Tracks.run hRun).snapshot capacity
  simp only [Faithful, hSnapshot]
  constructor
  · rintro ⟨hCount, -⟩ thread hThread
    have hAll := List.length_filter_eq_length_iff.mp hCount
    simpa using hAll thread hThread
  · intro hSlots
    have hAll : slotted process.alive = process.alive := by
      apply List.filter_eq_self.mpr
      intro thread hThread
      simpa using hSlots thread hThread
    rw [hAll]
    refine ⟨rfl, ?_⟩
    rw [List.take_of_length_le (by simpa using hCapacity)]

theorem sampleTid_isTid : 0 < 7 ∧ 7 < 2 ^ 31 := by
  decide

def sampleTid : Tid :=
  ⟨7, sampleTid_isTid⟩

/- A context whose thread has the given place of creation. -/
def sampleContext (sequence : Nat) : StartContext where
  creationSequence := sequence
  signature := snprintfSignature "entry=librealsense2.so@0x10"

/- An identifier is used again after its thread has exited. -/
theorem reusedTid_faithful :
    ∃ process,
      tracedProcess.run initialProcess
          [.start sampleTid (sampleContext 1), .exit sampleTid,
            .start sampleTid (sampleContext 2)] = some process ∧
        Faithful process 1 := by
  refine ⟨_, rfl, ?_⟩
  have hRun :
      tracedProcess.run initialProcess
          [.start sampleTid (sampleContext 1), .exit sampleTid,
            .start sampleTid (sampleContext 2)] = some _ := rfl
  refine (snapshot_faithful_iff hRun ?_).mpr ?_
  · decide
  · decide

/- Threads that start and exit one after the other. -/
def churn : Nat → List ThreadEvent
| 0 => []
| count + 1 =>
    churn count ++
      [.start sampleTid (sampleContext (count + 1)), .exit sampleTid]

theorem run_churn
    (count : Nat) :
    ∃ process,
      tracedProcess.run initialProcess (churn count) =
          some process ∧
        process.started = count ∧ process.alive = [] := by
  induction count with
  | zero => exact ⟨initialProcess, rfl, rfl, rfl⟩
  | succ count ih =>
      rcases ih with ⟨process, hRun, hStarted, hAlive⟩
      rw [churn, TransitionSystem.run_append, hRun]
      simp [TransitionSystem.run, tracedProcess, hAlive,
        hStarted, traceMaxThreads, TracedProcess.newThread]

/-
  After 512 threads have come and gone, the only live thread
  of the process is missing from the snapshot.
-/
theorem churned_thread_missing :
    ∃ process,
      tracedProcess.run initialProcess
          (churn 512 ++ [.start sampleTid (sampleContext 513)]) =
        some process ∧
      process.alive.length = 1 ∧
      rsThreadTraceSnapshot process.registry (some 1) =
        (0, []) ∧
      ¬ Faithful process 1 := by
  rcases run_churn 512 with
    ⟨process, hRun, hStarted, hAlive⟩
  have hRunAll :
      tracedProcess.run initialProcess
          (churn 512 ++ [.start sampleTid (sampleContext 513)]) =
        some
          { registry :=
              traceRegistryAdd process.registry sampleTid
                (sampleContext 513)
            started := 513
            alive :=
              [process.newThread sampleTid (sampleContext 513)] } := by
    rw [TransitionSystem.run_append, hRun]
    simp [TransitionSystem.run, tracedProcess, hAlive,
      hStarted, traceMaxThreads]
  have hSnapshot := (Tracks.run hRunAll).snapshot 1
  have hSlotted :
      slotted [process.newThread sampleTid (sampleContext 513)] = [] := by
    simp [slotted, TracedProcess.newThread, hStarted,
      traceMaxThreads]
  simp only [hSlotted] at hSnapshot
  refine ⟨_, hRunAll, rfl, hSnapshot, ?_⟩
  rintro ⟨hCount, -⟩
  rw [hSnapshot] at hCount
  simp at hCount

end

------------------------------------------------------------
-- The Snapshot Of The Scheduler
------------------------------------------------------------

open Scheduler (Tid ThreadInfo ThreadTrace snapshotThreads
  createdBefore)

/-
  The two calls of `snapshot_threads`, with no thread event
  between them.
-/
def Registry.threadTrace (registry : Registry) : ThreadTrace :=
  let count := (rsThreadTraceSnapshot registry none).1
  { count := count
    live := (rsThreadTraceSnapshot registry (some count)).2 }

/- A call without a buffer counts the live records. -/
theorem foldl_snapshotStep_none
    (records : List LiveThread)
    (live : Nat) :
    records.foldl (snapshotStep none) (live, []) =
      (live + (liveInfos records).length, []) := by
  induction records generalizing live with
  | nil => rfl
  | cons source records ih =>
      by_cases hAlive : source.alive
      · rw [List.foldl_cons, snapshotStep,
          if_neg (by simp [hAlive]), ih]
        simp [liveInfos, hAlive]
        omega
      · rw [List.foldl_cons, snapshotStep, if_pos hAlive, ih]
        simp [liveInfos, hAlive]

theorem rsThreadTraceSnapshot_none
    (registry : Registry) :
    rsThreadTraceSnapshot registry none =
      ((liveInfos registry.records).length, []) := by
  rw [rsThreadTraceSnapshot, foldl_snapshotStep_none,
    Nat.zero_add]

/-
  Between two thread events of a run that never fills the
  table, the scheduler sees every live thread once, in the
  order of creation.
-/
theorem snapshotThreads_of_run
    {events : List ThreadEvent}
    {process : TracedProcess}
    (hRun :
      tracedProcess.run initialProcess events = some process)
    (hSlots :
      ∀ thread ∈ process.alive,
        thread.number < traceMaxThreads) :
    snapshotThreads (some process.registry.threadTrace) =
      .ok
        ((process.alive.map Started.info).insertionSort
          createdBefore) := by
  have hTracks := Tracks.run hRun
  have hAll : slotted process.alive = process.alive := by
    apply List.filter_eq_self.mpr
    intro thread hThread
    simpa using hSlots thread hThread
  have hLive := hTracks.hLive
  rw [hAll] at hLive
  have hTrace :
      process.registry.threadTrace =
        { count := process.alive.length
          live := process.alive.map Started.info } := by
    simp [Registry.threadTrace, rsThreadTraceSnapshot_none,
      rsThreadTraceSnapshot_eq, hLive]
  simp [snapshotThreads, hTrace]

end Trace

end RsCamera
