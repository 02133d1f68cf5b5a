import RsCamera.Trace.Lifecycle

/-
  Whose records the lifecycle records are.

  `Emitted` says what a trace is in which every thread creates,
  starts and exits in this order, and in which a TID or a
  `pthread_t` is used again only after an exit.  It keeps the
  events of every thread together.  The records follow these
  threads one by one, but for the sweep at the end of the
  process: it takes a thread that has not started for the main
  thread, since the record of both has its TID equal to its
  group.

  Key definitions include:
    * `ThreadLife`, `Emits`, `Emitted`
    * `Follows`, `KeepsThreads`
    * `Attributed`

  Key theorems include:
    * `KeepsThreads.step`
    * `Emitted.keeps`
    * `lifecycleRecords_attributed_iff`
-/

------------------------------------------------------------
-- Threads Of A Trace
------------------------------------------------------------

namespace RsCamera

namespace Trace

/- The events of one thread. -/
structure ThreadLife where
  create : Event
  start : Option Event := none
  exit : Option Event := none
  -- The last end of the process that is marked while the
  -- thread is created but has not started.
  swept : Option Int := none
deriving Repr, DecidableEq

namespace ThreadLife

/- The TID, once the thread has started. -/
def tid (thread : ThreadLife) : Option Int :=
  thread.start.bind Event.tid

/- The signature of the whole life. -/
def signature (thread : ThreadLife) : String :=
  match thread.start with
  | none => threadSignature thread.create
  | some start =>
      textOr start.signature
        (textOr (threadSignature thread.create)
          (threadSignature start))

/- When the thread ended. -/
def exitedNs (thread : ThreadLife) : Option Int :=
  thread.exit.bind Event.timestampNs

/- The end of the process is marked. -/
def sweep
    (timestampNs : Option Int)
    (thread : ThreadLife) : ThreadLife :=
  if thread.start = none then
    { thread with swept := timestampNs }
  else
    thread

end ThreadLife

/- A creation that made a thread. -/
def createSucceeds (event : Event) : Bool :=
  event.success.getD (event.result = some 0)

/- A marker at the end of the process. -/
def endsProcess (event : Event) : Prop :=
  event.kind = .phaseMarker ∧
    (event.name = "process_exit" ∨
      event.name = "process_error")

/- What an event does to the threads of a trace. -/
inductive Emits
    (mainTid : Int) :
    List ThreadLife → Event → List ThreadLife → Prop
| created
    {threads : List ThreadLife}
    {event : Event}
    (hKind : event.kind = .pthreadCreate)
    (hSucceeds : createSucceeds event = true)
    (hFree :
      ∀ thread ∈ threads,
        thread.create.pthreadValue = event.pthreadValue →
          thread.exit ≠ none) :
    Emits mainTid threads event
      (threads ++ [{ create := event }])
| refused
    {threads : List ThreadLife}
    {event : Event}
    (hKind : event.kind = .pthreadCreate)
    (hFails : createSucceeds event = false) :
    Emits mainTid threads event threads
| started
    {threads : List ThreadLife}
    {event : Event}
    {index : Nat}
    {thread : ThreadLife}
    {tid : Int}
    (hKind : event.kind = .threadStart)
    (hThread : threads[index]? = some thread)
    (hWaits : thread.start = none)
    (hPthread :
      event.pthreadValue = thread.create.pthreadValue)
    (hCreated :
      event.createTimestampNs = thread.create.timestampNs)
    (hTid : event.tid = some tid)
    (hMain : tid ≠ mainTid)
    (hFree :
      ∀ other ∈ threads, other.tid = some tid →
        other.exit ≠ none) :
    Emits mainTid threads event
      (threads.set index { thread with start := some event })
| exited
    {threads : List ThreadLife}
    {event : Event}
    {index : Nat}
    {thread : ThreadLife}
    {tid : Int}
    (hKind : event.kind = .threadExit)
    (hThread : threads[index]? = some thread)
    (hRuns : thread.exit = none)
    (hTid : thread.tid = some tid)
    (hSame : event.tid = some tid)
    (hTime : event.timestampNs ≠ none) :
    Emits mainTid threads event
      (threads.set index { thread with exit := some event })
| mainExited
    {threads : List ThreadLife}
    {event : Event}
    (hKind : event.kind = .threadExit)
    (hTid : event.tid = some mainTid) :
    Emits mainTid threads event threads
| ended
    {threads : List ThreadLife}
    {event : Event}
    (hEnds : endsProcess event) :
    Emits mainTid threads event
      (threads.map (ThreadLife.sweep event.timestampNs))
| other
    {threads : List ThreadLife}
    {event : Event}
    (hCreate : event.kind ≠ .pthreadCreate)
    (hStart : event.kind ≠ .threadStart)
    (hExit : event.kind ≠ .threadExit)
    (hEnds : ¬ endsProcess event) :
    Emits mainTid threads event threads

/- A trace and the threads it is about. -/
inductive Emitted
    (mainTid : Int) :
    List Event → List ThreadLife → Prop
| nil : Emitted mainTid [] []
| snoc
    {events : List Event}
    {threads threads' : List ThreadLife}
    {event : Event}
    (hBefore : Emitted mainTid events threads)
    (hEvent : Emits mainTid threads event threads') :
    Emitted mainTid (events ++ [event]) threads'

------------------------------------------------------------
-- Records That Follow Threads
------------------------------------------------------------

/- The record of a thread. -/
structure Follows
    (mainTid : Int)
    (thread : ThreadLife)
    (record : Record) : Prop where
  pthreadValue :
    record.pthreadValue = thread.create.pthreadValue
  createdNs : record.createdNs = thread.create.timestampNs
  tid : record.tid = thread.tid
  startedNs :
    record.startedNs = thread.start.bind Event.timestampNs
  signature : record.signature = thread.signature
  exitedNs :
    record.exitedNs = thread.swept.or thread.exitedNs
  waiting : thread.start = none → record.tgid = none
  group : record.tgid = none ∨ record.tgid = some mainTid

/- A life in its order. -/
structure ThreadLife.Sound
    (mainTid : Int)
    (thread : ThreadLife) : Prop where
  exit_none : thread.start = none → thread.exit = none
  tid_ne : thread.tid ≠ some mainTid
  tid_some : thread.start ≠ none → thread.tid ≠ none
  timed : thread.exit ≠ none → thread.exitedNs ≠ none

/- The record with this index is one of a thread that exited. -/
def HasExited
    (threads : List ThreadLife)
    (index : Nat) : Prop :=
  ∃ k thread,
    index = k + 1 ∧ threads[k]? = some thread ∧
      thread.exit ≠ none

/- The tables find the records of the threads. -/
structure KeepsThreads
    (mainTid : Int)
    (threads : List ThreadLife)
    (state : Lifecycle) : Prop where
  sound : ∀ thread ∈ threads, thread.Sound mainTid
  length : state.records.length = threads.length + 1
  main :
    ∃ first,
      state.records[0]? = some first ∧
        first.tid = some mainTid ∧ first.tgid = some mainTid
  follows :
    ∀ index thread, threads[index]? = some thread →
      ∃ record,
        state.records[index + 1]? = some record ∧
          Follows mainTid thread record
  byCreate :
    ∀ index thread, threads[index]? = some thread →
      thread.start = none →
        state.byCreate[(thread.create.pthreadValue,
            thread.create.timestampNs.getD 0)]? =
          some (index + 1)
  byMain :
    ∀ index ∈ state.byTid.getD mainTid [], index = 0
  byTid :
    ∀ tid, tid ≠ mainTid →
      ∀ index ∈ state.byTid.getD tid [],
        ∃ k thread,
          index = k + 1 ∧ threads[k]? = some thread ∧
            thread.tid = some tid
  running :
    ∀ index thread tid, threads[index]? = some thread →
      thread.tid = some tid → thread.exit = none →
        ∃ earlier,
          state.byTid.getD tid [] = earlier ++ [index + 1] ∧
            ∀ other ∈ earlier, HasExited threads other

/- Records that agree in what the threads are about. -/
structure SameCore
    (record record' : Record) : Prop where
  pthreadValue : record'.pthreadValue = record.pthreadValue
  createdNs : record'.createdNs = record.createdNs
  tid : record'.tid = record.tid
  tgid : record'.tgid = record.tgid
  startedNs : record'.startedNs = record.startedNs
  signature : record'.signature = record.signature
  exitedNs : record'.exitedNs = record.exitedNs

theorem Follows.sameCore
    {mainTid : Int}
    {thread : ThreadLife}
    {record record' : Record}
    (hFollows : Follows mainTid thread record)
    (hSame : SameCore record record') :
    Follows mainTid thread record' where
  pthreadValue := by
    rw [hSame.pthreadValue, hFollows.pthreadValue]
  createdNs := by rw [hSame.createdNs, hFollows.createdNs]
  tid := by rw [hSame.tid, hFollows.tid]
  startedNs := by rw [hSame.startedNs, hFollows.startedNs]
  signature := by rw [hSame.signature, hFollows.signature]
  exitedNs := by rw [hSame.exitedNs, hFollows.exitedNs]
  waiting := by
    rw [hSame.tgid]
    exact hFollows.waiting
  group := by
    rw [hSame.tgid]
    exact hFollows.group

/- Changes that the threads do not notice. -/
theorem KeepsThreads.update_same
    {mainTid : Int}
    {threads : List ThreadLife}
    {state : Lifecycle}
    (hKeeps : KeepsThreads mainTid threads state)
    {change : Record → Record}
    (hSame : ∀ record, SameCore record (change record))
    (index : Nat) :
    KeepsThreads mainTid threads (state.update index change) := by
  refine
    { sound := hKeeps.sound
      length := ?_
      main := ?_
      follows := ?_
      byCreate := hKeeps.byCreate
      byMain := hKeeps.byMain
      byTid := hKeeps.byTid
      running := hKeeps.running }
  · simp only [Lifecycle.update, List.length_modify]
    exact hKeeps.length
  · rcases hKeeps.main with ⟨first, hFirst, hTid, hTgid⟩
    simp only [Lifecycle.update, List.getElem?_modify, hFirst]
    by_cases hIndex : index = 0
    · refine ⟨change first, by simp [hIndex], ?_, ?_⟩
      · rw [(hSame first).tid, hTid]
      · rw [(hSame first).tgid, hTgid]
    · exact ⟨first, by simp [hIndex], hTid, hTgid⟩
  · intro other thread hThread
    rcases hKeeps.follows other thread hThread with
      ⟨record, hRecord, hFollows⟩
    simp only [Lifecycle.update, List.getElem?_modify, hRecord]
    by_cases hIndex : index = other + 1
    · exact ⟨change record, by simp [hIndex],
        hFollows.sameCore (hSame record)⟩
    · exact ⟨record, by simp [hIndex], hFollows⟩

theorem KeepsThreads.updateLast_same
    {mainTid : Int}
    {threads : List ThreadLife}
    {state : Lifecycle}
    (hKeeps : KeepsThreads mainTid threads state)
    {change : Record → Record}
    (hSame : ∀ record, SameCore record (change record))
    (candidates : List Nat)
    (accepts : Record → Bool) :
    KeepsThreads mainTid threads
      (state.updateLast candidates accepts change) := by
  unfold Lifecycle.updateLast
  split
  · exact hKeeps
  · exact hKeeps.update_same hSame _

------------------------------------------------------------
-- Creations
------------------------------------------------------------

theorem getElem?_concat_cases
    {X : Type}
    {xs : List X}
    {x y : X}
    {index : Nat}
    (hGet : (xs ++ [x])[index]? = some y) :
    xs[index]? = some y ∨ (index = xs.length ∧ y = x) := by
  rcases Nat.lt_trichotomy index xs.length with
    hLt | hEq | hGt
  · rw [List.getElem?_append_left hLt] at hGet
    exact Or.inl hGet
  · rw [hEq, List.getElem?_concat_length] at hGet
    exact Or.inr ⟨hEq, (Option.some.inj hGet).symm⟩
  · have hOut : (xs ++ [x])[index]? = none := by
      rw [List.getElem?_eq_none_iff, List.length_append,
        List.length_singleton]
      omega
    rw [hOut] at hGet
    cases hGet

theorem getElem?_append_of_some
    {X : Type}
    {xs : List X}
    {y : X}
    {index : Nat}
    (hGet : xs[index]? = some y)
    (more : List X) :
    (xs ++ more)[index]? = some y := by
  rw [List.getElem?_append_left
    (List.getElem?_eq_some_iff.mp hGet).1]
  exact hGet

theorem HasExited.append
    {threads : List ThreadLife}
    {index : Nat}
    (hExited : HasExited threads index)
    (more : List ThreadLife) :
    HasExited (threads ++ more) index := by
  rcases hExited with ⟨k, thread, hIndex, hThread, hExit⟩
  exact ⟨k, thread, hIndex,
    getElem?_append_of_some hThread more, hExit⟩

theorem sound_create
    (mainTid : Int)
    (event : Event) :
    ({ create := event } : ThreadLife).Sound mainTid where
  exit_none := fun _ => rfl
  tid_ne := by
    intro hTid
    cases hTid
  tid_some := fun hStart => absurd rfl hStart
  timed := fun hExit => absurd rfl hExit

/- A created thread has a record that waits for its start. -/
theorem KeepsThreads.created
    {mainTid : Int}
    {threads : List ThreadLife}
    {state : Lifecycle}
    (hKeeps : KeepsThreads mainTid threads state)
    (bounds : CycleBounds)
    {event : Event}
    (hSucceeds : createSucceeds event = true)
    (hFree :
      ∀ thread ∈ threads,
        thread.create.pthreadValue = event.pthreadValue →
          thread.exit ≠ none) :
    KeepsThreads mainTid (threads ++ [{ create := event }])
      (state.pthreadCreate bounds event) := by
  have hIndex := hKeeps.length
  unfold createSucceeds at hSucceeds
  unfold Lifecycle.pthreadCreate
  rw [if_pos hSucceeds]
  simp only [Lifecycle.newRecord]
  refine
    { sound := ?_
      length := ?_
      main := ?_
      follows := ?_
      byCreate := ?_
      byMain := hKeeps.byMain
      byTid := ?_
      running := ?_ }
  · intro thread hThread
    rcases List.mem_append.mp hThread with hOld | hNew
    · exact hKeeps.sound thread hOld
    · rw [List.mem_singleton.mp hNew]
      exact sound_create mainTid event
  · simp [hIndex]
  · rcases hKeeps.main with ⟨first, hFirst, hIs⟩
    exact ⟨first, getElem?_append_of_some hFirst _, hIs⟩
  · intro index thread hThread
    rcases getElem?_concat_cases hThread with
      hOld | ⟨hLast, hNew⟩
    · rcases hKeeps.follows index thread hOld with
        ⟨record, hRecord, hFollows⟩
      exact ⟨record, getElem?_append_of_some hRecord _,
        hFollows⟩
    · rw [hLast, hNew, ← hIndex]
      refine ⟨_, List.getElem?_concat_length, ?_⟩
      exact
        { pthreadValue := rfl
          createdNs := rfl
          tid := rfl
          startedNs := rfl
          signature := rfl
          exitedNs := rfl
          waiting := fun _ => rfl
          group := Or.inl rfl }
  · intro index thread hThread hWaits
    rw [Std.TreeMap.getElem?_insert]
    rcases getElem?_concat_cases hThread with
      hOld | ⟨hLast, hNew⟩
    · -- A thread that waits has not given up its pthread_t.
      have hMember := List.mem_of_getElem? hOld
      have hOther :
          thread.create.pthreadValue ≠ event.pthreadValue := by
        intro hSame
        exact hFree thread hMember hSame
          ((hKeeps.sound thread hMember).exit_none hWaits)
      rw [if_neg]
      · exact hKeeps.byCreate index thread hOld hWaits
      · intro hCompare
        have hKey := Std.LawfulEqOrd.eq_of_compare hCompare
        exact hOther (Prod.mk.inj hKey).1.symm
    · rw [hNew, if_pos]
      · rw [hIndex, hLast]
      · exact Std.ReflOrd.compare_self
  · intro tid hTid index hMember
    rcases hKeeps.byTid tid hTid index hMember with
      ⟨k, thread, hK, hThread, hIs⟩
    exact ⟨k, thread, hK, getElem?_append_of_some hThread _,
      hIs⟩
  · intro index thread tid hThread hTid hExit
    rcases getElem?_concat_cases hThread with
      hOld | ⟨-, hNew⟩
    · rcases hKeeps.running index thread tid hOld hTid hExit
        with ⟨earlier, hList, hEarlier⟩
      exact ⟨earlier, hList, fun other hOther =>
        (hEarlier other hOther).append _⟩
    · rw [hNew] at hTid
      cases hTid

------------------------------------------------------------
-- Starts
------------------------------------------------------------

section Replacements

variable {threads : List ThreadLife}
variable {index : Nat}
variable {thread next : ThreadLife}

theorem HasExited.set
    {other : Nat}
    (hExited : HasExited threads other)
    (hThread : threads[index]? = some thread)
    (hKeep : thread.exit ≠ none → next.exit ≠ none) :
    HasExited (threads.set index next) other := by
  rcases hExited with ⟨k, found, hOther, hFound, hExit⟩
  by_cases hSame : index = k
  · refine ⟨k, next, hOther, ?_, ?_⟩
    · rw [hSame, List.getElem?_set_self
        (List.getElem?_eq_some_iff.mp hFound).1]
    · rw [← hSame, hThread] at hFound
      rw [← Option.some.inj hFound] at hExit
      exact hKeep hExit
  · refine ⟨k, found, hOther, ?_, hExit⟩
    rw [List.getElem?_set_ne hSame]
    exact hFound

theorem getElem?_set_cases
    {k : Nat}
    {found : ThreadLife}
    (hGet : (threads.set index next)[k]? = some found) :
    (k = index ∧ found = next) ∨
      (k ≠ index ∧ threads[k]? = some found) := by
  by_cases hSame : index = k
  · rw [List.getElem?_set, if_pos hSame] at hGet
    split at hGet
    · exact Or.inl ⟨hSame.symm, (Option.some.inj hGet).symm⟩
    · cases hGet
  · rw [List.getElem?_set_ne hSame] at hGet
    exact Or.inr ⟨Ne.symm hSame, hGet⟩

/- One thread and its record change together. -/
theorem related_set
    {records : List Record}
    {Related : Nat → ThreadLife → Record → Prop}
    {change : Record → Record}
    (hRelated :
      ∀ k found, threads[k]? = some found →
        ∃ record,
          records[k + 1]? = some record ∧
            Related k found record)
    (hThread : threads[index]? = some thread)
    (hNext :
      ∀ record, Related index thread record →
        Related index next (change record)) :
    ∀ k found, (threads.set index next)[k]? = some found →
      ∃ record,
        (records.modify (index + 1) change)[k + 1]? =
            some record ∧
          Related k found record := by
  intro k found hFound
  rcases getElem?_set_cases hFound with
    ⟨hIs, hNew⟩ | ⟨hOther, hOld⟩
  · rcases hRelated index thread hThread with
      ⟨record, hRecord, hIsRelated⟩
    refine ⟨change record, ?_, ?_⟩
    · rw [hIs, List.getElem?_modify, hRecord]
      simp
    · rw [hNew, hIs]
      exact hNext record hIsRelated
  · rcases hRelated k found hOld with
      ⟨record, hRecord, hIsRelated⟩
    refine ⟨record, ?_, hIsRelated⟩
    rw [List.getElem?_modify, hRecord]
    simp [Ne.symm hOther]

theorem sound_set
    {mainTid : Int}
    (hSound : ∀ found ∈ threads, found.Sound mainTid)
    (hNext : next.Sound mainTid) :
    ∀ found ∈ threads.set index next,
      found.Sound mainTid := by
  intro found hFound
  rcases List.mem_or_eq_of_mem_set hFound with hOld | hNew
  · exact hSound found hOld
  · rw [hNew]
    exact hNext

end Replacements

section

variable {mainTid : Int}
variable {threads : List ThreadLife}
variable {state : Lifecycle}
variable {tid : Int}
variable {index : Nat}
variable {thread : ThreadLife}
variable {event : Event}

theorem main_modify
    {records : List Record}
    (hMain :
      ∃ first,
        records[0]? = some first ∧
          first.tid = some mainTid ∧
          first.tgid = some mainTid)
    (index : Nat)
    (change : Record → Record) :
    ∃ first,
      (records.modify (index + 1) change)[0]? = some first ∧
        first.tid = some mainTid ∧
        first.tgid = some mainTid := by
  rcases hMain with ⟨first, hFirst, hIs⟩
  refine ⟨first, ?_, hIs⟩
  rw [List.getElem?_modify, hFirst]
  simp

/- Threads belong to the process of the main thread. -/
theorem KeepsThreads.group
    (hKeeps : KeepsThreads mainTid threads state) :
    Lifecycle.appTgid state.records = none ∨
      Lifecycle.appTgid state.records = some mainTid := by
  cases hTgid : Lifecycle.appTgid state.records with
  | none => exact Or.inl rfl
  | some tgid =>
      right
      rcases List.exists_of_findSome?_eq_some hTgid with
        ⟨record, hRecord, hTruthy⟩
      have hIs : record.tgid = some tgid :=
        (Option.filter_eq_some_iff.mp hTruthy).1
      rcases List.mem_iff_getElem?.mp hRecord with
        ⟨index, hIndex⟩
      cases index with
      | zero =>
          rcases hKeeps.main with ⟨first, hFirst, -, hMain⟩
          rw [hFirst] at hIndex
          rw [← hIs, ← Option.some.inj hIndex, hMain]
      | succ k =>
          have hLt : k < threads.length := by
            have hBound :=
              (List.getElem?_eq_some_iff.mp hIndex).1
            have hLength := hKeeps.length
            omega
          rcases hKeeps.follows k threads[k]
            (List.getElem?_eq_getElem hLt) with
            ⟨found, hFound, hFollows⟩
          rw [hFound] at hIndex
          rw [← Option.some.inj hIndex] at hIs
          rcases hFollows.group with hNone | hMain
          · rw [hNone] at hIs
            cases hIs
          · rw [← hIs, hMain]

/- Every earlier thread with a TID that is free has exited. -/
theorem KeepsThreads.exited_of_free
    (hKeeps : KeepsThreads mainTid threads state)
    (hMain : tid ≠ mainTid)
    (hFree :
      ∀ other ∈ threads, other.tid = some tid →
        other.exit ≠ none)
    {other : Nat}
    (hOther : other ∈ state.byTid.getD tid []) :
    HasExited threads other := by
  rcases hKeeps.byTid tid hMain other hOther with
    ⟨k, found, hK, hGet, hTid⟩
  exact ⟨k, found, hK, hGet,
    hFree found (List.mem_of_getElem? hGet) hTid⟩

/- A thread without a TID is in no list of a TID. -/
theorem KeepsThreads.byTid_set
    (hKeeps : KeepsThreads mainTid threads state)
    (hThread : threads[index]? = some thread)
    (hNoTid : thread.tid = none)
    (next : ThreadLife)
    (hMain : tid ≠ mainTid)
    {j : Nat}
    (hJ : j ∈ state.byTid.getD tid []) :
    ∃ k found,
      j = k + 1 ∧ (threads.set index next)[k]? = some found ∧
        found.tid = some tid := by
  rcases hKeeps.byTid tid hMain j hJ with
    ⟨k, found, hK, hGet, hTid⟩
  refine ⟨k, found, hK, ?_, hTid⟩
  rw [List.getElem?_set_ne]
  · exact hGet
  · intro hSame
    rw [← hSame, hThread] at hGet
    rw [← Option.some.inj hGet, hNoTid] at hTid
    cases hTid

/- The creation of a thread that starts is known. -/
theorem KeepsThreads.startedRecord_eq
    (hKeeps : KeepsThreads mainTid threads state)
    (bounds : CycleBounds)
    (hThread : threads[index]? = some thread)
    (hWaits : thread.start = none)
    (hPthread :
      event.pthreadValue = thread.create.pthreadValue)
    (hCreated :
      event.createTimestampNs = thread.create.timestampNs) :
    state.startedRecord bounds event = (index + 1, state) := by
  unfold Lifecycle.startedRecord
  simp only [hPthread, hCreated,
    hKeeps.byCreate index thread hThread hWaits]

/- A thread that starts with a TID of its own. -/
theorem ThreadLife.Sound.started
    {mainTid tid : Int}
    (hSound : thread.Sound mainTid)
    (hTid : event.tid = some tid)
    (hMain : tid ≠ mainTid) :
    ({ thread with start := some event } : ThreadLife).Sound
      mainTid := by
  have hNextTid :
      ({ thread with start := some event } : ThreadLife).tid =
        some tid := hTid
  refine ⟨?_, ?_, ?_, hSound.timed⟩
  · intro hStart
    cases hStart
  · rw [hNextTid]
    intro hSame
    exact hMain (Option.some.inj hSame)
  · intro _
    rw [hNextTid]
    exact Option.some_ne_none tid

section Started

variable {mainTid tid : Int}
variable {threads : List ThreadLife}
variable {thread : ThreadLife}
variable {state : Lifecycle}
variable {event : Event}
variable {index : Nat}

/- The record of the thread is listed under its TID. -/
theorem KeepsThreads.byTid_started
    (hKeeps : KeepsThreads mainTid threads state)
    (hThread : threads[index]? = some thread)
    (hWaits : thread.start = none)
    (hTid : event.tid = some tid) :
    ∀ other, other ≠ mainTid →
      ∀ j ∈ (state.byTid.insert tid
          (state.byTid.getD tid [] ++ [index + 1])).getD other
            [],
        ∃ k found,
          j = k + 1 ∧
            (threads.set index
              { thread with start := some event })[k]? =
                some found ∧
            found.tid = some other := by
  have hNoTid : thread.tid = none := by
    rw [ThreadLife.tid, hWaits]
    rfl
  intro other hOther j hJ
  rw [Std.TreeMap.getD_insert] at hJ
  split at hJ
  next hCompare =>
    have hSame := Std.LawfulEqOrd.eq_of_compare hCompare
    rcases List.mem_append.mp hJ with hMember | hNew
    · rw [hSame] at hMember
      exact hKeeps.byTid_set hThread hNoTid _ hOther hMember
    · refine ⟨index, _, List.mem_singleton.mp hNew,
        List.getElem?_set_self
          (List.getElem?_eq_some_iff.mp hThread).1, ?_⟩
      rw [← hSame]
      exact hTid
  · exact hKeeps.byTid_set hThread hNoTid _ hOther hJ

/- The threads that run are the last ones under their TIDs. -/
theorem KeepsThreads.running_started
    (hKeeps : KeepsThreads mainTid threads state)
    (hThread : threads[index]? = some thread)
    (hTid : event.tid = some tid)
    (hMain : tid ≠ mainTid)
    (hFree :
      ∀ other ∈ threads, other.tid = some tid →
        other.exit ≠ none) :
    ∀ k found other,
      (threads.set index
        { thread with start := some event })[k]? =
          some found →
      found.tid = some other → found.exit = none →
        ∃ earlier,
          (state.byTid.insert tid
              (state.byTid.getD tid [] ++ [index + 1])).getD
                other [] = earlier ++ [k + 1] ∧
            ∀ j ∈ earlier,
              HasExited
                (threads.set index
                  { thread with start := some event }) j := by
  have hNextTid :
      ({ thread with start := some event } : ThreadLife).tid =
        some tid := hTid
  intro k found other hGet hFoundTid hExit
  rw [Std.TreeMap.getD_insert]
  rcases getElem?_set_cases hGet with
    ⟨hIs, hNew⟩ | ⟨-, hOld⟩
  · rw [hNew, hNextTid] at hFoundTid
    cases hFoundTid
    rw [if_pos Std.ReflOrd.compare_self, hIs]
    refine ⟨_, rfl, ?_⟩
    intro j hJ
    exact (hKeeps.exited_of_free hMain hFree hJ).set hThread
      (fun hKeep => hKeep)
  · -- Another thread that runs has another TID.
    rw [if_neg]
    · rcases hKeeps.running k found other hOld hFoundTid
        hExit with ⟨earlier, hList, hGone⟩
      refine ⟨earlier, hList, ?_⟩
      intro j hJ
      exact (hGone j hJ).set hThread (fun hKeep => hKeep)
    · intro hCompare
      have hSame := Std.LawfulEqOrd.eq_of_compare hCompare
      rw [← hSame] at hFoundTid
      exact hFree found (List.mem_of_getElem? hOld)
        hFoundTid hExit

end Started

theorem KeepsThreads.started
    (hKeeps : KeepsThreads mainTid threads state)
    (bounds : CycleBounds)
    (hThread : threads[index]? = some thread)
    (hWaits : thread.start = none)
    (hPthread :
      event.pthreadValue = thread.create.pthreadValue)
    (hCreated :
      event.createTimestampNs = thread.create.timestampNs)
    (hTid : event.tid = some tid)
    (hMain : tid ≠ mainTid)
    (hFree :
      ∀ other ∈ threads, other.tid = some tid →
        other.exit ≠ none) :
    ∃ state',
      state.threadStart bounds event = .ok state' ∧
        KeepsThreads mainTid
          (threads.set index { thread with start := some event })
          state' := by
  have hSound :=
    hKeeps.sound thread (List.mem_of_getElem? hThread)
  have hNextTid :
      ({ thread with start := some event } : ThreadLife).tid =
        some tid := hTid
  have hFound :=
    hKeeps.startedRecord_eq bounds hThread hWaits hPthread
      hCreated
  cases hResult : state.threadStart bounds event with
  | error error =>
    unfold Lifecycle.threadStart at hResult
    rw [hFound, hTid] at hResult
    cases hResult
  | ok state' =>
    unfold Lifecycle.threadStart at hResult
    rw [hFound, hTid] at hResult
    rw [← Except.ok.inj hResult]
    refine ⟨_, rfl, ?_⟩
    refine
      { sound :=
          sound_set hKeeps.sound (hSound.started hTid hMain)
        length := ?_
        main := main_modify hKeeps.main index _
        follows := related_set hKeeps.follows hThread ?_
        byCreate := ?_
        byMain := ?_
        byTid := hKeeps.byTid_started hThread hWaits hTid
        running :=
          hKeeps.running_started hThread hTid hMain hFree }
    · simp only [Lifecycle.update, List.length_modify,
        List.length_set]
      exact hKeeps.length
    · intro record hFollows
      exact
        { pthreadValue := hFollows.pthreadValue
          createdNs := hFollows.createdNs
          tid := hNextTid.symm
          startedNs := rfl
          signature := by
            have hSignature := hFollows.signature
            rw [ThreadLife.signature, hWaits] at hSignature
            simp only [ThreadLife.signature, hSignature]
          exitedNs := hFollows.exitedNs
          waiting := fun hStart => by cases hStart
          group := hKeeps.group }
    · intro k found hGet hFoundWaits
      rcases getElem?_set_cases hGet with
        ⟨-, hNew⟩ | ⟨-, hOld⟩
      · rw [hNew] at hFoundWaits
        cases hFoundWaits
      · exact hKeeps.byCreate k found hOld hFoundWaits
    · intro other hOther
      rw [Std.TreeMap.getD_insert] at hOther
      rw [if_neg] at hOther
      · exact hKeeps.byMain other hOther
      · intro hCompare
        exact hMain (Std.LawfulEqOrd.eq_of_compare hCompare)

end

------------------------------------------------------------
-- Exits
------------------------------------------------------------

section

variable {mainTid : Int}
variable {threads : List ThreadLife}
variable {state : Lifecycle}
variable {event : Event}
variable {index : Nat}
variable {thread : ThreadLife}

/- The thread exits; its record is changed accordingly. -/
theorem KeepsThreads.exit_record
    (hKeeps : KeepsThreads mainTid threads state)
    (hThread : threads[index]? = some thread)
    (hStarted : thread.tid ≠ none)
    (hTime : event.timestampNs ≠ none)
    {change : Record → Record}
    (hChange :
      ∀ record, Follows mainTid thread record →
        Follows mainTid { thread with exit := some event }
          (change record)) :
    KeepsThreads mainTid
      (threads.set index { thread with exit := some event })
      (state.update (index + 1) change) := by
  have hSound :=
    hKeeps.sound thread (List.mem_of_getElem? hThread)
  have hStart : thread.start ≠ none := by
    intro hNone
    rw [ThreadLife.tid, hNone] at hStarted
    exact hStarted rfl
  refine
    { sound := sound_set hKeeps.sound ?_
      length := ?_
      main := main_modify hKeeps.main index _
      follows := related_set hKeeps.follows hThread hChange
      byCreate := ?_
      byMain := hKeeps.byMain
      byTid := ?_
      running := ?_ }
  · exact ⟨fun hNone => absurd hNone hStart, hSound.tid_ne,
      hSound.tid_some, fun _ => hTime⟩
  · simp only [Lifecycle.update, List.length_modify,
      List.length_set]
    exact hKeeps.length
  · intro k found hGet hWaits
    rcases getElem?_set_cases hGet with ⟨-, hNew⟩ | ⟨-, hOld⟩
    · rw [hNew] at hWaits
      exact absurd hWaits hStart
    · exact hKeeps.byCreate k found hOld hWaits
  · intro tid hMain j hJ
    rcases hKeeps.byTid tid hMain j hJ with
      ⟨k, found, hK, hGet, hFoundTid⟩
    by_cases hSame : index = k
    · rw [← hSame, hThread] at hGet
      rw [← Option.some.inj hGet] at hFoundTid
      refine ⟨index, _, hSame ▸ hK,
        List.getElem?_set_self
          (List.getElem?_eq_some_iff.mp hThread).1, hFoundTid⟩
    · refine ⟨k, found, hK, ?_, hFoundTid⟩
      rw [List.getElem?_set_ne hSame]
      exact hGet
  · intro k found tid hGet hFoundTid hExit
    rcases getElem?_set_cases hGet with ⟨-, hNew⟩ | ⟨-, hOld⟩
    · rw [hNew] at hExit
      cases hExit
    · rcases hKeeps.running k found tid hOld hFoundTid hExit
        with ⟨earlier, hList, hGone⟩
      refine ⟨earlier, hList, ?_⟩
      intro j hJ
      exact (hGone j hJ).set hThread
        (fun _ => Option.some_ne_none event)

/- Records of threads that exited are not looked for again. -/
theorem KeepsThreads.filter_exited
    (hKeeps : KeepsThreads mainTid threads state)
    {indices : List Nat}
    (hGone : ∀ index ∈ indices, HasExited threads index) :
    indices.filter (fun index =>
        (state.records[index]?.map
          (fun record => record.exitedNs.isNone)).getD
            false) = [] := by
  rw [List.filter_eq_nil_iff]
  intro index hIndex
  rcases hGone index hIndex with
    ⟨k, thread, hK, hThread, hExit⟩
  rcases hKeeps.follows k thread hThread with
    ⟨record, hRecord, hFollows⟩
  have hTimed :=
    (hKeeps.sound thread (List.mem_of_getElem? hThread)).timed
      hExit
  rw [hK, hRecord, Option.map_some, Option.getD_some,
    hFollows.exitedNs]
  cases hSwept : thread.swept with
  | some time => simp
  | none => simpa using hTimed

/- The record of a thread that has exited. -/
theorem Follows.exit
    {record : Record}
    (hFollows : Follows mainTid thread record)
    {exitedNs : Option Int}
    (hExited : exitedNs = thread.swept.or event.timestampNs)
    (name : String) :
    Follows mainTid { thread with exit := some event }
      { record with exitedNs := exitedNs, name := name } where
  pthreadValue := hFollows.pthreadValue
  createdNs := hFollows.createdNs
  tid := hFollows.tid
  startedNs := hFollows.startedNs
  signature := hFollows.signature
  exitedNs := hExited
  waiting := hFollows.waiting
  group := hFollows.group

theorem update_self
    (state : Lifecycle)
    (index : Nat) :
    state.update index (fun record => record) = state := by
  have hSame :
      state.records.modify index (fun record => record) =
        state.records :=
    List.modify_id index state.records
  rw [Lifecycle.update, hSame]

/- The open record of a TID is the one of its running thread. -/
theorem KeepsThreads.lastWhere_running
    (hKeeps : KeepsThreads mainTid threads state)
    {tid : Int}
    (hThread : threads[index]? = some thread)
    (hRuns : thread.exit = none)
    (hTid : thread.tid = some tid) :
    state.lastWhere (state.byTid.getD tid [])
        (fun record => record.exitedNs.isNone) =
      if thread.swept = none then
        some (index + 1)
      else
        none := by
  rcases hKeeps.running index thread tid hThread hTid hRuns
    with ⟨earlier, hList, hGone⟩
  rcases hKeeps.follows index thread hThread with
    ⟨record, hRecord, hFollows⟩
  have hExited := hFollows.exitedNs
  rw [ThreadLife.exitedNs, hRuns, Option.bind_none,
    Option.or_none] at hExited
  unfold Lifecycle.lastWhere
  rw [hList, List.filter_append, hKeeps.filter_exited hGone,
    List.nil_append, List.filter_singleton, hRecord,
    Option.map_some, Option.getD_some, hExited]
  cases thread.swept with
  | none => rfl
  | some time => rfl

theorem KeepsThreads.exited
    (hKeeps : KeepsThreads mainTid threads state)
    {tid : Int}
    (hThread : threads[index]? = some thread)
    (hRuns : thread.exit = none)
    (hTid : thread.tid = some tid)
    (hSame : event.tid = some tid)
    (hTime : event.timestampNs ≠ none) :
    ∃ state',
      state.threadExit event = .ok state' ∧
        KeepsThreads mainTid
          (threads.set index { thread with exit := some event })
          state' := by
  have hStarted : thread.tid ≠ none := by
    rw [hTid]
    exact Option.some_ne_none tid
  have hLast :=
    hKeeps.lastWhere_running hThread hRuns hTid
  unfold Lifecycle.threadExit
  rw [hSame]
  refine ⟨_, rfl, ?_⟩
  unfold Lifecycle.updateLast
  by_cases hSwept : thread.swept = none
  · rw [if_pos hSwept] at hLast
    rw [hLast]
    apply hKeeps.exit_record hThread hStarted hTime
    intro other hOther
    apply hOther.exit
    rw [hSwept]
    rfl
  · -- The sweep has closed the record already.
    rw [if_neg hSwept] at hLast
    rw [hLast]
    have hKept :
        KeepsThreads mainTid
          (threads.set index { thread with exit := some event })
          (state.update (index + 1) (fun record => record)) := by
      apply hKeeps.exit_record hThread hStarted hTime
      intro other hOther
      apply hOther.exit
      rcases Option.ne_none_iff_exists'.mp hSwept with
        ⟨time, hTimeSwept⟩
      rw [hOther.exitedNs, hTimeSwept]
      rfl
    rw [update_self] at hKept
    exact hKept

/- The exit of the main thread is of no other thread. -/
theorem KeepsThreads.mainExited
    (hKeeps : KeepsThreads mainTid threads state)
    (hTid : event.tid = some mainTid) :
    ∃ state',
      state.threadExit event = .ok state' ∧
        KeepsThreads mainTid threads state' := by
  unfold Lifecycle.threadExit
  rw [hTid]
  refine ⟨_, rfl, ?_⟩
  unfold Lifecycle.updateLast
  split
  · exact hKeeps
  next index hIndex =>
    have hMember := List.mem_of_getLast? hIndex
    have hZero :=
      hKeeps.byMain index (List.mem_filter.mp hMember).1
    rw [hZero]
    refine
      { sound := hKeeps.sound
        length := ?_
        main := ?_
        follows := ?_
        byCreate := hKeeps.byCreate
        byMain := hKeeps.byMain
        byTid := hKeeps.byTid
        running := hKeeps.running }
    · simp only [Lifecycle.update, List.length_modify]
      exact hKeeps.length
    · rcases hKeeps.main with ⟨first, hFirst, hIs⟩
      simp only [Lifecycle.update, List.getElem?_modify, hFirst]
      exact ⟨_, rfl, hIs⟩
    · intro k thread hThread
      rcases hKeeps.follows k thread hThread with
        ⟨record, hRecord, hFollows⟩
      refine ⟨record, ?_, hFollows⟩
      simp [Lifecycle.update, hRecord]

section Sweeps

variable (timestampNs : Option Int)
variable (thread : ThreadLife)

@[simp]
theorem sweep_start :
    (thread.sweep timestampNs).start = thread.start := by
  unfold ThreadLife.sweep
  split <;> rfl

@[simp]
theorem sweep_create :
    (thread.sweep timestampNs).create = thread.create := by
  unfold ThreadLife.sweep
  split <;> rfl

@[simp]
theorem sweep_exit :
    (thread.sweep timestampNs).exit = thread.exit := by
  unfold ThreadLife.sweep
  split <;> rfl

@[simp]
theorem sweep_tid :
    (thread.sweep timestampNs).tid = thread.tid := by
  rw [ThreadLife.tid, sweep_start, ThreadLife.tid]

end Sweeps

theorem ThreadLife.Sound.sweep
    (hSound : thread.Sound mainTid)
    (timestampNs : Option Int) :
    (thread.sweep timestampNs).Sound mainTid := by
  constructor
  · simpa using hSound.exit_none
  · simpa using hSound.tid_ne
  · simpa using hSound.tid_some
  · simpa [ThreadLife.exitedNs] using hSound.timed

/- A thread that waits is swept as the main thread is. -/
theorem Follows.sweep
    {record : Record}
    (hFollows : Follows mainTid thread record)
    (hSound : thread.Sound mainTid)
    (timestampNs : Option Int) :
    Follows mainTid (thread.sweep timestampNs)
      (if record.tid = record.tgid then
        { record with exitedNs := timestampNs }
      else
        record) := by
  unfold ThreadLife.sweep
  by_cases hWaits : thread.start = none
  · have hNoTid : record.tid = none := by
      rw [hFollows.tid, ThreadLife.tid, hWaits]
      rfl
    have hNoExit : thread.exitedNs = none := by
      rw [ThreadLife.exitedNs, hSound.exit_none hWaits]
      rfl
    rw [if_pos hWaits,
      if_pos (hNoTid.trans (hFollows.waiting hWaits).symm)]
    exact
      { pthreadValue := hFollows.pthreadValue
        createdNs := hFollows.createdNs
        tid := hFollows.tid
        startedNs := hFollows.startedNs
        signature := hFollows.signature
        exitedNs := by
          change timestampNs = timestampNs.or thread.exitedNs
          rw [hNoExit, Option.or_none]
        waiting := hFollows.waiting
        group := hFollows.group }
  · have hOther : record.tid ≠ record.tgid := by
      rw [hFollows.tid]
      rcases hFollows.group with hNone | hMain
      · rw [hNone]
        exact hSound.tid_some hWaits
      · rw [hMain]
        exact hSound.tid_ne
    rw [if_neg hWaits, if_neg hOther]
    exact hFollows

/- The end of the process is marked. -/
theorem KeepsThreads.ended
    (hKeeps : KeepsThreads mainTid threads state)
    (hEnds : endsProcess event) :
    KeepsThreads mainTid
      (threads.map (ThreadLife.sweep event.timestampNs))
      (state.phaseMarker event) := by
  unfold Lifecycle.phaseMarker
  rw [if_pos hEnds.2]
  have hGet :
      ∀ {k : Nat} {found : ThreadLife},
        (threads.map (ThreadLife.sweep event.timestampNs))[k]? =
            some found →
          ∃ thread : ThreadLife,
            threads[k]? = some thread ∧
              found = thread.sweep event.timestampNs := by
    intro k found hFound
    rw [List.getElem?_map, Option.map_eq_some_iff] at hFound
    rcases hFound with ⟨thread, hThread, hIs⟩
    exact ⟨thread, hThread, hIs.symm⟩
  have hPut :
      ∀ {k : Nat} {thread : ThreadLife},
        threads[k]? = some thread →
          (threads.map (ThreadLife.sweep event.timestampNs))[k]? =
            some (thread.sweep event.timestampNs) := by
    intro k thread hThread
    rw [List.getElem?_map, hThread]
    rfl
  refine
    { sound := ?_
      length := ?_
      main := ?_
      follows := ?_
      byCreate := ?_
      byMain := hKeeps.byMain
      byTid := ?_
      running := ?_ }
  · intro found hFound
    rcases List.mem_map.mp hFound with ⟨thread, hThread, hIs⟩
    rw [← hIs]
    exact (hKeeps.sound thread hThread).sweep _
  · simp only [List.length_map]
    exact hKeeps.length
  · rcases hKeeps.main with ⟨first, hFirst, hTid, hTgid⟩
    simp only [List.getElem?_map, hFirst, Option.map_some]
    refine ⟨_, rfl, ?_⟩
    rw [if_pos (hTid.trans hTgid.symm)]
    exact ⟨hTid, hTgid⟩
  · intro k found hFound
    rcases hGet hFound with ⟨thread, hThread, hIs⟩
    rcases hKeeps.follows k thread hThread with
      ⟨record, hRecord, hFollows⟩
    rw [List.getElem?_map, hRecord]
    refine ⟨_, rfl, ?_⟩
    rw [hIs]
    exact hFollows.sweep
      (hKeeps.sound thread (List.mem_of_getElem? hThread))
      event.timestampNs
  · intro k found hFound hWaits
    rcases hGet hFound with ⟨thread, hThread, hIs⟩
    rw [hIs, sweep_start] at hWaits
    rw [hIs, sweep_create]
    exact hKeeps.byCreate k thread hThread hWaits
  · intro tid hMain j hJ
    rcases hKeeps.byTid tid hMain j hJ with
      ⟨k, thread, hK, hThread, hTid⟩
    refine ⟨k, _, hK, hPut hThread, ?_⟩
    rw [sweep_tid, hTid]
  · intro k found tid hFound hTid hExit
    rcases hGet hFound with ⟨thread, hThread, hIs⟩
    rw [hIs, sweep_tid] at hTid
    rw [hIs, sweep_exit] at hExit
    rcases hKeeps.running k thread tid hThread hTid hExit
      with ⟨earlier, hList, hGone⟩
    refine ⟨earlier, hList, ?_⟩
    intro j hJ
    rcases hGone j hJ with ⟨i, other, hI, hOther, hGoneExit⟩
    refine ⟨i, _, hI, hPut hOther, ?_⟩
    rw [sweep_exit]
    exact hGoneExit

end

------------------------------------------------------------
-- Whole Traces
------------------------------------------------------------

variable {mainTid : Int}
variable {threads : List ThreadLife}
variable {state : Lifecycle}
variable {event : Event}

/- An event of no thread changes none of the records' cores. -/
theorem KeepsThreads.other
    (hKeeps : KeepsThreads mainTid threads state)
    (bounds : CycleBounds)
    (hCreate : event.kind ≠ .pthreadCreate)
    (hStart : event.kind ≠ .threadStart)
    (hExit : event.kind ≠ .threadExit)
    (hEnds : ¬ endsProcess event) :
    ∃ state',
      state.step bounds event = .ok state' ∧
        KeepsThreads mainTid threads state' := by
  unfold Lifecycle.step
  cases hKind : event.kind with
  | pthreadCreate => exact absurd hKind hCreate
  | threadStart => exact absurd hKind hStart
  | threadExit => exact absurd hKind hExit
  | threadName =>
      refine ⟨_, rfl, hKeeps.updateLast_same ?_ _ _⟩
      intro record
      exact ⟨rfl, rfl, rfl, rfl, rfl, rfl, rfl⟩
  | pthreadJoinEnd =>
      refine ⟨_, rfl, ?_⟩
      unfold Lifecycle.pthreadJoinEnd
      split
      · refine hKeeps.updateLast_same ?_ _ _
        intro record
        exact ⟨rfl, rfl, rfl, rfl, rfl, rfl, rfl⟩
      · exact hKeeps
  | pthreadDetach =>
      refine ⟨_, rfl, ?_⟩
      unfold Lifecycle.pthreadDetach
      split
      · refine hKeeps.updateLast_same ?_ _ _
        intro record
        exact ⟨rfl, rfl, rfl, rfl, rfl, rfl, rfl⟩
      · exact hKeeps
  | phaseMarker =>
      refine ⟨_, rfl, ?_⟩
      unfold Lifecycle.phaseMarker
      rw [if_neg (fun hName => hEnds ⟨hKind, hName⟩)]
      exact hKeeps
  | unknown => exact ⟨state, rfl, hKeeps⟩

theorem KeepsThreads.step
    {threads threads' : List ThreadLife}
    (hKeeps : KeepsThreads mainTid threads state)
    (bounds : CycleBounds)
    (hEmits : Emits mainTid threads event threads') :
    ∃ state',
      state.step bounds event = .ok state' ∧
        KeepsThreads mainTid threads' state' := by
  cases hEmits with
  | created hKind hSucceeds hFree =>
      unfold Lifecycle.step
      rw [hKind]
      exact ⟨_, rfl, hKeeps.created bounds hSucceeds hFree⟩
  | refused hKind hFails =>
      unfold createSucceeds at hFails
      unfold Lifecycle.step Lifecycle.pthreadCreate
      rw [hKind, hFails]
      exact ⟨state, rfl, hKeeps⟩
  | started hKind hThread hWaits hPthread hCreated hTid hMain
      hFree =>
      unfold Lifecycle.step
      rw [hKind]
      exact hKeeps.started bounds hThread hWaits hPthread
        hCreated hTid hMain hFree
  | exited hKind hThread hRuns hTid hSame hTime =>
      unfold Lifecycle.step
      rw [hKind]
      exact hKeeps.exited hThread hRuns hTid hSame hTime
  | mainExited hKind hTid =>
      unfold Lifecycle.step
      rw [hKind]
      exact hKeeps.mainExited hTid
  | ended hEnds =>
      unfold Lifecycle.step
      rw [hEnds.1]
      exact ⟨_, rfl, hKeeps.ended hEnds⟩
  | other hCreate hStart hExit hEnds =>
      exact hKeeps.other bounds hCreate hStart hExit hEnds

theorem Emitted.keeps
    {events : List Event}
    (hEmitted : Emitted mainTid events threads)
    (bounds : CycleBounds)
    (hStart : KeepsThreads mainTid [] state) :
    ∃ state',
      events.foldlM (Lifecycle.step bounds) state =
          .ok state' ∧
        KeepsThreads mainTid threads state' := by
  induction hEmitted with
  | nil => exact ⟨state, rfl, hStart⟩
  | snoc _ hEvent ih =>
      rcases ih with ⟨before, hBefore, hKeeps⟩
      rcases hKeeps.step bounds hEvent with
        ⟨after, hAfter, hNext⟩
      refine ⟨after, ?_, hNext⟩
      exact foldlM_concat_eq_ok.mpr ⟨before, hBefore, hAfter⟩

theorem startMain_keeps
    {events : List Event}
    {mainTid time : Int}
    (hFind :
      events.find? (fun event =>
        event.kind = .phaseMarker ∧
          event.name = "process_start") = some event)
    (hTid : event.tid = some mainTid)
    (hTime : event.timestampNs = some time) :
    ∃ state,
      Lifecycle.startMain {} events = .ok state ∧
        KeepsThreads mainTid [] state := by
  unfold Lifecycle.startMain
  rw [hFind]
  simp only [hTid, hTime, requireKey]
  refine ⟨_, rfl, ?_⟩
  refine
    { sound := by simp
      length := rfl
      main := ⟨_, rfl, rfl, rfl⟩
      follows := by simp
      byCreate := by simp
      byMain := ?_
      byTid := ?_
      running := by simp }
  · intro index hIndex
    simpa [Lifecycle.newRecord] using hIndex
  · intro tid hOther index hIndex
    simp only [Lifecycle.newRecord, if_true] at hIndex
    rw [Std.TreeMap.getD_insert, if_neg] at hIndex
    · simp at hIndex
    · intro hCompare
      exact hOther
        (Std.LawfulEqOrd.eq_of_compare hCompare).symm

/- A record with the data of one thread and of its exit. -/
structure Attributed
    (thread : ThreadLife)
    (record : Record) : Prop where
  pthreadValue :
    record.pthreadValue = thread.create.pthreadValue
  createdNs : record.createdNs = thread.create.timestampNs
  tid : record.tid = thread.start.bind Event.tid
  startedNs :
    record.startedNs = thread.start.bind Event.timestampNs
  signature : record.signature = thread.signature
  exitedNs :
    record.exitedNs = thread.exit.bind Event.timestampNs

/- No end of the process shows up as the end of a thread. -/
def ThreadLife.Unswept (thread : ThreadLife) : Prop :=
  thread.swept = none ∨
    thread.swept = thread.exit.bind Event.timestampNs

theorem Follows.attributed_iff
    {thread : ThreadLife}
    {record : Record}
    (hFollows : Follows mainTid thread record)
    (tgid : Option Int)
    (cycle : Int) :
    Attributed thread
        { record with tgid := tgid, cycle := cycle } ↔
      thread.Unswept := by
  have hExited := hFollows.exitedNs
  unfold ThreadLife.Unswept
  constructor
  · intro hAttributed
    have hOwn := hAttributed.exitedNs
    simp only [hExited] at hOwn
    cases hSwept : thread.swept with
    | none => exact Or.inl rfl
    | some time =>
        rw [hSwept] at hOwn
        exact Or.inr hOwn
  · intro hUnswept
    refine ⟨hFollows.pthreadValue, hFollows.createdNs,
      hFollows.tid, hFollows.startedNs, hFollows.signature, ?_⟩
    simp only [hExited]
    rcases hUnswept with hNone | hSame
    · rw [hNone]
      rfl
    · rw [hSame, ThreadLife.exitedNs, Option.or_self]

/- The main record, and the records of the threads in order. -/
theorem KeepsThreads.records_eq
    (hKeeps : KeepsThreads mainTid threads state) :
    ∃ first rest,
      state.records = first :: rest ∧
        first.tid = some mainTid ∧
        List.Forall₂ (Follows mainTid) threads rest := by
  rcases hKeeps.main with ⟨first, hFirst, hTid, -⟩
  cases hRecords : state.records with
  | nil =>
      rw [hRecords] at hFirst
      cases hFirst
  | cons head rest =>
      rw [hRecords] at hFirst
      cases hFirst
      refine ⟨first, rest, rfl, hTid, ?_⟩
      have hLength := hKeeps.length
      rw [hRecords, List.length_cons] at hLength
      rw [List.forall₂_iff_get]
      refine ⟨by omega, ?_⟩
      intro index hThread hRecord
      rcases hKeeps.follows index threads[index]
        (List.getElem?_eq_getElem hThread) with
        ⟨record, hGet, hFollows⟩
      rw [hRecords, List.getElem?_cons_succ,
        List.getElem?_eq_getElem hRecord] at hGet
      rw [List.get_eq_getElem, List.get_eq_getElem,
        Option.some.inj hGet]
      exact hFollows

theorem forall₂_attributed_iff
    {rest : List Record}
    (hFollows : List.Forall₂ (Follows mainTid) threads rest)
    (tgid : Option Int)
    (cycle : Record → Int) :
    List.Forall₂ Attributed threads
        (rest.map (fun record =>
          { record with
            tgid := tgid, cycle := cycle record })) ↔
      ∀ thread ∈ threads, thread.Unswept := by
  induction hFollows with
  | nil => simp
  | cons hHead _ ih =>
      rw [List.map_cons, List.forall₂_cons, ih,
        hHead.attributed_iff, List.forall_mem_cons]

/-
  There is one record for the main thread and one for every
  created thread, with what the thread's own events say,
  exactly if no thread waits for its start when the end of the
  process is marked.
-/
theorem lifecycleRecords_attributed_iff
    {events : List Event}
    {threads : List ThreadLife}
    {main : Event}
    {mainTid time : Int}
    (hMain :
      events.find? (fun event =>
        event.kind = .phaseMarker ∧
          event.name = "process_start") = some main)
    (hTid : main.tid = some mainTid)
    (hTime : main.timestampNs = some time)
    (hEmitted : Emitted mainTid events threads)
    (bounds : CycleBounds) :
    ∃ records table,
      lifecycleRecords events bounds = .ok (records, table) ∧
        ((∃ first rest,
            records = first :: rest ∧
              first.tid = some mainTid ∧
              List.Forall₂ Attributed threads rest) ↔
          ∀ thread ∈ threads, thread.Unswept) := by
  rcases startMain_keeps hMain hTid hTime with
    ⟨state, hState, hStart⟩
  rcases hEmitted.keeps bounds hStart with
    ⟨final, hFinal, hKeeps⟩
  rcases hKeeps.records_eq with
    ⟨first, rest, hRecords, hFirst, hFollows⟩
  have hOk := lifecycleRecords_eq hState hFinal
  refine ⟨_, _, hOk, ?_⟩
  rw [hRecords, List.map_cons]
  have hIff :=
    forall₂_attributed_iff hFollows
      (Lifecycle.appTgid (first :: rest))
      (fun record =>
        if record.cycle = 0 then
          cycleAt record.createdNs bounds
        else
          record.cycle)
  rw [← hIff]
  constructor
  · intro hSome
    rcases hSome with ⟨head, others, hCons, -, hAll⟩
    rw [(List.cons.inj hCons).2]
    exact hAll
  · intro hAll
    exact ⟨_, _, rfl, hFirst, hAll⟩

/- The first line of a trace. -/
def processStart : Event :=
  { kind := .phaseMarker, name := "process_start",
    tid := some 1, timestampNs := some 1 }

/- A creation of a thread. -/
def createA : Event :=
  { kind := .pthreadCreate, pthreadValue := "a",
    signature := "s", result := some 0,
    timestampNs := some 2 }

/- Its start. -/
def startA : Event :=
  { kind := .threadStart, pthreadValue := "a",
    tid := some 7, createTimestampNs := some 2,
    timestampNs := some 3 }

/- Its exit. -/
def exitA : Event :=
  { kind := .threadExit, tid := some 7,
    timestampNs := some 4 }

/- The last line of a trace. -/
def processExit : Event :=
  { kind := .phaseMarker, name := "process_exit",
    tid := some 1, timestampNs := some 5 }

theorem created_emitted :
    Emitted 1 [processStart, createA]
      [{ create := createA }] :=
  .snoc
    (.snoc .nil
      (.other (by decide) (by decide) (by decide)
        (by simp [endsProcess, processStart])))
    (.created rfl (by decide) (by simp))

theorem exited_emitted :
    Emitted 1
      [processStart, createA, startA, exitA, processExit]
      [{ create := createA
         start := some startA
         exit := some exitA }] := by
  have hStart :=
    @Emits.started 1 [{ create := createA }] startA 0 _ 7 rfl
      rfl rfl rfl rfl rfl (by decide)
      (by simp [ThreadLife.tid])
  have hExit :=
    @Emits.exited 1
      [{ create := createA, start := some startA }] exitA 0 _ 7
      rfl rfl rfl rfl rfl (by decide)
  have hEnd :=
    @Emits.ended 1
      [{ create := createA
         start := some startA
         exit := some exitA }] processExit ⟨rfl, Or.inl rfl⟩
  exact ((created_emitted.snoc hStart).snoc hExit).snoc hEnd

theorem exitedThread_attributed :
    ∃ records table,
      lifecycleRecords
          [processStart, createA, startA, exitA, processExit]
          ∅ = .ok (records, table) ∧
        ∃ first rest,
          records = first :: rest ∧ first.tid = some 1 ∧
            List.Forall₂ Attributed
              [{ create := createA
                 start := some startA
                 exit := some exitA }] rest := by
  rcases lifecycleRecords_attributed_iff rfl rfl rfl
    exited_emitted ∅ with ⟨records, table, hOk, hIff⟩
  refine ⟨records, table, hOk, hIff.mpr ?_⟩
  intro thread hThread
  rw [List.mem_singleton.mp hThread]
  exact Or.inl rfl

/- A thread that never starts seems to exit. -/
theorem unstartedThread_exits :
    Emitted 1 [processStart, createA, processExit]
        [{ create := createA, swept := some 5 }] ∧
      ∃ records table,
        lifecycleRecords [processStart, createA, processExit]
            ∅ = .ok (records, table) ∧
          ¬ ∃ first rest,
            records = first :: rest ∧ first.tid = some 1 ∧
              List.Forall₂ Attributed
                [{ create := createA, swept := some 5 }]
                rest := by
  have hEnd :=
    @Emits.ended 1 [{ create := createA }] processExit
      ⟨rfl, Or.inl rfl⟩
  refine ⟨created_emitted.snoc hEnd, ?_⟩
  have hExits :
      (lifecycleRecords [processStart, createA, processExit]
          ∅).toOption.map
          (fun result =>
            result.1.map (fun record => record.exitedNs)) =
        some [some 5, some 5] := by
    decide +kernel
  cases hResult :
      lifecycleRecords [processStart, createA, processExit]
        ∅ with
  | error error =>
      rw [hResult] at hExits
      cases hExits
  | ok result =>
      rw [hResult] at hExits
      refine ⟨result.1, result.2, rfl, ?_⟩
      intro hSome
      rcases hSome with ⟨first, rest, hCons, -, hAll⟩
      have hTimes := Option.some.inj hExits
      simp only [hCons] at hTimes
      cases hAll with
      | cons hThread hRest =>
          cases hRest
          rw [List.map_cons, List.map_cons,
            hThread.exitedNs] at hTimes
          cases (List.cons.inj (List.cons.inj hTimes).2).1

end Trace

end RsCamera
