import RsCamera.Trace.Attribution

/-
  Whose names the lifecycle records carry.

  A call of `pthread_setname_np` is about one thread, and sets
  its name if it succeeds.  The trace line of a call says who
  called, the `pthread_t` of the target and the result.  The
  parser looks for the record of the caller first, and for the
  `pthread_t` only if it knows no record of the caller; it does
  not look at the result, and a name that is empty is not
  taken.  So the names are those of the calls as long as every
  call `NamesTarget`: threads that the trace knows name
  themselves, threads that it does not know name others.

  Key definitions include:
    * `Target`, `Target.IsMeant`, `Named`
    * `lastCall`, `ThreadLife.name`, `mainName`
    * `NamesTarget`, `NamedRecords`
    * `KeepsNames`

  Key theorems include:
    * `KeepsNames.called`
    * `KeepsNames.step`
    * `Named.keeps`
    * `lifecycleRecords_named`
-/

------------------------------------------------------------
-- Calls And Their Targets
------------------------------------------------------------

namespace RsCamera

namespace Trace

/- The main thread, or a created thread by its number. -/
inductive Target
| main
| thread (index : Nat)
deriving Repr, DecidableEq

def isMainExit
    (mainTid : Int)
    (event : Event) : Bool :=
  event.kind = .threadExit ∧ event.tid = some mainTid

/-
  The target of a call is alive, and the call has its
  `pthread_t`.  No thread is created with the one of the main
  thread.
-/
def Target.IsMeant
    (mainTid : Int)
    (events : List Event)
    (threads : List ThreadLife)
    (event : Event) : Target → Prop
| .main =>
    (∀ earlier ∈ events, isMainExit mainTid earlier = false) ∧
      ∀ thread ∈ threads,
        thread.create.pthreadValue ≠ event.pthreadValue
| .thread index =>
    ∃ thread,
      threads[index]? = some thread ∧ thread.exit = none ∧
        event.pthreadValue = thread.create.pthreadValue

/-
  A trace with its threads and the successful calls that name
  them.  A call has to be allowed when it is made.
-/
inductive Named
    (mainTid : Int)
    (allowed : List ThreadLife → Event → Target → Prop) :
    List Event → List ThreadLife →
      List (Target × String) → Prop
| nil : Named mainTid allowed [] [] []
| snoc
    {events : List Event}
    {threads threads' : List ThreadLife}
    {calls : List (Target × String)}
    {event : Event}
    (hBefore : Named mainTid allowed events threads calls)
    (hEvent : Emits mainTid threads event threads')
    (hKind : event.kind ≠ .threadName)
    (hTimed : event.timestampNs ≠ none) :
    Named mainTid allowed (events ++ [event]) threads' calls
| called
    {events : List Event}
    {threads : List ThreadLife}
    {calls : List (Target × String)}
    {event : Event}
    {target : Target}
    (hBefore : Named mainTid allowed events threads calls)
    (hKind : event.kind = .threadName)
    (hValue : event.pthreadValue ≠ "")
    (hTarget : target.IsMeant mainTid events threads event)
    (hAllowed : allowed threads event target) :
    Named mainTid allowed (events ++ [event]) threads
      (if event.result = some 0 then
        calls ++ [(target, event.name)]
      else
        calls)

def lastCall
    (calls : List (Target × String))
    (target : Target) : Option String :=
  ((calls.filter (fun call => call.1 = target)).map
    Prod.snd).getLast?

/-
  The name of a thread, by the last successful call that names
  it.  A thread that has exited has the name of its exit,
  unless the end of the process closed its record before.
-/
def ThreadLife.name
    (thread : ThreadLife)
    (called : Option String) : String :=
  let running :=
    called.getD ((thread.start.map Event.name).getD "")
  match thread.exit with
  | none => running
  | some exit =>
      if thread.swept = none then
        textOr exit.name running
      else
        running

instance : DecidablePred endsProcess := fun event =>
  inferInstanceAs
    (Decidable
      (event.kind = .phaseMarker ∧
        (event.name = "process_exit" ∨
          event.name = "process_error")))

/- The events that close the record of the main thread. -/
def closesMain
    (mainTid : Int)
    (event : Event) : Bool :=
  isMainExit mainTid event ∨ endsProcess event

def mainName
    (mainTid : Int)
    (events : List Event)
    (called : Option String) : String :=
  let running := called.getD "main"
  match events.find? (closesMain mainTid) with
  | none => running
  | some event =>
      if event.kind = .threadExit then
        textOr event.name running
      else
        running

/- Every record has the name of its own thread. -/
def NamedRecords
    (mainTid : Int)
    (events : List Event)
    (threads : List ThreadLife)
    (calls : List (Target × String))
    (bounds : CycleBounds) : Prop :=
  ∃ records table,
    lifecycleRecords events bounds = .ok (records, table) ∧
      records.map Record.name =
        mainName mainTid events (lastCall calls .main) ::
          threads.mapIdx (fun index thread =>
            thread.name (lastCall calls (.thread index)))

/- A TID that no thread of the trace has had. -/
def Stranger
    (mainTid : Int)
    (threads : List ThreadLife)
    (callerTid : Option Int) : Prop :=
  ∀ tid, callerTid = some tid →
    tid ≠ mainTid ∧
      ∀ thread ∈ threads, thread.tid ≠ some tid

def Target.tid
    (mainTid : Int)
    (threads : List ThreadLife) : Target → Option Int
| .main => some mainTid
| .thread index => threads[index]?.bind ThreadLife.tid

/-
  A call that succeeds sets a name that is not empty, its
  target has started, and the caller names itself, or is not
  known to the trace and names a thread that is.  A call that
  fails has no name, or the trace knows neither who calls nor
  the `pthread_t`.
-/
def NamesTarget
    (mainTid : Int)
    (threads : List ThreadLife)
    (event : Event)
    (target : Target) : Prop :=
  if event.result = some 0 then
    event.name ≠ "" ∧
      target.tid mainTid threads ≠ none ∧
      (event.callerTid = target.tid mainTid threads ∨
        (Stranger mainTid threads event.callerTid ∧
          target ≠ .main))
  else
    event.name = "" ∨
      (Stranger mainTid threads event.callerTid ∧
        target = .main)

------------------------------------------------------------
-- Names That Calls Set
------------------------------------------------------------

@[simp]
theorem textOr_empty_left
    (text : String) :
    textOr "" text = text :=
  if_pos rfl

@[simp]
theorem textOr_empty_right
    (text : String) :
    textOr text "" = text := by
  unfold textOr
  split
  next hEmpty => exact hEmpty.symm
  · rfl

theorem textOr_of_ne
    {text : String}
    (hText : text ≠ "")
    (other : String) :
    textOr text other = text :=
  if_neg hText

section LastCall

variable (calls : List (Target × String))
variable (name : String)

@[simp]
theorem lastCall_self
    (target : Target) :
    lastCall (calls ++ [(target, name)]) target =
      some name := by
  simp [lastCall, List.filter_append]

theorem lastCall_ne
    {target other : Target}
    (hOther : target ≠ other) :
    lastCall (calls ++ [(target, name)]) other =
      lastCall calls other := by
  simp [lastCall, List.filter_append, hOther]

theorem lastCall_eq_none
    {target : Target}
    (hNone : ∀ call ∈ calls, call.1 ≠ target) :
    lastCall calls target = none := by
  have hFilter :
      calls.filter (fun call => call.1 = target) = [] := by
    rw [List.filter_eq_nil_iff]
    intro call hCall hIs
    exact hNone call hCall (of_decide_eq_true hIs)
  rw [lastCall, hFilter]
  rfl

end LastCall

/- A thread that has not exited has the name set last. -/
theorem ThreadLife.name_running
    {thread : ThreadLife}
    (hRuns : thread.exit = none)
    (called : Option String) :
    thread.name called =
      called.getD ((thread.start.map Event.name).getD "") := by
  unfold ThreadLife.name
  rw [hRuns]

theorem ThreadLife.name_exit
    {thread : ThreadLife}
    (hRuns : thread.exit = none)
    (event : Event)
    (called : Option String) :
    ({ thread with exit := some event } : ThreadLife).name
        called =
      if thread.swept = none then
        textOr event.name (thread.name called)
      else
        thread.name called := by
  rw [ThreadLife.name_running hRuns]
  rfl

theorem ThreadLife.name_sweep
    {thread : ThreadLife}
    (hExit : thread.start = none → thread.exit = none)
    (timestampNs : Option Int)
    (called : Option String) :
    (thread.sweep timestampNs).name called =
      thread.name called := by
  unfold ThreadLife.sweep
  split
  next hWaits =>
    rw [ThreadLife.name_running (hExit hWaits),
      ThreadLife.name_running]
    exact hExit hWaits
  · rfl

section MainNames

variable {mainTid : Int}
variable {events : List Event}
variable {event : Event}
variable (called : Option String)

theorem closesMain_mainExit
    (hKind : event.kind = .threadExit)
    (hTid : event.tid = some mainTid) :
    closesMain mainTid event = true := by
  simp [closesMain, isMainExit, hKind, hTid]

theorem closesMain_ends
    (hEnds : endsProcess event) :
    closesMain mainTid event = true := by
  simp [closesMain, hEnds]

theorem closesMain_other
    (hExit :
      event.kind = .threadExit → event.tid ≠ some mainTid)
    (hEnds : ¬ endsProcess event) :
    closesMain mainTid event = false := by
  simp only [closesMain, isMainExit, hEnds, or_false,
    decide_eq_true_eq, decide_eq_false_iff_not, not_and]
  exact hExit

theorem find?_closesMain_of_false
    (hOther : closesMain mainTid event = false) :
    (events ++ [event]).find? (closesMain mainTid) =
      events.find? (closesMain mainTid) := by
  rw [List.find?_append, List.find?_singleton, hOther]
  exact Option.or_none

theorem mainName_of_none
    (hOpen : events.find? (closesMain mainTid) = none) :
    mainName mainTid events called = called.getD "main" := by
  unfold mainName
  rw [hOpen]

theorem mainName_of_false
    (hOther : closesMain mainTid event = false) :
    mainName mainTid (events ++ [event]) called =
      mainName mainTid events called := by
  unfold mainName
  rw [find?_closesMain_of_false hOther]

/- Once the record is closed, its exit is not taken. -/
theorem mainName_of_closed
    (hClosed :
      (events.find? (closesMain mainTid)).isSome = true) :
    mainName mainTid (events ++ [event]) called =
      mainName mainTid events called := by
  rcases Option.isSome_iff_exists.mp hClosed with
    ⟨first, hFirst⟩
  unfold mainName
  rw [List.find?_append, hFirst]
  rfl

theorem mainName_ends
    (hEnds : endsProcess event) :
    mainName mainTid (events ++ [event]) called =
      mainName mainTid events called := by
  cases hFind : events.find? (closesMain mainTid) with
  | some first =>
      apply mainName_of_closed
      rw [hFind]
      rfl
  | none =>
      have hKind : event.kind ≠ .threadExit := by
        rw [hEnds.1]
        decide
      rw [mainName_of_none _ hFind]
      unfold mainName
      rw [List.find?_append, hFind, List.find?_singleton,
        closesMain_ends hEnds, if_pos rfl]
      simp only [Option.none_or]
      exact if_neg hKind

theorem mainName_exit
    (hKind : event.kind = .threadExit)
    (hTid : event.tid = some mainTid)
    (hOpen : events.find? (closesMain mainTid) = none) :
    mainName mainTid (events ++ [event]) called =
      textOr event.name (mainName mainTid events called) := by
  rw [mainName_of_none _ hOpen]
  unfold mainName
  rw [List.find?_append, hOpen, List.find?_singleton,
    closesMain_mainExit hKind hTid, if_pos rfl]
  simp only [Option.none_or]
  exact if_pos hKind

/- A main thread that is alive has the name set last. -/
theorem mainName_alive
    (hAlive :
      ∀ earlier ∈ events,
        isMainExit mainTid earlier = false) :
    mainName mainTid events called = called.getD "main" := by
  unfold mainName
  cases hFind : events.find? (closesMain mainTid) with
  | none => rfl
  | some first =>
      have hCloses := List.find?_some hFind
      have hExit := hAlive first (List.mem_of_find?_eq_some hFind)
      rw [closesMain, hExit] at hCloses
      have hEnds : endsProcess first := by simpa using hCloses
      apply if_neg
      rw [hEnds.1]
      decide

end MainNames

------------------------------------------------------------
-- Records That Keep The Names
------------------------------------------------------------

/- The records have the names of the threads they follow. -/
structure KeepsNames
    (mainTid : Int)
    (events : List Event)
    (threads : List ThreadLife)
    (calls : List (Target × String))
    (state : Lifecycle) : Prop where
  main :
    ∃ first,
      state.records[0]? = some first ∧
        first.name =
          mainName mainTid events (lastCall calls .main) ∧
        first.exitedNs.isSome =
          (events.find? (closesMain mainTid)).isSome
  names :
    ∀ index thread, threads[index]? = some thread →
      ∃ record,
        state.records[index + 1]? = some record ∧
          record.name =
            thread.name (lastCall calls (.thread index))
  byMain : 0 ∈ state.byTid.getD mainTid []
  -- A `pthread_t` is the one of its last creation.
  byPthread :
    ∀ index thread, threads[index]? = some thread →
      thread.exit = none → thread.create.pthreadValue ≠ "" →
        (state.byPthread.getD
            thread.create.pthreadValue []).getLast? =
          some (index + 1)
  listed :
    ∀ value, ∀ index ∈ state.byPthread.getD value [],
      ∃ thread ∈ threads, thread.create.pthreadValue = value
  started :
    ∀ index name, (Target.thread index, name) ∈ calls →
      ∃ thread,
        threads[index]? = some thread ∧ thread.start ≠ none

section Steps

variable {mainTid : Int}
variable {events : List Event}
variable {threads : List ThreadLife}
variable {calls : List (Target × String)}
variable {state : Lifecycle}
variable {event : Event}

variable {index : Nat}
variable {change : Record → Record}
variable {tid : Int}
variable {state' : Lifecycle}

/- A thread that waits for its start is not named yet. -/
theorem KeepsNames.lastCall_waiting
    (hNames : KeepsNames mainTid events threads calls state)
    (hWaits :
      ∀ thread, threads[index]? = some thread →
        thread.start = none) :
    lastCall calls (.thread index) = none := by
  apply lastCall_eq_none
  intro call hCall hIs
  rcases hNames.started index call.2 (hIs ▸ hCall) with
    ⟨thread, hThread, hStart⟩
  exact hStart (hWaits thread hThread)

/- Changes of one record that its name does not notice. -/
theorem KeepsNames.update_same
    (hNames : KeepsNames mainTid events threads calls state)
    (hName : ∀ record, (change record).name = record.name)
    (hExited :
      ∀ record, (change record).exitedNs = record.exitedNs)
    (index : Nat) :
    KeepsNames mainTid events threads calls
      (state.update index change) := by
  have hSame :
      ∀ {k : Nat} {record : Record},
        state.records[k]? = some record →
          ∃ next,
            (state.update index change).records[k]? =
                some next ∧
              next.name = record.name ∧
              next.exitedNs = record.exitedNs := by
    intro k record hRecord
    simp only [Lifecycle.update, List.getElem?_modify, hRecord]
    by_cases hIndex : index = k
    · exact ⟨change record, by simp [hIndex], hName record,
        hExited record⟩
    · exact ⟨record, by simp [hIndex], rfl, rfl⟩
  refine
    { main := ?_
      names := ?_
      byMain := hNames.byMain
      byPthread := hNames.byPthread
      listed := hNames.listed
      started := hNames.started }
  · rcases hNames.main with ⟨first, hFirst, hIs, hClosed⟩
    rcases hSame hFirst with ⟨next, hNext, hNextIs, hNextEnd⟩
    exact ⟨next, hNext, hNextIs.trans hIs, hNextEnd ▸ hClosed⟩
  · intro k thread hThread
    rcases hNames.names k thread hThread with
      ⟨record, hRecord, hIs⟩
    rcases hSame hRecord with ⟨next, hNext, hNextIs, -⟩
    exact ⟨next, hNext, hNextIs.trans hIs⟩

theorem KeepsNames.updateLast_same
    (hNames : KeepsNames mainTid events threads calls state)
    (hName : ∀ record, (change record).name = record.name)
    (hExited :
      ∀ record, (change record).exitedNs = record.exitedNs)
    (candidates : List Nat)
    (accepts : Record → Bool) :
    KeepsNames mainTid events threads calls
      (state.updateLast candidates accepts change) := by
  unfold Lifecycle.updateLast
  split
  · exact hNames
  · exact hNames.update_same hName hExited _

/- Events that do not close the record of the main thread. -/
theorem KeepsNames.snoc
    (hNames : KeepsNames mainTid events threads calls state)
    (hOther : closesMain mainTid event = false) :
    KeepsNames mainTid (events ++ [event]) threads calls
      state := by
  refine
    { main := ?_
      names := hNames.names
      byMain := hNames.byMain
      byPthread := hNames.byPthread
      listed := hNames.listed
      started := hNames.started }
  rw [mainName_of_false _ hOther,
    find?_closesMain_of_false hOther]
  exact hNames.main

theorem KeepsNames.created
    (hNames : KeepsNames mainTid events threads calls state)
    (hKeeps : KeepsThreads mainTid threads state)
    (bounds : CycleBounds)
    (hSucceeds : createSucceeds event = true)
    (hFree :
      ∀ thread ∈ threads,
        thread.create.pthreadValue = event.pthreadValue →
          thread.exit ≠ none) :
    KeepsNames mainTid events
      (threads ++ [{ create := event }]) calls
      (state.pthreadCreate bounds event) := by
  have hLength := hKeeps.length
  unfold createSucceeds at hSucceeds
  unfold Lifecycle.pthreadCreate
  rw [if_pos hSucceeds]
  simp only [Lifecycle.newRecord]
  refine
    { main := ?_
      names := ?_
      byMain := hNames.byMain
      byPthread := ?_
      listed := ?_
      started := ?_ }
  · rcases hNames.main with ⟨first, hFirst, hIs⟩
    exact ⟨first, getElem?_append_of_some hFirst _, hIs⟩
  · intro index thread hThread
    rcases getElem?_concat_cases hThread with
      hOld | ⟨hLast, hNew⟩
    · rcases hNames.names index thread hOld with
        ⟨record, hRecord, hIs⟩
      exact ⟨record, getElem?_append_of_some hRecord _, hIs⟩
    · have hNone : lastCall calls (.thread index) = none := by
        apply hNames.lastCall_waiting
        intro found hFound
        have hLt := (List.getElem?_eq_some_iff.mp hFound).1
        omega
      rw [hNone, hNew, hLast, ← hLength]
      exact ⟨_, List.getElem?_concat_length, rfl⟩
  · intro index thread hThread hRuns hValue
    rcases getElem?_concat_cases hThread with
      hOld | ⟨hLast, hNew⟩
    · have hOther :
          thread.create.pthreadValue ≠ event.pthreadValue := by
        intro hSame
        exact hFree thread (List.mem_of_getElem? hOld) hSame
          hRuns
      split
      · exact hNames.byPthread index thread hOld hRuns hValue
      · rw [Std.TreeMap.getD_insert, if_neg]
        · exact hNames.byPthread index thread hOld hRuns hValue
        · intro hCompare
          exact hOther
            (Std.LawfulEqOrd.eq_of_compare hCompare).symm
    · rw [hNew] at hValue ⊢
      rw [if_neg hValue, Std.TreeMap.getD_insert,
        if_pos Std.ReflOrd.compare_self, List.getLast?_append,
        hLength, hLast]
      rfl
  · intro value index hIndex
    have hOld :
        index ∈ state.byPthread.getD value [] →
          ∃ thread ∈ threads ++ [{ create := event }],
            thread.create.pthreadValue = value := by
      intro hMember
      rcases hNames.listed value index hMember with
        ⟨thread, hThread, hIs⟩
      exact ⟨thread, List.mem_append_left _ hThread, hIs⟩
    split at hIndex
    · exact hOld hIndex
    · rw [Std.TreeMap.getD_insert] at hIndex
      split at hIndex
      next hCompare =>
        exact ⟨{ create := event }, by simp,
          Std.LawfulEqOrd.eq_of_compare hCompare⟩
      · exact hOld hIndex
  · intro index name hCall
    rcases hNames.started index name hCall with
      ⟨thread, hThread, hStart⟩
    exact ⟨thread, getElem?_append_of_some hThread _, hStart⟩

/- One thread goes on, and its record is renamed with it. -/
theorem KeepsNames.set
    (hNames : KeepsNames mainTid events threads calls state)
    {thread next : ThreadLife}
    (hThread : threads[index]? = some thread)
    (hCreate : next.create = thread.create)
    (hExit : next.exit = none → thread.exit = none)
    (hStart : thread.start ≠ none → next.start ≠ none)
    (hName :
      ∀ record,
        record.name =
            thread.name (lastCall calls (.thread index)) →
          (change record).name =
            next.name (lastCall calls (.thread index))) :
    KeepsNames mainTid events (threads.set index next) calls
      (state.update (index + 1) change) := by
  have hSet : (threads.set index next)[index]? = some next :=
    List.getElem?_set_self
      (List.getElem?_eq_some_iff.mp hThread).1
  refine
    { main := ?_
      names := related_set hNames.names hThread hName
      byMain := hNames.byMain
      byPthread := ?_
      listed := ?_
      started := ?_ }
  · rcases hNames.main with ⟨first, hFirst, hIs⟩
    refine ⟨first, ?_, hIs⟩
    simp only [Lifecycle.update, List.getElem?_modify, hFirst]
    rfl
  · intro k found hFound hRuns hValue
    rcases getElem?_set_cases hFound with
      ⟨hIs, hNew⟩ | ⟨-, hOld⟩
    · rw [hNew] at hRuns hValue ⊢
      rw [hCreate] at hValue ⊢
      rw [hIs]
      exact hNames.byPthread index thread hThread
        (hExit hRuns) hValue
    · exact hNames.byPthread k found hOld hRuns hValue
  · intro value k hK
    rcases hNames.listed value k hK with ⟨found, hFound, hIs⟩
    rcases List.mem_iff_getElem?.mp hFound with ⟨j, hJ⟩
    by_cases hSame : index = j
    · rw [← hSame, hThread] at hJ
      refine ⟨next, List.mem_of_getElem? hSet, ?_⟩
      rw [hCreate, Option.some.inj hJ]
      exact hIs
    · refine ⟨found, List.mem_of_getElem? (i := j) ?_, hIs⟩
      rw [List.getElem?_set_ne hSame]
      exact hJ
  · intro k name hCall
    rcases hNames.started k name hCall with
      ⟨found, hFound, hFoundStart⟩
    by_cases hSame : index = k
    · rw [← hSame, hThread] at hFound
      rw [← hSame]
      refine ⟨next, hSet, hStart ?_⟩
      rw [Option.some.inj hFound]
      exact hFoundStart
    · refine ⟨found, ?_, hFoundStart⟩
      rw [List.getElem?_set_ne hSame]
      exact hFound

theorem KeepsNames.insertTid
    (hNames : KeepsNames mainTid events threads calls state)
    (hMain : tid ≠ mainTid)
    (indices : List Nat) :
    KeepsNames mainTid events threads calls
      { state with byTid := state.byTid.insert tid indices } := by
  refine
    { main := hNames.main
      names := hNames.names
      byMain := ?_
      byPthread := hNames.byPthread
      listed := hNames.listed
      started := hNames.started }
  rw [Std.TreeMap.getD_insert, if_neg]
  · exact hNames.byMain
  · intro hCompare
    exact hMain (Std.LawfulEqOrd.eq_of_compare hCompare)

theorem KeepsNames.threadStart
    (hNames : KeepsNames mainTid events threads calls state)
    (hKeeps : KeepsThreads mainTid threads state)
    (bounds : CycleBounds)
    {thread : ThreadLife}
    (hThread : threads[index]? = some thread)
    (hWaits : thread.start = none)
    (hPthread :
      event.pthreadValue = thread.create.pthreadValue)
    (hCreated :
      event.createTimestampNs = thread.create.timestampNs)
    (hTid : event.tid = some tid)
    (hMain : tid ≠ mainTid)
    (hOk : state.threadStart bounds event = .ok state') :
    KeepsNames mainTid events
      (threads.set index { thread with start := some event })
      calls state' := by
  have hFound :=
    hKeeps.startedRecord_eq bounds hThread hWaits hPthread
      hCreated
  have hRuns :=
    (hKeeps.sound thread (List.mem_of_getElem? hThread)).exit_none
      hWaits
  have hNone : lastCall calls (.thread index) = none := by
    apply hNames.lastCall_waiting
    intro found hGet
    rw [hThread] at hGet
    rw [← Option.some.inj hGet]
    exact hWaits
  unfold Lifecycle.threadStart at hOk
  rw [hFound, hTid] at hOk
  rw [← Except.ok.inj hOk]
  apply KeepsNames.insertTid _ hMain
  refine hNames.set hThread ?_ ?_ ?_ ?_
  · rfl
  · exact id
  · intro _
    exact Option.some_ne_none event
  · -- The record has no name until its thread starts.
    intro record hRecord
    rw [hNone, ThreadLife.name_running hRuns, hWaits]
      at hRecord
    rw [hNone, ThreadLife.name_running]
    · change textOr event.name record.name = event.name
      rw [hRecord]
      exact textOr_empty_right event.name
    · exact hRuns

theorem KeepsNames.threadExit
    (hNames : KeepsNames mainTid events threads calls state)
    (hKeeps : KeepsThreads mainTid threads state)
    {thread : ThreadLife}
    (hThread : threads[index]? = some thread)
    (hRuns : thread.exit = none)
    (hTid : thread.tid = some tid)
    (hSame : event.tid = some tid)
    (hOk : state.threadExit event = .ok state') :
    KeepsNames mainTid events
      (threads.set index { thread with exit := some event })
      calls state' := by
  have hLast :=
    hKeeps.lastWhere_running hThread hRuns hTid
  unfold Lifecycle.threadExit at hOk
  rw [hSame] at hOk
  rw [← Except.ok.inj hOk]
  unfold Lifecycle.updateLast
  by_cases hSwept : thread.swept = none
  · rw [if_pos hSwept] at hLast
    rw [hLast]
    refine hNames.set hThread ?_ ?_ ?_ ?_
    · rfl
    · intro hNone
      cases hNone
    · exact id
    · intro record hRecord
      rw [ThreadLife.name_exit hRuns, if_pos hSwept, hRecord]
  · rw [if_neg hSwept] at hLast
    rw [hLast]
    have hSet :
        KeepsNames mainTid events
          (threads.set index { thread with exit := some event })
          calls
          (state.update (index + 1) (fun record => record)) := by
      refine hNames.set hThread ?_ ?_ ?_ ?_
      · rfl
      · intro hNone
        cases hNone
      · exact id
      · intro record hRecord
        rw [ThreadLife.name_exit hRuns, if_neg hSwept, hRecord]
    rw [update_self] at hSet
    exact hSet

/- The TID of the main thread finds the main record alone. -/
theorem KeepsNames.lastWhere_main
    (hNames : KeepsNames mainTid events threads calls state)
    (hKeeps : KeepsThreads mainTid threads state)
    {first : Record}
    (hFirst : state.records[0]? = some first)
    (accepts : Record → Bool) :
    state.lastWhere (state.byTid.getD mainTid []) accepts =
      if accepts first then some 0 else none := by
  have hZero := hKeeps.byMain
  have hMember := hNames.byMain
  unfold Lifecycle.lastWhere
  split
  next hAccepts =>
    rw [List.filter_eq_self.mpr]
    · have hLast :=
        List.getLast_mem (List.ne_nil_of_mem hMember)
      rw [List.getLast?_eq_some_getLast
        (List.ne_nil_of_mem hMember), hZero _ hLast]
    · intro index hIndex
      rw [hZero index hIndex, hFirst]
      exact hAccepts
  next hRefuses =>
    rw [List.filter_eq_nil_iff.mpr]
    · rfl
    · intro index hIndex
      rw [hZero index hIndex, hFirst]
      exact hRefuses

/- The exit of the main thread names the main record alone. -/
theorem KeepsNames.mainExit
    (hNames : KeepsNames mainTid events threads calls state)
    (hKeeps : KeepsThreads mainTid threads state)
    (hKind : event.kind = .threadExit)
    (hTid : event.tid = some mainTid)
    (hTimed : event.timestampNs ≠ none)
    (hOk : state.threadExit event = .ok state') :
    KeepsNames mainTid (events ++ [event]) threads calls
      state' := by
  rcases hNames.main with ⟨first, hFirst, hName, hClosed⟩
  have hLast :=
    hNames.lastWhere_main hKeeps hFirst
      (fun record => record.exitedNs.isNone)
  have hFound :
      ((events ++ [event]).find?
        (closesMain mainTid)).isSome = true := by
    rw [List.find?_isSome]
    exact ⟨event, by simp, closesMain_mainExit hKind hTid⟩
  unfold Lifecycle.threadExit at hOk
  rw [hTid] at hOk
  rw [← Except.ok.inj hOk]
  unfold Lifecycle.updateLast
  cases hFind : events.find? (closesMain mainTid) with
  | some earlier =>
      rw [hFind] at hClosed
      rw [if_neg (by simpa [Option.isSome_iff_ne_none]
        using hClosed)] at hLast
      rw [hLast]
      refine
        { main := ⟨first, hFirst, ?_, ?_⟩
          names := hNames.names
          byMain := hNames.byMain
          byPthread := hNames.byPthread
          listed := hNames.listed
          started := hNames.started }
      · rw [mainName_of_closed _ (by rw [hFind]; rfl)]
        exact hName
      · rw [hFound]
        exact hClosed
  | none =>
      rw [hFind] at hClosed
      rw [if_pos (by simpa using hClosed)] at hLast
      rw [hLast]
      refine
        { main :=
            ⟨{ first with
                exitedNs := event.timestampNs
                name := textOr event.name first.name },
              ?_, ?_, ?_⟩
          names := ?_
          byMain := hNames.byMain
          byPthread := hNames.byPthread
          listed := hNames.listed
          started := hNames.started }
      · simp only [Lifecycle.update, List.getElem?_modify,
          hFirst]
        rfl
      · rw [mainName_exit _ hKind hTid hFind, ← hName]
      · rw [hFound]
        exact Option.isSome_iff_ne_none.mpr hTimed
      · intro index thread hThread
        rcases hNames.names index thread hThread with
          ⟨record, hRecord, hIs⟩
        refine ⟨record, ?_, hIs⟩
        simp [Lifecycle.update, hRecord]

/- The end of the process is marked; names stay. -/
theorem KeepsNames.ended
    (hNames : KeepsNames mainTid events threads calls state)
    (hKeeps : KeepsThreads mainTid threads state)
    (hEnds : endsProcess event)
    (hTimed : event.timestampNs ≠ none) :
    KeepsNames mainTid (events ++ [event])
      (threads.map (ThreadLife.sweep event.timestampNs)) calls
      (state.phaseMarker event) := by
  unfold Lifecycle.phaseMarker
  rw [if_pos hEnds.2]
  refine
    { main := ?_
      names := ?_
      byMain := hNames.byMain
      byPthread := ?_
      listed := ?_
      started := ?_ }
  · rcases hNames.main with ⟨first, hFirst, hName, -⟩
    rcases hKeeps.main with ⟨first', hFirst', hTid, hTgid⟩
    rw [hFirst'] at hFirst
    rw [← Option.some.inj hFirst] at hName
    have hFound :
        ((events ++ [event]).find?
          (closesMain mainTid)).isSome = true := by
      rw [List.find?_isSome]
      exact ⟨event, by simp, closesMain_ends hEnds⟩
    simp only [List.getElem?_map, hFirst', Option.map_some]
    refine ⟨_, rfl, ?_⟩
    rw [if_pos (hTid.trans hTgid.symm), hFound,
      mainName_ends _ hEnds]
    exact ⟨hName, Option.isSome_iff_ne_none.mpr hTimed⟩
  · intro index found hFound
    rw [List.getElem?_map, Option.map_eq_some_iff] at hFound
    rcases hFound with ⟨thread, hThread, hIs⟩
    rcases hNames.names index thread hThread with
      ⟨record, hRecord, hName⟩
    have hSound :=
      hKeeps.sound thread (List.mem_of_getElem? hThread)
    simp only [List.getElem?_map, hRecord, Option.map_some]
    refine ⟨_, rfl, ?_⟩
    rw [← hIs, ThreadLife.name_sweep hSound.exit_none, ← hName]
    split <;> rfl
  · intro index found hFound hRuns hValue
    rw [List.getElem?_map, Option.map_eq_some_iff] at hFound
    rcases hFound with ⟨thread, hThread, hIs⟩
    rw [← hIs, sweep_exit] at hRuns
    rw [← hIs, sweep_create] at hValue ⊢
    exact hNames.byPthread index thread hThread hRuns hValue
  · intro value index hIndex
    rcases hNames.listed value index hIndex with
      ⟨thread, hThread, hIs⟩
    refine ⟨_, List.mem_map_of_mem hThread, ?_⟩
    rw [sweep_create]
    exact hIs
  · intro index name hCall
    rcases hNames.started index name hCall with
      ⟨thread, hThread, hStart⟩
    refine ⟨thread.sweep event.timestampNs, ?_, ?_⟩
    · rw [List.getElem?_map, hThread]
      rfl
    · rw [sweep_start]
      exact hStart

end Steps

------------------------------------------------------------
-- Calls That Name Their Target
------------------------------------------------------------

/- The number of the record of a target. -/
def Target.record : Target → Nat
| .main => 0
| .thread index => index + 1

section Calls

variable {mainTid : Int}
variable {events : List Event}
variable {threads : List ThreadLife}
variable {calls : List (Target × String)}
variable {state : Lifecycle}
variable {event : Event}
variable {target : Target}

theorem updateLast_concat
    {index : Nat}
    (hIndex : index < state.records.length)
    (earlier : List Nat)
    (change : Record → Record) :
    state.updateLast (earlier ++ [index]) (fun _ => true)
        change =
      state.update index change := by
  have hLast :
      state.lastWhere (earlier ++ [index]) (fun _ => true) =
        some index := by
    unfold Lifecycle.lastWhere
    rw [List.filter_append, List.filter_singleton,
      List.getElem?_eq_getElem hIndex]
    exact List.getLast?_concat
  unfold Lifecycle.updateLast
  rw [hLast]

/- The caller's own TID finds the record of the caller. -/
theorem KeepsNames.byTid_caller
    (hNames : KeepsNames mainTid events threads calls state)
    (hKeeps : KeepsThreads mainTid threads state)
    (hTarget : target.IsMeant mainTid events threads event)
    {tid : Int}
    (hTid : target.tid mainTid threads = some tid) :
    ∃ earlier,
      state.byTid.getD tid [] = earlier ++ [target.record] := by
  cases target with
  | main =>
      cases hTid
      have hMember := hNames.byMain
      have hLast :=
        List.getLast_mem (List.ne_nil_of_mem hMember)
      refine ⟨(state.byTid.getD mainTid []).dropLast, ?_⟩
      have hConcat :=
        List.dropLast_append_getLast
          (List.ne_nil_of_mem hMember)
      rw [hKeeps.byMain _ hLast] at hConcat
      exact hConcat.symm
  | thread index =>
      rcases hTarget with ⟨thread, hThread, hRuns, -⟩
      rw [Target.tid, hThread] at hTid
      rcases hKeeps.running index thread tid hThread hTid hRuns
        with ⟨earlier, hList, -⟩
      exact ⟨earlier, hList⟩

/- A stranger has no record. -/
theorem KeepsThreads.byTid_stranger
    (hKeeps : KeepsThreads mainTid threads state)
    {tid : Int}
    (hStranger : Stranger mainTid threads (some tid)) :
    state.byTid.getD tid [] = [] := by
  rcases hStranger tid rfl with ⟨hMain, hOther⟩
  rw [List.eq_nil_iff_forall_not_mem]
  intro index hIndex
  rcases hKeeps.byTid tid hMain index hIndex with
    ⟨k, thread, -, hThread, hTid⟩
  exact hOther thread (List.mem_of_getElem? hThread) hTid

theorem KeepsThreads.threadName_stranger
    (hKeeps : KeepsThreads mainTid threads state)
    (hStranger : Stranger mainTid threads event.callerTid) :
    state.threadName event =
      state.updateLast
        (state.byPthread.getD event.pthreadValue [])
        (fun _ => true)
        (fun record =>
          { record with
            name := textOr event.name record.name }) := by
  unfold Lifecycle.threadName
  cases hCaller : event.callerTid with
  | none => rfl
  | some tid =>
      rw [hCaller] at hStranger
      simp only [hKeeps.byTid_stranger hStranger]
      rfl

theorem KeepsNames.lt_length
    (hNames : KeepsNames mainTid events threads calls state)
    (hTarget : target.IsMeant mainTid events threads event) :
    target.record < state.records.length := by
  cases target with
  | main =>
      rcases hNames.main with ⟨first, hFirst, -⟩
      exact (List.getElem?_eq_some_iff.mp hFirst).1
  | thread index =>
      rcases hTarget with ⟨thread, hThread, -⟩
      rcases hNames.names index thread hThread with
        ⟨record, hRecord, -⟩
      exact (List.getElem?_eq_some_iff.mp hRecord).1

/- The record that is renamed is the one of the target. -/
theorem KeepsNames.threadName_finds
    (hNames : KeepsNames mainTid events threads calls state)
    (hKeeps : KeepsThreads mainTid threads state)
    (hValue : event.pthreadValue ≠ "")
    (hTarget : target.IsMeant mainTid events threads event)
    (hStarted : target.tid mainTid threads ≠ none)
    (hCaller :
      event.callerTid = target.tid mainTid threads ∨
        (Stranger mainTid threads event.callerTid ∧
          target ≠ .main)) :
    state.threadName event =
      state.update target.record
        (fun record =>
          { record with
            name := textOr event.name record.name }) := by
  have hLt := hNames.lt_length hTarget
  rcases hCaller with hOwn | ⟨hStranger, hThread⟩
  · rcases Option.ne_none_iff_exists'.mp hStarted with
      ⟨tid, hTid⟩
    rcases hNames.byTid_caller hKeeps hTarget hTid with
      ⟨earlier, hList⟩
    unfold Lifecycle.threadName
    rw [hOwn, hTid]
    simp only [hList]
    rw [if_neg (by simp)]
    exact updateLast_concat hLt earlier _
  · cases target with
    | main => exact absurd rfl hThread
    | thread index =>
        rcases hTarget with ⟨thread, hGet, hRuns, hIs⟩
        have hLast :=
          hNames.byPthread index thread hGet hRuns
            (hIs ▸ hValue)
        rcases List.getLast?_eq_some_iff.mp hLast with
          ⟨earlier, hList⟩
        rw [hKeeps.threadName_stranger hStranger, hIs, hList]
        exact updateLast_concat hLt earlier _

/- A successful call names its target and nothing else. -/
theorem KeepsNames.rename
    (hNames : KeepsNames mainTid events threads calls state)
    (hTarget : target.IsMeant mainTid events threads event)
    (hStarted : target.tid mainTid threads ≠ none)
    (hName : event.name ≠ "") :
    KeepsNames mainTid events threads
      (calls ++ [(target, event.name)])
      (state.update target.record
        (fun record =>
          { record with
            name := textOr event.name record.name })) := by
  refine
    { main := ?_
      names := ?_
      byMain := hNames.byMain
      byPthread := hNames.byPthread
      listed := hNames.listed
      started := ?_ }
  · rcases hNames.main with ⟨first, hFirst, hIs, hClosed⟩
    simp only [Lifecycle.update, List.getElem?_modify, hFirst]
    cases target with
    | main =>
        refine ⟨_, rfl, ?_, hClosed⟩
        rw [lastCall_self, mainName_alive _ hTarget.1]
        exact textOr_of_ne hName _
    | thread index =>
        refine ⟨first, rfl, ?_, hClosed⟩
        rw [lastCall_ne _ _ (by simp)]
        exact hIs
  · intro k thread hThread
    rcases hNames.names k thread hThread with
      ⟨record, hRecord, hIs⟩
    simp only [Lifecycle.update, List.getElem?_modify, hRecord]
    by_cases hOther : target = .thread k
    · rw [hOther, lastCall_self]
      rw [hOther] at hTarget
      rcases hTarget with ⟨found, hFound, hRuns, -⟩
      rw [hThread] at hFound
      rw [← Option.some.inj hFound] at hRuns
      refine ⟨{ record with
        name := textOr event.name record.name }, ?_, ?_⟩
      · simp [Target.record]
      · rw [ThreadLife.name_running hRuns]
        exact textOr_of_ne hName _
    · rw [lastCall_ne _ _ hOther]
      have hApart : target.record ≠ k + 1 := by
        intro hSame
        cases target with
        | main => cases hSame
        | thread index =>
            cases hSame
            exact hOther rfl
      exact ⟨record, by simp [hApart], hIs⟩
  · intro index name hCall
    rcases List.mem_append.mp hCall with hOld | hNew
    · exact hNames.started index name hOld
    · cases List.mem_singleton.mp hNew
      rcases hTarget with ⟨thread, hThread, -⟩
      refine ⟨thread, hThread, ?_⟩
      intro hWaits
      apply hStarted
      rw [Target.tid, hThread, Option.bind_some,
        ThreadLife.tid, hWaits]
      rfl

/- A name that is empty changes nothing. -/
theorem KeepsNames.threadName_empty
    (hNames : KeepsNames mainTid events threads calls state)
    (hName : event.name = "") :
    KeepsNames mainTid events threads calls
      (state.threadName event) := by
  unfold Lifecycle.threadName
  apply hNames.updateLast_same
  · intro record
    rw [hName]
    exact textOr_empty_left record.name
  · intro record
    rfl

/- Neither the caller nor the `pthread_t` is known. -/
theorem KeepsNames.threadName_unknown
    (hNames : KeepsNames mainTid events threads calls state)
    (hKeeps : KeepsThreads mainTid threads state)
    (hStranger : Stranger mainTid threads event.callerTid)
    (hTarget :
      Target.main.IsMeant mainTid events threads event) :
    state.threadName event = state := by
  have hNone :
      state.byPthread.getD event.pthreadValue [] = [] := by
    rw [List.eq_nil_iff_forall_not_mem]
    intro index hIndex
    rcases hNames.listed _ index hIndex with
      ⟨thread, hThread, hIs⟩
    exact hTarget.2 thread hThread hIs
  rw [hKeeps.threadName_stranger hStranger, hNone]
  rfl

theorem KeepsNames.called
    (hNames : KeepsNames mainTid events threads calls state)
    (hKeeps : KeepsThreads mainTid threads state)
    (hValue : event.pthreadValue ≠ "")
    (hTarget : target.IsMeant mainTid events threads event)
    (hAllowed : NamesTarget mainTid threads event target) :
    KeepsNames mainTid events threads
      (if event.result = some 0 then
        calls ++ [(target, event.name)]
      else
        calls)
      (state.threadName event) := by
  unfold NamesTarget at hAllowed
  split at hAllowed
  next hSucceeds =>
    rcases hAllowed with ⟨hName, hStarted, hCaller⟩
    rw [if_pos hSucceeds,
      hNames.threadName_finds hKeeps hValue hTarget hStarted
        hCaller]
    exact hNames.rename hTarget hStarted hName
  next hFails =>
    rw [if_neg hFails]
    rcases hAllowed with hEmpty | ⟨hStranger, hMain⟩
    · exact hNames.threadName_empty hEmpty
    · rw [hMain] at hTarget
      rw [hNames.threadName_unknown hKeeps hStranger hTarget]
      exact hNames

end Calls

------------------------------------------------------------
-- Whole Traces
------------------------------------------------------------

section Traces

variable {mainTid : Int}
variable {events : List Event}
variable {threads threads' : List ThreadLife}
variable {calls : List (Target × String)}
variable {state state' : Lifecycle}
variable {event : Event}

/- An event of no thread leaves the names as they are. -/
theorem KeepsNames.other
    (hNames : KeepsNames mainTid events threads calls state)
    (bounds : CycleBounds)
    (hCreate : event.kind ≠ .pthreadCreate)
    (hStart : event.kind ≠ .threadStart)
    (hExit : event.kind ≠ .threadExit)
    (hName : event.kind ≠ .threadName)
    (hEnds : ¬ endsProcess event)
    (hOk : state.step bounds event = .ok state') :
    KeepsNames mainTid events threads calls state' := by
  unfold Lifecycle.step at hOk
  cases hKind : event.kind with
  | pthreadCreate => exact absurd hKind hCreate
  | threadStart => exact absurd hKind hStart
  | threadExit => exact absurd hKind hExit
  | threadName => exact absurd hKind hName
  | pthreadJoinEnd =>
      rw [hKind] at hOk
      rw [← Except.ok.inj hOk]
      unfold Lifecycle.pthreadJoinEnd
      split
      · apply hNames.updateLast_same
        · intro record
          rfl
        · intro record
          rfl
      · exact hNames
  | pthreadDetach =>
      rw [hKind] at hOk
      rw [← Except.ok.inj hOk]
      unfold Lifecycle.pthreadDetach
      split
      · apply hNames.updateLast_same
        · intro record
          rfl
        · intro record
          rfl
      · exact hNames
  | phaseMarker =>
      rw [hKind] at hOk
      rw [← Except.ok.inj hOk]
      unfold Lifecycle.phaseMarker
      rw [if_neg (fun hMarks => hEnds ⟨hKind, hMarks⟩)]
      exact hNames
  | unknown =>
      rw [hKind] at hOk
      rw [← Except.ok.inj hOk]
      exact hNames

theorem KeepsNames.step
    (hNames : KeepsNames mainTid events threads calls state)
    (hKeeps : KeepsThreads mainTid threads state)
    (bounds : CycleBounds)
    (hEmits : Emits mainTid threads event threads')
    (hName : event.kind ≠ .threadName)
    (hTimed : event.timestampNs ≠ none)
    (hOk : state.step bounds event = .ok state') :
    KeepsNames mainTid (events ++ [event]) threads' calls
      state' := by
  have hOther :
      event.kind ≠ .threadExit → ¬ endsProcess event →
        closesMain mainTid event = false :=
    fun hExit hEnds =>
      closesMain_other (fun hKind => absurd hKind hExit) hEnds
  cases hEmits with
  | created hKind hSucceeds hFree =>
      unfold Lifecycle.step at hOk
      rw [hKind] at hOk
      rw [← Except.ok.inj hOk]
      apply (hNames.created hKeeps bounds hSucceeds hFree).snoc
      apply hOther <;> simp [endsProcess, hKind]
  | refused hKind hFails =>
      unfold createSucceeds at hFails
      unfold Lifecycle.step Lifecycle.pthreadCreate at hOk
      rw [hKind, hFails] at hOk
      rw [← Except.ok.inj hOk]
      apply hNames.snoc
      apply hOther <;> simp [endsProcess, hKind]
  | started hKind hThread hWaits hPthread hCreated hTid hMain
      hFree =>
      unfold Lifecycle.step at hOk
      rw [hKind] at hOk
      apply (hNames.threadStart hKeeps bounds hThread hWaits
        hPthread hCreated hTid hMain hOk).snoc
      apply hOther <;> simp [endsProcess, hKind]
  | exited hKind hThread hRuns hTid hSame hTime =>
      unfold Lifecycle.step at hOk
      rw [hKind] at hOk
      have hSound :=
        hKeeps.sound _ (List.mem_of_getElem? hThread)
      apply (hNames.threadExit hKeeps hThread hRuns hTid hSame
        hOk).snoc
      apply closesMain_other
      · intro _
        rw [hSame, ← hTid]
        exact hSound.tid_ne
      · simp [endsProcess, hKind]
  | mainExited hKind hTid =>
      unfold Lifecycle.step at hOk
      rw [hKind] at hOk
      exact hNames.mainExit hKeeps hKind hTid hTimed hOk
  | ended hEnds =>
      unfold Lifecycle.step at hOk
      rw [hEnds.1] at hOk
      rw [← Except.ok.inj hOk]
      exact hNames.ended hKeeps hEnds hTimed
  | other hCreate hStart hExit hEnds =>
      apply (hNames.other bounds hCreate hStart hExit hName
        hEnds hOk).snoc
      exact hOther hExit hEnds

theorem Named.keeps
    (hNamed :
      Named mainTid (NamesTarget mainTid) events threads calls)
    (bounds : CycleBounds)
    (hKeeps : KeepsThreads mainTid [] state)
    (hNames : KeepsNames mainTid [] [] [] state) :
    ∃ state',
      events.foldlM (Lifecycle.step bounds) state =
          .ok state' ∧
        KeepsThreads mainTid threads state' ∧
        KeepsNames mainTid events threads calls state' := by
  induction hNamed with
  | nil => exact ⟨state, rfl, hKeeps, hNames⟩
  | @snoc events _ _ _ event _ hEvent hKind hTimed ih =>
      rcases ih with ⟨before, hBefore, hThreads, hBeforeNames⟩
      rcases hThreads.step bounds hEvent with
        ⟨after, hAfter, hNext⟩
      refine ⟨after, ?_, hNext,
        hBeforeNames.step hThreads bounds hEvent hKind hTimed
          hAfter⟩
      exact foldlM_concat_eq_ok.mpr ⟨before, hBefore, hAfter⟩
  | @called events threads _ event _ _ hKind hValue hTarget
      hAllowed ih =>
      rcases ih with ⟨before, hBefore, hThreads, hBeforeNames⟩
      have hOther : closesMain mainTid event = false := by
        apply closesMain_other <;> simp [endsProcess, hKind]
      have hAfter :
          before.step bounds event =
            .ok (before.threadName event) := by
        unfold Lifecycle.step
        rw [hKind]
      have hSame : ∀ record : Record,
          SameCore record
            { record with
              name := textOr event.name record.name } :=
        fun record => ⟨rfl, rfl, rfl, rfl, rfl, rfl, rfl⟩
      refine ⟨before.threadName event, ?_,
        hThreads.updateLast_same hSame _ _,
        (hBeforeNames.called hThreads hValue hTarget
          hAllowed).snoc hOther⟩
      exact foldlM_concat_eq_ok.mpr ⟨before, hBefore, hAfter⟩

end Traces

theorem startMain_names
    {events : List Event}
    {event : Event}
    {mainTid time : Int}
    (hFind :
      events.find? (fun event =>
        event.kind = .phaseMarker ∧
          event.name = "process_start") = some event)
    (hTid : event.tid = some mainTid)
    (hTime : event.timestampNs = some time)
    {state : Lifecycle}
    (hOk : Lifecycle.startMain {} events = .ok state) :
    KeepsNames mainTid [] [] [] state := by
  unfold Lifecycle.startMain at hOk
  rw [hFind] at hOk
  simp only [hTid, hTime, requireKey] at hOk
  rw [← Except.ok.inj hOk]
  refine
    { main := ⟨_, rfl, rfl, rfl⟩
      names := by simp
      byMain := ?_
      byPthread := by simp
      listed := ?_
      started := by simp }
  · simp [Lifecycle.newRecord]
  · intro value index hIndex
    simp [Lifecycle.newRecord] at hIndex

theorem KeepsNames.map_name
    {mainTid : Int}
    {events : List Event}
    {threads : List ThreadLife}
    {calls : List (Target × String)}
    {state : Lifecycle}
    (hNames : KeepsNames mainTid events threads calls state)
    (hKeeps : KeepsThreads mainTid threads state) :
    state.records.map Record.name =
      mainName mainTid events (lastCall calls .main) ::
        threads.mapIdx (fun index thread =>
          thread.name (lastCall calls (.thread index))) := by
  have hLength := hKeeps.length
  apply List.ext_getElem?
  intro index
  rw [List.getElem?_map]
  cases index with
  | zero =>
      rcases hNames.main with ⟨first, hFirst, hIs, -⟩
      rw [hFirst, List.getElem?_cons_zero, ← hIs]
      rfl
  | succ k =>
      rw [List.getElem?_cons_succ, List.getElem?_mapIdx]
      cases hThread : threads[k]? with
      | none =>
          have hLe := List.getElem?_eq_none_iff.mp hThread
          rw [List.getElem?_eq_none_iff.mpr (by omega)]
          rfl
      | some thread =>
          rcases hNames.names k thread hThread with
            ⟨record, hRecord, hIs⟩
          rw [hRecord, Option.map_some, Option.map_some, hIs]

/-
  In every trace whose calls all name their target, every
  record has the name that the last successful call on its own
  thread has set.
-/
theorem lifecycleRecords_named
    {events : List Event}
    {threads : List ThreadLife}
    {calls : List (Target × String)}
    {main : Event}
    {mainTid time : Int}
    (hMain :
      events.find? (fun event =>
        event.kind = .phaseMarker ∧
          event.name = "process_start") = some main)
    (hTid : main.tid = some mainTid)
    (hTime : main.timestampNs = some time)
    (hNamed :
      Named mainTid (NamesTarget mainTid) events threads calls)
    (bounds : CycleBounds) :
    NamedRecords mainTid events threads calls bounds := by
  rcases startMain_keeps hMain hTid hTime with
    ⟨state, hState, hStart⟩
  rcases hNamed.keeps bounds hStart
      (startMain_names hMain hTid hTime hState) with
    ⟨final, hFinal, hKeeps, hNames⟩
  refine ⟨_, _, lifecycleRecords_eq hState hFinal, ?_⟩
  rw [List.map_map]
  exact hNames.map_name hKeeps

def nameByItself : Event :=
  { kind := .threadName, callerTid := some 7,
    pthreadValue := "a", result := some 0, name := "worker",
    timestampNs := some 4 }

def nameByStranger : Event :=
  { kind := .threadName, callerTid := some 9,
    pthreadValue := "a", result := some 0, name := "decoder",
    timestampNs := some 5 }

def nameByMain : Event :=
  { kind := .threadName, callerTid := some 1,
    pthreadValue := "a", result := some 0, name := "worker",
    timestampNs := some 4 }

theorem started_named
    (allowed : List ThreadLife → Event → Target → Prop) :
    Named 1 allowed [processStart, createA, startA]
      [{ create := createA, start := some startA }] [] := by
  have hMain :=
    @Emits.other 1 [] processStart (by decide) (by decide)
      (by decide) (by decide)
  have hCreate :=
    @Emits.created 1 [] createA rfl (by decide) (by simp)
  have hStart :=
    @Emits.started 1 [{ create := createA }] startA 0 _ 7 rfl
      rfl rfl rfl rfl rfl (by decide)
      (by simp [ThreadLife.tid])
  exact
    ((Named.nil.snoc hMain (by decide) (by decide)).snoc
      hCreate (by decide) (by decide)).snoc hStart (by decide)
      (by decide)

theorem calls_named_kept :
    NamedRecords 1
      [processStart, createA, startA, nameByItself,
        nameByStranger]
      [{ create := createA, start := some startA }]
      [(.thread 0, "worker"), (.thread 0, "decoder")] ∅ := by
  have hStarted := started_named (NamesTarget 1)
  have hItself :=
    @Named.called 1 _ _ _ _ nameByItself (.thread 0) hStarted
      rfl (by decide) ⟨_, rfl, rfl, rfl⟩
      (by simp [NamesTarget, nameByItself, Target.tid,
        ThreadLife.tid, startA])
  have hStranger :=
    @Named.called 1 _ _ _ _ nameByStranger (.thread 0) hItself
      rfl (by decide) ⟨_, rfl, rfl, rfl⟩
      (by simp [NamesTarget, nameByStranger, Target.tid,
        Stranger, ThreadLife.tid, startA])
  exact lifecycleRecords_named rfl rfl rfl hStranger ∅

/- The main thread names another one, and gets the name. -/
theorem nameByMain_names_main :
    Named 1 (fun _ _ _ => True)
        [processStart, createA, startA, nameByMain]
        [{ create := createA, start := some startA }]
        [(.thread 0, "worker")] ∧
      ¬ NamedRecords 1
        [processStart, createA, startA, nameByMain]
        [{ create := createA, start := some startA }]
        [(.thread 0, "worker")] ∅ := by
  have hStarted := started_named (fun _ _ _ => True)
  have hCall :=
    @Named.called 1 _ _ _ _ nameByMain (.thread 0) hStarted
      rfl (by decide) ⟨_, rfl, rfl, rfl⟩ trivial
  refine ⟨hCall, ?_⟩
  intro hNamed
  rcases hNamed with ⟨records, table, hOk, hNames⟩
  have hFound :
      (lifecycleRecords
          [processStart, createA, startA, nameByMain]
          ∅).toOption.map
          (fun result => result.1.map Record.name) =
        some ["worker", ""] := by
    decide +kernel
  rw [hOk] at hFound
  have hSame := hNames.symm.trans (Option.some.inj hFound)
  exact absurd (List.cons.inj hSame).1 (by decide)

end Trace

end RsCamera
