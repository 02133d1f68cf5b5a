import RsCamera.Generator.Jobs
import RsCamera.Lib.Dict
import RsCamera.Trace.Lifecycle

/-
  What the profile generator takes from one trace run: the
  identities of the threads that live in the steady state,
  and an observation for each of them
  (`generate_deadline_profile.py`).

  Key definitions include:
    * `threadIdentities`
    * `TraceFiles`, `Observation`
    * `threadObservation`, `traceThreads`

  Key theorems include:
    * `threadIdentities_valid`
    * `threadObservation_covers`
    * `traceThreads_observes`
-/

------------------------------------------------------------
-- Identities
------------------------------------------------------------

namespace RsCamera

namespace Generator

section

open Trace

/- A thread by its signature and its number within it. -/
structure Identity where
  signature : String
  instanceNumber : Nat
  name : String
deriving Repr, DecidableEq

/- `(signature, instance)`. -/
def Identity.key (identity : Identity) : String × Nat :=
  (identity.signature, identity.instanceNumber)

/- When a thread came up, as far as the record tells. -/
def firstSeen (record : Record) : Option Int :=
  (truthy record.startedNs).or (truthy record.createdNs)

/- Whether a thread lives during the steady state. -/
def livesBetween
    (begin finish : Int)
    (record : Record) : Bool :=
  max begin ((firstSeen record).getD begin) <
    min finish ((truthy record.exitedNs).getD finish)

/- The counters by signature, and the identity of each thread. -/
structure Identities where
  counts : Std.TreeMap String Nat := {}
  identities : Dict Int Identity := ∅

/- The body of the loop over the sorted records. -/
def Identities.add
    (begin finish : Int)
    (state : Identities)
    (record : Record) : Identities :=
  if record.name = "main" then
    state
  else
    match record.tid with
    | none => state
    | some tid =>
        if record.signature = "" ∨
            livesBetween begin finish record = false then
          state
        else
          let number :=
            state.counts.getD record.signature 0 + 1
          { counts :=
              state.counts.insert record.signature number
            identities :=
              state.identities.set tid
                ⟨record.signature, number, record.name⟩ }

/-
  `_thread_identities`: the records that live in the steady state
  are numbered.
-/
def threadIdentities
    (lifecycle : List Event) :
    Except String (Dict Int Identity × Int × Int) := do
  let events := sortEvents lifecycle
  let begin ← markerTime events "steady_state_begin"
  let finish ← markerTime events "steady_state_end"
  let (records, _) ← lifecycleRecords events ∅
  let sorted :=
    records.insertionSort (fun left right =>
      (firstSeen left).getD 0 ≤ (firstSeen right).getD 0)
  let state :=
    sorted.foldl (Identities.add begin finish) {}
  .ok (state.identities, begin, finish)

end

------------------------------------------------------------
-- Observations
------------------------------------------------------------

section

open Trace

/- A thread in the summary of the steady state. -/
structure ThreadSummary where
  tid : Option Int := none
  policy : String := ""
  name : String := ""
deriving Repr, DecidableEq

/- The decoded artifacts of a trace attempt. -/
structure TraceFiles where
  lifecycle : List Event
  activations : List Activation
  summary : List ThreadSummary
deriving Repr, DecidableEq

/- What one trace says of a thread. -/
structure Observation where
  name : String
  periodNs : Int
  principalPeriodNs : Int
  executionNs : Int
  activationCount : Nat
  logicalJobCount : Nat
  burstThreshold : Option Threshold
deriving Repr, DecidableEq

/- A character inside the quotes of a quoted text. -/
def reprChar (quote c : Char) : List Char :=
  if c = quote ∨ c = '\\' then
    ['\\', c]
  else if c = '\n' then
    ['\\', 'n']
  else if c = '\r' then
    ['\\', 'r']
  else if c = '\t' then
    ['\\', 't']
  else if c.toNat < 32 ∨ c.toNat = 127 then
    ['\\', 'x', Nat.digitChar (c.toNat / 16),
      Nat.digitChar (c.toNat % 16)]
  else
    [c]

/- The `repr` of a text; texts beyond ASCII stay as is. -/
def strRepr (text : String) : String :=
  let quote :=
    if '\'' ∈ text.toList ∧ '"' ∉ text.toList then '"'
    else '\''
  String.ofList
    (quote ::
      (text.toList.flatMap (reprChar quote) ++ [quote]))

/- `repr` of an identity. -/
def keyRepr (key : String × Nat) : String :=
  "(" ++ strRepr key.1 ++ ", " ++ toString key.2 ++ ")"

/- The complete activations of a thread. -/
def TraceFiles.rowsOf
    (files : TraceFiles)
    (tid : Int) : List Activation :=
  files.activations.filter (fun row =>
    row.partialStart = false ∧ row.partialEnd = false ∧
      row.tid = tid)

/- The logical jobs of a thread and their threshold. -/
def TraceFiles.jobsOf
    (files : TraceFiles)
    (tid : Int) :
    List (List Activation) × Option Threshold :=
  splitLogicalJobs (files.rowsOf tid)

/- The last row of a thread in the summary, as in a dictionary. -/
def TraceFiles.summaryOf
    (files : TraceFiles)
    (tid : Int) : Option ThreadSummary :=
  (files.summary.filter
    (fun thread => thread.tid = some tid)).getLast?

/- A pure `SCHED_OTHER` policy is the only one of its trace. -/
def pureOther (policy : String) : Bool :=
  occursIn "SCHED_OTHER" policy && !occursIn "|" policy

/- What the jobs of a thread say about it. -/
def jobsObservation
    (files : TraceFiles)
    (tid : Int)
    (name : String) : Except String Observation := do
  let (groups, threshold) := files.jobsOf tid
  let stable ← stablePeriodsNs groups
  match stable.min? with
  | none => .error "min() iterable argument is empty"
  | some period =>
      let execution ← maximumJobExecutionNs groups
      .ok
        { name := name
          periodNs := period
          principalPeriodNs := roundHalfEven (median stable)
          executionNs := execution
          activationCount := (files.rowsOf tid).length
          logicalJobCount := groups.length
          burstThreshold := threshold }

/- The body of the loop over the identities. -/
def threadObservation
    (files : TraceFiles)
    (requireSchedOther : Bool)
    (tid : Int)
    (identity : Identity) : Except String Observation :=
  match files.summaryOf tid with
  | none =>
      .error
        ("TID " ++ toString tid ++
          " has no LiME steady-state summary")
  | some thread =>
      if requireSchedOther ∧
          pureOther thread.policy = false then
        .error
          ("TID " ++ toString tid ++ " source policy is " ++
            strRepr thread.policy ++
            ", not a pure SCHED_OTHER trace")
      else
        (jobsObservation files tid
          (textOr thread.name identity.name)).mapError
          (fun error =>
            "cannot model TID " ++ toString tid ++ " (" ++
              identity.name ++ ", " ++ identity.signature ++
              "): " ++ error)

/- The observations of one run, by the identity. -/
abbrev Threads : Type :=
  Dict (String × Nat) Observation

/- A thread is added under its identity, which is new. -/
def addObservation
    (files : TraceFiles)
    (requireSchedOther : Bool)
    (result : Threads)
    (item : Int × Identity) : Except String Threads := do
  let observation ←
    threadObservation files requireSchedOther item.1 item.2
  if item.2.key ∈ result.keys then
    .error
      ("duplicate live-thread identity: " ++
        keyRepr item.2.key)
  else
    .ok (result.set item.2.key observation)

/- `_trace_threads`: the observations of one trace. -/
def traceThreads
    (files : TraceFiles)
    (requireSchedOther : Bool) : Except String Threads := do
  let (identities, _, _) ← threadIdentities files.lifecycle
  identities.items.foldlM
    (addObservation files requireSchedOther) ∅

end

------------------------------------------------------------
-- Identities Are Numbered From One
------------------------------------------------------------

section

open Trace

/- An identity that a profile row may have. -/
def Identity.Valid (identity : Identity) : Prop :=
  identity.signature ≠ "" ∧ 1 ≤ identity.instanceNumber

/- All identities so far are valid. -/
def Identities.Valid (state : Identities) : Prop :=
  ∀ tid identity,
    state.identities.get? tid = some identity →
      identity.Valid

theorem Identities.Valid.add
    {state : Identities}
    (hValid : state.Valid)
    (begin finish : Int)
    (record : Record) :
    (state.add begin finish record).Valid := by
  unfold Identities.add
  split
  · exact hValid
  · split
    · exact hValid
    next tid _ =>
      split
      · exact hValid
      next hKept =>
        intro other identity hGet
        simp only [Dict.get?_set] at hGet
        split at hGet
        · rw [← Option.some.inj hGet]
          exact ⟨fun hEmpty => hKept (Or.inl hEmpty),
            Nat.le_add_left ..⟩
        · exact hValid other identity hGet

theorem Identities.Valid.foldl
    {state : Identities}
    (hValid : state.Valid)
    (begin finish : Int)
    (records : List Record) :
    (records.foldl (Identities.add begin finish)
      state).Valid := by
  induction records generalizing state with
  | nil => exact hValid
  | cons record records ih =>
      rw [List.foldl_cons]
      exact ih (hValid.add begin finish record)

theorem threadIdentities_valid
    {lifecycle : List Event}
    {identities : Dict Int Identity}
    {begin finish : Int}
    (hOk :
      threadIdentities lifecycle =
        .ok (identities, begin, finish))
    {item : Int × Identity}
    (hItem : item ∈ identities.items) :
    item.2.Valid := by
  unfold threadIdentities at hOk
  simp only [bind_eq_ok] at hOk
  rcases hOk with ⟨b, _, f, _, ⟨records, _⟩, _, hOk⟩
  have hStart : ({} : Identities).Valid := by
    intro tid identity hGet
    cases hGet
  have hAll :=
    hStart.foldl b f
      (records.insertionSort (fun left right =>
        (firstSeen left).getD 0 ≤ (firstSeen right).getD 0))
  have hEq := (Prod.mk.inj (Except.ok.inj hOk)).1
  rw [← hEq] at hItem
  exact hAll item.1 item.2 (Dict.mem_items_iff.mp hItem)

end

------------------------------------------------------------
-- Observations Cover The Jobs
------------------------------------------------------------

/-
  An observation that is at least the execution of every job
  and at most every stable period of a thread.
-/
structure Observation.Covers
    (observation : Observation)
    (files : TraceFiles)
    (tid : Int) : Prop where
  execution_pos : 0 < observation.executionNs
  jobs :
    ∀ job ∈ (files.jobsOf tid).1,
      jobExecutionNs job ≤ observation.executionNs
  periods :
    ∃ stable,
      stablePeriodsNs (files.jobsOf tid).1 = .ok stable ∧
        ∀ period ∈ stable, observation.periodNs ≤ period

variable {files : TraceFiles}
variable {requireSchedOther : Bool}

theorem jobsObservation_covers
    {tid : Int}
    {name : String}
    {observation : Observation}
    (hOk :
      jobsObservation files tid name = .ok observation) :
    observation.Covers files tid := by
  unfold jobsObservation at hOk
  rcases bind_eq_ok.mp hOk with ⟨stable, hStable, hRest⟩
  split at hRest
  · cases hRest
  next period hMinimum =>
    rcases bind_eq_ok.mp hRest with
      ⟨execution, hExecution, hEq⟩
    rcases maximumJobExecutionNs_eq_ok hExecution with
      ⟨hPositive, hJobs⟩
    rw [← Except.ok.inj hEq]
    refine ⟨hPositive, hJobs, stable, hStable, ?_⟩
    exact (List.min?_eq_some_iff.mp hMinimum).2

theorem threadObservation_covers
    {tid : Int}
    {identity : Identity}
    {observation : Observation}
    (hOk :
      threadObservation files requireSchedOther tid identity =
        .ok observation) :
    observation.Covers files tid := by
  unfold threadObservation at hOk
  split at hOk
  · cases hOk
  next thread _ =>
    split at hOk
    · cases hOk
    · cases hJobs :
          jobsObservation files tid
            (Trace.textOr thread.name identity.name) with
      | error error =>
          rw [hJobs] at hOk
          cases hOk
      | ok found =>
          rw [hJobs] at hOk
          cases Except.ok.inj hOk
          exact jobsObservation_covers hJobs

/- The observations of a list of identities. -/
structure Observes
    (files : TraceFiles)
    (items : List (Int × Identity))
    (threads : Threads) : Prop where
  covers :
    ∀ item ∈ items, ∃ observation,
      threads.get? item.2.key = some observation ∧
        observation.Covers files item.1
  keys :
    ∀ key ∈ threads.keys, ∃ item ∈ items, item.2.key = key

theorem Observes.add
    {items : List (Int × Identity)}
    {threads threads' : Threads}
    (hObserves : Observes files items threads)
    {item : Int × Identity}
    (hOk :
      addObservation files requireSchedOther threads item =
        .ok threads') :
    Observes files (items ++ [item]) threads' := by
  unfold addObservation at hOk
  rcases bind_eq_ok.mp hOk with
    ⟨observation, hObservation, hRest⟩
  split at hRest
  · cases hRest
  next hFresh =>
    rw [← Except.ok.inj hRest]
    constructor
    · intro other hMember
      rcases List.mem_append.mp hMember with hOld | hNew
      · rcases hObserves.covers other hOld with
          ⟨found, hGet, hCovers⟩
        refine ⟨found, ?_, hCovers⟩
        have hOther : other.2.key ≠ item.2.key := by
          intro hEq
          apply hFresh
          rw [← hEq]
          exact Dict.mem_keys_iff.mpr ⟨found, hGet⟩
        rw [Dict.get?_set, if_neg hOther]
        exact hGet
      · rw [List.mem_singleton.mp hNew]
        refine ⟨observation, ?_,
          threadObservation_covers hObservation⟩
        rw [Dict.get?_set, if_pos rfl]
    · intro key hKey
      rcases Dict.mem_keys_set.mp hKey with hOld | hNew
      · rcases hObserves.keys key hOld with
          ⟨other, hMember, hEq⟩
        exact ⟨other, List.mem_append_left _ hMember, hEq⟩
      · exact ⟨item, by simp, hNew.symm⟩

theorem Observes.foldlM
    {items rest : List (Int × Identity)}
    {threads threads' : Threads}
    (hObserves : Observes files items threads)
    (hOk :
      rest.foldlM (addObservation files requireSchedOther)
          threads =
        .ok threads') :
    Observes files (items ++ rest) threads' := by
  induction rest generalizing items threads with
  | nil =>
      rw [List.foldlM_nil] at hOk
      rw [← Except.ok.inj hOk, List.append_nil]
      exact hObserves
  | cons item rest ih =>
      rw [List.foldlM_cons] at hOk
      rcases bind_eq_ok.mp hOk with ⟨next, hNext, hRest⟩
      have hTail := ih (hObserves.add hNext) hRest
      rw [List.append_assoc] at hTail
      exact hTail

/-
  A run that is accepted has one observation for each of its
  identities, and no others.
-/
theorem traceThreads_observes
    {threads : Threads}
    (hOk :
      traceThreads files requireSchedOther = .ok threads) :
    ∃ identities begin finish,
      threadIdentities files.lifecycle =
          .ok (identities, begin, finish) ∧
        Observes files identities.items threads := by
  unfold traceThreads at hOk
  rcases bind_eq_ok.mp hOk with
    ⟨⟨identities, begin, finish⟩, hIdentities, hFold⟩
  have hStart : Observes files [] ∅ := by
    constructor
    · intro item hMember
      cases hMember
    · intro key hKey
      cases hKey
  exact ⟨identities, begin, finish, hIdentities,
    hStart.foldlM hFold⟩

end Generator

end RsCamera
