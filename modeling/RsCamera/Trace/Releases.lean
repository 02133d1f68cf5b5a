import RsCamera.Trace.Attribution

/-
  Whose joins and detaches the lifecycle records show.

  An owner is a thread that the C library has created, with the
  `pthread_t` it was given and the time its creation is stamped
  with.  The library gives a `pthread_t` again once its owner is
  joined, so a value may have had several owners; the parser
  takes the last of them that is created by the time of the join
  or the detach.  This module is about traces in which the times
  of owners of one value are `Apart`: there the last owner is
  the right one.

  Key definitions include:
    * `Release`, `Owner`
    * `Owner.Creates`, `Owner.Starts`, `Owner.Ends`
    * `Bystander`, `Lines`, `Apart`
    * `Holding`, `Attributes`
    * `KeepsOwners`

  Key theorems include:
    * `KeepsOwners.newOwner`
    * `KeepsOwners.ends`
    * `Lines.keeps`
    * `lifecycleRecords_attributes`
-/

------------------------------------------------------------
-- Owners And Their Lines
------------------------------------------------------------

namespace RsCamera

namespace Trace

/- How a thread is given back. -/
inductive ReleaseKind
| join
| detach
deriving Repr, DecidableEq

namespace ReleaseKind

/- The kind of the line that reports a release. -/
def eventKind : ReleaseKind → EventKind
| join => .pthreadJoinEnd
| detach => .pthreadDetach

end ReleaseKind

/- A join or a detach that the library has carried out. -/
structure Release where
  kind : ReleaseKind
  callerTid : Int
  -- When the wrapper reads the clock after the call.
  stampNs : Option Int := none
  -- Whether its line is in the trace file.
  written : Bool := false
deriving Repr, DecidableEq

/- A thread that the library has created. -/
structure Owner where
  value : String
  -- When the wrapper read the clock before the call.
  createNs : Int
  written : Bool := false
  exited : Bool := false
  release : Option Release := none
deriving Repr, DecidableEq

/- The line of a creation. -/
def Owner.Creates
    (owner : Owner)
    (event : Event) : Prop :=
  event.kind = .pthreadCreate ∧
    createSucceeds event = true ∧
    event.pthreadValue = owner.value ∧
    event.timestampNs = some owner.createNs

/- The first line of a thread. -/
def Owner.Starts
    (owner : Owner)
    (event : Event) : Prop :=
  event.kind = .threadStart ∧
    event.tid.isSome = true ∧
    event.pthreadValue = owner.value ∧
    event.createTimestampNs = some owner.createNs ∧
    event.timestampNs.any (fun time =>
      owner.createNs ≤ time) = true

/- The line of a join or a detach that has succeeded. -/
def Release.Reports
    (release : Release)
    (value : String)
    (event : Event) : Prop :=
  event.kind = release.kind.eventKind ∧
    event.result = some 0 ∧
    event.pthreadValue = value ∧
    event.callerTid = some release.callerTid ∧
    release.stampNs.isSome = true ∧
    event.timestampNs = release.stampNs

/- The line of the release. -/
def Owner.Ends
    (owner : Owner)
    (event : Event) : Prop :=
  ∃ release,
    owner.release = some release ∧
      release.written = true ∧
      release.Reports owner.value event

/- A line that creates, starts and releases no thread. -/
def Bystander (event : Event) : Prop :=
  (event.kind = .pthreadCreate →
      createSucceeds event = false) ∧
    event.kind ≠ .threadStart ∧
    (event.kind = .pthreadJoinEnd ∨
        event.kind = .pthreadDetach →
      event.result.getD 0 ≠ 0) ∧
    (event.kind = .threadExit ∨ event.kind = .phaseMarker →
      event.tid.isSome = true) ∧
    event.timestampNs.isSome = true

/- The lines of a trace are those of its owners. -/
structure Lines
    (owners : List Owner)
    (events : List Event) : Prop where
  meant :
    ∀ event ∈ events,
      Bystander event ∨
        ∃ owner ∈ owners,
          owner.Creates event ∨ owner.Starts event ∨
            owner.Ends event
  created :
    ∀ owner ∈ owners, ∃ event ∈ events, owner.Creates event
  reported :
    ∀ owner ∈ owners, ∀ release,
      owner.release = some release → release.written = true →
        ∃ event ∈ events, release.Reports owner.value event

/- The time of the release. -/
def Owner.releasedNs (owner : Owner) : Option Int :=
  owner.release.bind Release.stampNs

/-
  A thread is released after it is created, and before the
  next creation that has its value.
-/
structure Apart (owners : List Owner) : Prop where
  valued : ∀ owner ∈ owners, owner.value ≠ ""
  timed : ∀ owner ∈ owners, 0 < owner.createNs
  released :
    ∀ owner ∈ owners, ∀ time,
      owner.releasedNs = some time → owner.createNs < time
  reused :
    owners.Pairwise (fun earlier later =>
      earlier.value = later.value →
        ∃ time,
          earlier.releasedNs = some time ∧
            time < later.createNs)

------------------------------------------------------------
-- What Records Show
------------------------------------------------------------

/- What a record says of the release of its thread. -/
structure Holding where
  pthreadValue : String
  createdNs : Option Int
  joinedNs : Option Int
  joinedBy : Option Int
  detachedBy : Option Int
deriving Repr, DecidableEq

def Record.holding (record : Record) : Holding where
  pthreadValue := record.pthreadValue
  createdNs := record.createdNs
  joinedNs := record.joinedNs
  joinedBy := record.joinedBy
  detachedBy := record.detachedBy

/- A record of this thread. -/
def Owner.Has
    (owner : Owner)
    (holding : Holding) : Prop :=
  holding.pthreadValue = owner.value ∧
    holding.createdNs = some owner.createNs

/- The record shows the release. -/
def Release.ShownIn
    (release : Release)
    (holding : Holding) : Prop :=
  match release.kind with
  | .join =>
      holding.joinedNs = release.stampNs ∧
        holding.joinedBy = some release.callerTid
  | .detach => holding.detachedBy = some release.callerTid

/- A record that shows a release is one of its owner. -/
structure Owned
    (owners : List Owner)
    (holding : Holding) : Prop where
  joined :
    holding.joinedNs ≠ none ∨ holding.joinedBy ≠ none →
      ∃ owner ∈ owners, ∃ release,
        owner.release = some release ∧
          release.kind = .join ∧ owner.Has holding ∧
          release.ShownIn holding
  detached :
    holding.detachedBy ≠ none →
      ∃ owner ∈ owners, ∃ release,
        owner.release = some release ∧
          release.kind = .detach ∧ owner.Has holding ∧
          release.ShownIn holding

/-
  Every release whose line is written is shown in a record of
  the thread that was released, and records show no others.
-/
structure Attributes
    (owners : List Owner)
    (holdings : List Holding) : Prop where
  shown :
    ∀ owner ∈ owners, ∀ release,
      owner.release = some release → release.written = true →
        ∃ holding ∈ holdings,
          owner.Has holding ∧ release.ShownIn holding
  owned : ∀ holding ∈ holdings, Owned owners holding

------------------------------------------------------------
-- Owners Of One Value
------------------------------------------------------------

section Owners

variable {owners : List Owner}
variable {owner other : Owner}

/- Of two owners of a value, one is released first. -/
theorem Apart.cases
    (hApart : Apart owners)
    (hOwner : owner ∈ owners)
    (hOther : other ∈ owners)
    (hValue : owner.value = other.value) :
    owner = other ∨
      (∃ time,
        owner.releasedNs = some time ∧
          time < other.createNs) ∨
      ∃ time,
        other.releasedNs = some time ∧
          time < owner.createNs := by
  have hPairs := List.pairwise_iff_getElem.mp hApart.reused
  rcases List.getElem_of_mem hOwner with ⟨i, hI, hIs⟩
  rcases List.getElem_of_mem hOther with ⟨j, hJ, hJs⟩
  rcases Nat.lt_trichotomy i j with hLt | hEq | hGt
  · right
    left
    have hFirst := hPairs i j hI hJ hLt
    simpa [hIs, hJs, hValue] using hFirst
  · left
    subst hEq
    exact hIs.symm.trans hJs
  · right
    right
    have hFirst := hPairs j i hJ hI hGt
    simpa [hIs, hJs, hValue] using hFirst

/- The value and the time of creation name one thread. -/
theorem Apart.eq_of_createNs
    (hApart : Apart owners)
    (hOwner : owner ∈ owners)
    (hOther : other ∈ owners)
    (hValue : owner.value = other.value)
    (hTime : owner.createNs = other.createNs) :
    owner = other := by
  rcases hApart.cases hOwner hOther hValue with
    hSame | ⟨time, hReleased, hLt⟩ | ⟨time, hReleased, hLt⟩
  · exact hSame
  · have hAfter := hApart.released owner hOwner time hReleased
    omega
  · have hAfter := hApart.released other hOther time hReleased
    omega

/- So do the value and the time of the release. -/
theorem Apart.eq_of_releasedNs
    (hApart : Apart owners)
    (hOwner : owner ∈ owners)
    (hOther : other ∈ owners)
    (hValue : owner.value = other.value)
    {time : Int}
    (hTime : owner.releasedNs = some time)
    (hOtherTime : other.releasedNs = some time) :
    owner = other := by
  have hAfter := hApart.released owner hOwner time hTime
  have hOtherAfter :=
    hApart.released other hOther time hOtherTime
  rcases hApart.cases hOwner hOther hValue with
    hSame | ⟨first, hReleased, hLt⟩ | ⟨first, hReleased, hLt⟩
  · exact hSame
  · rw [hTime] at hReleased
    cases hReleased
    omega
  · rw [hOtherTime] at hReleased
    cases hReleased
    omega

/- The owner that is released is the last one by then. -/
theorem Apart.le_of_released
    (hApart : Apart owners)
    (hOwner : owner ∈ owners)
    (hOther : other ∈ owners)
    (hValue : owner.value = other.value)
    {time : Int}
    (hTime : owner.releasedNs = some time)
    (hCreated : other.createNs ≤ time) :
    other.createNs ≤ owner.createNs := by
  rcases hApart.cases hOwner hOther hValue with
    hSame | ⟨first, hReleased, hLt⟩ | ⟨first, hReleased, hLt⟩
  · subst hSame
    exact le_rfl
  · rw [hTime] at hReleased
    cases hReleased
    omega
  · have hAfter := hApart.released other hOther first hReleased
    omega

theorem Apart.eq_of_has
    (hApart : Apart owners)
    (hOwner : owner ∈ owners)
    (hOther : other ∈ owners)
    {holding : Holding}
    (hHas : owner.Has holding)
    (hOtherHas : other.Has holding) :
    owner = other := by
  apply hApart.eq_of_createNs hOwner hOther
  · exact hHas.1.symm.trans hOtherHas.1
  · exact Option.some.inj (hHas.2.symm.trans hOtherHas.2)

end Owners

------------------------------------------------------------
-- Holdings Of A State
------------------------------------------------------------

/- Of all records. -/
def Lifecycle.holdings (state : Lifecycle) : List Holding :=
  state.records.map Record.holding

/- The time of the creation that a record is of. -/
def createdAt
    (holdings : List Holding)
    (index : Nat) : Int :=
  (holdings[index]?.bind Holding.createdNs).getD 0

section Holdings

variable {state : Lifecycle}
variable {change : Record → Record}

theorem holdings_update
    {mark : Holding → Holding}
    (hMark :
      ∀ record, (change record).holding = mark record.holding)
    (index : Nat) :
    (state.update index change).holdings =
      state.holdings.modify index mark := by
  apply List.ext_getElem?
  intro k
  simp only [Lifecycle.holdings, Lifecycle.update,
    List.getElem?_map, List.getElem?_modify]
  cases state.records[k]? with
  | none => simp
  | some record =>
      by_cases hIndex : index = k
      · simp [hIndex, hMark]
      · simp [hIndex]

theorem holdings_update_same
    (hSame :
      ∀ record, (change record).holding = record.holding)
    (index : Nat) :
    (state.update index change).holdings = state.holdings := by
  have hUpdate := @holdings_update state change id hSame index
  simpa using hUpdate

theorem holdings_updateLast_same
    (hSame :
      ∀ record, (change record).holding = record.holding)
    (candidates : List Nat)
    (accepts : Record → Bool) :
    (state.updateLast candidates accepts change).holdings =
      state.holdings := by
  unfold Lifecycle.updateLast
  split
  · rfl
  · exact holdings_update_same hSame _

theorem holdings_phaseMarker
    (event : Event) :
    (state.phaseMarker event).holdings = state.holdings := by
  unfold Lifecycle.phaseMarker
  split
  · simp only [Lifecycle.holdings, List.map_map]
    apply List.map_congr_left
    intro record _
    simp only [Function.comp_apply]
    split <;> rfl
  · rfl

theorem holdings_newRecord
    (record : Record) :
    (state.newRecord record).holdings =
      state.holdings ++ [record.holding] := by
  simp [Lifecycle.newRecord, Lifecycle.holdings]

theorem createdAt_append
    {holdings : List Holding}
    {index : Nat}
    {holding : Holding}
    (hGet : holdings[index]? = some holding)
    (more : List Holding) :
    createdAt (holdings ++ more) index =
      createdAt holdings index := by
  unfold createdAt
  rw [getElem?_append_of_some hGet, hGet]

theorem Owner.Has.createdAt_eq
    {holdings : List Holding}
    {index : Nat}
    {holding : Holding}
    {owner : Owner}
    (hHas : owner.Has holding)
    (hGet : holdings[index]? = some holding) :
    createdAt holdings index = owner.createNs := by
  unfold createdAt
  rw [hGet, Option.bind_some, hHas.2]
  rfl

end Holdings

/- The tables find the records of the owners. -/
structure KeepsOwners
    (owners : List Owner)
    (events : List Event)
    (state : Lifecycle) : Prop where
  listed :
    ∀ value, ∀ index ∈ state.byPthread.getD value [],
      ∃ owner ∈ owners, ∃ holding,
        state.holdings[index]? = some holding ∧
          owner.value = value ∧ owner.Has holding ∧
          ∃ event ∈ events,
            event.timestampNs = some owner.createNs
  ordered :
    ∀ value,
      (state.byPthread.getD value []).Pairwise
        (fun i j =>
          createdAt state.holdings i ≤
            createdAt state.holdings j)
  found :
    ∀ owner ∈ owners, ∀ event ∈ events,
      owner.Creates event →
        ∃ index ∈ state.byPthread.getD owner.value [],
          createdAt state.holdings index = owner.createNs
  known :
    ∀ owner ∈ owners, ∀ event ∈ events,
      owner.Creates event →
        (owner.value, owner.createNs) ∈ state.byCreate
  shown :
    ∀ owner ∈ owners, ∀ release,
      owner.release = some release →
        ∀ event ∈ events,
          release.Reports owner.value event →
            ∃ holding ∈ state.holdings,
              owner.Has holding ∧ release.ShownIn holding
  owned :
    ∀ holding ∈ state.holdings, Owned owners holding

------------------------------------------------------------
-- Lines That Release No Thread
------------------------------------------------------------

section Steps

variable {owners : List Owner}
variable {events : List Event}
variable {state state' : Lifecycle}
variable {event : Event}
variable {owner : Owner}

/- Changes that the owners do not notice. -/
theorem KeepsOwners.same
    (hKeeps : KeepsOwners owners events state)
    (hHoldings : state'.holdings = state.holdings)
    (hPthread : state'.byPthread = state.byPthread)
    (hCreate : state'.byCreate = state.byCreate) :
    KeepsOwners owners events state' where
  listed := by simpa [hHoldings, hPthread] using hKeeps.listed
  ordered := by simpa [hHoldings, hPthread] using hKeeps.ordered
  found := by simpa [hHoldings, hPthread] using hKeeps.found
  known := by simpa [hCreate] using hKeeps.known
  shown := by simpa [hHoldings] using hKeeps.shown
  owned := by simpa [hHoldings] using hKeeps.owned

/- Lines that create no thread. -/
theorem KeepsOwners.snoc
    (hKeeps : KeepsOwners owners events state)
    (hCreates : ∀ owner : Owner, ¬ owner.Creates event)
    (hShown :
      ∀ owner ∈ owners, ∀ release,
        owner.release = some release →
          release.Reports owner.value event →
            ∃ holding ∈ state.holdings,
              owner.Has holding ∧ release.ShownIn holding) :
    KeepsOwners owners (events ++ [event]) state := by
  refine
    { listed := ?_
      ordered := hKeeps.ordered
      found := ?_
      known := ?_
      shown := ?_
      owned := hKeeps.owned }
  · intro value index hIndex
    rcases hKeeps.listed value index hIndex with
      ⟨owner, hOwner, holding, hGet, hValue, hHas, earlier,
        hEarlier, hTime⟩
    exact ⟨owner, hOwner, holding, hGet, hValue, hHas, earlier,
      List.mem_append_left _ hEarlier, hTime⟩
  · intro owner hOwner line hLine hIs
    rcases List.mem_append.mp hLine with hOld | hNew
    · exact hKeeps.found owner hOwner line hOld hIs
    · cases List.mem_singleton.mp hNew
      exact absurd hIs (hCreates owner)
  · intro owner hOwner line hLine hIs
    rcases List.mem_append.mp hLine with hOld | hNew
    · exact hKeeps.known owner hOwner line hOld hIs
    · cases List.mem_singleton.mp hNew
      exact absurd hIs (hCreates owner)
  · intro owner hOwner release hRelease line hLine hIs
    rcases List.mem_append.mp hLine with hOld | hNew
    · exact hKeeps.shown owner hOwner release hRelease line
        hOld hIs
    · cases List.mem_singleton.mp hNew
      exact hShown owner hOwner release hRelease hIs

variable {value : String}
variable {record : Record}

theorem Release.Reports.kind_cases
    {release : Release}
    (hReports : release.Reports value event) :
    event.kind = .pthreadJoinEnd ∨
      event.kind = .pthreadDetach := by
  rcases hReports with ⟨hKind, -⟩
  cases hRelease : release.kind with
  | join => exact Or.inl (by
      simpa [hRelease, ReleaseKind.eventKind] using hKind)
  | detach => exact Or.inr (by
      simpa [hRelease, ReleaseKind.eventKind] using hKind)

theorem Bystander.not_creates
    (hBystander : Bystander event)
    (owner : Owner) :
    ¬ owner.Creates event := by
  intro hCreates
  have hFails := hBystander.1 hCreates.1
  rw [hCreates.2.1] at hFails
  cases hFails

theorem Bystander.not_reports
    (hBystander : Bystander event)
    (release : Release)
    (value : String) :
    ¬ release.Reports value event := by
  intro hReports
  have hResult := hBystander.2.2.1 hReports.kind_cases
  simp [hReports.2.1] at hResult

/- A bystander is read, and changes nothing of the owners. -/
theorem Bystander.step
    (hBystander : Bystander event)
    (bounds : CycleBounds)
    (state : Lifecycle) :
    ∃ state',
      state.step bounds event = .ok state' ∧
        state'.holdings = state.holdings ∧
        state'.byPthread = state.byPthread ∧
        state'.byCreate = state.byCreate := by
  rcases hBystander with ⟨hCreate, hStart, hFails, hTid, -⟩
  unfold Lifecycle.step
  cases hKind : event.kind with
  | pthreadCreate =>
      have hRefused := hCreate hKind
      unfold createSucceeds at hRefused
      refine ⟨_, rfl, ?_⟩
      simp [Lifecycle.pthreadCreate, hRefused]
  | threadStart => exact absurd hKind hStart
  | threadName =>
      refine ⟨_, rfl, holdings_updateLast_same ?_ _ _, ?_⟩
      · intro record
        rfl
      · simp only [Lifecycle.threadName, Lifecycle.updateLast]
        split <;> exact ⟨rfl, rfl⟩
  | threadExit =>
      rcases Option.isSome_iff_exists.mp (hTid (Or.inl hKind))
        with ⟨tid, hIs⟩
      unfold Lifecycle.threadExit
      rw [hIs]
      refine ⟨_, rfl, holdings_updateLast_same ?_ _ _, ?_⟩
      · intro record
        rfl
      · simp only [Lifecycle.updateLast]
        split <;> exact ⟨rfl, rfl⟩
  | pthreadJoinEnd =>
      have hResult := hFails (Or.inl hKind)
      refine ⟨_, rfl, ?_⟩
      simp [Lifecycle.pthreadJoinEnd, hResult]
  | pthreadDetach =>
      have hResult := hFails (Or.inr hKind)
      refine ⟨_, rfl, ?_⟩
      simp [Lifecycle.pthreadDetach, hResult]
  | phaseMarker =>
      refine ⟨_, rfl, holdings_phaseMarker event, ?_⟩
      unfold Lifecycle.phaseMarker
      split <;> exact ⟨rfl, rfl⟩
  | unknown => exact ⟨state, rfl, rfl, rfl, rfl⟩

theorem byPthread_newRecord
    (hValue : record.pthreadValue ≠ "")
    (value : String) :
    (state.newRecord record).byPthread.getD value [] =
      if value = record.pthreadValue then
        state.byPthread.getD value [] ++ [state.records.length]
      else
        state.byPthread.getD value [] := by
  simp only [Lifecycle.newRecord, hValue, if_false,
    Std.TreeMap.getD_insert, Std.compare_eq_iff_eq]
  by_cases hSame : value = record.pthreadValue
  · subst hSame
    simp
  · simp [hSame, Ne.symm hSame]

theorem mem_byPthread_newRecord
    (hValue : record.pthreadValue ≠ "")
    {index : Nat} :
    index ∈ (state.newRecord record).byPthread.getD value [] ↔
      index ∈ state.byPthread.getD value [] ∨
        (value = record.pthreadValue ∧
          index = state.records.length) := by
  rw [byPthread_newRecord hValue]
  by_cases hSame : value = record.pthreadValue
  · simp [hSame]
  · simp [hSame]

/- What a new record holds stands behind the others. -/
theorem getElem?_holdings_newRecord
    (state : Lifecycle)
    (record : Record) :
    (state.newRecord record).holdings[state.records.length]? =
      some record.holding := by
  rw [holdings_newRecord]
  simp [Lifecycle.holdings]

/- Records that are listed already keep their times. -/
theorem KeepsOwners.createdAt_newRecord
    (hKeeps : KeepsOwners owners events state)
    (record : Record)
    {index : Nat}
    (hIndex : index ∈ state.byPthread.getD value []) :
    createdAt (state.newRecord record).holdings index =
      createdAt state.holdings index := by
  rcases hKeeps.listed value index hIndex with
    ⟨_, _, holding, hGet, -⟩
  rw [holdings_newRecord]
  exact createdAt_append hGet _

/- The listed records were created by lines that are read. -/
theorem KeepsOwners.createdAt_le
    (hKeeps : KeepsOwners owners events state)
    {bound : Int}
    (hLast :
      ∀ earlier ∈ events, ∀ time,
        earlier.timestampNs = some time → time ≤ bound)
    {index : Nat}
    (hIndex : index ∈ state.byPthread.getD value []) :
    createdAt state.holdings index ≤ bound := by
  rcases hKeeps.listed value index hIndex with
    ⟨owner, _, holding, hGet, -, hHas, earlier, hEarlier,
      hTime⟩
  rw [hHas.createdAt_eq hGet]
  exact hLast earlier hEarlier _ hTime

/- A record that is not older than the listed ones is last. -/
theorem KeepsOwners.ordered_newRecord
    (hKeeps : KeepsOwners owners events state)
    (hHas : owner.Has record.holding)
    (hNonempty : record.pthreadValue ≠ "")
    (hLast :
      ∀ earlier ∈ events, ∀ time,
        earlier.timestampNs = some time →
          time ≤ owner.createNs)
    (value : String) :
    ((state.newRecord record).byPthread.getD value
      []).Pairwise (fun i j =>
        createdAt (state.newRecord record).holdings i ≤
          createdAt (state.newRecord record).holdings j) := by
  have hOld :
      (state.byPthread.getD value []).Pairwise (fun i j =>
        createdAt (state.newRecord record).holdings i ≤
          createdAt (state.newRecord record).holdings j) := by
    apply (hKeeps.ordered value).imp_of_mem
    intro i j hI hJ hLe
    rw [hKeeps.createdAt_newRecord record hI,
      hKeeps.createdAt_newRecord record hJ]
    exact hLe
  rw [byPthread_newRecord hNonempty]
  split
  · rw [List.pairwise_append]
    refine ⟨hOld, List.pairwise_singleton _ _, ?_⟩
    intro i hI j hJ
    cases List.mem_singleton.mp hJ
    rw [hKeeps.createdAt_newRecord record hI,
      hHas.createdAt_eq
        (getElem?_holdings_newRecord state record)]
    exact hKeeps.createdAt_le hLast hI
  · exact hOld

/- A line creates the owner with its value and its time. -/
theorem Owner.Creates.same
    {other : Owner}
    (hCreates : other.Creates event)
    (hValue : event.pthreadValue = owner.value)
    (hTime : event.timestampNs = some owner.createNs) :
    other.value = owner.value ∧
      other.createNs = owner.createNs := by
  rcases hCreates with ⟨-, -, hOtherValue, hOtherTime⟩
  refine ⟨hOtherValue.symm.trans hValue, ?_⟩
  exact Option.some.inj (hOtherTime.symm.trans hTime)

/- A record for an owner whose time of creation has come. -/
theorem KeepsOwners.newOwner
    (hKeeps : KeepsOwners owners events state)
    (hOwner : owner ∈ owners)
    (hValued : owner.value ≠ "")
    (hHas : owner.Has record.holding)
    (hFresh : Owned owners record.holding)
    (hLast :
      ∀ earlier ∈ events, ∀ time,
        earlier.timestampNs = some time →
          time ≤ owner.createNs)
    (hValue : event.pthreadValue = owner.value)
    (hTime : event.timestampNs = some owner.createNs)
    (hReports :
      ∀ (release : Release) value,
        ¬ release.Reports value event)
    (index : Nat) :
    KeepsOwners owners (events ++ [event])
      { state.newRecord record with
        byCreate :=
          (state.newRecord record).byCreate.insert
            (owner.value, owner.createNs) index } := by
  have hRecord : record.pthreadValue = owner.value := hHas.1
  have hNonempty : record.pthreadValue ≠ "" := by
    simpa [hRecord] using hValued
  have hHoldings := @holdings_newRecord state record
  have hNew := getElem?_holdings_newRecord state record
  refine
    { listed := ?_
      ordered :=
        hKeeps.ordered_newRecord hHas hNonempty hLast
      found := ?_
      known := ?_
      shown := ?_
      owned := ?_ }
  · intro value k hK
    rcases (mem_byPthread_newRecord hNonempty).mp hK with
      hOld | ⟨hIs, hLength⟩
    · rcases hKeeps.listed value k hOld with
        ⟨other, hOther, holding, hGet, hOtherValue, hOtherHas,
          earlier, hEarlier, hEarlierTime⟩
      refine ⟨other, hOther, holding, ?_, hOtherValue,
        hOtherHas, earlier, List.mem_append_left _ hEarlier,
        hEarlierTime⟩
      change (state.newRecord record).holdings[k]? = _
      rw [hHoldings]
      exact getElem?_append_of_some hGet _
    · subst hLength
      refine ⟨owner, hOwner, record.holding, hNew, ?_, hHas,
        event, by simp, hTime⟩
      exact hRecord.symm.trans hIs.symm
  · intro other hOther line hLine hCreates
    rcases List.mem_append.mp hLine with hOld | hIs
    · rcases hKeeps.found other hOther line hOld hCreates with
        ⟨k, hK, hAt⟩
      refine ⟨k,
        (mem_byPthread_newRecord hNonempty).mpr (Or.inl hK), ?_⟩
      exact (hKeeps.createdAt_newRecord record hK).trans hAt
    · cases List.mem_singleton.mp hIs
      rcases hCreates.same hValue hTime with
        ⟨hSame, hSameTime⟩
      refine ⟨state.records.length,
        (mem_byPthread_newRecord hNonempty).mpr
          (Or.inr ⟨?_, rfl⟩), ?_⟩
      · exact hSame.trans hRecord.symm
      · exact (hHas.createdAt_eq hNew).trans hSameTime.symm
  · intro other hOther line hLine hCreates
    rw [Std.TreeMap.mem_insert]
    rcases List.mem_append.mp hLine with hOld | hIs
    · right
      exact hKeeps.known other hOther line hOld hCreates
    · left
      cases List.mem_singleton.mp hIs
      rcases hCreates.same hValue hTime with
        ⟨hSame, hSameTime⟩
      simp [hSame, hSameTime]
  · intro other hOther release hRelease line hLine hIs
    rcases List.mem_append.mp hLine with hOld | hNewLine
    · rcases hKeeps.shown other hOther release hRelease line
        hOld hIs with ⟨holding, hHolding, hShown⟩
      refine ⟨holding, ?_, hShown⟩
      change holding ∈ (state.newRecord record).holdings
      simp [hHoldings, hHolding]
    · cases List.mem_singleton.mp hNewLine
      exact absurd hIs (hReports release other.value)
  · intro holding hHolding
    change holding ∈ (state.newRecord record).holdings
      at hHolding
    rw [hHoldings] at hHolding
    rcases List.mem_append.mp hHolding with hOld | hIs
    · exact hKeeps.owned holding hOld
    · cases List.mem_singleton.mp hIs
      exact hFresh

theorem owned_fresh
    (owners : List Owner)
    {holding : Holding}
    (hJoined : holding.joinedNs = none)
    (hJoinedBy : holding.joinedBy = none)
    (hDetached : holding.detachedBy = none) :
    Owned owners holding := by
  constructor
  · intro hSome
    simp [hJoined, hJoinedBy] at hSome
  · intro hSome
    exact absurd hDetached hSome

theorem KeepsOwners.creates
    (hKeeps : KeepsOwners owners events state)
    (hApart : Apart owners)
    (bounds : CycleBounds)
    (hOwner : owner ∈ owners)
    (hCreates : owner.Creates event)
    (hLast :
      ∀ earlier ∈ events, ∀ time,
        earlier.timestampNs = some time →
          time ≤ owner.createNs) :
    ∃ state',
      state.step bounds event = .ok state' ∧
        KeepsOwners owners (events ++ [event]) state' := by
  have hValued := hApart.valued owner hOwner
  rcases hCreates with ⟨hKind, hSucceeds, hValue, hTime⟩
  unfold createSucceeds at hSucceeds
  unfold Lifecycle.step
  rw [hKind]
  refine ⟨_, rfl, ?_⟩
  unfold Lifecycle.pthreadCreate
  rw [if_pos hSucceeds]
  simp only [hValue, hTime]
  apply hKeeps.newOwner hOwner hValued
  · exact ⟨rfl, rfl⟩
  · exact owned_fresh owners rfl rfl rfl
  · exact hLast
  · exact hValue
  · exact hTime
  · intro release value hReports
    rcases hReports.kind_cases with hJoin | hDetach
    · simp [hKind] at hJoin
    · simp [hKind] at hDetach

/-
  A thread that starts has its record, unless its first line
  has the very time of its creation and comes first.
-/
theorem KeepsOwners.starts
    (hKeeps : KeepsOwners owners events state)
    (hApart : Apart owners)
    (bounds : CycleBounds)
    (hOwner : owner ∈ owners)
    (hStarts : owner.Starts event)
    (hLast :
      ∀ earlier ∈ events, ∀ time,
        earlier.timestampNs = some time →
          event.timestampNs.any (fun now => time ≤ now) = true)
    (hCreated :
      event.timestampNs = some owner.createNs ∨
        ∃ earlier ∈ events, owner.Creates earlier) :
    ∃ state',
      state.step bounds event = .ok state' ∧
        KeepsOwners owners (events ++ [event]) state' := by
  have hPositive := hApart.timed owner hOwner
  rcases hStarts with ⟨hKind, hTid, hValue, hCreate, hTime⟩
  rcases Option.isSome_iff_exists.mp hTid with ⟨tid, hIs⟩
  have hCreates : ∀ other : Owner, ¬ other.Creates event := by
    intro other hOther
    simp [Owner.Creates, hKind] at hOther
  have hReports :
      ∀ (release : Release) value,
        ¬ release.Reports value event := by
    intro release value hIsReport
    rcases hIsReport.kind_cases with hJoin | hDetach
    · simp [hKind] at hJoin
    · simp [hKind] at hDetach
  -- Whether or not a record is made, the table has the thread.
  have hStarted :
      KeepsOwners owners (events ++ [event])
        (state.startedRecord bounds event).2 := by
    unfold Lifecycle.startedRecord
    simp only [hValue, hCreate, Option.getD_some]
    split
    · apply hKeeps.snoc hCreates
      intro other _ release _ hIsReport
      exact absurd hIsReport (hReports release other.value)
    next hNone =>
      have hNow : event.timestampNs = some owner.createNs := by
        rcases hCreated with hNow | ⟨earlier, hEarlier, hIs⟩
        · exact hNow
        · have hKnown :=
            hKeeps.known owner hOwner earlier hEarlier hIs
          rw [Std.TreeMap.mem_iff_isSome_getElem?, hNone]
            at hKnown
          cases hKnown
      have hTruthy :
          truthy (some owner.createNs) =
            some owner.createNs := by
        simp [truthy, Option.filter, hPositive.ne']
      simp only [hTruthy, Option.some_or]
      apply hKeeps.newOwner hOwner (hApart.valued owner hOwner)
      · exact ⟨rfl, rfl⟩
      · exact owned_fresh owners rfl rfl rfl
      · intro earlier hEarlier time hEarlierTime
        have hLe := hLast earlier hEarlier time hEarlierTime
        simpa [hNow] using hLe
      · exact hValue
      · exact hNow
      · exact hReports
  unfold Lifecycle.step
  rw [hKind]
  unfold Lifecycle.threadStart
  rw [hIs]
  refine ⟨_, rfl, ?_⟩
  apply hStarted.same
  · apply holdings_update_same
    intro record
    rfl
  · rfl
  · rfl

end Steps

------------------------------------------------------------
-- Lines That Release A Thread
------------------------------------------------------------

/- What the line of a release changes in a record. -/
def Release.mark
    (release : Release)
    (holding : Holding) : Holding :=
  match release.kind with
  | .join =>
      { holding with
        joinedNs := release.stampNs
        joinedBy := some release.callerTid }
  | .detach =>
      { holding with detachedBy := some release.callerTid }

section Marks

variable {owners : List Owner}
variable {owner other : Owner}
variable {release : Release}
variable {holding : Holding}

theorem has_mark_iff :
    owner.Has (release.mark holding) ↔ owner.Has holding := by
  unfold Release.mark
  split <;> exact Iff.rfl

theorem shownIn_mark :
    release.ShownIn (release.mark holding) := by
  unfold Release.ShownIn Release.mark
  cases hKind : release.kind with
  | join => exact ⟨rfl, rfl⟩
  | detach => rfl

theorem createdAt_modify
    (holdings : List Holding)
    (index k : Nat) :
    createdAt (holdings.modify index release.mark) k =
      createdAt holdings k := by
  unfold createdAt
  rw [List.getElem?_modify]
  cases hGet : holdings[k]? with
  | none => simp
  | some found =>
      by_cases hIndex : index = k
      · simp only [hIndex, if_true]
        unfold Release.mark
        split <;> rfl
      · simp [hIndex]

/- A record that its owner's release marks is still owned. -/
theorem Owned.mark
    (hOwned : Owned owners holding)
    (hOwner : owner ∈ owners)
    (hRelease : owner.release = some release)
    (hHas : owner.Has holding) :
    Owned owners (release.mark holding) := by
  have hMarked : owner.Has (release.mark holding) :=
    has_mark_iff.mpr hHas
  have hShown := @shownIn_mark release holding
  cases hKind : release.kind with
  | join =>
      constructor
      · intro _
        exact ⟨owner, hOwner, release, hRelease, hKind, hMarked,
          hShown⟩
      · intro hSome
        simp only [Release.mark, hKind] at hSome ⊢
        rcases hOwned.detached hSome with
          ⟨other, hOther, earlier, hEarlier, hIs, hOtherHas,
            hOtherShown⟩
        refine ⟨other, hOther, earlier, hEarlier, hIs,
          hOtherHas, ?_⟩
        simpa [Release.ShownIn, hIs] using hOtherShown
  | detach =>
      constructor
      · intro hSome
        simp only [Release.mark, hKind] at hSome ⊢
        rcases hOwned.joined hSome with
          ⟨other, hOther, earlier, hEarlier, hIs, hOtherHas,
            hOtherShown⟩
        refine ⟨other, hOther, earlier, hEarlier, hIs,
          hOtherHas, ?_⟩
        simpa [Release.ShownIn, hIs] using hOtherShown
      · intro _
        exact ⟨owner, hOwner, release, hRelease, hKind, hMarked,
          hShown⟩

end Marks

section Ends

variable {owners : List Owner}
variable {events : List Event}
variable {state : Lifecycle}
variable {event : Event}
variable {owner : Owner}
variable {release : Release}

/- How the line of a release is read. -/
theorem Release.Reports.step
    {value : String}
    (hReports : release.Reports value event)
    (bounds : CycleBounds)
    (state : Lifecycle) :
    ∃ change : Record → Record,
      state.step bounds event =
          .ok
            (state.updateLast (state.byPthread.getD value [])
              (Lifecycle.createdBy event) change) ∧
        ∀ record,
          (change record).holding =
            release.mark record.holding := by
  rcases hReports with
    ⟨hKind, hResult, hValue, hCaller, -, hTime⟩
  unfold Lifecycle.step
  rw [hKind]
  cases hIs : release.kind with
  | join =>
      refine ⟨fun record =>
        { record with
          joinedNs := event.timestampNs
          joinedBy := event.callerTid }, ?_, ?_⟩
      · simp [ReleaseKind.eventKind, Lifecycle.pthreadJoinEnd,
          hResult, hValue]
      · intro record
        simp [Record.holding, Release.mark, hIs, hCaller, hTime]
  | detach =>
      refine ⟨fun record =>
        { record with detachedBy := event.callerTid }, ?_, ?_⟩
      · simp [ReleaseKind.eventKind, Lifecycle.pthreadDetach,
          hResult, hValue]
      · intro record
        simp [Record.holding, Release.mark, hIs, hCaller]

/- The last record of the value is one of the owner. -/
theorem KeepsOwners.lastWhere_released
    (hKeeps : KeepsOwners owners events state)
    (hApart : Apart owners)
    (hOwner : owner ∈ owners)
    {time : Int}
    (hTime : owner.releasedNs = some time)
    (hEvent : event.timestampNs = some time)
    (hLast :
      ∀ earlier ∈ events, ∀ before,
        earlier.timestampNs = some before → before ≤ time)
    (hCreated : ∃ earlier ∈ events, owner.Creates earlier) :
    ∃ index holding,
      state.lastWhere (state.byPthread.getD owner.value [])
          (Lifecycle.createdBy event) = some index ∧
        state.holdings[index]? = some holding ∧
        owner.Has holding := by
  rcases hCreated with ⟨create, hCreate, hCreates⟩
  rcases hKeeps.found owner hOwner create hCreate hCreates with
    ⟨own, hOwn, hOwnTime⟩
  have hAccepts :
      ∀ index ∈ state.byPthread.getD owner.value [],
        ((state.records[index]?.map
          (Lifecycle.createdBy event)).getD false) = true := by
    intro index hIndex
    rcases hKeeps.listed owner.value index hIndex with
      ⟨other, -, holding, hGet, -, hHas, earlier, hEarlier,
        hEarlierTime⟩
    have hLe := hLast earlier hEarlier _ hEarlierTime
    simp only [Lifecycle.holdings, List.getElem?_map,
      Option.map_eq_some_iff] at hGet
    rcases hGet with ⟨record, hRecord, hIs⟩
    have hCreatedNs : record.createdNs = some other.createNs := by
      have hSome := hHas.2
      rw [← hIs] at hSome
      exact hSome
    simp [hRecord, Lifecycle.createdBy, hCreatedNs, hEvent, hLe]
  have hFilter := List.filter_eq_self.mpr hAccepts
  have hNe := List.ne_nil_of_mem hOwn
  have hMember := List.getLast_mem hNe
  rcases hKeeps.listed owner.value _ hMember with
    ⟨other, hOther, holding, hGet, hValue, hHas, earlier,
      hEarlier, hEarlierTime⟩
  refine ⟨_, holding, ?_, hGet, ?_⟩
  · unfold Lifecycle.lastWhere
    rw [hFilter]
    exact List.getLast?_eq_some_getLast hNe
  · -- No owner of the value is created in between.
    have hUpper :=
      hApart.le_of_released hOwner hOther hValue.symm hTime
        (hLast earlier hEarlier _ hEarlierTime)
    have hLower :=
      (hKeeps.ordered
        owner.value).rel_getLast_of_rel_getLast_getLast hOwn
          le_rfl
    rw [hOwnTime, hHas.createdAt_eq hGet] at hLower
    refine ⟨hHas.1.trans hValue, ?_⟩
    rw [hHas.2, le_antisymm hUpper hLower]

/- One record is marked; the others stay as they are. -/
theorem getElem?_mark_cases
    {holdings : List Holding}
    {index k : Nat}
    {found : Holding}
    (hFound : (holdings.modify index release.mark)[k]? =
      some found) :
    (index ≠ k ∧ holdings[k]? = some found) ∨
      (index = k ∧
        ∃ holding,
          holdings[index]? = some holding ∧
            found = release.mark holding) := by
  rw [List.getElem?_modify] at hFound
  by_cases hIndex : index = k
  · right
    refine ⟨hIndex, ?_⟩
    simp only [hIndex, if_true] at hFound
    rcases Option.map_eq_some_iff.mp hFound with
      ⟨holding, hGet, hIs⟩
    rw [hIndex]
    exact ⟨holding, hGet, hIs.symm⟩
  · left
    refine ⟨hIndex, ?_⟩
    simpa [hIndex] using hFound

theorem KeepsOwners.mark
    (hKeeps : KeepsOwners owners events state)
    (hApart : Apart owners)
    (hOwner : owner ∈ owners)
    (hRelease : owner.release = some release)
    {index : Nat}
    {marked : Holding}
    (hGet : state.holdings[index]? = some marked)
    (hHas : owner.Has marked)
    {state' : Lifecycle}
    (hHoldings :
      state'.holdings =
        state.holdings.modify index release.mark)
    (hPthread : state'.byPthread = state.byPthread)
    (hCreate : state'.byCreate = state.byCreate) :
    KeepsOwners owners events state' := by
  have hKept :
      ∀ (k : Nat) (holding : Holding),
        state.holdings[k]? = some holding →
        ∃ next,
          state'.holdings[k]? = some next ∧
            (∀ other : Owner, other.Has holding →
              other.Has next) := by
    intro k holding hHolding
    rw [hHoldings, List.getElem?_modify, hHolding]
    by_cases hIndex : index = k
    · refine ⟨release.mark holding, by simp [hIndex], ?_⟩
      intro other hOther
      exact has_mark_iff.mpr hOther
    · exact ⟨holding, by simp [hIndex], fun _ hOther => hOther⟩
  refine
    { listed := ?_
      ordered := ?_
      found := ?_
      known := ?_
      shown := ?_
      owned := ?_ }
  · intro value k hK
    rw [hPthread] at hK
    rcases hKeeps.listed value k hK with
      ⟨other, hOther, holding, hHolding, hValue, hOtherHas,
        hTimed⟩
    rcases hKept k holding hHolding with
      ⟨next, hNext, hStill⟩
    exact ⟨other, hOther, next, hNext, hValue,
      hStill other hOtherHas, hTimed⟩
  · simpa [hPthread, hHoldings, createdAt_modify]
      using hKeeps.ordered
  · simpa [hPthread, hHoldings, createdAt_modify]
      using hKeeps.found
  · simpa [hCreate] using hKeeps.known
  · intro other hOther earlier hEarlier line hLine hIs
    rcases hKeeps.shown other hOther earlier hEarlier line hLine
      hIs with ⟨holding, hHolding, hOtherHas, hShown⟩
    rcases List.mem_iff_getElem?.mp hHolding with ⟨k, hK⟩
    by_cases hIndex : index = k
    · -- A record that shows a release shows its owner's.
      subst hIndex
      rw [hGet] at hK
      cases hK
      cases hApart.eq_of_has hOther hOwner hOtherHas hHas
      rw [hRelease] at hEarlier
      cases hEarlier
      refine ⟨release.mark marked, ?_, has_mark_iff.mpr hHas,
        shownIn_mark⟩
      apply List.mem_of_getElem? (i := index)
      simp [hHoldings, hGet]
    · refine ⟨holding, ?_, hOtherHas, hShown⟩
      apply List.mem_of_getElem? (i := k)
      simp [hHoldings, hIndex, hK]
  · intro holding hHolding
    rw [hHoldings] at hHolding
    rcases List.mem_iff_getElem?.mp hHolding with ⟨k, hK⟩
    rcases getElem?_mark_cases hK with
      ⟨-, hOld⟩ | ⟨-, found, hFound, hIs⟩
    · exact hKeeps.owned holding (List.mem_of_getElem? hOld)
    · rw [hGet] at hFound
      cases hFound
      rw [hIs]
      exact (hKeeps.owned marked
        (List.mem_of_getElem? hGet)).mark hOwner hRelease hHas

/- The line of a release marks a record of its owner. -/
theorem KeepsOwners.ends
    (hKeeps : KeepsOwners owners events state)
    (hApart : Apart owners)
    (bounds : CycleBounds)
    (hOwner : owner ∈ owners)
    (hRelease : owner.release = some release)
    (hReports : release.Reports owner.value event)
    (hLast :
      ∀ earlier ∈ events, ∀ time,
        earlier.timestampNs = some time →
          event.timestampNs.any (fun now => time ≤ now) = true)
    (hCreated : ∃ earlier ∈ events, owner.Creates earlier) :
    ∃ state',
      state.step bounds event = .ok state' ∧
        KeepsOwners owners (events ++ [event]) state' := by
  rcases hReports.step bounds state with
    ⟨change, hStep, hChange⟩
  have hStamp := hReports.2.2.2.2.1
  rcases Option.isSome_iff_exists.mp hStamp with ⟨time, hTime⟩
  have hEvent : event.timestampNs = some time :=
    hReports.2.2.2.2.2.trans hTime
  have hReleased : owner.releasedNs = some time := by
    simp [Owner.releasedNs, hRelease, hTime]
  have hBefore :
      ∀ earlier ∈ events, ∀ before,
        earlier.timestampNs = some before → before ≤ time := by
    intro earlier hEarlier before hIs
    simpa [hEvent] using hLast earlier hEarlier before hIs
  rcases hKeeps.lastWhere_released hApart hOwner hReleased
      hEvent hBefore hCreated with
    ⟨index, marked, hLastIs, hGet, hHas⟩
  have hNext :
      state.updateLast (state.byPthread.getD owner.value [])
          (Lifecycle.createdBy event) change =
        state.update index change := by
    simp [Lifecycle.updateLast, hLastIs]
  have hHoldings := @holdings_update state change _ hChange index
  rw [hNext] at hStep
  refine ⟨_, hStep, ?_⟩
  have hMarked :=
    hKeeps.mark hApart hOwner hRelease hGet hHas hHoldings rfl
      rfl
  apply hMarked.snoc
  · intro other hCreates
    rcases hReports.kind_cases with hJoin | hDetach
    · simp [Owner.Creates, hJoin] at hCreates
    · simp [Owner.Creates, hDetach] at hCreates
  · intro other hOther later hLater hLaterReports
    rcases hLaterReports with ⟨-, -, hValue, -, -, hLaterTime⟩
    have hOtherReleased : other.releasedNs = some time := by
      simp [Owner.releasedNs, hLater, ← hLaterTime, hEvent]
    cases hApart.eq_of_releasedNs hOther hOwner
      (hValue.symm.trans hReports.2.2.1) hOtherReleased
      hReleased
    rw [hRelease] at hLater
    cases hLater
    refine ⟨release.mark marked, ?_, has_mark_iff.mpr hHas,
      shownIn_mark⟩
    apply List.mem_of_getElem? (i := index)
    simp [hHoldings, hGet]

end Ends

------------------------------------------------------------
-- Sorted Traces
------------------------------------------------------------

section Traces

variable {owners : List Owner}
variable {events before after : List Event}
variable {event : Event}

def InOrder (events : List Event) : Prop :=
  events.Pairwise (fun earlier later =>
    earlier.timestampNs.getD 0 ≤ later.timestampNs.getD 0)

/- Every line of a trace has its time. -/
theorem Lines.timed
    (hLines : Lines owners events)
    (hEvent : event ∈ events) :
    ∃ time, event.timestampNs = some time := by
  apply Option.isSome_iff_exists.mp
  rcases hLines.meant event hEvent with
    hBystander | ⟨owner, -, hCreates | hStarts | hEnds⟩
  · exact hBystander.2.2.2.2
  · simp [hCreates.2.2.2]
  · rcases hStarts with ⟨-, -, -, -, hTime⟩
    cases hIs : event.timestampNs with
    | none => simp [hIs] at hTime
    | some time => rfl
  · rcases hEnds with ⟨release, -, -, hReports⟩
    rw [hReports.2.2.2.2.2]
    exact hReports.2.2.2.2.1

theorem InOrder.before_le
    (hOrder : InOrder (before ++ event :: after))
    {earlier : Event}
    (hEarlier : earlier ∈ before)
    {time now : Int}
    (hTime : earlier.timestampNs = some time)
    (hNow : event.timestampNs = some now) :
    time ≤ now := by
  have hLe :=
    (List.pairwise_append.mp hOrder).2.2 earlier hEarlier event
      (by simp)
  simpa [hTime, hNow] using hLe

/- What is created before a line is read before it. -/
theorem Lines.created_before
    (hLines : Lines owners (before ++ event :: after))
    (hOrder : InOrder (before ++ event :: after))
    {owner : Owner}
    (hOwner : owner ∈ owners)
    {now : Int}
    (hNow : event.timestampNs = some now)
    (hLt : owner.createNs < now) :
    ∃ earlier ∈ before, owner.Creates earlier := by
  rcases hLines.created owner hOwner with
    ⟨create, hCreate, hCreates⟩
  have hTime := hCreates.2.2.2
  rcases List.mem_append.mp hCreate with hBefore | hLater
  · exact ⟨create, hBefore, hCreates⟩
  · rcases List.mem_cons.mp hLater with hIs | hAfter
    · subst hIs
      rw [hTime] at hNow
      cases hNow
      exact absurd hLt (lt_irrefl _)
    · have hRest := (List.pairwise_append.mp hOrder).2.1
      have hLe :=
        (List.pairwise_cons.mp hRest).1 create hAfter
      simp only [hTime, hNow, Option.getD_some] at hLe
      omega

/- One line of a sorted trace. -/
theorem KeepsOwners.step
    {state : Lifecycle}
    (hKeeps : KeepsOwners owners before state)
    (hLines : Lines owners (before ++ event :: after))
    (hApart : Apart owners)
    (hOrder : InOrder (before ++ event :: after))
    (bounds : CycleBounds) :
    ∃ state',
      state.step bounds event = .ok state' ∧
        KeepsOwners owners (before ++ [event]) state' := by
  have hMember : event ∈ before ++ event :: after := by simp
  rcases hLines.timed hMember with ⟨now, hNow⟩
  have hLast :
      ∀ earlier ∈ before, ∀ time,
        earlier.timestampNs = some time →
          event.timestampNs.any (fun now => time ≤ now) =
            true := by
    intro earlier hEarlier time hTime
    simpa [hNow] using hOrder.before_le hEarlier hTime hNow
  rcases hLines.meant event hMember with
    hBystander | ⟨owner, hOwner, hCreates | hStarts | hEnds⟩
  · rcases hBystander.step bounds state with
      ⟨state', hStep, hHoldings, hPthread, hCreate⟩
    refine ⟨state', hStep, ?_⟩
    apply (hKeeps.same hHoldings hPthread hCreate).snoc
    · exact hBystander.not_creates
    · intro other _ release _ hReports
      exact absurd hReports
        (hBystander.not_reports release other.value)
  · apply hKeeps.creates hApart bounds hOwner hCreates
    intro earlier hEarlier time hTime
    exact hOrder.before_le hEarlier hTime hCreates.2.2.2
  · apply hKeeps.starts hApart bounds hOwner hStarts hLast
    have hLe : owner.createNs ≤ now := by
      simpa [hNow] using hStarts.2.2.2.2
    rcases hLe.eq_or_lt with hEq | hLt
    · left
      rw [hNow, hEq]
    · right
      exact hLines.created_before hOrder hOwner hNow hLt
  · rcases hEnds with ⟨release, hRelease, -, hReports⟩
    apply hKeeps.ends hApart bounds hOwner hRelease hReports
      hLast
    apply hLines.created_before hOrder hOwner hNow
    apply hApart.released owner hOwner now
    simp [Owner.releasedNs, hRelease, ← hReports.2.2.2.2.2,
      hNow]

theorem Lines.keeps
    (hLines : Lines owners events)
    (hApart : Apart owners)
    (hOrder : InOrder events)
    (bounds : CycleBounds)
    {state : Lifecycle}
    (hStart : KeepsOwners owners [] state)
    (hSplit : events = before ++ after) :
    ∃ state',
      before.foldlM (Lifecycle.step bounds) state =
          .ok state' ∧
        KeepsOwners owners before state' := by
  subst hSplit
  induction before using List.reverseRecOn generalizing after with
  | nil => exact ⟨state, rfl, hStart⟩
  | append_singleton before event ih =>
      rw [List.append_assoc, List.singleton_append]
        at hLines hOrder
      rcases ih hLines hOrder with ⟨middle, hMiddle, hKeeps⟩
      rcases hKeeps.step hLines hApart hOrder bounds with
        ⟨state', hStep, hNext⟩
      refine ⟨state', ?_, hNext⟩
      exact foldlM_concat_eq_ok.mpr ⟨middle, hMiddle, hStep⟩

/- Only a bystander marks a phase. -/
theorem Lines.bystander_of_phaseMarker
    (hLines : Lines owners events)
    (hEvent : event ∈ events)
    (hKind : event.kind = .phaseMarker) :
    Bystander event := by
  rcases hLines.meant event hEvent with
    hBystander | ⟨owner, -, hCreates | hStarts | hEnds⟩
  · exact hBystander
  · simp [Owner.Creates, hKind] at hCreates
  · simp [Owner.Starts, hKind] at hStarts
  · rcases hEnds with ⟨release, -, -, hReports⟩
    rcases hReports.kind_cases with hJoin | hDetach
    · simp [hKind] at hJoin
    · simp [hKind] at hDetach

theorem Lines.startMain
    (hLines : Lines owners events) :
    ∃ state,
      Lifecycle.startMain {} events = .ok state ∧
        KeepsOwners owners [] state := by
  have hEmpty :
      ∀ records : List Record,
        (∀ record ∈ records,
          Owned owners record.holding) →
          ∀ byTid,
            KeepsOwners owners []
              { records := records, byTid := byTid } := by
    intro records hOwned byTid
    refine
      { listed := by simp
        ordered := by simp
        found := by simp
        known := by simp
        shown := by simp
        owned := ?_ }
    intro holding hHolding
    rcases List.mem_map.mp hHolding with ⟨record, hRecord, hIs⟩
    rw [← hIs]
    exact hOwned record hRecord
  unfold Lifecycle.startMain
  split
  · exact ⟨_, rfl, hEmpty [] (by simp) _⟩
  next main hFind =>
    have hMember := List.mem_of_find?_eq_some hFind
    have hIs := List.find?_some hFind
    simp only [decide_eq_true_eq] at hIs
    have hBystander :=
      hLines.bystander_of_phaseMarker hMember hIs.1
    rcases hBystander with ⟨-, -, -, hTid, hTime⟩
    rcases Option.isSome_iff_exists.mp (hTid (Or.inr hIs.1))
      with ⟨tid, hTidIs⟩
    rcases Option.isSome_iff_exists.mp hTime with
      ⟨time, hTimeIs⟩
    simp only [hTidIs, hTimeIs, requireKey]
    refine ⟨_, rfl, ?_⟩
    apply hEmpty
    intro record hRecord
    cases List.mem_singleton.mp hRecord
    exact owned_fresh owners rfl rfl rfl

/-
  In a sorted trace of owners that are apart, the records show
  every release with the thread that was released.
-/
theorem lifecycleRecords_attributes
    (hLines : Lines owners events)
    (hApart : Apart owners)
    (hOrder : InOrder events)
    (bounds : CycleBounds) :
    ∃ records table,
      lifecycleRecords events bounds = .ok (records, table) ∧
        Attributes owners (records.map Record.holding) := by
  rcases hLines.startMain with ⟨first, hFirst, hStart⟩
  rcases hLines.keeps hApart hOrder bounds hStart
      (List.append_nil events).symm with
    ⟨final, hFinal, hKeeps⟩
  refine ⟨_, _, lifecycleRecords_eq hFirst hFinal, ?_⟩
  rw [List.map_map]
  constructor
  · intro owner hOwner release hRelease hWritten
    rcases hLines.reported owner hOwner release hRelease
      hWritten with ⟨event, hEvent, hReports⟩
    exact hKeeps.shown owner hOwner release hRelease event
      hEvent hReports
  · exact hKeeps.owned

end Traces

end Trace

end RsCamera
