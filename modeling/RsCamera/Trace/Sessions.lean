import RsCamera.Lib.Transition
import RsCamera.Trace.Releases

/-
  The wrappers of `pthread_create`, `pthread_join` and
  `pthread_detach` as interleaved steps
  (`trace_pthreads.c`).

  A wrapper reads the clock, calls the library and writes a
  line, and other threads may run between any two of these.
  The creation is stamped before the call and a join or a
  detach after it.  The library gives a `pthread_t` again as
  soon as its owner is joined, or detached and gone.

  So a creation that is stamped early and carried out late can
  get the value of a thread whose release is stamped later, and
  the parser then takes the new thread for the one that was
  released.  `InTime` says that no step does that.

  Key definitions include:
    * `Session`, `SessionAction`, `sessions`
    * `InTime`, `AttributesReleases`
    * `Session.Sound`

  Key theorems include:
    * `Session.Sound.step`
    * `sessions_attribute_releases`
-/

------------------------------------------------------------
-- Sessions
------------------------------------------------------------

namespace RsCamera

namespace Trace

section Decisions

variable (owner : Owner)
variable (release : Release)
variable (value : String)
variable (event : Event)

instance : Decidable (owner.Creates event) := by
  unfold Owner.Creates
  infer_instance

instance : Decidable (owner.Starts event) := by
  unfold Owner.Starts
  infer_instance

instance : Decidable (release.Reports value event) := by
  unfold Release.Reports
  infer_instance

instance : Decidable (Bystander event) := by
  unfold Bystander
  infer_instance

end Decisions

/- Whether the library may give the value again. -/
def Owner.freed (owner : Owner) : Bool :=
  match owner.release with
  | none => false
  | some release =>
      match release.kind with
      | .join => true
      | .detach => owner.exited

structure Session where
  clock : Int
  -- The stamps of creations that are not carried out yet.
  stamps : List Int := []
  owners : List Owner := []
  file : List Event := []
deriving Repr, DecidableEq

inductive SessionAction
| tick (elapsed : Nat)
-- A creation: its stamp, the library, and the line.
| stampCreate
| create (stamp : Int) (value : String)
| refuse (stamp : Int)
| writeCreate (index : Nat) (event : Event)
-- The thread itself.
| start (index : Nat) (event : Event)
| exit (index : Nat)
-- A join or a detach: the library, its stamp, and the line.
| release (index : Nat) (kind : ReleaseKind) (callerTid : Int)
| stampRelease (index : Nat)
| writeRelease (index : Nat) (event : Event)
-- Any other line.
| write (event : Event)
deriving Repr, DecidableEq

namespace Session

/- Change one owner, if there is one to change. -/
def setOwner
    (session : Session)
    (index : Nat)
    (change : Owner → Option Owner)
    (lines : List Event) : Option Session := do
  let owner ← session.owners[index]?
  let next ← change owner
  some
    { session with
      owners := session.owners.set index next
      file := session.file ++ lines }

def step
    (session : Session) : SessionAction → Option Session
| .tick elapsed =>
    some { session with clock := session.clock + elapsed }
| .stampCreate =>
    some
      { session with
        stamps := session.stamps ++ [session.clock] }
| .create stamp value =>
    if stamp ∈ session.stamps ∧ value ≠ "" ∧
        ∀ owner ∈ session.owners,
          owner.value = value → owner.freed = true then
      some
        { session with
          stamps := session.stamps.erase stamp
          owners :=
            session.owners ++
              [{ value := value, createNs := stamp }] }
    else
      none
| .refuse stamp =>
    if stamp ∈ session.stamps then
      some
        { session with stamps := session.stamps.erase stamp }
    else
      none
| .writeCreate index event =>
    session.setOwner index
      (fun owner =>
        if owner.written = false ∧ owner.Creates event then
          some { owner with written := true }
        else
          none)
      [event]
| .start index event =>
    session.setOwner index
      (fun owner =>
        if owner.Starts event ∧
            event.timestampNs.any (fun time =>
              time ≤ session.clock) = true then
          some owner
        else
          none)
      [event]
| .exit index =>
    session.setOwner index
      (fun owner => some { owner with exited := true })
      []
| .release index kind callerTid =>
    session.setOwner index
      (fun owner =>
        if owner.release = none ∧
            (kind = .join → owner.exited = true) then
          some
            { owner with
              release :=
                some { kind := kind, callerTid := callerTid } }
        else
          none)
      []
| .stampRelease index =>
    session.setOwner index
      (fun owner =>
        match owner.release with
        | none => none
        | some release =>
            if release.stampNs = none then
              some
                { owner with
                  release :=
                    some
                      { release with
                        stampNs := some session.clock } }
            else
              none)
      []
| .writeRelease index event =>
    session.setOwner index
      (fun owner =>
        match owner.release with
        | none => none
        | some release =>
            if release.written = false ∧
                release.Reports owner.value event then
              some
                { owner with
                  release :=
                    some { release with written := true } }
            else
              none)
      [event]
| .write event =>
    if Bystander event then
      some { session with file := session.file ++ [event] }
    else
      none

end Session

def sessions : TransitionSystem Session SessionAction where
  step := Session.step

/-
  A creation that gets a used value was stamped after every
  release of a former owner, and a release is stamped after
  the creation of its thread.
-/
def InTime
    (session : Session) : SessionAction → Prop
| .create stamp value =>
    ∀ owner ∈ session.owners, owner.value = value →
      ∃ time, owner.releasedNs = some time ∧ time < stamp
| .stampRelease index =>
    ∀ owner, session.owners[index]? = some owner →
      owner.createNs < session.clock
| _ => True

instance
    (session : Session) :
    DecidablePred (InTime session)
| .create stamp value =>
    decidable_of_iff
      (∀ owner ∈ session.owners, owner.value = value →
        owner.releasedNs.any (fun time => time < stamp) =
          true)
      (by simp [InTime, Option.any_eq_true])
| .stampRelease index =>
    decidable_of_iff
      (session.owners[index]?.all (fun owner =>
        owner.createNs < session.clock) = true)
      (by simp [InTime, Option.all_eq_true])
| .tick _ => isTrue trivial
| .stampCreate => isTrue trivial
| .refuse _ => isTrue trivial
| .writeCreate _ _ => isTrue trivial
| .start _ _ => isTrue trivial
| .exit _ => isTrue trivial
| .release _ _ _ => isTrue trivial
| .writeRelease _ _ => isTrue trivial
| .write _ => isTrue trivial

/- The sorted file attributes every release to its thread. -/
def AttributesReleases
    (session : Session)
    (bounds : CycleBounds) : Prop :=
  ∃ records table,
    lifecycleRecords (sortEvents session.file) bounds =
        .ok (records, table) ∧
      Attributes session.owners (records.map Record.holding)

------------------------------------------------------------
-- Owners Stay Apart
------------------------------------------------------------

section Owners

variable {owners : List Owner}
variable {owner next : Owner}
variable {index : Nat}

/- An owner that goes on as the same thread. -/
structure Owner.Continues
    (owner next : Owner) : Prop where
  value : next.value = owner.value
  createNs : next.createNs = owner.createNs
  releasedNs :
    ∀ time, owner.releasedNs = some time →
      next.releasedNs = some time
  ends : ∀ event, owner.Ends event → next.Ends event

theorem Owner.Continues.creates_iff
    (hContinues : owner.Continues next)
    (event : Event) :
    next.Creates event ↔ owner.Creates event := by
  simp [Owner.Creates, hContinues.value, hContinues.createNs]

theorem Owner.Continues.starts_iff
    (hContinues : owner.Continues next)
    (event : Event) :
    next.Starts event ↔ owner.Starts event := by
  simp [Owner.Starts, hContinues.value, hContinues.createNs]

theorem Owner.Continues.refl
    (owner : Owner) :
    owner.Continues owner :=
  ⟨rfl, rfl, fun _ hTime => hTime, fun _ hEnds => hEnds⟩

/- Every owner of the new list continues an old one. -/
theorem continues_set
    (hOwner : owners[index]? = some owner)
    (hContinues : owner.Continues next)
    {k : Nat}
    (hOld : k < owners.length)
    (hNew : k < (owners.set index next).length) :
    owners[k].Continues (owners.set index next)[k] := by
  by_cases hIndex : index = k
  · subst hIndex
    rw [List.getElem?_eq_getElem hOld] at hOwner
    cases hOwner
    simpa using hContinues
  · simpa [List.getElem_set_ne hIndex] using
      Owner.Continues.refl owners[k]

theorem Apart.set
    (hApart : Apart owners)
    (hOwner : owners[index]? = some owner)
    (hContinues : owner.Continues next)
    (hReleased :
      ∀ time, next.releasedNs = some time →
        owner.createNs < time) :
    Apart (owners.set index next) := by
  have hMember := List.mem_of_getElem? hOwner
  refine
    { valued := ?_
      timed := ?_
      released := ?_
      reused := ?_ }
  · intro other hOther
    rcases List.mem_or_eq_of_mem_set hOther with hOld | hNew
    · exact hApart.valued other hOld
    · rw [hNew, hContinues.value]
      exact hApart.valued owner hMember
  · intro other hOther
    rcases List.mem_or_eq_of_mem_set hOther with hOld | hNew
    · exact hApart.timed other hOld
    · rw [hNew, hContinues.createNs]
      exact hApart.timed owner hMember
  · intro other hOther time hTime
    rcases List.mem_or_eq_of_mem_set hOther with hOld | hNew
    · exact hApart.released other hOld time hTime
    · subst hNew
      rw [hContinues.createNs]
      exact hReleased time hTime
  · rw [List.pairwise_iff_getElem]
    intro i j hI hJ hLt hValue
    have hOldI : i < owners.length := by simpa using hI
    have hOldJ : j < owners.length := by simpa using hJ
    have hEarlier := continues_set hOwner hContinues hOldI hI
    have hLater := continues_set hOwner hContinues hOldJ hJ
    rw [hEarlier.value, hLater.value] at hValue
    have hPairs := List.pairwise_iff_getElem.mp hApart.reused
    rcases hPairs i j hOldI hOldJ hLt hValue with
      ⟨time, hTime, hBefore⟩
    refine ⟨time, hEarlier.releasedNs time hTime, ?_⟩
    rw [hLater.createNs]
    exact hBefore

theorem Apart.append
    (hApart : Apart owners)
    {stamp : Int}
    {value : String}
    (hStamp : 0 < stamp)
    (hValue : value ≠ "")
    (hReused :
      ∀ owner ∈ owners, owner.value = value →
        ∃ time,
          owner.releasedNs = some time ∧ time < stamp) :
    Apart
      (owners ++ [{ value := value, createNs := stamp }]) := by
  refine
    { valued := ?_
      timed := ?_
      released := ?_
      reused := ?_ }
  · intro owner hOwner
    rcases List.mem_append.mp hOwner with hOld | hNew
    · exact hApart.valued owner hOld
    · cases List.mem_singleton.mp hNew
      exact hValue
  · intro owner hOwner
    rcases List.mem_append.mp hOwner with hOld | hNew
    · exact hApart.timed owner hOld
    · cases List.mem_singleton.mp hNew
      exact hStamp
  · intro owner hOwner time hTime
    rcases List.mem_append.mp hOwner with hOld | hNew
    · exact hApart.released owner hOld time hTime
    · cases List.mem_singleton.mp hNew
      simp [Owner.releasedNs] at hTime
  · rw [List.pairwise_append]
    refine ⟨hApart.reused, List.pairwise_singleton _ _, ?_⟩
    intro earlier hEarlier later hLater hSame
    cases List.mem_singleton.mp hLater
    exact hReused earlier hEarlier hSame

end Owners

------------------------------------------------------------
-- Sound Sessions
------------------------------------------------------------

/- The file has the lines of the owners. -/
structure Session.Sound (session : Session) : Prop where
  clock : 0 < session.clock
  stamps : ∀ stamp ∈ session.stamps, 0 < stamp
  apart : Apart session.owners
  meant :
    ∀ event ∈ session.file,
      Bystander event ∨
        ∃ owner ∈ session.owners,
          owner.Creates event ∨ owner.Starts event ∨
            owner.Ends event
  created :
    ∀ owner ∈ session.owners, owner.written = true →
      ∃ event ∈ session.file, owner.Creates event
  reported :
    ∀ owner ∈ session.owners, ∀ release,
      owner.release = some release → release.written = true →
        ∃ event ∈ session.file,
          release.Reports owner.value event

section Sound

variable {session session' : Session}
variable {owner next : Owner}
variable {index : Nat}
variable {lines : List Event}

theorem setOwner_eq_some
    {change : Owner → Option Owner}
    (hStep :
      session.setOwner index change lines = some session') :
    ∃ owner next,
      session.owners[index]? = some owner ∧
        change owner = some next ∧
        session' =
          { session with
            owners := session.owners.set index next
            file := session.file ++ lines } := by
  unfold Session.setOwner at hStep
  simp only [Option.bind_eq_bind, Option.bind_eq_some_iff,
    Option.some.injEq] at hStep
  rcases hStep with ⟨owner, hOwner, next, hNext, hIs⟩
  exact ⟨owner, next, hOwner, hNext, hIs.symm⟩

/- One owner goes on, and its lines are written. -/
theorem Session.Sound.setOwner
    (hSound : session.Sound)
    (hOwner : session.owners[index]? = some owner)
    (hContinues : owner.Continues next)
    (hReleased :
      ∀ time, next.releasedNs = some time →
        owner.createNs < time)
    (hLines :
      ∀ event ∈ lines,
        next.Creates event ∨ next.Starts event ∨
          next.Ends event)
    (hCreated :
      next.written = true →
        ∃ event ∈ session.file ++ lines, next.Creates event)
    (hReported :
      ∀ release, next.release = some release →
        release.written = true →
          ∃ event ∈ session.file ++ lines,
            release.Reports next.value event) :
    ({ session with
        owners := session.owners.set index next
        file := session.file ++ lines } : Session).Sound := by
  have hSet : next ∈ session.owners.set index next := by
    apply List.mem_of_getElem? (i := index)
    exact List.getElem?_set_self
      (List.getElem?_eq_some_iff.mp hOwner).1
  refine
    { clock := hSound.clock
      stamps := hSound.stamps
      apart := hSound.apart.set hOwner hContinues hReleased
      meant := ?_
      created := ?_
      reported := ?_ }
  · intro event hEvent
    rcases List.mem_append.mp hEvent with hOld | hNew
    · rcases hSound.meant event hOld with
        hBystander | ⟨other, hOther, hMeant⟩
      · exact Or.inl hBystander
      · right
        rcases List.getElem_of_mem hOther with ⟨k, hK, hIs⟩
        have hKSet :
            k < (session.owners.set index next).length := by
          simpa using hK
        have hGoes := continues_set hOwner hContinues hK hKSet
        rw [hIs] at hGoes
        refine ⟨_, List.getElem_mem hKSet, ?_⟩
        rcases hMeant with hCreates | hStarts | hEnds
        · exact Or.inl ((hGoes.creates_iff event).mpr hCreates)
        · exact Or.inr (Or.inl
            ((hGoes.starts_iff event).mpr hStarts))
        · exact Or.inr (Or.inr (hGoes.ends event hEnds))
    · exact Or.inr ⟨next, hSet, hLines event hNew⟩
  · intro other hOther hWritten
    rcases List.mem_or_eq_of_mem_set hOther with hOld | hNew
    · rcases hSound.created other hOld hWritten with
        ⟨event, hEvent, hCreates⟩
      exact ⟨event, List.mem_append_left _ hEvent, hCreates⟩
    · subst hNew
      exact hCreated hWritten
  · intro other hOther release hRelease hWritten
    rcases List.mem_or_eq_of_mem_set hOther with hOld | hNew
    · rcases hSound.reported other hOld release hRelease
        hWritten with ⟨event, hEvent, hReports⟩
      exact ⟨event, List.mem_append_left _ hEvent, hReports⟩
    · subst hNew
      exact hReported release hRelease hWritten

/- What holds of an owner of a sound session. -/
theorem Session.Sound.created_append
    (hSound : session.Sound)
    (hOwner : session.owners[index]? = some owner)
    (lines : List Event)
    (hWritten : owner.written = true) :
    ∃ event ∈ session.file ++ lines, owner.Creates event := by
  rcases hSound.created owner (List.mem_of_getElem? hOwner)
    hWritten with ⟨event, hEvent, hCreates⟩
  exact ⟨event, List.mem_append_left _ hEvent, hCreates⟩

theorem Session.Sound.reported_append
    (hSound : session.Sound)
    (hOwner : session.owners[index]? = some owner)
    (lines : List Event)
    {release : Release}
    (hRelease : owner.release = some release)
    (hWritten : release.written = true) :
    ∃ event ∈ session.file ++ lines,
      release.Reports owner.value event := by
  rcases hSound.reported owner (List.mem_of_getElem? hOwner)
    release hRelease hWritten with ⟨event, hEvent, hReports⟩
  exact ⟨event, List.mem_append_left _ hEvent, hReports⟩

/- A release is stamped before its line is written. -/
theorem Session.Sound.unwritten_of_unstamped
    (hSound : session.Sound)
    (hOwner : session.owners[index]? = some owner)
    {release : Release}
    (hRelease : owner.release = some release)
    (hStamp : release.stampNs = none) :
    release.written = false := by
  by_contra hWritten
  rcases hSound.reported owner (List.mem_of_getElem? hOwner)
    release hRelease (by simpa using hWritten) with
    ⟨event, -, hReports⟩
  have hStamped := hReports.2.2.2.2.1
  simp [hStamp] at hStamped

theorem Session.Sound.writeCreate
    (hSound : session.Sound)
    {event : Event}
    (hStep :
      session.step (.writeCreate index event) =
        some session') :
    session'.Sound := by
  rcases setOwner_eq_some hStep with
    ⟨owner, next, hOwner, hChange, hIs⟩
  rcases Option.ite_none_right_eq_some.mp hChange with
    ⟨⟨-, hCreates⟩, hNext⟩
  subst hIs
  cases hNext
  apply hSound.setOwner hOwner
  · exact ⟨rfl, rfl, fun _ hTime => hTime,
      fun _ hEnds => hEnds⟩
  · exact hSound.apart.released owner
      (List.mem_of_getElem? hOwner)
  · intro line hLine
    cases List.mem_singleton.mp hLine
    exact Or.inl hCreates
  · intro _
    exact ⟨event, by simp, hCreates⟩
  · intro release hRelease hWritten
    exact hSound.reported_append hOwner _ hRelease hWritten

theorem Session.Sound.start
    (hSound : session.Sound)
    {event : Event}
    (hStep :
      session.step (.start index event) = some session') :
    session'.Sound := by
  rcases setOwner_eq_some hStep with
    ⟨owner, next, hOwner, hChange, hIs⟩
  rcases Option.ite_none_right_eq_some.mp hChange with
    ⟨⟨hStarts, -⟩, hNext⟩
  subst hIs
  cases hNext
  apply hSound.setOwner hOwner (Owner.Continues.refl owner)
  · exact hSound.apart.released owner
      (List.mem_of_getElem? hOwner)
  · intro line hLine
    cases List.mem_singleton.mp hLine
    exact Or.inr (Or.inl hStarts)
  · exact hSound.created_append hOwner _
  · intro release hRelease hWritten
    exact hSound.reported_append hOwner _ hRelease hWritten

theorem Session.Sound.exit
    (hSound : session.Sound)
    (hStep : session.step (.exit index) = some session') :
    session'.Sound := by
  rcases setOwner_eq_some hStep with
    ⟨owner, next, hOwner, hNext, hIs⟩
  subst hIs
  cases hNext
  apply hSound.setOwner hOwner
  · exact ⟨rfl, rfl, fun _ hTime => hTime,
      fun _ hEnds => hEnds⟩
  · exact hSound.apart.released owner
      (List.mem_of_getElem? hOwner)
  · simp
  · exact hSound.created_append hOwner _
  · intro release hRelease hWritten
    exact hSound.reported_append hOwner _ hRelease hWritten

theorem Session.Sound.release
    (hSound : session.Sound)
    {kind : ReleaseKind}
    {callerTid : Int}
    (hStep :
      session.step (.release index kind callerTid) =
        some session') :
    session'.Sound := by
  rcases setOwner_eq_some hStep with
    ⟨owner, next, hOwner, hChange, hIs⟩
  rcases Option.ite_none_right_eq_some.mp hChange with
    ⟨⟨hNone, -⟩, hNext⟩
  subst hIs
  cases hNext
  apply hSound.setOwner hOwner
  · refine ⟨rfl, rfl, ?_, ?_⟩
    · intro time hTime
      simp [Owner.releasedNs, hNone] at hTime
    · intro event hEnds
      rcases hEnds with ⟨release, hRelease, -⟩
      simp [hNone] at hRelease
  · intro time hTime
    simp [Owner.releasedNs] at hTime
  · simp
  · exact hSound.created_append hOwner _
  · intro release hRelease hWritten
    cases hRelease
    cases hWritten

/- The release is stamped after the creation. -/
theorem Session.Sound.stampRelease
    (hSound : session.Sound)
    (hInTime : InTime session (.stampRelease index))
    (hStep :
      session.step (.stampRelease index) = some session') :
    session'.Sound := by
  rcases setOwner_eq_some hStep with
    ⟨owner, next, hOwner, hChange, hIs⟩
  have hLater := hInTime owner hOwner
  cases hRelease : owner.release with
  | none => simp [hRelease] at hChange
  | some release =>
      simp only [hRelease] at hChange
      rcases Option.ite_none_right_eq_some.mp hChange with
        ⟨hStamp, hNext⟩
      have hUnwritten :=
        hSound.unwritten_of_unstamped hOwner hRelease hStamp
      subst hIs
      cases hNext
      apply hSound.setOwner hOwner
      · refine ⟨rfl, rfl, ?_, ?_⟩
        · intro time hTime
          simp [Owner.releasedNs, hRelease, hStamp] at hTime
        · intro event hEnds
          rcases hEnds with ⟨found, hFound, hWritten, -⟩
          rw [hRelease] at hFound
          cases hFound
          simp [hUnwritten] at hWritten
      · intro time hTime
        cases hTime
        exact hLater
      · simp
      · exact hSound.created_append hOwner _
      · intro found hFound hWritten
        cases hFound
        simp [hUnwritten] at hWritten

theorem Session.Sound.writeRelease
    (hSound : session.Sound)
    {event : Event}
    (hStep :
      session.step (.writeRelease index event) =
        some session') :
    session'.Sound := by
  rcases setOwner_eq_some hStep with
    ⟨owner, next, hOwner, hChange, hIs⟩
  cases hRelease : owner.release with
  | none => simp [hRelease] at hChange
  | some release =>
      simp only [hRelease] at hChange
      rcases Option.ite_none_right_eq_some.mp hChange with
        ⟨⟨hUnwritten, hReports⟩, hNext⟩
      have hReleased :=
        hSound.apart.released owner
          (List.mem_of_getElem? hOwner)
      simp only [Owner.releasedNs, hRelease,
        Option.bind_some] at hReleased
      subst hIs
      cases hNext
      apply hSound.setOwner hOwner
      · refine ⟨rfl, rfl, ?_, ?_⟩
        · intro time hTime
          simpa [Owner.releasedNs, hRelease] using hTime
        · intro line hEnds
          rcases hEnds with ⟨found, hFound, hWritten, -⟩
          rw [hRelease] at hFound
          cases hFound
          simp [hUnwritten] at hWritten
      · exact hReleased
      · intro line hLine
        cases List.mem_singleton.mp hLine
        exact Or.inr (Or.inr ⟨_, rfl, rfl, hReports⟩)
      · exact hSound.created_append hOwner _
      · intro found hFound _
        cases hFound
        exact ⟨event, by simp, hReports⟩

theorem Session.Sound.create
    (hSound : session.Sound)
    {stamp : Int}
    {value : String}
    (hInTime : InTime session (.create stamp value))
    (hStep :
      session.step (.create stamp value) = some session') :
    session'.Sound := by
  rcases Option.ite_none_right_eq_some.mp hStep with
    ⟨⟨hStamp, hValue, -⟩, hNext⟩
  cases hNext
  refine
    { clock := hSound.clock
      stamps := ?_
      apart :=
        hSound.apart.append (hSound.stamps stamp hStamp) hValue
          hInTime
      meant := ?_
      created := ?_
      reported := ?_ }
  · intro other hOther
    exact hSound.stamps other (List.mem_of_mem_erase hOther)
  · intro event hEvent
    rcases hSound.meant event hEvent with
      hBystander | ⟨owner, hOwner, hMeant⟩
    · exact Or.inl hBystander
    · exact Or.inr
        ⟨owner, List.mem_append_left _ hOwner, hMeant⟩
  · intro owner hOwner hWritten
    rcases List.mem_append.mp hOwner with hOld | hNew
    · exact hSound.created owner hOld hWritten
    · cases List.mem_singleton.mp hNew
      cases hWritten
  · intro owner hOwner release hRelease hWritten
    rcases List.mem_append.mp hOwner with hOld | hNew
    · exact hSound.reported owner hOld release hRelease hWritten
    · cases List.mem_singleton.mp hNew
      cases hRelease

theorem Session.Sound.write
    (hSound : session.Sound)
    {event : Event}
    (hStep : session.step (.write event) = some session') :
    session'.Sound := by
  rcases Option.ite_none_right_eq_some.mp hStep with
    ⟨hBystander, hNext⟩
  cases hNext
  refine
    { clock := hSound.clock
      stamps := hSound.stamps
      apart := hSound.apart
      meant := ?_
      created := ?_
      reported := ?_ }
  · intro line hLine
    rcases List.mem_append.mp hLine with hOld | hNew
    · exact hSound.meant line hOld
    · cases List.mem_singleton.mp hNew
      exact Or.inl hBystander
  · intro owner hOwner hWritten
    rcases hSound.created owner hOwner hWritten with
      ⟨line, hLine, hCreates⟩
    exact ⟨line, List.mem_append_left _ hLine, hCreates⟩
  · intro owner hOwner release hRelease hWritten
    rcases hSound.reported owner hOwner release hRelease
      hWritten with ⟨line, hLine, hReports⟩
    exact ⟨line, List.mem_append_left _ hLine, hReports⟩

/- A step in time keeps a session sound. -/
theorem Session.Sound.step
    (hSound : session.Sound)
    {action : SessionAction}
    (hInTime : InTime session action)
    (hStep : session.step action = some session') :
    session'.Sound := by
  cases action with
  | tick elapsed =>
      cases hStep
      have hClock := hSound.clock
      refine { hSound with clock := ?_ }
      simp only
      omega
  | stampCreate =>
      cases hStep
      refine { hSound with stamps := ?_ }
      intro stamp hStamp
      rcases List.mem_append.mp hStamp with hOld | hNew
      · exact hSound.stamps stamp hOld
      · cases List.mem_singleton.mp hNew
        exact hSound.clock
  | create stamp value => exact hSound.create hInTime hStep
  | refuse stamp =>
      rcases Option.ite_none_right_eq_some.mp hStep with
        ⟨-, hNext⟩
      cases hNext
      refine { hSound with stamps := ?_ }
      intro other hOther
      exact hSound.stamps other (List.mem_of_mem_erase hOther)
  | writeCreate index event => exact hSound.writeCreate hStep
  | start index event => exact hSound.start hStep
  | exit index => exact hSound.exit hStep
  | release index kind callerTid => exact hSound.release hStep
  | stampRelease index =>
      exact hSound.stampRelease hInTime hStep
  | writeRelease index event => exact hSound.writeRelease hStep
  | write event => exact hSound.write hStep

end Sound

------------------------------------------------------------
-- Whole Sessions
------------------------------------------------------------

theorem sortEvents_inOrder
    (events : List Event) :
    InOrder (sortEvents events) := by
  have hTotal :
      Std.Total (fun left right : Event =>
        left.timestampNs.getD 0 ≤ right.timestampNs.getD 0) :=
    ⟨fun left right => le_total _ _⟩
  have hTrans :
      IsTrans Event (fun left right =>
        left.timestampNs.getD 0 ≤ right.timestampNs.getD 0) :=
    ⟨fun left middle right hFirst hSecond =>
      hFirst.trans hSecond⟩
  exact List.pairwise_insertionSort _ events

/- When every creation is written, the file is a trace. -/
theorem Session.Sound.lines
    {session : Session}
    (hSound : session.Sound)
    (hWritten :
      ∀ owner ∈ session.owners, owner.written = true) :
    Lines session.owners (sortEvents session.file) := by
  have hMember :
      ∀ event,
        event ∈ sortEvents session.file ↔
          event ∈ session.file :=
    fun event => List.mem_insertionSort _
  refine
    { meant := ?_
      created := ?_
      reported := ?_ }
  · intro event hEvent
    exact hSound.meant event ((hMember event).mp hEvent)
  · intro owner hOwner
    rcases hSound.created owner hOwner (hWritten owner hOwner)
      with ⟨event, hEvent, hCreates⟩
    exact ⟨event, (hMember event).mpr hEvent, hCreates⟩
  · intro owner hOwner release hRelease hReleaseWritten
    rcases hSound.reported owner hOwner release hRelease
      hReleaseWritten with ⟨event, hEvent, hReports⟩
    exact ⟨event, (hMember event).mpr hEvent, hReports⟩

theorem sound_start
    {clock : Int}
    (hClock : 0 < clock) :
    ({ clock := clock } : Session).Sound where
  clock := hClock
  stamps := by simp
  apart := ⟨by simp, by simp, by simp, List.Pairwise.nil⟩
  meant := by simp
  created := by simp
  reported := by simp

/-
  In every session whose steps are all in time, the records of
  the sorted file show every join and detach with the thread
  that was joined or detached, and no others.
-/
theorem sessions_attribute_releases
    {clock : Int}
    {actions : List SessionAction}
    {session : Session}
    (hClock : 0 < clock)
    (hInTime :
      sessions.StepsSatisfy InTime { clock := clock } actions)
    (hRun :
      sessions.run { clock := clock } actions = some session)
    (hWritten :
      ∀ owner ∈ session.owners, owner.written = true)
    (bounds : CycleBounds) :
    AttributesReleases session bounds := by
  have hSound : session.Sound := by
    apply sessions.run_invariant_of_stepsSatisfy
      (fun s a t hSound hInTime hStep =>
        hSound.step hInTime hStep)
      (sound_start hClock) hInTime hRun
  exact lifecycleRecords_attributes (hSound.lines hWritten)
    hSound.apart (sortEvents_inOrder session.file) bounds

def createLine (time : Int) : Event :=
  { kind := .pthreadCreate, pthreadValue := "a",
    result := some 0, timestampNs := some time }

def joinLine (time : Int) : Event :=
  { kind := .pthreadJoinEnd, pthreadValue := "a",
    callerTid := some 7, result := some 0,
    timestampNs := some time }

/- The second creation is stamped when the first is joined. -/
def reusedLate : List SessionAction :=
  [.stampCreate, .create 1 "a", .writeCreate 0 (createLine 1),
    .exit 0, .release 0 .join 7, .tick 1, .stampRelease 0,
    .writeRelease 0 (joinLine 2), .tick 1, .stampCreate,
    .create 3 "a", .writeCreate 1 (createLine 3)]

/- The second creation is stamped before the first is joined. -/
def reusedEarly : List SessionAction :=
  [.stampCreate, .create 1 "a", .writeCreate 0 (createLine 1),
    .tick 1, .stampCreate, .exit 0, .release 0 .join 7,
    .create 2 "a", .writeCreate 1 (createLine 2), .tick 1,
    .stampRelease 0, .writeRelease 0 (joinLine 3)]

def joinedOwner (time : Int) : Owner :=
  { value := "a"
    createNs := 1
    written := true
    exited := true
    release :=
      some
        { kind := .join, callerTid := 7, stampNs := some time,
          written := true } }

theorem reusedLate_attributed :
    AttributesReleases
      { clock := 3
        owners :=
          [joinedOwner 2,
            { value := "a", createNs := 3, written := true }]
        file := [createLine 1, joinLine 2, createLine 3] } ∅ :=
  @sessions_attribute_releases 1 reusedLate _ (by decide)
    (by decide +kernel) (by decide +kernel)
    (by simp [joinedOwner]) ∅

/- The join is shown with the thread that was created next. -/
theorem reusedEarly_misattributed :
    sessions.run { clock := 1 } reusedEarly =
        some
          { clock := 3
            owners :=
              [joinedOwner 3,
                { value := "a", createNs := 2
                  written := true }]
            file :=
              [createLine 1, createLine 2, joinLine 3] } ∧
      ¬ AttributesReleases
        { clock := 3
          owners :=
            [joinedOwner 3,
              { value := "a", createNs := 2, written := true }]
          file := [createLine 1, createLine 2, joinLine 3] }
        ∅ := by
  refine ⟨by decide +kernel, ?_⟩
  intro hAttributes
  rcases hAttributes with ⟨records, table, hOk, hShown, -⟩
  have hHoldings :
      (lifecycleRecords
          (sortEvents [createLine 1, createLine 2, joinLine 3])
          ∅).toOption.map
          (fun result => result.1.map Record.holding) =
        some
          [⟨"a", some 1, none, none, none⟩,
            ⟨"a", some 2, some 3, some 7, none⟩] := by
    decide +kernel
  rw [hOk] at hHoldings
  have hIs : records.map Record.holding = _ :=
    Option.some.inj hHoldings
  rw [hIs] at hShown
  rcases hShown (joinedOwner 3) (by simp) _ rfl rfl with
    ⟨holding, hHolding, hHas, hJoined⟩
  simp only [List.mem_cons, List.not_mem_nil, or_false]
    at hHolding
  rcases hHolding with hFirst | hSecond
  · subst hFirst
    simp [Release.ShownIn] at hJoined
  · subst hSecond
    simp [Owner.Has, joinedOwner] at hHas

end Trace

end RsCamera
