import RsCamera.Controls.Isolation

/-
  What `CpuIsolation` undoes.

  The object covers a machine state when everything that
  differs from that state is noted in the object, with what
  is needed to undo it.  Every step of `prepare` keeps the
  state before it covered, whether the step raises or not,
  and a `restore` whose commands succeed brings a covered
  state back.

  Key definitions include:
    * `Covered`
    * `affinityAfter`

  Key theorems include:
    * `restore_covered`
    * `prepare_covered`
    * `prepare_reversible`
    * `restore_retryable_iff`
-/

------------------------------------------------------------
-- Covered States
------------------------------------------------------------

namespace RsCamera

namespace Controls

section

open Effect (Triple)

/- What differs from the baseline is noted in the object. -/
structure Covered
    (baseline : Machine)
    (world : Controlled) : Prop where
  hProcess :
    world.object.processMoved = false →
      world.machine.processCgroup = baseline.processCgroup
  hMoved :
    world.object.processMoved = true →
      world.object.originalCgroupPath =
        some baseline.processCgroup
  hCgroup :
    world.object.cgroupCreated = false →
      world.machine.benchmarkCgroup = baseline.benchmarkCgroup
  hCreated :
    world.object.cgroupCreated = true →
      world.object.cgroupPath ≠ none ∧
        baseline.benchmarkCgroup = false
  hController :
    world.object.controllerEnabledByUs = false →
      world.machine.cpusetController =
        baseline.cpusetController
  hEnabled :
    world.object.controllerEnabledByUs = true →
      baseline.cpusetController = false
  hUnsaved :
    ∀ irq,
      world.object.originalIrqAffinities.get? irq = none →
        world.machine.affinity irq = baseline.affinity irq
  hSaved :
    ∀ irq original,
      world.object.originalIrqAffinities.get? irq =
          some original →
        baseline.affinity irq = original

/- An idle object covers only the machine as it is. -/
theorem Covered.eq_of_idle
    {baseline : Machine}
    {world : Controlled}
    (hCovered : Covered baseline world)
    (hIdle : world.object.Idle) :
    world.machine = baseline := by
  rcases hIdle with
    ⟨-, hController, hCreated, hMoved, hSaved⟩
  apply Machine.ext
  · exact hCovered.hProcess hMoved
  · funext irq
    apply hCovered.hUnsaved
    simp [Dict.get?, hSaved]
  · exact hCovered.hCgroup hCreated
  · exact hCovered.hController hController

theorem Covered.of_idle
    {object : CpuIsolation}
    {machine : Machine}
    (hIdle : object.Idle) :
    Covered machine
      { object := object, machine := machine } := by
  rcases hIdle with
    ⟨-, hController, hCreated, hMoved, hSaved⟩
  exact
    { hProcess := fun _ => rfl
      hMoved := by simp [hMoved]
      hCgroup := fun _ => rfl
      hCreated := by simp [hCreated]
      hController := fun _ => rfl
      hEnabled := by simp [hController]
      hUnsaved := fun _ _ => rfl
      hSaved := by simp [Dict.get?, hSaved] }

/- A command and the note of it, taken as one step. -/
theorem triple_issue_note
    {config : IsolationConfig}
    {failures : Failures}
    {command : Command}
    {f : CpuIsolation → CpuIsolation}
    {P Q R : Controlled → Prop}
    (hDone :
      failures command = none →
        ∀ world, P world →
          Q { object := f world.object
              machine := command.apply world.machine })
    (hRaise :
      failures command ≠ none → ∀ world, P world → R world) :
    Triple P
      (do issue config failures command
          note f)
      (fun _ => Q) R := by
  refine Triple.bind
    (Q := fun _ world =>
      failures command = none ∧
        Q { object := f world.object
            machine := world.machine }) ?_ ?_
  · apply Triple.perform
    · intro hNone world hP
      have hSucceeds : failures command = none := by
        simpa using hNone
      exact ⟨hSucceeds, hDone hSucceeds world hP⟩
    · intro hSome world hP
      exact hRaise (by simpa using hSome) world hP
  · intro _
    apply Triple.perform
    · intro _ world hNext
      exact hNext.2
    · intro hNever
      exact absurd rfl hNever

theorem triple_note
    {start : Controlled}
    (f : CpuIsolation → CpuIsolation)
    {R : Controlled → Prop} :
    Triple (· = start) (note f)
      (fun _ =>
        (· = { start with object := f start.object })) R := by
  apply Triple.perform
  · rintro - world rfl
    rfl
  · intro hNever
    exact absurd rfl hNever

end

------------------------------------------------------------
-- What A Restore Does
------------------------------------------------------------

section

open Effect (Triple)

/- No command fails. -/
def Succeeds (failures : Failures) : Prop :=
  ∀ command, failures command = none

/- The affinities after the writes that did not fail. -/
def affinityAfter
    (failures : Failures)
    (items : List (Nat × String))
    (affinity : Nat → String) : Nat → String :=
  items.foldl
    (fun affinity item =>
      if failures (.write (.affinity item.1) item.2) = none then
        Function.update affinity item.1 item.2
      else
        affinity)
    affinity

variable {config : IsolationConfig}
variable {failures : Failures}
variable {baseline : Machine}

variable {start : Controlled}

/- Each stage leaves the state of the other stages alone. -/
theorem restoreProcess_covered
    (hCovered : Covered baseline start) :
    Triple (· = start)
      (restoreProcess config failures)
      (fun errors world =>
        ∃ moved,
          Covered baseline world ∧
          world.object =
            { start.object with processMoved := moved } ∧
          world.machine.affinity = start.machine.affinity ∧
          (Succeeds failures → errors = [] ∧ moved = false))
      (fun _ => False) := by
  apply Triple.get_bind
  split
  · next hMoved =>
      have hHome := hCovered.hMoved hMoved
      apply Triple.attempt
      apply triple_issue_note
      · rintro - world rfl
        refine ⟨_, ?_, rfl, rfl, fun _ => ⟨rfl, rfl⟩⟩
        exact
          { hCovered with
            hProcess := by simp [Command.apply, hHome]
            hMoved := by simp }
      · rintro hFails world rfl error
        exact ⟨_, hCovered, rfl, rfl,
          fun hAll => absurd (hAll _) hFails⟩
  · next hMoved =>
      apply Triple.pure
      rintro world rfl
      refine ⟨_, hCovered, rfl, rfl, fun _ => ⟨rfl, ?_⟩⟩
      simpa using hMoved

theorem restoreCgroup_covered
    (hCovered : Covered baseline start) :
    Triple (· = start)
      (restoreCgroup config failures)
      (fun errors world =>
        ∃ created,
          Covered baseline world ∧
          world.object =
            { start.object with cgroupCreated := created } ∧
          (Succeeds failures → errors = [] ∧ created = false))
      (fun _ => False) := by
  apply Triple.get_bind
  split
  · next hGuard =>
      apply Triple.attempt
      refine Triple.bind (Q := fun _ => (· = start)) ?_ ?_
      · apply Triple.perform
        · intro _ world hWorld
          exact hWorld
        · rintro hSome world rfl error
          exact ⟨_, hCovered, rfl,
            fun hAll => absurd (hAll _) (by simpa using hSome)⟩
      · intro _
        apply triple_issue_note
        · rintro - world rfl
          refine ⟨_, ?_, rfl, fun _ => ⟨rfl, rfl⟩⟩
          exact
            { hCovered with
              hCgroup := fun _ =>
                (hCovered.hCreated hGuard.1).2.symm
              hCreated := by simp }
        · rintro hFails world rfl error
          exact ⟨_, hCovered, rfl,
            fun hAll => absurd (hAll _) hFails⟩
  · next hGuard =>
      apply Triple.pure
      rintro world rfl
      refine ⟨_, hCovered, rfl, fun _ => ⟨rfl, ?_⟩⟩
      by_contra hCreated
      rw [Bool.not_eq_false] at hCreated
      exact hGuard ⟨hCreated, (hCovered.hCreated hCreated).1⟩

theorem restoreController_covered
    (hCovered : Covered baseline start) :
    Triple (· = start)
      (restoreController config failures)
      (fun errors world =>
        ∃ enabled,
          Covered baseline world ∧
          world.object =
            { start.object with
              controllerEnabledByUs := enabled } ∧
          (Succeeds failures → errors = [] ∧ enabled = false))
      (fun _ => False) := by
  apply Triple.get_bind
  split
  · next hEnabled =>
      apply Triple.attempt
      apply triple_issue_note
      · rintro - world rfl
        refine ⟨_, ?_, rfl, fun _ => ⟨rfl, rfl⟩⟩
        exact
          { hCovered with
            hController := by
              intro _
              simp [Command.apply, hCovered.hEnabled hEnabled]
            hEnabled := by simp }
      · rintro hFails world rfl error
        exact ⟨_, hCovered, rfl,
          fun hAll => absurd (hAll _) hFails⟩
  · next hEnabled =>
      apply Triple.pure
      rintro world rfl
      refine ⟨_, hCovered, rfl, fun _ => ⟨rfl, ?_⟩⟩
      simpa using hEnabled

/- One write of a saved affinity. -/
theorem restoreIrq_covered
    (hCovered : Covered baseline start)
    {item : Nat × String}
    (hItem :
      item ∈ start.object.originalIrqAffinities.items)
    (label : String) :
    Triple (· = start)
      (Effect.attempt label
        (issue config failures
          (.write (.affinity item.1) item.2)))
      (fun errors world =>
        Covered baseline world ∧
        world.object = start.object ∧
        world.machine.affinity =
          affinityAfter failures [item]
            start.machine.affinity ∧
        (Succeeds failures → errors = []))
      (fun _ => False) := by
  apply Triple.attempt
  apply Triple.perform
  · rintro hNone world rfl
    have hDone :
        failures (.write (.affinity item.1) item.2) = none := by
      simpa using hNone
    refine ⟨?_, rfl, ?_, fun _ => rfl⟩
    · exact
        { hCovered with
          hUnsaved := by
            intro irq hUnsaved
            have hOther : irq ≠ item.1 := by
              rintro rfl
              rw [Dict.mem_items_iff.mp hItem] at hUnsaved
              cases hUnsaved
            simp only [Command.apply]
            rw [Function.update_of_ne hOther]
            exact hCovered.hUnsaved irq hUnsaved }
    · simp [Command.apply, affinityAfter, hDone]
  · rintro hSome world rfl error
    have hFails :
        failures (.write (.affinity item.1) item.2) ≠ none := by
      simpa using hSome
    refine ⟨hCovered, rfl, ?_,
      fun hAll => absurd (hAll _) hFails⟩
    simp [affinityAfter, hFails]

theorem restoreIrqs_covered
    (hCovered : Covered baseline start)
    (items : List (Nat × String))
    (hItems :
      ∀ item ∈ items,
        item ∈ start.object.originalIrqAffinities.items) :
    Triple (· = start)
      (restoreIrqs config failures items)
      (fun errors world =>
        Covered baseline world ∧
        world.object = start.object ∧
        world.machine.affinity =
          affinityAfter failures items
            start.machine.affinity ∧
        (Succeeds failures → errors = []))
      (fun _ => False) := by
  induction items generalizing start with
  | nil =>
      apply Triple.pure
      rintro world rfl
      exact ⟨hCovered, rfl, rfl, fun _ => rfl⟩
  | cons item items ih =>
      unfold restoreIrqs
      refine Triple.bind
        (restoreIrq_covered hCovered (hItems item (by simp)) _)
        ?_
      intro errors
      apply Triple.fix_start
      rintro middle ⟨hMiddle, hObject, hAffinity, hErrors⟩
      have hRest :
          ∀ item ∈ items,
            item ∈
              middle.object.originalIrqAffinities.items := by
        intro other hOther
        rw [hObject]
        exact hItems other (List.mem_cons_of_mem _ hOther)
      refine Triple.bind (ih hMiddle hRest) ?_
      intro more
      apply Triple.pure
      rintro world ⟨hWorld, hSame, hAfter, hMore⟩
      refine ⟨hWorld, hSame.trans hObject, ?_, fun hAll => ?_⟩
      · rw [hAfter, hAffinity]
        rfl
      · rw [hErrors hAll, hMore hAll]
        rfl

/- After the loop the affinities count as they are. -/
theorem Covered.forget_affinities
    {world : Controlled}
    (hCovered : Covered baseline world) :
    Covered
      { baseline with affinity := world.machine.affinity }
      { world with
        object :=
          { world.object with
            originalIrqAffinities := ∅ } } :=
  { hCovered with
    hUnsaved := fun _ _ => rfl
    hSaved := by simp [Dict.get?] }

/- A covered state stays covered when the mark is changed. -/
theorem Covered.set_active
    {world : Controlled}
    (hCovered : Covered baseline world)
    (active : Bool)
    (irqs : List Nat) :
    Covered baseline
      { world with
        object :=
          { world.object with
            active := active
            irqs := irqs } } :=
  { hCovered with }

/-
  Whatever fails, the state that a restore leaves is covered
  except for the affinities; where nothing fails, nothing
  is left to undo.
-/
theorem restore_covered
    (hCovered : Covered baseline start) :
    Triple (· = start)
      (restore config failures)
      (fun _ world =>
        Covered
            { baseline with
              affinity :=
                affinityAfter failures
                  start.object.originalIrqAffinities.items
                  start.machine.affinity }
            world ∧
          (Succeeds failures → world.object.Idle))
      (fun world =>
        Covered
            { baseline with
              affinity :=
                affinityAfter failures
                  start.object.originalIrqAffinities.items
                  start.machine.affinity }
            world ∧
          ¬ Succeeds failures) := by
  apply Triple.get_bind
  split
  · next hIdle =>
      apply Triple.pure
      rintro world rfl
      refine ⟨?_, fun _ => hIdle⟩
      have hSaved : world.object.originalIrqAffinities.items = [] :=
        hIdle.2.2.2.2
      have hSame := hCovered.eq_of_idle hIdle
      rw [hSaved, ← hSame]
      exact Covered.of_idle hIdle
  · refine Triple.bind
      (restoreProcess_covered hCovered).never_raises ?_
    intro first
    apply Triple.fix_start
    rintro one ⟨moved, hOne, hObject₁, hAffinity₁, hFirst⟩
    refine Triple.bind
      (restoreIrqs_covered hOne _
        (by simp [hObject₁])).never_raises ?_
    intro second
    apply Triple.fix_start
    rintro two ⟨hTwo, hObject₂, hAffinity₂, hSecond⟩
    rw [hAffinity₁] at hAffinity₂
    refine Triple.bind (triple_note _) ?_
    intro _
    apply Triple.fix_start
    rintro three rfl
    have hThree := hTwo.forget_affinities
    rw [hAffinity₂] at hThree
    refine Triple.bind
      (restoreCgroup_covered hThree).never_raises ?_
    intro third
    apply Triple.fix_start
    rintro four ⟨created, hFour, hObject₄, hThird⟩
    refine Triple.bind
      (restoreController_covered hFour).never_raises ?_
    intro fourth
    apply Triple.fix_start
    rintro five ⟨enabled, hFive, hObject₅, hFourth⟩
    refine Triple.bind (triple_note _) ?_
    intro _
    apply Triple.report
    · rintro - six rfl
      refine ⟨hFive.set_active false _, fun hAll => ?_⟩
      simp only [CpuIsolation.Idle, hObject₅, hObject₄,
        hObject₂, hObject₁, Dict.items_empty, and_true,
        true_and]
      exact ⟨(hFourth hAll).2, (hThird hAll).2,
        (hFirst hAll).2⟩
    · rintro hErrors six rfl
      refine ⟨hFive.set_active false _, fun hAll => hErrors ?_⟩
      rw [(hFirst hAll).1, hSecond hAll, (hThird hAll).1,
        (hFourth hAll).1]
      rfl

end

------------------------------------------------------------
-- What A Set-Up Does
------------------------------------------------------------

section

open Effect (Triple)

/- The set-up with some interrupts already pinned. -/
structure Placing
    (baseline : Machine)
    (housekeeping : String)
    (pinned : List Nat)
    (world : Controlled) : Prop
    extends Covered baseline world where
  hPath : world.object.cgroupPath ≠ none
  hHome :
    world.object.originalCgroupPath =
      some baseline.processCgroup
  hOthers :
    ∀ irq, irq ∉ pinned →
      world.object.originalIrqAffinities.get? irq = none
  hPinned :
    ∀ irq ∈ pinned, world.machine.affinity irq = housekeeping

variable {config : IsolationConfig}
variable {host : Host}
variable {baseline : Machine}
variable {housekeeping : String}

theorem enableController_placing :
    Triple
      (Placing baseline housekeeping [])
      (enableController config host baseline.cpusetController)
      (fun _ => Placing baseline housekeeping [])
      (Covered baseline) := by
  unfold enableController
  split
  · exact Triple.pure (fun _ hPlacing => hPlacing)
  · next hDisabled =>
      rw [Bool.not_eq_true] at hDisabled
      apply triple_issue_note
      · intro _ world hPlacing
        exact
          { hPlacing with
            hController := by simp
            hEnabled := fun _ => hDisabled }
      · intro _ world hPlacing
        exact hPlacing.toCovered

variable {pinned : List Nat}
variable {irq : Nat}
variable {world : Controlled}

/- A setting of the benchmark cgroup. -/
theorem issue_placing
    {command : Command}
    (hSetting : ∀ machine, command.apply machine = machine) :
    Triple
      (Placing baseline housekeeping pinned)
      (issue config host.commands command)
      (fun _ => Placing baseline housekeeping pinned)
      (Covered baseline) := by
  apply Triple.perform
  · intro _ world hPlacing
    simpa [hSetting] using hPlacing
  · intro _ world hPlacing
    exact hPlacing.toCovered

theorem createCgroup_placing
    (hAbsent : baseline.benchmarkCgroup = false)
    (benchmark : String) :
    Triple
      (Placing baseline housekeeping [])
      (createCgroup config host benchmark)
      (fun _ => Placing baseline housekeeping [])
      (Covered baseline) := by
  unfold createCgroup
  have hCreate :
      Triple
        (Placing baseline housekeeping [])
        (do issue config host.commands .mkdir
            note (fun object =>
              { object with cgroupCreated := true }))
        (fun _ => Placing baseline housekeeping [])
        (Covered baseline) := by
    apply triple_issue_note
    · intro _ world hPlacing
      exact
        { hPlacing with
          hCgroup := by simp
          hCreated := fun _ => ⟨hPlacing.hPath, hAbsent⟩ }
    · intro _ world hPlacing
      exact hPlacing.toCovered
  rw [← bind_assoc]
  refine Triple.bind hCreate ?_
  intro _
  refine Triple.bind
    (Q := fun _ => Placing baseline housekeeping []) ?_ ?_
  · exact Triple.ask (fun _ _ hPlacing _ => hPlacing)
      (fun _ hPlacing => hPlacing.toCovered)
  · intro mems
    refine Triple.bind (issue_placing (fun _ => rfl)) ?_
    intro _
    refine Triple.bind (issue_placing (fun _ => rfl)) ?_
    intro _
    exact issue_placing (fun _ => rfl)

/- A read changes nothing. -/
theorem observe_placing
    {A : Type}
    {raised : Option String}
    {value : Machine → A}
    {pinned : List Nat} :
    Triple
      (Placing baseline housekeeping pinned)
      (observe raised value)
      (fun _ => Placing baseline housekeeping pinned)
      (Covered baseline) :=
  Triple.ask (fun _ _ hPlacing _ => hPlacing)
    (fun _ hPlacing => hPlacing.toCovered)

/- The moment between the save and the write of an affinity. -/
structure Pinning
    (baseline : Machine)
    (housekeeping : String)
    (pinned : List Nat)
    (irq : Nat)
    (world : Controlled) : Prop
    extends Covered baseline world where
  hPath : world.object.cgroupPath ≠ none
  hHome :
    world.object.originalCgroupPath =
      some baseline.processCgroup
  hOthers :
    ∀ other, other ∉ pinned ++ [irq] →
      world.object.originalIrqAffinities.get? other = none
  hPinned :
    ∀ other ∈ pinned,
      world.machine.affinity other = housekeeping
  hSave :
    world.object.originalIrqAffinities.get? irq =
      some (baseline.affinity irq)

theorem Placing.save
    (hPlacing : Placing baseline housekeeping pinned world) :
    Pinning baseline housekeeping pinned irq
      { world with
        object :=
          { world.object with
            originalIrqAffinities :=
              world.object.originalIrqAffinities.set irq
                (baseline.affinity irq) } } :=
  { hPlacing with
    hSave := by simp [Dict.get?_set]
    hOthers := by
      intro other hOther
      rw [List.mem_append, List.mem_singleton, not_or]
        at hOther
      rw [Dict.get?_set, if_neg hOther.2]
      exact hPlacing.hOthers other hOther.1
    hUnsaved := by
      intro other hNone
      rw [Dict.get?_set] at hNone
      split at hNone
      · cases hNone
      · exact hPlacing.hUnsaved other hNone
    hSaved := by
      intro other value hSome
      rw [Dict.get?_set] at hSome
      split at hSome
      · next hSame =>
          rw [hSame]
          exact Option.some.inj hSome
      · exact hPlacing.hSaved other value hSome }

theorem Pinning.pin
    (hPinning :
      Pinning baseline housekeeping pinned irq world) :
    Placing baseline housekeeping (pinned ++ [irq])
      { world with
        machine :=
          (Command.write (.affinity irq) housekeeping).apply
            world.machine } :=
  { hPinning with
    hUnsaved := by
      intro other hNone
      have hNe : other ≠ irq := by
        rintro rfl
        rw [hPinning.hSave] at hNone
        cases hNone
      simp only [Command.apply]
      rw [Function.update_of_ne hNe]
      exact hPinning.hUnsaved other hNone
    hPinned := by
      intro other hOther
      simp only [Command.apply]
      by_cases hSame : other = irq
      · rw [hSame, Function.update_self]
      · rw [Function.update_of_ne hSame]
        apply hPinning.hPinned
        simpa [hSame] using hOther }

/- An interrupt that is not pinned has its old affinity. -/
theorem observe_affinity
    {raised : Option String}
    (hNew : irq ∉ pinned) :
    Triple
      (Placing baseline housekeeping pinned)
      (observe raised (fun machine => machine.affinity irq))
      (fun original world =>
        Placing baseline housekeeping pinned world ∧
          original = baseline.affinity irq)
      (Covered baseline) := by
  apply Triple.ask
  · intro world original hPlacing hAnswer
    refine ⟨hPlacing, ?_⟩
    have hUnsaved :=
      hPlacing.hUnsaved irq (hPlacing.hOthers irq hNew)
    cases raised with
    | none =>
        simp only [Except.ok.injEq] at hAnswer
        rw [← hAnswer, hUnsaved]
    | some error => cases hAnswer
  · intro world hPlacing
    exact hPlacing.toCovered

/- The affinity is saved before it is changed. -/
theorem pinIrq_placing
    (hNew : irq ∉ pinned) :
    Triple
      (Placing baseline housekeeping pinned)
      (pinIrq config host housekeeping irq)
      (fun _ => Placing baseline housekeeping (pinned ++ [irq]))
      (Covered baseline) := by
  unfold pinIrq
  refine Triple.bind (observe_affinity hNew) ?_
  intro original
  refine Triple.bind
    (Q := fun _ => Pinning baseline housekeeping pinned irq)
    ?_ ?_
  · apply Triple.perform
    · rintro - world ⟨hPlacing, rfl⟩
      exact hPlacing.save
    · intro hNever
      exact absurd rfl hNever
  · intro _
    refine Triple.bind
      (Q := fun _ =>
        Placing baseline housekeeping (pinned ++ [irq])) ?_ ?_
    · apply Triple.perform
      · intro _ world hPinning
        exact hPinning.pin
      · intro _ world hPinning
        exact hPinning.toCovered
    · intro _
      refine Triple.bind observe_placing ?_
      intro _
      exact observe_placing

theorem pinIrqs_placing
    {irqs : List Nat}
    (hNodup : irqs.Nodup) :
    Triple
      (Placing baseline housekeeping [])
      (Effect.forEach (pinIrq config host housekeeping) irqs)
      (fun _ => Placing baseline housekeeping irqs)
      (Covered baseline) := by
  have hPin :
      ∀ front irq back,
        Triple
          (fun world =>
            Placing baseline housekeeping front world ∧
              (front ++ irq :: back).Nodup)
          (pinIrq config host housekeeping irq)
          (fun _ world =>
            Placing baseline housekeeping (front ++ [irq])
                world ∧
              ((front ++ [irq]) ++ back).Nodup)
          (Covered baseline) := by
    intro front irq back
    apply Triple.fix_start
    rintro start ⟨hPlacing, hDistinct⟩
    have hNew : irq ∉ front := by
      intro hMem
      exact (List.disjoint_of_nodup_append hDistinct hMem)
        (List.mem_cons_self ..)
    have hOne :
        Triple
          (Placing baseline housekeeping front)
          (pinIrq config host housekeeping irq)
          (fun _ =>
            Placing baseline housekeeping (front ++ [irq]))
          (Covered baseline) := pinIrq_placing hNew
    refine hOne.weaken ?_ ?_ ?_
    · rintro world rfl
      exact hPlacing
    · intro _ world hNext
      exact ⟨hNext, by simpa using hDistinct⟩
    · intro world hCovered
      exact hCovered
  have hLoop :=
    Triple.forEach
      (I := fun front back world =>
        Placing baseline housekeeping front world ∧
          (front ++ back).Nodup)
      hPin [] irqs
  refine hLoop.weaken ?_ ?_ ?_
  · intro world hPlacing
    exact ⟨hPlacing, hNodup⟩
  · intro _ world hPlacing
    exact hPlacing.1
  · intro world hCovered
    exact hCovered

/-
  What a set-up leaves: everything is noted, and the camera
  interrupts are on the housekeeping CPUs.
-/
structure Placed
    (baseline : Machine)
    (housekeeping : String)
    (world : Controlled) : Prop
    extends Covered baseline world where
  hPinned :
    ∀ irq original,
      world.object.originalIrqAffinities.get? irq =
          some original →
        world.machine.affinity irq = housekeeping

theorem Placing.placed
    (hPlacing : Placing baseline housekeeping pinned world) :
    Placed baseline housekeeping world :=
  { hPlacing.toCovered with
    hPinned := by
      intro irq original hSome
      apply hPlacing.hPinned
      by_contra hOther
      rw [hPlacing.hOthers irq hOther] at hSome
      cases hSome }

theorem moveProcess_placed
    {pinned : List Nat} :
    Triple
      (Placing baseline housekeeping pinned)
      (moveProcess config host)
      (fun _ => Placed baseline housekeeping)
      (Covered baseline) := by
  apply triple_issue_note
  · intro _ world hPlacing
    exact
      { hPlacing.placed with
        hProcess := by simp
        hMoved := fun _ => hPlacing.hHome }
  · intro _ world hPlacing
    exact hPlacing.toCovered

/- A question whose answer does not matter. -/
theorem ask_placed
    {answer : Controlled → Except String Unit} :
    Triple
      (Placed baseline housekeeping)
      (Effect.ask answer)
      (fun _ => Placed baseline housekeeping)
      (Covered baseline) :=
  Triple.ask (fun _ _ hPlaced _ => hPlaced)
    (fun _ hPlaced => hPlaced.toCovered)

/- Wherever the set-up raises, the baseline stays covered. -/
theorem setUp_placed
    {irqs : List Nat}
    {benchmark : String}
    (hNodup : irqs.Nodup)
    (hAbsent : baseline.benchmarkCgroup = false) :
    Triple
      (Placing baseline housekeeping [])
      (setUp config host baseline.cpusetController irqs
        housekeeping benchmark)
      (fun _ => Placed baseline housekeeping)
      (Covered baseline) := by
  unfold setUp
  refine Triple.bind enableController_placing ?_
  intro _
  refine Triple.bind (createCgroup_placing hAbsent _) ?_
  intro _
  refine Triple.bind (pinIrqs_placing hNodup) ?_
  intro _
  refine Triple.bind moveProcess_placed ?_
  intro _
  refine Triple.bind ask_placed ?_
  intro _
  refine Triple.bind
    (Q := fun _ => Placed baseline housekeeping) ?_ ?_
  · apply Triple.perform
    · intro _ world hPlaced
      exact
        { hPlaced.toCovered.set_active true irqs with
          hPinned := hPlaced.hPinned }
    · intro hNever
      exact absurd rfl hNever
  · intro _
    refine Triple.bind ask_placed ?_
    intro _
    exact ask_placed

end

------------------------------------------------------------
-- The Affinities After A Restore
------------------------------------------------------------

section

open Effect (Triple)

variable {failures : Failures}
variable {baseline : Machine}

theorem affinityAfter_cons
    (item : Nat × String)
    (items : List (Nat × String))
    (affinity : Nat → String) :
    affinityAfter failures (item :: items) affinity =
      affinityAfter failures items
        (if failures (.write (.affinity item.1) item.2) = none
          then Function.update affinity item.1 item.2
          else affinity) := rfl

theorem affinityAfter_of_not_mem
    {items : List (Nat × String)}
    {irq : Nat}
    (hOther : irq ∉ items.map Prod.fst)
    (affinity : Nat → String) :
    affinityAfter failures items affinity irq =
      affinity irq := by
  induction items generalizing affinity with
  | nil => rfl
  | cons item items ih =>
      rw [List.map_cons, List.mem_cons, not_or] at hOther
      rw [affinityAfter_cons, ih hOther.2]
      split
      · rw [Function.update_of_ne hOther.1]
      · rfl

theorem affinityAfter_of_mem
    {items : List (Nat × String)}
    {irq : Nat}
    {original : String}
    (hNodup : (items.map Prod.fst).Nodup)
    (hItem : (irq, original) ∈ items)
    (affinity : Nat → String) :
    affinityAfter failures items affinity irq =
      if failures (.write (.affinity irq) original) = none then
        original
      else
        affinity irq := by
  induction items generalizing affinity with
  | nil => cases hItem
  | cons item items ih =>
      rw [List.map_cons, List.nodup_cons] at hNodup
      rw [List.mem_cons] at hItem
      rw [affinityAfter_cons]
      rcases hItem with hHead | hTail
      · subst hHead
        rw [affinityAfter_of_not_mem hNodup.1]
        split
        · rw [Function.update_self]
        · rfl
      · have hOther : irq ≠ item.1 := by
          intro hSame
          apply hNodup.1
          rw [← hSame]
          exact List.mem_map_of_mem (f := Prod.fst) hTail
        rw [ih hNodup.2 hTail]
        split
        · rfl
        · split
          · rw [Function.update_of_ne hOther]
          · rfl

/- The loop over the saved affinities, interrupt by interrupt. -/
theorem affinityAfter_saved
    (saved : Dict Nat String)
    (affinity : Nat → String)
    (irq : Nat) :
    affinityAfter failures saved.items affinity irq =
      match saved.get? irq with
      | none => affinity irq
      | some original =>
          if failures (.write (.affinity irq) original) = none
          then original
          else affinity irq := by
  cases hSaved : saved.get? irq with
  | none =>
      have hOther : irq ∉ saved.keys := by
        intro hMem
        rcases Dict.mem_keys_iff.mp hMem with ⟨value, hSome⟩
        rw [hSaved] at hSome
        cases hSome
      exact affinityAfter_of_not_mem hOther affinity
  | some original =>
      exact affinityAfter_of_mem saved.nodup
        (Dict.mem_items_iff.mpr hSaved) affinity

/-
  The affinities are back exactly when each failed write
  would have changed nothing.
-/
theorem Placed.affinityAfter_eq_iff
    {housekeeping : String}
    {world : Controlled}
    (hPlaced : Placed baseline housekeeping world) :
    affinityAfter failures
          world.object.originalIrqAffinities.items
          world.machine.affinity =
        baseline.affinity ↔
      ∀ irq original,
        world.object.originalIrqAffinities.get? irq =
            some original →
          failures (.write (.affinity irq) original) ≠ none →
            original = housekeeping := by
  constructor
  · intro hBack irq original hSaved hFails
    have hAt := congrFun hBack irq
    rw [affinityAfter_saved, hSaved] at hAt
    simp only [hFails, if_false] at hAt
    rw [hPlaced.hPinned irq original hSaved,
      hPlaced.hSaved irq original hSaved] at hAt
    exact hAt.symm
  · intro hHarmless
    funext irq
    rw [affinityAfter_saved]
    split
    · next hSaved => exact hPlaced.hUnsaved irq hSaved
    · next original hSaved =>
        rw [hPlaced.hSaved irq original hSaved,
          hPlaced.hPinned irq original hSaved]
        split
        · rfl
        · next hFails =>
            exact (hHarmless irq original hSaved hFails).symm

/- Writes that all succeed bring the affinities back. -/
theorem Covered.affinityAfter_eq
    {world : Controlled}
    (hCovered : Covered baseline world)
    (hSucceeds : Succeeds failures) :
    affinityAfter failures
        world.object.originalIrqAffinities.items
        world.machine.affinity =
      baseline.affinity := by
  funext irq
  rw [affinityAfter_saved]
  split
  · next hSaved => exact hCovered.hUnsaved irq hSaved
  · next original hSaved =>
      rw [if_pos (hSucceeds _)]
      exact (hCovered.hSaved irq original hSaved).symm

/- A restore whose commands succeed brings the baseline back. -/
theorem restore_succeeds
    {config : IsolationConfig}
    {start : Controlled}
    (hCovered : Covered baseline start)
    (hSucceeds : Succeeds failures) :
    ∃ world,
      restore config failures start = .ok () world ∧
        world.machine = baseline ∧ world.object.Idle := by
  have hTriple :
      Triple (· = start) (restore config failures) _ _ :=
    restore_covered hCovered
  cases hRun : restore config failures start with
  | ok _ world =>
      rcases hTriple.of_ok rfl hRun with ⟨hAfter, hIdle⟩
      rw [hCovered.affinityAfter_eq hSucceeds] at hAfter
      exact ⟨world, rfl,
        hAfter.eq_of_idle (hIdle hSucceeds),
        hIdle hSucceeds⟩
  | error error world =>
      exact absurd hSucceeds (hTriple.of_error rfl hRun).2

end

------------------------------------------------------------
-- Reversibility
------------------------------------------------------------

open Effect (Triple)

variable {config : IsolationConfig}
variable {host : Host}

/- The housekeeping CPUs as they are written to an interrupt. -/
def housekeepingText (config : IsolationConfig) : String :=
  match parseCpuList config.housekeepingCpus with
  | .ok cpus => formatCpuList cpus
  | .error _ => ""

/- What an idle object is when `prepare` fails. -/
def Undone
    (baseline : Machine)
    (failures : Failures)
    (world : Controlled) : Prop :=
  Succeeds failures →
    world.machine = baseline ∧ world.object.Idle

theorem restore_undoes
    {baseline : Machine}
    {failures : Failures} :
    Triple (Covered baseline)
      (restore config failures)
      (fun _ => Undone baseline failures)
      (Undone baseline failures) := by
  apply Triple.fix_start
  intro start hCovered
  refine (restore_covered hCovered).weaken ?_ ?_ ?_
  · intro world hStart
    exact hStart
  · rintro _ world ⟨hAfter, hIdle⟩ hSucceeds
    rw [hCovered.affinityAfter_eq hSucceeds] at hAfter
    exact ⟨hAfter.eq_of_idle (hIdle hSucceeds),
      hIdle hSucceeds⟩
  · rintro world ⟨-, hFails⟩ hSucceeds
    exact absurd hSucceeds hFails

/- A read in a known state gives the value in that state. -/
theorem triple_observe_bind
    {A B : Type}
    {raised : Option String}
    {value : Machine → A}
    {f : A → Effect Controlled B}
    {start : Controlled}
    {Q : B → Controlled → Prop}
    {R : Controlled → Prop}
    (hRaise : R start)
    (hRest :
      Triple (· = start) (f (value start.machine)) Q R) :
    Triple (· = start) (observe raised value >>= f) Q R := by
  apply Triple.ask_bind hRaise
  intro a hAnswer
  cases raised with
  | none => exact Except.ok.inj hAnswer ▸ hRest
  | some error => cases hAnswer

/- The guarded part of `prepare`, with its handler. -/
theorem setUp_undone
    {failures : Failures}
    {baseline : Machine}
    {object : CpuIsolation}
    {irqs : List Nat}
    {housekeeping benchmark label path : String}
    (hIdle : object.Idle)
    (hNodup : irqs.Nodup)
    (hAbsent : baseline.benchmarkCgroup = false) :
    Triple
      (· =
        { object :=
            { object with
              cgroupPath := some path
              originalCgroupPath :=
                some baseline.processCgroup }
          machine := baseline })
      (Effect.onRaise label
        (setUp config host baseline.cpusetController irqs
          housekeeping benchmark)
        (restore config failures))
      (fun _ => Placed baseline housekeeping)
      (Undone baseline failures) := by
  refine Triple.onRaise ?_ restore_undoes
  refine (setUp_placed hNodup hAbsent).weaken ?_ ?_ ?_
  · rintro world rfl
    have hCovered :
        Covered baseline
          { object :=
              { object with
                cgroupPath := some path
                originalCgroupPath :=
                  some baseline.processCgroup }
            machine := baseline } :=
      Covered.of_idle hIdle
    exact
      { hCovered with
        hPath := by simp
        hHome := rfl
        hOthers := by
          intro irq _
          simp [Dict.get?, hIdle.2.2.2.2]
        hPinned := by simp }
  · intro _ world hPlaced
    exact hPlaced
  · intro world hCovered
    exact hCovered

theorem prepare_placed
    {failures : Failures}
    {start : Controlled}
    (hIdle : start.object.Idle) :
    Triple (· = start)
      (prepare config host failures)
      (fun _ =>
        Placed start.machine (housekeepingText config))
      (Undone start.machine failures) := by
  have hUnchanged :
      Placed start.machine (housekeepingText config) start :=
    { Covered.of_idle hIdle with
      hPinned := by
        intro irq original hSaved
        rw [Dict.get?, hIdle.2.2.2.2] at hSaved
        cases hSaved }
  unfold prepare
  split
  · apply Triple.pure
    rintro world rfl
    exact hUnchanged
  · apply Triple.get_bind
    split
    · apply Triple.pure
      rintro world rfl
      exact hUnchanged
    · -- No exception before the guarded part changes anything.
      have hStart : Undone start.machine failures start :=
        fun _ => ⟨rfl, hIdle⟩
      apply Triple.ask_bind hStart
      intro _ _
      apply triple_observe_bind hStart
      split
      · apply Triple.throw
        rintro world rfl
        exact hStart
      · next hAbsent =>
          refine Triple.bind (triple_note _) ?_
          intro _
          apply triple_observe_bind (fun _ => ⟨rfl, hIdle⟩)
          refine Triple.bind (triple_note _) ?_
          intro _
          apply triple_observe_bind (fun _ => ⟨rfl, hIdle⟩)
          apply Triple.ask_bind (fun _ => ⟨rfl, hIdle⟩)
          intro records hRecords
          apply Triple.ask_bind (fun _ => ⟨rfl, hIdle⟩)
          intro housekeeping hHousekeeping
          apply Triple.ask_bind (fun _ => ⟨rfl, hIdle⟩)
          intro benchmark _
          have hText : housekeeping = housekeepingText config := by
            unfold housekeepingText
            cases hParsed :
                parseCpuList config.housekeepingCpus with
            | error error =>
                rw [hParsed] at hHousekeeping
                cases hHousekeeping
            | ok cpus =>
                rw [hParsed] at hHousekeeping
                exact (Except.ok.inj hHousekeeping).symm
          have hNodup : (records.map Prod.fst).Nodup := by
            cases hSurvey : host.survey with
            | error error =>
                rw [hSurvey] at hRecords
                cases hRecords
            | ok survey =>
                rw [hSurvey] at hRecords
                exact discoverCameraXhciIrqs_nodup hRecords
          rw [← hText]
          exact setUp_undone hIdle hNodup
            (by simpa using hAbsent)

/-
  A `prepare` that raises anywhere and whose clean-up
  succeeds leaves the machine as it was; after one that
  returns, a `restore` whose commands succeed brings the
  machine back.  The object is idle again in both cases.
-/
theorem prepare_reversible
    (config : IsolationConfig)
    (host : Host)
    {start : Controlled}
    (hIdle : start.object.Idle) :
    (∀ cleanup error world,
      Succeeds cleanup →
      prepare config host cleanup start = .error error world →
        world.machine = start.machine ∧ world.object.Idle) ∧
    (∀ cleanup failures prepared,
      prepare config host cleanup start = .ok () prepared →
      Succeeds failures →
        ∃ world,
          restore config failures prepared = .ok () world ∧
            world.machine = start.machine ∧
            world.object.Idle) := by
  constructor
  · intro cleanup error world hSucceeds hRun
    exact (prepare_placed hIdle).of_error rfl hRun hSucceeds
  · intro cleanup failures prepared hRun hSucceeds
    have hPlaced := (prepare_placed hIdle).of_ok rfl hRun
    exact restore_succeeds hPlaced.toCovered hSucceeds

/- Four CPUs, one of them for housekeeping. -/
def sampleConfig : IsolationConfig where
  enabled := true
  housekeepingCpus := "0"
  benchmarkCpus := "1-3"
  cgroupRoot := "/sys/fs/cgroup"
  procRoot := "/proc"
  pid := 42

/- Four processors, of which the benchmark gets three. -/
def sampleText : TextFile → String
| .online => "0-3"
| .controllers => "cpuset cpu io"
| .isolatedAtStart => ""
| .memsEffective => "0"
| .benchmarkEffective _ => "1-3"
| .rootEffective _ => "0"
| .isolated _ => "1-3"
| .processAffinity _ => "1-3"

/- One camera, on interrupt 130. -/
def sampleSurvey : Survey where
  devices :=
    [{ name := "2-1"
       resolved := "/sys/devices/xhci-hcd.0/usb2/2-1"
       controller := some "/sys/devices/xhci-hcd.0"
       rootHubs := ["usb1", "usb2"] }]
  actions := [("usb1", 130)]

/- Everything but the commands works. -/
def sampleHost (commands : Failures) : Host where
  missing := []
  text := fun file => .ok (sampleText file)
  raises := fun _ => none
  surveyValidated := .ok sampleSurvey
  survey := .ok sampleSurvey
  commands := commands
  recordWritten := .ok ()

/- A new object on a machine that nobody has changed. -/
def sampleStart : Controlled where
  object := CpuIsolation.init
  machine :=
    { processCgroup := "/sys/fs/cgroup/user.slice"
      affinity := fun _ => "0-3"
      benchmarkCgroup := false
      cpusetController := false }

/- Every command succeeds. -/
def noFailure : Failures :=
  fun _ => none

/- One command fails. -/
def failsOn (command : Command) : Failures :=
  fun other => if other = command then some "denied" else none

/- The process cannot be moved into the cgroup. -/
def deniedHost : Host :=
  sampleHost
    (failsOn
      (.write (.procs (benchmarkPath sampleConfig)) "42"))

/- The state after the set-up. -/
def samplePrepared : Controlled :=
  Effect.after
    (prepare sampleConfig (sampleHost noFailure) noFailure)
    sampleStart

theorem prepare_sampleStart :
    prepare sampleConfig (sampleHost noFailure) noFailure
        sampleStart =
      .ok () samplePrepared := rfl

theorem sampleStart_reversed :
    (∃ error world,
      prepare sampleConfig deniedHost noFailure sampleStart =
        .error error world ∧
      world.machine = sampleStart.machine) ∧
    samplePrepared.machine.affinity 130 = "0" ∧
    ∃ world,
      restore sampleConfig noFailure samplePrepared =
        .ok () world ∧
      world.machine = sampleStart.machine := by
  have hIdle : sampleStart.object.Idle := by decide
  have hDenied :=
    prepare_reversible sampleConfig deniedHost hIdle
  have hDone :=
    prepare_reversible sampleConfig (sampleHost noFailure)
      hIdle
  refine ⟨?_, rfl, ?_⟩
  · cases hRun :
        prepare sampleConfig deniedHost noFailure
          sampleStart with
    | ok _ world => cases hRun
    | error error world =>
        exact ⟨error, world, rfl,
          (hDenied.1 noFailure error world (fun _ => rfl)
            hRun).1⟩
  · rcases hDone.2 noFailure noFailure samplePrepared
        prepare_sampleStart (fun _ => rfl) with
      ⟨world, hRestored, hBack, -⟩
    exact ⟨world, hRestored, hBack⟩

/-
  After a first `restore` with any failures, a second one
  whose commands succeed brings the machine back exactly
  when every interrupt whose write failed had the
  housekeeping affinity all along.
-/
theorem restore_retryable_iff
    (config : IsolationConfig)
    (host : Host)
    {start prepared : Controlled}
    {cleanup retry : Failures}
    (failures : Failures)
    (hIdle : start.object.Idle)
    (hPrepare :
      prepare config host cleanup start = .ok () prepared)
    (hRetry : Succeeds retry) :
    (∃ world,
      restore config retry
          (Effect.after (restore config failures) prepared) =
        .ok () world ∧
      world.machine = start.machine) ↔
    ∀ irq original,
      prepared.object.originalIrqAffinities.get? irq =
          some original →
        failures (.write (.affinity irq) original) ≠ none →
          original = housekeepingText config := by
  have hPlaced := (prepare_placed hIdle).of_ok rfl hPrepare
  have hOnce :
      Covered
        { start.machine with
          affinity :=
            affinityAfter failures
              prepared.object.originalIrqAffinities.items
              prepared.machine.affinity }
        (Effect.after (restore config failures) prepared) :=
    (restore_covered hPlaced.toCovered).of_after
      (fun _ _ hPost => hPost.1) (fun _ hPost => hPost.1) rfl
  rcases restore_succeeds hOnce hRetry with
    ⟨world, hTwice, hMachine, -⟩
  rw [← hPlaced.affinityAfter_eq_iff]
  constructor
  · rintro ⟨other, hOther, hBack⟩
    rw [hTwice] at hOther
    injection hOther with _ hSame
    rw [← hSame, hMachine] at hBack
    exact congrArg Machine.affinity hBack
  · intro hAffinity
    refine ⟨world, hTwice, ?_⟩
    rw [hMachine, hAffinity]

/- The cgroup cannot be removed at first. -/
theorem busyCgroup_retried :
    ∃ world,
      restore sampleConfig noFailure
          (Effect.after
            (restore sampleConfig (failsOn .rmdir))
            samplePrepared) =
        .ok () world ∧
      world.machine = sampleStart.machine := by
  have hIdle : sampleStart.object.Idle := by decide
  refine (restore_retryable_iff sampleConfig
    (sampleHost noFailure) (failsOn .rmdir) hIdle
    prepare_sampleStart (fun _ => rfl)).mpr ?_
  intro irq original _ hFails
  exact absurd rfl hFails

/-
  The affinity of interrupt 130 cannot be written at first;
  it is never written again.
-/
theorem deniedAffinity_lost :
    ∃ error once twice,
      prepare sampleConfig (sampleHost noFailure) noFailure
          sampleStart =
        .ok () samplePrepared ∧
      restore sampleConfig
          (failsOn (.write (.affinity 130) "0-3"))
          samplePrepared =
        .error error once ∧
      restore sampleConfig noFailure once = .ok () twice ∧
      sampleStart.machine.affinity 130 = "0-3" ∧
      twice.machine.affinity 130 = "0" :=
  ⟨_, _, _, rfl, rfl, rfl, rfl, rfl⟩

end Controls

end RsCamera
