import RsCamera.Lib.Containers
import RsCamera.Reproduction.Campaign

/-
  What a campaign keeps over every sequence of starts, kills,
  boots, stops and resumptions.

  The history of a campaign is the list of what was observed:
  acquisitions that start, stages that complete, requests for
  a reboot, boots and resumptions.  The files say how far the
  history has come.

  Key definitions include:
    * `CampaignEvent`, `campaignEvents`
    * `stageOrder`, `OnPhase`
    * `Progress`, `Waiting`

  Key theorems include:
    * `nextPhase_onPhase`
    * `step_progress`
    * `step_waiting`
    * `run_campaign`
-/

------------------------------------------------------------
-- The History
------------------------------------------------------------

namespace RsCamera

namespace Reproduction

/- What a campaign does that can be counted. -/
inductive CampaignEvent
| acquire (stage : Stage) (boot : Boot)
| completed (stage : Stage)
| request (pending : PendingBoot)
| booted (boot : Boot)
| resumed
deriving Repr, DecidableEq

/- The request for a reboot, which may still fail. -/
def Worker.requests (w : Worker) : List CampaignEvent :=
  match w.point with
  | .requesting => (w.state.pendingBoot.map .request).toList
  | _ => []

/- The events of the next step of a worker. -/
def Worker.events
    (boot : Boot)
    (w : Worker) : List CampaignEvent :=
  match w.point with
  | .running _ stage _ => [.acquire stage boot]
  | .acquiring _ stage _ => [.completed stage]
  | _ => w.requests

/- The events of an action. -/
def campaignEvents
    (s : Campaign) : CampaignAction → List CampaignEvent
| .proceed => s.worker.elim [] (Worker.events s.boot)
| .raised _ => s.worker.elim [] Worker.requests
| .reboot boot => [.booted boot]
| .resume => [.resumed]
| _ => []

/- The stage that is run. -/
def CampaignEvent.acquisition : CampaignEvent → Option Stage
| .acquire stage _ => some stage
| _ => none

/- The stage that is done. -/
def CampaignEvent.completion : CampaignEvent → Option Stage
| .completed stage => some stage
| _ => none

/- The stages that were run, in order. -/
def acquisitions (log : List CampaignEvent) : List Stage :=
  log.filterMap CampaignEvent.acquisition

/- The stages that were done, in order. -/
def completions (log : List CampaignEvent) : List Stage :=
  log.filterMap CampaignEvent.completion

/- The stages that a history has started and completed. -/
structure StageTally where
  acquired : List Stage
  completed : List Stage

/- What was run and what was done. -/
def stageTally (log : List CampaignEvent) : StageTally where
  acquired := acquisitions log
  completed := completions log

attribute [simp] CampaignEvent.acquisition
  CampaignEvent.completion

@[simp]
theorem acquisitions_append
    (log events : List CampaignEvent) :
    acquisitions (log ++ events) =
      acquisitions log ++ acquisitions events :=
  List.filterMap_append

@[simp]
theorem completions_append
    (log events : List CampaignEvent) :
    completions (log ++ events) =
      completions log ++ completions events :=
  List.filterMap_append

------------------------------------------------------------
-- The Order Of The Stages
------------------------------------------------------------

/- The stages of some phases. -/
def stagesOf (list : List Phase) : List Stage :=
  list.flatMap Phase.stages

/- The stages of the whole campaign. -/
def stageOrder (smoke : Bool) : List Stage :=
  stagesOf (phases smoke)

theorem stageOrder_nodup
    (smoke : Bool) :
    (stageOrder smoke).Nodup := by
  cases smoke <;> decide

/- A stage counts as complete only with a marker. -/
theorem complete_eq_ok
    {root : String}
    {s : Campaign}
    {stage : Stage}
    {done : Bool}
    (hComplete : s.complete root stage = .ok done) :
    done = true ↔ s.markers stage ≠ none := by
  unfold Campaign.complete at hComplete
  split at hComplete
  next hNone =>
    cases hComplete
    simp [hNone]
  next record hSome =>
    split at hComplete
    · cases hComplete
    · cases hComplete
      simp [hSome]

theorem pendingStages_eq_ok
    {root : String}
    {s : Campaign}
    {stages pending : List Stage}
    (hPending : s.pendingStages root stages = .ok pending) :
    pending =
      stages.filter (fun stage => (s.markers stage).isNone) := by
  induction stages generalizing pending with
  | nil =>
      cases hPending
      rfl
  | cons stage stages ih =>
      rw [Campaign.pendingStages] at hPending
      rcases bind_eq_ok.mp hPending with
        ⟨done, hDone, hRest⟩
      rcases bind_eq_ok.mp hRest with
        ⟨later, hLater, hSame⟩
      have hMarked := complete_eq_ok hDone
      cases hSame
      rw [List.filter_cons, ih hLater]
      cases hMarker : s.markers stage with
      | none => simp_all
      | some record => simp_all

/- What is left of a list whose beginning is done. -/
theorem filter_of_done
    {A : Type}
    {test : A → Bool}
    {done rest : List A}
    (hNodup : (done ++ rest).Nodup)
    (hTest :
      ∀ x ∈ done ++ rest, test x = true ↔ x ∉ done) :
    (done ++ rest).filter test = rest := by
  have hApart := List.disjoint_of_nodup_append hNodup
  rw [List.filter_append]
  have hDone : done.filter test = [] := by
    rw [List.filter_eq_nil_iff]
    intro x hx hHolds
    exact (hTest x (List.mem_append_left _ hx)).mp hHolds hx
  have hRest : rest.filter test = rest := by
    rw [List.filter_eq_self]
    intro x hx
    exact (hTest x (List.mem_append_right _ hx)).mpr
      (fun hIn => hApart hIn hx)
  rw [hDone, hRest, List.nil_append]

/-
  The next phase is where the completed stages end.  The
  induction is on the phases; stages that are done fill the
  phases from the front.
-/
theorem nextPhase_eq_some
    {root : String}
    {s : Campaign}
    {list : List Phase}
    {done : List Stage}
    {phase : Phase}
    (hNodup : (stagesOf list).Nodup)
    (hMarked :
      ∀ stage ∈ stagesOf list,
        s.markers stage ≠ none ↔ stage ∈ done)
    (hDone : done <+: stagesOf list)
    (hNext : s.nextPhase root list = .ok (some phase)) :
    (∃ full ∈ list, full.variant = phase.variant ∧
      full.threaded = phase.threaded ∧
      ∀ stage ∈ phase.stages, stage ∈ full.stages) ∧
    ∃ later, stagesOf list = done ++ phase.stages ++ later := by
  induction list generalizing done with
  | nil => cases hNext
  | cons first list ih =>
      rw [Campaign.nextPhase] at hNext
      rcases bind_eq_ok.mp hNext with
        ⟨pending, hPending, hRest⟩
      have hFilter := pendingStages_eq_ok hPending
      have hFlat :
          stagesOf (first :: list) =
            first.stages ++ stagesOf list := rfl
      rw [hFlat] at hNodup hMarked hDone ⊢
      have hApart := List.disjoint_of_nodup_append hNodup
      -- The phases after a phase that is done as a whole.
      have hPast :
          ∀ more, done = first.stages ++ more →
            more <+: stagesOf list →
            s.nextPhase root list = .ok (some phase) →
            (∃ full ∈ first :: list,
              full.variant = phase.variant ∧
              full.threaded = phase.threaded ∧
              ∀ stage ∈ phase.stages, stage ∈ full.stages) ∧
            ∃ later,
              first.stages ++ stagesOf list =
                done ++ phase.stages ++ later := by
        intro more hMore hPrefix hLater
        have hMarkedMore :
            ∀ stage ∈ stagesOf list,
              s.markers stage ≠ none ↔ stage ∈ more := by
          intro stage hStage
          rw [hMarked stage (List.mem_append_right _ hStage),
            hMore, List.mem_append]
          exact or_iff_right (fun hIn => hApart hIn hStage)
        rcases ih (List.nodup_append.mp hNodup).2.1 hMarkedMore
            hPrefix hLater with
          ⟨⟨full, hFull, hBelongs⟩, later, hLaterOf⟩
        refine ⟨⟨full, List.mem_cons_of_mem _ hFull, hBelongs⟩,
          later, ?_⟩
        rw [hLaterOf, hMore]
        simp only [List.append_assoc]
      rcases hDone with ⟨rest, hRestOf⟩
      rcases List.append_eq_append_iff.mp hRestOf with
        ⟨left, hLeft, hRight⟩ | ⟨more, hMore, hRight⟩
      · -- The completed stages end inside this phase.
        have hPendingLeft : pending = left := by
          rw [hFilter, hLeft]
          rw [hLeft] at hNodup hMarked
          refine filter_of_done
            (List.nodup_append.mp hNodup).1 ?_
          intro stage hStage
          rw [← hMarked stage (List.mem_append_left _ hStage)]
          simp
        subst hPendingLeft
        split at hRest
        next hNil =>
          refine hPast [] ?_ List.nil_prefix hRest
          rw [hLeft, hNil]
          simp
        next hSome =>
          cases hRest
          refine ⟨⟨first, List.mem_cons_self, rfl, rfl, ?_⟩,
            stagesOf list, by rw [hLeft]⟩
          intro stage hStage
          rw [hLeft]
          exact List.mem_append_right _ hStage
      · have hNil : pending = [] := by
          rw [hFilter, List.filter_eq_nil_iff]
          intro stage hStage hNone
          have hIn : stage ∈ done := by
            rw [hMore]
            exact List.mem_append_left _ hStage
          have hMarker :=
            (hMarked stage
              (List.mem_append_left _ hStage)).mpr hIn
          exact hMarker (Option.isNone_iff_eq_none.mp hNone)
        rw [if_pos hNil] at hRest
        exact hPast more hMore ⟨rest, hRight.symm⟩ hRest

------------------------------------------------------------
-- How Far A Campaign Has Come
------------------------------------------------------------

/- No acquisition is open. -/
def Settled (seen : StageTally) : Prop :=
  seen.acquired = seen.completed

/- The stages that a worker has before it in its phase. -/
structure OnPhase
    (smoke : Bool)
    (seen : StageTally)
    (boot : Boot)
    (phase : Phase)
    (rest : List Stage) : Prop where
  ordered :
    ∃ later,
      stageOrder smoke = seen.completed ++ rest ++ later
  belongs :
    ∃ full ∈ phases smoke, full.variant = phase.variant ∧
      full.threaded = phase.threaded ∧
      ∀ stage ∈ rest, stage ∈ full.stages
  boot :
    bootMatches phase.variant phase.threaded boot = true

/- The worker has passed the checks of its start. -/
structure Admitted
    (seen : StageTally)
    (boot : Boot)
    (bootId : String) : Prop where
  settled : Settled seen
  bootId : bootId = boot.bootId

/- No request is in the file, nor in what the worker holds. -/
structure Clear (file held : Pipeline) : Prop where
  file : file.pendingBoot = none
  held : held.pendingBoot = none

/- What a worker knows where it stands. -/
def PointFacts
    (smoke : Bool)
    (seen : StageTally)
    (s : Campaign)
    (w : Worker) : Prop :=
  match w.point with
  | .verifying => w.state = s.pipeline
  | .opening => w.state = s.pipeline
  | .saveRunning =>
      Admitted seen s.boot w.bootId ∧ w.state.pendingBoot = none
  | .savePending =>
      Admitted seen s.boot w.bootId ∧ s.pipeline.pendingBoot = none ∧
        ∃ pending, w.state.pendingBoot = some pending ∧
          pending.bootId = s.boot.bootId
  | .requesting =>
      Admitted seen s.boot w.bootId ∧
        ∃ pending, s.pipeline.pendingBoot = some pending ∧
          w.state.pendingBoot = some pending ∧
          pending.bootId = s.boot.bootId
  | .stages phase rest =>
      Admitted seen s.boot w.bootId ∧ Clear s.pipeline w.state ∧
        OnPhase smoke seen s.boot phase rest
  | .saveActive phase stage rest =>
      Admitted seen s.boot w.bootId ∧ Clear s.pipeline w.state ∧
        OnPhase smoke seen s.boot phase (stage :: rest) ∧
        w.state.activeStage = some stage
  | .running phase stage rest =>
      Admitted seen s.boot w.bootId ∧ Clear s.pipeline w.state ∧
        OnPhase smoke seen s.boot phase (stage :: rest) ∧
        w.state.activeStage = some stage ∧
        s.pipeline.activeStage = some stage
  | .acquiring phase stage rest =>
      seen.acquired = seen.completed ++ [stage] ∧
        w.bootId = s.boot.bootId ∧ Clear s.pipeline w.state ∧
        OnPhase smoke seen s.boot phase (stage :: rest) ∧
        w.state.activeStage = s.pipeline.activeStage
  | .acquired phase _ rest =>
      Admitted seen s.boot w.bootId ∧ Clear s.pipeline w.state ∧
        OnPhase smoke seen s.boot phase rest
  | .saveDone phase rest =>
      Admitted seen s.boot w.bootId ∧ Clear s.pipeline w.state ∧
        OnPhase smoke seen s.boot phase rest
  | .saveFailed =>
      Settled seen ∨
        w.state.activeStage = s.pipeline.activeStage
  | .restoring =>
      Settled seen ∨
        w.state.activeStage = s.pipeline.activeStage
  | _ => Admitted seen s.boot w.bootId ∧ Clear s.pipeline w.state

/- The files against the history. -/
structure Progress
    (smoke : Bool)
    (log : List CampaignEvent)
    (s : Campaign) : Prop where
  smoke_eq : s.pipeline.smoke = smoke
  marked :
    ∀ stage,
      s.markers stage ≠ none ↔ stage ∈ completions log
  done : completions log <+: stageOrder smoke
  acquired :
    Settled (stageTally log) ∨
      ∃ stage,
        acquisitions log = completions log ++ [stage] ∧
        acquisitions log <+: stageOrder smoke ∧
        s.pipeline.activeStage = some stage
  matched :
    ∀ stage boot, .acquire stage boot ∈ log →
      ∃ phase ∈ phases smoke, stage ∈ phase.stages ∧
        bootMatches phase.variant phase.threaded boot = true
  worker :
    ∀ w, s.worker = some w →
      w.state.smoke = smoke ∧ PointFacts smoke (stageTally log) s w

theorem queued_progress
    (smoke : Bool)
    (adapters : Stage → String)
    (boot : Boot) :
    Progress smoke [] (queuedCampaign smoke adapters boot) where
  smoke_eq := rfl
  marked := by simp [queuedCampaign, completions]
  done := List.nil_prefix
  acquired := Or.inl rfl
  matched := by simp
  worker := by simp [queuedCampaign]

section

variable {smoke : Bool}
variable {log : List CampaignEvent}
variable {s : Campaign}

/- A step that adds nothing to the history. -/
theorem Progress.keep
    {s t : Campaign}
    (hProgress : Progress smoke log s)
    (hSmoke : t.pipeline.smoke = smoke)
    (hMarkers : t.markers = s.markers)
    (hActive :
      Settled (stageTally log) ∨
        t.pipeline.activeStage = s.pipeline.activeStage)
    (hWorker :
      ∀ w, t.worker = some w →
        w.state.smoke = smoke ∧ PointFacts smoke (stageTally log) t w) :
    Progress smoke log t where
  smoke_eq := hSmoke
  marked := by
    rw [hMarkers]
    exact hProgress.marked
  done := hProgress.done
  acquired := by
    rcases hActive with hSettled | hSame
    · exact Or.inl hSettled
    · rw [hSame]
      exact hProgress.acquired
  matched := hProgress.matched
  worker := hWorker

/- Where the state could be saved by the handler. -/
theorem PointFacts.active
    {w : Worker}
    (hFacts : PointFacts smoke (stageTally log) s w) :
    Settled (stageTally log) ∨
      w.state.activeStage = s.pipeline.activeStage := by
  rcases w with ⟨point, state, bootId⟩
  cases point with
  | verifying => exact Or.inr (congrArg Pipeline.activeStage hFacts)
  | opening => exact Or.inr (congrArg Pipeline.activeStage hFacts)
  | acquiring phase stage rest => exact Or.inr hFacts.2.2.2.2
  | saveFailed => exact hFacts
  | restoring => exact hFacts
  | _ => exact Or.inl hFacts.1.settled

/- An open acquisition keeps a worker from opening. -/
theorem openCampaign_settled
    {root : String}
    {state : Pipeline}
    (hProgress : Progress smoke log s)
    (hOpen : s.openCampaign root s.pipeline = .ok state) :
    Settled (stageTally log) := by
  rcases hProgress.acquired with hSettled | hWaiting
  · exact hSettled
  · rcases hWaiting with ⟨stage, hAcquired, hPrefix, hActive⟩
    unfold Campaign.openCampaign at hOpen
    rcases bind_eq_ok.mp hOpen with ⟨_, hChecked, _⟩
    simp only [Campaign.checkInterrupted, hActive] at hChecked
    rcases bind_eq_ok.mp hChecked with ⟨done, hDone, hRest⟩
    have hMarked := complete_eq_ok hDone
    split at hRest
    next hTrue =>
      -- A completed stage is not acquired a second time.
      have hIn :=
        (hProgress.marked stage).mp (hMarked.mp hTrue)
      have hNodup :
          (completions log ++ [stage]).Nodup := by
        rw [← hAcquired]
        exact hPrefix.sublist.nodup (stageOrder_nodup smoke)
      exact absurd (List.mem_singleton_self stage)
        (List.disjoint_of_nodup_append hNodup hIn)
    · cases hRest

theorem openCampaign_state
    {root : String}
    {before state : Pipeline}
    (hOpen : s.openCampaign root before = .ok state) :
    state.smoke = before.smoke ∧ state.pendingBoot = none ∧
      ∀ pending, before.pendingBoot = some pending →
        pending.bootId ≠ s.boot.bootId ∧
          bootMatches pending.variant pending.threaded s.boot =
            true := by
  unfold Campaign.openCampaign at hOpen
  rcases bind_eq_ok.mp hOpen with ⟨_, _, hRest⟩
  rcases bind_eq_ok.mp hRest with ⟨cleared, hCleared, hSame⟩
  cases hSame
  unfold clearPending at hCleared
  split at hCleared
  next hNone =>
    cases hCleared
    simp [hNone]
  next pending hSome =>
    split at hCleared
    · cases hCleared
    next hSound =>
      cases hCleared
      rw [not_or] at hSound
      refine ⟨rfl, rfl, ?_⟩
      intro other hOther
      rw [hSome] at hOther
      cases hOther
      exact ⟨hSound.1, by simpa using hSound.2⟩

end

------------------------------------------------------------
-- Steps Of The Worker
------------------------------------------------------------

section Steps

variable {root : String}
variable {smoke : Bool}
variable {log : List CampaignEvent}
variable {s : Campaign}
variable {w : Worker}

/- The worker goes on and writes no file. -/
theorem Progress.hold
    {next : Worker}
    (hProgress : Progress smoke log s)
    (hSmoke : next.state.smoke = smoke)
    (hFacts :
      PointFacts smoke (stageTally log) (s.withWorker next) next) :
    Progress smoke log (s.withWorker next) := by
  refine hProgress.keep hProgress.smoke_eq rfl (Or.inr rfl) ?_
  intro u hWorker
  cases hWorker
  exact ⟨hSmoke, hFacts⟩

/- The worker writes the state file. -/
theorem Progress.saved
    {point : WorkerPoint}
    (hProgress : Progress smoke log s)
    (hSmoke : w.state.smoke = smoke)
    (hFacts : PointFacts smoke (stageTally log) s w)
    (hNext :
      PointFacts smoke (stageTally log) (s.save w point) (w.at point)) :
    Progress smoke log (s.save w point) := by
  refine hProgress.keep hSmoke rfl hFacts.active ?_
  intro u hWorker
  cases hWorker
  exact ⟨hSmoke, hNext⟩

variable {t : Campaign}
variable {boot : Boot}
variable {phase : Phase}
variable {rest : List Stage}
variable {stage : Stage}

/- The worker is gone. -/
theorem Progress.ended
    (hProgress : Progress smoke log s)
    (hSmoke : t.pipeline.smoke = s.pipeline.smoke)
    (hMarkers : t.markers = s.markers)
    (hActive : t.pipeline.activeStage = s.pipeline.activeStage)
    (hNone : t.worker = none) :
    Progress smoke log t := by
  refine hProgress.keep (hSmoke.trans hProgress.smoke_eq)
    hMarkers (Or.inr hActive) ?_
  intro u hWorker
  rw [hNone] at hWorker
  cases hWorker

/- The worker goes into the handler. -/
theorem Progress.failed
    (hProgress : Progress smoke log s)
    (hSmoke : w.state.smoke = smoke)
    (hFacts : PointFacts smoke (stageTally log) s w)
    (error : String) :
    Progress smoke log (s.withWorker (w.fail error)) :=
  hProgress.hold hSmoke hFacts.active

/- A longer history in which no stage has completed since. -/
theorem OnPhase.congr
    {seen later : StageTally}
    (hPhase : OnPhase smoke seen boot phase rest)
    (hSame : later.completed = seen.completed) :
    OnPhase smoke later boot phase rest where
  ordered := by
    rw [hSame]
    exact hPhase.ordered
  belongs := hPhase.belongs
  boot := hPhase.boot

/- The first of the stages has completed. -/
theorem OnPhase.advance
    {seen later : StageTally}
    (hPhase : OnPhase smoke seen boot phase (stage :: rest))
    (hDone : later.completed = seen.completed ++ [stage]) :
    OnPhase smoke later boot phase rest where
  ordered := by
    rcases hPhase.ordered with ⟨after, hOrder⟩
    refine ⟨after, ?_⟩
    rw [hDone, hOrder]
    simp
  belongs := by
    rcases hPhase.belongs with
      ⟨full, hFull, hVariant, hThreaded, hStages⟩
    exact ⟨full, hFull, hVariant, hThreaded,
      fun other hOther =>
        hStages other (List.mem_cons_of_mem _ hOther)⟩
  boot := hPhase.boot

theorem OnPhase.acquire_prefix
    {seen : StageTally}
    (hPhase : OnPhase smoke seen boot phase (stage :: rest)) :
    seen.completed ++ [stage] <+: stageOrder smoke := by
  rcases hPhase.ordered with ⟨later, hOrder⟩
  refine ⟨rest ++ later, ?_⟩
  rw [hOrder]
  simp

/- The stage that comes next has no marker. -/
theorem Progress.unmarked
    (hProgress : Progress smoke log s)
    (hPhase : OnPhase smoke (stageTally log) boot phase (stage :: rest)) :
    s.markers stage = none := by
  have hNodup :=
    hPhase.acquire_prefix.sublist.nodup
      (stageOrder_nodup smoke)
  by_contra hMarked
  exact
    List.disjoint_of_nodup_append hNodup
      ((hProgress.marked stage).mp hMarked)
      (List.mem_singleton_self stage)

theorem OnPhase.acquire_matched
    {seen : StageTally}
    (hPhase : OnPhase smoke seen boot phase (stage :: rest)) :
    ∃ full ∈ phases smoke, stage ∈ full.stages ∧
      bootMatches full.variant full.threaded boot = true := by
  rcases hPhase.belongs with
    ⟨full, hFull, hVariant, hThreaded, hStages⟩
  refine ⟨full, hFull, hStages stage List.mem_cons_self, ?_⟩
  rw [hVariant, hThreaded]
  exact hPhase.boot

/- The choice of the next phase. -/
theorem choose_progress
    (hProgress : Progress smoke log s)
    (hSmoke : w.state.smoke = smoke)
    (hAdmitted : Admitted (stageTally log) s.boot w.bootId)
    (hClear : Clear s.pipeline w.state) :
    Progress smoke log (s.withWorker (s.choose root w)) := by
  have hMarked :
      ∀ stage ∈ stagesOf (phases smoke),
        s.markers stage ≠ none ↔ stage ∈ completions log :=
    fun stage _ => hProgress.marked stage
  unfold Campaign.choose
  rw [hProgress.smoke_eq]
  split
  · exact hProgress.hold hSmoke (Or.inl hAdmitted.settled)
  · exact hProgress.hold hSmoke ⟨hAdmitted, hClear⟩
  next phase hNext =>
    split
    next hBoot =>
      rcases nextPhase_eq_some (stageOrder_nodup smoke) hMarked
          hProgress.done hNext with ⟨hBelongs, hOrdered⟩
      exact hProgress.hold hSmoke
        ⟨hAdmitted, hClear, ⟨hOrdered, hBelongs, hBoot⟩⟩
    · exact hProgress.hold hSmoke ⟨hAdmitted, hClear⟩

/- An acquisition starts. -/
theorem running_progress
    {state : Pipeline}
    {bootId : String}
    (hProgress : Progress smoke log s)
    (hSmoke : state.smoke = smoke)
    (hFacts :
      PointFacts smoke (stageTally log) s
        ⟨.running phase stage rest, state, bootId⟩) :
    Progress smoke (log ++ [.acquire stage s.boot])
      (workerProceed root s
        ⟨.running phase stage rest, state, bootId⟩) := by
  rcases hFacts with
    ⟨hAdmitted, hClear, hPhase, hHeld, hActive⟩
  have hSame :
      completions (log ++ [.acquire stage s.boot]) =
        completions log := by
    simp [completions]
  have hAcquired :
      acquisitions (log ++ [.acquire stage s.boot]) =
        completions (log ++ [.acquire stage s.boot]) ++
          [stage] := by
    have hSettled : acquisitions log = completions log :=
      hAdmitted.settled
    rw [hSame, acquisitions_append, hSettled]
    simp [acquisitions]
  simp only [workerProceed, hProgress.unmarked hPhase]
  refine
    { smoke_eq := hProgress.smoke_eq
      marked := ?_
      done := ?_
      acquired := ?_
      matched := ?_
      worker := ?_ }
  · rw [hSame]
    exact hProgress.marked
  · rw [hSame]
    exact hProgress.done
  · refine Or.inr ⟨stage, hAcquired, ?_, hActive⟩
    rw [hAcquired, hSame]
    exact hPhase.acquire_prefix
  · intro other boot hIn
    rcases List.mem_append.mp hIn with hOld | hNew
    · exact hProgress.matched other boot hOld
    · cases List.mem_singleton.mp hNew
      exact hPhase.acquire_matched
  · intro u hWorker
    cases hWorker
    refine ⟨hSmoke, hAcquired, hAdmitted.bootId,
      ⟨hClear.file, hClear.held⟩, hPhase.congr hSame, ?_⟩
    exact hHeld.trans hActive.symm

/- The marker of a stage is written. -/
theorem acquiring_progress
    {state : Pipeline}
    {bootId : String}
    (hProgress : Progress smoke log s)
    (hSmoke : state.smoke = smoke)
    (hFacts :
      PointFacts smoke (stageTally log) s
        ⟨.acquiring phase stage rest, state, bootId⟩) :
    Progress smoke (log ++ [.completed stage])
      (workerProceed root s
        ⟨.acquiring phase stage rest, state, bootId⟩) := by
  rcases hFacts with
    ⟨hAcquired, hBoot, hClear, hPhase, -⟩
  have hDone :
      completions (log ++ [.completed stage]) =
        completions log ++ [stage] := by
    simp [completions]
  have hSettled :
      acquisitions (log ++ [.completed stage]) =
        completions (log ++ [.completed stage]) := by
    have hOpen :
        acquisitions log = completions log ++ [stage] :=
      hAcquired
    rw [hDone, acquisitions_append, hOpen]
    simp [acquisitions]
  refine
    { smoke_eq := hProgress.smoke_eq
      marked := ?_
      done := ?_
      acquired := Or.inl hSettled
      matched := ?_
      worker := ?_ }
  · intro other
    rw [hDone, List.mem_append, List.mem_singleton,
      ← hProgress.marked other]
    by_cases hOther : other = stage
    · subst hOther
      simp [workerProceed]
    · simp [workerProceed, hOther]
  · rw [hDone]
    exact hPhase.acquire_prefix
  · intro other boot hIn
    rcases List.mem_append.mp hIn with hOld | hNew
    · exact hProgress.matched other boot hOld
    · cases List.mem_singleton.mp hNew
  · intro u hWorker
    cases hWorker
    exact ⟨hSmoke, ⟨hSettled, hBoot⟩,
      ⟨hClear.file, hClear.held⟩, hPhase.advance hDone⟩

/- The steps around the acquisitions. -/
theorem workerProceed_quiet
    (hProgress : Progress smoke log s)
    (hWorker : s.worker = some w)
    (hRunning :
      ∀ phase stage rest, w.point ≠ .running phase stage rest)
    (hAcquiring :
      ∀ phase stage rest,
        w.point ≠ .acquiring phase stage rest) :
    Progress smoke log (workerProceed root s w) := by
  rcases hProgress.worker w hWorker with ⟨hSmoke, hFacts⟩
  have hPoint := hFacts
  have hEnded :
      Progress smoke log { s with worker := none } :=
    hProgress.ended rfl rfl rfl rfl
  rcases w with ⟨point, state, bootId⟩
  cases point with
  | running phase stage rest =>
      exact absurd rfl (hRunning phase stage rest)
  | acquiring phase stage rest =>
      exact absurd rfl (hAcquiring phase stage rest)
  | verifying => exact hProgress.hold hSmoke hFacts
  | opening =>
      have hRead : state = s.pipeline := hFacts
      simp only [workerProceed]
      split
      next error hOpen =>
        exact hProgress.failed hSmoke hFacts error
      next next hOpen =>
        rw [hRead] at hOpen
        rcases openCampaign_state hOpen with
          ⟨hSame, hNone, -⟩
        exact hProgress.hold (hSame.trans hProgress.smoke_eq)
          ⟨⟨openCampaign_settled hProgress hOpen, rfl⟩, hNone⟩
  | saveRunning =>
      rcases hFacts with ⟨hAdmitted, hNone⟩
      exact hProgress.saved hSmoke hPoint
        ⟨hAdmitted, hNone, hNone⟩
  | refreshing => exact hProgress.hold hSmoke hFacts
  | choosing =>
      exact choose_progress hProgress hSmoke hFacts.1 hFacts.2
  | selecting phase =>
      rcases hFacts with ⟨hAdmitted, hClear⟩
      exact hProgress.hold hSmoke
        ⟨hAdmitted, hClear.file, _, rfl, hAdmitted.bootId⟩
  | savePending =>
      rcases hFacts with
        ⟨hAdmitted, -, pending, hHeld, hBootId⟩
      exact hProgress.saved hSmoke hPoint
        ⟨hAdmitted, pending, hHeld, hHeld, hBootId⟩
  | requesting => exact hEnded
  | stages phase rest =>
      rcases hFacts with ⟨hAdmitted, hClear, hPhase⟩
      cases rest with
      | nil => exact hProgress.hold hSmoke ⟨hAdmitted, hClear⟩
      | cons stage rest =>
          exact hProgress.hold hSmoke
            ⟨hAdmitted, ⟨hClear.file, hClear.held⟩, hPhase, rfl⟩
  | saveActive phase stage rest =>
      rcases hFacts with ⟨hAdmitted, hClear, hPhase, hActive⟩
      exact hProgress.saved hSmoke hPoint
        ⟨hAdmitted, ⟨hClear.held, hClear.held⟩, hPhase, hActive,
          hActive⟩
  | acquired phase stage rest =>
      rcases hFacts with ⟨hAdmitted, hClear, hPhase⟩
      simp only [workerProceed]
      split
      · exact hProgress.failed hSmoke hPoint _
      · exact hProgress.failed hSmoke hPoint _
      · exact hProgress.hold hSmoke
          ⟨hAdmitted, ⟨hClear.file, hClear.held⟩, hPhase⟩
  | saveDone phase rest =>
      rcases hFacts with ⟨hAdmitted, hClear, hPhase⟩
      exact hProgress.saved hSmoke hPoint
        ⟨hAdmitted, ⟨hClear.held, hClear.held⟩, hPhase⟩
  | analysing =>
      rcases hFacts with ⟨hAdmitted, hClear⟩
      exact hProgress.hold hSmoke
        ⟨hAdmitted, hClear.file, hClear.held⟩
  | saveComplete =>
      rcases hFacts with ⟨hAdmitted, hClear⟩
      exact hProgress.saved hSmoke hPoint
        ⟨hAdmitted, hClear.held, hClear.held⟩
  | disabling => exact hEnded
  | saveFailed =>
      exact hProgress.saved hSmoke hFacts (Or.inr rfl)
  | restoring => exact hEnded

/- Events that neither start nor complete a stage. -/
theorem Progress.silent
    {events : List CampaignEvent}
    (hProgress : Progress smoke log s)
    (hAcquire :
      ∀ stage boot, .acquire stage boot ∉ events)
    (hComplete : ∀ stage, .completed stage ∉ events) :
    Progress smoke (log ++ events) s := by
  have hNoAcquisition : acquisitions events = [] := by
    rw [acquisitions, List.filterMap_eq_nil_iff]
    intro event hEvent
    cases event with
    | acquire stage boot => exact absurd hEvent (hAcquire _ _)
    | _ => rfl
  have hNoCompletion : completions events = [] := by
    rw [completions, List.filterMap_eq_nil_iff]
    intro event hEvent
    cases event with
    | completed stage => exact absurd hEvent (hComplete _)
    | _ => rfl
  have hAcquired :
      acquisitions (log ++ events) = acquisitions log := by
    rw [acquisitions_append, hNoAcquisition, List.append_nil]
  have hCompleted :
      completions (log ++ events) = completions log := by
    rw [completions_append, hNoCompletion, List.append_nil]
  have hTally : stageTally (log ++ events) = stageTally log := by
    rw [stageTally, stageTally, hAcquired, hCompleted]
  refine
    { smoke_eq := hProgress.smoke_eq
      marked := by
        rw [hCompleted]
        exact hProgress.marked
      done := by
        rw [hCompleted]
        exact hProgress.done
      acquired := by
        rw [hTally, hAcquired, hCompleted]
        exact hProgress.acquired
      matched := ?_
      worker := by
        rw [hTally]
        exact hProgress.worker }
  intro stage boot hIn
  rcases List.mem_append.mp hIn with hOld | hNew
  · exact hProgress.matched stage boot hOld
  · exact absurd hNew (hAcquire stage boot)

/- A request for a reboot is the only event of a worker. -/
theorem mem_requests
    {event : CampaignEvent}
    (hEvent : event ∈ w.requests) :
    w.point = .requesting ∧
      ∃ pending, w.state.pendingBoot = some pending ∧
        event = .request pending := by
  unfold Worker.requests at hEvent
  split at hEvent
  next hPoint =>
    rw [Option.mem_toList, Option.map_eq_some_iff] at hEvent
    rcases hEvent with ⟨pending, hPending, hSame⟩
    exact ⟨hPoint, pending, hPending, hSame.symm⟩
  · cases hEvent

theorem Progress.requests
    (hProgress : Progress smoke log s) :
    Progress smoke (log ++ w.requests) s := by
  refine hProgress.silent ?_ ?_
  · intro stage boot hIn
    rcases mem_requests hIn with ⟨-, pending, -, hSame⟩
    cases hSame
  · intro stage hIn
    rcases mem_requests hIn with ⟨-, pending, -, hSame⟩
    cases hSame

theorem workerProceed_progress
    (hProgress : Progress smoke log s)
    (hWorker : s.worker = some w) :
    Progress smoke (log ++ w.events s.boot)
      (workerProceed root s w) := by
  rcases hProgress.worker w hWorker with ⟨hSmoke, hFacts⟩
  rcases hPoint : w with ⟨point, state, bootId⟩
  subst hPoint
  unfold Worker.events
  split
  next phase stage rest hPoint =>
    cases hPoint
    exact running_progress hProgress hSmoke hFacts
  next phase stage rest hPoint =>
    cases hPoint
    exact acquiring_progress hProgress hSmoke hFacts
  next hRunning hAcquiring =>
    exact (workerProceed_quiet hProgress hWorker hRunning
      hAcquiring).requests

theorem workerRaise_progress
    (hProgress : Progress smoke log s)
    (hWorker : s.worker = some w)
    (error : String) :
    Progress smoke (log ++ w.requests)
      (workerRaise s w error) := by
  rcases hProgress.worker w hWorker with ⟨hSmoke, hFacts⟩
  have hEnded :
      Progress smoke log { s with worker := none } :=
    hProgress.ended rfl rfl rfl rfl
  unfold workerRaise
  split
  · exact hEnded.requests
  · exact hEnded.requests
  · exact (hProgress.failed hSmoke hFacts error).requests

/- A resumed campaign has only lost its request. -/
theorem controlResume_eq_ok
    (hResume : controlResume root s = .ok t) :
    s.worker = none ∧ t = s.requeue := by
  unfold controlResume at hResume
  split at hResume
  · cases hResume
  · split at hResume
    · cases hResume
    next hWorker =>
      have hNone : s.worker = none := by simpa using hWorker
      split at hResume
      · cases hResume
        exact ⟨hNone, rfl⟩
      · rcases bind_eq_ok.mp hResume with ⟨done, -, hRest⟩
        split at hRest
        · cases hRest
          exact ⟨hNone, rfl⟩
        · cases hRest

theorem step_progress
    {action : CampaignAction}
    (hProgress : Progress smoke log s)
    (hStep : campaignStep root s action = some t) :
    Progress smoke (log ++ campaignEvents s action) t := by
  cases action with
  | start =>
      simp only [campaignEvents, List.append_nil]
      simp only [campaignStep] at hStep
      split at hStep
      · cases hStep
      · cases hStep
        exact hProgress.hold hProgress.smoke_eq rfl
  | proceed =>
      rcases Option.map_eq_some_iff.mp hStep with
        ⟨w, hWorker, hNext⟩
      subst hNext
      simp only [campaignEvents, hWorker, Option.elim_some]
      exact workerProceed_progress hProgress hWorker
  | raised error =>
      rcases Option.map_eq_some_iff.mp hStep with
        ⟨w, hWorker, hNext⟩
      subst hNext
      simp only [campaignEvents, hWorker, Option.elim_some]
      exact workerRaise_progress hProgress hWorker error
  | rewrite adapters =>
      simp only [campaignEvents, List.append_nil]
      simp only [campaignStep] at hStep
      split at hStep
      · cases hStep
        exact hProgress.keep hProgress.smoke_eq rfl
          (Or.inr rfl) hProgress.worker
      · cases hStep
  | kill =>
      simp only [campaignEvents, List.append_nil]
      cases hStep
      exact hProgress.ended rfl rfl rfl rfl
  | reboot boot =>
      cases hStep
      have hEnded :
          Progress smoke log
            { s with boot := boot, worker := none } :=
        hProgress.ended rfl rfl rfl rfl
      exact hEnded.silent (by simp [campaignEvents])
        (by simp [campaignEvents])
  | stop =>
      simp only [campaignEvents, List.append_nil]
      cases hStep
      unfold controlStop
      split
      · exact hProgress
      · exact hProgress.ended rfl rfl rfl rfl
  | resume =>
      simp only [campaignStep] at hStep
      cases hResume : controlResume root s with
      | error error =>
          rw [hResume] at hStep
          cases hStep
      | ok next =>
          rw [hResume] at hStep
          cases hStep
          rcases controlResume_eq_ok hResume with
            ⟨hNone, hNext⟩
          subst hNext
          have hEnded : Progress smoke log s.requeue :=
            hProgress.ended rfl rfl rfl hNone
          exact hEnded.silent (by simp [campaignEvents])
            (by simp [campaignEvents])

end Steps

------------------------------------------------------------
-- Waiting For A Boot
------------------------------------------------------------

/-
  What has to happen after a request: a boot of the requested
  kernel with a new boot id, or a resumption.
-/
def Answered
    (pending : PendingBoot)
    (log : List CampaignEvent) : Prop :=
  .resumed ∈ log ∨
    ∃ boot, .booted boot ∈ log ∧
      bootMatches pending.variant pending.threaded boot =
        true ∧
      boot.bootId ≠ pending.bootId

theorem Answered.append
    {pending : PendingBoot}
    {log : List CampaignEvent}
    (hAnswered : Answered pending log)
    (events : List CampaignEvent) :
    Answered pending (log ++ events) := by
  rcases hAnswered with hResumed | ⟨boot, hBooted, hMatches⟩
  · exact Or.inl (List.mem_append_left _ hResumed)
  · exact Or.inr
      ⟨boot, List.mem_append_left _ hBooted, hMatches⟩

/- Where a worker may stand while a request is unanswered. -/
def WorkerPoint.waits : WorkerPoint → Bool
| .verifying => true
| .opening => true
| .saveFailed => true
| .restoring => true
| _ => false

/- A request that was made, and what came after it. -/
def Since
    (log : List CampaignEvent)
    (pending : PendingBoot)
    (after : List CampaignEvent) : Prop :=
  ∃ before, log = before ++ .request pending :: after

/- A request stays in both copies of the state. -/
structure Held
    (s : Campaign)
    (pending : PendingBoot) : Prop where
  file : s.pipeline.pendingBoot = some pending
  held :
    ∀ w, s.worker = some w →
      w.point.waits = true ∧
        w.state.pendingBoot = some pending

/- The requests of a history against the state. -/
structure Waiting
    (log : List CampaignEvent)
    (s : Campaign) : Prop where
  waiting :
    ∀ pending after, Since log pending after →
      Answered pending after ∨ Held s pending
  booted :
    ∀ pending after, Since log pending after →
      s.boot.bootId = pending.bootId ∨
        .booted s.boot ∈ after
  separated :
    ∀ pending after next later,
      Since log pending (after ++ .request next :: later) →
        Answered pending after

/- An event in a longer history is old or new. -/
theorem append_eq_append_cons
    {log events before after : List CampaignEvent}
    {event : CampaignEvent}
    (hSplit : log ++ events = before ++ event :: after) :
    (∃ middle, after = middle ++ events ∧
      log = before ++ event :: middle) ∨
    (∃ left, before = log ++ left ∧
      events = left ++ event :: after) := by
  rcases List.append_eq_append_iff.mp hSplit with
    ⟨left, hBefore, hEvents⟩ | ⟨right, hLog, hRest⟩
  · exact Or.inr ⟨left, hBefore, hEvents⟩
  · cases right with
    | nil =>
        right
        refine ⟨[], ?_, ?_⟩
        · simpa using hLog.symm
        · simpa using hRest.symm
    | cons first right =>
        simp only [List.cons_append, List.cons.injEq] at hRest
        rcases hRest with ⟨hFirst, hAfter⟩
        left
        refine ⟨right, hAfter, ?_⟩
        rw [hLog, hFirst]

section Steps

variable {root : String}
variable {smoke : Bool}
variable {log : List CampaignEvent}
variable {s t : Campaign}
variable {w : Worker}

/- A step that makes no request. -/
theorem Waiting.extend
    {events : List CampaignEvent}
    (hWaiting : Waiting log s)
    (hQuiet : ∀ pending, .request pending ∉ events)
    (hHeld :
      ∀ pending after, Since log pending after →
        Held s pending →
          Answered pending (after ++ events) ∨ Held t pending)
    (hBoot : t.boot = s.boot ∨ .booted t.boot ∈ events) :
    Waiting (log ++ events) t := by
  have hOld :
      ∀ pending after, Since (log ++ events) pending after →
        ∃ middle, after = middle ++ events ∧
          Since log pending middle := by
    intro pending after hSince
    rcases hSince with ⟨before, hSplit⟩
    rcases append_eq_append_cons hSplit with
      ⟨middle, hAfter, hLog⟩ | ⟨left, -, hEvents⟩
    · exact ⟨middle, hAfter, before, hLog⟩
    · exact absurd (by simp [hEvents]) (hQuiet pending)
  refine ⟨?_, ?_, ?_⟩
  · intro pending after hSince
    rcases hOld pending after hSince with
      ⟨middle, hAfter, hBefore⟩
    subst hAfter
    rcases hWaiting.waiting pending middle hBefore with
      hAnswered | hStill
    · exact Or.inl (hAnswered.append events)
    · exact hHeld pending middle hBefore hStill
  · intro pending after hSince
    rcases hOld pending after hSince with
      ⟨middle, hAfter, hBefore⟩
    subst hAfter
    rcases hBoot with hSame | hNew
    · rw [hSame]
      exact (hWaiting.booted pending middle hBefore).imp_right
        (List.mem_append_left events)
    · exact Or.inr (List.mem_append_right middle hNew)
  · intro pending after next later hSince
    rcases hOld pending _ hSince with
      ⟨middle, hAfter, hBefore⟩
    rcases append_eq_append_cons hAfter.symm with
      ⟨rest, -, hMiddle⟩ | ⟨left, -, hEvents⟩
    · subst hMiddle
      exact hWaiting.separated pending after next rest hBefore
    · exact absurd (by simp [hEvents]) (hQuiet next)

variable {pending : PendingBoot}

/- A request is made when no other waits. -/
theorem Waiting.request
    (hWaiting : Waiting log s)
    (hFree : ∀ other, ¬ Held s other)
    (hId : s.boot.bootId = pending.bootId)
    (hBoot : t.boot = s.boot)
    (hHeld : Held t pending) :
    Waiting (log ++ [.request pending]) t := by
  have hAnswered :
      ∀ other after, Since log other after →
        Answered other after := fun other after hSince =>
    (hWaiting.waiting other after hSince).resolve_right
      (hFree other)
  have hSplit :
      ∀ other after,
        Since (log ++ [.request pending]) other after →
          (∃ middle, after = middle ++ [.request pending] ∧
            Since log other middle) ∨
          (other = pending ∧ after = []) := by
    intro other after hSince
    rcases hSince with ⟨before, hSplit⟩
    rcases append_eq_append_cons hSplit with
      ⟨middle, hAfter, hLog⟩ | ⟨left, -, hEvents⟩
    · exact Or.inl ⟨middle, hAfter, before, hLog⟩
    · right
      cases left with
      | nil =>
          simp only [List.nil_append, List.cons.injEq,
            CampaignEvent.request.injEq] at hEvents
          exact ⟨hEvents.1.symm, hEvents.2.symm⟩
      | cons first left => simp at hEvents
  refine ⟨?_, ?_, ?_⟩
  · intro other after hSince
    rcases hSplit other after hSince with
      ⟨middle, hAfter, hBefore⟩ | ⟨hOther, -⟩
    · subst hAfter
      exact Or.inl ((hAnswered other middle hBefore).append _)
    · subst hOther
      exact Or.inr hHeld
  · intro other after hSince
    rw [hBoot]
    rcases hSplit other after hSince with
      ⟨middle, hAfter, hBefore⟩ | ⟨hOther, -⟩
    · subst hAfter
      exact (hWaiting.booted other middle hBefore).imp_right
        (List.mem_append_left _)
    · subst hOther
      exact Or.inl hId
  · intro other after next later hSince
    rcases hSplit other _ hSince with
      ⟨middle, hAfter, hBefore⟩ | ⟨-, hNil⟩
    · rcases append_eq_append_cons hAfter.symm with
        ⟨rest, -, hMiddle⟩ | ⟨left, hBetween, hEvents⟩
      · subst hMiddle
        exact hWaiting.separated other after next rest hBefore
      · have hLeft : left = [] := by
          cases left with
          | nil => rfl
          | cons first left => simp at hEvents
        rw [hLeft, List.append_nil] at hBetween
        rw [hBetween]
        exact hAnswered other middle hBefore
    · simp at hNil

/- A worker that waits keeps the request or has an answer. -/
theorem workerProceed_held
    {after events : List CampaignEvent}
    (hProgress : Progress smoke log s)
    (hWaiting : Waiting log s)
    (hWorker : s.worker = some w)
    (hSince : Since log pending after)
    (hHeld : Held s pending) :
    Answered pending (after ++ events) ∨
      Held (workerProceed root s w) pending := by
  rcases hProgress.worker w hWorker with ⟨-, hFacts⟩
  rcases hHeld.held w hWorker with ⟨hWaits, hState⟩
  rcases w with ⟨point, state, bootId⟩
  have hMoved :
      ∀ next : Worker,
        next.point.waits = true →
        next.state.pendingBoot = some pending →
          Held (s.withWorker next) pending := by
    intro next hNext hNextState
    refine ⟨hHeld.file, ?_⟩
    intro u hIs
    cases hIs
    exact ⟨hNext, hNextState⟩
  have hGone : Held { s with worker := none } pending :=
    ⟨hHeld.file, fun u hIs => by cases hIs⟩
  cases point with
  | verifying => exact Or.inr (hMoved _ rfl hState)
  | opening =>
      have hRead : state = s.pipeline := hFacts
      simp only [workerProceed]
      split
      · exact Or.inr (hMoved _ rfl hState)
      next next hOpen =>
        -- The checks of the start have passed on this boot.
        rcases (openCampaign_state hOpen).2.2 pending hState
          with ⟨hOther, hMatches⟩
        rcases hWaiting.booted pending after hSince with
          hSame | hBooted
        · exact absurd hSame.symm hOther
        · left
          exact
            Answered.append
              (Or.inr ⟨s.boot, hBooted, hMatches, hOther.symm⟩)
              events
  | saveFailed =>
      right
      refine ⟨hState, ?_⟩
      intro u hIs
      cases hIs
      exact ⟨rfl, hState⟩
  | restoring => exact Or.inr hGone
  | _ => cases hWaits

theorem workerProceed_boot
    (root : String)
    (s : Campaign)
    (w : Worker) :
    (workerProceed root s w).boot = s.boot := by
  unfold workerProceed
  split <;> try rfl
  · split <;> rfl
  · split <;> rfl
  · split <;> rfl

/- Where the reboot is requested, no other request waits. -/
theorem not_held_of_worker
    (hWorker : s.worker = some w)
    (hWaits : w.point.waits = false)
    (pending : PendingBoot) :
    ¬ Held s pending := by
  intro hHeld
  have hStill := (hHeld.held w hWorker).1
  rw [hWaits] at hStill
  cases hStill

/- Elsewhere a worker makes no request. -/
theorem requests_eq_nil
    (hPoint : w.point ≠ .requesting) :
    w.requests = [] := by
  unfold Worker.requests
  split
  next hIs => exact absurd hIs hPoint
  · rfl

theorem workerProceed_waiting
    (hProgress : Progress smoke log s)
    (hWaiting : Waiting log s)
    (hWorker : s.worker = some w) :
    Waiting (log ++ w.events s.boot)
      (workerProceed root s w) := by
  by_cases hPoint : w.point = .requesting
  · have hFacts := (hProgress.worker w hWorker).2
    rcases w with ⟨point, state, bootId⟩
    cases hPoint
    rcases hFacts with ⟨-, pending, hFile, hState, hId⟩
    have hEvents :
        Worker.events s.boot ⟨.requesting, state, bootId⟩ =
          [.request pending] := by
      have hHeld : state.pendingBoot = some pending := hState
      simp [Worker.events, Worker.requests, hHeld]
    rw [hEvents]
    exact hWaiting.request (not_held_of_worker hWorker rfl)
      hId.symm rfl ⟨hFile, fun u hIs => by cases hIs⟩
  · refine hWaiting.extend ?_ ?_
      (Or.inl (workerProceed_boot root s w))
    · intro pending hIn
      unfold Worker.events at hIn
      split at hIn
      · cases List.mem_singleton.mp hIn
      · cases List.mem_singleton.mp hIn
      · rw [requests_eq_nil hPoint] at hIn
        cases hIn
    · intro pending after hSince hHeld
      exact workerProceed_held hProgress hWaiting hWorker
        hSince hHeld

/- The handler keeps the request. -/
theorem workerRaise_held
    (hWorker : s.worker = some w)
    (hHeld : Held s pending)
    (error : String) :
    Held (workerRaise s w error) pending := by
  have hState := (hHeld.held w hWorker).2
  unfold workerRaise
  split
  · exact ⟨hHeld.file, fun u hIs => by cases hIs⟩
  · exact ⟨hHeld.file, fun u hIs => by cases hIs⟩
  · refine ⟨hHeld.file, ?_⟩
    intro u hIs
    cases hIs
    exact ⟨rfl, hState⟩

theorem workerRaise_waiting
    (hProgress : Progress smoke log s)
    (hWaiting : Waiting log s)
    (hWorker : s.worker = some w)
    (error : String) :
    Waiting (log ++ w.requests) (workerRaise s w error) := by
  by_cases hPoint : w.point = .requesting
  · have hFacts := (hProgress.worker w hWorker).2
    rcases w with ⟨point, state, bootId⟩
    cases hPoint
    rcases hFacts with ⟨-, pending, hFile, hState, hId⟩
    have hEvents :
        Worker.requests ⟨.requesting, state, bootId⟩ =
          [.request pending] := by
      have hHeld : state.pendingBoot = some pending := hState
      simp [Worker.requests, hHeld]
    rw [hEvents]
    refine hWaiting.request (not_held_of_worker hWorker rfl)
      hId.symm rfl ⟨hFile, ?_⟩
    intro u hIs
    cases hIs
    exact ⟨rfl, hState⟩
  · have hBoot : (workerRaise s w error).boot = s.boot := by
      unfold workerRaise
      split <;> rfl
    refine hWaiting.extend ?_ ?_ (Or.inl hBoot)
    · rw [requests_eq_nil hPoint]
      simp
    · intro pending after hSince hHeld
      exact Or.inr (workerRaise_held hWorker hHeld error)

/- Without a worker only the file holds the request. -/
theorem Held.gone
    (hHeld : Held s pending)
    (hFile : t.pipeline.pendingBoot = s.pipeline.pendingBoot)
    (hNone : t.worker = none) :
    Held t pending where
  file := hFile.trans hHeld.file
  held u hIs := by
    rw [hNone] at hIs
    cases hIs

theorem step_waiting
    {action : CampaignAction}
    (hProgress : Progress smoke log s)
    (hWaiting : Waiting log s)
    (hStep : campaignStep root s action = some t) :
    Waiting (log ++ campaignEvents s action) t := by
  cases action with
  | start =>
      simp only [campaignStep] at hStep
      split at hStep
      · cases hStep
      · cases hStep
        refine hWaiting.extend (by simp [campaignEvents]) ?_
          (Or.inl rfl)
        intro pending after hSince hHeld
        right
        refine ⟨hHeld.file, ?_⟩
        intro u hIs
        cases hIs
        exact ⟨rfl, hHeld.file⟩
  | proceed =>
      rcases Option.map_eq_some_iff.mp hStep with
        ⟨w, hWorker, hNext⟩
      subst hNext
      simp only [campaignEvents, hWorker, Option.elim_some]
      exact workerProceed_waiting hProgress hWaiting hWorker
  | raised error =>
      rcases Option.map_eq_some_iff.mp hStep with
        ⟨w, hWorker, hNext⟩
      subst hNext
      simp only [campaignEvents, hWorker, Option.elim_some]
      exact workerRaise_waiting hProgress hWaiting hWorker error
  | rewrite adapters =>
      simp only [campaignStep] at hStep
      split at hStep
      · cases hStep
        exact hWaiting.extend (by simp [campaignEvents])
          (fun pending after hSince hHeld =>
            Or.inr ⟨hHeld.file, hHeld.held⟩)
          (Or.inl rfl)
      · cases hStep
  | kill =>
      cases hStep
      exact hWaiting.extend (by simp [campaignEvents])
        (fun pending after hSince hHeld =>
          Or.inr (hHeld.gone rfl rfl))
        (Or.inl rfl)
  | reboot boot =>
      cases hStep
      exact hWaiting.extend (by simp [campaignEvents])
        (fun pending after hSince hHeld =>
          Or.inr (hHeld.gone rfl rfl))
        (Or.inr (by simp [campaignEvents]))
  | stop =>
      cases hStep
      unfold controlStop
      split
      · exact hWaiting.extend (by simp [campaignEvents])
          (fun pending after hSince hHeld => Or.inr hHeld)
          (Or.inl rfl)
      · exact hWaiting.extend (by simp [campaignEvents])
          (fun pending after hSince hHeld =>
            Or.inr (hHeld.gone rfl rfl))
          (Or.inl rfl)
  | resume =>
      simp only [campaignStep] at hStep
      cases hResume : controlResume root s with
      | error error =>
          rw [hResume] at hStep
          cases hStep
      | ok next =>
          rw [hResume] at hStep
          cases hStep
          rcases controlResume_eq_ok hResume with ⟨-, hNext⟩
          subst hNext
          exact hWaiting.extend (by simp [campaignEvents])
            (fun pending after hSince hHeld =>
              Or.inl (Or.inl (by simp [campaignEvents])))
            (Or.inl rfl)

end Steps

------------------------------------------------------------
-- Runs
------------------------------------------------------------

/- The history of a campaign from its first state. -/
def history
    (root : String)
    (s : Campaign)
    (actions : List CampaignAction) : List CampaignEvent :=
  (campaign root).observe campaignEvents s actions

/- The branch that reboots, up to its own write. -/
def WorkerPoint.reboots : WorkerPoint → Bool
| .selecting _ => true
| .savePending => true
| _ => false

theorem PointFacts.reboots
    {smoke : Bool}
    {seen : StageTally}
    {s : Campaign}
    {w : Worker}
    (hFacts : PointFacts smoke seen s w)
    (hReboots : w.point.reboots = true) :
    s.pipeline.pendingBoot = none := by
  rcases w with ⟨point, state, bootId⟩
  cases point with
  | selecting phase => exact hFacts.2.file
  | savePending => exact hFacts.2.1
  | _ => cases hReboots

/-
  Over every run of a campaign: no acquisition is started
  twice, not even one that was interrupted; the stages
  complete in order; each is started on a boot that matches
  its phase; the worker goes into the branch that reboots
  only when no request is pending; and between two requests
  the first is answered.
-/
theorem run_campaign
    (root : String)
    (smoke : Bool)
    (adapters : Stage → String)
    (boot : Boot)
    (actions : List CampaignAction)
    (s : Campaign)
    (hRun :
      (campaign root).run (queuedCampaign smoke adapters boot)
        actions = some s) :
    (∀ stage,
      (acquisitions
        (history root (queuedCampaign smoke adapters boot)
          actions)).count stage ≤ 1) ∧
    completions
        (history root (queuedCampaign smoke adapters boot)
          actions) <+: stageOrder smoke ∧
    (∀ stage used,
      .acquire stage used ∈
          history root (queuedCampaign smoke adapters boot)
            actions →
        ∃ phase ∈ phases smoke, stage ∈ phase.stages ∧
          bootMatches phase.variant phase.threaded used =
            true) ∧
    (∀ w, s.worker = some w → w.point.reboots = true →
      s.pipeline.pendingBoot = none) ∧
    (∀ before first between second after,
      history root (queuedCampaign smoke adapters boot)
          actions =
        before ++
          .request first ::
            (between ++ .request second :: after) →
        Answered first between) := by
  have hStart :
      Progress smoke [] (queuedCampaign smoke adapters boot) ∧
        Waiting [] (queuedCampaign smoke adapters boot) :=
    ⟨queued_progress smoke adapters boot,
      ⟨by simp [Since], by simp [Since], by simp [Since]⟩⟩
  have hBoth :=
    (campaign root).run_observe_invariant
      (f := campaignEvents)
      (P := fun log t =>
        Progress smoke log t ∧ Waiting log t)
      (fun log t action u hBefore hStep =>
        ⟨step_progress hBefore.1 hStep,
          step_waiting hBefore.1 hBefore.2 hStep⟩)
      hStart hRun
  rw [List.nil_append] at hBoth
  rcases hBoth with ⟨hProgress, hWaiting⟩
  have hAcquired :
      acquisitions
          (history root (queuedCampaign smoke adapters boot)
            actions) <+: stageOrder smoke := by
    rcases hProgress.acquired with hSettled | hOpen
    · have hSame :
          acquisitions
              (history root
                (queuedCampaign smoke adapters boot) actions) =
            completions
              (history root
                (queuedCampaign smoke adapters boot)
                actions) := hSettled
      rw [hSame]
      exact hProgress.done
    · rcases hOpen with ⟨stage, -, hPrefix, -⟩
      exact hPrefix
  refine ⟨?_, hProgress.done, hProgress.matched, ?_, ?_⟩
  · exact List.nodup_iff_count_le_one.mp
      (hAcquired.sublist.nodup (stageOrder_nodup smoke))
  · intro w hWorker hReboots
    exact (hProgress.worker w hWorker).2.reboots hReboots
  · intro before first between second after hSplit
    exact hWaiting.separated first between second after
      ⟨before, hSplit⟩

/- A worker goes on, undisturbed. -/
def goWorker (steps : Nat) : List CampaignAction :=
  List.replicate steps .proceed

/-
  The worker asks for the realtime kernel, completes a stage
  on it and is killed in the next one; the worker after it
  refuses to go on.
-/
def killedCampaign : List CampaignAction :=
  [.start] ++ goWorker 8 ++
    [.reboot ⟨"6.12.96-rpi5-rt-btf-uvc16+", "quiet", "b1"⟩,
      .start] ++
    goWorker 14 ++ [.kill, .start] ++ goWorker 4

/- A boot of the standard kernel. -/
def deskBoot : Boot where
  release := "6.12.96-rpi5-standard-btf+"
  cmdline := "quiet threadirqs"
  bootId := "b0"

theorem killedCampaign_kept :
    ∃ s,
      (campaign "runs/full").run
          (queuedCampaign true (fun _ => "") deskBoot)
          killedCampaign = some s ∧
      s.pipeline.status = .failed ∧
      s.pipeline.activeStage = some .e2Calibrate ∧
      acquisitions
          (history "runs/full"
            (queuedCampaign true (fun _ => "") deskBoot)
            killedCampaign) = [.e1, .e2Calibrate] ∧
      completions
          (history "runs/full"
            (queuedCampaign true (fun _ => "") deskBoot)
            killedCampaign) <+: stageOrder true := by
  have hEnd :
      ((campaign "runs/full").run
        (queuedCampaign true (fun _ => "") deskBoot)
        killedCampaign).map (fun s =>
          (s.pipeline.status, s.pipeline.activeStage)) =
        some (.failed, some .e2Calibrate) := by
    decide +kernel
  rcases Option.map_eq_some_iff.mp hEnd with
    ⟨s, hRun, hFinal⟩
  simp only [Prod.mk.injEq] at hFinal
  exact ⟨s, hRun, hFinal.1, hFinal.2, by decide +kernel,
    (run_campaign "runs/full" true (fun _ => "") deskBoot
      killedCampaign s hRun).2.1⟩

end Reproduction

end RsCamera
