import Mathlib.Data.List.Basic

/-
  The processes of the noise workloads
  (`ManagedNoiseProcess` in `noise_workloads.py`).

  What the calls to the system do is a plan: which of them
  raise, what a wait ends with, and what is seen while a
  process is expected to become ready.  A workload keeps
  every process it has started on a list, and a handle on at
  most one of them.  A process that was given up is thus
  still there, running or not.

  As long as every running process has the handle, what a
  start or a stop leaves behind is said by the plan and the
  process that is held before it.

  Key definitions include:
    * `NoiseProcess`, `Managed`
    * `StopPlan`, `Managed.stop`
    * `StartPlan`, `Managed.start`
    * `Managed.Accounted`, `Managed.Kept`

  Key theorems include:
    * `Managed.accounted_iff`
    * `Managed.stop_cases`, `Managed.kept_stop_iff`
    * `Managed.held_start`, `Managed.kept_start_iff`
-/

------------------------------------------------------------
-- Stopping A Process
------------------------------------------------------------

namespace RsCamera

namespace Noise

/- A process runs as long as it has no return code. -/
structure NoiseProcess where
  requested : Bool := false
  returncode : Option Int := none
deriving Repr, DecidableEq

/- Nothing has seen the process end. -/
def NoiseProcess.Running (process : NoiseProcess) : Prop :=
  process.returncode = none

/- What is written to `process.json`. -/
structure ProcessRecord where
  returncode : Option Int
  forcedKill : Bool
deriving Repr, DecidableEq

/-
  The processes of a workload, oldest first, and the place of
  the one that `_process` refers to.
-/
structure Managed where
  started : List NoiseProcess := []
  process : Option (Fin started.length) := none
  record : Option ProcessRecord := none

/- The process that `_process` refers to. -/
def Managed.held (managed : Managed) : Option NoiseProcess :=
  managed.process.map managed.started.get

/- The process behind the handle goes on in another state. -/
def Managed.become
    (process : NoiseProcess)
    (managed : Managed) : Managed :=
  match managed.process with
  | none => managed
  | some place =>
      { managed with
        started := managed.started.set place process
        process := some (place.cast (by simp)) }

/- `self._process = None`. -/
def Managed.release (managed : Managed) : Managed :=
  { managed with process := none }

/- How a wait for a process ends. -/
inductive Waited
| exited (returncode : Int)
| timeout
| raised (error : String)
deriving Repr, DecidableEq

/- What the calls of a stop do; a text is an exception. -/
structure StopPlan where
  terminate : Option String := none
  wait : Waited
  kill : Option String := none
  lastWait : Waited
  write : Option String := none
deriving Repr, DecidableEq

/- Ask a process to end, and kill it if it does not. -/
def NoiseProcess.finish
    (plan : StopPlan)
    (process : NoiseProcess) :
    NoiseProcess × Except String Bool :=
  if process.returncode ≠ none then
    (process, .ok false)
  else
    match plan.terminate with
    | some error => (process, .error error)
    | none =>
        let asked := { process with requested := true }
        match plan.wait with
        | .exited code =>
            ({ asked with returncode := some code }, .ok false)
        | .raised error => (asked, .error error)
        | .timeout =>
            match plan.kill with
            | some error => (asked, .error error)
            | none =>
                match plan.lastWait with
                | .exited code =>
                    ({ asked with returncode := some code },
                      .ok true)
                | .raised error => (asked, .error error)
                | .timeout =>
                    (asked, .error "timed out after 5 seconds")

/- The file is left as it was when the write raises. -/
def Managed.writeProcess
    (failure : Option String)
    (returncode : Option Int)
    (forced : Bool)
    (managed : Managed) : Managed × Except String Unit :=
  match failure with
  | some error => (managed, .error error)
  | none =>
      ({ managed with record := some ⟨returncode, forced⟩ },
        .ok ())

/- The handle is gone before the process is asked to end. -/
def Managed.stop
    (plan : StopPlan)
    (recordDir : Bool)
    (managed : Managed) : Managed × Except String Unit :=
  match managed.held with
  | none => (managed, .ok ())
  | some process =>
      let finished := process.finish plan
      let released := (managed.become finished.1).release
      match finished.2 with
      | .error error => (released, .error error)
      | .ok forced =>
          if recordDir then
            released.writeProcess plan.write
              finished.1.returncode forced
          else
            (released, .ok ())

------------------------------------------------------------
-- Starting A Process
------------------------------------------------------------

/- The keys of `NoiseSuite._by_key`. -/
inductive NoiseKey
| cpu
| memory
| usbStorage
| gpu
deriving Repr, DecidableEq

/- The order of the workloads in the suite. -/
def NoiseKey.all : List NoiseKey :=
  [.cpu, .memory, .usbStorage, .gpu]

/- The name of a workload in its messages. -/
def NoiseKey.label : NoiseKey → String
| .cpu => "CPU-NOISE"
| .memory => "MEMORY-NOISE"
| .usbStorage => "USB-STORAGE-NOISE"
| .gpu => "GPU-NOISE"

/- The only mode of a workload besides `none`. -/
def NoiseKey.supportedMode : NoiseKey → String
| .cpu => "busy_loop"
| .memory => "fixed_copy"
| .usbStorage => "sequential_read"
| .gpu => "mobilenet_v2_vulkan"

/-
  What one round of the loop that waits for the ready file
  sees.  A file that is missing, that does not parse or that
  does not say ready is `pending`.
-/
inductive Observed
| exited (returncode : Int)
| pending
| raised (error : String)
| ready
deriving Repr, DecidableEq

/- What the calls of a start do. -/
structure StartPlan where
  -- The checks, the output files and `Popen`.
  launch : Option String := none
  rounds : List Observed
  -- The process may end on its own once it is left alone.
  later : Option Int := none
  stderr : String := ""
  timeoutText : String := ""
  giveUp : StopPlan
  -- The write of the configuration file.
  configure : Option String := none
deriving Repr, DecidableEq

/- `Popen`: a new process, and the handle on it. -/
def Managed.launched (managed : Managed) : Managed :=
  { managed with
    started := managed.started ++ [{}]
    process := some ⟨managed.started.length, by simp⟩ }

/- The process once its start no longer looks at it. -/
def StartPlan.left (plan : StartPlan) : NoiseProcess :=
  { returncode := plan.later }

/- The loop that waits for the ready file, and what follows. -/
def Managed.awaitReady
    (key : NoiseKey)
    (plan : StartPlan)
    (managed : Managed) :
    List Observed → Managed × Except String Unit
| [] =>
    let stopped :=
      (managed.become plan.left).stop plan.giveUp true
    match stopped.2 with
    | .error error => (stopped.1, .error error)
    | .ok _ =>
        (stopped.1,
          .error
            (key.label ++ " did not become ready within " ++
              plan.timeoutText ++ " seconds"))
| .exited code :: _ =>
    let ended :=
      (managed.become { returncode := some code }).release
    let written :=
      ended.writeProcess plan.giveUp.write (some code) false
    match written.2 with
    | .error error => (written.1, .error error)
    | .ok _ =>
        (written.1,
          .error
            (key.label ++ " exited before ready with code " ++
              toString code ++ ": " ++ plan.stderr))
| .pending :: rest =>
    managed.awaitReady key plan rest
| .raised error :: _ =>
    (managed.become plan.left, .error error)
| .ready :: _ =>
    (managed.become plan.left, .ok ())

/- Nothing is launched while there is a handle. -/
def Managed.start
    (key : NoiseKey)
    (mode : String)
    (plan : StartPlan)
    (managed : Managed) : Managed × Except String Unit :=
  if mode = "none" then
    (managed, .ok ())
  else if mode ≠ key.supportedMode then
    (managed,
      .error
        ("Unsupported " ++ key.label ++ " mode: " ++ mode))
  else if managed.process ≠ none then
    (managed,
      .error
        ("A " ++ key.label ++ " process is already running"))
  else
    match plan.launch with
    | some error => (managed, .error error)
    | none => managed.launched.awaitReady key plan plan.rounds

/- A process ends on its own, whoever holds its handle. -/
def Managed.exits
    (place : Nat)
    (returncode : Int)
    (managed : Managed) : Managed :=
  { managed with
    started :=
      managed.started.modify place (fun process =>
        if process.returncode = none then
          { process with returncode := some returncode }
        else
          process)
    process := managed.process.map (Fin.cast (by simp)) }

------------------------------------------------------------
-- What Is Left Of A Workload
------------------------------------------------------------

/- It was asked to end, or has ended without being asked. -/
def NoiseProcess.Asked (process : NoiseProcess) : Prop :=
  process.requested = true ∨ ¬ process.Running

/- A process that runs has the handle. -/
def Managed.Kept (managed : Managed) : Prop :=
  ∀ place process,
    managed.started[place]? = some process →
      process.Running →
        managed.process.map Fin.val = some place

/-
  Every process was asked to end, or has ended before, and
  one that runs is not given up.
-/
structure Managed.Accounted (managed : Managed) : Prop where
  asked : ∀ process ∈ managed.started, process.Asked
  owned : managed.Kept

section

variable {managed : Managed}

theorem Managed.held_eq_some_iff
    {process : NoiseProcess} :
    managed.held = some process ↔
      ∃ place : Fin managed.started.length,
        managed.process = some place ∧
          managed.started[(place : Nat)]? = some process := by
  unfold Managed.held
  rw [Option.map_eq_some_iff]
  apply exists_congr
  intro place
  rw [List.getElem?_eq_getElem place.isLt, Option.some.injEq]
  rfl

@[simp]
theorem Managed.held_eq_none_iff
    {managed : Managed} :
    managed.held = none ↔ managed.process = none :=
  Option.map_eq_none_iff

@[simp]
theorem Managed.held_release
    (managed : Managed) :
    managed.release.held = none :=
  rfl

@[simp]
theorem Managed.held_launched
    (managed : Managed) :
    managed.launched.held = some {} := by
  simp [Managed.held, Managed.launched]

@[simp]
theorem Managed.held_become
    (process : NoiseProcess)
    (managed : Managed) :
    (managed.become process).held =
      managed.held.map (fun _ => process) := by
  unfold Managed.become Managed.held
  cases hPlace : managed.process with
  | none => simp [hPlace]
  | some place => simp

@[simp]
theorem Managed.held_writeProcess
    (failure : Option String)
    (returncode : Option Int)
    (forced : Bool)
    (managed : Managed) :
    (managed.writeProcess failure returncode forced).1.held =
      managed.held := by
  cases failure <;> rfl

@[simp]
theorem Managed.kept_writeProcess
    (failure : Option String)
    (returncode : Option Int)
    (forced : Bool)
    (managed : Managed) :
    (managed.writeProcess failure returncode forced).1.Kept ↔
      managed.Kept := by
  cases failure <;> rfl

/- If nothing is given up, only the held process matters. -/
theorem Managed.accounted_iff
    (managed : Managed) :
    managed.Accounted ↔
      managed.Kept ∧
        ∀ process ∈ managed.held, process.Asked := by
  constructor
  · intro hAccounted
    refine ⟨hAccounted.owned, ?_⟩
    intro process hHeld
    rcases held_eq_some_iff.mp hHeld with ⟨place, -, hAt⟩
    exact hAccounted.asked process
      (List.mem_of_getElem? hAt)
  · rintro ⟨hKept, hHeld⟩
    refine ⟨?_, hKept⟩
    intro process hIn
    by_cases hRuns : process.Running
    · rcases List.mem_iff_getElem?.mp hIn with ⟨place, hAt⟩
      have hOwned := hKept place process hAt hRuns
      rw [Option.map_eq_some_iff] at hOwned
      rcases hOwned with ⟨owned, hIs, rfl⟩
      exact hHeld process
        (held_eq_some_iff.mpr ⟨owned, hIs, hAt⟩)
    · exact Or.inr hRuns

theorem Managed.kept_become
    (hKept : managed.Kept)
    (process : NoiseProcess) :
    (managed.become process).Kept := by
  unfold Managed.become
  cases hPlace : managed.process with
  | none =>
      simp only
      exact hKept
  | some held =>
      intro place other hAt hRuns
      simp only [List.getElem?_set] at hAt
      simp only [Option.map_some, Fin.val_cast,
        Option.some.injEq]
      by_cases hIs : (held : Nat) = place
      · exact hIs
      · rw [if_neg hIs] at hAt
        have hOwned := hKept place other hAt hRuns
        rw [hPlace] at hOwned
        simpa using hOwned

/- A handle may be given up exactly if its process has ended. -/
theorem Managed.kept_release_iff
    (hKept : managed.Kept) :
    managed.release.Kept ↔
      ∀ process ∈ managed.held, ¬ process.Running := by
  constructor
  · intro hReleased process hHeld hRuns
    rcases held_eq_some_iff.mp hHeld with ⟨place, -, hAt⟩
    have hOwned := hReleased place process hAt hRuns
    cases hOwned
  · intro hEnded place process hAt hRuns
    have hOwned := hKept place process hAt hRuns
    rw [Option.map_eq_some_iff] at hOwned
    rcases hOwned with ⟨owned, hIs, rfl⟩
    exact absurd hRuns
      (hEnded process (held_eq_some_iff.mpr ⟨owned, hIs, hAt⟩))

theorem Managed.kept_launched
    (hKept : managed.Kept)
    (hNone : managed.process = none) :
    managed.launched.Kept := by
  intro place process hAt hRuns
  simp only [Managed.launched] at hAt ⊢
  rw [List.getElem?_append] at hAt
  split at hAt
  · have hOwned := hKept place process hAt hRuns
    rw [hNone] at hOwned
    cases hOwned
  · rename_i hBehind
    rw [List.getElem?_singleton] at hAt
    split at hAt
    · rename_i hLast
      simp only [Option.map_some, Option.some.injEq]
      omega
    · cases hAt

/- Nobody gives up a process by its ending. -/
theorem Managed.kept_exits
    (hKept : managed.Kept)
    (place : Nat)
    (returncode : Int) :
    (managed.exits place returncode).Kept := by
  intro other process hAt hRuns
  have hBefore :
      ∃ before,
        managed.started[other]? = some before ∧
          before.Running := by
    simp only [Managed.exits, List.getElem?_modify] at hAt
    rcases hStarted : managed.started[other]? with _ | before
    · rw [hStarted] at hAt
      cases hAt
    · rw [hStarted] at hAt
      refine ⟨before, rfl, ?_⟩
      by_contra hEnded
      apply hEnded
      unfold NoiseProcess.Running at hEnded ⊢
      simp only [hEnded, if_false, ite_self, Option.map_eq_map,
        Option.map_some, Option.some.injEq] at hAt
      rw [hAt]
      exact hRuns
  rcases hBefore with ⟨before, hAt', hOwned⟩
  have hSame := hKept other before hAt' hOwned
  simp only [Managed.exits, Option.map_map]
  rw [← hSame]
  rfl

end

------------------------------------------------------------
-- What A Stop Does
------------------------------------------------------------

/- Whether a wait ends with the process. -/
def Waited.isExit : Waited → Bool
| .exited _ => true
| .timeout => false
| .raised _ => false

/- Whether a process has ended when its stop is over. -/
def StopPlan.Ends
    (plan : StopPlan)
    (process : NoiseProcess) : Prop :=
  process.returncode ≠ none ∨
    (plan.terminate = none ∧
      (plan.wait.isExit = true ∨
        (plan.wait = .timeout ∧ plan.kill = none ∧
          plan.lastWait.isExit = true)))

instance decidableEnds
    (plan : StopPlan)
    (process : NoiseProcess) :
    Decidable (plan.Ends process) :=
  inferInstanceAs (Decidable (_ ∨ _))

/- Whether the stop of what is held does not raise. -/
def StopPlan.Quiet
    (plan : StopPlan)
    (recordDir : Bool)
    (held : Option NoiseProcess) : Prop :=
  ∀ process ∈ held,
    plan.Ends process ∧
      (recordDir = true → plan.write = none)

instance decidableQuiet
    (plan : StopPlan)
    (recordDir : Bool)
    (held : Option NoiseProcess) :
    Decidable (plan.Quiet recordDir held) :=
  inferInstanceAs (Decidable (∀ process ∈ held, _))

theorem NoiseProcess.finish_cases
    (plan : StopPlan)
    (process : NoiseProcess) :
    (plan.Ends process ∧
        (process.finish plan).1.returncode ≠ none ∧
        ∃ forced, (process.finish plan).2 = .ok forced) ∨
      (¬ plan.Ends process ∧
        (process.finish plan).1.returncode = none ∧
        ∃ error, (process.finish plan).2 = .error error) := by
  unfold NoiseProcess.finish StopPlan.Ends
  by_cases hEnded : process.returncode ≠ none
  · rw [if_pos hEnded]
    exact Or.inl ⟨Or.inl hEnded, hEnded, false, rfl⟩
  · rw [if_neg hEnded]
    rw [not_ne_iff] at hEnded
    simp only [hEnded, ne_eq, not_true_eq_false, false_or]
    cases plan.terminate with
    | some error => simp [hEnded]
    | none =>
        cases plan.wait with
        | exited code => simp [Waited.isExit]
        | raised error => simp [Waited.isExit]
        | timeout =>
            cases plan.kill with
            | some error => simp [Waited.isExit]
            | none =>
                cases plan.lastWait with
                | exited code => simp [Waited.isExit]
                | raised error => simp [Waited.isExit]
                | timeout => simp [Waited.isExit]

/-
  A stop gives up the handle, whether it raises or not, and
  leaves the process as it could be brought to its end.
-/
theorem Managed.stop_cases
    (plan : StopPlan)
    (recordDir : Bool)
    (managed : Managed) :
    ((managed.stop plan recordDir).2 = .ok () ↔
        plan.Quiet recordDir managed.held) ∧
      (managed.stop plan recordDir).1.held = none ∧
      ((managed.stop plan recordDir).1.Kept ↔
        (managed.held.elim managed (fun process =>
          (managed.become
            (process.finish plan).1).release)).Kept) := by
  unfold Managed.stop StopPlan.Quiet
  cases hHeld : managed.held with
  | none => simp [held_eq_none_iff.mp hHeld]
  | some process =>
      simp only [Option.mem_def, Option.some.injEq,
        forall_eq', Option.elim_some]
      rcases process.finish_cases plan with
        ⟨hEnds, hCode, forced, hOk⟩ |
          ⟨hRuns, hCode, error, hError⟩
      · rw [hOk]
        cases recordDir with
        | false => simp [hEnds]
        | true =>
            simp only [if_true, true_implies]
            refine ⟨?_, by simp, by simp⟩
            cases hWrite : plan.write with
            | none => simp [Managed.writeProcess, hEnds]
            | some error => simp [Managed.writeProcess]
      · rw [hError]
        simp [hRuns]

theorem Managed.kept_stop_iff
    {managed : Managed}
    (hKept : managed.Kept)
    (plan : StopPlan)
    (recordDir : Bool) :
    (managed.stop plan recordDir).1.Kept ↔
      ∀ process ∈ managed.held, plan.Ends process := by
  rw [(managed.stop_cases plan recordDir).2.2]
  cases hHeld : managed.held with
  | none => simpa using hKept
  | some process =>
      rw [Option.elim_some,
        kept_release_iff (kept_become hKept _), held_become,
        hHeld]
      simp only [Option.map_some, Option.mem_def,
        Option.some.injEq, forall_eq']
      rcases process.finish_cases plan with
        ⟨hEnds, hCode, -⟩ | ⟨hRuns, hCode, -⟩
      · exact iff_of_true hCode hEnds
      · exact iff_of_false (fun hEnded => hEnded hCode) hRuns

/- A stop does not take back a process that was given up. -/
theorem Managed.kept_of_kept_stop
    {managed : Managed}
    {plan : StopPlan}
    {recordDir : Bool}
    (hStopped : (managed.stop plan recordDir).1.Kept) :
    managed.Kept := by
  rw [(managed.stop_cases plan recordDir).2.2] at hStopped
  cases hHeld : managed.held with
  | none =>
      rw [hHeld] at hStopped
      exact hStopped
  | some process =>
      rw [hHeld, Option.elim_some] at hStopped
      rcases held_eq_some_iff.mp hHeld with ⟨held, hIs, -⟩
      intro place other hAt hRuns
      rw [hIs, Option.map_some, Option.some.injEq]
      by_contra hNot
      have hStill :
          (managed.become
            (process.finish plan).1).started[place]? =
              some other := by
        simp only [Managed.become, hIs]
        rw [List.getElem?_set_ne hNot]
        exact hAt
      cases hStopped place other hStill hRuns

------------------------------------------------------------
-- What A Start Does
------------------------------------------------------------

/- A start reaches `Popen` and gets a process. -/
def StartPlan.Launches
    (plan : StartPlan)
    (key : NoiseKey)
    (mode : String)
    (held : Option NoiseProcess) : Prop :=
  mode = key.supportedMode ∧ held = none ∧
    plan.launch = none

instance decidableLaunches
    (plan : StartPlan)
    (key : NoiseKey)
    (mode : String)
    (held : Option NoiseProcess) :
    Decidable (plan.Launches key mode held) :=
  inferInstanceAs (Decidable (_ ∧ _ ∧ _))

/- The first thing seen that ends the waiting, in time. -/
def StartPlan.seen (plan : StartPlan) : Option Observed :=
  plan.rounds.find? (fun round => round ≠ .pending)

/- A start that returns. -/
def StartPlan.Returns
    (plan : StartPlan)
    (key : NoiseKey)
    (mode : String)
    (held : Option NoiseProcess) : Prop :=
  mode = "none" ∨
    (plan.Launches key mode held ∧ plan.seen = some .ready)

instance decidableReturns
    (plan : StartPlan)
    (key : NoiseKey)
    (mode : String)
    (held : Option NoiseProcess) :
    Decidable (plan.Returns key mode held) :=
  inferInstanceAs (Decidable (_ ∨ _))

/-
  What is held behind a start: the new process if it became
  ready or the waiting raised, nothing if it has ended or was
  given up, and what was held before if none was launched.
-/
def StartPlan.heldAfter
    (plan : StartPlan)
    (key : NoiseKey)
    (mode : String)
    (held : Option NoiseProcess) : Option NoiseProcess :=
  if plan.Launches key mode held then
    match plan.seen with
    | some .ready => some plan.left
    | some (.raised _) => some plan.left
    | some (.exited _) => none
    | some .pending => none
    | none => none
  else
    held

/- A launched process that is not ready in time is given up. -/
def StartPlan.TimesOut
    (plan : StartPlan)
    (key : NoiseKey)
    (mode : String)
    (held : Option NoiseProcess) : Prop :=
  plan.Launches key mode held ∧ plan.seen = none

theorem NoiseKey.supportedMode_ne_none
    (key : NoiseKey) :
    key.supportedMode ≠ "none" := by
  cases key <;> decide

section Starts

variable (key : NoiseKey)
variable (mode : String)
variable (plan : StartPlan)

/- The waiting, by the first round that ends it. -/
theorem Managed.awaitReady_cases
    {managed : Managed}
    (hKept : managed.Kept)
    (hHeld : managed.held = some {})
    (rounds : List Observed) :
    let seen :=
      rounds.find? (fun round => round ≠ .pending)
    let waited := managed.awaitReady key plan rounds
    (waited.2 = .ok () ↔ seen = some .ready) ∧
      (waited.1.Kept ↔
        (seen = none → plan.giveUp.Ends plan.left)) ∧
      waited.1.held =
        match seen with
        | some .ready => some plan.left
        | some (.raised _) => some plan.left
        | some (.exited _) => none
        | some .pending => none
        | none => none := by
  induction rounds with
  | nil =>
      have hStop :=
        (managed.become plan.left).stop_cases plan.giveUp true
      have hEnds :=
        kept_stop_iff (kept_become hKept plan.left)
          plan.giveUp true
      rw [held_become, hHeld] at hEnds
      simp only [List.find?_nil, Managed.awaitReady]
      cases hResult :
          ((managed.become plan.left).stop
            plan.giveUp true).2 with
      | error error => simp [hEnds, hStop.2.1]
      | ok done => simp [hEnds, hStop.2.1]
  | cons round rest ih =>
      cases round with
      | pending => simpa [Managed.awaitReady] using ih
      | exited code =>
          have hEnded :
              (managed.become
                { returncode := some code }).release.Kept := by
            rw [kept_release_iff (kept_become hKept _),
              held_become, hHeld]
            simp [NoiseProcess.Running]
          simp only [Managed.awaitReady]
          cases hResult :
              ((managed.become
                { returncode := some code }).release.writeProcess
                  plan.giveUp.write (some code) false).2 with
          | error error => simp [hEnded]
          | ok done => simp [hEnded]
      | raised error =>
          simp [Managed.awaitReady, hHeld,
            kept_become hKept plan.left]
      | ready =>
          simp [Managed.awaitReady, hHeld,
            kept_become hKept plan.left]

/- A start that does not launch leaves everything as it is. -/
theorem Managed.start_of_not_launches
    {managed : Managed}
    (hNot : ¬ plan.Launches key mode managed.held) :
    (managed.start key mode plan).1 = managed ∧
      ((managed.start key mode plan).2 = .ok () ↔
        mode = "none") := by
  unfold Managed.start
  by_cases hNone : mode = "none"
  · simp [hNone]
  · rw [if_neg hNone]
    by_cases hMode : mode = key.supportedMode
    · rw [if_neg (not_not_intro hMode)]
      by_cases hProcess : managed.process = none
      · rw [if_neg (not_not_intro hProcess)]
        cases hLaunch : plan.launch with
        | some error => simp [hNone]
        | none =>
            exact absurd
              ⟨hMode, held_eq_none_iff.mpr hProcess, hLaunch⟩
              hNot
      · rw [if_pos hProcess]
        simp [hNone]
    · rw [if_pos hMode]
      simp [hNone]

theorem Managed.start_of_launches
    {managed : Managed}
    (hLaunches : plan.Launches key mode managed.held) :
    managed.start key mode plan =
      managed.launched.awaitReady key plan plan.rounds := by
  rcases hLaunches with ⟨hMode, hHeld, hLaunch⟩
  have hNone : mode ≠ "none" := by
    rw [hMode]
    exact key.supportedMode_ne_none
  unfold Managed.start
  rw [if_neg hNone, if_neg (not_not_intro hMode),
    if_neg (not_not_intro (held_eq_none_iff.mp hHeld)),
    hLaunch]

/- A start, by its plan and what is held before it. -/
theorem Managed.start_cases
    {managed : Managed}
    (hKept : managed.Kept) :
    ((managed.start key mode plan).2 = .ok () ↔
        plan.Returns key mode managed.held) ∧
      (managed.start key mode plan).1.held =
        plan.heldAfter key mode managed.held ∧
      ((managed.start key mode plan).1.Kept ↔
        (plan.TimesOut key mode managed.held →
          plan.giveUp.Ends plan.left)) := by
  unfold StartPlan.Returns StartPlan.heldAfter
    StartPlan.TimesOut
  by_cases hLaunches : plan.Launches key mode managed.held
  · have hNone : mode ≠ "none" := by
      rw [hLaunches.1]
      exact key.supportedMode_ne_none
    have hProcess := held_eq_none_iff.mp hLaunches.2.1
    have hWaited :=
      awaitReady_cases key plan
        (kept_launched hKept hProcess)
        managed.held_launched plan.rounds
    rw [start_of_launches key mode plan hLaunches,
      if_pos hLaunches]
    simp only [hNone, hLaunches, false_or, true_and]
    exact ⟨hWaited.1, hWaited.2.2, hWaited.2.1⟩
  · rcases start_of_not_launches key mode plan hLaunches with
      ⟨hSame, hReturns⟩
    rw [hSame, hReturns, if_neg hLaunches]
    simp [hLaunches, hKept]

end Starts

end Noise

end RsCamera
