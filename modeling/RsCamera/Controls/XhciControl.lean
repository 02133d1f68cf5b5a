import RsCamera.Controls.CpuText
import RsCamera.Controls.Isolation
import RsCamera.Trace.Lifecycle

/-
  The control of the xHCI interrupt threads
  (`.xhci_irq_control_20260810.py`): `snapshot`, `configure`,
  `verify` and `restore`, as the campaign scripts call them.

  `configure` writes down the state of the interrupts before
  it changes them, and `restore` goes back to what is written
  down.  Which commands fail is left open.

  Key definitions include:
    * `XhciMachine`, `XhciCommand`
    * `irqRecords`, `verifyRecords`
    * `configure`, `restore`
    * `Cell`, `Cell.run`

  Key theorems include:
    * `restore_restores`
    * `cells_restored`
-/

------------------------------------------------------------
-- The Threads
------------------------------------------------------------

namespace RsCamera

namespace Controls

namespace Xhci

/- The policies of `POLICY_NAMES`. -/
inductive Policy
| other
| fifo
| rr
| batch
| idle
| deadline
deriving Repr, DecidableEq

/- The name in the records, and on the command line. -/
def Policy.name : Policy → String
| .other => "SCHED_OTHER"
| .fifo => "SCHED_FIFO"
| .rr => "SCHED_RR"
| .batch => "SCHED_BATCH"
| .idle => "SCHED_IDLE"
| .deadline => "SCHED_DEADLINE"

/- What the kernel knows of a process. -/
structure Sched where
  policy : Policy
  priority : Int
  affinity : Finset Nat
deriving DecidableEq

/-
  The interrupts and the processes of their threads, whose
  names begin with `irq/`, the number and a dash.  The calls
  about a process without a state raise.
-/
@[ext] structure XhciMachine where
  threadOf : Nat → Option Nat
  affinity : Nat → Finset Nat
  sched : Nat → Option Sched

/- A thread that can be read gets another setting. -/
def XhciMachine.change
    (machine : XhciMachine)
    (pid : Nat)
    (f : Sched → Sched) : XhciMachine :=
  { machine with
    sched :=
      Function.update machine.sched pid
        ((machine.sched pid).map f) }

/- The privileged commands of the script. -/
inductive XhciCommand
| writeAffinity (irq : Nat) (text : String)
| setAffinity (pid : Nat) (cpus : Finset Nat)
| setScheduler (pid : Nat) (policy : Policy) (priority : Int)
deriving DecidableEq

/- The kernel refuses a text that is not a list of CPUs. -/
def XhciCommand.refused : XhciCommand → Option String
| .writeAffinity _ text =>
    match parseCpuList text with
    | .error _ => some "Invalid argument"
    | .ok _ => none
| _ => none

/- What a command changes when it succeeds. -/
def XhciCommand.apply
    (command : XhciCommand)
    (machine : XhciMachine) : XhciMachine :=
  match command with
  | .writeAffinity irq text =>
      match parseCpuList text with
      | .error _ => machine
      | .ok cpus =>
          { machine with
            affinity :=
              Function.update machine.affinity irq cpus }
  | .setAffinity pid cpus =>
      machine.change pid (fun sched =>
        { sched with affinity := cpus })
  | .setScheduler pid policy priority =>
      machine.change pid (fun sched =>
        { sched with
          policy := policy
          priority := priority })

/- What a record keeps of a thread. -/
structure ThreadState where
  pid : Nat
  policy : String
  priority : Int
  affinity : String
deriving DecidableEq, Repr

/- A thread whose state cannot be read has none of the policies. -/
def threadState
    (pid : Nat) : Option Sched → ThreadState
| some sched =>
    { pid := pid
      policy := sched.policy.name
      priority := sched.priority
      affinity := formatCpuList sched.affinity }
| none =>
    { pid := pid
      policy := toString (-1 : Int)
      priority := -1
      affinity := formatCpuList ∅ }

/- `_irq_thread_state`. -/
def irqThreadState
    (machine : XhciMachine)
    (irq : Nat) : Option ThreadState :=
  (machine.threadOf irq).map (fun pid =>
    threadState pid (machine.sched pid))

/- A record of the snapshot, with what `restore` reads. -/
structure XhciRecord where
  irq : Nat
  affinity : String
  thread : ThreadState
deriving DecidableEq, Repr

/- The thread of the record. -/
def XhciRecord.pid (record : XhciRecord) : Nat :=
  record.thread.pid

/- The record of one interrupt, which needs a thread. -/
def irqRecord
    (machine : XhciMachine)
    (irq : Nat) : Except String XhciRecord :=
  match irqThreadState machine irq with
  | none =>
      .error
        ("IRQ " ++ toString irq ++
          " has no schedulable IRQ thread;" ++
          " boot with threadirqs")
  | some thread =>
      .ok
        { irq := irq
          affinity := formatCpuList (machine.affinity irq)
          thread := thread }

/- `irq_records`: the interrupts of the cameras have to be two. -/
def irqRecords
    (survey : Survey)
    (machine : XhciMachine) :
    Except String (List XhciRecord) := do
  let records ← discoverCameraXhciIrqs survey
  if records.length ≠ 2 then
    .error
      ("H2 requires exactly two camera xHCI IRQs; found " ++
        toString records.length)
  else
    (records.map Prod.fst).mapM (irqRecord machine)

------------------------------------------------------------
-- Verification
------------------------------------------------------------

/- What `--policy` and `--priority` may ask for together. -/
inductive Setting
| keep
| other
| rr (priority : Int)
| fifo (priority : Int)
deriving DecidableEq, Repr

/- The value of `--policy`. -/
def Setting.policyName : Setting → String
| .keep => "keep"
| .other => "SCHED_OTHER"
| .rr _ => "SCHED_RR"
| .fifo _ => "SCHED_FIFO"

/- The value of `--priority`, which two policies take. -/
def Setting.priority : Setting → Option Int
| .rr priority => some priority
| .fifo priority => some priority
| _ => none

/- The kernel that is running, as texts. -/
structure RunningKernel where
  realtime : Option String
  release : String
  version : String
  cmdline : String

/- Whether the kernel has threaded interrupts by itself. -/
def preemptRt (kernel : RunningKernel) : Bool :=
  (kernel.realtime.any (fun text =>
      pyStrip text.toList == "1".toList)) ||
    Trace.occursIn "-rt-"
      ("-" ++ kernel.release.toLower ++ "-") ||
    Trace.occursIn "preempt_rt" kernel.version.toLower

/- The errors of one record. -/
def recordErrors
    (cpus : Option String)
    (setting : Setting)
    (record : XhciRecord) : Except String (List String) := do
  let thread := record.thread
  let placed : List String ←
    match cpus with
    | none => .ok []
    | some text => do
        let expected ← parseCpuList text
        let irqCpus ← parseCpuList record.affinity
        let threadCpus ← parseCpuList thread.affinity
        .ok
          ((if irqCpus ≠ expected then
              ["IRQ " ++ toString record.irq ++ " affinity=" ++
                record.affinity ++ ", expected " ++ text]
            else []) ++
            (if threadCpus ≠ expected then
              ["IRQ thread " ++ toString thread.pid ++
                " affinity=" ++ thread.affinity ++
                ", expected " ++ text]
            else []))
  .ok
    (placed ++
      (if setting ≠ .keep ∧
          thread.policy ≠ setting.policyName then
        ["IRQ thread " ++ toString thread.pid ++ " policy=" ++
          thread.policy ++ ", expected " ++ setting.policyName]
      else []) ++
      (match setting.priority with
      | none => []
      | some priority =>
          if thread.priority ≠ priority then
            ["IRQ thread " ++ toString thread.pid ++
              " priority=" ++ toString thread.priority ++
              ", expected " ++ toString priority]
          else []))

/- `verify`: all errors in one text. -/
def verifyRecords
    (kernel : RunningKernel)
    (records : List XhciRecord)
    (cpus : Option String)
    (setting : Setting) : Except String Unit :=
  if (words kernel.cmdline).contains "threadirqs".toList =
        false ∧
      preemptRt kernel = false then
    .error
      ("the running non-PREEMPT_RT kernel command line lacks" ++
        " threadirqs")
  else do
    let errors ← records.mapM (recordErrors cpus setting)
    if errors.flatten = [] then
      .ok ()
    else
      .error (String.intercalate " | " errors.flatten)

------------------------------------------------------------
-- Configuring And Restoring
------------------------------------------------------------

/- The machine, and the file of `--original-output`. -/
structure XhciWorld where
  machine : XhciMachine
  original : Option (List XhciRecord)

/- Which commands fail, and how. -/
abbrev XhciFailures : Type :=
  XhciCommand → Option String

/- One command: it fails, or it changes the machine. -/
def issueXhci
    (failures : XhciFailures)
    (command : XhciCommand) : Effect XhciWorld Unit :=
  Effect.perform ((failures command).or command.refused)
    (fun world =>
      { world with machine := command.apply world.machine })

/- The records of the machine as it is. -/
def snapshot
    (survey : Survey) : Effect XhciWorld (List XhciRecord) :=
  Effect.ask (fun world => irqRecords survey world.machine)

/- A computation that may fail, without the machine. -/
def given {A : Type} (value : Except String A) :
    Effect XhciWorld A :=
  Effect.ask (fun _ => value)

/- The policy that the cell asks for; `keep` asks for none. -/
def setPolicy
    (failures : XhciFailures)
    (pid : Nat) : Setting → Effect XhciWorld Unit
| .keep => pure ()
| .other => issueXhci failures (.setScheduler pid .other 0)
| .rr priority =>
    issueXhci failures (.setScheduler pid .rr priority)
| .fifo priority =>
    issueXhci failures (.setScheduler pid .fifo priority)

/- The processors of an interrupt and of its thread. -/
def setCpus
    (failures : XhciFailures)
    (record : XhciRecord) :
    Option (Finset Nat) → Effect XhciWorld Unit
| none => pure ()
| some cpus => do
    issueXhci failures
      (.writeAffinity record.irq (formatCpuList cpus))
    issueXhci failures (.setAffinity record.thread.pid cpus)

/- One round of the loop in `configure`. -/
def configureRecord
    (failures : XhciFailures)
    (cpus : Option (Finset Nat))
    (setting : Setting)
    (record : XhciRecord) : Effect XhciWorld Unit := do
  setCpus failures record cpus
  setPolicy failures record.thread.pid setting

/-
  `configure`: the records are saved before anything is changed.
-/
def configure
    (survey : Survey)
    (kernel : RunningKernel)
    (failures : XhciFailures)
    (cpus : Option String)
    (setting : Setting) : Effect XhciWorld Unit := do
  let original ← snapshot survey
  modify (fun world => { world with original := some original })
  let cpuSet ← given (cpus.mapM parseCpuList)
  Effect.forEach (configureRecord failures cpuSet setting)
    original
  let effective ← snapshot survey
  given
    (verifyRecords kernel effective
      (cpuSet.map formatCpuList) setting)

/- `policy_ids`. -/
def policyOf (text : String) : Except String Policy :=
  match [Policy.other, .fifo, .rr].find? (fun policy =>
    policy.name = text) with
  | none =>
      .error ("cannot restore unsupported policy " ++ text)
  | some policy => .ok policy

/- The commands of a restore, once the thread is found. -/
def restoreThread
    (failures : XhciFailures)
    (record : XhciRecord)
    (pid : Nat) : Effect XhciWorld Unit := do
  issueXhci failures
    (.writeAffinity record.irq record.affinity)
  let cpus ← given (parseCpuList record.thread.affinity)
  issueXhci failures (.setAffinity pid cpus)
  let policy ← given (policyOf record.thread.policy)
  issueXhci failures
    (.setScheduler pid policy record.thread.priority)

/- One round of the loop in `restore`. -/
def restoreRecord
    (failures : XhciFailures)
    (record : XhciRecord) : Effect XhciWorld Unit := do
  let current ←
    Effect.ask (fun world =>
      match irqThreadState world.machine record.irq with
      | none =>
          .error
            ("IRQ " ++ toString record.irq ++
              " thread disappeared before restore")
      | some thread => .ok thread)
  restoreThread failures record current.pid

/- `restore`, which needs the saved records. -/
def restore
    (survey : Survey)
    (failures : XhciFailures) : Effect XhciWorld Unit := do
  let original ←
    Effect.ask (fun world =>
      match world.original with
      | none => .error "No such file or directory"
      | some original => .ok original)
  Effect.forEach (restoreRecord failures) original
  let _ ← snapshot survey
  pure ()

------------------------------------------------------------
-- The Records Of A Machine
------------------------------------------------------------

/- A record tells the state of its interrupt. -/
structure Tells
    (machine : XhciMachine)
    (record : XhciRecord) : Prop where
  thread :
    irqThreadState machine record.irq = some record.thread
  affinity :
    record.affinity = formatCpuList (machine.affinity record.irq)

theorem tells_of_irqRecord
    {machine : XhciMachine}
    {irq : Nat}
    {record : XhciRecord}
    (hRecord : irqRecord machine irq = .ok record) :
    Tells machine record := by
  unfold irqRecord at hRecord
  split at hRecord
  next => cases hRecord
  next thread hThread =>
    cases hRecord
    exact ⟨hThread, rfl⟩

theorem tells_of_irqRecords
    {survey : Survey}
    {machine : XhciMachine}
    {records : List XhciRecord}
    (hRecords : irqRecords survey machine = .ok records) :
    ∀ record ∈ records, Tells machine record := by
  rcases bind_eq_ok.mp hRecords with ⟨found, -, hRecords⟩
  split at hRecords
  · cases hRecords
  · have hAll := mapM_eq_ok_iff.mp hRecords
    intro record hRecord
    rcases List.forall₂_iff_get.mp hAll with ⟨hLength, hGet⟩
    rcases List.getElem_of_mem hRecord with ⟨i, hI, hIs⟩
    have hAt := hGet i (by omega) hI
    rw [List.get_eq_getElem, List.get_eq_getElem, hIs] at hAt
    exact tells_of_irqRecord hAt

theorem pid_threadState
    (pid : Nat)
    (sched : Option Sched) :
    (threadState pid sched).pid = pid := by
  cases sched with
  | none => rfl
  | some sched => rfl

/- What a record says of the thread, in the machine. -/
theorem Tells.sched
    {machine : XhciMachine}
    {record : XhciRecord}
    (hTells : Tells machine record) :
    machine.threadOf record.irq = some record.pid ∧
      record.thread =
        threadState record.pid (machine.sched record.pid) := by
  rcases Option.map_eq_some_iff.mp hTells.thread with
    ⟨pid, hPid, hThread⟩
  have hSame : record.pid = pid := by
    unfold XhciRecord.pid
    rw [← hThread, pid_threadState]
  rw [hSame]
  exact ⟨hPid, hThread.symm⟩

/- The policies that `restore` can go back to. -/
def Policy.Restorable (policy : Policy) : Prop :=
  policy = .other ∨ policy = .fifo ∨ policy = .rr

theorem policyOf_name
    {policy : Policy}
    (hRestorable : policy.Restorable) :
    policyOf policy.name = .ok policy := by
  rcases hRestorable with hIs | hIs | hIs
  · rw [hIs]
    decide +kernel
  · rw [hIs]
    decide +kernel
  · rw [hIs]
    decide +kernel

/- A machine whose interrupt threads can be restored. -/
def XhciMachine.Restorable (machine : XhciMachine) : Prop :=
  ∀ irq pid, machine.threadOf irq = some pid →
    ∃ sched, machine.sched pid = some sched ∧
      sched.policy.Restorable

------------------------------------------------------------
-- What Is Not Touched
------------------------------------------------------------

section

/- A machine that differs only in what the records name. -/
structure Agrees
    (pending : List XhciRecord)
    (first machine : XhciMachine) : Prop where
  threads : machine.threadOf = first.threadOf
  affinity :
    ∀ irq, irq ∉ pending.map XhciRecord.irq →
      machine.affinity irq = first.affinity irq
  sched :
    ∀ pid, pid ∉ pending.map XhciRecord.pid →
      machine.sched pid = first.sched pid
  readable :
    ∀ pid,
      (machine.sched pid).isSome = (first.sched pid).isSome

theorem Agrees.refl
    (pending : List XhciRecord)
    (machine : XhciMachine) :
    Agrees pending machine machine where
  threads := rfl
  affinity _ _ := rfl
  sched _ _ := rfl
  readable _ := rfl

variable {first machine : XhciMachine}
variable {record : XhciRecord}

theorem Agrees.eq
    (hAgrees : Agrees [] first machine) :
    machine = first :=
  XhciMachine.ext hAgrees.threads
    (funext (fun irq => hAgrees.affinity irq List.not_mem_nil))
    (funext (fun pid => hAgrees.sched pid List.not_mem_nil))

/- A command that concerns one of the records. -/
def Concerns
    (records : List XhciRecord) : XhciCommand → Prop
| .writeAffinity irq _ => irq ∈ records.map XhciRecord.irq
| .setAffinity pid _ => pid ∈ records.map XhciRecord.pid
| .setScheduler pid _ _ => pid ∈ records.map XhciRecord.pid

theorem Agrees.change
    {records : List XhciRecord}
    {pid : Nat}
    (hPid : pid ∈ records.map XhciRecord.pid)
    (hAgrees : Agrees records first machine)
    (f : Sched → Sched) :
    Agrees records first (machine.change pid f) := by
  refine ⟨hAgrees.threads, hAgrees.affinity, ?_, ?_⟩
  · intro other hOther
    have hNe : other ≠ pid := by
      intro hEq
      exact hOther (hEq ▸ hPid)
    change Function.update machine.sched pid _ other = _
    rw [Function.update_of_ne hNe]
    exact hAgrees.sched other hOther
  · intro other
    rw [← hAgrees.readable other]
    change (Function.update machine.sched pid _ other).isSome = _
    by_cases hHere : other = pid
    · rw [hHere, Function.update_self, Option.isSome_map]
    · rw [Function.update_of_ne hHere]

theorem Agrees.apply
    {records : List XhciRecord}
    {command : XhciCommand}
    (hConcerns : Concerns records command)
    (hAgrees : Agrees records first machine) :
    Agrees records first (command.apply machine) := by
  cases command with
  | writeAffinity irq text =>
      unfold XhciCommand.apply
      simp only
      split
      · exact hAgrees
      · refine ⟨hAgrees.threads, ?_, hAgrees.sched,
          hAgrees.readable⟩
        intro other hOther
        have hNe : other ≠ irq := by
          intro hEq
          exact hOther (hEq ▸ hConcerns)
        change Function.update machine.affinity irq _ other = _
        rw [Function.update_of_ne hNe]
        exact hAgrees.affinity other hOther
  | setAffinity pid cpus => exact hAgrees.change hConcerns _
  | setScheduler pid policy priority =>
      exact hAgrees.change hConcerns _

/- The file is written, and only its interrupts have changed. -/
structure Written
    (records : List XhciRecord)
    (first : XhciMachine)
    (world : XhciWorld) : Prop where
  original : world.original = some records
  agrees : Agrees records first world.machine

variable {records : List XhciRecord}
variable {first : XhciMachine}
variable {failures : XhciFailures}

theorem issueXhci_keeps
    {command : XhciCommand}
    (hConcerns : Concerns records command) :
    Effect.Keeps (Written records first)
      (issueXhci failures command) := by
  apply Effect.Triple.perform
  · intro _ world hWritten
    exact ⟨hWritten.original, hWritten.agrees.apply hConcerns⟩
  · intro _ _ hWritten
    exact hWritten

theorem given_keeps
    {A : Type}
    {P : XhciWorld → Prop}
    (value : Except String A) :
    Effect.Keeps P (given value) :=
  Effect.Triple.ask (fun _ _ hStart _ => hStart)
    (fun _ hStart => hStart)

theorem configureRecord_keeps
    {cpus : Option (Finset Nat)}
    {setting : Setting}
    (hRecord : record ∈ records) :
    Effect.Keeps (Written records first)
      (configureRecord failures cpus setting record) := by
  have hIrq : record.irq ∈ records.map XhciRecord.irq :=
    List.mem_map_of_mem hRecord
  have hPid : record.pid ∈ records.map XhciRecord.pid :=
    List.mem_map_of_mem hRecord
  refine Effect.Triple.bind
    (Q := fun _ => Written records first) ?_ (fun _ => ?_)
  · cases cpus with
    | none => exact Effect.Triple.pure (fun _ hStart => hStart)
    | some cpus =>
        exact Effect.Triple.bind
          (issueXhci_keeps (by exact hIrq))
          (fun _ => issueXhci_keeps (by exact hPid))
  · cases setting with
    | keep => exact Effect.Triple.pure (fun _ hStart => hStart)
    | other => exact issueXhci_keeps (by exact hPid)
    | rr priority => exact issueXhci_keeps (by exact hPid)
    | fifo priority => exact issueXhci_keeps (by exact hPid)

/- The thread of a record is found where it was. -/
theorem restoreRecord_triple
    {pending : List XhciRecord}
    {P R : XhciWorld → Prop}
    {Q : Unit → XhciWorld → Prop}
    (hTells : Tells first record)
    (hAgrees :
      ∀ world, P world → Agrees pending first world.machine)
    (hRest :
      Effect.Triple P
        (restoreThread failures record record.pid) Q R) :
    Effect.Triple P (restoreRecord failures record) Q R := by
  unfold restoreRecord
  apply Effect.Triple.fix_start
  intro start hStart
  have hState :
      irqThreadState start.machine record.irq =
        some
          (threadState record.pid
            (start.machine.sched record.pid)) := by
    unfold irqThreadState
    rw [(hAgrees start hStart).threads, hTells.sched.1]
    rfl
  refine Effect.Triple.ask_bind_of_ok (by rw [hState]) ?_
  rintro world rfl
  rw [pid_threadState]
  exact hRest world hStart

/- A restore that fails may be tried again. -/
theorem restoreRecord_keeps
    (hTells : Tells first record)
    (hRecord : record ∈ records) :
    Effect.Keeps (Written records first)
      (restoreRecord failures record) := by
  have hIrq : record.irq ∈ records.map XhciRecord.irq :=
    List.mem_map_of_mem hRecord
  have hPid : record.pid ∈ records.map XhciRecord.pid :=
    List.mem_map_of_mem hRecord
  apply restoreRecord_triple hTells
    (fun _ hWritten => hWritten.agrees)
  refine Effect.Triple.bind
    (issueXhci_keeps (by exact hIrq)) (fun _ => ?_)
  refine Effect.Triple.bind (given_keeps _) (fun _ => ?_)
  refine Effect.Triple.bind
    (issueXhci_keeps (by exact hPid)) (fun _ => ?_)
  refine Effect.Triple.bind (given_keeps _) (fun _ => ?_)
  exact issueXhci_keeps (by exact hPid)

end

------------------------------------------------------------
-- What Is Restored
------------------------------------------------------------

section

variable {first : XhciMachine}

/- Every command succeeds. -/
def noFailures : XhciFailures := fun _ => none

/- The commands that go back to the state of a record. -/
def undone
    (first : XhciMachine)
    (record : XhciRecord)
    (machine : XhciMachine) : XhciMachine where
  threadOf := machine.threadOf
  affinity :=
    Function.update machine.affinity record.irq
      (first.affinity record.irq)
  sched :=
    Function.update machine.sched record.pid
      (first.sched record.pid)

theorem restoreThread_run
    {record : XhciRecord}
    (hTells : Tells first record)
    {sched : Sched}
    (hSched : first.sched record.pid = some sched)
    (hRestorable : sched.policy.Restorable)
    {world : XhciWorld}
    {here : Sched}
    (hHere : world.machine.sched record.pid = some here) :
    restoreThread noFailures record record.pid world =
      .ok ()
        { world with
          machine := undone first record world.machine } := by
  have hThread :
      record.thread = threadState record.pid (some sched) := by
    rw [← hSched]
    exact hTells.sched.2
  have hPolicy : record.thread.policy = sched.policy.name := by
    rw [hThread]
    rfl
  have hPriority : record.thread.priority = sched.priority := by
    rw [hThread]
    rfl
  have hCpus := parseCpuList_formatCpuList
    (first.affinity record.irq)
  rw [← hTells.affinity] at hCpus
  have hThreadCpus :
      parseCpuList record.thread.affinity =
        .ok sched.affinity := by
    rw [hThread]
    exact parseCpuList_formatCpuList sched.affinity
  have hName := policyOf_name hRestorable
  rw [← hPolicy] at hName
  unfold restoreThread issueXhci given undone
  simp only [Bind.bind, EStateM.bind, Effect.perform, Effect.ask,
    noFailures, Option.none_or, XhciCommand.refused,
    XhciCommand.apply, XhciMachine.change, hCpus, hThreadCpus,
    hName, hPriority, hHere, hSched, Option.map_some,
    Function.update_self, Function.update_idem]

/- Restoring a record takes it from those that are pending. -/
theorem Agrees.undone
    {record : XhciRecord}
    {pending : List XhciRecord}
    {machine : XhciMachine}
    (hAgrees : Agrees (record :: pending) first machine) :
    Agrees pending first (undone first record machine) := by
  refine ⟨hAgrees.threads, ?_, ?_, ?_⟩
  · intro irq hIrq
    change Function.update machine.affinity record.irq _ irq = _
    by_cases hHere : irq = record.irq
    · rw [hHere, Function.update_self]
    · rw [Function.update_of_ne hHere]
      refine hAgrees.affinity irq ?_
      rw [List.map_cons, List.mem_cons, not_or]
      exact ⟨hHere, hIrq⟩
  · intro pid hPid
    change Function.update machine.sched record.pid _ pid = _
    by_cases hHere : pid = record.pid
    · rw [hHere, Function.update_self]
    · rw [Function.update_of_ne hHere]
      refine hAgrees.sched pid ?_
      rw [List.map_cons, List.mem_cons, not_or]
      exact ⟨hHere, hPid⟩
  · intro pid
    change (Function.update machine.sched record.pid _ pid).isSome
      = _
    by_cases hHere : pid = record.pid
    · rw [hHere, Function.update_self]
    · rw [Function.update_of_ne hHere]
      exact hAgrees.readable pid

/- A restore whose commands succeed ends where it began. -/
theorem restoreRecords_triple
    {records : List XhciRecord}
    (hTells : ∀ record ∈ records, Tells first record)
    (hRestorable : first.Restorable) :
    Effect.Triple
      (fun world => Agrees records first world.machine)
      (Effect.forEach (restoreRecord noFailures) records)
      (fun _ world => world.machine = first)
      (fun _ => False) := by
  have hBody
      (record : XhciRecord)
      (pending : List XhciRecord)
      (hRecord : Tells first record) :
      Effect.Triple
        (fun world =>
          Agrees (record :: pending) first world.machine)
        (restoreRecord noFailures record)
        (fun _ world => Agrees pending first world.machine)
        (fun _ => False) := by
    apply restoreRecord_triple hRecord (fun _ hStart => hStart)
    intro world hAgrees
    rcases hRestorable record.irq record.pid
        hRecord.sched.1 with
      ⟨sched, hSched, hPolicy⟩
    have hSome : (world.machine.sched record.pid).isSome := by
      rw [hAgrees.readable, hSched]
      rfl
    rcases Option.isSome_iff_exists.mp hSome with ⟨here, hHere⟩
    rw [restoreThread_run hRecord hSched hPolicy hHere]
    exact hAgrees.undone
  induction records with
  | nil => exact Effect.Triple.pure (fun _ hStart => hStart.eq)
  | cons record records ih =>
      rw [List.forall_mem_cons] at hTells
      exact Effect.Triple.bind (hBody record records hTells.1)
        (fun _ => ih hTells.2)

end

------------------------------------------------------------
-- The Cells Of A Campaign
------------------------------------------------------------

/- What a cell asks for, and what each of its calls meets. -/
structure Cell where
  survey : Survey
  kernel : RunningKernel
  cpus : Option String
  setting : Setting
  failures : XhciFailures
  restoreSurvey : Survey
  restoreFailures : XhciFailures
  lastSurvey : Survey

/- The calls before the last one, however they end. -/
def Cell.configured
    (cell : Cell)
    (machine : XhciMachine) : XhciWorld :=
  Effect.after
    (configure cell.survey cell.kernel cell.failures cell.cpus
      cell.setting) ⟨machine, none⟩

/-
  A cell of a campaign: `configure`, the `restore` behind the
  probe, and the one of the exit trap, whose commands succeed.
-/
def Cell.run
    (machine : XhciMachine)
    (cell : Cell) : XhciMachine :=
  (Effect.after (restore cell.lastSurvey noFailures)
    (Effect.after
      (restore cell.restoreSurvey cell.restoreFailures)
      (cell.configured machine))).machine

variable {first : XhciMachine}
variable {records : List XhciRecord}

/- What a configuration leaves: nothing, or a written file. -/
def Configured (first : XhciMachine) (world : XhciWorld) : Prop :=
  (world.original = none ∧ world.machine = first) ∨
    ∃ records, Written records first world ∧
      ∀ record ∈ records, Tells first record

theorem configure_triple
    (survey : Survey)
    (kernel : RunningKernel)
    (failures : XhciFailures)
    (cpus : Option String)
    (setting : Setting)
    (first : XhciMachine) :
    Effect.Triple (· = ⟨first, none⟩)
      (configure survey kernel failures cpus setting)
      (fun _ => Configured first) (Configured first) := by
  refine Effect.Triple.ask_bind (Or.inl ⟨rfl, rfl⟩) ?_
  intro records hRecords
  have hTells := tells_of_irqRecords hRecords
  have hWritten :
      Effect.Triple (· = (⟨first, none⟩ : XhciWorld))
        (modify (fun world =>
          { world with original := some records }) :
            Effect XhciWorld Unit)
        (fun _ => Written records first) (Configured first) := by
    rintro world rfl
    exact ⟨rfl, Agrees.refl records first⟩
  have hRaise :
      ∀ world, Written records first world →
        Configured first world :=
    fun world hWorld => Or.inr ⟨records, hWorld, hTells⟩
  have hKeeps
      {A : Type}
      {m : Effect XhciWorld A}
      (hKept : Effect.Keeps (Written records first) m) :
      Effect.Triple (Written records first) m
        (fun _ => Written records first) (Configured first) :=
    hKept.weaken (fun _ hStart => hStart)
      (fun _ _ hPost => hPost) hRaise
  refine Effect.Triple.bind hWritten (fun _ => ?_)
  refine Effect.Triple.bind (hKeeps (given_keeps _))
    (fun cpuSet => ?_)
  refine Effect.Triple.bind
    (hKeeps (Effect.Triple.keeps_forEach (fun record hRecord =>
      configureRecord_keeps hRecord))) (fun _ => ?_)
  refine Effect.Triple.bind
    (hKeeps (Effect.Triple.ask (fun _ _ hStart _ => hStart)
      (fun _ hStart => hStart))) (fun effective => ?_)
  exact (hKeeps (given_keeps _)).weaken (fun _ hStart => hStart)
    (fun _ => hRaise) (fun _ hPost => hPost)

/- Where nothing is written down, a restore does nothing. -/
theorem restore_of_none
    {world : XhciWorld}
    (survey : Survey)
    (failures : XhciFailures)
    (hNone : world.original = none) :
    Effect.after (restore survey failures) world = world := by
  unfold Effect.after restore
  simp only [Bind.bind, EStateM.bind, Effect.ask, hNone]

/- The triple of a restore, from that of its loop. -/
theorem restore_triple
    {P R : XhciWorld → Prop}
    {Q : XhciWorld → Prop}
    {survey : Survey}
    {failures : XhciFailures}
    (hOriginal : ∀ world, P world → world.original = some records)
    (hLoop :
      Effect.Triple P
        (Effect.forEach (restoreRecord failures) records)
        (fun _ => Q) R)
    (hRaise : ∀ world, Q world → R world) :
    Effect.Triple P (restore survey failures) (fun _ => Q) R := by
  unfold restore
  apply Effect.Triple.fix_start
  intro start hStart
  refine Effect.Triple.ask_bind_of_ok (a := records)
    (by rw [hOriginal start hStart]) ?_
  refine Effect.Triple.bind (Q := fun _ => Q) ?_ (fun _ => ?_)
  · rintro world rfl
    exact hLoop world hStart
  · exact Effect.Triple.bind (Q := fun _ => Q)
      (Effect.Triple.ask (fun _ _ hPost _ => hPost) hRaise)
      (fun _ => Effect.Triple.pure (fun _ hPost => hPost))

/- A restore that fails leaves what the next one needs. -/
theorem configured_after_restore
    {world : XhciWorld}
    (survey : Survey)
    (failures : XhciFailures)
    (hConfigured : Configured first world) :
    Configured first
      (Effect.after (restore survey failures) world) := by
  rcases hConfigured with hNothing | ⟨records, hWritten, hTells⟩
  · rw [restore_of_none survey failures hNothing.1]
    exact Or.inl hNothing
  · have hKeeps :
        Effect.Keeps (Written records first)
          (restore survey failures) :=
      restore_triple (fun _ hWorld => hWorld.original)
        (Effect.Triple.keeps_forEach (fun record hRecord =>
          restoreRecord_keeps (hTells record hRecord) hRecord))
        (fun _ hWorld => hWorld)
    exact Or.inr ⟨records,
      hKeeps.of_after (fun _ _ hWorld => hWorld)
        (fun _ hWorld => hWorld) hWritten, hTells⟩

/- A restore whose commands succeed goes back. -/
theorem restore_restores
    {world : XhciWorld}
    (survey : Survey)
    (hRestorable : first.Restorable)
    (hConfigured : Configured first world) :
    (Effect.after (restore survey noFailures) world).machine =
      first := by
  rcases hConfigured with hNothing | ⟨records, hWritten, hTells⟩
  · rw [restore_of_none survey noFailures hNothing.1]
    exact hNothing.2
  · have hRestores :
        Effect.Triple (Written records first)
          (restore survey noFailures)
          (fun _ world => world.machine = first)
          (fun world => world.machine = first) := by
      refine restore_triple (fun _ hWorld => hWorld.original)
        ?_ (fun _ hWorld => hWorld)
      exact (restoreRecords_triple hTells hRestorable).weaken
        (fun _ hWorld => hWorld.agrees)
        (fun _ _ hWorld => hWorld)
        (fun _ hFalse => hFalse.elim)
    exact hRestores.of_after (fun _ _ hWorld => hWorld)
      (fun _ hWorld => hWorld) hWritten

/-
  Cell after cell, whatever they ask for and wherever their
  commands fail, the interrupts end as they were.
-/
theorem cells_restored
    (cells : List Cell)
    (first : XhciMachine)
    (hRestorable : first.Restorable) :
    cells.foldl Cell.run first = first := by
  induction cells with
  | nil => rfl
  | cons cell cells ih =>
      have hConfigured :
          Configured first (cell.configured first) :=
        (configure_triple cell.survey cell.kernel cell.failures
          cell.cpus cell.setting first).of_after
            (fun _ _ hWorld => hWorld) (fun _ hWorld => hWorld)
            rfl
      have hCell : Cell.run first cell = first :=
        restore_restores cell.lastSurvey hRestorable
          (configured_after_restore cell.restoreSurvey
            cell.restoreFailures hConfigured)
      rw [List.foldl_cons, hCell]
      exact ih

/- Two controllers, whose threads are FIFO threads. -/
def twoThreads : XhciMachine where
  threadOf irq :=
    if irq = 132 then some 81
    else if irq = 137 then some 82
    else none
  affinity _ := {0}
  sched _ := some ⟨.fifo, 50, {0}⟩

/- The second thread refuses its new policy. -/
def refusedCell : Cell where
  survey :=
    { devices :=
        [⟨"1-1", "/sys/xhci-hcd.0/usb1/1-1",
            some "/sys/xhci-hcd.0", ["usb1"]⟩,
          ⟨"3-1", "/sys/xhci-hcd.1/usb3/3-1",
            some "/sys/xhci-hcd.1", ["usb3"]⟩]
      actions := [("usb1", 132), ("usb3", 137)] }
  kernel := ⟨none, "6.12", "#1 SMP PREEMPT_RT", ""⟩
  cpus := some "1-3"
  setting := .fifo 90
  failures command :=
    if command = .setScheduler 82 .fifo 90 then
      some "Operation not permitted"
    else
      none
  restoreSurvey := ⟨[], []⟩
  restoreFailures command :=
    if command = .setScheduler 81 .fifo 50 then
      some "Operation not permitted"
    else
      none
  lastSurvey := ⟨[], []⟩

theorem cells_restored_refused :
    [refusedCell, refusedCell].foldl Cell.run twoThreads =
      twoThreads :=
  cells_restored [refusedCell, refusedCell] twoThreads
    (fun _ _ _ => ⟨_, rfl, Or.inr (Or.inl rfl)⟩)

end Xhci

end Controls

end RsCamera
