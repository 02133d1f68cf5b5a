import Mathlib.Logic.Function.Basic
import RsCamera.Lib.Transition
import RsCamera.Uvc.TaskStat

/-
  The monitor that promotes the workers of the camera driver
  and restores them in the end (`handle_worker` and
  `restore_workers` in `uvc_worker_fifo_monitor.c`).

  A task is known to the monitor by its TID and by its start
  time.  Between two events tasks may die, others may take
  their TIDs, and anybody may change their parameters.  The
  census gives every task that ever lives its TID and its start
  time.  The monitor does not know it; it is what the files
  under `/proc` are written from.

  A start time of zero stands for one that could not be read.
  A worker that was promoted with it is never restored.

  Key definitions include:
    * `Census`, `Kernel`, `Calls`
    * `Monitor`, `Monitor.handleWorker`
    * `Monitor.restoreWorkers`
    * `monitorSystem`
    * `Bookkeeping`

  Key theorems include:
    * `Monitor.handleWorker_cases`
    * `Bookkeeping.step`
    * `restoreWorkers_restores`
-/

------------------------------------------------------------
-- Tasks
------------------------------------------------------------

namespace RsCamera

namespace Uvc

/- The TID and the start time of every task. -/
structure Census where
  tid : Nat → Int
  start : Nat → Nat

/- A thread of the kernel. -/
structure Task where
  id : Nat
  policy : Nat
  priority : Int
deriving Repr, DecidableEq

/- The tasks that live, by their TID. -/
structure Kernel (census : Census) where
  tasks : Int → Option Task
  home :
    ∀ tid task, tasks tid = some task →
      census.tid task.id = tid
  positive :
    ∀ tid task, tasks tid = some task → 0 < tid

/- What the calls of the monitor meet with at a time. -/
structure Calls (census : Census) where
  readable : Bool := true
  line : Nat → StatLine
  line_start : ∀ id, (line id).start = census.start id
  schedulerFails : Bool := false
  paramFails : Bool := false
  setFails : Bool := false

namespace Kernel

variable {census : Census}

/- The file `/proc/<tid>/stat`, if it can be read. -/
def stat
    (kernel : Kernel census)
    (calls : Calls census)
    (tid : Int) : Option (List Char) :=
  if calls.readable then
    (kernel.tasks tid).map (fun task =>
      (calls.line task.id).text)
  else
    none

/- `sched_setscheduler`. -/
def setScheduler
    (kernel : Kernel census)
    (tid : Int)
    (policy : Nat)
    (priority : Int) : Kernel census where
  tasks :=
    Function.update kernel.tasks tid
      ((kernel.tasks tid).map (fun task =>
        { task with policy := policy, priority := priority }))
  home := by
    intro other task hTask
    by_cases hSame : other = tid
    · rw [hSame, Function.update_self,
        Option.map_eq_some_iff] at hTask
      rcases hTask with ⟨old, hOld, hIs⟩
      rw [← hIs, hSame]
      exact kernel.home tid old hOld
    · rw [Function.update_of_ne hSame] at hTask
      exact kernel.home other task hTask
  positive := by
    intro other task hTask
    by_cases hSame : other = tid
    · rw [hSame, Function.update_self,
        Option.map_eq_some_iff] at hTask
      rcases hTask with ⟨old, hOld, -⟩
      rw [hSame]
      exact kernel.positive tid old hOld
    · rw [Function.update_of_ne hSame] at hTask
      exact kernel.positive other task hTask

theorem setScheduler_self
    (kernel : Kernel census)
    (tid : Int)
    (policy : Nat)
    (priority : Int) :
    (kernel.setScheduler tid policy priority).tasks tid =
      (kernel.tasks tid).map (fun task =>
        { task with policy := policy, priority := priority }) :=
  Function.update_self ..

theorem setScheduler_of_ne
    (kernel : Kernel census)
    {tid other : Int}
    (hOther : other ≠ tid)
    (policy : Nat)
    (priority : Int) :
    (kernel.setScheduler tid policy priority).tasks other =
      kernel.tasks other :=
  Function.update_of_ne hOther ..

end Kernel

------------------------------------------------------------
-- The Monitor
------------------------------------------------------------

/- An event of the ring buffer. -/
structure WorkerEvent where
  size : Nat
  tid : BitVec 32
  comm : List Char
deriving Repr, DecidableEq

/- `worker_state`. -/
structure WorkerState where
  tid : Int
  originalPolicy : Nat := 0
  originalPriority : Int := 0
  startTime : Nat := 0
  changed : Bool := false
  comm : List Char := []
deriving Repr, DecidableEq

/- A task that was promoted, and what it was before. -/
structure Promotion where
  id : Nat
  policy : Nat
  priority : Int
deriving Repr, DecidableEq

/-
  The controller and the kernel.  What was promoted and what
  was written is recorded next to them.
-/
structure Monitor (census : Census) where
  workers : List WorkerState := []
  policy : Int
  priority : Int
  log : List (String × Int) := []
  kernel : Kernel census
  promoted : List Promotion := []
  written : List Nat := []

def schedDeadline : Nat := 6

/- A call for TID zero is about the caller. -/
def schedTarget (caller tid : Int) : Int :=
  if tid = 0 then caller else tid

namespace Monitor

variable {census : Census}

/- Enter a worker into the table and log what was done. -/
def enter
    (monitor : Monitor census)
    (worker : WorkerState)
    (action : String) : Monitor census :=
  { monitor with
    workers := monitor.workers ++ [worker]
    log := monitor.log ++ [(action, worker.tid)] }

/- A worker gets the policy. -/
def promote
    (caller : Int)
    (monitor : Monitor census)
    (worker : WorkerState)
    (task : Task) : Monitor census :=
  { monitor.enter { worker with changed := true } "promoted" with
    kernel :=
      monitor.kernel.setScheduler (schedTarget caller worker.tid)
        monitor.policy.toNat monitor.priority
    promoted :=
      monitor.promoted ++
        [⟨task.id, task.policy, task.priority⟩]
    written := monitor.written ++ [task.id] }

/- A task that is not lifted any further. -/
def keeps
    (monitor : Monitor census)
    (task : Task) : Bool :=
  task.policy = schedDeadline ||
    ((task.policy : Int) = monitor.policy &&
      monitor.priority ≤ task.priority)

/- `handle_worker`. -/
def handleWorker
    (caller : Int)
    (calls : Calls census)
    (event : WorkerEvent)
    (monitor : Monitor census) : Monitor census :=
  let tid := event.tid.toInt
  if event.size < 32 ∨ 256 ≤ monitor.workers.length then
    monitor
  else if monitor.workers.any (fun worker => worker.tid = tid) then
    monitor
  else
    let worker : WorkerState :=
      { tid := tid
        comm := event.comm
        startTime :=
          taskStartTime (monitor.kernel.stat calls tid) }
    match
      (if calls.schedulerFails then none
      else monitor.kernel.tasks (schedTarget caller tid)) with
    | none => monitor.enter worker "inspect-failed"
    | some task =>
        if calls.paramFails then
          monitor.enter worker "inspect-failed"
        else
          let worker :=
            { worker with
              originalPolicy := task.policy
              originalPriority := task.priority }
          if monitor.policy = -1 then
            monitor.enter worker "observed"
          else if monitor.keeps task then
            monitor.enter worker "kept-existing-policy"
          else if calls.setFails then
            monitor.enter worker "promote-failed"
          else
            monitor.promote caller worker task

/- One worker of `restore_workers`. -/
def restoreWorker
    (caller : Int)
    (calls : Calls census)
    (monitor : Monitor census)
    (worker : WorkerState) : Monitor census :=
  if worker.changed = false then
    monitor
  else if worker.startTime = 0 ∨
      taskStartTime (monitor.kernel.stat calls worker.tid) ≠
        worker.startTime then
    { monitor with
      log :=
        monitor.log ++
          [("restore-skipped-task-gone", worker.tid)] }
  else
    match
      (if calls.setFails then none
      else
        monitor.kernel.tasks (schedTarget caller worker.tid)) with
    | none =>
        { monitor with
          log := monitor.log ++ [("restore-failed", worker.tid)] }
    | some task =>
        { monitor with
          kernel :=
            monitor.kernel.setScheduler
              (schedTarget caller worker.tid)
              worker.originalPolicy worker.originalPriority
          written := monitor.written ++ [task.id]
          log := monitor.log ++ [("restored", worker.tid)] }

/- The workers are restored in reverse order. -/
def restoreWorkers
    (caller : Int)
    (calls : Calls census)
    (monitor : Monitor census) : Monitor census :=
  monitor.workers.reverse.foldl (restoreWorker caller calls)
    monitor

end Monitor

/- Between events the tasks may become any others. -/
inductive MonitorAction (census : Census)
| change (kernel : Kernel census)
| event (calls : Calls census) (event : WorkerEvent)

/- The runs of the monitor. -/
def monitorSystem
    (census : Census)
    (caller : Int) :
    TransitionSystem (Monitor census) (MonitorAction census) where
  step := fun monitor action =>
    match action with
    | .change kernel => some { monitor with kernel := kernel }
    | .event calls event =>
        some (monitor.handleWorker caller calls event)

------------------------------------------------------------
-- Bookkeeping
------------------------------------------------------------

section

variable {census : Census}

theorem taskStartTime_stat
    (kernel : Kernel census)
    (calls : Calls census)
    (tid : Int) :
    taskStartTime (kernel.stat calls tid) =
      match (if calls.readable then kernel.tasks tid
        else none) with
      | some task => census.start task.id
      | none => 0 := by
  unfold Kernel.stat
  cases calls.readable with
  | false => rfl
  | true =>
      cases kernel.tasks tid with
      | none => rfl
      | some task =>
          simp only [if_true, Option.map_some,
            taskStartTime_text, calls.line_start]

/- A start time that is known is one of the task itself. -/
theorem taskStartTime_stat_ne_zero
    {kernel : Kernel census}
    {calls : Calls census}
    {tid : Int}
    (hKnown : taskStartTime (kernel.stat calls tid) ≠ 0) :
    ∃ task,
      kernel.tasks tid = some task ∧
        taskStartTime (kernel.stat calls tid) =
          census.start task.id := by
  rw [taskStartTime_stat] at hKnown ⊢
  cases hRead : calls.readable with
  | false =>
      rw [hRead] at hKnown
      exact absurd rfl hKnown
  | true =>
      rw [hRead] at hKnown
      cases hTask : kernel.tasks tid with
      | none =>
          rw [hTask] at hKnown
          exact absurd rfl hKnown
      | some task => exact ⟨task, rfl, rfl⟩

theorem schedTarget_of_task
    {kernel : Kernel census}
    {tid : Int}
    {task : Task}
    (hTask : kernel.tasks tid = some task)
    (caller : Int) :
    schedTarget caller tid = tid := by
  have hPositive := kernel.positive tid task hTask
  exact if_neg (by omega)

/- What an event does: nothing, an entry, or a promotion. -/
theorem Monitor.handleWorker_cases
    (caller : Int)
    (calls : Calls census)
    (event : WorkerEvent)
    (monitor : Monitor census) :
    monitor.handleWorker caller calls event = monitor ∨
      ((∀ worker ∈ monitor.workers,
          worker.tid ≠ event.tid.toInt) ∧
        ∃ worker : WorkerState,
          worker.tid = event.tid.toInt ∧
            ((worker.changed = false ∧
                ∃ action,
                  monitor.handleWorker caller calls event =
                    monitor.enter worker action) ∨
              ∃ task,
                monitor.kernel.tasks
                    (schedTarget caller worker.tid) =
                  some task ∧
                worker.startTime =
                  taskStartTime
                    (monitor.kernel.stat calls worker.tid) ∧
                worker.originalPolicy = task.policy ∧
                worker.originalPriority = task.priority ∧
                monitor.handleWorker caller calls event =
                  monitor.promote caller worker task)) := by
  unfold Monitor.handleWorker
  by_cases hIgnored :
      event.size < 32 ∨ 256 ≤ monitor.workers.length
  · exact Or.inl (if_pos hIgnored)
  · simp only [if_neg hIgnored]
    cases hSeen :
        monitor.workers.any (fun worker =>
          worker.tid = event.tid.toInt) with
    | true => exact Or.inl rfl
    | false =>
        right
        constructor
        · intro worker hWorker hSame
          rw [List.any_eq_false] at hSeen
          exact hSeen worker hWorker (by simp [hSame])
        · cases hTask :
              (if calls.schedulerFails then none
              else
                monitor.kernel.tasks
                  (schedTarget caller event.tid.toInt)) with
          | none => exact ⟨_, rfl, Or.inl ⟨rfl, _, rfl⟩⟩
          | some task =>
              have hHeld :
                  monitor.kernel.tasks
                      (schedTarget caller event.tid.toInt) =
                    some task := by
                split at hTask
                · cases hTask
                · exact hTask
              simp only [Bool.false_eq_true, if_false]
              split
              · exact ⟨_, rfl, Or.inl ⟨rfl, _, rfl⟩⟩
              split
              · exact ⟨_, rfl, Or.inl ⟨rfl, _, rfl⟩⟩
              split
              · exact ⟨_, rfl, Or.inl ⟨rfl, _, rfl⟩⟩
              split
              · exact ⟨_, rfl, Or.inl ⟨rfl, _, rfl⟩⟩
              · exact ⟨_, rfl, Or.inr
                  ⟨task, hHeld, rfl, rfl, rfl, rfl⟩⟩

/- The entry of a promotion. -/
structure Entered
    (census : Census)
    (caller : Int)
    (worker : WorkerState)
    (promotion : Promotion) : Prop where
  changed : worker.changed = true
  policy : worker.originalPolicy = promotion.policy
  priority : worker.originalPriority = promotion.priority
  target :
    schedTarget caller worker.tid = census.tid promotion.id
  sighted :
    worker.startTime ≠ 0 →
      worker.tid = census.tid promotion.id ∧
        worker.startTime = census.start promotion.id

/- The table holds what was promoted, once. -/
structure Bookkeeping
    (caller : Int)
    (monitor : Monitor census) : Prop where
  tids : (monitor.workers.map WorkerState.tid).Nodup
  known :
    ∀ promotion ∈ monitor.promoted,
      ∃ worker ∈ monitor.workers,
        Entered census caller worker promotion
  owners :
    ∀ worker ∈ monitor.workers, worker.changed = true →
      ∃ promotion ∈ monitor.promoted,
        Entered census caller worker promotion
  written :
    ∀ id ∈ monitor.written,
      ∃ promotion ∈ monitor.promoted, promotion.id = id

theorem nodup_enter
    {workers : List WorkerState}
    (hTids : (workers.map WorkerState.tid).Nodup)
    {worker : WorkerState}
    (hFresh : ∀ other ∈ workers, other.tid ≠ worker.tid) :
    ((workers ++ [worker]).map WorkerState.tid).Nodup := by
  rw [List.map_append, List.nodup_append]
  refine ⟨hTids, by simp, ?_⟩
  intro tid hTid tid' hTid'
  rcases List.mem_map.mp hTid with ⟨other, hOther, hIs⟩
  rw [← hIs, List.mem_singleton.mp hTid']
  exact hFresh other hOther

theorem Bookkeeping.enter
    {caller : Int}
    {monitor : Monitor census}
    (hKept : Bookkeeping caller monitor)
    {worker : WorkerState}
    (hFresh :
      ∀ other ∈ monitor.workers, other.tid ≠ worker.tid)
    (hUnchanged : worker.changed = false)
    (action : String) :
    Bookkeeping caller (monitor.enter worker action) := by
  refine ⟨nodup_enter hKept.tids hFresh, ?_, ?_,
    hKept.written⟩
  · intro promotion hPromotion
    rcases hKept.known promotion hPromotion with
      ⟨other, hOther, hEntered⟩
    exact ⟨other, List.mem_append_left _ hOther, hEntered⟩
  · intro other hOther hChanged
    rcases List.mem_append.mp hOther with hOld | hNew
    · exact hKept.owners other hOld hChanged
    · rw [List.mem_singleton.mp hNew, hUnchanged] at hChanged
      cases hChanged

theorem Bookkeeping.promote
    {caller : Int}
    {monitor : Monitor census}
    (hKept : Bookkeeping caller monitor)
    {calls : Calls census}
    {worker : WorkerState}
    (hFresh :
      ∀ other ∈ monitor.workers, other.tid ≠ worker.tid)
    {task : Task}
    (hTask :
      monitor.kernel.tasks (schedTarget caller worker.tid) =
        some task)
    (hStart :
      worker.startTime =
        taskStartTime (monitor.kernel.stat calls worker.tid))
    (hPolicy : worker.originalPolicy = task.policy)
    (hPriority : worker.originalPriority = task.priority) :
    Bookkeeping caller (monitor.promote caller worker task) := by
  have hEntered :
      Entered census caller { worker with changed := true }
        ⟨task.id, task.policy, task.priority⟩ := by
    refine ⟨rfl, hPolicy, hPriority,
      (monitor.kernel.home _ _ hTask).symm, ?_⟩
    intro hKnown
    have hRead :
        taskStartTime
          (monitor.kernel.stat calls worker.tid) ≠ 0 := by
      rw [← hStart]
      exact hKnown
    rcases taskStartTime_stat_ne_zero hRead with
      ⟨held, hHeld, hIs⟩
    rw [schedTarget_of_task hHeld, hHeld] at hTask
    cases hTask
    exact ⟨(monitor.kernel.home _ _ hHeld).symm,
      hStart.trans hIs⟩
  refine ⟨nodup_enter hKept.tids hFresh, ?_, ?_, ?_⟩
  · intro promotion hPromotion
    rcases List.mem_append.mp hPromotion with hOld | hNew
    · rcases hKept.known promotion hOld with
        ⟨other, hOther, hIs⟩
      exact ⟨other, List.mem_append_left _ hOther, hIs⟩
    · rw [List.mem_singleton.mp hNew]
      exact ⟨_, List.mem_append_right _
        (List.mem_singleton_self _), hEntered⟩
  · intro other hOther hChanged
    rcases List.mem_append.mp hOther with hOld | hNew
    · rcases hKept.owners other hOld hChanged with
        ⟨promotion, hPromotion, hIs⟩
      exact ⟨promotion, List.mem_append_left _ hPromotion, hIs⟩
    · rw [List.mem_singleton.mp hNew]
      exact ⟨_, List.mem_append_right _
        (List.mem_singleton_self _), hEntered⟩
  · intro id hId
    rcases List.mem_append.mp hId with hOld | hNew
    · rcases hKept.written id hOld with
        ⟨promotion, hPromotion, hIs⟩
      exact ⟨promotion, List.mem_append_left _ hPromotion, hIs⟩
    · rw [List.mem_singleton.mp hNew]
      exact ⟨_, List.mem_append_right _
        (List.mem_singleton_self _), rfl⟩

theorem Bookkeeping.step
    {caller : Int}
    {monitor next : Monitor census}
    {action : MonitorAction census}
    (hKept : Bookkeeping caller monitor)
    (hStep :
      (monitorSystem census caller).step monitor action =
        some next) :
    Bookkeeping caller next := by
  cases action with
  | change kernel =>
      rw [← Option.some.inj hStep]
      exact ⟨hKept.tids, hKept.known, hKept.owners,
        hKept.written⟩
  | event calls event =>
      rw [← Option.some.inj hStep]
      rcases monitor.handleWorker_cases caller calls event with
        hSame | ⟨hFresh, worker, hTid, hCases⟩
      · rw [hSame]
        exact hKept
      · rw [← hTid] at hFresh
        rcases hCases with
          ⟨hUnchanged, logged, hEnter⟩ |
            ⟨task, hTask, hStart, hPolicy, hPriority, hPromote⟩
        · rw [hEnter]
          exact hKept.enter hFresh hUnchanged logged
        · rw [hPromote]
          exact hKept.promote hFresh hTask hStart hPolicy
            hPriority

end

------------------------------------------------------------
-- Restoring
------------------------------------------------------------

variable {census : Census}

/-
  A restored worker is written where its own TID is, and only
  a task with the start time that it was entered with.
-/
theorem Monitor.restoreWorker_cases
    (caller : Int)
    (calls : Calls census)
    (monitor : Monitor census)
    (worker : WorkerState) :
    (((monitor.restoreWorker caller calls worker).kernel =
          monitor.kernel ∧
        (monitor.restoreWorker caller calls worker).written =
          monitor.written) ∨
      ∃ task,
        worker.changed = true ∧ worker.startTime ≠ 0 ∧
        monitor.kernel.tasks worker.tid = some task ∧
        census.start task.id = worker.startTime ∧
        (monitor.restoreWorker caller calls worker).kernel =
          monitor.kernel.setScheduler worker.tid
            worker.originalPolicy worker.originalPriority ∧
        (monitor.restoreWorker caller calls worker).written =
          monitor.written ++ [task.id]) := by
  unfold Monitor.restoreWorker
  split
  · exact Or.inl ⟨rfl, rfl⟩
  · rename_i hChanged
    split
    · exact Or.inl ⟨rfl, rfl⟩
    · rename_i hSame
      rw [not_or, not_not] at hSame
      have hRead :
          taskStartTime
            (monitor.kernel.stat calls worker.tid) ≠ 0 := by
        rw [hSame.2]
        exact hSame.1
      rcases taskStartTime_stat_ne_zero hRead with
        ⟨held, hHeld, hStart⟩
      rw [schedTarget_of_task hHeld]
      split
      · exact Or.inl ⟨rfl, rfl⟩
      · rename_i task hTask
        have hIs : held = task := by
          split at hTask
          · cases hTask
          · exact Option.some.inj (hHeld.symm.trans hTask)
        refine Or.inr ⟨held, by simpa using hChanged, hSame.1,
          hHeld, hStart.symm.trans hSame.2, rfl, ?_⟩
        rw [hIs]

/- The same tasks live, whatever their parameters. -/
def SameTasks
    (kernel other : Kernel census) : Prop :=
  ∀ tid,
    (kernel.tasks tid).map Task.id =
      (other.tasks tid).map Task.id

theorem SameTasks.held
    {kernel other : Kernel census}
    (hSame : SameTasks kernel other)
    {tid : Int}
    {task : Task}
    (hTask : kernel.tasks tid = some task) :
    ∃ held, other.tasks tid = some held ∧ held.id = task.id := by
  have hIds := hSame tid
  rw [hTask, Option.map_some] at hIds
  exact Option.map_eq_some_iff.mp hIds.symm

theorem sameTasks_setScheduler
    (kernel : Kernel census)
    (tid : Int)
    (policy : Nat)
    (priority : Int) :
    SameTasks (kernel.setScheduler tid policy priority)
      kernel := by
  intro other
  by_cases hTid : other = tid
  · rw [hTid, kernel.setScheduler_self, Option.map_map]
    rfl
  · rw [kernel.setScheduler_of_ne hTid]

theorem sameTasks_restoreWorker
    (caller : Int)
    (calls : Calls census)
    (monitor : Monitor census)
    (worker : WorkerState) :
    SameTasks (monitor.restoreWorker caller calls worker).kernel
      monitor.kernel := by
  rcases monitor.restoreWorker_cases caller calls worker with
    ⟨hKernel, -⟩ | ⟨task, -, -, -, -, hKernel, -⟩
  · rw [hKernel]
    exact fun tid => rfl
  · rw [hKernel]
    exact sameTasks_setScheduler _ _ _ _

theorem sameTasks_restoreAll
    (caller : Int)
    (calls : Calls census)
    (monitor : Monitor census)
    (workers : List WorkerState) :
    SameTasks
      (workers.foldl (Monitor.restoreWorker caller calls)
        monitor).kernel
      monitor.kernel := by
  induction workers generalizing monitor with
  | nil => exact fun tid => rfl
  | cons worker workers ih =>
      intro tid
      exact (ih _ tid).trans
        (sameTasks_restoreWorker caller calls monitor worker tid)

theorem restoreWorker_frame
    (caller : Int)
    (calls : Calls census)
    (monitor : Monitor census)
    {worker : WorkerState}
    {tid : Int}
    (hOther : worker.tid ≠ tid) :
    (monitor.restoreWorker caller calls
        worker).kernel.tasks tid =
      monitor.kernel.tasks tid := by
  rcases monitor.restoreWorker_cases caller calls worker with
    ⟨hKernel, -⟩ | ⟨task, -, -, -, -, hKernel, -⟩
  · rw [hKernel]
  · rw [hKernel]
    exact monitor.kernel.setScheduler_of_ne (Ne.symm hOther) _ _

/- A TID that no worker has is left alone. -/
theorem restoreAll_frame
    (caller : Int)
    (calls : Calls census)
    (monitor : Monitor census)
    {workers : List WorkerState}
    {tid : Int}
    (hOther : ∀ worker ∈ workers, worker.tid ≠ tid) :
    (workers.foldl (Monitor.restoreWorker caller calls)
        monitor).kernel.tasks tid =
      monitor.kernel.tasks tid := by
  induction workers generalizing monitor with
  | nil => rfl
  | cons worker workers ih =>
      rw [List.forall_mem_cons] at hOther
      rw [List.foldl_cons, ih _ hOther.2,
        restoreWorker_frame caller calls monitor hOther.1]

/- A task that is found again gets its parameters back. -/
theorem restoreWorker_restores
    (caller : Int)
    {calls : Calls census}
    (hReadable : calls.readable = true)
    (hSet : calls.setFails = false)
    (monitor : Monitor census)
    {worker : WorkerState}
    (hChanged : worker.changed = true)
    (hKnown : worker.startTime ≠ 0)
    {task : Task}
    (hTask : monitor.kernel.tasks worker.tid = some task)
    (hStart : census.start task.id = worker.startTime) :
    (monitor.restoreWorker caller calls
        worker).kernel.tasks worker.tid =
      some
        { task with
          policy := worker.originalPolicy
          priority := worker.originalPriority } := by
  have hRead :
      taskStartTime (monitor.kernel.stat calls worker.tid) =
        worker.startTime := by
    rw [taskStartTime_stat, hReadable, if_pos rfl, hTask]
    exact hStart
  unfold Monitor.restoreWorker
  rw [if_neg (by simp [hChanged]),
    if_neg (by simp [hKnown, hRead]),
    schedTarget_of_task hTask]
  simp only [hSet, Bool.false_eq_true, if_false, hTask]
  rw [Kernel.setScheduler_self, hTask]
  rfl

/-
  With TIDs that differ, the worker that was entered for a
  task decides what the task has in the end.
-/
theorem restoreWorkers_tasks
    {caller : Int}
    {calls : Calls census}
    (hReadable : calls.readable = true)
    (hSet : calls.setFails = false)
    {monitor : Monitor census}
    (hTids : (monitor.workers.map WorkerState.tid).Nodup)
    {worker : WorkerState}
    (hWorker : worker ∈ monitor.workers)
    (hChanged : worker.changed = true)
    (hKnown : worker.startTime ≠ 0)
    {task : Task}
    (hTask : monitor.kernel.tasks worker.tid = some task)
    (hStart : census.start task.id = worker.startTime) :
    (monitor.restoreWorkers caller calls).kernel.tasks
        worker.tid =
      some
        { task with
          policy := worker.originalPolicy
          priority := worker.originalPriority } := by
  have hReversed :
      (monitor.workers.reverse.map WorkerState.tid).Nodup := by
    rw [List.map_reverse, List.nodup_reverse]
    exact hTids
  rcases List.append_of_mem (List.mem_reverse.mpr hWorker) with
    ⟨before, after, hSplit⟩
  rw [hSplit, List.map_append, List.map_cons,
    List.nodup_append, List.nodup_cons] at hReversed
  rcases hReversed with ⟨-, ⟨hAfter, -⟩, hBefore⟩
  have hBeforeFrame :
      ∀ other ∈ before, other.tid ≠ worker.tid := by
    intro other hOther
    exact hBefore other.tid (List.mem_map_of_mem hOther)
      worker.tid (List.mem_cons_self ..)
  have hAfterFrame :
      ∀ other ∈ after, other.tid ≠ worker.tid := by
    intro other hOther hSame
    exact hAfter (hSame ▸ List.mem_map_of_mem hOther)
  unfold Monitor.restoreWorkers
  rw [hSplit, List.foldl_append, List.foldl_cons,
    restoreAll_frame caller calls _ hAfterFrame]
  apply restoreWorker_restores caller hReadable hSet _ hChanged
    hKnown _ hStart
  rw [restoreAll_frame caller calls _ hBeforeFrame]
  exact hTask

/- No task has the place and the start time of a promoted one. -/
def Unmistaken (monitor : Monitor census) : Prop :=
  ∀ promotion ∈ monitor.promoted,
    ∀ task,
      monitor.kernel.tasks (census.tid promotion.id) =
          some task →
        census.start task.id = census.start promotion.id →
          task.id = promotion.id

/- No promoted task that lives was entered with zero. -/
def Sighted
    (caller : Int)
    (monitor : Monitor census) : Prop :=
  ∀ worker ∈ monitor.workers,
    worker.changed = true → worker.startTime = 0 →
      ∀ task,
        monitor.kernel.tasks (schedTarget caller worker.tid) =
            some task →
          ∀ promotion ∈ monitor.promoted,
            promotion.id ≠ task.id

theorem restoreAll_written
    {caller : Int}
    (calls : Calls census)
    {monitor : Monitor census}
    (hKept : Bookkeeping caller monitor)
    (hOwn : Unmistaken monitor)
    (current : Monitor census)
    (hSame : SameTasks current.kernel monitor.kernel)
    (hWritten :
      ∀ id ∈ current.written,
        ∃ promotion ∈ monitor.promoted, promotion.id = id)
    {workers : List WorkerState}
    (hWorkers : ∀ worker ∈ workers, worker ∈ monitor.workers) :
    ∀ id ∈
      (workers.foldl (Monitor.restoreWorker caller calls)
        current).written,
      ∃ promotion ∈ monitor.promoted, promotion.id = id := by
  induction workers generalizing current with
  | nil => exact hWritten
  | cons worker workers ih =>
      rw [List.forall_mem_cons] at hWorkers
      apply ih (current.restoreWorker caller calls worker)
      · intro tid
        exact
          (sameTasks_restoreWorker caller calls current worker
            tid).trans (hSame tid)
      · rcases current.restoreWorker_cases caller calls
            worker with
          ⟨-, hKeeps⟩ |
            ⟨task, hChanged, hKnown, hTask, hStart, -, hKeeps⟩
        · rw [hKeeps]
          exact hWritten
        · rw [hKeeps, List.forall_mem_append,
            List.forall_mem_singleton]
          refine ⟨hWritten, ?_⟩
          rcases hKept.owners worker hWorkers.1 hChanged with
            ⟨promotion, hPromotion, hEntered⟩
          rcases hEntered.sighted hKnown with ⟨hTid, hTime⟩
          rcases hSame.held hTask with ⟨held, hHeld, hId⟩
          refine ⟨promotion, hPromotion, ?_⟩
          rw [hTid] at hHeld
          rw [← hId]
          exact (hOwn promotion hPromotion held hHeld
            (by rw [hId, hStart, hTime])).symm
      · exact hWorkers.2

theorem Bookkeeping.restored
    {caller : Int}
    {calls : Calls census}
    (hReadable : calls.readable = true)
    (hSet : calls.setFails = false)
    {monitor : Monitor census}
    (hKept : Bookkeeping caller monitor)
    (hSighted : Sighted caller monitor)
    {promotion : Promotion}
    (hPromotion : promotion ∈ monitor.promoted)
    {tid : Int}
    {task : Task}
    (hTask :
      (monitor.restoreWorkers caller calls).kernel.tasks tid =
        some task)
    (hId : task.id = promotion.id) :
    task.policy = promotion.policy ∧
      task.priority = promotion.priority := by
  have hTid : census.tid promotion.id = tid := by
    rw [← hId]
    exact Kernel.home _ tid task hTask
  rcases (sameTasks_restoreAll caller calls monitor
      monitor.workers.reverse).held hTask with
    ⟨held, hHeld, hHeldId⟩
  rcases hKept.known promotion hPromotion with
    ⟨worker, hWorker, hEntered⟩
  have hKnown : worker.startTime ≠ 0 := by
    intro hZero
    apply hSighted worker hWorker hEntered.changed hZero held
      _ promotion hPromotion
    · rw [hHeldId, hId]
    · rw [hEntered.target, hTid]
      exact hHeld
  rcases hEntered.sighted hKnown with ⟨hWorkerTid, hTime⟩
  have hPlace : worker.tid = tid := hWorkerTid.trans hTid
  have hRestored :=
    @restoreWorkers_tasks _ caller _ hReadable hSet _
      hKept.tids _ hWorker hEntered.changed hKnown _
      (hPlace.symm ▸ hHeld) (by rw [hHeldId, hId, hTime])
  rw [hPlace, hTask] at hRestored
  rw [Option.some.inj hRestored]
  exact ⟨hEntered.policy, hEntered.priority⟩

/-
  What the end of the monitor owes: every promoted task that
  still lives has what it had before, and no other task was
  ever written.
-/
def Repaid
    (monitor restored : Monitor census) : Prop :=
  (∀ promotion ∈ monitor.promoted,
      ∀ tid task,
        restored.kernel.tasks tid = some task →
          task.id = promotion.id →
            task.policy = promotion.policy ∧
              task.priority = promotion.priority) ∧
    ∀ id ∈ restored.written,
      ∃ promotion ∈ monitor.promoted, promotion.id = id

theorem restoreWorkers_restores
    (census : Census)
    (caller policy priority : Int)
    (kernel : Kernel census)
    (actions : List (MonitorAction census))
    (monitor : Monitor census)
    (hRun :
      (monitorSystem census caller).run
          { policy := policy
            priority := priority
            kernel := kernel }
          actions =
        some monitor)
    (calls : Calls census)
    (hReadable : calls.readable = true)
    (hSet : calls.setFails = false)
    (hSighted : Sighted caller monitor)
    (hOwn : Unmistaken monitor) :
    Repaid monitor (monitor.restoreWorkers caller calls) := by
  have hKept : Bookkeeping caller monitor := by
    apply TransitionSystem.run_invariant _ _ _ hRun
    · intro s a t hBefore hStep
      exact hBefore.step hStep
    · exact ⟨List.nodup_nil, by simp, by simp, by simp⟩
  constructor
  · intro promotion hPromotion tid task hTask hId
    exact hKept.restored hReadable hSet hSighted hPromotion
      hTask hId
  · exact restoreAll_written calls hKept hOwn monitor
      (fun tid => rfl) hKept.written
      (fun worker hWorker => List.mem_reverse.mp hWorker)

/- One worker, with TID five. -/
def workerCensus (start : Nat) : Census where
  tid := fun id => id
  start := fun _ => start

def workerKernel (start : Nat) : Kernel (workerCensus start) where
  tasks := fun tid =>
    if tid = 5 then some ⟨5, 0, 0⟩ else none
  home := by
    intro tid task hTask
    split at hTask
    · rename_i hTid
      rw [← Option.some.inj hTask, hTid]
      rfl
    · cases hTask
  positive := by
    intro tid task hTask
    split at hTask
    · omega
    · cases hTask

def workerLine (start : Nat) (hDigit : start < 10) : StatLine where
  pid := 5
  comm := "kworker/0:0".toList
  fields := List.replicate 19 ['0']
  start := start
  rest := ['\n']
  comm_line := by decide
  fields_length := rfl
  fields_plain := by
    intro field hField
    rw [List.eq_of_mem_replicate hField]
    decide
  start_lt := by omega
  rest_plain := by decide
  rest_head := by
    intro c hC
    exact Or.inr (Option.some.inj hC).symm
  fits := by
    have hStart : (toString start).toList.length = 1 := by
      rw [show (toString start).toList = Nat.toDigits 10 start
        from Nat.toList_repr, Nat.toDigits_of_lt_base hDigit]
      rfl
    have hPid : (toString 5).toList.length = 1 := by
      decide
    rw [hStart, hPid]
    decide

def workerCalls
    (start : Nat)
    (hDigit : start < 10) : Calls (workerCensus start) where
  line := fun _ => workerLine start hDigit
  line_start := fun _ => rfl

def workerSeen : WorkerEvent :=
  ⟨32, 5, "kworker/0:0".toList⟩

/- The monitor after the promotion of the worker. -/
def promotedWorker (start : Nat) : Monitor (workerCensus start) :=
  Monitor.promote 1
    { policy := 1
      priority := 89
      kernel := workerKernel start }
    { tid := 5
      startTime := start
      comm := "kworker/0:0".toList }
    ⟨5, 0, 0⟩

theorem workerSeen_promoted
    (start : Nat)
    (hDigit : start < 10) :
    (monitorSystem (workerCensus start) 1).run
        { policy := 1
          priority := 89
          kernel := workerKernel start }
        [.event (workerCalls start hDigit) workerSeen] =
      some (promotedWorker start) := by
  have hRead :
      taskStartTime
          ((workerKernel start).stat (workerCalls start hDigit)
            5) =
        start := by
    rw [taskStartTime_stat]
    rfl
  have hTid : workerSeen.tid.toInt = 5 := by
    decide
  simp only [TransitionSystem.run, monitorSystem,
    Monitor.handleWorker, hTid, hRead]
  rfl

theorem promotedWorker_restored :
    (promotedWorker 9).kernel.tasks 5 = some ⟨5, 1, 89⟩ ∧
      Repaid (promotedWorker 9)
        ((promotedWorker 9).restoreWorkers 1
          (workerCalls 9 (by decide))) := by
  refine ⟨rfl, restoreWorkers_restores (workerCensus 9) 1 1 89
    (workerKernel 9) _ _
    (workerSeen_promoted 9 (by decide)) _ rfl rfl ?_ ?_⟩
  · intro worker hWorker _ hZero
    rw [List.mem_singleton.mp hWorker] at hZero
    cases hZero
  · intro promotion hPromotion task hTask _
    have hHome := Kernel.home _ _ _ hTask
    exact Int.ofNat.inj hHome

/- A worker of the first tick keeps what it was given. -/
theorem bootWorker_stays_promoted :
    ¬ ∀ (census : Census)
        (caller policy priority : Int)
        (kernel : Kernel census)
        (actions : List (MonitorAction census))
        (monitor : Monitor census),
        (monitorSystem census caller).run
            { policy := policy
              priority := priority
              kernel := kernel }
            actions =
          some monitor →
        ∀ calls : Calls census,
          calls.readable = true → calls.setFails = false →
            Repaid monitor
              (monitor.restoreWorkers caller calls) := by
  intro hClaim
  have hRepaid :=
    hClaim (workerCensus 0) 1 1 89 (workerKernel 0) _
      (promotedWorker 0) (workerSeen_promoted 0 (by decide))
      (workerCalls 0 (by decide)) rfl rfl
  have hLeft :
      ((promotedWorker 0).restoreWorkers 1
          (workerCalls 0 (by decide))).kernel.tasks 5 =
        some ⟨5, 1, 89⟩ :=
    rfl
  have hPolicy :=
    (hRepaid.1 ⟨5, 0, 0⟩ (List.mem_singleton_self _) 5
      ⟨5, 1, 89⟩ hLeft rfl).1
  cases hPolicy

end Uvc

end RsCamera
