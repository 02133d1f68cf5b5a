import Mathlib.Algebra.Group.Nat.Defs
import RsCamera.Lib.Rollback

/-
  The scheduler of the kernel as the probe uses it, and the
  loop that applies a list of assignments and rolls back at
  the first failure (`set_deadline`, `restore_other`, the
  last loops of `apply_deadline_profile` and of
  `apply_rate_monotonic_profile`).

  Each set call may fail; its error number comes from
  outside, by the position of the call, and a failing call
  changes nothing.

  Key definitions include:
    * `Policy`, `SchedAttributes`, `Request`
    * `Kernel`, `Kernel.set`
    * `Assignment`, `Method`
    * `restoreOther`, `applyAssignments`

  Key theorems include:
    * `applyAssignments_cases`
    * `applyAssignments_error_attributes`
-/

------------------------------------------------------------
-- Scheduling Attributes
------------------------------------------------------------

namespace RsCamera

namespace Scheduler

/- A thread id: `pid_t` is a signed 32-bit word. -/
abbrev Tid : Type :=
  { tid : Nat // 0 < tid ∧ tid < 2 ^ 31 }

/- The policies of the kernel, named as in `sched.h`. -/
inductive Policy
| other
| fifo
| rr
| batch
| idle
| deadline
deriving Repr, DecidableEq

structure SchedAttributes where
  policy : Policy := .other
  nice : Int := 0
  priority : Int := 0
  runtimeNs : Nat := 0
  deadlineNs : Nat := 0
  periodNs : Nat := 0
deriving Repr, DecidableEq

/-
  What a set call asks for.  `sched_setattr` passes a whole
  record, `sched_setscheduler` a policy and a priority.
-/
inductive Request
| setAttributes (attributes : SchedAttributes)
| setScheduler (policy : Policy) (priority : Int)
deriving Repr, DecidableEq

def Request.policy : Request → Policy
| .setAttributes attributes => attributes.policy
| .setScheduler policy _ => policy

/-
  The attributes of a thread after a call that succeeds.
  The nice value is written by `sched_setattr` for a policy
  that uses it, and kept otherwise.
-/
def Request.outcome
    (request : Request)
    (before : SchedAttributes) : SchedAttributes :=
  match request with
  | .setAttributes attributes =>
      match attributes.policy with
      | .other | .batch | .idle => attributes
      | .fifo | .rr | .deadline =>
          { attributes with nice := before.nice }
  | .setScheduler policy priority =>
      { policy := policy
        nice := before.nice
        priority := priority }

/- A set call that was made. -/
structure SetCall where
  tid : Tid
  request : Request
  errorNumber : Nat
deriving Repr, DecidableEq

structure Kernel where
  attributes : Tid → SchedAttributes
  calls : List SetCall := []

/- One set call and its error number, zero for success. -/
def Kernel.set
    (errors : Nat → Nat)
    (kernel : Kernel)
    (tid : Tid)
    (request : Request) : Nat × Kernel :=
  let error := errors kernel.calls.length
  (error,
    { attributes :=
        if error = 0 then
          Rollback.write kernel.attributes tid
            request.outcome
        else
          kernel.attributes
      calls := kernel.calls ++ [⟨tid, request, error⟩] })

------------------------------------------------------------
-- Applying Assignments
------------------------------------------------------------

/- What one thread is given. -/
structure Assignment (P : Type) where
  tid : Tid
  signature : String
  instanceNumber : Nat
  name : String
  parameters : P
  applied : Bool := false
  errorNumber : Nat := 0
deriving Repr, DecidableEq

/- How assignments of one kind are made and taken back. -/
structure Method (P : Type) where
  request : P → Request
  restore : Request
  call : String

def restoreOther
    {P : Type}
    (errors : Nat → Nat)
    (method : Method P)
    (assignments : List (Assignment P))
    (kernel : Kernel) : Kernel :=
  assignments.foldl
    (fun kernel assignment =>
      if assignment.applied then
        (kernel.set errors assignment.tid method.restore).2
      else
        kernel)
    kernel

/-
  The loop that makes the assignments.  The first list holds
  the assignments already made; a failure rolls back over
  both lists.
-/
def applyAssignments
    {P : Type}
    (errors : Nat → Nat)
    (strerror : Nat → String)
    (method : Method P) :
    List (Assignment P) → List (Assignment P) → Kernel →
      Except String (List (Assignment P)) × Kernel
| made, [], kernel => (.ok made, kernel)
| made, assignment :: rest, kernel =>
    let (error, kernel) :=
      kernel.set errors assignment.tid
        (method.request assignment.parameters)
    let assignment :=
      { assignment with
        errorNumber := error
        applied := error = 0 }
    if assignment.applied then
      applyAssignments errors strerror method
        (made ++ [assignment]) rest kernel
    else
      (.error
        (method.call ++ " failed for TID " ++
          toString assignment.tid.val ++ ": " ++
          strerror assignment.errorNumber),
        restoreOther errors method
          (made ++ assignment :: rest) kernel)

------------------------------------------------------------
-- What The Calls Leave
------------------------------------------------------------

/- A thread that some call moved to another policy. -/
def Kernel.Switched (kernel : Kernel) (tid : Tid) : Prop :=
  ∃ call ∈ kernel.calls,
    call.tid = tid ∧ call.request.policy ≠ .other ∧
      call.errorNumber = 0

/- No call back to `SCHED_OTHER` has failed. -/
def Kernel.RollbackSucceeded (kernel : Kernel) : Prop :=
  ∀ call ∈ kernel.calls,
    call.request.policy = .other → call.errorNumber = 0

/-
  A method whose restoring call depends on nothing that its
  requests change.
-/
structure Method.Reverts
    {P : Type}
    (method : Method P) : Prop where
  request_policy :
    ∀ parameters, (method.request parameters).policy ≠ .other
  restore_policy : method.restore.policy = .other
  restore_twice :
    ∀ before,
      method.restore.outcome (method.restore.outcome before) =
        method.restore.outcome before
  restore_request :
    ∀ parameters before,
      method.restore.outcome
          ((method.request parameters).outcome before) =
        method.restore.outcome before

section Loops

variable {P : Type}
variable (errors : Nat → Nat)
variable (strerror : Nat → String)
variable (method : Method P)

/- The write that an assignment makes. -/
def Method.write
    (assignment : Assignment P) :
    Tid × (SchedAttributes → SchedAttributes) :=
  (assignment.tid,
    (method.request assignment.parameters).outcome)

/- The call that an assignment makes when it succeeds. -/
def Method.setCall (assignment : Assignment P) : SetCall where
  tid := assignment.tid
  request := method.request assignment.parameters
  errorNumber := 0

/- An assignment after its call succeeded. -/
def Assignment.made
    (assignment : Assignment P) : Assignment P :=
  { assignment with
    errorNumber := 0
    applied := true }

/- The kernel after a list of calls that succeed. -/
def Method.after
    (assignments : List (Assignment P))
    (kernel : Kernel) : Kernel where
  attributes :=
    Rollback.writeAll kernel.attributes
      (assignments.map method.write)
  calls := kernel.calls ++ assignments.map method.setCall

/- The loop stopped at one assignment. -/
structure StoppedAt
    (made rest : List (Assignment P))
    (kernel : Kernel)
    (outcome : Except String (List (Assignment P)) × Kernel)
    (before : List (Assignment P))
    (failed : Assignment P)
    (after : List (Assignment P))
    (error : Nat) : Prop where
  rest_eq : rest = before ++ failed :: after
  error_ne : error ≠ 0
  outcome_eq :
    outcome =
      (.error
        (method.call ++ " failed for TID " ++
          toString failed.tid.val ++ ": " ++ strerror error),
        restoreOther errors method
          (made ++ before.map Assignment.made ++
            { failed with
              errorNumber := error
              applied := false } :: after)
          { method.after before kernel with
            calls :=
              (method.after before kernel).calls ++
                [⟨failed.tid,
                  method.request failed.parameters,
                  error⟩] })

/-
  Either every call succeeds, or the loop stops at the first
  call that fails.
-/
theorem applyAssignments_cases
    (made rest : List (Assignment P))
    (kernel : Kernel) :
    applyAssignments errors strerror method made rest kernel =
        (.ok (made ++ rest.map Assignment.made),
          method.after rest kernel) ∨
      ∃ before failed after error,
        StoppedAt errors strerror method made rest kernel
          (applyAssignments errors strerror method made rest
            kernel)
          before failed after error := by
  induction rest generalizing made kernel with
  | nil =>
      left
      simp [applyAssignments, Method.after]
  | cons assignment rest ih =>
      by_cases hError : errors kernel.calls.length = 0
      · have hStep :
            applyAssignments errors strerror method made
                (assignment :: rest) kernel =
              applyAssignments errors strerror method
                (made ++ [assignment.made]) rest
                (method.after [assignment] kernel) := by
          simp [applyAssignments, Kernel.set, hError,
            Assignment.made, Method.after, Method.write,
            Method.setCall]
        have hAfter :
            ∀ others,
              method.after others
                  (method.after [assignment] kernel) =
                method.after (assignment :: others)
                  kernel := by
          intro others
          simp [Method.after]
        rw [hStep]
        rcases ih (made ++ [assignment.made])
            (method.after [assignment] kernel) with
          hOk | ⟨before, failed, after, error, hStopped⟩
        · left
          rw [hOk, hAfter]
          simp
        · right
          refine ⟨assignment :: before, failed, after, error,
            ?_, hStopped.error_ne, ?_⟩
          · rw [hStopped.rest_eq]
            rfl
          · rw [hStopped.outcome_eq, hAfter]
            simp
      · right
        refine ⟨[], assignment, rest,
          errors kernel.calls.length, rfl, hError, ?_⟩
        simp [applyAssignments, Kernel.set, hError,
          Method.after]

end Loops

------------------------------------------------------------
-- Rolling Back
------------------------------------------------------------

section Loops

variable {P : Type}
variable (errors : Nat → Nat)
variable (strerror : Nat → String)
variable (method : Method P)

/- The calls of a rollback are added to the calls made. -/
theorem restoreOther_calls
    (assignments : List (Assignment P))
    (kernel : Kernel) :
    ∃ added,
      (restoreOther errors method assignments kernel).calls =
        kernel.calls ++ added ∧
      ∀ call ∈ added, call.request = method.restore := by
  induction assignments generalizing kernel with
  | nil => exact ⟨[], by simp [restoreOther], by simp⟩
  | cons assignment assignments ih =>
      have hStep :
          restoreOther errors method
              (assignment :: assignments) kernel =
            restoreOther errors method assignments
              (if assignment.applied then
                (kernel.set errors assignment.tid
                  method.restore).2
              else kernel) := rfl
      rw [hStep]
      split
      · rcases ih (kernel.set errors assignment.tid
            method.restore).2 with ⟨added, hCalls, hAll⟩
        refine
          ⟨⟨assignment.tid, method.restore,
            errors kernel.calls.length⟩ :: added, ?_, ?_⟩
        · rw [hCalls]
          simp [Kernel.set]
        · intro call hCall
          rcases List.mem_cons.mp hCall with hEq | hRest
          · rw [hEq]
          · exact hAll call hRest
      · exact ih kernel

/- A rollback that succeeds compensates what was applied. -/
theorem restoreOther_attributes
    (assignments : List (Assignment P))
    (kernel : Kernel)
    (hSucceeded :
      ∀ call ∈
        (restoreOther errors method assignments kernel).calls,
        call.request = method.restore →
          call.errorNumber = 0) :
    (restoreOther errors method assignments
        kernel).attributes =
      Rollback.compensate method.restore.outcome
        kernel.attributes
        ((assignments.filter Assignment.applied).map
          Assignment.tid) := by
  induction assignments generalizing kernel with
  | nil => rfl
  | cons assignment assignments ih =>
      have hStep :
          restoreOther errors method
              (assignment :: assignments) kernel =
            restoreOther errors method assignments
              (if assignment.applied then
                (kernel.set errors assignment.tid
                  method.restore).2
              else kernel) := rfl
      rw [hStep] at hSucceeded ⊢
      by_cases hApplied : assignment.applied = true
      · simp only [hApplied, if_true] at hSucceeded ⊢
        rw [ih _ hSucceeded]
        rcases restoreOther_calls errors method assignments
            (kernel.set errors assignment.tid
              method.restore).2 with ⟨added, hCalls, _⟩
        have hCall :
            errors kernel.calls.length = 0 := by
          refine hSucceeded
            ⟨assignment.tid, method.restore,
              errors kernel.calls.length⟩ ?_ rfl
          rw [hCalls]
          simp [Kernel.set]
        simp [Kernel.set, hCall, hApplied,
          Rollback.compensate]
      · rw [if_neg hApplied] at hSucceeded ⊢
        rw [ih kernel hSucceeded]
        simp [hApplied]

variable {errors : Nat → Nat}
variable {strerror : Nat → String}
variable {method : Method P}

variable {assignments : List (Assignment P)}
variable {attributes : Tid → SchedAttributes}

/- The threads that were switched before the failure. -/
theorem StoppedAt.switched_iff
    (hReverts : method.Reverts)
    {outcome : Except String (List (Assignment P)) × Kernel}
    {before : List (Assignment P)}
    {failed : Assignment P}
    {after : List (Assignment P)}
    {error : Nat}
    (hStopped :
      StoppedAt errors strerror method [] assignments
        ⟨attributes, []⟩ outcome before failed after error)
    (tid : Tid) :
    outcome.2.Switched tid ↔
      tid ∈ before.map Assignment.tid := by
  rw [hStopped.outcome_eq]
  rcases restoreOther_calls errors method
      ([] ++ before.map Assignment.made ++
        { failed with
          errorNumber := error
          applied := false } :: after)
      { method.after before ⟨attributes, []⟩ with
        calls :=
          (method.after before ⟨attributes, []⟩).calls ++
            [⟨failed.tid, method.request failed.parameters,
              error⟩] } with
    ⟨added, hCalls, hAdded⟩
  unfold Kernel.Switched
  rw [hCalls]
  constructor
  · rintro ⟨call, hCall, hTid, hPolicy, hZero⟩
    rcases List.mem_append.mp hCall with hSet | hRestore
    · rcases List.mem_append.mp hSet with hMade | hFailed
      · simp only [Method.after, List.nil_append] at hMade
        rcases List.mem_map.mp hMade with ⟨a, hMember, hEq⟩
        rw [← hTid, ← hEq]
        exact List.mem_map_of_mem hMember
      · rw [List.mem_singleton.mp hFailed] at hZero
        exact absurd hZero hStopped.error_ne
    · rw [hAdded call hRestore] at hPolicy
      exact absurd hReverts.restore_policy hPolicy
  · intro hMember
    rcases List.mem_map.mp hMember with ⟨a, hBefore, hTid⟩
    refine ⟨method.setCall a, ?_, hTid,
      hReverts.request_policy a.parameters, rfl⟩
    apply List.mem_append_left
    apply List.mem_append_left
    simp only [Method.after, List.nil_append]
    exact List.mem_map_of_mem hBefore

/- The rollback compensates exactly the threads switched. -/
theorem StoppedAt.attributes_eq
    (hReverts : method.Reverts)
    (hFresh : ∀ a ∈ assignments, a.applied = false)
    {outcome : Except String (List (Assignment P)) × Kernel}
    {before : List (Assignment P)}
    {failed : Assignment P}
    {after : List (Assignment P)}
    {error : Nat}
    (hStopped :
      StoppedAt errors strerror method [] assignments
        ⟨attributes, []⟩ outcome before failed after error)
    (hSucceeded : outcome.2.RollbackSucceeded)
    (tid : Tid) :
    outcome.2.attributes tid =
      if tid ∈ before.map Assignment.tid then
        method.restore.outcome (attributes tid)
      else
        attributes tid := by
  have hAfter :
      after.filter Assignment.applied = [] := by
    rw [List.filter_eq_nil_iff]
    intro a hMember
    rw [hFresh a (by simp [hStopped.rest_eq, hMember])]
    decide
  have hBefore :
      (before.map Assignment.made).filter
          Assignment.applied =
        before.map Assignment.made := by
    rw [List.filter_eq_self]
    intro a hMember
    rcases List.mem_map.mp hMember with ⟨b, _, hEq⟩
    rw [← hEq]
    rfl
  have hTids :
      (before.map Assignment.made).map Assignment.tid =
        (before.map method.write).map Prod.fst := by
    rw [List.map_map, List.map_map]
    rfl
  have hWrites :
      (before.map method.write).map Prod.fst =
        before.map Assignment.tid := by
    rw [List.map_map]
    rfl
  have hAbsorbed :
      ∀ w ∈ before.map method.write, ∀ a,
        method.restore.outcome (w.2 a) =
          method.restore.outcome a := by
    intro w hMember a
    rcases List.mem_map.mp hMember with ⟨b, _, hEq⟩
    rw [← hEq]
    exact hReverts.restore_request b.parameters a
  rw [hStopped.outcome_eq] at hSucceeded ⊢
  rw [restoreOther_attributes]
  · simp only [List.nil_append, List.filter_append, hBefore,
      List.filter_cons, hAfter, Bool.false_eq_true, if_false,
      List.append_nil, hTids, Method.after]
    rw [Rollback.compensate_writeAll hReverts.restore_twice
      hAbsorbed]
    simp only [hWrites]
  · intro call hCall hRequest
    apply hSucceeded call hCall
    rw [hRequest]
    exact hReverts.restore_policy

/-
  After a failure whose rollback succeeds, a thread that was
  switched has what the restoring call makes of its old
  attributes, and every other thread has its old attributes.
-/
theorem applyAssignments_error_attributes
    (hReverts : method.Reverts)
    (hFresh : ∀ a ∈ assignments, a.applied = false)
    {message : String}
    {kernel : Kernel}
    (hError :
      applyAssignments errors strerror method [] assignments
          ⟨attributes, []⟩ =
        (.error message, kernel))
    (hSucceeded : kernel.RollbackSucceeded)
    (tid : Tid) :
    (kernel.Switched tid →
      kernel.attributes tid =
        method.restore.outcome (attributes tid)) ∧
    (¬ kernel.Switched tid →
      kernel.attributes tid = attributes tid) := by
  rcases applyAssignments_cases errors strerror method []
      assignments ⟨attributes, []⟩ with
    hOk | ⟨before, failed, after, error, hStopped⟩
  · rw [hError] at hOk
    cases (Prod.mk.inj hOk).1
  · rw [hError] at hStopped
    have hSwitched := hStopped.switched_iff hReverts tid
    have hAttributes :=
      hStopped.attributes_eq hReverts hFresh hSucceeded tid
    simp only at hSwitched hAttributes
    constructor
    · intro hIs
      rw [hAttributes, if_pos (hSwitched.mp hIs)]
    · intro hNot
      rw [hAttributes, if_neg]
      exact fun hMember => hNot (hSwitched.mpr hMember)

end Loops

end Scheduler

end RsCamera
