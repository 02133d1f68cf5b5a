import RsCamera.Scheduler.Matching

/-
  Applying a scheduler model profile to the live threads
  (`apply_deadline_profile` and
  `apply_rate_monotonic_profile`), and what is left of a
  profile that could not be applied.

  A plan is made from the profile and the live threads
  first; only then is the kernel called.

  Key definitions include:
    * `Environment`
    * `planDeadline`, `applyDeadlineProfile`
    * `planRateMonotonic`, `applyRateMonotonicProfile`
    * `RestoresTo`

  Key theorems include:
    * `apply_restores_switched`
-/

------------------------------------------------------------
-- Deadline Profiles
------------------------------------------------------------

namespace RsCamera

namespace Scheduler

/-
  What the two functions get from outside: the files, the
  preloaded tracer, the error number of each set call, the
  texts of error numbers, the error number of `sigaction`
  and the priorities that a policy allows.
-/
structure Environment where
  files : String → Option String
  trace : Option ThreadTrace
  errors : Nat → Nat
  strerror : Nat → String
  sigactionError : Nat := 0
  priorityMin : Policy → Int
  priorityMax : Policy → Int

/- What a thread is given. -/
structure DeadlineParameters where
  runtimeNs : Nat
  deadlineNs : Nat
  periodNs : Nat
deriving Repr, DecidableEq

/- The report of the function. -/
structure DeadlineApplication where
  profilePath : String
  profileEntries : Nat
  liveThreads : Nat
  unassignedLiveThreads : Nat
  partialProfile : Bool
  assignments : List (Assignment DeadlineParameters)
deriving Repr, DecidableEq

/- `set_deadline` and the first `restore_other`. -/
def deadlineMethod : Method DeadlineParameters where
  request parameters :=
    .setAttributes
      { policy := .deadline
        runtimeNs := parameters.runtimeNs
        deadlineNs := parameters.deadlineNs
        periodNs := parameters.periodNs }
  restore := .setAttributes { policy := .other }
  call := "sched_setattr(SCHED_DEADLINE)"

/- The sizes that two mismatch messages end with. -/
def sizesText (profile live : Nat) : String :=
  "profile=" ++ toString profile ++ ", live=" ++ toString live

/- The parameters of an entry, as they are. -/
def ProfileEntry.deadlineParameters
    (entry : ProfileEntry) : DeadlineParameters where
  runtimeNs := entry.runtimeNs
  deadlineNs := entry.deadlineNs
  periodNs := entry.periodNs

/- The plan for a profile and the sorted live threads. -/
def matchDeadline
    (path : String)
    (requireAllLiveThreads : Bool)
    (profile : List ProfileEntry)
    (threads : List ThreadInfo) :
    Except String DeadlineApplication :=
  let maps := liveThreads threads
  if requireAllLiveThreads ∧
      maps.live.size ≠ profile.length then
    .error
      ("SCHED_DEADLINE profile/live-thread count mismatch: " ++
        sizesText profile.length maps.live.size)
  else if profile.length > maps.live.size then
    .error
      ("SCHED_DEADLINE profile has more entries than live" ++
        " threads: " ++
        sizesText profile.length maps.live.size)
  else do
    let assignments ←
      matchEntries "SCHED_DEADLINE"
        (fun entry => .ok entry.deadlineParameters) maps
        profile
    .ok
      { profilePath := path
        profileEntries := profile.length
        liveThreads := threads.length
        unassignedLiveThreads :=
          maps.live.size - profile.length
        partialProfile := maps.live.size ≠ profile.length
        assignments := assignments }

/- Everything before the first set call. -/
def planDeadline
    (env : Environment)
    (path : String)
    (requireAllLiveThreads : Bool) :
    Except String DeadlineApplication := do
  if env.sigactionError ≠ 0 then
    .error
      ("Cannot install SCHED_DEADLINE overrun handler: " ++
        env.strerror env.sigactionError)
  else
    let profile ← loadProfile path (env.files path)
    let threads ← snapshotThreads env.trace
    matchDeadline path requireAllLiveThreads profile threads

/- A profile that loads is matched with the live threads. -/
theorem planDeadline_of_load
    {env : Environment}
    {path : String}
    {requireAllLiveThreads : Bool}
    {profile : List ProfileEntry}
    (hLoad : loadProfile path (env.files path) = .ok profile)
    (hHandler : env.sigactionError = 0) :
    planDeadline env path requireAllLiveThreads =
      (snapshotThreads env.trace >>= fun threads =>
        matchDeadline path requireAllLiveThreads profile
          threads) := by
  unfold planDeadline
  rw [hLoad, hHandler]
  rfl

/- Make the assignments of a plan. -/
def runPlan
    {P A : Type}
    (env : Environment)
    (method : Method P)
    (assignments : List (Assignment P))
    (result : List (Assignment P) → A)
    (kernel : Kernel) : Except String A × Kernel :=
  match
    applyAssignments env.errors env.strerror method []
      assignments kernel with
  | (.ok made, kernel) => (.ok (result made), kernel)
  | (.error message, kernel) => (.error message, kernel)

/- `apply_deadline_profile`. -/
def applyDeadlineProfile
    (env : Environment)
    (path : String)
    (requireAllLiveThreads : Bool)
    (kernel : Kernel) :
    Except String DeadlineApplication × Kernel :=
  match planDeadline env path requireAllLiveThreads with
  | .error message => (.error message, kernel)
  | .ok plan =>
      runPlan env deadlineMethod plan.assignments
        (fun made => { plan with assignments := made })
        kernel

------------------------------------------------------------
-- Rate-Monotonic Profiles
------------------------------------------------------------

/- What a thread is given. -/
structure FixedPriority where
  periodNs : Nat
  priority : Int
deriving Repr, DecidableEq

/- The report of the function. -/
structure RateMonotonicApplication where
  profilePath : String
  policy : String
  highestPriority : Int
  lowestPriority : Int
  priorityLevels : Nat
  profileEntries : Nat
  liveThreads : Nat
  assignments : List (Assignment FixedPriority)
deriving Repr, DecidableEq

/- The name of the policy. -/
def fixedPolicyName : Policy → Except String String
| .rr => .ok "SCHED_RR"
| .fifo => .ok "SCHED_FIFO"
| _ =>
    .error
      "Rate-monotonic policy must be SCHED_RR or SCHED_FIFO"

/- The set calls and the second `restore_other`. -/
def rateMonotonicMethod
    (policy : Policy)
    (policyName : String) : Method FixedPriority where
  request parameters :=
    .setScheduler policy parameters.priority
  restore := .setScheduler .other 0
  call := "sched_setscheduler(" ++ policyName ++ ")"

/- The periods of the profile in ascending order. -/
def uniquePeriods
    (profile : List ProfileEntry) : Std.TreeSet Nat :=
  profile.foldl
    (fun periods entry => periods.insert entry.periodNs) ∅

/- The loop that gives each period the next priority. -/
def assignPriorities :
    List Nat → Int → Std.TreeMap Nat Int →
      Std.TreeMap Nat Int
| [], _, priorities => priorities
| period :: periods, priority, priorities =>
    assignPriorities periods (priority - 1)
      (priorities.insertIfNew period priority)

/- `priorities.at` throws for a period that is absent. -/
def ProfileEntry.fixedPriority
    (priorities : Std.TreeMap Nat Int)
    (entry : ProfileEntry) : Except String FixedPriority :=
  match priorities[entry.periodNs]? with
  | none => .error "map::at"
  | some priority =>
      .ok { periodNs := entry.periodNs, priority := priority }

/- A size converted to a signed 32-bit word. -/
def toInt (size : Nat) : Int :=
  Int.bmod size (2 ^ 32)

/- The plan for a profile and the sorted live threads. -/
def matchRateMonotonic
    (path policyName : String)
    (minimumPriority highestPriority : Int)
    (profile : List ProfileEntry)
    (threads : List ThreadInfo) :
    Except String RateMonotonicApplication :=
  let maps := liveThreads threads
  let periods := uniquePeriods profile
  let lowestPriority :=
    highestPriority - toInt periods.size + 1
  if maps.live.size ≠ profile.length then
    .error
      ("Rate-monotonic profile/live-thread count mismatch: " ++
        sizesText profile.length maps.live.size)
  else if lowestPriority < minimumPriority then
    .error
      ("Rate-monotonic profile needs " ++
        toString periods.size ++
        " distinct priorities, but the requested priority" ++
        " band is too small")
  else do
    let priorities :=
      assignPriorities periods.toList highestPriority ∅
    let assignments ←
      matchEntries "rate-monotonic"
        (ProfileEntry.fixedPriority priorities) maps profile
    .ok
      { profilePath := path
        policy := policyName
        highestPriority := highestPriority
        lowestPriority := lowestPriority
        priorityLevels := periods.size
        profileEntries := profile.length
        liveThreads := threads.length
        assignments := assignments }

/- Everything before the first set call. -/
def planRateMonotonic
    (env : Environment)
    (path : String)
    (policy : Policy)
    (highestPriority : Int) :
    Except String RateMonotonicApplication := do
  let policyName ← fixedPolicyName policy
  let minimumPriority := env.priorityMin policy
  let maximumPriority := env.priorityMax policy
  if minimumPriority < 0 ∨ maximumPriority < 0 then
    .error "Cannot query fixed-priority scheduler range"
  else if highestPriority < minimumPriority ∨
      highestPriority > maximumPriority then
    .error
      ("Rate-monotonic highest priority is outside the" ++
        " scheduler range")
  else
    let profile ← loadProfile path (env.files path)
    let threads ← snapshotThreads env.trace
    matchRateMonotonic path policyName minimumPriority
      highestPriority profile threads

theorem planRateMonotonic_of_load
    {env : Environment}
    {path policyName : String}
    {policy : Policy}
    {highestPriority : Int}
    {profile : List ProfileEntry}
    (hPolicy : fixedPolicyName policy = .ok policyName)
    (hRange :
      ¬(env.priorityMin policy < 0 ∨ env.priorityMax policy < 0))
    (hPriority :
      ¬(highestPriority < env.priorityMin policy ∨
        highestPriority > env.priorityMax policy))
    (hLoad : loadProfile path (env.files path) = .ok profile) :
    planRateMonotonic env path policy highestPriority =
      (snapshotThreads env.trace >>= fun threads =>
        matchRateMonotonic path policyName
          (env.priorityMin policy) highestPriority profile
          threads) := by
  unfold planRateMonotonic
  rw [hPolicy]
  simp only [bind, Except.bind, if_neg hRange,
    if_neg hPriority, hLoad]

/- `apply_rate_monotonic_profile`. -/
def applyRateMonotonicProfile
    (env : Environment)
    (path : String)
    (policy : Policy)
    (highestPriority : Int)
    (kernel : Kernel) :
    Except String RateMonotonicApplication × Kernel :=
  match planRateMonotonic env path policy highestPriority with
  | .error message => (.error message, kernel)
  | .ok plan =>
      runPlan env (rateMonotonicMethod policy plan.policy)
        plan.assignments
        (fun made => { plan with assignments := made })
        kernel

------------------------------------------------------------
-- Plans
------------------------------------------------------------

/- A plan comes from a loaded profile and a snapshot. -/
theorem planDeadline_eq_ok_iff
    {env : Environment}
    {path : String}
    {requireAll : Bool}
    {plan : DeadlineApplication} :
    planDeadline env path requireAll = .ok plan ↔
      env.sigactionError = 0 ∧
        ∃ profile threads,
          loadProfile path (env.files path) = .ok profile ∧
          snapshotThreads env.trace = .ok threads ∧
          matchDeadline path requireAll profile threads =
            .ok plan := by
  unfold planDeadline
  split
  next hError => simp [hError]
  next hError =>
    have hZero : env.sigactionError = 0 := by
      simpa using hError
    simp only [bind_eq_ok, hZero, true_and]
    constructor
    · rintro ⟨profile, hProfile, threads, hThreads, hPlan⟩
      exact ⟨profile, threads, hProfile, hThreads, hPlan⟩
    · rintro ⟨profile, threads, hProfile, hThreads, hPlan⟩
      exact ⟨profile, hProfile, threads, hThreads, hPlan⟩

theorem planRateMonotonic_eq_ok_iff
    {env : Environment}
    {path : String}
    {policy : Policy}
    {highest : Int}
    {plan : RateMonotonicApplication} :
    planRateMonotonic env path policy highest = .ok plan ↔
      (0 ≤ env.priorityMin policy ∧
        0 ≤ env.priorityMax policy) ∧
      (env.priorityMin policy ≤ highest ∧
        highest ≤ env.priorityMax policy) ∧
      ∃ policyName profile threads,
        fixedPolicyName policy = .ok policyName ∧
        loadProfile path (env.files path) = .ok profile ∧
        snapshotThreads env.trace = .ok threads ∧
        matchRateMonotonic path policyName
            (env.priorityMin policy) highest profile threads =
          .ok plan := by
  unfold planRateMonotonic
  rw [bind_eq_ok]
  constructor
  · rintro ⟨policyName, hName, hRest⟩
    simp only at hRest
    split at hRest
    · cases hRest
    next hKnown =>
      split at hRest
      · cases hRest
      next hInside =>
        simp only [bind_eq_ok] at hRest
        rcases hRest with
          ⟨profile, hProfile, threads, hThreads, hPlan⟩
        exact ⟨by omega, by omega, policyName, profile,
          threads, hName, hProfile, hThreads, hPlan⟩
  · rintro ⟨hKnown, hInside, policyName, profile, threads,
      hName, hProfile, hThreads, hPlan⟩
    refine ⟨policyName, hName, ?_⟩
    simp only
    rw [if_neg (by omega), if_neg (by omega)]
    simp only [bind_eq_ok]
    exact ⟨profile, hProfile, threads, hThreads, hPlan⟩

/- What a plan for deadline reservations holds. -/
theorem matchDeadline_eq_ok
    {path : String}
    {requireAll : Bool}
    {profile : List ProfileEntry}
    {threads : List ThreadInfo}
    {plan : DeadlineApplication}
    (hPlan :
      matchDeadline path requireAll profile threads =
        .ok plan) :
    profile.length ≤ (liveThreads threads).live.size ∧
      (requireAll = true →
        (liveThreads threads).live.size = profile.length) ∧
      matchEntries "SCHED_DEADLINE"
          (fun entry => .ok entry.deadlineParameters)
          (liveThreads threads) profile =
        .ok plan.assignments := by
  unfold matchDeadline at hPlan
  simp only at hPlan
  split at hPlan
  · cases hPlan
  next hAll =>
    split at hPlan
    · cases hPlan
    next hMore =>
      rcases bind_eq_ok.mp hPlan with
        ⟨assignments, hMatched, hEq⟩
      rw [← Except.ok.inj hEq]
      refine ⟨by omega, ?_, hMatched⟩
      intro hRequired
      by_contra hDiffers
      exact hAll ⟨hRequired, hDiffers⟩

theorem matchRateMonotonic_eq_ok
    {path policyName : String}
    {minimum highest : Int}
    {profile : List ProfileEntry}
    {threads : List ThreadInfo}
    {plan : RateMonotonicApplication}
    (hPlan :
      matchRateMonotonic path policyName minimum highest
        profile threads = .ok plan) :
    (liveThreads threads).live.size = profile.length ∧
      plan.policy = policyName ∧
      plan.highestPriority = highest ∧
      plan.lowestPriority =
        highest - toInt (uniquePeriods profile).size + 1 ∧
      minimum ≤ plan.lowestPriority ∧
      matchEntries "rate-monotonic"
          (ProfileEntry.fixedPriority
            (assignPriorities (uniquePeriods profile).toList
              highest ∅))
          (liveThreads threads) profile =
        .ok plan.assignments := by
  unfold matchRateMonotonic at hPlan
  simp only at hPlan
  split at hPlan
  · cases hPlan
  next hSize =>
    split at hPlan
    · cases hPlan
    next hBand =>
      rcases bind_eq_ok.mp hPlan with
        ⟨assignments, hMatched, hEq⟩
      rw [← Except.ok.inj hEq]
      exact ⟨by omega, rfl, rfl, rfl, not_lt.mp hBand,
        hMatched⟩

------------------------------------------------------------
-- Failed Applications
------------------------------------------------------------

theorem deadlineMethod_reverts :
    deadlineMethod.Reverts where
  request_policy _ := by simp [deadlineMethod, Request.policy]
  restore_policy := rfl
  restore_twice _ := rfl
  restore_request _ _ := rfl

theorem rateMonotonicMethod_reverts
    {policy : Policy}
    {policyName : String}
    (hName : fixedPolicyName policy = .ok policyName) :
    (rateMonotonicMethod policy policyName).Reverts where
  request_policy _ := by
    intro hOther
    simp only [rateMonotonicMethod, Request.policy] at hOther
    rw [hOther] at hName
    cases hName
  restore_policy := rfl
  restore_twice _ := rfl
  restore_request _ _ := rfl

variable {P A : Type}
variable {method : Method P}
variable {assignments : List (Assignment P)}

/- A plan that returns has made every assignment. -/
theorem runPlan_eq_ok
    {env : Environment}
    {result : List (Assignment P) → A}
    {kernel kernel' : Kernel}
    {application : A}
    (hOk :
      runPlan env method assignments result kernel =
        (.ok application, kernel')) :
    application = result (assignments.map Assignment.made) := by
  unfold runPlan at hOk
  rcases applyAssignments_cases env.errors env.strerror method
      [] assignments kernel with
    hMade | ⟨before, failed, after, error, hStopped⟩
  · rw [hMade] at hOk
    exact (Except.ok.inj (Prod.mk.inj hOk).1).symm
  · rw [hStopped.outcome_eq] at hOk
    cases (Prod.mk.inj hOk).1

theorem runPlan_eq_error
    {env : Environment}
    {result : List (Assignment P) → A}
    {kernel kernel' : Kernel}
    {message : String}
    (hError :
      runPlan env method assignments result kernel =
        (.error message, kernel')) :
    applyAssignments env.errors env.strerror method []
        assignments kernel =
      (.error message, kernel') := by
  unfold runPlan at hError
  split at hError
  · cases (Prod.mk.inj hError).1
  next failure after hApplied =>
    rcases Prod.mk.inj hError with ⟨hMessage, hKernel⟩
    rw [hApplied, ← hKernel]
    cases hMessage
    rfl

/-
  What a function that fails leaves of the attributes, given
  that its calls back to `SCHED_OTHER` succeed: the threads
  it had switched are restored to a state that does not
  depend on their old policy, all others are as they were.
-/
def RestoresTo
    {A : Type}
    (restored : SchedAttributes → SchedAttributes)
    (attributes : Tid → SchedAttributes)
    (outcome : Except String A × Kernel) : Prop :=
  ∀ message, outcome.1 = .error message →
    outcome.2.RollbackSucceeded →
      (∀ tid, outcome.2.Switched tid →
        outcome.2.attributes tid =
          restored (attributes tid)) ∧
      (∀ tid, ¬ outcome.2.Switched tid →
        outcome.2.attributes tid = attributes tid) ∧
      ((∀ tid, outcome.2.attributes tid = attributes tid) ↔
        ∀ tid, outcome.2.Switched tid →
          attributes tid = restored (attributes tid))

/- A function that fails before the first call. -/
theorem restoresTo_of_no_call
    {A : Type}
    (restored : SchedAttributes → SchedAttributes)
    (attributes : Tid → SchedAttributes)
    (outcome : Except String A) :
    RestoresTo restored attributes
      (outcome, ⟨attributes, []⟩) := by
  intro message _ _
  have hNone :
      ∀ tid,
        ¬ (⟨attributes, []⟩ : Kernel).Switched tid := by
    rintro tid ⟨call, hCall, _⟩
    cases hCall
  refine ⟨?_, fun _ _ => rfl, ?_⟩
  · intro tid hSwitched
    exact absurd hSwitched (hNone tid)
  · constructor
    · intro _ tid hSwitched
      exact absurd hSwitched (hNone tid)
    · intro _ _
      rfl

theorem runPlan_restoresTo
    (env : Environment)
    (hReverts : method.Reverts)
    (hFresh : ∀ a ∈ assignments, a.applied = false)
    (result : List (Assignment P) → A)
    (attributes : Tid → SchedAttributes) :
    RestoresTo method.restore.outcome attributes
      (runPlan env method assignments result
        ⟨attributes, []⟩) := by
  intro message hMessage hSucceeded
  have hError :=
    runPlan_eq_error (Prod.ext hMessage rfl :
      runPlan env method assignments result
          ⟨attributes, []⟩ =
        (.error message,
          (runPlan env method assignments result
            ⟨attributes, []⟩).2))
  have hThreads :=
    applyAssignments_error_attributes hReverts hFresh hError
      hSucceeded
  refine ⟨fun tid => (hThreads tid).1,
    fun tid => (hThreads tid).2, ?_⟩
  constructor
  · intro hSame tid hSwitched
    rw [← (hThreads tid).1 hSwitched]
    exact (hSame tid).symm
  · intro hPlain tid
    by_cases hSwitched :
        (runPlan env method assignments result
          ⟨attributes, []⟩).2.Switched tid
    · rw [(hThreads tid).1 hSwitched]
      exact (hPlain tid hSwitched).symm
    · exact (hThreads tid).2 hSwitched

/-
  A profile that cannot be applied leaves the threads that
  were switched under `SCHED_OTHER`, with nice value zero
  after deadline reservations and with their own nice value
  after fixed priorities.  The old attributes are restored
  exactly when these threads had been in that state.
-/
theorem apply_restores_switched
    (env : Environment)
    (path : String)
    (requireAllLiveThreads : Bool)
    (policy : Policy)
    (highestPriority : Int)
    (attributes : Tid → SchedAttributes) :
    RestoresTo (fun _ => { policy := .other }) attributes
        (applyDeadlineProfile env path requireAllLiveThreads
          ⟨attributes, []⟩) ∧
      RestoresTo
        (fun before =>
          { policy := .other, nice := before.nice })
        attributes
        (applyRateMonotonicProfile env path policy
          highestPriority ⟨attributes, []⟩) := by
  constructor
  · unfold applyDeadlineProfile
    split
    · exact restoresTo_of_no_call _ attributes _
    next plan hPlan =>
      rcases (planDeadline_eq_ok_iff.mp hPlan).2 with
        ⟨profile, threads, _, _, hMatched⟩
      apply runPlan_restoresTo env deadlineMethod_reverts
      intro assignment hMember
      exact matchEntries_applied
        (matchDeadline_eq_ok hMatched).2.2 hMember
  · unfold applyRateMonotonicProfile
    split
    · exact restoresTo_of_no_call _ attributes _
    next plan hPlan =>
      rcases (planRateMonotonic_eq_ok_iff.mp hPlan).2.2 with
        ⟨policyName, profile, threads, hName, _, _, hMatched⟩
      rcases matchRateMonotonic_eq_ok hMatched with
        ⟨_, hPolicy, _, _, _, hEntries⟩
      rw [← hPolicy] at hName
      apply runPlan_restoresTo env
        (rateMonotonicMethod_reverts hName)
      intro assignment hMember
      exact matchEntries_applied hEntries hMember

instance
    (kernel : Kernel) :
    Decidable kernel.RollbackSucceeded := by
  unfold Kernel.RollbackSucceeded
  infer_instance

/- The ids of two workers. -/
theorem firstWorker_isTid : 0 < 71 ∧ 71 < 2 ^ 31 := by
  decide

theorem secondWorker_isTid : 0 < 72 ∧ 72 < 2 ^ 31 := by
  decide

/-
  Two workers, the second of which is refused: `EBUSY` for
  the second call, and every later call succeeds.
-/
def refusedSecond : Environment where
  files _ :=
    some (writeProfile
      [⟨"capture", 1, "rs-wait-0", 100, 200, 200⟩,
        ⟨"capture", 2, "rs-wait-1", 100, 200, 200⟩])
  trace :=
    some
      { count := 2
        live :=
          [⟨⟨71, firstWorker_isTid⟩, 1, "capture"⟩,
            ⟨⟨72, secondWorker_isTid⟩, 2, "capture"⟩] }
  errors index := if index = 1 then 16 else 0
  strerror _ := "Device or resource busy"
  priorityMin _ := 1
  priorityMax _ := 99

/-
  A worker that ran with nice value five, or as a batch
  thread, does not get its attributes back.
-/
theorem refusedSecond_not_restored :
    (let outcome :=
      applyDeadlineProfile refusedSecond "profile.csv" true
        ⟨fun _ => { nice := 5 }, []⟩
    outcome.1 =
        .error
          ("sched_setattr(SCHED_DEADLINE) failed for TID " ++
            "72: Device or resource busy") ∧
      outcome.2.RollbackSucceeded ∧
      outcome.2.attributes ⟨71, by decide⟩ ≠ { nice := 5 }) ∧
    (let outcome :=
      applyRateMonotonicProfile refusedSecond "profile.csv"
        .fifo 80 ⟨fun _ => { policy := .batch }, []⟩
    outcome.1 =
        .error
          ("sched_setscheduler(SCHED_FIFO) failed for TID " ++
            "72: Device or resource busy") ∧
      outcome.2.RollbackSucceeded ∧
      outcome.2.attributes ⟨71, by decide⟩ ≠
        { policy := .batch }) := by
  decide +kernel

end Scheduler

end RsCamera
