import RsCamera.Generator.Profiles

/-
  What every generated profile guarantees: its rows cover
  the executions and the stable periods that were observed,
  stay inside the limits of the kernel, and are accepted by
  the reader of the probe.

  Key theorems include:
    * `generateProfile_eq_ok`
    * `generateProfile_bounds`
-/

------------------------------------------------------------
-- Instances Of Signatures
------------------------------------------------------------

namespace RsCamera

namespace Generator

theorem foldl_append_instances
    (keys : List (String × Nat))
    (start : List Nat) :
    keys.foldl (fun instances key => instances ++ [key.2])
        start =
      start ++ keys.map Prod.snd := by
  induction keys generalizing start with
  | nil => simp
  | cons key keys ih =>
      rw [List.foldl_cons, ih, List.append_assoc]
      rfl

section

variable {expected : List (String × Nat)}
variable {role : String × List Nat}

/- A role has the instances that share its signature. -/
theorem instances_of_role
    (hRole : role ∈ (instancesBySignature expected).toList) :
    role.2 =
      ((sortKeys expected).filter
        (fun key => key.1 = role.1)).map Prod.snd := by
  have hGet :
      (instancesBySignature expected)[role.1]? =
        some role.2 :=
    Std.TreeMap.mem_toList_iff_getElem?_eq_some.mp hRole
  unfold instancesBySignature at hGet
  rw [keyedFold_getElem?] at hGet
  split at hGet
  · cases hGet
  · rw [← Option.some.inj hGet, foldl_append_instances,
      List.nil_append]

theorem mem_instances_iff
    (hRole : role ∈ (instancesBySignature expected).toList)
    {number : Nat} :
    number ∈ role.2 ↔ (role.1, number) ∈ expected := by
  have hPerm : (sortKeys expected).Perm expected :=
    List.perm_insertionSort _ expected
  rw [instances_of_role hRole, List.mem_map]
  constructor
  · rintro ⟨key, hKey, hNumber⟩
    rcases List.mem_filter.mp hKey with ⟨hMember, hFirst⟩
    have hEq : (role.1, number) = key :=
      Prod.ext (of_decide_eq_true hFirst).symm hNumber.symm
    rw [hEq]
    exact hPerm.mem_iff.mp hMember
  · intro hMember
    refine ⟨(role.1, number), ?_, rfl⟩
    exact List.mem_filter.mpr
      ⟨hPerm.mem_iff.mpr hMember, by simp⟩

theorem nodup_instances
    (hExpected : expected.Nodup)
    (hRole : role ∈ (instancesBySignature expected).toList) :
    role.2.Nodup := by
  have hPerm : (sortKeys expected).Perm expected :=
    List.perm_insertionSort _ expected
  have hSorted := hPerm.nodup_iff.mpr hExpected
  rw [instances_of_role hRole]
  apply List.Nodup.map_on _ (hSorted.filter _)
  intro key hKey key' hKey' hNumber
  have hFirst := (List.mem_filter.mp hKey).2
  have hFirst' := (List.mem_filter.mp hKey').2
  simp only [decide_eq_true_eq] at hFirst hFirst'
  exact Prod.ext (hFirst.trans hFirst'.symm) hNumber

theorem nodup_roles
    (expected : List (String × Nat)) :
    ((instancesBySignature expected).toList.map
      Prod.fst).Nodup := by
  rw [Std.TreeMap.map_fst_toList_eq_keys]
  exact Std.TreeMap.nodup_keys

/- All runs that pass the check have the expected threads. -/
theorem checkRuns_eq_ok
    {rest : List Threads}
    {index : Nat}
    (hOk : checkRuns expected rest index = .ok ())
    {threads : Threads}
    (hThreads : threads ∈ rest)
    {key : String × Nat} :
    key ∈ threads.keys ↔ key ∈ expected := by
  induction rest generalizing index with
  | nil => cases hThreads
  | cons first rest ih =>
      change (if _ ∨ _ then _ else checkRuns expected rest _) =
        Except.ok () at hOk
      split at hOk
      · cases hOk
      next hSame =>
        rw [not_or, not_not, not_not] at hSame
        rcases List.mem_cons.mp hThreads with hFirst | hRest
        · rw [hFirst]
          constructor
          · intro hKey
            by_contra hNot
            have hExtra :=
              List.filter_eq_nil_iff.mp hSame.2 key hKey
            exact hExtra (by simpa using hNot)
          · intro hKey
            by_contra hNot
            have hMissing :=
              List.filter_eq_nil_iff.mp hSame.1 key hKey
            exact hMissing (by simpa using hNot)
        · exact ih hOk hRest

end

------------------------------------------------------------
-- Successful Runs
------------------------------------------------------------

section

open Scheduler

/- A run and the observations that were taken from it. -/
def RunObserved
    (run : TraceRun)
    (threads : Threads) : Prop :=
  ∃ files identities begin finish,
    run = .ok files ∧
    threadIdentities files.lifecycle =
      .ok (identities, begin, finish) ∧
    Observes files identities.items threads

/- The key and the observation of a thread in a run. -/
theorem RunObserved.observation
    {run : TraceRun}
    {threads : Threads}
    (hRun : RunObserved run threads)
    {key : String × Nat}
    {observation : Observation}
    (hGet : threads.get? key = some observation) :
    (key.1 ≠ "" ∧ 1 ≤ key.2) ∧
      0 < observation.executionNs := by
  rcases hRun with
    ⟨files, identities, begin, finish, _, hIdentities,
      hObserves⟩
  rcases hObserves.keys key
      (Dict.mem_keys_iff.mpr ⟨observation, hGet⟩) with
    ⟨item, hItem, hKey⟩
  rcases hObserves.covers item hItem with
    ⟨found, hFound, hCovers⟩
  rw [hKey, hGet] at hFound
  rw [← hKey]
  refine ⟨threadIdentities_valid hIdentities hItem, ?_⟩
  rw [Option.some.inj hFound]
  exact hCovers.execution_pos

/- The keys and observations that rows are made from. -/
structure Sources
    (traceRuns : List TraceRun)
    (perRun : List Threads)
    (expected : List (String × Nat)) : Prop where
  observed : List.Forall₂ RunObserved traceRuns perRun
  nonempty : perRun ≠ []
  keys :
    ∀ threads ∈ perRun, ∀ key,
      key ∈ threads.keys ↔ key ∈ expected

theorem Sources.observation
    {traceRuns : List TraceRun}
    {perRun : List Threads}
    {expected : List (String × Nat)}
    (hSources : Sources traceRuns perRun expected)
    {threads : Threads}
    (hThreads : threads ∈ perRun)
    {key : String × Nat}
    {observation : Observation}
    (hGet : threads.get? key = some observation) :
    (key.1 ≠ "" ∧ 1 ≤ key.2) ∧
      0 < observation.executionNs := by
  rcases exists_left_of_mem hSources.observed hThreads with
    ⟨run, _, hRun⟩
  exact hRun.observation hGet

/- What a successful generation went through. -/
theorem generateProfile_eq_ok
    {traceRuns : List TraceRun}
    {options : GeneratorOptions}
    {profile : GeneratedProfile}
    (hOk :
      generateProfile traceRuns options = .ok profile) :
    (1 ≤ options.runtimeMargin ∧
      0 < options.periodScale ∧ options.periodScale ≤ 1) ∧
    profile.rows ≠ [] ∧
    ∃ perRun expected,
      Sources traceRuns perRun expected ∧
      RowsOf options perRun
        (instancesBySignature expected).toList
        profile.rows := by
  unfold generateProfile at hOk
  split at hOk
  · cases hOk
  next hMargin =>
    split at hOk
    · cases hOk
    next hScale =>
      split at hOk
      · cases hOk
      next hRuns =>
        rcases bind_eq_ok.mp hOk with ⟨perRun, hPerRun, hRest⟩
        simp only at hRest
        rcases bind_eq_ok.mp hRest with
          ⟨_, hChecked, hRest⟩
        rcases bind_eq_ok.mp hRest with
          ⟨found, hFound, hRest⟩
        split at hRest
        · cases hRest
        next hRows =>
          cases Except.ok.inj hRest
          have hEach := mapM_eq_ok_iff.mp hPerRun
          have hObserved :
              List.Forall₂ RunObserved traceRuns perRun := by
            apply hEach.imp
            intro run threads hRun
            rcases bind_eq_ok.mp hRun with
              ⟨files, hFiles, hThreads⟩
            rcases traceThreads_observes hThreads with
              ⟨identities, begin, finish, hIdentities, hAll⟩
            exact ⟨files, identities, begin, finish, hFiles,
              hIdentities, hAll⟩
          cases perRun with
          | nil =>
              exact absurd
                (List.length_eq_zero_iff.mp
                  hEach.length_eq) hRuns
          | cons first rest =>
              refine ⟨⟨not_lt.mp hMargin, not_not.mp hScale⟩,
                hRows, first :: rest, first.keys,
                ⟨hObserved, by simp, ?_⟩, ?_⟩
              · intro threads hThreads key
                rcases List.mem_cons.mp hThreads with
                  hFirst | hOther
                · rw [hFirst]
                · exact checkRuns_eq_ok hChecked hOther
              · have hStart :
                    RowsOf options (first :: rest) []
                      ({} : GeneratedProfile).rows :=
                  ⟨by simp [GeneratedProfile.rows],
                    by simp [GeneratedProfile.rows],
                    by simp [GeneratedProfile.rows]⟩
                apply hStart.foldlM (nodup_roles first.keys)
                  _ hFound
                intro role hRole
                exact nodup_instances first.nodup hRole

end

------------------------------------------------------------
-- Bounds Of Rows
------------------------------------------------------------

open Scheduler

variable {options : GeneratorOptions}
variable {perRun : List Threads}
variable {role : String × List Nat}
variable {row : ProfileEntry}

/- The margin only adds to a positive execution. -/
theorem le_runtimeNs
    (hMargin : 1 ≤ options.runtimeMargin)
    {executionNs : Int}
    (hPositive : 0 < executionNs) :
    executionNs ≤ runtimeNs options executionNs := by
  have hExact : (0 : ℚ) ≤ executionNs := by
    exact_mod_cast hPositive.le
  have hScaled :
      (executionNs : ℚ) ≤
        executionNs * options.runtimeMargin :=
    le_mul_of_one_le_right hExact hMargin
  have hCeil :
      executionNs ≤
        ⌈(executionNs : ℚ) * options.runtimeMargin⌉ := by
    rw [← Int.cast_le (R := ℚ)]
    exact hScaled.trans (Int.le_ceil _)
  exact hCeil.trans (le_max_right _ _)

/- The scale only takes from a period that stays positive. -/
theorem periodNs_le
    (hPositive : 0 < options.periodScale)
    (hScale : options.periodScale ≤ 1)
    {observedNs : Int}
    (hPeriod : 0 < periodNs options observedNs) :
    periodNs options observedNs ≤ observedNs := by
  have hFloor :
      periodNs options observedNs ≤
        ⌊(observedNs : ℚ) * options.periodScale⌋ :=
    min_le_right _ _
  have hOne :
      (1 : ℚ) ≤ (observedNs : ℚ) * options.periodScale := by
    have hCast :
        ((1 : Int) : ℚ) ≤
          ⌊(observedNs : ℚ) * options.periodScale⌋ := by
      exact_mod_cast (by omega :
        (1 : Int) ≤
          ⌊(observedNs : ℚ) * options.periodScale⌋)
    rw [Int.cast_one] at hCast
    exact hCast.trans (Int.floor_le _)
  have hObserved : (0 : ℚ) ≤ observedNs := by
    by_contra hNegative
    have hProduct :
        (observedNs : ℚ) * options.periodScale < 0 :=
      mul_neg_of_neg_of_pos (not_le.mp hNegative) hPositive
    linarith
  have hScaled :
      (observedNs : ℚ) * options.periodScale ≤ observedNs :=
    mul_le_of_le_one_right hObserved hScale
  have hExact :
      ⌊(observedNs : ℚ) * options.periodScale⌋ ≤
        observedNs := by
    rw [← Int.cast_le (R := ℚ)]
    exact (Int.floor_le _).trans hScaled
  exact hFloor.trans hExact

/- The parameters of a row, as whole numbers. -/
structure RowOf.Numbers
    (options : GeneratorOptions)
    (perRun : List Threads)
    (role : String × List Nat)
    (row : ProfileEntry) : Prop where
  minimum : options.minimumRuntimeNs ≤ row.runtimeNs
  runtime_pos : 1 ≤ row.runtimeNs
  runtime_le : row.runtimeNs ≤ row.deadlineNs
  deadline_eq : row.deadlineNs = row.periodNs
  maximum : (row.periodNs : Int) ≤ options.maximumPeriodNs
  covers :
    ∀ number ∈ role.2, ∀ threads ∈ perRun, ∀ observation,
      threads.get? (role.1, number) = some observation →
        observation.executionNs ≤ row.runtimeNs ∧
          (row.periodNs : Int) ≤ observation.periodNs

theorem RowOf.numbers
    (hMargin : 1 ≤ options.runtimeMargin)
    (hPositive : 0 < options.periodScale)
    (hScale : options.periodScale ≤ 1)
    (hRuns : perRun ≠ [])
    (hExecutions :
      ∀ number ∈ role.2, ∀ threads ∈ perRun, ∀ observation,
        threads.get? (role.1, number) = some observation →
          0 < observation.executionNs)
    (hRow : RowOf options perRun role row) :
    RowOf.Numbers options perRun role row := by
  rcases hRow.parameters with
    ⟨executionNs, observedNs, hBounds, hFits, hRuntime,
      hDeadline, hPeriod⟩
  have hExecution : 0 < executionNs := by
    rcases List.exists_mem_of_ne_nil perRun hRuns with
      ⟨threads, hThreads⟩
    rcases hBounds row.instanceNumber hRow.instanceNumber
        threads hThreads with
      ⟨observation, hGet, hMaximum, _⟩
    have hObservation :=
      hExecutions row.instanceNumber hRow.instanceNumber
        threads hThreads observation hGet
    omega
  have hLower := le_runtimeNs hMargin hExecution
  have hUpper :
      periodNs options observedNs ≤ observedNs :=
    periodNs_le hPositive hScale (by omega)
  have hMinimum :
      options.minimumRuntimeNs ≤
        runtimeNs options executionNs :=
    le_max_left _ _
  have hMaximum :
      periodNs options observedNs ≤
        options.maximumPeriodNs :=
    min_le_left _ _
  refine ⟨by omega, by omega, by omega, by omega, by omega,
    ?_⟩
  intro number hNumber threads hThreads observation hGet
  rcases hBounds number hNumber threads hThreads with
    ⟨found, hFound, hLarge, hSmall⟩
  rw [hGet] at hFound
  cases Option.some.inj hFound
  omega

/- A row of a role is valid. -/
theorem Sources.valid
    {traceRuns : List TraceRun}
    {expected : List (String × Nat)}
    (hSources : Sources traceRuns perRun expected)
    (hRole : role ∈ (instancesBySignature expected).toList)
    (hRowOf : RowOf options perRun role row)
    (hNumbers : RowOf.Numbers options perRun role row) :
    row.valid = true := by
  rcases List.exists_mem_of_ne_nil perRun
      hSources.nonempty with
    ⟨threads, hThreads⟩
  have hMember :
      (role.1, row.instanceNumber) ∈ threads.keys := by
    rw [hSources.keys threads hThreads]
    exact (mem_instances_iff hRole).mp hRowOf.instanceNumber
  rcases Dict.mem_keys_iff.mp hMember with
    ⟨observation, hGet⟩
  rcases (hSources.observation hThreads hGet).1 with
    ⟨hSignature, hInstance⟩
  have hRuntime := hNumbers.runtime_pos
  have hLe := hNumbers.runtime_le
  have hEq := hNumbers.deadline_eq
  simp only at hSignature hInstance
  simp only [ProfileEntry.valid, Bool.and_eq_true,
    decide_eq_true_eq]
  rw [hRowOf.signature]
  exact ⟨⟨⟨⟨hSignature, by omega⟩, by omega⟩, hLe⟩, by omega⟩

/- A row covers the threads of its signature in every run. -/
theorem Sources.covers
    {traceRuns : List TraceRun}
    {expected : List (String × Nat)}
    (hSources : Sources traceRuns perRun expected)
    (hRole : role ∈ (instancesBySignature expected).toList)
    (hRowOf : RowOf options perRun role row)
    (hNumbers : RowOf.Numbers options perRun role row)
    {run : TraceRun}
    (hRun : run ∈ traceRuns) :
    ∃ files identities begin finish,
      run = .ok files ∧
      threadIdentities files.lifecycle =
        .ok (identities, begin, finish) ∧
      ∀ item ∈ identities.items,
        item.2.signature = row.signature →
          (∀ job ∈ (files.jobsOf item.1).1,
            jobExecutionNs job ≤ row.runtimeNs) ∧
          ∃ stable,
            stablePeriodsNs (files.jobsOf item.1).1 =
              .ok stable ∧
            ∀ period ∈ stable,
              (row.periodNs : Int) ≤ period := by
  rcases exists_left_of_mem hSources.observed.flip hRun with
    ⟨threads, hThreads, files, identities, begin, finish,
      hFiles, hIdentities, hAll⟩
  refine ⟨files, identities, begin, finish, hFiles,
    hIdentities, ?_⟩
  intro item hItem hSignature
  rcases hAll.covers item hItem with
    ⟨observation, hGet, hCovers⟩
  have hKey :
      item.2.key = (role.1, item.2.instanceNumber) :=
    Prod.ext (hSignature.trans hRowOf.signature) rfl
  have hInstance : item.2.instanceNumber ∈ role.2 := by
    rw [mem_instances_iff hRole, ← hKey,
      ← hSources.keys threads hThreads]
    exact Dict.mem_keys_iff.mpr ⟨observation, hGet⟩
  rw [hKey] at hGet
  have hBounds :=
    hNumbers.covers _ hInstance threads hThreads observation
      hGet
  constructor
  · intro job hJob
    exact (hCovers.jobs job hJob).trans hBounds.1
  · rcases hCovers.periods with ⟨stable, hStable, hLeast⟩
    refine ⟨stable, hStable, ?_⟩
    intro period hPeriod
    exact hBounds.2.trans (hLeast period hPeriod)

/-
  Every row of a generated profile covers all jobs and all
  stable periods of its signature, in every run, stays
  inside the limits, and all rows together are accepted.
-/
theorem generateProfile_bounds
    (traceRuns : List TraceRun)
    (options : GeneratorOptions)
    (profile : GeneratedProfile)
    (hOk :
      generateProfile traceRuns options = .ok profile) :
    (∀ row ∈ profile.rows,
      (∀ run ∈ traceRuns,
        ∃ files identities begin finish,
          run = .ok files ∧
          threadIdentities files.lifecycle =
            .ok (identities, begin, finish) ∧
          ∀ item ∈ identities.items,
            item.2.signature = row.signature →
              (∀ job ∈ (files.jobsOf item.1).1,
                jobExecutionNs job ≤ row.runtimeNs) ∧
              ∃ stable,
                stablePeriodsNs (files.jobsOf item.1).1 =
                  .ok stable ∧
                ∀ period ∈ stable,
                  (row.periodNs : Int) ≤ period) ∧
      (row.periodNs : Int) ≤
        options.maximumPeriodUs * 1000 ∧
      options.minimumRuntimeUs * 1000 ≤
        (row.runtimeNs : Int) ∧
      row.runtimeNs ≤ row.deadlineNs ∧
      row.deadlineNs = row.periodNs) ∧
    Accepted profile.rows := by
  rcases generateProfile_eq_ok hOk with
    ⟨⟨hMargin, hPositive, hScale⟩, hNonempty, perRun, expected,
      hSources, hRows⟩
  have hNumbers :
      ∀ row ∈ profile.rows,
        ∃ role ∈ (instancesBySignature expected).toList,
          RowOf options perRun role row ∧
            RowOf.Numbers options perRun role row := by
    intro row hRow
    rcases hRows.rowOf row hRow with ⟨role, hRole, hRowOf⟩
    refine ⟨role, hRole, hRowOf,
      hRowOf.numbers hMargin hPositive hScale
        hSources.nonempty ?_⟩
    intro number _ threads hThreads observation hGet
    exact (hSources.observation hThreads hGet).2
  constructor
  · intro row hRow
    rcases hNumbers row hRow with
      ⟨role, hRole, hRowOf, hNumber⟩
    refine ⟨?_, hNumber.maximum, hNumber.minimum,
      hNumber.runtime_le, hNumber.deadline_eq⟩
    intro run hRun
    exact hSources.covers hRole hRowOf hNumber hRun
  · refine ⟨hNonempty, ?_, hRows.keys⟩
    intro row hRow
    rcases hNumbers row hRow with
      ⟨role, hRole, hRowOf, hNumber⟩
    exact hSources.valid hRole hRowOf hNumber

/-
  A run with one worker, released every millisecond, whose
  jobs take up to 0.2 milliseconds.
-/
def workerTrace : TraceFiles where
  lifecycle :=
    [{ kind := .phaseMarker, timestampNs := some 1,
        tid := some 100, name := "process_start" },
      { kind := .pthreadCreate, timestampNs := some 2,
        callerTid := some 100, pthreadValue := "0xabc",
        success := some true, creationSequence := some 1,
        signature := "entry=worker@0x1" },
      { kind := .threadStart, timestampNs := some 3,
        tid := some 101, parentTid := some 100,
        pthreadValue := "0xabc", createTimestampNs := some 2,
        creationSequence := some 1,
        signature := "entry=worker@0x1", name := "worker" },
      { kind := .phaseMarker, timestampNs := some 10,
        tid := some 100, name := "steady_state_begin" },
      { kind := .phaseMarker, timestampNs := some 9000000,
        tid := some 100, name := "steady_state_end" }]
  activations :=
    [⟨101, 1000000, 1 / 10, false, false⟩,
      ⟨101, 2000000, 1 / 5, false, false⟩,
      ⟨101, 3000000, 1 / 10, false, false⟩,
      ⟨101, 4000000, 9, false, true⟩]
  summary :=
    [⟨some 100, "SCHED_OTHER", "main"⟩,
      ⟨some 101, "SCHED_OTHER", "worker"⟩]

/- The defaults of the command line. -/
def workerOptions : GeneratorOptions where
  runtimeMargin := 6 / 5
  periodScale := 91 / 100
  minimumRuntimeUs := 100
  maximumPeriodUs := 4194304

theorem workerTrace_accepted :
    ∃ profile,
      generateProfile [.ok workerTrace] workerOptions =
          .ok profile ∧
        profile.rows =
          [⟨"entry=worker@0x1", 1, "worker", 240000, 910000,
            910000⟩] ∧
        Accepted profile.rows := by
  have hRows :
      (generateProfile [.ok workerTrace] workerOptions).map
          GeneratedProfile.rows =
        .ok
          [⟨"entry=worker@0x1", 1, "worker", 240000, 910000,
            910000⟩] := by
    decide +kernel
  cases hOk :
      generateProfile [.ok workerTrace] workerOptions with
  | error message =>
      rw [hOk] at hRows
      cases hRows
  | ok profile =>
      rw [hOk] at hRows
      exact ⟨profile, rfl, Except.ok.inj hRows,
        (generateProfile_bounds _ _ _ hOk).2⟩

end Generator

end RsCamera
