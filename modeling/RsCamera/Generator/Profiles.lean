import RsCamera.Generator.Traces
import RsCamera.Scheduler.Profile

/-
  Generating a scheduler model profile from trace runs
  (`generate_profile` of `generate_deadline_profile.py`).

  All threads of one signature, its role, share their
  parameters: the runtime comes from the largest execution
  of a job and the period from the smallest stable period,
  over every run and every instance.

  Key definitions include:
    * `GeneratorOptions`
    * `roleThreads`, `generateProfile`
    * `GeneratedProfile`

  Key theorems include:
    * `generateProfile_bounds`
-/

------------------------------------------------------------
-- Roles
------------------------------------------------------------

namespace RsCamera

namespace Generator

section

open Scheduler

/- The options of the command line that decide about a profile. -/
structure GeneratorOptions where
  runtimeMargin : ℚ
  periodScale : ℚ
  minimumRuntimeUs : Int
  maximumPeriodUs : Int
  maximumModeledPeriodUs : Option Int := none
deriving Repr, DecidableEq

/- `minimum_runtime_us` in nanoseconds. -/
def GeneratorOptions.minimumRuntimeNs
    (options : GeneratorOptions) : Int :=
  options.minimumRuntimeUs * 1000

/- `maximum_period_us` in nanoseconds. -/
def GeneratorOptions.maximumPeriodNs
    (options : GeneratorOptions) : Int :=
  options.maximumPeriodUs * 1000

/- A role whose period is too long to be modeled. -/
def GeneratorOptions.excludes
    (options : GeneratorOptions)
    (periodNs : Int) : Bool :=
  match options.maximumModeledPeriodUs with
  | none => false
  | some limitUs => limitUs * 1000 < periodNs

/- An emitted row with what it was computed from. -/
structure ThreadDetail where
  row : ProfileEntry
  observedExecutionMaxNs : Int
  observedLogicalPeriodMinNs : Int
  roleInstanceCount : Nat
  roleObservedExecutionMaxNs : Int
  roleObservedLogicalPeriodMinNs : Int
  runtimeWasClamped : Bool
  periodWasClamped : Bool
  utilization : ℚ
  observations : List Observation
deriving Repr, DecidableEq

/- A thread whose period is too long to be modelled. -/
structure ExcludedThread where
  signature : String
  instanceNumber : Nat
  name : String
  roleObservedExecutionMaxNs : Int
  roleObservedLogicalPeriodMinNs : Int
  observations : List Observation
deriving Repr, DecidableEq

/- The threads of a profile, and those left out. -/
structure GeneratedProfile where
  threads : List ThreadDetail := []
  excludedThreads : List ExcludedThread := []
deriving Repr, DecidableEq

/- The rows that are written to the profile. -/
def GeneratedProfile.rows
    (profile : GeneratedProfile) : List ProfileEntry :=
  profile.threads.map ThreadDetail.row

/- The observations of an instance, one for each run. -/
def instanceObservations
    (perRun : List Threads)
    (signature : String)
    (number : Nat) : Except String (List Observation) :=
  perRun.mapM (fun threads =>
    match threads.get? (signature, number) with
    | none => .error (keyRepr (signature, number))
    | some observation => .ok observation)

/- The largest and the smallest of a list that has some. -/
def maximumOf (values : List Int) : Except String Int :=
  match values.max? with
  | none => .error "max() iterable argument is empty"
  | some value => .ok value

/- `min(values)`. -/
def minimumOf (values : List Int) : Except String Int :=
  match values.min? with
  | none => .error "min() iterable argument is empty"
  | some value => .ok value

/- The name an instance had in the first run. -/
def firstName
    (observations : List Observation) : String :=
  (observations.head?.map Observation.name).getD ""

/- The budget of a thread, rounded up. -/
def runtimeNs
    (options : GeneratorOptions)
    (executionNs : Int) : Int :=
  max options.minimumRuntimeNs
    ⌈(executionNs : ℚ) * options.runtimeMargin⌉

/- The period of a thread, rounded down. -/
def periodNs
    (options : GeneratorOptions)
    (observedNs : Int) : Int :=
  min options.maximumPeriodNs
    ⌊(observedNs : ℚ) * options.periodScale⌋

/- The row of one instance, with its details. -/
def threadDetail
    (options : GeneratorOptions)
    (signature : String)
    (count : Nat)
    (executionNs observedNs : Int)
    (number : Nat)
    (observations : List Observation) :
    Except String ThreadDetail := do
  let runtime := runtimeNs options executionNs
  let period := periodNs options observedNs
  let instanceExecution ←
    maximumOf (observations.map Observation.executionNs)
  let instancePeriod ←
    minimumOf (observations.map Observation.periodNs)
  .ok
    { row :=
        { signature := signature
          instanceNumber := number
          name := firstName observations
          runtimeNs := runtime.toNat
          deadlineNs := period.toNat
          periodNs := period.toNat }
      observedExecutionMaxNs := instanceExecution
      observedLogicalPeriodMinNs := instancePeriod
      roleInstanceCount := count
      roleObservedExecutionMaxNs := executionNs
      roleObservedLogicalPeriodMinNs := observedNs
      runtimeWasClamped :=
        runtime = options.minimumRuntimeNs ∧
          (executionNs : ℚ) * options.runtimeMargin <
            options.minimumRuntimeNs
      periodWasClamped :=
        period = options.maximumPeriodNs ∧
          (options.maximumPeriodNs : ℚ) <
            (observedNs : ℚ) * options.periodScale
      utilization := (runtime : ℚ) / (period : ℚ)
      observations := observations }

/- The body of the loop over the signatures. -/
def roleThreads
    (options : GeneratorOptions)
    (perRun : List Threads)
    (profile : GeneratedProfile)
    (role : String × List Nat) :
    Except String GeneratedProfile := do
  let (signature, unsorted) := role
  let instances :=
    unsorted.insertionSort (fun left right => left ≤ right)
  let observed ←
    instances.mapM (fun number => do
      let observations ←
        instanceObservations perRun signature number
      .ok (number, observations))
  let roleObservations := observed.flatMap Prod.snd
  let executionNs ←
    maximumOf (roleObservations.map Observation.executionNs)
  let observedNs ←
    minimumOf (roleObservations.map Observation.periodNs)
  if options.excludes observedNs then
    .ok
      { profile with
        excludedThreads :=
          profile.excludedThreads ++
            observed.map (fun entry =>
              { signature := signature
                instanceNumber := entry.1
                name := firstName entry.2
                roleObservedExecutionMaxNs := executionNs
                roleObservedLogicalPeriodMinNs := observedNs
                observations := entry.2 }) }
  else if runtimeNs options executionNs >
      periodNs options observedNs then
    .error
      ("runtime exceeds deadline for thread role " ++
        signature ++ ": runtime=" ++
        toString (runtimeNs options executionNs) ++
        ", period=" ++ toString (periodNs options observedNs))
  else do
    let details ←
      observed.mapM (fun entry =>
        threadDetail options signature instances.length
          executionNs observedNs entry.1 entry.2)
    .ok
      { profile with threads := profile.threads ++ details }

end

------------------------------------------------------------
-- The Generator
------------------------------------------------------------

section

open Scheduler

/- The artifacts of a run, or why they cannot be read. -/
abbrev TraceRun : Type :=
  Except String TraceFiles

/- Identities in the order of `sorted`. -/
def sortKeys
    (keys : List (String × Nat)) : List (String × Nat) :=
  keys.insertionSort (fun left right =>
    compare left right ≠ .gt)

/- `repr` of a list of identities. -/
def keysRepr (keys : List (String × Nat)) : String :=
  "[" ++ ", ".intercalate (keys.map keyRepr) ++ "]"

/- All runs must have the threads of the first one. -/
def checkRuns
    (expected : List (String × Nat)) :
    List Threads → Nat → Except String Unit
| [], _ => .ok ()
| threads :: rest, index =>
    let missing :=
      expected.filter (fun key => key ∉ threads.keys)
    let extra :=
      threads.keys.filter (fun key => key ∉ expected)
    if missing ≠ [] ∨ extra ≠ [] then
      .error
        ("trace run " ++ toString index ++
          " has a different live-thread set; missing=" ++
          keysRepr (sortKeys missing) ++ ", extra=" ++
          keysRepr (sortKeys extra))
    else
      checkRuns expected rest (index + 1)

/- The instances of each signature. -/
def instancesBySignature
    (expected : List (String × Nat)) :
    Std.TreeMap String (List Nat) :=
  keyedFold Prod.fst
    (fun instances key => instances ++ [key.2]) []
    (sortKeys expected)

/-
  `generate_profile`: the options are checked before any trace
  is read.
-/
def generateProfile
    (traceRuns : List TraceRun)
    (options : GeneratorOptions) :
    Except String GeneratedProfile := do
  if options.runtimeMargin < 1 then
    .error "runtime margin must be at least 1.0"
  else if ¬ (0 < options.periodScale ∧
      options.periodScale ≤ 1) then
    .error "period scale must be in (0, 1]"
  else if traceRuns = [] then
    .error "at least one SCHED_OTHER trace run is required"
  else
    let perRun ←
      traceRuns.mapM (fun run => do
        let files ← run
        traceThreads files true)
    let expected :=
      (perRun.head?.map Dict.keys).getD []
    checkRuns expected (perRun.drop 1) 2
    let profile ←
      (instancesBySignature expected).toList.foldlM
        (roleThreads options perRun) {}
    if profile.rows = [] then
      .error "modeled-period filter excluded every live worker"
    else
      .ok profile

end

------------------------------------------------------------
-- What A Role Emits
------------------------------------------------------------

section

open Scheduler

theorem maximumOf_eq_ok
    {values : List Int}
    {maximum : Int}
    (hOk : maximumOf values = .ok maximum) :
    ∀ value ∈ values, value ≤ maximum := by
  unfold maximumOf at hOk
  split at hOk
  · cases hOk
  next found hFound =>
    rw [← Except.ok.inj hOk]
    exact (List.max?_eq_some_iff.mp hFound).2

theorem minimumOf_eq_ok
    {values : List Int}
    {minimum : Int}
    (hOk : minimumOf values = .ok minimum) :
    ∀ value ∈ values, minimum ≤ value := by
  unfold minimumOf at hOk
  split at hOk
  · cases hOk
  next found hFound =>
    rw [← Except.ok.inj hOk]
    exact (List.min?_eq_some_iff.mp hFound).2

variable {perRun : List Threads}
variable {signature : String}
variable {options : GeneratorOptions}
variable {executionNs observedNs : Int}
variable {observed : List (Nat × List Observation)}

/- Every run has an observation of the instance. -/
theorem instanceObservations_eq_ok
    {number : Nat}
    {observations : List Observation}
    (hOk :
      instanceObservations perRun signature number =
        .ok observations)
    {threads : Threads}
    (hThreads : threads ∈ perRun) :
    ∃ observation ∈ observations,
      threads.get? (signature, number) =
        some observation := by
  have hEach := (mapM_eq_ok_iff.mp hOk).flip
  rcases exists_left_of_mem hEach hThreads with
    ⟨observation, hMember, hAt⟩
  refine ⟨observation, hMember, ?_⟩
  split at hAt
  · cases hAt
  next found hFound =>
    rw [hFound, Except.ok.inj hAt]

/-
  The two numbers of a role bound the observations of all
  its instances in all runs.
-/
def RoleBounds
    (perRun : List Threads)
    (role : String × List Nat)
    (executionNs observedNs : Int) : Prop :=
  ∀ number ∈ role.2, ∀ threads ∈ perRun,
    ∃ observation,
      threads.get? (role.1, number) = some observation ∧
        observation.executionNs ≤ executionNs ∧
        observedNs ≤ observation.periodNs

/- The rows of a role that is modeled. -/
structure RoleRows
    (options : GeneratorOptions)
    (role : String × List Nat)
    (executionNs observedNs : Int)
    (rows : List ProfileEntry) : Prop where
  runtime_le :
    runtimeNs options executionNs ≤
      periodNs options observedNs
  keys :
    (rows.map ProfileEntry.key).Perm
      (role.2.map (fun number => (role.1, number)))
  runtime :
    ∀ row ∈ rows,
      row.runtimeNs = (runtimeNs options executionNs).toNat
  deadline :
    ∀ row ∈ rows,
      row.deadlineNs = (periodNs options observedNs).toNat
  period :
    ∀ row ∈ rows,
      row.periodNs = (periodNs options observedNs).toNat

theorem threadDetail_row
    {count : Nat}
    {number : Nat}
    {observations : List Observation}
    {detail : ThreadDetail}
    (hOk :
      threadDetail options signature count executionNs
          observedNs number observations =
        .ok detail) :
    detail.row.key = (signature, number) ∧
      detail.row.runtimeNs =
        (runtimeNs options executionNs).toNat ∧
      detail.row.deadlineNs =
        (periodNs options observedNs).toNat ∧
      detail.row.periodNs =
        (periodNs options observedNs).toNat := by
  unfold threadDetail at hOk
  simp only [bind_eq_ok] at hOk
  rcases hOk with ⟨_, _, _, _, hEq⟩
  rw [← Except.ok.inj hEq]
  exact ⟨rfl, rfl, rfl, rfl⟩

/- The observations that a role is computed from. -/
theorem roleBounds_of_observed
    {instances unsorted : List Nat}
    (hPerm : instances.Perm unsorted)
    (hObserved :
      instances.mapM (fun number => do
        let observations ←
          instanceObservations perRun signature number
        .ok (number, observations)) =
      .ok observed)
    (hExecution :
      maximumOf
          ((observed.flatMap Prod.snd).map
            Observation.executionNs) =
        .ok executionNs)
    (hPeriod :
      minimumOf
          ((observed.flatMap Prod.snd).map
            Observation.periodNs) =
        .ok observedNs) :
    RoleBounds perRun (signature, unsorted) executionNs
      observedNs := by
  intro number hNumber threads hThreads
  have hInstance := hPerm.mem_iff.mpr hNumber
  rcases exists_left_of_mem
      (mapM_eq_ok_iff.mp hObserved).flip hInstance with
    ⟨entry, hEntry, hAt⟩
  rcases bind_eq_ok.mp hAt with
    ⟨observations, hObservations, hEq⟩
  rcases instanceObservations_eq_ok hObservations hThreads with
    ⟨observation, hMember, hGet⟩
  have hAll : observation ∈ observed.flatMap Prod.snd := by
    rw [List.mem_flatMap]
    refine ⟨entry, hEntry, ?_⟩
    rw [← Except.ok.inj hEq]
    exact hMember
  exact ⟨observation, hGet,
    maximumOf_eq_ok hExecution _ (List.mem_map_of_mem hAll),
    minimumOf_eq_ok hPeriod _ (List.mem_map_of_mem hAll)⟩

/- The keys of the instances that were observed. -/
theorem map_fst_observed
    {instances : List Nat}
    (hObserved :
      instances.mapM (fun number => do
        let observations ←
          instanceObservations perRun signature number
        .ok (number, observations)) =
      .ok observed) :
    observed.map Prod.fst = instances := by
  have hEach := mapM_eq_ok_iff.mp hObserved
  clear hObserved
  induction hEach with
  | nil => rfl
  | @cons number entry instances observed hHead hTail ih =>
      rcases bind_eq_ok.mp hHead with ⟨observations, _, hEq⟩
      rw [List.map_cons, ih, ← Except.ok.inj hEq]

theorem map_key_details
    {count : Nat}
    {details : List ThreadDetail}
    (hDetails :
      observed.mapM (fun entry =>
          threadDetail options signature count executionNs
            observedNs entry.1 entry.2) =
        .ok details) :
    (details.map ThreadDetail.row).map ProfileEntry.key =
      (observed.map Prod.fst).map
        (fun number => (signature, number)) := by
  have hEach := mapM_eq_ok_iff.mp hDetails
  clear hDetails
  induction hEach with
  | nil => rfl
  | @cons entry detail observed details hHead hTail ih =>
      rw [List.map_cons, List.map_cons, List.map_cons,
        List.map_cons, ih, (threadDetail_row hHead).1]

/-
  What one role adds to a profile: nothing if it is
  excluded, else a row for each of its instances.
-/
theorem roleThreads_cases
    {profile profile' : GeneratedProfile}
    {role : String × List Nat}
    (hOk :
      roleThreads options perRun profile role =
        .ok profile') :
    profile'.rows = profile.rows ∨
      ∃ executionNs observedNs rows,
        RoleBounds perRun role executionNs observedNs ∧
        RoleRows options role executionNs observedNs rows ∧
        profile'.rows = profile.rows ++ rows := by
  rcases role with ⟨signature, unsorted⟩
  have hPerm :=
    List.perm_insertionSort
      (fun left right : Nat => left ≤ right) unsorted
  unfold roleThreads at hOk
  rcases bind_eq_ok.mp hOk with ⟨observed, hObserved, hRest⟩
  rcases bind_eq_ok.mp hRest with
    ⟨executionNs, hExecution, hRest⟩
  rcases bind_eq_ok.mp hRest with
    ⟨observedNs, hPeriod, hRest⟩
  split at hRest
  · left
    rw [← Except.ok.inj hRest]
    rfl
  · split at hRest
    · cases hRest
    next hFits =>
      right
      rcases bind_eq_ok.mp hRest with
        ⟨details, hDetails, hEq⟩
      refine ⟨executionNs, observedNs,
        details.map ThreadDetail.row,
        roleBounds_of_observed hPerm hObserved hExecution
          hPeriod, ?_, ?_⟩
      · have hRow :
            ∀ row ∈ details.map ThreadDetail.row,
              row.runtimeNs =
                (runtimeNs options executionNs).toNat ∧
              row.deadlineNs =
                (periodNs options observedNs).toNat ∧
              row.periodNs =
                (periodNs options observedNs).toNat := by
          intro row hMember
          rcases List.mem_map.mp hMember with
            ⟨detail, hDetail, hRowEq⟩
          rcases exists_left_of_mem
              (mapM_eq_ok_iff.mp hDetails) hDetail with
            ⟨entry, _, hAt⟩
          rw [← hRowEq]
          exact (threadDetail_row hAt).2
        refine ⟨not_lt.mp hFits, ?_,
          fun row hMember => (hRow row hMember).1,
          fun row hMember => (hRow row hMember).2.1,
          fun row hMember => (hRow row hMember).2.2⟩
        rw [map_key_details hDetails,
          map_fst_observed hObserved]
        exact hPerm.map _
      · rw [← Except.ok.inj hEq]
        simp [GeneratedProfile.rows]

end

------------------------------------------------------------
-- All Roles
------------------------------------------------------------

open Scheduler

/- A row that comes from a role. -/
structure RowOf
    (options : GeneratorOptions)
    (perRun : List Threads)
    (role : String × List Nat)
    (row : ProfileEntry) : Prop where
  signature : row.signature = role.1
  instanceNumber : row.instanceNumber ∈ role.2
  parameters :
    ∃ executionNs observedNs,
      RoleBounds perRun role executionNs observedNs ∧
      runtimeNs options executionNs ≤
        periodNs options observedNs ∧
      row.runtimeNs =
        (runtimeNs options executionNs).toNat ∧
      row.deadlineNs =
        (periodNs options observedNs).toNat ∧
      row.periodNs = (periodNs options observedNs).toNat

variable {options : GeneratorOptions}
variable {perRun : List Threads}

theorem RoleRows.rowOf
    {role : String × List Nat}
    {executionNs observedNs : Int}
    {rows : List ProfileEntry}
    (hRows : RoleRows options role executionNs observedNs rows)
    (hBounds : RoleBounds perRun role executionNs observedNs)
    {row : ProfileEntry}
    (hMember : row ∈ rows) :
    RowOf options perRun role row := by
  have hKey :
      row.key ∈ role.2.map (fun number => (role.1, number)) :=
    hRows.keys.mem_iff.mp (List.mem_map_of_mem hMember)
  rcases List.mem_map.mp hKey with ⟨number, hNumber, hEq⟩
  rcases Prod.mk.inj hEq with ⟨hSignature, hInstance⟩
  refine ⟨hSignature.symm, hInstance ▸ hNumber,
    executionNs, observedNs, hBounds, hRows.runtime_le,
    hRows.runtime row hMember, hRows.deadline row hMember,
    hRows.period row hMember⟩

/- Two rows with equal parameters. -/
def SameParameters (row row' : ProfileEntry) : Prop :=
  row.runtimeNs = row'.runtimeNs ∧
    row.deadlineNs = row'.deadlineNs ∧
    row.periodNs = row'.periodNs

/- The rows after some roles. -/
structure RowsOf
    (options : GeneratorOptions)
    (perRun : List Threads)
    (roles : List (String × List Nat))
    (rows : List ProfileEntry) : Prop where
  rowOf :
    ∀ row ∈ rows, ∃ role ∈ roles,
      RowOf options perRun role row
  keys : (rows.map ProfileEntry.key).Nodup
  shared :
    ∀ row ∈ rows, ∀ row' ∈ rows,
      row.signature = row'.signature →
        SameParameters row row'

theorem RowsOf.add
    {roles : List (String × List Nat)}
    {role : String × List Nat}
    {profile profile' : GeneratedProfile}
    (hRows : RowsOf options perRun roles profile.rows)
    (hFresh : role.1 ∉ roles.map Prod.fst)
    (hInstances : role.2.Nodup)
    (hOk :
      roleThreads options perRun profile role =
        .ok profile') :
    RowsOf options perRun (roles ++ [role]) profile'.rows := by
  rcases roleThreads_cases hOk with
    hSame | ⟨executionNs, observedNs, added, hBounds, hAdded,
      hEq⟩
  · rw [hSame]
    refine ⟨?_, hRows.keys, hRows.shared⟩
    intro row hMember
    rcases hRows.rowOf row hMember with ⟨old, hOld, hRowOf⟩
    exact ⟨old, List.mem_append_left _ hOld, hRowOf⟩
  · have hNew :
        ∀ row ∈ added, RowOf options perRun role row :=
      fun row hMember => hAdded.rowOf hBounds hMember
    -- An old row has another signature than the new role.
    have hApart :
        ∀ row ∈ profile.rows, ∀ row' ∈ added,
          row.signature ≠ row'.signature := by
      intro row hOld row' hNewRow hSignature
      rcases hRows.rowOf row hOld with
        ⟨old, hOldRole, hRowOf⟩
      apply hFresh
      rw [← (hNew row' hNewRow).signature, ← hSignature,
        hRowOf.signature]
      exact List.mem_map_of_mem hOldRole
    rw [hEq]
    constructor
    · intro row hMember
      rcases List.mem_append.mp hMember with hOld | hLast
      · rcases hRows.rowOf row hOld with
          ⟨old, hOldRole, hRowOf⟩
        exact ⟨old, List.mem_append_left _ hOldRole, hRowOf⟩
      · exact ⟨role, by simp, hNew row hLast⟩
    · rw [List.map_append, List.nodup_append]
      refine ⟨hRows.keys, ?_, ?_⟩
      · apply hAdded.keys.nodup_iff.mpr
        apply hInstances.map
        intro left right hPair
        exact (Prod.mk.inj hPair).2
      · intro key hKey other hOther hSame
        rcases List.mem_map.mp hKey with ⟨row, hRow, hRowKey⟩
        rcases List.mem_map.mp hOther with
          ⟨row', hRow', hRowKey'⟩
        rw [← hRowKey, ← hRowKey'] at hSame
        exact hApart row hRow row' hRow'
          (congrArg Prod.fst hSame)
    · intro row hRow row' hRow' hSignature
      rcases List.mem_append.mp hRow with hOld | hLast
      · rcases List.mem_append.mp hRow' with hOld' | hLast'
        · exact hRows.shared row hOld row' hOld' hSignature
        · exact absurd hSignature
            (hApart row hOld row' hLast')
      · rcases List.mem_append.mp hRow' with hOld' | hLast'
        · exact absurd hSignature.symm
            (hApart row' hOld' row hLast)
        · unfold SameParameters
          rw [hAdded.runtime row hLast,
            hAdded.deadline row hLast,
            hAdded.period row hLast,
            hAdded.runtime row' hLast',
            hAdded.deadline row' hLast',
            hAdded.period row' hLast']
          exact ⟨rfl, rfl, rfl⟩

theorem RowsOf.foldlM
    {roles rest : List (String × List Nat)}
    {profile profile' : GeneratedProfile}
    (hRows : RowsOf options perRun roles profile.rows)
    (hSignatures : ((roles ++ rest).map Prod.fst).Nodup)
    (hInstances : ∀ role ∈ rest, role.2.Nodup)
    (hOk :
      rest.foldlM (roleThreads options perRun) profile =
        .ok profile') :
    RowsOf options perRun (roles ++ rest) profile'.rows := by
  induction rest generalizing roles profile with
  | nil =>
      rw [List.foldlM_nil] at hOk
      rw [← Except.ok.inj hOk, List.append_nil]
      exact hRows
  | cons role rest ih =>
      rw [List.foldlM_cons] at hOk
      rcases bind_eq_ok.mp hOk with ⟨next, hNext, hRest⟩
      have hShift :
          roles ++ role :: rest = roles ++ [role] ++ rest := by
        simp
      rw [hShift] at hSignatures ⊢
      have hFresh : role.1 ∉ roles.map Prod.fst := by
        rw [List.map_append, List.nodup_append] at hSignatures
        have hFirst := hSignatures.1
        rw [List.map_append, List.nodup_append] at hFirst
        intro hMember
        exact hFirst.2.2 role.1 hMember role.1 (by simp) rfl
      apply ih _ hSignatures _ hRest
      · exact hRows.add hFresh
          (hInstances role (List.mem_cons_self ..)) hNext
      · intro other hOther
        exact hInstances other
          (List.mem_cons_of_mem _ hOther)

end Generator

end RsCamera
