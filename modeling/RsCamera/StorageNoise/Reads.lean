import Mathlib.Algebra.Order.Ring.Rat
import RsCamera.Noise.Commands

/-
  The reads of the USB storage noise: `drop_privileges`,
  `read_one_block` and the two loops of `main`
  (`realsense_usb_storage_noise.cpp`), against a device that
  may give fewer bytes than it is asked for.

  Key definitions include:
    * `Credentials`, `dropPrivileges`
    * `PhaseStats`, `Outcome`, `readOneBlock`
    * `Device`, `Device.answer`
    * `startReading`, `Process`, `step`, `run`

  Key theorems include:
    * `run_accounted`
    * `reads_cyclic`
-/

------------------------------------------------------------
-- Privileges
------------------------------------------------------------

namespace RsCamera

namespace StorageNoise

/- What the process may do, as the kernel sees it. -/
structure Credentials where
  euid : UInt32
  egid : UInt32
  groups : List UInt32
deriving Repr, DecidableEq

/- Only the superuser changes its groups and identifiers. -/
def setgroups
    (credentials : Credentials) : Except String Credentials :=
  if credentials.euid = 0 then
    .ok { credentials with groups := [] }
  else
    .error "setgroups failed: Operation not permitted"

/- `setgid`, which root may call. -/
def setgid
    (gid : UInt32)
    (credentials : Credentials) : Except String Credentials :=
  if credentials.euid = 0 then
    .ok { credentials with egid := gid }
  else
    .error "setgid failed: Operation not permitted"

/- `setuid`, which root may call. -/
def setuid
    (uid : UInt32)
    (credentials : Credentials) : Except String Credentials :=
  if credentials.euid = 0 then
    .ok { credentials with euid := uid }
  else
    .error "setuid failed: Operation not permitted"

/- `drop_privileges`. -/
def dropPrivileges
    (uid gid : UInt32)
    (credentials : Credentials) : Except String Credentials :=
  if uid = 0xffffffff then
    .ok credentials
  else if credentials.euid ≠ 0 then
    if credentials.euid ≠ uid ∨ credentials.egid ≠ gid then
      .error "cannot change UID/GID without root privileges"
    else
      .ok credentials
  else do
    let withoutGroups ← setgroups credentials
    let withGroup ← setgid gid withoutGroups
    setuid uid withGroup

------------------------------------------------------------
-- Reading a Block
------------------------------------------------------------

/-
  The counters of a phase.  Those of the source have 64 bits,
  and a run of fewer than 2^64 bytes does not exhaust them.
-/
structure PhaseStats where
  bytes : Nat := 0
  readOperations : Nat := 0
  wraps : Nat := 0
  readLatenciesMs : List ℚ := []
deriving Repr, DecidableEq

/-
  What `read` returns, and after the end of the device
  whether `lseek` succeeds.
-/
inductive Outcome
| data (count : Nat) (latencyMs : ℚ)
| finished (rewound : Bool)
| failed (interrupted : Bool)
deriving Repr, DecidableEq

/- The result is false when the loop is to be left. -/
def readOneBlock
    (stopRequested : Bool)
    (outcome : Outcome)
    (stats : PhaseStats) : Except String (Bool × PhaseStats) :=
  match outcome with
  | .failed interrupted =>
      if interrupted && stopRequested then
        .ok (false, stats)
      else
        .error "direct read failed"
  | .finished rewound =>
      if rewound then
        .ok (true, { stats with wraps := stats.wraps + 1 })
      else
        .error "cannot rewind block device"
  | .data count latencyMs =>
      .ok (true,
        { stats with
          bytes := stats.bytes + count
          readOperations := stats.readOperations + 1
          readLatenciesMs := stats.readLatenciesMs ++ [latencyMs] })

------------------------------------------------------------
-- The Device
------------------------------------------------------------

/- A block device holds whole logical blocks. -/
structure Geometry where
  size : Nat
  logicalBlock : Nat
  logicalBlock_pos : 0 < logicalBlock
  aligned : logicalBlock ∣ size

/-
  The open file: its offset, and every byte read from it, by
  its place on the device.
-/
structure OpenFile where
  offset : Nat := 0
  delivered : List Nat := []
  starts : List Nat := []
deriving Repr, DecidableEq

/- What the outside decides about one pass of a loop. -/
structure Input where
  stopAtHead : Bool
  stopAtRead : Bool
  stopAfter : Bool
  elapsedSeconds : ℚ
  fails : Bool
  interrupted : Bool
  rewinds : Bool
  grantedBlocks : Nat
  latencyMs : ℚ
deriving Repr, DecidableEq

/-
  A direct read gives one logical block or more, up to the
  size asked for and up to the end of the device; at the end
  it gives nothing.
-/
def Geometry.count
    (geometry : Geometry)
    (blockSize offset granted : Nat) : Nat :=
  min ((granted + 1) * geometry.logicalBlock)
    (min blockSize (geometry.size - offset))

/- What a read of the device gives. -/
def Geometry.answer
    (geometry : Geometry)
    (blockSize : Nat)
    (file : OpenFile)
    (input : Input) : Outcome :=
  if input.fails then
    .failed input.interrupted
  else if geometry.size ≤ file.offset then
    .finished input.rewinds
  else
    .data
      (geometry.count blockSize file.offset
        input.grantedBlocks)
      input.latencyMs

/- The file after `read`, and after `lseek` where it is made. -/
def OpenFile.after
    (file : OpenFile) : Outcome → OpenFile
| .data count _ =>
    { offset := file.offset + count
      delivered :=
        file.delivered ++ List.range' file.offset count
      starts := file.starts ++ [file.offset] }
| .finished rewound =>
    if rewound then { file with offset := 0 } else file
| .failed _ => file

------------------------------------------------------------
-- The Loops
------------------------------------------------------------

/- Where the loop of `main` is. -/
inductive Phase
| warmup
| measurement
| finished
| failed (message : String)
deriving Repr, DecidableEq

/- The variables of the loop. -/
structure Process where
  phase : Phase := .warmup
  warmup : PhaseStats := {}
  measurement : PhaseStats := {}
  file : OpenFile := {}
deriving Repr, DecidableEq

/- The size of a read, and how long the warm-up lasts. -/
structure Plan where
  blockSize : Nat
  warmupSeconds : ℚ
deriving Repr, DecidableEq

/- What the loop takes from the options. -/
def planOf
    (options : Noise.UsbOptions)
    (warmupSeconds : ℚ) : Plan where
  blockSize := options.blockSize.toNat
  warmupSeconds := warmupSeconds

/- What `main` checks and gives up before it reads. -/
def startReading
    (geometry : Geometry)
    (options : Noise.UsbOptions)
    (credentials : Credentials) : Except String Credentials :=
  if options.blockSize.toNat % geometry.logicalBlock ≠ 0 then
    .error
      "direct-read size is not aligned to the logical block size"
  else
    dropPrivileges options.dropUid options.dropGid credentials

/- One pass of the warm-up loop, with the check behind it. -/
def warmupStep
    (geometry : Geometry)
    (plan : Plan)
    (input : Input)
    (process : Process) : Process :=
  let terminated : Process :=
    { process with
      phase := .failed "terminated during USB read warm-up" }
  if input.stopAtHead then
    terminated
  else if plan.warmupSeconds ≤ input.elapsedSeconds then
    if input.stopAfter then terminated
    else { process with phase := .measurement }
  else
    let outcome :=
      geometry.answer plan.blockSize process.file input
    let file := process.file.after outcome
    match readOneBlock input.stopAtRead outcome
        process.warmup with
    | .error message =>
        { process with file := file, phase := .failed message }
    | .ok (true, stats) =>
        { process with file := file, warmup := stats }
    | .ok (false, stats) =>
        { process with
          file := file
          warmup := stats
          phase :=
            .failed "terminated during USB read warm-up" }

/- One pass of the measurement loop. -/
def measurementStep
    (geometry : Geometry)
    (plan : Plan)
    (input : Input)
    (process : Process) : Process :=
  if input.stopAtHead then
    { process with phase := .finished }
  else
    let outcome :=
      geometry.answer plan.blockSize process.file input
    let file := process.file.after outcome
    match readOneBlock input.stopAtRead outcome
        process.measurement with
    | .error message =>
        { process with file := file, phase := .failed message }
    | .ok (true, stats) =>
        { process with file := file, measurement := stats }
    | .ok (false, stats) =>
        { process with
          file := file
          measurement := stats
          phase := .finished }

/- One round of the loop. -/
def step
    (geometry : Geometry)
    (plan : Plan)
    (process : Process)
    (input : Input) : Process :=
  match process.phase with
  | .warmup => warmupStep geometry plan input process
  | .measurement => measurementStep geometry plan input process
  | .finished => process
  | .failed _ => process

/- The rounds of a run. -/
def run
    (geometry : Geometry)
    (plan : Plan)
    (inputs : List Input) : Process :=
  inputs.foldl (step geometry plan) {}

------------------------------------------------------------
-- Accounts
------------------------------------------------------------

variable {geometry : Geometry} {plan : Plan}

/-
  The bytes of all passes over the device, and the place
  where the last one stands.
-/
structure Ledger
    (geometry : Geometry)
    (file : OpenFile)
    (bytes operations wraps : Nat) : Prop where
  offset_le : file.offset ≤ geometry.size
  offset_aligned : geometry.logicalBlock ∣ file.offset
  bytes_eq : bytes = wraps * geometry.size + file.offset
  delivered_eq :
    file.delivered =
      (List.range bytes).map (fun place =>
        place % geometry.size)
  starts_length : file.starts.length = operations
  starts_aligned :
    ∀ start ∈ file.starts, geometry.logicalBlock ∣ start

/- What the statistics of one phase say about its reads. -/
structure Tallied (plan : Plan) (stats : PhaseStats) : Prop where
  latencies :
    stats.readLatenciesMs.length = stats.readOperations
  operations_le : stats.readOperations ≤ stats.bytes
  bytes_le : stats.bytes ≤ stats.readOperations * plan.blockSize

/- The counters say what was read. -/
structure Accounted
    (geometry : Geometry)
    (plan : Plan)
    (process : Process) : Prop where
  ledger :
    Ledger geometry process.file
      (process.warmup.bytes + process.measurement.bytes)
      (process.warmup.readOperations +
        process.measurement.readOperations)
      (process.warmup.wraps + process.measurement.wraps)
  warmup : Tallied plan process.warmup
  measurement : Tallied plan process.measurement
  idle : process.phase = .warmup → process.measurement = {}

/- One pass over part of the device, in its place. -/
theorem map_mod_range'
    {size start count : Nat}
    (passes : Nat)
    (hFits : start + count ≤ size) :
    (List.range' (passes * size + start) count).map
        (fun place => place % size) =
      List.range' start count := by
  apply List.ext_getElem
  · simp
  · intro i hLeft hRight
    simp only [List.getElem_map, List.getElem_range', one_mul]
    simp only [List.length_range'] at hRight
    rw [Nat.add_assoc]
    exact Nat.mul_add_mod_of_lt (by omega)

theorem dvd_min
    {d a b : Nat}
    (hLeft : d ∣ a)
    (hRight : d ∣ b) :
    d ∣ min a b := by
  rcases Nat.le_total a b with hLe | hLe
  · rwa [Nat.min_eq_left hLe]
  · rwa [Nat.min_eq_right hLe]

/- A read inside the device: how much it gives. -/
theorem count_spec
    {offset : Nat}
    (granted : Nat)
    (hBlock : 0 < plan.blockSize)
    (hDvd : geometry.logicalBlock ∣ plan.blockSize)
    (hOffset : geometry.logicalBlock ∣ offset)
    (hInside : offset < geometry.size) :
    let count := geometry.count plan.blockSize offset granted
    0 < count ∧ count ≤ plan.blockSize ∧
      offset + count ≤ geometry.size ∧
      geometry.logicalBlock ∣ count := by
  have hPos := geometry.logicalBlock_pos
  have hGranted : 0 < (granted + 1) * geometry.logicalBlock :=
    Nat.mul_pos (Nat.succ_pos granted) hPos
  refine ⟨?_, ?_, ?_, ?_⟩
  · unfold Geometry.count
    omega
  · unfold Geometry.count
    omega
  · unfold Geometry.count
    omega
  · exact dvd_min (Nat.dvd_mul_left _ _)
      (dvd_min hDvd (Nat.dvd_sub geometry.aligned hOffset))

theorem Ledger.data
    {file : OpenFile}
    {bytes operations wraps : Nat}
    (granted : Nat)
    (latencyMs : ℚ)
    (hLedger : Ledger geometry file bytes operations wraps)
    (hBlock : 0 < plan.blockSize)
    (hDvd : geometry.logicalBlock ∣ plan.blockSize)
    (hInside : file.offset < geometry.size) :
    let count :=
      geometry.count plan.blockSize file.offset granted
    Ledger geometry (file.after (.data count latencyMs))
      (bytes + count) (operations + 1) wraps := by
  intro count
  rcases count_spec granted hBlock hDvd
    hLedger.offset_aligned hInside with
    ⟨hPos, -, hFits, hAligned⟩
  refine ⟨hFits, Nat.dvd_add hLedger.offset_aligned hAligned,
    ?_, ?_, ?_, ?_⟩
  · change bytes + count =
      wraps * geometry.size + (file.offset + count)
    rw [hLedger.bytes_eq, Nat.add_assoc]
  · change
      file.delivered ++ List.range' file.offset count = _
    rw [hLedger.delivered_eq, List.range_eq_range',
      List.range_eq_range', ← List.range'_append_1,
      List.map_append, Nat.zero_add]
    congr 1
    rw [hLedger.bytes_eq, map_mod_range' wraps hFits]
  · change (file.starts ++ [file.offset]).length = _
    rw [List.length_append, hLedger.starts_length]
    rfl
  · change
      ∀ start ∈ file.starts ++ [file.offset],
        geometry.logicalBlock ∣ start
    rw [List.forall_mem_append]
    exact ⟨hLedger.starts_aligned,
      List.forall_mem_singleton.mpr hLedger.offset_aligned⟩

theorem Ledger.finished
    {file : OpenFile}
    {bytes operations wraps : Nat}
    (hLedger : Ledger geometry file bytes operations wraps)
    (hEnd : geometry.size ≤ file.offset) :
    Ledger geometry (file.after (.finished true)) bytes
      operations (wraps + 1) := by
  have hOffset : file.offset = geometry.size :=
    Nat.le_antisymm hLedger.offset_le hEnd
  refine ⟨Nat.zero_le _, Nat.dvd_zero _, ?_,
    hLedger.delivered_eq, hLedger.starts_length,
    hLedger.starts_aligned⟩
  change bytes = (wraps + 1) * geometry.size + 0
  rw [hLedger.bytes_eq, hOffset, Nat.succ_mul, Nat.add_zero]

/-
  What one read does: nothing, but perhaps the end of the
  loop; the next pass over the device; or some more bytes.
-/
theorem readOneBlock_cases
    (geometry : Geometry)
    (plan : Plan)
    (file : OpenFile)
    (stats : PhaseStats)
    (stop : Bool)
    (input : Input) :
    let outcome := geometry.answer plan.blockSize file input
    (file.after outcome = file ∧
        ∀ result, readOneBlock stop outcome stats = .ok result →
          result = (false, stats)) ∨
      (geometry.size ≤ file.offset ∧
        outcome = .finished true ∧
        readOneBlock stop outcome stats =
          .ok (true, { stats with wraps := stats.wraps + 1 })) ∨
      (file.offset < geometry.size ∧
        outcome =
          .data
            (geometry.count plan.blockSize file.offset
              input.grantedBlocks)
            input.latencyMs) := by
  intro outcome
  by_cases hFails : input.fails = true
  · left
    have hOutcome : outcome = .failed input.interrupted :=
      if_pos hFails
    rw [hOutcome]
    refine ⟨rfl, fun result hResult => ?_⟩
    simp only [readOneBlock] at hResult
    split at hResult
    · exact (Except.ok.inj hResult).symm
    · cases hResult
  · by_cases hEnd : geometry.size ≤ file.offset
    · have hOutcome : outcome = .finished input.rewinds :=
        (if_neg hFails).trans (if_pos hEnd)
      rw [hOutcome]
      cases input.rewinds with
      | true => exact Or.inr (Or.inl ⟨hEnd, rfl, rfl⟩)
      | false =>
          left
          refine ⟨rfl, fun result hResult => ?_⟩
          cases hResult
    · right
      right
      exact ⟨Nat.not_le.mp hEnd,
        (if_neg hFails).trans (if_neg hEnd)⟩

theorem Tallied.data
    {stats : PhaseStats}
    {count : Nat}
    {latencyMs : ℚ}
    (hTallied : Tallied plan stats)
    (hPos : 0 < count)
    (hLe : count ≤ plan.blockSize) :
    Tallied plan
      { stats with
        bytes := stats.bytes + count
        readOperations := stats.readOperations + 1
        readLatenciesMs :=
          stats.readLatenciesMs ++ [latencyMs] } where
  latencies := by
    simp only [List.length_append, List.length_singleton,
      hTallied.latencies]
  operations_le :=
    Nat.add_le_add hTallied.operations_le hPos
  bytes_le := by
    simp only [Nat.succ_mul]
    exact Nat.add_le_add hTallied.bytes_le hLe

/-
  The accounts after one read, beside those of the other
  phase.
-/
theorem read_keeps
    {file : OpenFile}
    {stats : PhaseStats}
    (bytes operations wraps : Nat)
    (stop : Bool)
    (hBlock : 0 < plan.blockSize)
    (hDvd : geometry.logicalBlock ∣ plan.blockSize)
    (hLedger :
      Ledger geometry file (bytes + stats.bytes)
        (operations + stats.readOperations)
        (wraps + stats.wraps))
    (hTallied : Tallied plan stats)
    (input : Input) :
    let outcome := geometry.answer plan.blockSize file input
    match readOneBlock stop outcome stats with
    | .error _ => file.after outcome = file
    | .ok result =>
        Ledger geometry (file.after outcome)
            (bytes + result.2.bytes)
            (operations + result.2.readOperations)
            (wraps + result.2.wraps) ∧
          Tallied plan result.2 := by
  intro outcome
  rcases readOneBlock_cases geometry plan file stats stop
      input with hSame | hWrap | hData
  · rcases hSame with ⟨hFile, hResult⟩
    cases hRead : readOneBlock stop outcome stats with
    | error message => exact hFile
    | ok result =>
        have hStats := hResult result hRead
        subst hStats
        change Ledger geometry (file.after outcome) _ _ _ ∧ _
        rw [hFile]
        exact ⟨hLedger, hTallied⟩
  · rcases hWrap with ⟨hEnd, hOutcome, hRead⟩
    rw [hRead]
    change Ledger geometry (file.after outcome) _ _ _ ∧ _
    have hNext := hLedger.finished hEnd
    refine ⟨?_, hTallied.latencies, hTallied.operations_le,
      hTallied.bytes_le⟩
    have hFinished : outcome = .finished true := hOutcome
    rw [hFinished]
    exact hNext
  · rcases hData with ⟨hInside, hOutcome⟩
    have hGiven : outcome = _ := hOutcome
    rcases count_spec input.grantedBlocks hBlock hDvd
      hLedger.offset_aligned hInside with ⟨hPos, hLe, -, -⟩
    have hNext :=
      hLedger.data input.grantedBlocks input.latencyMs hBlock
        hDvd hInside
    rw [hGiven]
    change Ledger geometry _ _ _ _ ∧ Tallied plan _
    refine ⟨?_, hTallied.data hPos hLe⟩
    simp only [← Nat.add_assoc]
    exact hNext

theorem step_accounted
    (hBlock : 0 < plan.blockSize)
    (hDvd : geometry.logicalBlock ∣ plan.blockSize)
    {process : Process}
    (hAccounted : Accounted geometry plan process)
    (input : Input) :
    Accounted geometry plan
      (step geometry plan process input) := by
  have hRefine (phase : Phase) (hPhase : phase ≠ .warmup) :
      Accounted geometry plan { process with phase := phase } :=
    ⟨hAccounted.ledger, hAccounted.warmup,
      hAccounted.measurement,
      fun hWarmup => absurd hWarmup hPhase⟩
  unfold step
  split
  · next hPhase =>
      have hIdle := hAccounted.idle hPhase
      have hLedger := hAccounted.ledger
      rw [hIdle] at hLedger
      have hRead :=
        read_keeps 0 0 0 input.stopAtRead hBlock hDvd
          (by simpa using hLedger) hAccounted.warmup input
      unfold warmupStep
      simp only at hRead ⊢
      split
      · exact hRefine _ (by simp)
      · split
        · split
          · exact hRefine _ (by simp)
          · exact hRefine _ (by simp)
        · split
          · next message hResult =>
              rw [hResult] at hRead
              simp only at hRead
              rw [hRead]
              exact hRefine _ (by simp)
          · next stats hResult =>
              rw [hResult] at hRead
              refine ⟨?_, hRead.2, hAccounted.measurement,
                fun _ => hIdle⟩
              simpa [hIdle] using hRead.1
          · next stats hResult =>
              rw [hResult] at hRead
              refine ⟨?_, hRead.2, hAccounted.measurement,
                fun _ => hIdle⟩
              simpa [hIdle] using hRead.1
  · next hPhase =>
      have hRead :=
        read_keeps _ _ _ input.stopAtRead hBlock hDvd
          hAccounted.ledger hAccounted.measurement input
      unfold measurementStep
      simp only at hRead ⊢
      split
      · exact hRefine _ (by simp)
      · split
        · next message hResult =>
            rw [hResult] at hRead
            simp only at hRead
            rw [hRead]
            exact hRefine _ (by simp)
        · next stats hResult =>
            rw [hResult] at hRead
            refine ⟨hRead.1, hAccounted.warmup, hRead.2,
              fun hWarmup => ?_⟩
            exact absurd (hPhase.symm.trans hWarmup) (by simp)
        · next stats hResult =>
            rw [hResult] at hRead
            refine ⟨hRead.1, hAccounted.warmup, hRead.2,
              fun hWarmup => ?_⟩
            cases hWarmup
  · exact hAccounted
  · exact hAccounted

/- Every pass of the loops keeps the accounts. -/
theorem run_accounted
    (hBlock : 0 < plan.blockSize)
    (hDvd : geometry.logicalBlock ∣ plan.blockSize)
    (inputs : List Input) :
    Accounted geometry plan (run geometry plan inputs) := by
  have hStart : Accounted geometry plan {} := by
    refine ⟨⟨Nat.zero_le _, Nat.dvd_zero _, ?_, rfl, rfl, ?_⟩,
      ⟨rfl, Nat.le_refl _, Nat.zero_le _⟩,
      ⟨rfl, Nat.le_refl _, Nat.zero_le _⟩, fun _ => rfl⟩
    · exact (Nat.zero_mul _).symm
    · intro start hMem
      cases hMem
  unfold run
  induction inputs using List.reverseRecOn with
  | nil => exact hStart
  | append_singleton inputs input ih =>
      rw [List.foldl_append]
      exact step_accounted hBlock hDvd ih input

/- The process is who it was told to become. -/
theorem dropPrivileges_spec
    {uid gid : UInt32}
    {credentials result : Credentials}
    (hDrop : dropPrivileges uid gid credentials = .ok result)
    (hUid : uid ≠ 0xffffffff) :
    result.euid = uid ∧ result.egid = gid ∧
      (credentials.euid = 0 → result.groups = []) := by
  unfold dropPrivileges at hDrop
  rw [if_neg hUid] at hDrop
  by_cases hRoot : credentials.euid = 0
  · rw [if_neg (not_not.mpr hRoot)] at hDrop
    simp only [setgroups, setgid, setuid, hRoot, if_true]
      at hDrop
    cases hDrop
    exact ⟨rfl, rfl, fun _ => rfl⟩
  · rw [if_pos hRoot] at hDrop
    split at hDrop
    · cases hDrop
    · next hSame =>
        cases hDrop
        rw [not_or, not_not, not_not] at hSame
        exact ⟨hSame.1, hSame.2, fun hZero => absurd hZero hRoot⟩

theorem parseUsb_blockSize
    {stod : String → Except String MemoryNoise.Double}
    {arguments : List String}
    {options : Noise.UsbOptions}
    (hParse : Noise.parseUsb stod arguments = .ok options) :
    4096 ≤ options.blockSize.toNat := by
  rcases bind_eq_ok.mp hParse with ⟨parsed, -, hRest⟩
  rcases bind_eq_ok.mp hRest with ⟨_, hValid, hSame⟩
  cases hSame
  unfold Noise.validateUsb at hValid
  simp only [Noise.refuseIf_bind_eq_ok, Bool.or_eq_false_iff,
    decide_eq_false_iff_not] at hValid
  have hLow := hValid.2.2.2.1.1
  rw [UInt64.lt_iff_toNat_lt, Nat.not_lt] at hLow
  exact hLow

/-
  In every run, with every pattern of short reads, failures
  and signals, the bytes read are those of the device in
  order, from its start and again from its start; every read
  begins at a logical block, and the counters of the two
  phases add up to what was read.
-/
theorem reads_cyclic
    {stod : String → Except String MemoryNoise.Double}
    {arguments : List String}
    {options : Noise.UsbOptions}
    {geometry : Geometry}
    {before after : Credentials}
    (hParse : Noise.parseUsb stod arguments = .ok options)
    (hStart : startReading geometry options before = .ok after)
    (warmupSeconds : ℚ)
    (inputs : List Input) :
    let plan := planOf options warmupSeconds
    let process := run geometry plan inputs
    let total :=
      process.warmup.bytes + process.measurement.bytes
    process.file.delivered =
        (List.range total).map (fun place =>
          place % geometry.size) ∧
      total =
        (process.warmup.wraps + process.measurement.wraps) *
            geometry.size +
          process.file.offset ∧
      process.file.offset ≤ geometry.size ∧
      (∀ start ∈ process.file.starts,
        geometry.logicalBlock ∣ start) ∧
      process.file.starts.length =
        process.warmup.readLatenciesMs.length +
          process.measurement.readLatenciesMs.length ∧
      Tallied plan process.warmup ∧
      Tallied plan process.measurement ∧
      (options.dropUid ≠ 0xffffffff →
        after.euid = options.dropUid ∧
          after.egid = options.dropGid) := by
  intro plan process total
  have hSize := parseUsb_blockSize hParse
  unfold startReading at hStart
  split at hStart
  · cases hStart
  · next hAligned =>
      rw [not_not] at hAligned
      have hAccounted :
          Accounted geometry plan process :=
        run_accounted (Nat.lt_of_lt_of_le (by decide) hSize)
          (Nat.dvd_of_mod_eq_zero hAligned) inputs
      have hLedger := hAccounted.ledger
      refine ⟨hLedger.delivered_eq, hLedger.bytes_eq,
        hLedger.offset_le, hLedger.starts_aligned, ?_,
        hAccounted.warmup, hAccounted.measurement, ?_⟩
      · rw [hLedger.starts_length, hAccounted.warmup.latencies,
          hAccounted.measurement.latencies]
      · intro hUid
        have hDropped := dropPrivileges_spec hStart hUid
        exact ⟨hDropped.1, hDropped.2.1⟩

/- A small device, and the sample configuration. -/
def sampleGeometry : Geometry where
  size := 3 * 512
  logicalBlock := 512
  logicalBlock_pos := by decide
  aligned := by decide

theorem parseUsb_sample :
    Noise.parseUsb Noise.sampleStod
        (Noise.usbArguments Noise.sampleText Noise.sampleUsb
          ⟨1000, 1000⟩ Noise.sampleFiles) =
      .ok
        (Noise.usbOptions Noise.sampleUsb ⟨1000, 1000⟩
          Noise.sampleFiles) := by
  unfold Noise.parseUsb
  rw [Noise.read_usbArguments
    { blockSize := ⟨by decide, by decide⟩
      warmup := by decide
      uid := by decide
      gid := by decide }]
  rfl

/- The options of the sample command. -/
def sampleOptions : Noise.UsbOptions :=
  Noise.usbOptions Noise.sampleUsb ⟨1000, 1000⟩
    Noise.sampleFiles

/-
  Two blocks at once in the warm-up; when its time is over,
  the last block, the end of the device and a block again.
-/
def sampleInputs : List Input :=
  [(0, 1), (20, 0), (20, 0), (20, 0), (20, 0)].map (fun pass =>
    { stopAtHead := false
      stopAtRead := false
      stopAfter := false
      elapsedSeconds := pass.1
      fails := false
      interrupted := false
      rewinds := true
      grantedBlocks := pass.2
      latencyMs := 1 })

theorem startReading_sample :
    startReading sampleGeometry sampleOptions ⟨0, 0, [0]⟩ =
      .ok ⟨1000, 1000, []⟩ := by
  decide

theorem reads_cyclic_sample :
    let process :=
      run sampleGeometry (planOf sampleOptions 10) sampleInputs
    process.phase = .measurement ∧
      process.measurement.wraps = 1 ∧
      process.file.offset = 512 ∧
      process.file.delivered =
        (List.range (4 * 512)).map (fun place =>
          place % (3 * 512)) := by
  intro process
  have hEnd :
      process.phase = .measurement ∧
        process.measurement.wraps = 1 ∧
        process.file.offset = 512 ∧
        process.warmup.bytes + process.measurement.bytes =
          4 * 512 := by
    decide +kernel
  have hCyclic :=
    (reads_cyclic parseUsb_sample startReading_sample 10
      sampleInputs).1
  rcases hEnd with ⟨hPhase, hWraps, hOffset, hTotal⟩
  refine ⟨hPhase, hWraps, hOffset, ?_⟩
  rw [← hTotal]
  exact hCyclic

end StorageNoise

end RsCamera
