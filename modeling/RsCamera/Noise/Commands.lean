import RsCamera.Lib.Arguments
import RsCamera.MemoryNoise.Options

/-
  The command lines of the noise processes: the `_command`
  methods of `noise_workloads.py`, the checks that the
  campaign makes first (`run_steady_campaign.py`), and the
  `parse_options` of the programs that are started
  (`realsense_cpu_noise.cpp`, `realsense_memory_noise.cpp`,
  `realsense_usb_storage_noise.cpp`,
  `realsense_gpu_noise.cpp`).

  The decimal text of a floating-point number is given as a
  function, as is `std::stod`.

  Key definitions include:
    * `NoiseFiles`, `affinityPrefix`, `noisePrefix`
    * `MemoryNoiseConfig`, `checkMemory`, `memoryArguments`
    * `UsbStorageNoiseConfig`, `checkUsb`, `usbArguments`
    * `CpuNoiseConfig`, `GpuNoiseConfig`

  Key theorems include:
    * `memoryNoise_agree`, `usbNoise_agree`
    * `cpuNoise_agree`, `gpuNoise_agree`
-/

------------------------------------------------------------
-- Shared Parts
------------------------------------------------------------

namespace RsCamera

namespace Noise

section

open MemoryNoise (Double Stop number refuseIf refuseIf_eq_ok)

/- The files that `start` names in the record directory. -/
structure NoiseFiles where
  readyPath : PathText
  summaryPath : PathText
deriving Repr, DecidableEq

/- An empty affinity is none. -/
def affinityPrefix (cpuAffinity : Option String) : List String :=
  match cpuAffinity.filter (fun text => text ≠ "") with
  | none => []
  | some cpus => ["taskset", "--cpu-list", cpus]

/- Noise runs under the ordinary policy, on its processors. -/
def noisePrefix (cpuAffinity : Option String) : List String :=
  ["chrt", "--other", "0"] ++ affinityPrefix cpuAffinity

/- The two options that every program has. -/
def fileArguments (files : NoiseFiles) : List String :=
  ["--ready-file", files.readyPath.text,
    "--summary-output", files.summaryPath.text]

/- The comparison of two numbers of type `double`. -/
def leDouble : Double → Double → Bool
| .nan, _ => false
| _, .nan => false
| .infinity negative, .infinity negative' =>
    negative || !negative'
| .infinity negative, .finite _ => negative
| .finite _, .infinity negative => !negative
| .finite left, .finite right => left ≤ right

/- `raise SystemExit(message)` under a condition. -/
def exitIf
    (bad : Bool)
    (message : String) : Except String Unit :=
  if bad then .error message else .ok ()

/- `--help`, or an argument that no option has. -/
def unknownArgument (argument : String) : Stop :=
  if argument = "--help" ∨ argument = "-h" then
    .help
  else
    .error ("unknown argument: " ++ argument)

/- An option stands last, without its value. -/
def missingValue (argument : String) : Stop :=
  .error ("missing value after " ++ argument)

/- A number that a 64-bit word holds. -/
def Word (value : Int) : Prop :=
  0 ≤ value ∧ value < 2 ^ 64

end

------------------------------------------------------------
-- Memory
------------------------------------------------------------

section

open MemoryNoise (Double Stop number refuseIf refuseIf_eq_ok)

/- The fields of `MemoryNoiseConfig`. -/
structure MemoryNoiseConfig where
  executable : PathText
  workers : Int
  bufferSizeMib : Int
  copyChunkKib : Int
  targetMemoryMibPerSecond : Double
  warmupSeconds : Double
  readyTimeoutSeconds : Double
  cpuAffinity : Option String
deriving Repr, DecidableEq

/- What `main` of the campaign checks. -/
def checkMemory
    (config : MemoryNoiseConfig) : Except String Unit := do
  exitIf (config.workers < 1)
    "--memory-noise-workers must be positive"
  exitIf (config.bufferSizeMib < 1)
    "--memory-noise-buffer-size-mib must be positive"
  exitIf (config.copyChunkKib < 1)
    "--memory-noise-copy-chunk-kib must be positive"
  exitIf (config.bufferSizeMib * 1024 < config.copyChunkKib)
    "--memory-noise-copy-chunk-kib must not exceed the buffer size"
  exitIf (config.bufferSizeMib * 1024 % config.copyChunkKib ≠ 0)
    "--memory-noise-copy-chunk-kib must divide the buffer size exactly"
  exitIf
    (!config.targetMemoryMibPerSecond.isFinite ||
      config.targetMemoryMibPerSecond.lt 0)
    "--memory-noise-target-mib-per-second must be finite and non-negative"
  exitIf
    (config.targetMemoryMibPerSecond.gt 0 &&
      config.targetMemoryMibPerSecond.lt 1)
    "--memory-noise-target-mib-per-second must be zero or at least 1"
  exitIf (config.warmupSeconds.le 0)
    "--memory-noise-warmup-seconds must be positive"
  exitIf
    (leDouble config.readyTimeoutSeconds config.warmupSeconds)
    "--memory-noise-ready-timeout-seconds must exceed the warm-up duration"

/- The arguments after the path of the program. -/
def memoryArguments
    (floatText : Double → String)
    (config : MemoryNoiseConfig)
    (files : NoiseFiles) : List String :=
  fileArguments files ++
    ["--workers", toString config.workers,
      "--buffer-size-mib", toString config.bufferSizeMib,
      "--copy-chunk-kib", toString config.copyChunkKib,
      "--warmup-seconds", floatText config.warmupSeconds,
      "--target-memory-mib-per-second",
      floatText config.targetMemoryMibPerSecond]

/- `FixedCopyMemoryNoise._command`. -/
def memoryCommand
    (floatText : Double → String)
    (config : MemoryNoiseConfig)
    (files : NoiseFiles) : List String :=
  noisePrefix config.cpuAffinity ++
    config.executable.text ::
      memoryArguments floatText config files

end

------------------------------------------------------------
-- USB Storage
------------------------------------------------------------

section

open MemoryNoise (Double Stop number refuseIf refuseIf_eq_ok)

/- The fields of `UsbStorageNoiseConfig`. -/
structure UsbStorageNoiseConfig where
  executable : PathText
  device : PathText
  warmupSeconds : Double
  blockSizeKib : Int
  readyTimeoutSeconds : Double
  useSudo : Bool
deriving Repr, DecidableEq

/- What `main` of the campaign checks. -/
def checkUsb
    (config : UsbStorageNoiseConfig) : Except String Unit := do
  exitIf (config.warmupSeconds.le 0)
    "--usb-storage-warmup-seconds must be positive"
  exitIf (config.blockSizeKib < 4)
    "--usb-storage-block-size-kib must be at least 4"
  exitIf
    (leDouble config.readyTimeoutSeconds config.warmupSeconds)
    "--usb-storage-ready-timeout-seconds must exceed the warm-up duration"

/- The user and group of the campaign's process. -/
structure Owner where
  uid : UInt32
  gid : UInt32
deriving Repr, DecidableEq

/- Under `sudo`, the program is told whom to become. -/
def dropArguments
    (config : UsbStorageNoiseConfig)
    (owner : Owner) : List String :=
  if config.useSudo then
    ["--drop-uid", toString owner.uid.toNat,
      "--drop-gid", toString owner.gid.toNat]
  else
    []

/- The arguments after the path of the program. -/
def usbArguments
    (floatText : Double → String)
    (config : UsbStorageNoiseConfig)
    (owner : Owner)
    (files : NoiseFiles) : List String :=
  ["--device", config.device.text] ++
    (fileArguments files ++
      (["--block-size-kib", toString config.blockSizeKib,
        "--warmup-seconds", floatText config.warmupSeconds] ++
      dropArguments config owner))

/-
  `UsbStorageReadNoise._command`; the policy is set under
  `sudo`.
-/
def usbCommand
    (floatText : Double → String)
    (config : UsbStorageNoiseConfig)
    (owner : Owner)
    (files : NoiseFiles) : List String :=
  (if config.useSudo then ["sudo", "--non-interactive"]
    else []) ++
    (["chrt", "--other", "0"] ++
      config.executable.text ::
        usbArguments floatText config owner files)

/- The options of the program; no identifier is all ones. -/
structure UsbOptions where
  device : String := ""
  readyFile : String := ""
  summaryOutput : String := ""
  blockSize : UInt64 := 1024 * 1024
  warmupSeconds : Double := .finite 10
  dropUid : UInt32 := 0xffffffff
  dropGid : UInt32 := 0xffffffff
deriving Repr, DecidableEq

/- The options with a value, and how each is stored. -/
def usbSetter
    (stod : String → Except String Double)
    (argument : String) :
    Option (String → UsbOptions → Except Stop UsbOptions) :=
  match argument with
  | "--device" =>
      some (fun value options =>
        .ok { options with device := value })
  | "--ready-file" =>
      some (fun value options =>
        .ok { options with readyFile := value })
  | "--summary-output" =>
      some (fun value options =>
        .ok { options with summaryOutput := value })
  | "--block-size-kib" =>
      some (fun value options => do
        let kib ← number "stoull" value
        .ok { options with blockSize := kib * 1024 })
  | "--warmup-seconds" =>
      some (fun value options => do
        let seconds ← (stod value).mapError Stop.error
        .ok { options with warmupSeconds := seconds })
  | "--drop-uid" =>
      some (fun value options => do
        let uid ← number "stoul" value
        .ok { options with dropUid := uid.toUInt32 })
  | "--drop-gid" =>
      some (fun value options => do
        let gid ← number "stoul" value
        .ok { options with dropGid := gid.toUInt32 })
  | _ => none

/- The option loop of `parse_options`, which has no switches. -/
def usbTable
    (stod : String → Except String Double) :
    OptionTable Stop UsbOptions where
  setter := usbSetter stod
  switch := fun _ => none
  missing := missingValue
  unknown := unknownArgument

/- The checks behind the loop, in their order. -/
def validateUsb (options : UsbOptions) : Except Stop Unit := do
  refuseIf (options.device = "") "--device is required"
  refuseIf (options.readyFile = "") "--ready-file is required"
  refuseIf (options.summaryOutput = "")
    "--summary-output is required"
  refuseIf
    (options.blockSize < 4096 ||
      64 * 1024 * 1024 < options.blockSize)
    "block size must be between 4 KiB and 64 MiB"
  refuseIf (options.warmupSeconds.le 0)
    "warm-up duration must be positive"
  refuseIf
    (decide (options.dropUid = 0xffffffff) !=
      decide (options.dropGid = 0xffffffff))
    "--drop-uid and --drop-gid must be specified together"

/- `parse_options` of the program. -/
def parseUsb
    (stod : String → Except String Double)
    (arguments : List String) : Except Stop UsbOptions := do
  let options ← (usbTable stod).read arguments {}
  validateUsb options
  .ok options

end

------------------------------------------------------------
-- Processors
------------------------------------------------------------

section

open MemoryNoise (Double Stop number refuseIf refuseIf_eq_ok)

/- The fields of `CpuNoiseConfig`. -/
structure CpuNoiseConfig where
  executable : PathText
  workers : Int
  warmupSeconds : Double
  readyTimeoutSeconds : Double
  cpuAffinity : Option String
deriving Repr, DecidableEq

/- What `main` of the campaign checks. -/
def checkCpu
    (config : CpuNoiseConfig) : Except String Unit := do
  exitIf (config.workers < 1)
    "--cpu-noise-workers must be positive"
  exitIf (config.warmupSeconds.le 0)
    "--cpu-noise-warmup-seconds must be positive"
  exitIf
    (leDouble config.readyTimeoutSeconds config.warmupSeconds)
    "--cpu-noise-ready-timeout-seconds must exceed the warm-up duration"

/- The arguments after the path of the program. -/
def cpuArguments
    (floatText : Double → String)
    (config : CpuNoiseConfig)
    (files : NoiseFiles) : List String :=
  fileArguments files ++
    ["--workers", toString config.workers,
      "--warmup-seconds", floatText config.warmupSeconds]

/- `CpuBusyLoopNoise._command`. -/
def cpuCommand
    (floatText : Double → String)
    (config : CpuNoiseConfig)
    (files : NoiseFiles) : List String :=
  noisePrefix config.cpuAffinity ++
    config.executable.text :: cpuArguments floatText config files

/- The options of the program, with their defaults. -/
structure CpuOptions where
  readyFile : String := ""
  summaryOutput : String := ""
  workers : UInt32 := 1
  warmupSeconds : Double := .finite 10
deriving Repr, DecidableEq

/- The options with a value, and how each is stored. -/
def cpuSetter
    (stod : String → Except String Double)
    (argument : String) :
    Option (String → CpuOptions → Except Stop CpuOptions) :=
  match argument with
  | "--ready-file" =>
      some (fun value options =>
        .ok { options with readyFile := value })
  | "--summary-output" =>
      some (fun value options =>
        .ok { options with summaryOutput := value })
  | "--workers" =>
      some (fun value options => do
        let workers ← number "stoul" value
        .ok { options with workers := workers.toUInt32 })
  | "--warmup-seconds" =>
      some (fun value options => do
        let seconds ← (stod value).mapError Stop.error
        .ok { options with warmupSeconds := seconds })
  | _ => none

/- The option loop of `parse_options`, which has no switches. -/
def cpuTable
    (stod : String → Except String Double) :
    OptionTable Stop CpuOptions where
  setter := cpuSetter stod
  switch := fun _ => none
  missing := missingValue
  unknown := unknownArgument

/- The checks behind the loop, in their order. -/
def validateCpu (options : CpuOptions) : Except Stop Unit := do
  refuseIf (options.readyFile = "") "--ready-file is required"
  refuseIf (options.summaryOutput = "")
    "--summary-output is required"
  refuseIf (options.workers < 1) "worker count must be positive"
  refuseIf (options.warmupSeconds.le 0)
    "warm-up duration must be positive"

/-
  `parse_options`; without `--workers` there is one for each
  thread of the hardware.
-/
def parseCpu
    (stod : String → Except String Double)
    (hardwareThreads : UInt32)
    (arguments : List String) : Except Stop CpuOptions := do
  let options ←
    (cpuTable stod).read arguments
      { workers :=
          if hardwareThreads = 0 then 1 else hardwareThreads }
  validateCpu options
  .ok options

end

------------------------------------------------------------
-- Graphics
------------------------------------------------------------

section

open MemoryNoise (Double Stop number refuseIf refuseIf_eq_ok)

/- The fields of `GpuNoiseConfig`. -/
structure GpuNoiseConfig where
  executable : PathText
  modelParam : PathText
  gpuDevice : Int
  warmupIterations : Int
  readyTimeoutSeconds : Double
  cpuAffinity : Option String
deriving Repr, DecidableEq

/- What `main` of the campaign checks. -/
def checkGpu
    (config : GpuNoiseConfig) : Except String Unit := do
  exitIf (config.warmupIterations < 1)
    "--gpu-noise-warmup-iterations must be positive"
  exitIf (config.readyTimeoutSeconds.le 0)
    "--gpu-noise-ready-timeout-seconds must be positive"

/- The arguments after the path of the program. -/
def gpuArguments
    (config : GpuNoiseConfig)
    (files : NoiseFiles) : List String :=
  ["--model-param", config.modelParam.text] ++
    (fileArguments files ++
      ["--gpu-device", toString config.gpuDevice,
        "--warmup-iterations",
        toString config.warmupIterations,
        "--num-threads", "1"])

/- `GpuVulkanNoise._command`. -/
def gpuCommand
    (config : GpuNoiseConfig)
    (files : NoiseFiles) : List String :=
  noisePrefix config.cpuAffinity ++
    config.executable.text :: gpuArguments config files

/- The options of the program, with their defaults. -/
structure GpuOptions where
  modelParam : String := "mobilenet_v2.param"
  readyFile : String := ""
  summaryOutput : String := ""
  gpuDevice : Int := 0
  warmupIterations : Int := 10
  numThreads : Int := 1
  allowCpuVulkan : Bool := false
deriving Repr, DecidableEq

/- A number of `std::stoi`. -/
def intValue (value : String) : Except Stop Int :=
  (stoi value).mapError Stop.error

/- The options with a value, and how each is stored. -/
def gpuSetter
    (argument : String) :
    Option (String → GpuOptions → Except Stop GpuOptions) :=
  match argument with
  | "--model-param" =>
      some (fun value options =>
        .ok { options with modelParam := value })
  | "--ready-file" =>
      some (fun value options =>
        .ok { options with readyFile := value })
  | "--summary-output" =>
      some (fun value options =>
        .ok { options with summaryOutput := value })
  | "--gpu-device" =>
      some (fun value options => do
        let device ← intValue value
        .ok { options with gpuDevice := device })
  | "--warmup-iterations" =>
      some (fun value options => do
        let iterations ← intValue value
        .ok { options with warmupIterations := iterations })
  | "--num-threads" =>
      some (fun value options => do
        let threads ← intValue value
        .ok { options with numThreads := threads })
  | _ => none

/- The option without a value. -/
def gpuSwitch
    (argument : String) : Option (GpuOptions → GpuOptions) :=
  match argument with
  | "--allow-cpu-vulkan" =>
      some (fun options => { options with allowCpuVulkan := true })
  | _ => none

/- The option loop of `parse_options`. -/
def gpuTable : OptionTable Stop GpuOptions where
  setter := gpuSetter
  switch := gpuSwitch
  missing := missingValue
  unknown := unknownArgument

/- The checks behind the loop, in their order. -/
def validateGpu (options : GpuOptions) : Except Stop Unit := do
  refuseIf (options.readyFile = "") "--ready-file is required"
  refuseIf (options.summaryOutput = "")
    "--summary-output is required"
  refuseIf
    (options.gpuDevice < 0 || options.warmupIterations < 1 ||
      options.numThreads < 1)
    "GPU index must be non-negative and counts must be positive"

/- `parse_options` of the program. -/
def parseGpu
    (arguments : List String) : Except Stop GpuOptions := do
  let options ← gpuTable.read arguments {}
  validateGpu options
  .ok options

end

------------------------------------------------------------
-- Reading the Numbers
------------------------------------------------------------

section

open MemoryNoise (Double Stop number refuseIf refuseIf_eq_ok)

variable {bad : Bool}
variable {message : String}
variable {value : Int}

theorem refuseIf_bind_eq_ok
    {R : Type}
    {rest : Unit → Except Stop R}
    {result : R} :
    (refuseIf bad message >>= rest) = .ok result ↔
      bad = false ∧ rest () = .ok result := by
  cases bad with
  | false => simp [refuseIf, bind, Except.bind]
  | true => simp [refuseIf, bind, Except.bind]

theorem exitIf_bind_eq_ok
    {rest : Unit → Except String Unit}
    {result : Unit} :
    (exitIf bad message >>= rest) = .ok result ↔
      bad = false ∧ rest () = .ok result := by
  cases bad with
  | false => simp [exitIf, bind, Except.bind]
  | true => simp [exitIf, bind, Except.bind]

theorem exitIf_eq_ok
    {result : Unit} :
    exitIf bad message = .ok result ↔ bad = false := by
  cases bad with
  | false => simp [exitIf]
  | true => simp [exitIf]

/- A printed word is read as itself. -/
theorem number_natText
    {name : String}
    {n : Nat}
    (hLess : n < 2 ^ 64) :
    number name (toString n) = .ok (UInt64.ofNat n) := by
  unfold number
  rw [stoull_toString hLess]

theorem number_toString
    {name : String}
    (hWord : Word value) :
    number name (toString value) =
      .ok (UInt64.ofNat value.toNat) := by
  rcases hWord with ⟨hNonneg, hLess⟩
  obtain ⟨n, rfl⟩ := Int.eq_ofNat_of_zero_le hNonneg
  have hSmall : n < 2 ^ 64 := by
    exact_mod_cast hLess
  have hRead :
      number name (toString (n : Int)) = .ok (UInt64.ofNat n) :=
    number_natText hSmall
  rw [hRead]
  rfl

theorem toNat_ofNat_word
    (hWord : Word value) :
    (UInt64.ofNat value.toNat).toNat = value.toNat := by
  rcases hWord with ⟨hNonneg, hLess⟩
  apply UInt64.toNat_ofNat_of_lt'
  have hSmall : value.toNat < 2 ^ 64 := by
    omega
  exact hSmall

theorem toNat_toUInt32_word
    (hNonneg : 0 ≤ value)
    (hLess : value < 2 ^ 32) :
    (UInt64.ofNat value.toNat).toUInt32.toNat =
      value.toNat := by
  rw [UInt64.toNat_toUInt32,
    toNat_ofNat_word ⟨hNonneg, by omega⟩]
  omega

end

------------------------------------------------------------
-- Memory Options
------------------------------------------------------------

section

open MemoryNoise (Double Stop number refuseIf refuseIf_eq_ok)

/- The options of the memory noise, as a table. -/
def memoryTable
    (stod : String → Except String Double) :
    OptionTable Stop MemoryNoise.Options where
  setter := MemoryNoise.setter stod
  switch := fun _ => none
  missing := missingValue
  unknown := unknownArgument

/- The option loop of the program is the loop of its table. -/
theorem optionLoop_eq_read
    (stod : String → Except String Double)
    (arguments : List String)
    (options : MemoryNoise.Options) :
    MemoryNoise.optionLoop stod arguments options =
      (memoryTable stod).read arguments options := by
  fun_induction MemoryNoise.optionLoop stod arguments options
  case case1 => rfl
  case case2 argument options set hSet =>
      rw [OptionTable.read]
      simp only [memoryTable, hSet]
      rfl
  case case3 argument options set hSet value rest ih =>
      rw [OptionTable.read]
      simp only [memoryTable, hSet]
      exact congrArg (set value options >>= ·) (funext ih)
  case case4 argument rest options hSet hHelp =>
      rw [OptionTable.read]
      simp only [memoryTable, hSet, unknownArgument,
        if_pos hHelp]
  case case5 argument rest options hSet hHelp =>
      rw [OptionTable.read]
      simp only [memoryTable, hSet, unknownArgument,
        if_neg hHelp]

/- The options that a configuration stands for. -/
def memoryOptions
    (config : MemoryNoiseConfig)
    (files : NoiseFiles) : MemoryNoise.Options where
  readyFile := files.readyPath.text
  summaryOutput := files.summaryPath.text
  workers := (UInt64.ofNat config.workers.toNat).toUInt32
  bufferSizeMib := UInt64.ofNat config.bufferSizeMib.toNat
  copyChunkKib := UInt64.ofNat config.copyChunkKib.toNat
  warmupSeconds := config.warmupSeconds
  targetMemoryMibPerSecond := config.targetMemoryMibPerSecond

/- The numbers fit their types, and their texts are read back. -/
structure MemoryReadable
    (floatText : Double → String)
    (stod : String → Except String Double)
    (config : MemoryNoiseConfig) : Prop where
  workers : 0 ≤ config.workers ∧ config.workers < 2 ^ 32
  bufferSize : Word config.bufferSizeMib
  copyChunk : Word config.copyChunkKib
  warmup :
    stod (floatText config.warmupSeconds) =
      .ok config.warmupSeconds
  target :
    stod (floatText config.targetMemoryMibPerSecond) =
      .ok config.targetMemoryMibPerSecond

variable {floatText : Double → String}
variable {stod : String → Except String Double}
variable {config : MemoryNoiseConfig}

theorem optionLoop_memoryArguments
    (hRead : MemoryReadable floatText stod config)
    (files : NoiseFiles)
    (options : MemoryNoise.Options) :
    MemoryNoise.optionLoop stod
        (memoryArguments floatText config files) options =
      .ok (memoryOptions config files) := by
  have hWorkersWord : Word config.workers :=
    ⟨hRead.workers.1, by have := hRead.workers.2; omega⟩
  let table := memoryTable stod
  have hReady :
      Stores table.read (.error .help)
        ["--ready-file", files.readyPath.text] True
        (fun options =>
          { options with readyFile := files.readyPath.text }) :=
    OptionTable.stores_ok rfl (fun _ => rfl)
  have hSummary :
      Stores table.read (.error .help)
        ["--summary-output", files.summaryPath.text] True
        (fun options =>
          { options with
            summaryOutput := files.summaryPath.text }) :=
    OptionTable.stores_ok rfl (fun _ => rfl)
  have hWorkers :
      Stores table.read (.error .help)
        ["--workers", toString config.workers] True
        (fun options =>
          { options with
            workers :=
              (UInt64.ofNat config.workers.toNat).toUInt32 }) :=
    OptionTable.stores_ok rfl (fun options => by
      rw [number_toString hWorkersWord]
      rfl)
  have hBuffer :
      Stores table.read (.error .help)
        ["--buffer-size-mib", toString config.bufferSizeMib]
        True
        (fun options =>
          { options with
            bufferSizeMib :=
              UInt64.ofNat config.bufferSizeMib.toNat }) :=
    OptionTable.stores_ok rfl (fun options => by
      rw [number_toString hRead.bufferSize]
      rfl)
  have hChunk :
      Stores table.read (.error .help)
        ["--copy-chunk-kib", toString config.copyChunkKib] True
        (fun options =>
          { options with
            copyChunkKib :=
              UInt64.ofNat config.copyChunkKib.toNat }) :=
    OptionTable.stores_ok rfl (fun options => by
      rw [number_toString hRead.copyChunk]
      rfl)
  have hWarmup :
      Stores table.read (.error .help)
        ["--warmup-seconds", floatText config.warmupSeconds]
        True
        (fun options =>
          { options with
            warmupSeconds := config.warmupSeconds }) :=
    OptionTable.stores_ok rfl (fun options => by
      rw [hRead.warmup]
      rfl)
  have hTarget :
      Stores table.read (.error .help)
        ["--target-memory-mib-per-second",
          floatText config.targetMemoryMibPerSecond]
        True
        (fun options =>
          { options with
            targetMemoryMibPerSecond :=
              config.targetMemoryMibPerSecond }) :=
    OptionTable.stores_ok rfl (fun options => by
      rw [hRead.target]
      rfl)
  have hAll :=
    hReady.append (hSummary.append (hWorkers.append (
      hBuffer.append (hChunk.append (
      hWarmup.append hTarget)))))
  rw [optionLoop_eq_read]
  have hRun := hAll.run_eq options
  simp only [and_self, if_true] at hRun
  exact hRun

/- The conditions that both sides check. -/
structure MemoryFit (config : MemoryNoiseConfig) : Prop where
  workers : 1 ≤ config.workers
  bufferSize : 1 ≤ config.bufferSizeMib
  copyChunk : 1 ≤ config.copyChunkKib
  chunk_le : config.copyChunkKib ≤ config.bufferSizeMib * 1024
  divides : config.copyChunkKib ∣ config.bufferSizeMib * 1024
  finite : config.targetMemoryMibPerSecond.isFinite = true
  nonneg : config.targetMemoryMibPerSecond.lt 0 = false
  rate :
    config.targetMemoryMibPerSecond.gt 0 = false ∨
      config.targetMemoryMibPerSecond.lt 1 = false
  warmup : config.warmupSeconds.le 0 = false

theorem checkMemory_iff :
    checkMemory config = .ok () ↔
      MemoryFit config ∧
        leDouble config.readyTimeoutSeconds
          config.warmupSeconds = false := by
  unfold checkMemory
  simp only [exitIf_bind_eq_ok, exitIf_eq_ok,
    decide_eq_false_iff_not, Bool.or_eq_false_iff,
    Bool.and_eq_false_iff, Bool.not_eq_false', Int.not_lt,
    ne_eq, not_not, ← Int.dvd_iff_emod_eq_zero]
  constructor
  · rintro ⟨hWorkers, hBuffer, hChunk, hLe, hDivides,
      ⟨hFinite, hNonneg⟩, hRate, hWarmup, hTimeout⟩
    exact ⟨⟨hWorkers, hBuffer, hChunk, hLe, hDivides, hFinite,
      hNonneg, hRate, hWarmup⟩, hTimeout⟩
  · rintro ⟨hFit, hTimeout⟩
    exact ⟨hFit.workers, hFit.bufferSize, hFit.copyChunk,
      hFit.chunk_le, hFit.divides, ⟨hFit.finite, hFit.nonneg⟩,
      hFit.rate, hFit.warmup, hTimeout⟩

/- What the program checks before it computes sizes. -/
theorem validateOptions_memoryOptions
    (hRead : MemoryReadable floatText stod config)
    (files : NoiseFiles) :
    MemoryNoise.validateOptions (memoryOptions config files) =
        .ok () ↔
      1 ≤ config.workers ∧ 1 ≤ config.bufferSizeMib ∧
        1 ≤ config.copyChunkKib ∧
        config.warmupSeconds.le 0 = false ∧
        config.targetMemoryMibPerSecond.isFinite = true ∧
        config.targetMemoryMibPerSecond.lt 0 = false ∧
        (config.targetMemoryMibPerSecond.gt 0 = false ∨
          config.targetMemoryMibPerSecond.lt 1 = false) := by
  have hWorkers :
      ¬(UInt64.ofNat config.workers.toNat).toUInt32 < 1 ↔
        1 ≤ config.workers := by
    rw [UInt32.lt_iff_toNat_lt,
      toNat_toUInt32_word hRead.workers.1 hRead.workers.2]
    have hNonneg := hRead.workers.1
    have hOne : (1 : UInt32).toNat = 1 := rfl
    omega
  have hBuffer :
      ¬UInt64.ofNat config.bufferSizeMib.toNat < 1 ↔
        1 ≤ config.bufferSizeMib := by
    rw [UInt64.lt_iff_toNat_lt,
      toNat_ofNat_word hRead.bufferSize]
    have hNonneg := hRead.bufferSize.1
    have hOne : (1 : UInt64).toNat = 1 := rfl
    omega
  have hChunk :
      ¬UInt64.ofNat config.copyChunkKib.toNat < 1 ↔
        1 ≤ config.copyChunkKib := by
    rw [UInt64.lt_iff_toNat_lt,
      toNat_ofNat_word hRead.copyChunk]
    have hNonneg := hRead.copyChunk.1
    have hOne : (1 : UInt64).toNat = 1 := rfl
    omega
  unfold MemoryNoise.validateOptions
  simp only [refuseIf_bind_eq_ok, refuseIf_eq_ok,
    decide_eq_false_iff_not, Bool.or_eq_false_iff,
    Bool.and_eq_false_iff, Bool.not_eq_false']
  simp only [memoryOptions, hWorkers, hBuffer, hChunk]
  constructor
  · rintro ⟨-, -, hRest⟩
    rcases hRest with ⟨hW, hB, hC, hSeconds, ⟨hF, hN⟩, hR⟩
    exact ⟨hW, hB, hC, hSeconds, hF, hN, hR⟩
  · rintro ⟨hW, hB, hC, hSeconds, hF, hN, hR⟩
    exact ⟨files.readyPath.nonempty, files.summaryPath.nonempty,
      hW, hB, hC, hSeconds, ⟨hF, hN⟩, hR⟩

/- The sizes of a configuration, as numbers. -/
structure SizesOf
    (config : MemoryNoiseConfig)
    (sizes : MemoryNoise.Sizes) : Prop where
  buffer :
    (sizes.bufferSizeBytes.toNat : Int) =
      config.bufferSizeMib * 2 ^ 20
  chunk :
    (sizes.copyChunkBytes.toNat : Int) =
      config.copyChunkKib * 2 ^ 10
  total :
    (sizes.totalAllocatedBytes.toNat : Int) =
      2 * config.workers * (config.bufferSizeMib * 2 ^ 20)

/- A checked product is refused exactly if it overflows. -/
theorem maxWord_div_iff
    {a b : UInt64}
    (hB : 0 < b.toNat) :
    ¬MemoryNoise.maxWord / b < a ↔
      a.toNat * b.toNat < 2 ^ 64 := by
  have hMax : MemoryNoise.maxWord.toNat = 2 ^ 64 - 1 := by
    decide
  rw [UInt64.lt_iff_toNat_lt, UInt64.toNat_div, Nat.not_lt,
    Nat.le_div_iff_mul_le hB, hMax]
  omega

/- The sizes exist if and only if they all fit. -/
theorem checkSizes_iff
    {options : MemoryNoise.Options}
    (hPositive : MemoryNoise.Positive options) :
    (∃ sizes, MemoryNoise.checkSizes options = .ok sizes) ↔
      options.copyChunkKib.toNat ≤
          options.bufferSizeMib.toNat * 1024 ∧
        options.copyChunkKib.toNat ∣
          options.bufferSizeMib.toNat * 1024 ∧
        2 * options.workers.toNat *
          (options.bufferSizeMib.toNat * 2 ^ 20) < 2 ^ 64 := by
  have hMib : MemoryNoise.bytesPerMib.toNat = 2 ^ 20 := by
    decide
  have hKib : MemoryNoise.bytesPerKib.toNat = 2 ^ 10 := by
    decide
  have hWorkersLess := options.workers.toNat_lt
  have hWorkersPos := hPositive.workers
  have hBufferPos := hPositive.bufferSize
  have hChunkPos := hPositive.copyChunk
  have hHalf :
      ¬MemoryNoise.maxWord / 2 < options.workers.toUInt64 := by
    rw [UInt64.lt_iff_toNat_lt, UInt32.toNat_toUInt64]
    have hValue :
        (MemoryNoise.maxWord / 2).toNat = 2 ^ 63 - 1 := by
      decide
    omega
  have hDouble :
      (options.workers.toUInt64 * 2).toNat =
        options.workers.toNat * 2 := by
    rw [MemoryNoise.toNat_mul_of_le (by decide) hHalf,
      UInt32.toNat_toUInt64]
    rfl
  have hBufferFits :
      ¬MemoryNoise.maxWord / MemoryNoise.bytesPerMib <
          options.bufferSizeMib ↔
        options.bufferSizeMib.toNat * 2 ^ 20 < 2 ^ 64 := by
    rw [maxWord_div_iff (by decide), hMib]
  have hChunkFits :
      ¬MemoryNoise.maxWord / MemoryNoise.bytesPerKib <
          options.copyChunkKib ↔
        options.copyChunkKib.toNat * 2 ^ 10 < 2 ^ 64 := by
    rw [maxWord_div_iff (by decide), hKib]
  have hBufferBytes
      (hBuffer : options.bufferSizeMib.toNat * 2 ^ 20 < 2 ^ 64) :
      (options.bufferSizeMib * MemoryNoise.bytesPerMib).toNat =
        options.bufferSizeMib.toNat * 2 ^ 20 :=
    MemoryNoise.toNat_mul_of_le (by decide)
      (hBufferFits.mpr hBuffer)
  have hChunkBytes
      (hChunk : options.copyChunkKib.toNat * 2 ^ 10 < 2 ^ 64) :
      (options.copyChunkKib * MemoryNoise.bytesPerKib).toNat =
        options.copyChunkKib.toNat * 2 ^ 10 :=
    MemoryNoise.toNat_mul_of_le (by decide)
      (hChunkFits.mpr hChunk)
  have hSame :
      options.bufferSizeMib.toNat * 1024 * 2 ^ 10 =
        options.bufferSizeMib.toNat * 2 ^ 20 := by
    omega
  unfold MemoryNoise.checkSizes
  simp only [refuseIf_bind_eq_ok, decide_eq_false_iff_not,
    Bool.or_eq_false_iff, ne_eq, not_not, hBufferFits,
    hChunkFits, hHalf, not_false_eq_true, true_and,
    exists_and_left]
  constructor
  · rintro ⟨hBuffer, hChunk, hLess, hRest, hTotal, -⟩
    have hBufferNat := hBufferBytes hBuffer
    have hChunkNat := hChunkBytes hChunk
    rw [UInt64.lt_iff_toNat_lt, hBufferNat, hChunkNat]
      at hLess
    rw [← UInt64.toNat_inj, UInt64.toNat_mod, hBufferNat,
      hChunkNat] at hRest
    rw [maxWord_div_iff (by rw [hBufferNat]; omega),
      hBufferNat, hDouble] at hTotal
    have hDvd :
        options.copyChunkKib.toNat * 2 ^ 10 ∣
          options.bufferSizeMib.toNat * 1024 * 2 ^ 10 := by
      rw [hSame]
      exact Nat.dvd_of_mod_eq_zero hRest
    refine ⟨by omega,
      Nat.dvd_of_mul_dvd_mul_right (by decide) hDvd, ?_⟩
    rwa [Nat.mul_comm 2 options.workers.toNat]
  · rintro ⟨hLe, hDvd, hTotal⟩
    have hBuffer :
        options.bufferSizeMib.toNat * 2 ^ 20 < 2 ^ 64 := by
      refine Nat.lt_of_le_of_lt ?_ hTotal
      exact Nat.le_mul_of_pos_left _ (by omega)
    have hChunk :
        options.copyChunkKib.toNat * 2 ^ 10 < 2 ^ 64 := by
      refine Nat.lt_of_le_of_lt ?_ hBuffer
      rw [← hSame]
      exact Nat.mul_le_mul_right _ hLe
    have hBufferNat := hBufferBytes hBuffer
    have hChunkNat := hChunkBytes hChunk
    refine ⟨hBuffer, hChunk, ?_, ?_, ?_, _, rfl⟩
    · rw [UInt64.lt_iff_toNat_lt, hBufferNat, hChunkNat]
      omega
    · rw [← UInt64.toNat_inj, UInt64.toNat_mod, hBufferNat,
        hChunkNat]
      rw [← hSame]
      exact Nat.mod_eq_zero_of_dvd
        (Nat.mul_dvd_mul_right hDvd (2 ^ 10))
    · rw [maxWord_div_iff (by rw [hBufferNat]; omega),
        hBufferNat, hDouble]
      rwa [Nat.mul_comm 2 options.workers.toNat] at hTotal

theorem checkSizes_bytes
    {options : MemoryNoise.Options}
    {sizes : MemoryNoise.Sizes}
    (hCheck : MemoryNoise.checkSizes options = .ok sizes) :
    sizes.bufferSizeBytes.toNat =
        options.bufferSizeMib.toNat * 2 ^ 20 ∧
      sizes.copyChunkBytes.toNat =
        options.copyChunkKib.toNat * 2 ^ 10 := by
  unfold MemoryNoise.checkSizes at hCheck
  simp only [refuseIf_bind_eq_ok, decide_eq_false_iff_not]
    at hCheck
  rcases hCheck with ⟨hBuffer, hChunk, -, -, -, hSame⟩
  cases hSame
  constructor
  · exact MemoryNoise.toNat_mul_of_le (by decide) hBuffer
  · exact MemoryNoise.toNat_mul_of_le (by decide) hChunk

theorem positive_memoryOptions
    (hRead : MemoryReadable floatText stod config)
    (files : NoiseFiles)
    (hWorkers : 1 ≤ config.workers)
    (hBuffer : 1 ≤ config.bufferSizeMib)
    (hChunk : 1 ≤ config.copyChunkKib) :
    MemoryNoise.Positive (memoryOptions config files) where
  workers := by
    change 0 < (UInt64.ofNat config.workers.toNat).toUInt32.toNat
    rw [toNat_toUInt32_word hRead.workers.1 hRead.workers.2]
    omega
  bufferSize := by
    change 0 < (UInt64.ofNat config.bufferSizeMib.toNat).toNat
    rw [toNat_ofNat_word hRead.bufferSize]
    omega
  copyChunk := by
    change 0 < (UInt64.ofNat config.copyChunkKib.toNat).toNat
    rw [toNat_ofNat_word hRead.copyChunk]
    omega

/- The program's conditions, over the configuration. -/
theorem checkSizes_memoryOptions
    (hRead : MemoryReadable floatText stod config)
    (files : NoiseFiles)
    (hWorkers : 1 ≤ config.workers)
    (hBuffer : 1 ≤ config.bufferSizeMib)
    (hChunk : 1 ≤ config.copyChunkKib) :
    (∃ sizes,
        MemoryNoise.checkSizes (memoryOptions config files) =
          .ok sizes) ↔
      config.copyChunkKib ≤ config.bufferSizeMib * 1024 ∧
        config.copyChunkKib ∣ config.bufferSizeMib * 1024 ∧
        2 * config.workers * (config.bufferSizeMib * 2 ^ 20) <
          2 ^ 64 := by
  rw [checkSizes_iff
    (positive_memoryOptions hRead files hWorkers hBuffer hChunk)]
  have hW :
      (memoryOptions config files).workers.toNat =
        config.workers.toNat :=
    toNat_toUInt32_word hRead.workers.1 hRead.workers.2
  have hB :
      (memoryOptions config files).bufferSizeMib.toNat =
        config.bufferSizeMib.toNat :=
    toNat_ofNat_word hRead.bufferSize
  have hC :
      (memoryOptions config files).copyChunkKib.toNat =
        config.copyChunkKib.toNat :=
    toNat_ofNat_word hRead.copyChunk
  rw [hW, hB, hC]
  obtain ⟨w, hw⟩ := Int.eq_ofNat_of_zero_le hRead.workers.1
  obtain ⟨b, hb⟩ := Int.eq_ofNat_of_zero_le hRead.bufferSize.1
  obtain ⟨c, hc⟩ := Int.eq_ofNat_of_zero_le hRead.copyChunk.1
  rw [hw, hb, hc]
  simp only [Int.toNat_natCast]
  have hDvd : ((c : Int) ∣ (b : Int) * 1024) ↔ c ∣ b * 1024 := by
    exact_mod_cast Int.natCast_dvd_natCast (m := c) (n := b * 1024)
  rw [hDvd]
  refine and_congr (by omega) (and_congr_right (fun _ => ?_))
  norm_cast

/-
  The command ends with the program and its arguments, and the
  campaign and the program agree about a configuration whose
  numbers fit their types: the campaign lets it pass, and its
  buffers fit into a word, exactly if the program accepts the
  arguments and the timeout exceeds the warm-up; and then the
  program works with the numbers of the configuration.
-/
theorem memoryNoise_agree
    (hRead : MemoryReadable floatText stod config)
    (files : NoiseFiles)
    (hardwareThreads : UInt32) :
    config.executable.text ::
          memoryArguments floatText config files <:+
        memoryCommand floatText config files ∧
      (checkMemory config = .ok () ∧
          2 * config.workers * (config.bufferSizeMib * 2 ^ 20) <
            2 ^ 64 ↔
        leDouble config.readyTimeoutSeconds
            config.warmupSeconds = false ∧
          ∃ sizes,
            (MemoryNoise.parseOptions stod hardwareThreads
                (memoryArguments floatText config files) >>=
              MemoryNoise.checkSizes) = .ok sizes) ∧
        ∀ sizes,
          (MemoryNoise.parseOptions stod hardwareThreads
              (memoryArguments floatText config files) >>=
            MemoryNoise.checkSizes) = .ok sizes →
          MemoryNoise.parseOptions stod hardwareThreads
              (memoryArguments floatText config files) =
            .ok (memoryOptions config files) ∧
          SizesOf config sizes := by
  have hParse :
      MemoryNoise.parseOptions stod hardwareThreads
          (memoryArguments floatText config files) =
        (MemoryNoise.validateOptions (memoryOptions config files)
          >>= fun _ => .ok (memoryOptions config files)) := by
    unfold MemoryNoise.parseOptions
    rw [optionLoop_memoryArguments hRead]
    rfl
  have hAccepted (sizes : MemoryNoise.Sizes) :
      (MemoryNoise.parseOptions stod hardwareThreads
          (memoryArguments floatText config files) >>=
        MemoryNoise.checkSizes) = .ok sizes ↔
      MemoryNoise.validateOptions (memoryOptions config files) =
          .ok () ∧
        MemoryNoise.checkSizes (memoryOptions config files) =
          .ok sizes := by
    rw [hParse]
    cases MemoryNoise.validateOptions
      (memoryOptions config files) with
    | error stop => simp [bind, Except.bind]
    | ok _ => simp [bind, Except.bind]
  have hValid := validateOptions_memoryOptions hRead files
  refine ⟨List.suffix_append _ _, ?_, ?_⟩
  · rw [checkMemory_iff]
    constructor
    · rintro ⟨⟨hFit, hTimeout⟩, hTotal⟩
      obtain ⟨sizes, hSizes⟩ :=
        (checkSizes_memoryOptions hRead files hFit.workers
          hFit.bufferSize hFit.copyChunk).mpr
          ⟨hFit.chunk_le, hFit.divides, hTotal⟩
      refine ⟨hTimeout, sizes, (hAccepted sizes).mpr ⟨?_, hSizes⟩⟩
      exact hValid.mpr
        ⟨hFit.workers, hFit.bufferSize, hFit.copyChunk,
          hFit.warmup, hFit.finite, hFit.nonneg, hFit.rate⟩
    · rintro ⟨hTimeout, sizes, hBoth⟩
      rcases (hAccepted sizes).mp hBoth with ⟨hOptions, hSizes⟩
      rcases hValid.mp hOptions with
        ⟨hW, hB, hC, hWarmup, hFinite, hNonneg, hRate⟩
      rcases (checkSizes_memoryOptions hRead files hW hB hC).mp
          ⟨sizes, hSizes⟩ with ⟨hLe, hDivides, hTotal⟩
      exact ⟨⟨⟨hW, hB, hC, hLe, hDivides, hFinite, hNonneg,
        hRate, hWarmup⟩, hTimeout⟩, hTotal⟩
  · intro sizes hBoth
    rcases (hAccepted sizes).mp hBoth with ⟨hOptions, hSizes⟩
    rcases hValid.mp hOptions with ⟨hW, hB, hC, -⟩
    have hPositive :=
      positive_memoryOptions hRead files hW hB hC
    have hSized :=
      MemoryNoise.checkSizes_wellSized hPositive hSizes
    rcases checkSizes_bytes hSizes with ⟨hBuffer, hChunk⟩
    have hWorkersNat :
        ((memoryOptions config files).workers.toNat : Int) =
          config.workers := by
      rw [memoryOptions,
        toNat_toUInt32_word hRead.workers.1 hRead.workers.2]
      exact Int.toNat_of_nonneg hRead.workers.1
    have hBufferNat :
        ((memoryOptions config files).bufferSizeMib.toNat : Int) =
          config.bufferSizeMib := by
      rw [memoryOptions, toNat_ofNat_word hRead.bufferSize]
      exact Int.toNat_of_nonneg hRead.bufferSize.1
    have hChunkNat :
        ((memoryOptions config files).copyChunkKib.toNat : Int) =
          config.copyChunkKib := by
      rw [memoryOptions, toNat_ofNat_word hRead.copyChunk]
      exact Int.toNat_of_nonneg hRead.copyChunk.1
    refine ⟨by rw [hParse, hOptions]; rfl, ?_, ?_, ?_⟩
    · rw [hBuffer, ← hBufferNat]
      norm_cast
    · rw [hChunk, ← hChunkNat]
      norm_cast
    · rw [hSized.total, hBuffer, ← hBufferNat, ← hWorkersNat]
      norm_cast

/- Decimal texts of two numbers, and what they read as. -/
def sampleText (value : Double) : String :=
  if value = .finite 0 then "0.0"
  else if value = .finite 10 then "10.0"
  else "30.0"

/- Texts of three numbers, and no others. -/
def sampleStod (text : String) : Except String Double :=
  match text with
  | "0.0" => .ok (.finite 0)
  | "10.0" => .ok (.finite 10)
  | "30.0" => .ok (.finite 30)
  | _ => .error "stod"

/- Two files in a record directory. -/
def sampleFiles : NoiseFiles where
  readyPath := ⟨"r/memory_noise_ready.json", by decide⟩
  summaryPath := ⟨"r/memory_noise_summary.json", by decide⟩

/- Four workers with 64 MiB each. -/
def sampleMemory : MemoryNoiseConfig where
  executable := ⟨"realsense_memory_noise", by decide⟩
  workers := 4
  bufferSizeMib := 64
  copyChunkKib := 1024
  targetMemoryMibPerSecond := .finite 0
  warmupSeconds := .finite 10
  readyTimeoutSeconds := .finite 30
  cpuAffinity := some "1-3"

theorem memoryNoise_agree_sample :
    ∃ sizes,
      (MemoryNoise.parseOptions sampleStod 4
          (memoryArguments sampleText sampleMemory sampleFiles)
        >>= MemoryNoise.checkSizes) = .ok sizes :=
  ((memoryNoise_agree
    { workers := ⟨by decide, by decide⟩
      bufferSize := ⟨by decide, by decide⟩
      copyChunk := ⟨by decide, by decide⟩
      warmup := by decide
      target := by decide }
    sampleFiles 4).2.1.mp ⟨by decide, by decide⟩).2

end

------------------------------------------------------------
-- USB Storage Options
------------------------------------------------------------

section

open MemoryNoise (Double Stop number refuseIf refuseIf_eq_ok)

/- The options that a configuration stands for. -/
def usbOptions
    (config : UsbStorageNoiseConfig)
    (owner : Owner)
    (files : NoiseFiles) : UsbOptions where
  device := config.device.text
  readyFile := files.readyPath.text
  summaryOutput := files.summaryPath.text
  blockSize := UInt64.ofNat config.blockSizeKib.toNat * 1024
  warmupSeconds := config.warmupSeconds
  dropUid := if config.useSudo then owner.uid else 0xffffffff
  dropGid := if config.useSudo then owner.gid else 0xffffffff

/-
  The size in bytes fits a word, the text of the warm-up is
  read back, and the process has an owner.
-/
structure UsbReadable
    (floatText : Double → String)
    (stod : String → Except String Double)
    (config : UsbStorageNoiseConfig)
    (owner : Owner) : Prop where
  blockSize :
    0 ≤ config.blockSizeKib ∧ config.blockSizeKib < 2 ^ 54
  warmup :
    stod (floatText config.warmupSeconds) =
      .ok config.warmupSeconds
  uid : owner.uid ≠ 0xffffffff
  gid : owner.gid ≠ 0xffffffff

variable {floatText : Double → String}
variable {stod : String → Except String Double}
variable {config : UsbStorageNoiseConfig}
variable {owner : Owner}

/- An identifier is printed and read as itself. -/
theorem number_identifier
    {name : String}
    (identifier : UInt32) :
    ∃ word,
      number name (toString identifier.toNat) = .ok word ∧
        word.toUInt32 = identifier := by
  have hLess : identifier.toNat < 2 ^ 64 :=
    Nat.lt_trans identifier.toNat_lt (by decide)
  refine ⟨_, number_natText hLess, ?_⟩
  apply UInt32.toNat_inj.mp
  rw [UInt64.toNat_toUInt32, UInt64.toNat_ofNat_of_lt' hLess]
  exact Nat.mod_eq_of_lt identifier.toNat_lt

theorem read_usbArguments
    (hRead : UsbReadable floatText stod config owner)
    (files : NoiseFiles) :
    (usbTable stod).read
        (usbArguments floatText config owner files) {} =
      .ok (usbOptions config owner files) := by
  have hWord : Word config.blockSizeKib :=
    ⟨hRead.blockSize.1, by have := hRead.blockSize.2; omega⟩
  have hDevice :
      Stores (usbTable stod).read (.error .help)
        ["--device", config.device.text] True
        (fun options =>
          { options with device := config.device.text }) :=
    OptionTable.stores_ok rfl (fun _ => rfl)
  have hReady :
      Stores (usbTable stod).read (.error .help)
        ["--ready-file", files.readyPath.text] True
        (fun options =>
          { options with readyFile := files.readyPath.text }) :=
    OptionTable.stores_ok rfl (fun _ => rfl)
  have hSummary :
      Stores (usbTable stod).read (.error .help)
        ["--summary-output", files.summaryPath.text] True
        (fun options =>
          { options with
            summaryOutput := files.summaryPath.text }) :=
    OptionTable.stores_ok rfl (fun _ => rfl)
  have hBlock :
      Stores (usbTable stod).read (.error .help)
        ["--block-size-kib", toString config.blockSizeKib] True
        (fun options =>
          { options with
            blockSize :=
              UInt64.ofNat config.blockSizeKib.toNat *
                1024 }) :=
    OptionTable.stores_ok rfl (fun options => by
      rw [number_toString hWord]
      rfl)
  have hWarmup :
      Stores (usbTable stod).read (.error .help)
        ["--warmup-seconds", floatText config.warmupSeconds]
        True
        (fun options =>
          { options with
            warmupSeconds := config.warmupSeconds }) :=
    OptionTable.stores_ok rfl (fun options => by
      rw [hRead.warmup]
      rfl)
  have hOwner :
      Stores (usbTable stod).read (.error .help)
        (dropArguments config owner) True
        (fun options =>
          { options with
            dropUid :=
              if config.useSudo then owner.uid
              else options.dropUid
            dropGid :=
              if config.useSudo then owner.gid
              else options.dropGid }) := by
    unfold dropArguments
    cases config.useSudo with
    | false => exact Stores.nil
    | true =>
        have hUid :
            Stores (usbTable stod).read (.error .help)
              ["--drop-uid", toString owner.uid.toNat] True
              (fun options =>
                { options with dropUid := owner.uid }) :=
          OptionTable.stores_ok rfl (fun options => by
            obtain ⟨word, hWord, hSame⟩ :=
              number_identifier owner.uid
            rw [hWord, ← hSame]
            rfl)
        have hGid :
            Stores (usbTable stod).read (.error .help)
              ["--drop-gid", toString owner.gid.toNat] True
              (fun options =>
                { options with dropGid := owner.gid }) :=
          OptionTable.stores_ok rfl (fun options => by
            obtain ⟨word, hWord, hSame⟩ :=
              number_identifier owner.gid
            rw [hWord, ← hSame]
            rfl)
        exact (hUid.append hGid).congr (by simp)
          (fun _ => rfl)
  have hAll :=
    hDevice.append (hReady.append (hSummary.append (
      hBlock.append (hWarmup.append hOwner))))
  have hRun := hAll.run_eq {}
  simp only [and_self, if_true] at hRun
  exact hRun

theorem toNat_blockSize
    (hRead : UsbReadable floatText stod config owner) :
    (UInt64.ofNat config.blockSizeKib.toNat * 1024).toNat =
      config.blockSizeKib.toNat * 1024 := by
  have hBounds := hRead.blockSize
  have hWord : Word config.blockSizeKib :=
    ⟨hBounds.1, by omega⟩
  have hFactor : (1024 : UInt64).toNat = 1024 := rfl
  rw [UInt64.toNat_mul, toNat_ofNat_word hWord, hFactor]
  apply Nat.mod_eq_of_lt
  omega

theorem validateUsb_usbOptions
    (hRead : UsbReadable floatText stod config owner)
    (files : NoiseFiles) :
    validateUsb (usbOptions config owner files) = .ok () ↔
      (4 ≤ config.blockSizeKib ∧
        config.blockSizeKib ≤ 65536) ∧
        config.warmupSeconds.le 0 = false := by
  have hNonneg := hRead.blockSize.1
  have hLow :
      ¬UInt64.ofNat config.blockSizeKib.toNat * 1024 < 4096 ↔
        4 ≤ config.blockSizeKib := by
    have hBound : (4096 : UInt64).toNat = 4096 := rfl
    rw [UInt64.lt_iff_toNat_lt, toNat_blockSize hRead, hBound]
    omega
  have hHigh :
      ¬(64 * 1024 * 1024 <
          UInt64.ofNat config.blockSizeKib.toNat * 1024) ↔
        config.blockSizeKib ≤ 65536 := by
    have hBound :
        (64 * 1024 * 1024 : UInt64).toNat = 67108864 := rfl
    rw [UInt64.lt_iff_toNat_lt, toNat_blockSize hRead, hBound]
    omega
  have hPair :
      (decide ((usbOptions config owner files).dropUid =
            0xffffffff) !=
          decide ((usbOptions config owner files).dropGid =
            0xffffffff)) = false := by
    have hUid := hRead.uid
    have hGid := hRead.gid
    cases hSudo : config.useSudo with
    | false => simp [usbOptions, hSudo]
    | true => simp [usbOptions, hSudo, hUid, hGid]
  unfold validateUsb
  simp only [refuseIf_bind_eq_ok, refuseIf_eq_ok, hPair,
    Bool.or_eq_false_iff, decide_eq_false_iff_not, and_true]
  simp only [usbOptions, hLow, hHigh]
  constructor
  · rintro ⟨-, -, -, hBoth, hWarmup⟩
    exact ⟨hBoth, hWarmup⟩
  · rintro ⟨hBoth, hWarmup⟩
    exact ⟨config.device.nonempty, files.readyPath.nonempty,
      files.summaryPath.nonempty, hBoth, hWarmup⟩

theorem checkUsb_iff :
    checkUsb config = .ok () ↔
      config.warmupSeconds.le 0 = false ∧
        4 ≤ config.blockSizeKib ∧
        leDouble config.readyTimeoutSeconds
          config.warmupSeconds = false := by
  unfold checkUsb
  simp only [exitIf_bind_eq_ok, exitIf_eq_ok,
    decide_eq_false_iff_not, Int.not_lt]

/-
  The command ends with the program and its arguments.  The
  program accepts what the campaign lets pass, up to the
  largest block of 64 MiB, which only the program checks;
  and whatever it accepts, it reads as the configuration.
-/
theorem usbNoise_agree
    (hRead : UsbReadable floatText stod config owner)
    (files : NoiseFiles) :
    config.executable.text ::
          usbArguments floatText config owner files <:+
        usbCommand floatText config owner files ∧
      (checkUsb config = .ok () ∧ config.blockSizeKib ≤ 65536 ↔
        leDouble config.readyTimeoutSeconds
            config.warmupSeconds = false ∧
          ∃ options,
            parseUsb stod
                (usbArguments floatText config owner files) =
              .ok options) ∧
        ∀ options,
          parseUsb stod
              (usbArguments floatText config owner files) =
            .ok options →
          options = usbOptions config owner files ∧
            (options.blockSize.toNat : Int) =
              config.blockSizeKib * 1024 := by
  have hAccepted (options : UsbOptions) :
      parseUsb stod (usbArguments floatText config owner files) =
          .ok options ↔
        ((4 ≤ config.blockSizeKib ∧
            config.blockSizeKib ≤ 65536) ∧
          config.warmupSeconds.le 0 = false) ∧
          usbOptions config owner files = options := by
    have hParse :
        parseUsb stod
            (usbArguments floatText config owner files) =
          (validateUsb (usbOptions config owner files) >>=
            fun _ => .ok (usbOptions config owner files)) := by
      unfold parseUsb
      rw [read_usbArguments hRead]
      rfl
    rw [hParse, bind_eq_ok, ← validateUsb_usbOptions hRead files]
    constructor
    · rintro ⟨_, hValid, hSame⟩
      exact ⟨hValid, Except.ok.inj hSame⟩
    · rintro ⟨hValid, hSame⟩
      exact ⟨(), hValid, congrArg Except.ok hSame⟩
  refine ⟨?_, ?_, ?_⟩
  · exact (List.suffix_append _ _).trans (List.suffix_append _ _)
  · rw [checkUsb_iff]
    constructor
    · rintro ⟨⟨hWarmup, hLow, hTimeout⟩, hHigh⟩
      exact ⟨hTimeout, _,
        (hAccepted _).mpr ⟨⟨⟨hLow, hHigh⟩, hWarmup⟩, rfl⟩⟩
    · rintro ⟨hTimeout, options, hOptions⟩
      rcases (hAccepted options).mp hOptions with
        ⟨⟨⟨hLow, hHigh⟩, hWarmup⟩, -⟩
      exact ⟨⟨hWarmup, hLow, hTimeout⟩, hHigh⟩
  · intro options hOptions
    have hSame := ((hAccepted options).mp hOptions).2
    subst hSame
    refine ⟨rfl, ?_⟩
    have hNonneg := hRead.blockSize.1
    change
      ((UInt64.ofNat config.blockSizeKib.toNat * 1024).toNat :
        Int) = _
    rw [toNat_blockSize hRead]
    omega

/- Blocks of a MiB, read with the rights of the owner. -/
def sampleUsb : UsbStorageNoiseConfig where
  executable := ⟨"realsense_usb_storage_noise", by decide⟩
  device := ⟨"/dev/sda", by decide⟩
  warmupSeconds := .finite 10
  blockSizeKib := 1024
  readyTimeoutSeconds := .finite 30
  useSudo := true

theorem usbNoise_agree_sample :
    ∃ options,
      parseUsb sampleStod
          (usbArguments sampleText sampleUsb ⟨1000, 1000⟩
            sampleFiles) =
        .ok options :=
  ((usbNoise_agree
    { blockSize := ⟨by decide, by decide⟩
      warmup := by decide
      uid := by decide
      gid := by decide }
    sampleFiles).2.1.mp ⟨by decide, by decide⟩).2

end

------------------------------------------------------------
-- Processor and Graphics Options
------------------------------------------------------------

open MemoryNoise (Double Stop number refuseIf refuseIf_eq_ok)

/- The options that a configuration stands for. -/
def cpuOptions
    (config : CpuNoiseConfig)
    (files : NoiseFiles) : CpuOptions where
  readyFile := files.readyPath.text
  summaryOutput := files.summaryPath.text
  workers := (UInt64.ofNat config.workers.toNat).toUInt32
  warmupSeconds := config.warmupSeconds

/-
  The campaign's checks and the program's agree on every
  number of workers that the program can hold.
-/
theorem cpuNoise_agree
    {floatText : Double → String}
    {stod : String → Except String Double}
    {config : CpuNoiseConfig}
    (hWorkers : 0 ≤ config.workers ∧ config.workers < 2 ^ 32)
    (hStod :
      stod (floatText config.warmupSeconds) =
        .ok config.warmupSeconds)
    (files : NoiseFiles)
    (hardwareThreads : UInt32) :
    config.executable.text ::
          cpuArguments floatText config files <:+
        cpuCommand floatText config files ∧
      (checkCpu config = .ok () ↔
        leDouble config.readyTimeoutSeconds
            config.warmupSeconds = false ∧
          parseCpu stod hardwareThreads
              (cpuArguments floatText config files) =
            .ok (cpuOptions config files)) := by
  have hWord : Word config.workers :=
    ⟨hWorkers.1, by have := hWorkers.2; omega⟩
  have hReady :
      Stores (cpuTable stod).read (.error .help)
        ["--ready-file", files.readyPath.text] True
        (fun options =>
          { options with readyFile := files.readyPath.text }) :=
    OptionTable.stores_ok rfl (fun _ => rfl)
  have hSummary :
      Stores (cpuTable stod).read (.error .help)
        ["--summary-output", files.summaryPath.text] True
        (fun options =>
          { options with
            summaryOutput := files.summaryPath.text }) :=
    OptionTable.stores_ok rfl (fun _ => rfl)
  have hCount :
      Stores (cpuTable stod).read (.error .help)
        ["--workers", toString config.workers] True
        (fun options =>
          { options with
            workers :=
              (UInt64.ofNat config.workers.toNat).toUInt32 }) :=
    OptionTable.stores_ok rfl (fun options => by
      rw [number_toString hWord]
      rfl)
  have hWarmup :
      Stores (cpuTable stod).read (.error .help)
        ["--warmup-seconds", floatText config.warmupSeconds]
        True
        (fun options =>
          { options with
            warmupSeconds := config.warmupSeconds }) :=
    OptionTable.stores_ok rfl (fun options => by
      rw [hStod]
      rfl)
  have hAll :=
    hReady.append (hSummary.append (hCount.append hWarmup))
  have hRead (options : CpuOptions) :
      (cpuTable stod).read
          (cpuArguments floatText config files) options =
        .ok (cpuOptions config files) := by
    have hRun := hAll.run_eq options
    simp only [and_self, if_true] at hRun
    exact hRun
  have hPositive :
      ¬(UInt64.ofNat config.workers.toNat).toUInt32 < 1 ↔
        1 ≤ config.workers := by
    rw [UInt32.lt_iff_toNat_lt,
      toNat_toUInt32_word hWorkers.1 hWorkers.2]
    have hNonneg := hWorkers.1
    have hOne : (1 : UInt32).toNat = 1 := rfl
    omega
  have hParse :
      parseCpu stod hardwareThreads
          (cpuArguments floatText config files) =
        (validateCpu (cpuOptions config files) >>=
          fun _ => .ok (cpuOptions config files)) := by
    unfold parseCpu
    rw [hRead]
    rfl
  refine ⟨List.suffix_append _ _, ?_⟩
  rw [hParse, bind_eq_ok]
  unfold checkCpu validateCpu
  simp only [exitIf_bind_eq_ok, exitIf_eq_ok,
    refuseIf_bind_eq_ok, refuseIf_eq_ok,
    decide_eq_false_iff_not, Int.not_lt]
  simp only [cpuOptions, hPositive]
  constructor
  · rintro ⟨hOne, hSeconds, hTimeout⟩
    exact ⟨hTimeout, (), ⟨files.readyPath.nonempty,
      files.summaryPath.nonempty, hOne, hSeconds⟩, trivial⟩
  · rintro ⟨hTimeout, _, ⟨-, -, hOne, hSeconds⟩, -⟩
    exact ⟨hOne, hSeconds, hTimeout⟩

/- The options that a configuration stands for. -/
def gpuOptions
    (config : GpuNoiseConfig)
    (files : NoiseFiles) : GpuOptions where
  modelParam := config.modelParam.text
  readyFile := files.readyPath.text
  summaryOutput := files.summaryPath.text
  gpuDevice := config.gpuDevice
  warmupIterations := config.warmupIterations

/-
  The campaign does not look at the index of the device: the
  program accepts exactly the non-negative ones.
-/
theorem gpuNoise_agree
    (config : GpuNoiseConfig)
    (files : NoiseFiles) :
    config.executable.text :: gpuArguments config files <:+
        gpuCommand config files ∧
      ((checkGpu config = .ok () ∧ 0 ≤ config.gpuDevice ∧
          config.gpuDevice < 2 ^ 31 ∧
          config.warmupIterations < 2 ^ 31) ↔
        config.readyTimeoutSeconds.le 0 = false ∧
          parseGpu (gpuArguments config files) =
            .ok (gpuOptions config files)) := by
  have hModel :
      Stores gpuTable.read (.error (.error "stoi"))
        ["--model-param", config.modelParam.text] True
        (fun options =>
          { options with modelParam := config.modelParam.text }) :=
    OptionTable.stores_ok rfl (fun _ => rfl)
  have hReady :
      Stores gpuTable.read (.error (.error "stoi"))
        ["--ready-file", files.readyPath.text] True
        (fun options =>
          { options with readyFile := files.readyPath.text }) :=
    OptionTable.stores_ok rfl (fun _ => rfl)
  have hSummary :
      Stores gpuTable.read (.error (.error "stoi"))
        ["--summary-output", files.summaryPath.text] True
        (fun options =>
          { options with
            summaryOutput := files.summaryPath.text }) :=
    OptionTable.stores_ok rfl (fun _ => rfl)
  have hDevice :
      Stores gpuTable.read (.error (.error "stoi"))
        ["--gpu-device", toString config.gpuDevice]
        (CInt config.gpuDevice)
        (fun options =>
          { options with gpuDevice := config.gpuDevice }) := by
    refine OptionTable.stores_value rfl (fun hFits options => ?_)
      (fun hNot options => ?_)
    · unfold intValue
      rw [stoi_toString, if_pos hFits]
      rfl
    · unfold intValue
      rw [stoi_toString, if_neg hNot]
      rfl
  have hIterations :
      Stores gpuTable.read (.error (.error "stoi"))
        ["--warmup-iterations", toString config.warmupIterations]
        (CInt config.warmupIterations)
        (fun options =>
          { options with
            warmupIterations := config.warmupIterations }) := by
    refine OptionTable.stores_value rfl (fun hFits options => ?_)
      (fun hNot options => ?_)
    · unfold intValue
      rw [stoi_toString, if_pos hFits]
      rfl
    · unfold intValue
      rw [stoi_toString, if_neg hNot]
      rfl
  have hThreads :
      Stores gpuTable.read (.error (.error "stoi"))
        ["--num-threads", "1"] True
        (fun options => { options with numThreads := 1 }) :=
    OptionTable.stores_ok rfl (fun _ => rfl)
  have hAll :=
    hModel.append (hReady.append (hSummary.append (
      hDevice.append (hIterations.append hThreads))))
  have hRead :
      gpuTable.read (gpuArguments config files) {} =
        if CInt config.gpuDevice ∧
            CInt config.warmupIterations then
          .ok (gpuOptions config files)
        else
          .error (.error "stoi") := by
    have hRun := hAll.run_eq {}
    simp only [true_and, and_true] at hRun
    exact hRun
  have hCheck :
      checkGpu config = .ok () ↔
        1 ≤ config.warmupIterations ∧
          config.readyTimeoutSeconds.le 0 = false := by
    unfold checkGpu
    simp only [exitIf_bind_eq_ok, exitIf_eq_ok,
      decide_eq_false_iff_not, Int.not_lt]
  have hValid :
      validateGpu (gpuOptions config files) = .ok () ↔
        0 ≤ config.gpuDevice ∧ 1 ≤ config.warmupIterations := by
    unfold validateGpu
    simp only [refuseIf_bind_eq_ok, refuseIf_eq_ok,
      Bool.or_eq_false_iff, decide_eq_false_iff_not, Int.not_lt]
    constructor
    · rintro ⟨-, -, ⟨hZero, hOne⟩, -⟩
      exact ⟨hZero, hOne⟩
    · rintro ⟨hZero, hOne⟩
      exact ⟨files.readyPath.nonempty,
        files.summaryPath.nonempty, ⟨hZero, hOne⟩, Int.le_refl 1⟩
  refine ⟨List.suffix_append _ _, ?_⟩
  rw [hCheck]
  unfold parseGpu
  rw [hRead]
  by_cases hFits :
      CInt config.gpuDevice ∧ CInt config.warmupIterations
  · rw [if_pos hFits]
    change
      _ ↔ _ ∧ (validateGpu (gpuOptions config files) >>=
        fun _ => .ok (gpuOptions config files)) = _
    rw [bind_eq_ok]
    constructor
    · rintro ⟨⟨hOne, hTimeout⟩, hZero, -, -⟩
      exact ⟨hTimeout, (), hValid.mpr ⟨hZero, hOne⟩, rfl⟩
    · rintro ⟨hTimeout, _, hBoth, -⟩
      rcases hValid.mp hBoth with ⟨hZero, hOne⟩
      exact ⟨⟨hOne, hTimeout⟩, hZero, hFits.1.2, hFits.2.2⟩
  · rw [if_neg hFits]
    constructor
    · rintro ⟨⟨hOne, -⟩, hZero, hDeviceLess, hLess⟩
      have hDeviceFits : CInt config.gpuDevice :=
        ⟨by omega, hDeviceLess⟩
      have hIterationsFit : CInt config.warmupIterations :=
        ⟨by omega, hLess⟩
      exact absurd ⟨hDeviceFits, hIterationsFit⟩ hFits
    · rintro ⟨-, hParse⟩
      cases hParse

end Noise

end RsCamera
