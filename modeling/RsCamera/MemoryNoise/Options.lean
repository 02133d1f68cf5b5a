import Mathlib.Algebra.Order.Ring.Rat
import RsCamera.Lib.Containers
import RsCamera.Lib.Numeral

/-
  The command line of the memory noise: the option loop and
  the checks of `parse_options`, and the sizes that `main`
  computes from the options (`realsense_memory_noise.cpp`).

  Sizes are 64-bit words.  Every product of them is checked
  before it is taken.

  Key definitions include:
    * `Options`, `parseOptions`
    * `Sizes`, `checkSizes`
    * `WellSized`

  Key theorems include:
    * `parseOptions_positive`
    * `checkSizes_wellSized`
-/

------------------------------------------------------------
-- Options
------------------------------------------------------------

namespace RsCamera

namespace MemoryNoise

/- A value of type `double`. -/
inductive Double
| nan
| infinity (negative : Bool)
| finite (value : Rat)
deriving Repr, DecidableEq

/- `std::isfinite`. -/
def Double.isFinite : Double → Bool
| .finite _ => true
| _ => false

/- Every comparison with a NaN is false. -/
def Double.lt : Double → Rat → Bool
| .nan, _ => false
| .infinity negative, _ => negative
| .finite value, bound => value < bound

/- The comparison with a number below. -/
def Double.gt : Double → Rat → Bool
| .nan, _ => false
| .infinity negative, _ => !negative
| .finite value, bound => bound < value

/- The comparison with a number above. -/
def Double.le : Double → Rat → Bool
| .nan, _ => false
| .infinity negative, _ => negative
| .finite value, bound => value ≤ bound

/- The options, with their defaults. -/
structure Options where
  readyFile : String := ""
  summaryOutput : String := ""
  workers : UInt32 := 1
  bufferSizeMib : UInt64 := 64
  copyChunkKib : UInt64 := 1024
  warmupSeconds : Double := .finite 10
  targetMemoryMibPerSecond : Double := .finite 0
deriving Repr, DecidableEq

/- Why there are no options: the help text, or an exception. -/
inductive Stop
| help
| error (message : String)
deriving Repr, DecidableEq

/- A number of `std::stoull`, or of `std::stoul` under its name. -/
def number
    (name : String)
    (value : String) : Except Stop UInt64 :=
  match stoull value with
  | .ok parsed => .ok (UInt64.ofNat parsed.1)
  | .error _ => .error (.error name)

/- What an option does with its value. -/
abbrev Setter :=
  String → Options → Except Stop Options

/- `std::stod` is given as a function of the text. -/
def setter
    (stod : String → Except String Double)
    (argument : String) : Option Setter :=
  match argument with
  | "--ready-file" =>
      some (fun value options =>
        .ok { options with readyFile := value })
  | "--summary-output" =>
      some (fun value options =>
        .ok { options with summaryOutput := value })
  | "--workers" =>
      some (fun value options => do
        let workers ← number "stoul" value
        .ok { options with workers := workers.toUInt32 })
  | "--buffer-size-mib" =>
      some (fun value options => do
        let mib ← number "stoull" value
        .ok { options with bufferSizeMib := mib })
  | "--copy-chunk-kib" =>
      some (fun value options => do
        let kib ← number "stoull" value
        .ok { options with copyChunkKib := kib })
  | "--warmup-seconds" =>
      some (fun value options => do
        let seconds ← (stod value).mapError Stop.error
        .ok { options with warmupSeconds := seconds })
  | "--target-memory-mib-per-second" =>
      some (fun value options => do
        let rate ← (stod value).mapError Stop.error
        .ok { options with targetMemoryMibPerSecond := rate })
  | _ => none

/- The loop of `parse_options`. -/
def optionLoop
    (stod : String → Except String Double) :
    List String → Options → Except Stop Options
| [], options => .ok options
| argument :: rest, options =>
    match setter stod argument with
    | some set =>
        match rest with
        | [] => .error (.error ("missing value after " ++ argument))
        | value :: rest => do
            let next ← set value options
            optionLoop stod rest next
    | none =>
        if argument = "--help" ∨ argument = "-h" then
          .error .help
        else
          .error (.error ("unknown argument: " ++ argument))

/- A check that throws. -/
def refuseIf
    (bad : Bool)
    (message : String) : Except Stop Unit :=
  if bad then .error (.error message) else .ok ()

/- The checks behind the loop. -/
def validateOptions (options : Options) : Except Stop Unit := do
  refuseIf (options.readyFile = "") "--ready-file is required"
  refuseIf (options.summaryOutput = "")
    "--summary-output is required"
  refuseIf (options.workers < 1) "worker count must be positive"
  refuseIf (options.bufferSizeMib < 1)
    "buffer size must be positive"
  refuseIf (options.copyChunkKib < 1)
    "copy chunk size must be positive"
  refuseIf (options.warmupSeconds.le 0)
    "warm-up duration must be positive"
  refuseIf
    (!options.targetMemoryMibPerSecond.isFinite ||
      options.targetMemoryMibPerSecond.lt 0)
    "target memory rate must be finite and non-negative"
  refuseIf
    (options.targetMemoryMibPerSecond.gt 0 &&
      options.targetMemoryMibPerSecond.lt 1)
    "target memory rate must be zero or at least 1 MiB/s"

/- `parse_options`. -/
def parseOptions
    (stod : String → Except String Double)
    (hardwareThreads : UInt32)
    (arguments : List String) : Except Stop Options := do
  let options ←
    optionLoop stod arguments
      { workers :=
          if hardwareThreads = 0 then 1 else hardwareThreads }
  validateOptions options
  .ok options

------------------------------------------------------------
-- Sizes
------------------------------------------------------------

/- `bytes_per_mib`. -/
def bytesPerMib : UInt64 :=
  1024 * 1024

/- `bytes_per_kib`. -/
def bytesPerKib : UInt64 :=
  1024

/- The largest 64-bit word. -/
def maxWord : UInt64 :=
  UInt64.ofNat (2 ^ 64 - 1)

/- The sizes that `main` works with. -/
structure Sizes where
  bufferSizeBytes : UInt64
  copyChunkBytes : UInt64
  totalAllocatedBytes : UInt64
  estimatedMemoryBytesPerQuantum : UInt64
deriving Repr, DecidableEq

/- The checks of `main`, in words of 64 bits. -/
def checkSizes (options : Options) : Except Stop Sizes := do
  refuseIf (maxWord / bytesPerMib < options.bufferSizeMib)
    "buffer size overflows byte count"
  let bufferSizeBytes := options.bufferSizeMib * bytesPerMib
  refuseIf (maxWord / bytesPerKib < options.copyChunkKib)
    "copy chunk size overflows byte count"
  let copyChunkBytes := options.copyChunkKib * bytesPerKib
  refuseIf (bufferSizeBytes < copyChunkBytes)
    "copy chunk size must not exceed buffer size"
  refuseIf (bufferSizeBytes % copyChunkBytes ≠ 0)
    "copy chunk size must divide buffer size exactly"
  refuseIf
    (maxWord / 2 < options.workers.toUInt64 ||
      maxWord / bufferSizeBytes < options.workers.toUInt64 * 2)
    "total allocation size overflows byte count"
  .ok
    { bufferSizeBytes := bufferSizeBytes
      copyChunkBytes := copyChunkBytes
      totalAllocatedBytes :=
        options.workers.toUInt64 * 2 * bufferSizeBytes
      estimatedMemoryBytesPerQuantum := 2 * copyChunkBytes }

------------------------------------------------------------
-- Accepted Options
------------------------------------------------------------

theorem refuseIf_eq_ok
    {bad : Bool}
    {message : String}
    {result : Unit} :
    refuseIf bad message = .ok result ↔ bad = false := by
  cases bad with
  | false => simp [refuseIf]
  | true => simp [refuseIf]

/- The counts and sizes of accepted options. -/
structure Positive (options : Options) : Prop where
  workers : 0 < options.workers.toNat
  bufferSize : 0 < options.bufferSizeMib.toNat
  copyChunk : 0 < options.copyChunkKib.toNat

theorem parseOptions_positive
    {stod : String → Except String Double}
    {hardwareThreads : UInt32}
    {arguments : List String}
    {options : Options}
    (hParse :
      parseOptions stod hardwareThreads arguments = .ok options) :
    Positive options := by
  rcases bind_eq_ok.mp hParse with ⟨parsed, -, hRest⟩
  rcases bind_eq_ok.mp hRest with ⟨_, hValid, hSame⟩
  cases hSame
  rcases bind_eq_ok.mp hValid with ⟨_, -, hValid⟩
  rcases bind_eq_ok.mp hValid with ⟨_, -, hValid⟩
  rcases bind_eq_ok.mp hValid with ⟨_, hWorkers, hValid⟩
  rcases bind_eq_ok.mp hValid with ⟨_, hBuffer, hValid⟩
  rcases bind_eq_ok.mp hValid with ⟨_, hChunk, -⟩
  rw [refuseIf_eq_ok, decide_eq_false_iff_not] at hWorkers
  rw [refuseIf_eq_ok, decide_eq_false_iff_not] at hBuffer
  rw [refuseIf_eq_ok, decide_eq_false_iff_not] at hChunk
  rw [UInt32.lt_iff_toNat_lt] at hWorkers
  rw [UInt64.lt_iff_toNat_lt] at hBuffer hChunk
  exact
    { workers := Nat.pos_of_ne_zero (fun hZero => hWorkers (by
        rw [hZero]
        decide))
      bufferSize := Nat.pos_of_ne_zero (fun hZero => hBuffer (by
        rw [hZero]
        decide))
      copyChunk := Nat.pos_of_ne_zero (fun hZero => hChunk (by
        rw [hZero]
        decide)) }

/- A product that is checked does not wrap around. -/
theorem toNat_mul_of_le
    {a b : UInt64}
    (hB : 0 < b.toNat)
    (hCheck : ¬maxWord / b < a) :
    (a * b).toNat = a.toNat * b.toNat := by
  rw [UInt64.lt_iff_toNat_lt, UInt64.toNat_div, Nat.not_lt,
    Nat.le_div_iff_mul_le hB] at hCheck
  rw [UInt64.toNat_mul]
  apply Nat.mod_eq_of_lt
  have hMax : maxWord.toNat = 2 ^ 64 - 1 := by
    decide
  omega

/- The sizes, as numbers. -/
structure WellSized (workers : Nat) (sizes : Sizes) : Prop where
  chunk_pos : 0 < sizes.copyChunkBytes.toNat
  chunk_le :
    sizes.copyChunkBytes.toNat ≤ sizes.bufferSizeBytes.toNat
  divides :
    sizes.copyChunkBytes.toNat ∣ sizes.bufferSizeBytes.toNat
  total :
    sizes.totalAllocatedBytes.toNat =
      2 * workers * sizes.bufferSizeBytes.toNat
  quantum :
    sizes.estimatedMemoryBytesPerQuantum.toNat =
      2 * sizes.copyChunkBytes.toNat

theorem checkSizes_wellSized
    {options : Options}
    {sizes : Sizes}
    (hPositive : Positive options)
    (hCheck : checkSizes options = .ok sizes) :
    WellSized options.workers.toNat sizes := by
  rcases bind_eq_ok.mp hCheck with ⟨_, hMib, hCheck⟩
  rcases bind_eq_ok.mp hCheck with ⟨_, hKib, hCheck⟩
  rcases bind_eq_ok.mp hCheck with ⟨_, hLess, hCheck⟩
  rcases bind_eq_ok.mp hCheck with ⟨_, hDivides, hCheck⟩
  rcases bind_eq_ok.mp hCheck with ⟨_, hTotal, hSame⟩
  cases hSame
  rw [refuseIf_eq_ok, decide_eq_false_iff_not] at hMib
  rw [refuseIf_eq_ok, decide_eq_false_iff_not] at hKib
  rw [refuseIf_eq_ok, decide_eq_false_iff_not,
    UInt64.lt_iff_toNat_lt, Nat.not_lt] at hLess
  rw [refuseIf_eq_ok, decide_eq_false_iff_not, not_not,
    ← UInt64.toNat_inj, UInt64.toNat_mod] at hDivides
  rw [refuseIf_eq_ok, Bool.or_eq_false_iff,
    decide_eq_false_iff_not, decide_eq_false_iff_not] at hTotal
  have hBuffer :
      (options.bufferSizeMib * bytesPerMib).toNat =
        options.bufferSizeMib.toNat * bytesPerMib.toNat :=
    toNat_mul_of_le (by decide) hMib
  have hChunk :
      (options.copyChunkKib * bytesPerKib).toNat =
        options.copyChunkKib.toNat * bytesPerKib.toNat :=
    toNat_mul_of_le (by decide) hKib
  have hBufferPos :
      0 < (options.bufferSizeMib * bytesPerMib).toNat := by
    rw [hBuffer]
    exact Nat.mul_pos hPositive.bufferSize (by decide)
  have hDouble :
      (options.workers.toUInt64 * 2).toNat =
        options.workers.toNat * 2 := by
    rw [toNat_mul_of_le (by decide) hTotal.1,
      UInt32.toNat_toUInt64]
    rfl
  have hProduct := toNat_mul_of_le hBufferPos hTotal.2
  rw [hDouble] at hProduct
  exact
    { chunk_pos := by
        rw [hChunk]
        exact Nat.mul_pos hPositive.copyChunk (by decide)
      chunk_le := hLess
      divides := Nat.dvd_of_mod_eq_zero hDivides
      total := by
        change
          (options.workers.toUInt64 * 2 *
            (options.bufferSizeMib * bytesPerMib)).toNat = _
        rw [hProduct, Nat.mul_comm options.workers.toNat 2]
      quantum := by
        -- Twice the chunk is at most the whole allocation.
        have hWorkers := hPositive.workers
        have hBound :
            (options.workers.toUInt64 * 2 *
              (options.bufferSizeMib * bytesPerMib)).toNat <
              2 ^ 64 :=
          UInt64.toNat_lt _
        rw [hProduct] at hBound
        have hTwice :
            2 * (options.copyChunkKib * bytesPerKib).toNat <
              2 ^ 64 := by
          refine Nat.lt_of_le_of_lt ?_ hBound
          exact Nat.mul_le_mul (by omega) hLess
        rw [UInt64.toNat_mul]
        exact Nat.mod_eq_of_lt hTwice }

end MemoryNoise

end RsCamera
