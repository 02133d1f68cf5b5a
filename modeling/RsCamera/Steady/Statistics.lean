import RsCamera.Lib.Quantile
import RsCamera.StorageNoise.Reads
import RsCamera.Sync.IrqPressure
import RsCamera.V4l2.Diagnostic

/-
  The statistics of a sample: `summarize`
  (`benchmark_utils.cpp`), and six of the functions of the
  repository that interpolate percentiles: the closure of
  `summarize`, those of the two workloads
  (`realsense_usb_storage_noise.cpp`,
  `realsense_gpu_noise.cpp`), of the two comparisons of the
  synchronization and V4L2 tools, and of the startup model
  (`build_startup_model.py`).  The source computes in
  `double`; the arithmetic is exact here.

  Key definitions include:
    * `StorageNoise.percentile`, `GpuNoise.percentile`
    * `Startup.percentile`
    * `Steady.percentile`, `Steady.summarize`

  Key theorems include:
    * `percentiles_agree`
    * `summarize_ordered`
-/

------------------------------------------------------------
-- The Workloads
------------------------------------------------------------

namespace RsCamera

namespace StorageNoise

def percentile
    (values : List ℚ)
    (fraction : ℚ) : ℚ :=
  if values = [] then
    0
  else
    let sorted := values.insertionSort (· ≤ ·)
    let position := fraction * ((sorted.length - 1 : Nat) : ℚ)
    let lower := ⌊position⌋.toNat
    let upper := min (lower + 1) (sorted.length - 1)
    let weight := position - lower
    sorted.getD lower 0 * (1 - weight) +
      sorted.getD upper 0 * weight

def mean (values : List ℚ) : ℚ :=
  if values = [] then
    0
  else
    values.sum / values.length

end StorageNoise

namespace GpuNoise

/- The same text stands in both programs. -/
def percentile
    (values : List ℚ)
    (fraction : ℚ) : ℚ :=
  StorageNoise.percentile values fraction

end GpuNoise

------------------------------------------------------------
-- The Startup Model
------------------------------------------------------------

namespace Startup

/- A value that is absent, or not finite, is `none`. -/
def percentile
    (values : List (Option ℚ))
    (fraction : ℚ) : Option ℚ :=
  let ordered :=
    (values.filterMap id).insertionSort (· ≤ ·)
  if ordered = [] then
    none
  else if ordered.length = 1 then
    some (ordered.getD 0 0)
  else
    let position := ((ordered.length - 1 : Nat) : ℚ) * fraction
    let lower := ⌊position⌋
    let upper := ⌈position⌉
    if lower = upper then
      some (ordered.getD lower.toNat 0)
    else
      let weight := position - lower
      some
        (ordered.getD lower.toNat 0 * (1 - weight) +
          ordered.getD upper.toNat 0 * weight)

end Startup

------------------------------------------------------------
-- The Summary
------------------------------------------------------------

namespace Steady

/- The closure of `summarize`; the values are sorted. -/
def percentile
    (values : List ℚ)
    (p : ℚ) : ℚ :=
  if values.length = 1 then
    values.getD 0 0
  else
    let position := p * ((values.length - 1 : Nat) : ℚ)
    let low := ⌊position⌋.toNat
    let high := ⌈position⌉.toNat
    values.getD low 0 +
      (values.getD high 0 - values.getD low 0) *
        (position - low)

/-
  `distribution_stats`, with exact numbers; the variance
  stands for `stddev`, which is its root.
-/
structure DistributionStats where
  n : Nat
  min : ℚ
  max : ℚ
  mean : ℚ
  variance : ℚ
  p50 : ℚ
  p90 : ℚ
  p99 : ℚ
  p999 : ℚ
deriving DecidableEq, Repr

/-
  The source rounds after each operation, so what is proved of
  the mean and the percentiles holds of the exact numbers; a
  rounded mean can be above a rounded maximum.
-/
def summarize (values : List ℚ) : DistributionStats :=
  if values = [] then
    ⟨0, 0, 0, 0, 0, 0, 0, 0, 0⟩
  else
    let values := values.insertionSort (· ≤ ·)
    let mean := values.sum / values.length
    let squared :=
      (values.map (fun value => (value - mean) ^ 2)).sum
    { n := values.length
      min := values.getD 0 0
      max := values.getD (values.length - 1) 0
      mean := mean
      variance := squared / values.length
      p50 := percentile values (1 / 2)
      p90 := percentile values (9 / 10)
      p99 := percentile values (99 / 100)
      p999 := percentile values (999 / 1000) }

end Steady

end RsCamera

------------------------------------------------------------
-- One Quantile
------------------------------------------------------------

namespace RsCamera

section Agreement

variable {values : List ℚ}
variable {fraction : ℚ}

/- The place of a fraction is in the sample. -/
structure Placed
    (values : List ℚ)
    (fraction : ℚ) : Prop where
  nonneg : 0 ≤ fraction * ((values.length - 1 : Nat) : ℚ)
  inside :
    fraction * ((values.length - 1 : Nat) : ℚ) ≤
      ((values.length - 1 : Nat) : ℚ)

theorem placed
    (values : List ℚ)
    (hNonneg : 0 ≤ fraction)
    (hLe : fraction ≤ 1) :
    Placed values fraction where
  nonneg := mul_nonneg hNonneg (Nat.cast_nonneg _)
  inside := mul_le_of_le_one_left (Nat.cast_nonneg _) hLe

theorem Placed.floor_le
    (hPlaced : Placed values fraction) :
    ⌊fraction * ((values.length - 1 : Nat) : ℚ)⌋₊ ≤
      values.length - 1 :=
  Nat.floor_le_of_le hPlaced.inside

theorem Placed.ceil_le
    (hPlaced : Placed values fraction) :
    ⌈fraction * ((values.length - 1 : Nat) : ℚ)⌉₊ ≤
      values.length - 1 :=
  Nat.ceil_le.mpr hPlaced.inside

/- The sorted value at a place of the sample. -/
theorem getD_insertionSort
    {place : Nat}
    (hPlace : place ≤ values.length - 1) :
    (values.insertionSort (· ≤ ·)).getD place 0 =
      orderStatistic values place := by
  unfold orderStatistic
  rw [Nat.min_eq_left hPlace]

theorem quantile_floor
    (values : List ℚ)
    (fraction : ℚ) :
    let position := fraction * ((values.length - 1 : Nat) : ℚ)
    quantile values fraction =
      orderStatistic values ⌊position⌋.toNat +
        (orderStatistic values (⌊position⌋.toNat + 1) -
          orderStatistic values ⌊position⌋.toNat) *
        (position - (⌊position⌋.toNat : ℚ)) := by
  intro position
  rw [Int.floor_toNat]
  rfl

theorem quantile_ceil
    (hPlaced : Placed values fraction) :
    let position := fraction * ((values.length - 1 : Nat) : ℚ)
    quantile values fraction =
      orderStatistic values ⌊position⌋.toNat +
        (orderStatistic values ⌈position⌉.toNat -
          orderStatistic values ⌊position⌋.toNat) *
        (position - (⌊position⌋.toNat : ℚ)) := by
  intro position
  rw [Int.floor_toNat, Int.ceil_toNat]
  exact interpolate_ceil _ hPlaced.nonneg

/- Of one value, every quantile is that value. -/
theorem quantile_singleton
    (hLength : values.length = 1) :
    quantile values fraction =
      (values.insertionSort (· ≤ ·)).getD 0 0 := by
  have hZero : ((values.length - 1 : Nat) : ℚ) = 0 := by
    rw [hLength]
    rfl
  have hPlace := interpolate_natCast (orderStatistic values) 0
  rw [Nat.cast_zero] at hPlace
  unfold quantile
  rw [hZero, mul_zero, hPlace,
    getD_insertionSort (Nat.zero_le _)]

end Agreement

end RsCamera

------------------------------------------------------------
-- The Six Percentiles
------------------------------------------------------------

namespace RsCamera

section Percentiles

variable {values : List ℚ}
variable {fraction : ℚ}

theorem insertionSort_ne_nil
    (hNonempty : values ≠ []) :
    values.insertionSort (· ≤ ·) ≠ [] := by
  intro hNil
  have hLength := List.length_insertionSort (· ≤ ·) values
  rw [hNil] at hLength
  exact hNonempty (List.length_eq_zero_iff.mp hLength.symm)

/- The two sums of the repository, with the weight `w`. -/
theorem weighted_sum (a b w : ℚ) :
    a * (1 - w) + b * w = a + (b - a) * w := by
  ring

theorem StorageNoise.percentile_eq
    (hNonempty : values ≠ [])
    (hPlaced : Placed values fraction) :
    StorageNoise.percentile values fraction =
      quantile values fraction := by
  have hFloor := hPlaced.floor_le
  rw [← Int.floor_toNat] at hFloor
  rw [quantile_floor]
  unfold StorageNoise.percentile
  rw [if_neg hNonempty]
  simp only [List.length_insertionSort]
  rw [weighted_sum, getD_insertionSort hFloor]
  rfl

theorem Sync.percentile_eq
    (hNonempty : values ≠ [])
    (hPlaced : Placed values fraction) :
    Sync.percentile values fraction =
      quantile values fraction := by
  have hFloor := hPlaced.floor_le
  rw [← Int.floor_toNat] at hFloor
  rw [quantile_floor]
  unfold Sync.percentile
  simp only [List.length_insertionSort]
  rw [if_neg (insertionSort_ne_nil hNonempty), weighted_sum,
    getD_insertionSort hFloor]
  rfl

theorem V4l2.percentile_eq
    (hNonempty : values ≠ [])
    (hPlaced : Placed values fraction) :
    V4l2.percentile values fraction =
      quantile values fraction := by
  have hFloor := hPlaced.floor_le
  rw [← Int.floor_toNat] at hFloor
  rw [quantile_floor]
  unfold V4l2.percentile
  simp only [List.length_insertionSort]
  rw [if_neg (insertionSort_ne_nil hNonempty),
    getD_insertionSort hFloor]
  rfl

theorem Steady.percentile_eq
    (hPlaced : Placed values fraction) :
    Steady.percentile (values.insertionSort (· ≤ ·)) fraction =
      quantile values fraction := by
  have hFloor := hPlaced.floor_le
  have hCeil := hPlaced.ceil_le
  rw [← Int.floor_toNat] at hFloor
  rw [← Int.ceil_toNat] at hCeil
  unfold Steady.percentile
  rw [List.length_insertionSort]
  split
  next hLength =>
    exact (quantile_singleton hLength).symm
  next =>
    rw [quantile_ceil hPlaced]
    simp only [getD_insertionSort hFloor,
      getD_insertionSort hCeil]

theorem Startup.percentile_eq
    {readings : List (Option ℚ)}
    (hReadings : readings.filterMap id = values)
    (hNonempty : values ≠ [])
    (hPlaced : Placed values fraction) :
    Startup.percentile readings fraction =
      some (quantile values fraction) := by
  have hFloor := hPlaced.floor_le
  have hCeil := hPlaced.ceil_le
  rw [← Int.floor_toNat] at hFloor
  rw [← Int.ceil_toNat] at hCeil
  unfold Startup.percentile
  simp only [hReadings, List.length_insertionSort]
  rw [if_neg (insertionSort_ne_nil hNonempty),
    mul_comm ((values.length - 1 : Nat) : ℚ)]
  split
  next hLength =>
    rw [quantile_singleton hLength]
  next =>
    split
    next hSame =>
      -- the place is a number, so its two neighbours are one
      rw [quantile_ceil hPlaced, ← hSame, sub_self, zero_mul,
        add_zero, getD_insertionSort hFloor]
    next =>
      rw [quantile_ceil hPlaced, weighted_sum,
        getD_insertionSort hFloor, getD_insertionSort hCeil]
      have hCast :
          ((⌊fraction * ((values.length - 1 : Nat) : ℚ)⌋.toNat :
              Nat) : ℚ) =
            (⌊fraction * ((values.length - 1 : Nat) : ℚ)⌋ : ℚ) := by
        have hInt := Int.toNat_of_nonneg
          (Int.floor_nonneg.mpr hPlaced.nonneg)
        exact_mod_cast congrArg (Int.cast : Int → ℚ) hInt
      rw [hCast]

/-
  The six computations give the same number, whatever the
  sample and the fraction; the startup model gives it for
  every list whose present values are the sample.
-/
theorem percentiles_agree
    (hNonempty : values ≠ [])
    (hNonneg : 0 ≤ fraction)
    (hLe : fraction ≤ 1) :
    StorageNoise.percentile values fraction =
        quantile values fraction ∧
      GpuNoise.percentile values fraction =
        quantile values fraction ∧
      Sync.percentile values fraction =
        quantile values fraction ∧
      V4l2.percentile values fraction =
        quantile values fraction ∧
      Steady.percentile
          (values.insertionSort (· ≤ ·)) fraction =
        quantile values fraction ∧
      ∀ readings : List (Option ℚ),
        readings.filterMap id = values →
          Startup.percentile readings fraction =
            some (quantile values fraction) := by
  have hPlaced := placed values hNonneg hLe
  have hStorage := StorageNoise.percentile_eq hNonempty hPlaced
  refine ⟨hStorage, hStorage,
    Sync.percentile_eq hNonempty hPlaced,
    V4l2.percentile_eq hNonempty hPlaced,
    Steady.percentile_eq hPlaced, ?_⟩
  intro readings hReadings
  exact Startup.percentile_eq hReadings hNonempty hPlaced

theorem percentiles_agree_median :
    Sync.percentile [3, 1, 2, 10] (1 / 2) =
      quantile [3, 1, 2, 10] (1 / 2) :=
  (percentiles_agree (by decide) (by norm_num)
    (by norm_num)).2.2.1

end Percentiles

end RsCamera

------------------------------------------------------------
-- The Summary
------------------------------------------------------------

namespace RsCamera

namespace Steady

variable {values : List ℚ}

/- The fields of a summary, as quantiles of the sample. -/
theorem summarize_eq
    (hNonempty : values ≠ []) :
    summarize values =
      { n := values.length
        min := quantile values 0
        max := quantile values 1
        mean := values.sum / values.length
        variance :=
          (values.map (fun value =>
              (value - values.sum / values.length) ^ 2)).sum /
            values.length
        p50 := quantile values (1 / 2)
        p90 := quantile values (9 / 10)
        p99 := quantile values (99 / 100)
        p999 := quantile values (999 / 1000) } := by
  have hPerm := List.perm_insertionSort (· ≤ ·) values
  have hSum :
      (values.insertionSort (· ≤ ·)).sum = values.sum :=
    hPerm.sum_eq
  have hSquared
      (mean : ℚ) :
      ((values.insertionSort (· ≤ ·)).map (fun value =>
          (value - mean) ^ 2)).sum =
        (values.map (fun value => (value - mean) ^ 2)).sum :=
    (hPerm.map _).sum_eq
  have hQuantile
      (fraction : ℚ)
      (hNonneg : 0 ≤ fraction)
      (hLe : fraction ≤ 1) :
      percentile (values.insertionSort (· ≤ ·)) fraction =
        quantile values fraction :=
    percentile_eq (placed values hNonneg hLe)
  unfold summarize
  rw [if_neg hNonempty]
  simp only [List.length_insertionSort, hSum, hSquared]
  rw [hQuantile _ (by norm_num) (by norm_num),
    hQuantile _ (by norm_num) (by norm_num),
    hQuantile _ (by norm_num) (by norm_num),
    hQuantile _ (by norm_num) (by norm_num),
    quantile_zero, quantile_one,
    getD_insertionSort (Nat.zero_le _),
    getD_insertionSort (le_refl _)]

/- The fields are those of the sample, and in their order. -/
structure DistributionStats.Describes
    (summary : DistributionStats)
    (values : List ℚ) : Prop where
  n : summary.n = values.length
  min_mem : summary.min ∈ values
  max_mem : summary.max ∈ values
  bounds :
    ∀ value ∈ values, summary.min ≤ value ∧ value ≤ summary.max
  min_le : summary.min ≤ summary.p50
  p50_le : summary.p50 ≤ summary.p90
  p90_le : summary.p90 ≤ summary.p99
  p99_le : summary.p99 ≤ summary.p999
  p999_le : summary.p999 ≤ summary.max
  mean_ge : summary.min ≤ summary.mean
  mean_le : summary.mean ≤ summary.max
  variance_nonneg : 0 ≤ summary.variance
  variance_le :
    summary.variance ≤
      (summary.max - summary.mean) *
        (summary.mean - summary.min)

theorem describes_summarize
    (hNonempty : values ≠ []) :
    (summarize values).Describes values := by
  have hBounds (value : ℚ) (hMem : value ∈ values) :
      quantile values 0 ≤ value ∧ value ≤ quantile values 1 := by
    rw [quantile_zero, quantile_one]
    exact ⟨orderStatistic_zero_le hMem,
      le_orderStatistic_last hMem⟩
  have hMean :=
    mean_bounds hNonempty
      (fun value hMem => (hBounds value hMem).1)
      (fun value hMem => (hBounds value hMem).2)
  have hVariance :=
    variance_bounds hNonempty rfl
      (fun value hMem => (hBounds value hMem).1)
      (fun value hMem => (hBounds value hMem).2)
  have hMono
      (fraction fraction' : ℚ)
      (hNonneg : 0 ≤ fraction)
      (hLe : fraction ≤ fraction') :
      quantile values fraction ≤ quantile values fraction' :=
    quantile_mono hNonneg hLe
  have hMin : quantile values 0 ∈ values := by
    rw [quantile_zero]
    exact orderStatistic_mem hNonempty 0
  have hMax : quantile values 1 ∈ values := by
    rw [quantile_one]
    exact orderStatistic_mem hNonempty _
  rw [summarize_eq hNonempty]
  constructor
  case n => rfl
  case min_mem => exact hMin
  case max_mem => exact hMax
  case bounds => exact hBounds
  case min_le => exact hMono _ _ (by norm_num) (by norm_num)
  case p50_le => exact hMono _ _ (by norm_num) (by norm_num)
  case p90_le => exact hMono _ _ (by norm_num) (by norm_num)
  case p99_le => exact hMono _ _ (by norm_num) (by norm_num)
  case p999_le => exact hMono _ _ (by norm_num) (by norm_num)
  case mean_ge => exact hMean.1
  case mean_le => exact hMean.2
  case variance_nonneg => exact hVariance.1
  case variance_le => exact hVariance.2

theorem summarize_perm
    {values' : List ℚ}
    (hNonempty : values ≠ [])
    (hPerm : values'.Perm values) :
    summarize values' = summarize values := by
  have hNonempty' : values' ≠ [] := by
    intro hNil
    rw [hNil] at hPerm
    exact hNonempty hPerm.nil_eq.symm
  rw [summarize_eq hNonempty, summarize_eq hNonempty',
    quantile_perm hPerm, hPerm.sum_eq, hPerm.length_eq,
    (hPerm.map _).sum_eq]

/-
  What an exact summary says of every sample: the order of its
  fields, the bounds of the values and of their variance, and
  that the order the values came in has no part in it.
-/
theorem summarize_ordered
    (hNonempty : values ≠ []) :
    (summarize values).Describes values ∧
      ∀ values' : List ℚ, values'.Perm values →
        summarize values' = summarize values :=
  ⟨describes_summarize hNonempty,
    fun _ hPerm => summarize_perm hNonempty hPerm⟩

theorem summarize_ordered_sample :
    (summarize [4, 1, 3]).min ≤ (summarize [4, 1, 3]).p50 ∧
      (summarize [4, 1, 3]).p50 ≤ (summarize [4, 1, 3]).p90 ∧
      summarize [1, 3, 4] = summarize [4, 1, 3] := by
  have hNonempty : ([4, 1, 3] : List ℚ) ≠ [] := by decide
  have hOrdered := summarize_ordered hNonempty
  exact
    ⟨hOrdered.1.min_le, hOrdered.1.p50_le,
      hOrdered.2 [1, 3, 4] (by decide)⟩

end Steady

end RsCamera
