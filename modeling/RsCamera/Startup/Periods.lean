import Mathlib.Data.Rat.Floor
import Mathlib.Data.List.Sort
import Mathlib.Data.Prod.Lex
import Mathlib.Order.WithBot
import Mathlib.Tactic.Linarith
import Mathlib.Tactic.FieldSimp
import RsCamera.Generator.Jobs
import RsCamera.Startup.RunningBursts

/-
  The period of the bursts of a thread (`_period_fit` and
  `detect_stable_period` in `build_startup_model.py`).

  Every gap divided by a small number is a candidate.  A
  candidate is ranked by the gaps that are near one of its
  multiples, by those that are near the candidate itself,
  and by the median of the residuals.

  Key definitions include:
    * `residual`, `median`
    * `PeriodFit`, `fitCandidate`, `score`
    * `periodFit`
    * `detectStablePeriod`

  Key theorems include:
    * `median_pos`
    * `score_lt_of_ne`
    * `periodFit_multiples`
    * `detectStablePeriod_regular`
-/

------------------------------------------------------------
-- Fits
------------------------------------------------------------

namespace RsCamera

namespace Startup

section

open Generator (roundHalfEven)

/- The gaps divided by the multiples, as far as allowed. -/
def periodCandidates
    (gaps : List ℚ)
    (minPeriodMs maxPeriodMs : ℚ)
    (maxMultiple : Nat) : List ℚ :=
  gaps.flatMap (fun gap =>
    ((List.range' 1 maxMultiple).map (fun multiple : Nat =>
      gap / (multiple : ℚ))).filter (fun period =>
        minPeriodMs ≤ period ∧ period ≤ maxPeriodMs))

/- `max(1, round(gap / candidate))`. -/
def nearestMultiple (candidate gap : ℚ) : Int :=
  max 1 (roundHalfEven (gap / candidate))

/- The distance from the nearest multiple; it may be infinite. -/
def residual
    (maxMultiple : Nat)
    (candidate gap : ℚ) : Option ℚ :=
  if nearestMultiple candidate gap > maxMultiple then
    none
  else
    some
      (|gap - nearestMultiple candidate gap * candidate| /
        candidate)

/- `statistics.median`. -/
def median (values : List ℚ) : ℚ :=
  let sorted :=
    values.insertionSort (fun left right => left ≤ right)
  let middle := sorted.length / 2
  if sorted.length % 2 = 1 then
    sorted[middle]?.getD 0
  else
    (sorted[middle - 1]?.getD 0 +
      sorted[middle]?.getD 0) / 2

/- A jitter that is infinite is left out. -/
structure PeriodFit where
  periodMs : ℚ
  matchRatio : ℚ
  directRatio : ℚ
  jitter : Option ℚ
deriving DecidableEq

/- The fit of one candidate. -/
def fitCandidate
    (gaps : List ℚ)
    (tolerance : ℚ)
    (maxMultiple : Nat)
    (candidate : ℚ) : PeriodFit :=
  let finite := gaps.filterMap (residual maxMultiple candidate)
  { periodMs := candidate
    matchRatio :=
      finite.countP (fun value => value ≤ tolerance) /
        gaps.length
    directRatio :=
      gaps.countP (fun gap =>
        |gap - candidate| / candidate ≤ tolerance) /
        gaps.length
    jitter := if finite = [] then none else some (median finite) }

/- The jitter with its sign changed. -/
def negated : Option ℚ → WithBot ℚ
| none => ⊥
| some jitter => ((-jitter : ℚ) : WithBot ℚ)

/- Fits are compared by this key. -/
def score (fit : PeriodFit) : ℚ ×ₗ ℚ ×ₗ WithBot ℚ ×ₗ ℚ :=
  toLex (fit.matchRatio, toLex (fit.directRatio,
    toLex (negated fit.jitter, fit.periodMs)))

/- The first of the best fits stays. -/
def betterFit
    (best : Option PeriodFit)
    (fit : PeriodFit) : Option PeriodFit :=
  match best with
  | none => some fit
  | some best =>
      if score fit > score best then some fit else some best

/- `period_fit`. -/
def periodFit
    (gaps : List ℚ)
    (minPeriodMs maxPeriodMs tolerance : ℚ)
    (maxMultiple : Nat) : Except String (Option PeriodFit) :=
  let candidates :=
    periodCandidates gaps minPeriodMs maxPeriodMs maxMultiple
  if 0 ∈ candidates then
    .error "float division by zero"
  else
    .ok
      ((candidates.map
        (fitCandidate gaps tolerance maxMultiple)).foldl
        betterFit none)

end

------------------------------------------------------------
-- The Best Fit
------------------------------------------------------------

/- A fit that beats all the others is the one that is kept. -/
theorem foldl_betterFit
    {top : PeriodFit}
    {fits : List PeriodFit}
    (hBest :
      ∀ fit ∈ fits, fit = top ∨ score fit < score top)
    {best : Option PeriodFit}
    (hSeen :
      ∀ fit ∈ best, fit = top ∨ score fit < score top)
    (hTop : top ∈ fits ∨ best = some top) :
    fits.foldl betterFit best = some top := by
  induction fits generalizing best with
  | nil => simpa using hTop
  | cons fit fits ih =>
      have hRest :
          ∀ other ∈ fits,
            other = top ∨ score other < score top :=
        fun other hOther =>
          hBest other (List.mem_cons_of_mem _ hOther)
      have hFit := hBest fit (by simp)
      rw [List.foldl_cons]
      cases best with
      | none =>
          apply ih hRest
          · simpa [betterFit] using hFit
          · rcases hTop with hTop | hTop
            · rcases List.mem_cons.mp hTop with hHere | hLater
              · exact Or.inr (by simp [betterFit, hHere])
              · exact Or.inl hLater
            · cases hTop
      | some old =>
          have hOld := hSeen old rfl
          unfold betterFit
          simp only
          split
          next hGreater =>
            apply ih hRest (by simpa using hFit)
            rcases hTop with hTop | hTop
            · rcases List.mem_cons.mp hTop with hHere | hLater
              · exact Or.inr (by rw [hHere])
              · exact Or.inl hLater
            · -- Nothing is greater than the best fit.
              simp only [Option.some.injEq] at hTop
              rw [hTop] at hGreater
              rcases hFit with hSame | hLess
              · exact Or.inr (by rw [hSame])
              · exact absurd hGreater (not_lt.mpr hLess.le)
          next hNot =>
            apply ih hRest (by simpa using hOld)
            rcases hTop with hTop | hTop
            · rcases List.mem_cons.mp hTop with hHere | hLater
              · rcases hOld with hSame | hLess
                · exact Or.inr (by rw [hSame])
                · rw [hHere] at hLess
                  exact absurd hLess hNot
              · exact Or.inl hLater
            · exact Or.inr hTop

------------------------------------------------------------
-- Medians
------------------------------------------------------------

theorem median_replicate_zero
    (count : Nat) :
    median (List.replicate count 0) = 0 := by
  have hSorted :
      (List.replicate count (0 : ℚ)).insertionSort
          (fun left right => left ≤ right) =
        List.replicate count 0 := by
    apply List.Pairwise.insertionSort_eq
    simp [List.pairwise_replicate]
  have hGet :
      ∀ index : Nat,
        (List.replicate count (0 : ℚ))[index]?.getD 0 = 0 := by
    intro index
    rw [List.getElem?_replicate]
    split <;> simp
  unfold median
  simp [hSorted, hGet]

/-
  When more than half of the values are positive, so is the
  median: the value in the middle cannot be zero.
-/
theorem median_pos
    {values : List ℚ}
    (hNonneg : ∀ value ∈ values, 0 ≤ value)
    (hMost :
      values.length < 2 * values.countP (fun value => 0 < value)) :
    0 < median values := by
  unfold median
  set sorted :=
    values.insertionSort (fun left right => left ≤ right)
    with hSorted
  have hPerm : sorted.Perm values :=
    List.perm_insertionSort _ _
  have hOrder : sorted.Pairwise (fun left right => left ≤ right) :=
    List.pairwise_insertionSort _ _
  have hLength := hPerm.length_eq
  have hCount := hPerm.countP_eq (fun value => decide (0 < value))
  have hMiddle : sorted.length / 2 < sorted.length := by
    have hLe : values.countP (fun value => 0 < value) ≤
        values.length := List.countP_le_length
    omega
  have hAt :
      ∀ index, (hIndex : index < sorted.length) →
        0 ≤ sorted[index] :=
    fun index hIndex =>
      hNonneg _ (hPerm.mem_iff.mp (List.getElem_mem hIndex))
  have hPositive : 0 < sorted[sorted.length / 2] := by
    by_contra hZero
    have hFront :
        (sorted.take (sorted.length / 2 + 1)).countP
          (fun value => decide (0 < value)) = 0 := by
      rw [List.countP_eq_zero]
      intro value hValue
      rcases List.mem_take_iff_getElem.mp hValue with
        ⟨index, hIndex, hIs⟩
      have hBelow :
          sorted[index] ≤ sorted[sorted.length / 2] := by
        rcases Nat.lt_or_ge index (sorted.length / 2) with
          hLess | hSame
        · exact List.pairwise_iff_getElem.mp hOrder _ _ _ _
            hLess
        · have hEq : index = sorted.length / 2 := by omega
          simp [hEq]
      simp only [decide_eq_true_eq]
      rw [← hIs]
      linarith
    have hSplit :=
      congrArg (List.countP (fun value => decide (0 < value)))
        (List.take_append_drop (sorted.length / 2 + 1) sorted)
    rw [List.countP_append, hFront] at hSplit
    have hBack :
        (sorted.drop (sorted.length / 2 + 1)).countP
            (fun value => decide (0 < value)) ≤
          (sorted.drop (sorted.length / 2 + 1)).length :=
      List.countP_le_length
    rw [List.length_drop] at hBack
    omega
  simp only [List.getElem?_eq_getElem hMiddle, Option.getD_some]
  split
  next hOdd => exact hPositive
  next hEven =>
    have hBefore : sorted.length / 2 - 1 < sorted.length := by
      omega
    rw [List.getElem?_eq_getElem hBefore, Option.getD_some]
    have hFirst := hAt _ hBefore
    linarith

------------------------------------------------------------
-- Gaps That Are Multiples Of A Period
------------------------------------------------------------

section

open Generator (roundHalfEven)

theorem roundHalfEven_intCast
    (value : Int) :
    roundHalfEven (value : ℚ) = value := by
  simp [roundHalfEven]

/- Less than a half away from one is rounded to one. -/
theorem roundHalfEven_eq_one
    {value : ℚ}
    (hNear : |value - 1| < 1 / 2) :
    roundHalfEven value = 1 := by
  rw [abs_lt] at hNear
  unfold roundHalfEven
  rcases lt_or_ge value 1 with hBelow | hAbove
  · have hFloor : ⌊value⌋ = 0 := by
      rw [Int.floor_eq_iff]
      constructor <;> push_cast <;> linarith
    simp only [hFloor, Int.cast_zero, sub_zero]
    rw [if_neg (by linarith), if_pos (by linarith)]
    simp
  · have hFloor : ⌊value⌋ = 1 := by
      rw [Int.floor_eq_iff]
      constructor <;> push_cast <;> linarith
    simp only [hFloor, Int.cast_one]
    rw [if_pos (by linarith)]

section Multiples

variable {period : ℚ}
variable {multiples : List Nat}

/- The gaps of a thread that skips some of its periods. -/
def multipleGaps
    (period : ℚ)
    (multiples : List Nat) : List ℚ :=
  multiples.map (fun multiple : Nat => (multiple : ℚ) * period)

theorem residual_period
    (hPeriod : 0 < period)
    {multiple : Nat}
    (hOne : 1 ≤ multiple)
    (hEight : multiple ≤ 8) :
    residual 8 period (multiple * period) = some 0 := by
  have hRatio : (multiple : ℚ) * period / period = multiple := by
    field_simp
  have hNearest :
      nearestMultiple period (multiple * period) = multiple := by
    unfold nearestMultiple
    rw [hRatio]
    have hRound := roundHalfEven_intCast (multiple : Int)
    rw [Int.cast_natCast] at hRound
    rw [hRound]
    omega
  unfold residual
  rw [hNearest, if_neg (by omega)]
  simp

/- The true period fits without any residual. -/
theorem fitCandidate_period
    (hPeriod : 0 < period)
    (hNonempty : multiples ≠ [])
    (hMultiples :
      ∀ multiple ∈ multiples, 1 ≤ multiple ∧ multiple ≤ 8) :
    fitCandidate (multipleGaps period multiples) (18 / 100) 8
        period =
      { periodMs := period
        matchRatio := 1
        directRatio := multiples.count 1 / multiples.length
        jitter := some 0 } := by
  have hFinite :
      (multipleGaps period multiples).filterMap
          (residual 8 period) =
        List.replicate multiples.length 0 := by
    rw [multipleGaps, List.filterMap_map, Function.comp_def]
    clear hNonempty
    induction multiples with
    | nil => simp
    | cons multiple multiples ih =>
        have hHere := hMultiples multiple (by simp)
        have hRest :=
          ih (fun other hOther =>
            hMultiples other (List.mem_cons_of_mem _ hOther))
        simp [residual_period hPeriod hHere.1 hHere.2, hRest,
          List.replicate_succ]
  have hDirect :
      (multipleGaps period multiples).countP (fun gap =>
          |gap - period| / period ≤ 18 / 100) =
        multiples.count 1 := by
    unfold multipleGaps
    rw [List.countP_map, List.count]
    apply List.countP_congr
    intro multiple hMultiple
    have hHere := hMultiples multiple hMultiple
    have hRatio :
        |(multiple : ℚ) * period - period| / period =
          multiple - 1 := by
      have hCast : (1 : ℚ) ≤ multiple := by
        exact_mod_cast hHere.1
      have hForm :
          (multiple : ℚ) * period - period =
            (multiple - 1) * period := by
        ring
      rw [hForm, abs_mul, abs_of_pos hPeriod,
        abs_of_nonneg (by linarith)]
      field_simp
    simp only [Function.comp_apply, hRatio, decide_eq_true_eq,
      beq_iff_eq]
    constructor
    · intro hNear
      have hLess : (multiple : ℚ) < 2 := by linarith
      have hNat : multiple < 2 := by exact_mod_cast hLess
      omega
    · intro hIs
      rw [hIs]
      norm_num
  have hLength :
      (multipleGaps period multiples).length =
        multiples.length := by
    simp [multipleGaps]
  have hPos : (multiples.length : ℚ) ≠ 0 := by
    simpa using hNonempty
  unfold fitCandidate
  simp only [hFinite, hDirect, hLength]
  congr 1
  · rw [List.countP_replicate, if_pos (by norm_num)]
    exact div_self hPos
  · rw [if_neg (by simpa using hNonempty),
      median_replicate_zero]

section Others

variable {candidate : ℚ}

/- Distances in units of the candidate. -/
theorem abs_sub_div
    (hCandidate : 0 < candidate)
    (gap multiple : ℚ) :
    |gap - multiple * candidate| / candidate =
      |gap / candidate - multiple| := by
  have hForm :
      gap / candidate - multiple =
        (gap - multiple * candidate) / candidate := by
    field_simp
  rw [hForm, abs_div, abs_of_pos hCandidate]

theorem direct_iff
    (hCandidate : 0 < candidate)
    (multiple : Nat) :
    |(multiple : ℚ) * period - candidate| / candidate ≤
        18 / 100 ↔
      |multiple * (period / candidate) - 1| ≤ 18 / 100 := by
  have hForm :=
    abs_sub_div hCandidate (multiple * period) 1
  rw [one_mul, mul_div_assoc] at hForm
  rw [hForm]

theorem matchRatio_le_one
    (gaps : List ℚ)
    (tolerance : ℚ)
    (maxMultiple : Nat)
    (candidate : ℚ) :
    (fitCandidate gaps tolerance maxMultiple
      candidate).matchRatio ≤ 1 := by
  unfold fitCandidate
  apply div_le_one_of_le₀
  · have hFinite :
        (gaps.filterMap (residual maxMultiple candidate)).countP
            (fun value => value ≤ tolerance) ≤
          gaps.length :=
      List.countP_le_length.trans
        (List.length_filterMap_le _ _)
    exact_mod_cast hFinite
  · positivity

theorem residual_nonneg
    (hCandidate : 0 < candidate)
    {maxMultiple : Nat}
    {gap value : ℚ}
    (hValue : residual maxMultiple candidate gap = some value) :
    0 ≤ value := by
  unfold residual at hValue
  split at hValue
  next => cases hValue
  next =>
    simp only [Option.some.injEq] at hValue
    rw [← hValue]
    positivity

/- The ratio of the fits near the true period. -/
theorem residual_near
    (hCandidate : 0 < candidate)
    (hNear : |period / candidate - 1| ≤ 18 / 100) :
    residual 8 candidate (((1 : Nat) : ℚ) * period) =
      some |period / candidate - 1| := by
  have hNearest :
      nearestMultiple candidate (((1 : Nat) : ℚ) * period) =
        1 := by
    unfold nearestMultiple
    rw [Nat.cast_one, one_mul, roundHalfEven_eq_one]
    · simp
    · linarith
  unfold residual
  rw [hNearest, if_neg (by simp), abs_sub_div hCandidate]
  simp

/-
  Near the true period the residual of a gap of one period is
  not zero, and most of the gaps are of that kind.
-/
theorem jitter_near
    (hCandidate : 0 < candidate)
    (hOther : period / candidate ≠ 1)
    (hNear : |period / candidate - 1| ≤ 18 / 100)
    (hNonempty : multiples ≠ [])
    (hOnes : 60 * multiples.length ≤ 100 * multiples.count 1) :
    ∃ jitter,
      (fitCandidate (multipleGaps period multiples) (18 / 100)
        8 candidate).jitter = some jitter ∧
      0 < jitter := by
  set finite :=
    (multipleGaps period multiples).filterMap
      (residual 8 candidate) with hFinite
  have hLength : 0 < multiples.length :=
    List.length_pos_iff.mpr hNonempty
  have hShort : finite.length ≤ multiples.length := by
    have hLe :=
      List.length_filterMap_le (residual 8 candidate)
        (multipleGaps period multiples)
    simpa [multipleGaps, hFinite] using hLe
  have hPositive :
      multiples.count 1 ≤
        finite.countP (fun value => 0 < value) := by
    rw [hFinite, multipleGaps, List.filterMap_map,
      List.countP_filterMap, List.count]
    apply List.countP_mono_left
    intro multiple hMultiple hOne
    simp only [beq_iff_eq] at hOne
    subst hOne
    have hResidual := residual_near hCandidate hNear
    simp only [Function.comp_apply, hResidual, Option.map_some,
      Option.getD_some, decide_eq_true_eq]
    exact abs_pos.mpr (sub_ne_zero.mpr hOther)
  have hNonneg : ∀ value ∈ finite, 0 ≤ value := by
    intro value hValue
    rcases List.mem_filterMap.mp hValue with ⟨gap, -, hGap⟩
    exact residual_nonneg hCandidate hGap
  have hSome : finite ≠ [] := by
    intro hEmpty
    rw [hEmpty] at hPositive
    simp only [List.countP_nil] at hPositive
    omega
  refine ⟨median finite, ?_, ?_⟩
  · unfold fitCandidate
    simp only
    rw [← hFinite, if_neg hSome]
  · apply median_pos hNonneg
    omega

/- Near the true period only gaps of one period are direct. -/
theorem direct_near
    (hCandidate : 0 < candidate)
    (hNear : |period / candidate - 1| ≤ 18 / 100) :
    (multipleGaps period multiples).countP (fun gap =>
        |gap - candidate| / candidate ≤ 18 / 100) ≤
      multiples.count 1 := by
  rw [multipleGaps, List.countP_map, List.count]
  apply List.countP_mono_left
  intro multiple hMultiple hDirect
  simp only [Function.comp_apply, decide_eq_true_eq,
    direct_iff hCandidate] at hDirect
  rw [abs_le] at hNear hDirect
  have hLess : (multiple : ℚ) < 2 := by
    by_contra hTwo
    push Not at hTwo
    nlinarith [hNear.1, hDirect.2]
  have hMore : (0 : ℚ) < multiple := by
    by_contra hZero
    push Not at hZero
    nlinarith [hNear.1, hDirect.1]
  have hBelow : multiple < 2 := by exact_mod_cast hLess
  have hAbove : 0 < multiple := by exact_mod_cast hMore
  simp only [beq_iff_eq]
  omega

/- Elsewhere no gap of one period is direct. -/
theorem direct_far
    (hCandidate : 0 < candidate)
    (hFar : ¬|period / candidate - 1| ≤ 18 / 100) :
    (multipleGaps period multiples).countP (fun gap =>
        |gap - candidate| / candidate ≤ 18 / 100) +
      multiples.count 1 ≤ multiples.length := by
  have hDirect :
      (multipleGaps period multiples).countP (fun gap =>
          |gap - candidate| / candidate ≤ 18 / 100) ≤
        multiples.countP (fun multiple => !(multiple == 1)) := by
    rw [multipleGaps, List.countP_map]
    apply List.countP_mono_left
    intro multiple hMultiple hDirect
    simp only [Function.comp_apply, decide_eq_true_eq,
      direct_iff hCandidate] at hDirect
    simp only [Bool.not_eq_true', beq_eq_false_iff_ne]
    intro hOne
    subst hOne
    rw [Nat.cast_one, one_mul] at hDirect
    exact hFar hDirect
  have hAll :=
    List.length_eq_countP_add_countP (fun multiple => multiple == 1)
      (l := multiples)
  rw [List.count]
  simp only [Bool.not_eq_true, Bool.decide_eq_false] at hAll
  omega

/- Every other candidate has a smaller score. -/
theorem score_lt_of_ne
    (hPeriod : 0 < period)
    (hNonempty : multiples ≠ [])
    (hMultiples :
      ∀ multiple ∈ multiples, 1 ≤ multiple ∧ multiple ≤ 8)
    (hOnes : 60 * multiples.length ≤ 100 * multiples.count 1)
    (hCandidate : 0 < candidate)
    (hNe : candidate ≠ period) :
    score
        (fitCandidate (multipleGaps period multiples)
          (18 / 100) 8 candidate) <
      score
        (fitCandidate (multipleGaps period multiples)
          (18 / 100) 8 period) := by
  have hLength :
      (0 : ℚ) < (multipleGaps period multiples).length := by
    have hPos := List.length_pos_iff.mpr hNonempty
    simpa [multipleGaps] using hPos
  have hMatch :=
    matchRatio_le_one (multipleGaps period multiples)
      (18 / 100) 8 candidate
  rw [fitCandidate_period hPeriod hNonempty hMultiples]
  unfold score
  simp only [Prod.Lex.toLex_lt_toLex]
  rcases lt_or_eq_of_le hMatch with hLess | hAll
  · exact Or.inl hLess
  · refine Or.inr ⟨hAll, ?_⟩
    have hSame :
        (multipleGaps period multiples).length =
          multiples.length := by
      simp [multipleGaps]
    by_cases hNear : |period / candidate - 1| ≤ 18 / 100
    · have hOther : period / candidate ≠ 1 := by
        intro hOne
        exact hNe ((div_eq_one_iff_eq hCandidate.ne').mp hOne).symm
      rcases jitter_near hCandidate hOther hNear hNonempty
        hOnes with ⟨jitter, hJitter, hPositive⟩
      have hDirect :
          (fitCandidate (multipleGaps period multiples)
              (18 / 100) 8 candidate).directRatio ≤
            multiples.count 1 / multiples.length := by
        rw [← hSame]
        apply div_le_div_of_nonneg_right _ hLength.le
        exact_mod_cast direct_near hCandidate hNear
      rcases lt_or_eq_of_le hDirect with hFewer | hEqual
      · exact Or.inl hFewer
      · refine Or.inr ⟨hEqual, Or.inl ?_⟩
        rw [hJitter]
        simp only [negated]
        exact_mod_cast (by linarith : -jitter < -(0 : ℚ))
    · left
      rw [← hSame]
      apply div_lt_div_of_pos_right _ hLength
      have hFar := @direct_far period multiples candidate hCandidate
        hNear
      have hPos := List.length_pos_iff.mpr hNonempty
      have hCount :
          (multipleGaps period multiples).countP (fun gap =>
              |gap - candidate| / candidate ≤ 18 / 100) <
            multiples.count 1 := by
        omega
      exact_mod_cast hCount

end Others

/- The candidates of positive gaps are positive. -/
theorem candidate_pos
    (hPeriod : 0 < period)
    (hMultiples :
      ∀ multiple ∈ multiples, 1 ≤ multiple ∧ multiple ≤ 8)
    {minPeriodMs maxPeriodMs : ℚ}
    {candidate : ℚ}
    (hMem :
      candidate ∈
        periodCandidates (multipleGaps period multiples)
          minPeriodMs maxPeriodMs 8) :
    0 < candidate := by
  simp only [periodCandidates, multipleGaps, List.mem_flatMap,
    List.mem_map, List.mem_filter, List.mem_range'_1] at hMem
  rcases hMem with
    ⟨gap, ⟨multiple, hMultiple, hGap⟩, ⟨divisor, hDivisor, hIs⟩, -⟩
  have hHere : (0 : ℚ) < multiple := by
    exact_mod_cast (hMultiples multiple hMultiple).1
  have hDivides : (0 : ℚ) < divisor := by
    exact_mod_cast hDivisor.1
  rw [← hIs, ← hGap]
  positivity

theorem period_mem_candidates
    {minPeriodMs maxPeriodMs : ℚ}
    (hMin : minPeriodMs ≤ period)
    (hMax : period ≤ maxPeriodMs)
    (hOne : 1 ∈ multiples) :
    period ∈
      periodCandidates (multipleGaps period multiples)
        minPeriodMs maxPeriodMs 8 := by
  simp only [periodCandidates, multipleGaps, List.mem_flatMap,
    List.mem_map, List.mem_filter, List.mem_range'_1,
    decide_eq_true_eq]
  refine ⟨((1 : Nat) : ℚ) * period, ⟨1, hOne, rfl⟩,
    ⟨1, by omega, ?_⟩, hMin, hMax⟩
  simp

/- The candidates hold the period, and nothing beats it. -/
theorem periodFit_eq_fitCandidate
    {minPeriodMs maxPeriodMs : ℚ}
    (hPeriod : 0 < period)
    (hMin : minPeriodMs ≤ period)
    (hMax : period ≤ maxPeriodMs)
    (hNonempty : multiples ≠ [])
    (hMultiples :
      ∀ multiple ∈ multiples, 1 ≤ multiple ∧ multiple ≤ 8)
    (hOnes : 60 * multiples.length ≤ 100 * multiples.count 1) :
    periodFit (multipleGaps period multiples) minPeriodMs
        maxPeriodMs (18 / 100) 8 =
      .ok
        (some
          (fitCandidate (multipleGaps period multiples)
            (18 / 100) 8 period)) := by
  have hOne : 1 ∈ multiples := by
    apply List.count_pos_iff.mp
    have hLength := List.length_pos_iff.mpr hNonempty
    omega
  unfold periodFit
  simp only
  rw [if_neg]
  · congr 1
    apply foldl_betterFit
    · intro fit hFit
      rcases List.mem_map.mp hFit with ⟨candidate, hMem, hIs⟩
      rw [← hIs]
      by_cases hSame : candidate = period
      · exact Or.inl (by rw [hSame])
      · exact Or.inr
          (score_lt_of_ne hPeriod hNonempty hMultiples hOnes
            (candidate_pos hPeriod hMultiples hMem) hSame)
    · simp
    · left
      exact List.mem_map_of_mem
        (period_mem_candidates hMin hMax hOne)
  · intro hZero
    exact lt_irrefl 0 (candidate_pos hPeriod hMultiples hZero)

/-
  The period of gaps that are small multiples of it, most of
  them the period itself, is found exactly.
-/
theorem periodFit_multiples
    (period minPeriodMs maxPeriodMs : ℚ)
    (multiples : List Nat)
    (hPeriod : 0 < period)
    (hMin : minPeriodMs ≤ period)
    (hMax : period ≤ maxPeriodMs)
    (hNonempty : multiples ≠ [])
    (hMultiples :
      ∀ multiple ∈ multiples, 1 ≤ multiple ∧ multiple ≤ 8)
    (hOnes : 60 * multiples.length ≤ 100 * multiples.count 1) :
    periodFit (multipleGaps period multiples) minPeriodMs
        maxPeriodMs (18 / 100) 8 =
      .ok
        (some
          { periodMs := period
            matchRatio := 1
            directRatio :=
              multiples.count 1 / multiples.length
            jitter := some 0 }) := by
  rw [periodFit_eq_fitCandidate hPeriod hMin hMax hNonempty
    hMultiples hOnes,
    fitCandidate_period hPeriod hNonempty hMultiples]

end Multiples

/- A camera thread at thirty hertz that skips one period. -/
theorem periodFit_skipped_once :
    periodFit (multipleGaps (100 / 3) [1, 1, 2]) 5 250
        (18 / 100) 8 =
      .ok
        (some
          { periodMs := 100 / 3
            matchRatio := 1
            directRatio :=
              ([1, 1, 2] : List Nat).count 1 /
                ([1, 1, 2] : List Nat).length
            jitter := some 0 }) :=
  periodFit_multiples (100 / 3) 5 250 [1, 1, 2] (by norm_num)
    (by norm_num) (by norm_num) (by simp) (by simp)
    (by decide)

end

------------------------------------------------------------
-- Stable Periods
------------------------------------------------------------

open Trace (Interval)

/- The keyword arguments, with their defaults. -/
structure PeriodOptions where
  mergeGapMs : ℚ := 2
  minPeriodMs : ℚ := 5
  maxPeriodMs : ℚ := 250
  minPeriods : Nat := 6
  tolerance : ℚ := 18 / 100
  requiredMatchRatio : ℚ := 9 / 10
  requiredDirectRatio : ℚ := 6 / 10
  maxMultiple : Nat := 8

/- A period that was found. -/
structure PeriodicResult where
  startMs : ℚ
  periodMs : ℚ
  matchRatio : ℚ
  jitterRatio : Option ℚ
  releases : Nat
deriving DecidableEq

/- The gaps between the starts. -/
def gapsOf (starts : List ℚ) : List ℚ :=
  List.zipWith (fun current following => following - current)
    starts starts.tail

/- The checks on a fit. -/
def acceptFit
    (options : PeriodOptions)
    (windowEndMs first last : ℚ)
    (releases : Nat)
    (fit : PeriodFit) : Option PeriodicResult :=
  if fit.matchRatio < options.requiredMatchRatio then
    none
  else if fit.directRatio < options.requiredDirectRatio then
    none
  else if last - first < options.minPeriods * fit.periodMs then
    none
  else if windowEndMs - last >
      options.maxMultiple * fit.periodMs * (12 / 10) then
    none
  else
    some
      { startMs := first
        periodMs := fit.periodMs
        matchRatio := fit.matchRatio
        jitterRatio := fit.jitter
        releases := releases }

/- The loop body for the starts from one of them on. -/
def stableFrom
    (options : PeriodOptions)
    (windowEndMs : ℚ)
    (candidateStarts : List ℚ) :
    Except String (Option PeriodicResult) :=
  let gaps := gapsOf candidateStarts
  if gaps.length < options.minPeriods then
    .ok none
  else
    match candidateStarts.head?, candidateStarts.getLast? with
    | some first, some last => do
        let fit ←
          periodFit gaps options.minPeriodMs
            options.maxPeriodMs options.tolerance
            options.maxMultiple
        .ok
          (fit.bind
            (acceptFit options windowEndMs first last
              candidateStarts.length))
    | _, _ => .ok none

/- The first list with a stable period. -/
def firstStable
    (options : PeriodOptions)
    (windowEndMs : ℚ) :
    List (List ℚ) → Except String (Option PeriodicResult)
| [] => .ok none
| candidateStarts :: rest => do
    match ← stableFrom options windowEndMs candidateStarts with
    | some result => .ok (some result)
    | none => firstStable options windowEndMs rest

/- `detect_stable_period`. -/
def detectStablePeriod
    (intervals : List Interval)
    (windowStartMs windowEndMs : ℚ)
    (options : PeriodOptions) :
    Except String (Option PeriodicResult) :=
  let starts :=
    (mergeRunningBursts intervals windowStartMs windowEndMs
      options.mergeGapMs).map Prod.fst
  if starts.length < options.minPeriods + 1 then
    .ok none
  else
    firstStable options windowEndMs
      ((List.range (starts.length - options.minPeriods)).map
        (fun index => starts.drop index))

/- The gaps add up to the distance of the ends. -/
theorem getLast_sub_head
    (first : ℚ)
    (rest : List ℚ) :
    (first :: rest).getLast (List.cons_ne_nil first rest) -
        first =
      (gapsOf (first :: rest)).sum := by
  induction rest generalizing first with
  | nil => simp [gapsOf]
  | cons next rest ih =>
      have hRest := ih next
      rw [List.getLast_cons (List.cons_ne_nil next rest)]
      simp only [gapsOf, List.tail_cons,
        List.zipWith_cons_cons, List.sum_cons] at hRest ⊢
      linarith

theorem sum_multipleGaps
    {period : ℚ}
    (hPeriod : 0 < period)
    {multiples : List Nat}
    (hMultiples : ∀ multiple ∈ multiples, 1 ≤ multiple) :
    multiples.length * period ≤
      (multipleGaps period multiples).sum := by
  induction multiples with
  | nil => simp [multipleGaps]
  | cons multiple multiples ih =>
      have hRest :=
        ih (fun other hOther =>
          hMultiples other (List.mem_cons_of_mem _ hOther))
      have hHere : (1 : ℚ) ≤ multiple := by
        exact_mod_cast hMultiples multiple (by simp)
      simp only [multipleGaps, List.map_cons, List.sum_cons,
        List.length_cons] at hRest ⊢
      push_cast
      nlinarith

/-
  A thread that wakes with a period and skips a few of them
  is found to be stable from its first burst on.
-/
theorem detectStablePeriod_regular
    {intervals : List Interval}
    {windowStartMs windowEndMs first last period : ℚ}
    {rest : List ℚ}
    {multiples : List Nat}
    (hStarts :
      (mergeRunningBursts intervals windowStartMs windowEndMs
        2).map Prod.fst = first :: rest)
    (hLast : (first :: rest).getLast? = some last)
    (hGaps : gapsOf (first :: rest) = multipleGaps period multiples)
    (hMin : 5 ≤ period)
    (hMax : period ≤ 250)
    (hEnough : 6 ≤ multiples.length)
    (hMultiples :
      ∀ multiple ∈ multiples, 1 ≤ multiple ∧ multiple ≤ 8)
    (hOnes : 60 * multiples.length ≤ 100 * multiples.count 1)
    (hTail : windowEndMs - last ≤ 8 * period * (12 / 10)) :
    detectStablePeriod intervals windowStartMs windowEndMs {} =
      .ok
        (some
          { startMs := first
            periodMs := period
            matchRatio := 1
            jitterRatio := some 0
            releases := rest.length + 1 }) := by
  have hPeriod : 0 < period := by linarith
  have hNonempty : multiples ≠ [] := by
    intro hEmpty
    simp [hEmpty] at hEnough
  have hLength : rest.length = multiples.length := by
    have hBoth := congrArg List.length hGaps
    simpa [gapsOf, multipleGaps] using hBoth
  have hSpan : 6 * period ≤ last - first := by
    have hSum := getLast_sub_head first rest
    rw [List.getLast?_eq_some_getLast
      (List.cons_ne_nil first rest), Option.some.injEq] at hLast
    have hGapSum :=
      sum_multipleGaps hPeriod
        (fun multiple hMultiple =>
          (hMultiples multiple hMultiple).1)
    rw [hLast, hGaps] at hSum
    have hMany : (6 : ℚ) ≤ multiples.length := by
      exact_mod_cast hEnough
    nlinarith
  have hRatio :
      (6 / 10 : ℚ) ≤ multiples.count 1 / multiples.length := by
    rw [le_div_iff₀ (by exact_mod_cast (by omega : 0 < multiples.length))]
    have hCast :
        (60 : ℚ) * multiples.length ≤
          100 * multiples.count 1 := by
      exact_mod_cast hOnes
    linarith
  have hFit :=
    periodFit_eq_fitCandidate hPeriod hMin hMax hNonempty
      hMultiples hOnes
  have hStable :
      stableFrom {} windowEndMs (first :: rest) =
        .ok
          (some
            { startMs := first
              periodMs := period
              matchRatio := 1
              jitterRatio := some 0
              releases := rest.length + 1 }) := by
    unfold stableFrom
    simp only [hGaps, List.head?_cons, hLast]
    rw [if_neg (by simp [multipleGaps]; omega), hFit,
      fitCandidate_period hPeriod hNonempty hMultiples]
    simp only [bind, Except.bind, Option.bind, acceptFit]
    rw [if_neg (by norm_num), if_neg (by linarith),
      if_neg (by push_cast; linarith),
      if_neg (by push_cast; linarith)]
    simp
  have hRange :
      List.range ((first :: rest).length - 6) =
        0 :: (List.range (rest.length - 6)).map Nat.succ := by
    have hCount :
        (first :: rest).length - 6 = rest.length - 6 + 1 := by
      simp only [List.length_cons]
      omega
    rw [hCount, List.range_succ_eq_map]
  unfold detectStablePeriod
  simp only [hStarts]
  rw [if_neg (by simp; omega), hRange, List.map_cons,
    List.drop_zero, firstStable, hStable]
  rfl

end Startup

end RsCamera
