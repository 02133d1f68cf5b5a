import RsCamera.Controls.CpuList
import RsCamera.Lib.Runs
import RsCamera.Lib.Texts

/-
  The canonical texts of CPU lists.

  `format_cpu_list` writes the maximal runs of a set, and
  `parse_cpu_list` reads them back.  A set has one canonical
  text, so two accepted texts stand for the same set exactly
  if their canonical forms are equal.

  Key definitions include:
    * `cpuRuns`, `runsText`
    * `Canonical`

  Key theorems include:
    * `cpuRuns_spec`
    * `parseCpuList_runsText`
    * `cpuList_roundTrip`
-/

------------------------------------------------------------
-- The Runs Of A Set
------------------------------------------------------------

namespace RsCamera

namespace Controls

section

open Runs (Holds Maximal)

/- What `format_cpu_list` writes, as numbers. -/
def cpuRuns (cpus : Finset Nat) : List (Nat × Nat) :=
  match sortedCpus cpus with
  | [] => []
  | value :: values => cpuRanges value value values

/- The text of a list of ranges. -/
def runsText (runs : List (Nat × Nat)) : String :=
  String.intercalate "," (runs.map cpuRangeText)

theorem formatCpuList_eq
    (cpus : Finset Nat) :
    formatCpuList cpus = runsText (cpuRuns cpus) := by
  unfold formatCpuList cpuRuns
  cases sortedCpus cpus with
  | nil => rfl
  | cons value values => rfl

theorem pairwise_sortedCpus
    (cpus : Finset Nat) :
    (sortedCpus cpus).Pairwise (· < ·) :=
  List.pairwise_lt_range.filter _

theorem mem_sortedCpus
    {cpus : Finset Nat}
    {cpu : Nat} :
    cpu ∈ sortedCpus cpus ↔ cpu ∈ cpus := by
  unfold sortedCpus
  rw [List.mem_filter, List.mem_range, decide_eq_true_eq]
  constructor
  · rintro ⟨-, hCpu⟩
    exact hCpu
  · intro hCpu
    have hLe : cpu ≤ cpus.sup id :=
      @Finset.le_sup _ _ _ _ cpus id cpu hCpu
    exact ⟨by omega, hCpu⟩

theorem first_le_of_mem_cpuRanges
    {first previous : Nat}
    {values : List Nat}
    (hFilled : first ≤ previous)
    (hSorted : (previous :: values).Pairwise (· < ·)) :
    ∀ run ∈ cpuRanges first previous values,
      first ≤ run.1 := by
  induction values generalizing first previous with
  | nil => simp [cpuRanges]
  | cons value values ih =>
      rw [List.pairwise_cons] at hSorted
      have hLater := hSorted.1 value List.mem_cons_self
      rw [cpuRanges]
      split
      next hNext => exact ih (by omega) hSorted.2
      next hGap =>
        rw [List.forall_mem_cons]
        refine ⟨Nat.le_refl _, ?_⟩
        intro run hRun
        have hLe := ih (Nat.le_refl _) hSorted.2 run hRun
        omega

/- The open run and the values behind it, as runs. -/
theorem cpuRanges_spec
    {first previous : Nat}
    {values : List Nat}
    (hFilled : first ≤ previous)
    (hSorted : (previous :: values).Pairwise (· < ·)) :
    Maximal (cpuRanges first previous values) ∧
      ∀ n, Holds (cpuRanges first previous values) n ↔
        (first ≤ n ∧ n ≤ previous) ∨ n ∈ values := by
  induction values generalizing first previous with
  | nil =>
      rw [cpuRanges]
      refine ⟨?_, ?_⟩
      · exact Runs.maximal_cons.mpr
          ⟨hFilled, by simp, Runs.maximal_nil⟩
      · simp [Holds]
  | cons value values ih =>
      rw [List.pairwise_cons] at hSorted
      have hLater := hSorted.1 value List.mem_cons_self
      rw [cpuRanges]
      split
      next hNext =>
        have hRest := @ih first value (by omega) hSorted.2
        refine ⟨hRest.1, ?_⟩
        intro n
        rw [hRest.2 n, List.mem_cons]
        constructor
        · rintro (⟨hFirst, hLast⟩ | hIn)
          · by_cases hHere : n ≤ previous
            · exact Or.inl ⟨hFirst, hHere⟩
            · exact Or.inr (Or.inl (by omega))
          · exact Or.inr (Or.inr hIn)
        · rintro (⟨hFirst, hLast⟩ | hIs | hIn)
          · exact Or.inl ⟨hFirst, by omega⟩
          · exact Or.inl ⟨by omega, by omega⟩
          · exact Or.inr hIn
      next hGap =>
        have hRest := @ih value value (Nat.le_refl _) hSorted.2
        refine ⟨?_, ?_⟩
        · rw [Runs.maximal_cons]
          refine ⟨hFilled, ?_, hRest.1⟩
          intro run hRun
          have hLe :=
            first_le_of_mem_cpuRanges (Nat.le_refl _)
              hSorted.2 run hRun
          simp only
          omega
        · intro n
          rw [Runs.holds_cons, hRest.2 n, List.mem_cons]
          have hSame : value ≤ n ∧ n ≤ value ↔ n = value := by
            omega
          rw [hSame]

theorem cpuRuns_spec
    (cpus : Finset Nat) :
    Maximal (cpuRuns cpus) ∧
      ∀ cpu, Holds (cpuRuns cpus) cpu ↔ cpu ∈ cpus := by
  have hSorted := pairwise_sortedCpus cpus
  have hMem := @mem_sortedCpus cpus
  unfold cpuRuns
  split
  next hNone =>
    rw [hNone] at hMem
    refine ⟨Runs.maximal_nil, ?_⟩
    intro cpu
    rw [← hMem]
    simp [Holds]
  next value values hSome =>
    rw [hSome] at hSorted hMem
    have hSpec := cpuRanges_spec (Nat.le_refl value) hSorted
    refine ⟨hSpec.1, ?_⟩
    intro cpu
    rw [hSpec.2 cpu, ← hMem, List.mem_cons]
    have hSame : value ≤ cpu ∧ cpu ≤ value ↔ cpu = value := by
      omega
    rw [hSame]

end

------------------------------------------------------------
-- Reading Runs
------------------------------------------------------------

section

open Runs (Holds Maximal)

/- The digits of a number. -/
theorem isDigit_of_mem_toString
    {n : Nat}
    {c : Char}
    (hC : c ∈ (toString n).toList) :
    c.isDigit = true := by
  have hText : (toString n).toList = Nat.toDigits 10 n :=
    Nat.toList_repr
  rw [hText] at hC
  exact Nat.isDigit_of_mem_toDigits (by decide) (by decide) hC

theorem toString_ne_nil
    (n : Nat) :
    (toString n).toList ≠ [] := by
  have hText : (toString n).toList = Nat.toDigits 10 n :=
    Nat.toList_repr
  rw [hText]
  exact Nat.toDigits_ne_nil

theorem isDigits_toString
    (n : Nat) :
    isDigits (toString n).toList = true := by
  unfold isDigits
  rw [Bool.and_eq_true, decide_eq_true_eq, List.all_eq_true]
  refine ⟨toString_ne_nil n, ?_⟩
  intro c hC
  unfold isPyDigit
  rw [isDecimal_of_isDigit (isDigit_of_mem_toString hC),
    Bool.true_or]

theorem digitsValue_toString
    (n : Nat) :
    digitsValue (toString n).toList = .ok n := by
  unfold digitsValue
  rw [String.ofList_toList, pyInt_natCast]
  rfl

theorem minus_not_mem_toString
    (n : Nat) :
    '-' ∉ (toString n).toList := by
  intro hMinus
  exact absurd (isDigit_of_mem_toString hMinus) (by decide)

/- A run is read back as its numbers. -/
theorem parseCpuToken_cpuRangeText
    {run : Nat × Nat}
    (hFilled : run.1 ≤ run.2) :
    parseCpuToken (cpuRangeText run).toList =
      .ok (Finset.Icc run.1 run.2) := by
  unfold cpuRangeText
  split
  next hSingle =>
    unfold parseCpuToken
    rw [if_neg (minus_not_mem_toString run.1),
      isDigits_toString, digitsValue_toString, ← hSingle,
      Finset.Icc_self]
    rfl
  next hMany =>
    have hText :
        (toString run.1 ++ "-" ++ toString run.2).toList =
          (toString run.1).toList ++
            '-' :: (toString run.2).toList := by
      rw [String.toList_append, String.toList_append]
      simp
    have hDigit :
        ∀ c ∈ (toString run.1).toList,
          decide (c ≠ '-') = true := by
      intro c hC
      rw [decide_eq_true_eq]
      intro hMinus
      exact minus_not_mem_toString run.1 (hMinus ▸ hC)
    rw [hText]
    unfold parseCpuToken
    rw [if_pos (by simp),
      List.takeWhile_append_of_pos hDigit,
      List.dropWhile_append_of_pos hDigit]
    simp only [ne_eq, decide_not, decide_true, Bool.not_true,
      Bool.false_eq_true, not_false_eq_true,
      List.takeWhile_cons_of_neg, List.dropWhile_cons_of_neg,
      List.append_nil, List.tail_cons, isDigits_toString,
      digitsValue_toString, and_self, not_true_eq_false,
      if_false]
    change (if run.2 < run.1 then _ else _) = _
    rw [if_neg (by omega)]

theorem not_mem_cpuRangeText
    {run : Nat × Nat}
    {c : Char}
    (hDigit : c.isDigit = false)
    (hMinus : c ≠ '-') :
    c ∉ (cpuRangeText run).toList := by
  have hNumber : ∀ n : Nat, c ∉ (toString n).toList := by
    intro n hC
    rw [isDigit_of_mem_toString hC] at hDigit
    cases hDigit
  unfold cpuRangeText
  split
  · exact hNumber run.1
  · simp only [String.toList_append, List.mem_append, not_or]
    exact ⟨⟨hNumber run.1, by simpa using hMinus⟩,
      hNumber run.2⟩

theorem cpuRangeText_ne_nil
    (run : Nat × Nat) :
    (cpuRangeText run).toList ≠ [] := by
  unfold cpuRangeText
  split
  · exact toString_ne_nil run.1
  · simp [String.toList_append]

theorem not_isDigit_of_isPySpace
    {c : Char}
    (hSpace : isPySpace c = true) :
    c.isDigit = false := by
  rw [← Bool.not_eq_true]
  intro hDigit
  rw [not_isPySpace_of_isDigit hDigit] at hSpace
  cases hSpace

theorem pyStrip_of_plain
    {text : List Char}
    (hPlain : ∀ c, isPySpace c = true → c ∉ text) :
    pyStrip text = text := by
  apply pyStrip_of_ends
  · intro c hC
    rw [← Bool.not_eq_true]
    intro hSpace
    exact hPlain c hSpace (List.mem_of_head? hC)
  · intro c hC
    rw [← Bool.not_eq_true]
    intro hSpace
    exact hPlain c hSpace (List.mem_of_getLast? hC)

theorem ne_of_isPySpace
    {c other : Char}
    (hSpace : isPySpace c = true)
    (hOther : isPySpace other = false) :
    c ≠ other := by
  intro hSame
  rw [hSame, hOther] at hSpace
  cases hSpace

theorem pyStrip_cpuRangeText
    (run : Nat × Nat) :
    pyStrip (cpuRangeText run).toList =
      (cpuRangeText run).toList := by
  apply pyStrip_of_plain
  intro c hSpace
  exact not_mem_cpuRangeText (not_isDigit_of_isPySpace hSpace)
    (ne_of_isPySpace hSpace (by decide))

theorem parseCpuTokens_runs
    (value : String)
    {runs : List (Nat × Nat)}
    (hFilled : ∀ run ∈ runs, run.1 ≤ run.2)
    (cpus : Finset Nat) :
    ∃ all,
      parseCpuTokens value
          (runs.map (fun run => (cpuRangeText run).toList))
          cpus =
        .ok all ∧
      ∀ cpu, cpu ∈ all ↔ cpu ∈ cpus ∨ Holds runs cpu := by
  induction runs generalizing cpus with
  | nil => exact ⟨cpus, rfl, by simp [Holds]⟩
  | cons run runs ih =>
      rw [List.forall_mem_cons] at hFilled
      rcases ih hFilled.2 (cpus ∪ Finset.Icc run.1 run.2) with
        ⟨all, hParse, hAll⟩
      refine ⟨all, ?_, ?_⟩
      · rw [List.map_cons, parseCpuTokens,
          pyStrip_cpuRangeText]
        simp only [cpuRangeText_ne_nil, if_false]
        rw [parseCpuToken_cpuRangeText hFilled.1]
        exact hParse
      · intro cpu
        rw [hAll cpu, Runs.holds_cons, Finset.mem_union,
          Finset.mem_Icc, or_assoc]

theorem toList_runsText
    (runs : List (Nat × Nat)) :
    (runsText runs).toList =
      [','].intercalate
        (runs.map (fun run => (cpuRangeText run).toList)) := by
  unfold runsText
  rw [String.toList_intercalate, List.map_map]
  rfl

theorem parseCpuList_runsText
    {runs : List (Nat × Nat)}
    (hFilled : ∀ run ∈ runs, run.1 ≤ run.2) :
    ∃ cpus,
      parseCpuList (runsText runs) = .ok cpus ∧
        ∀ cpu, cpu ∈ cpus ↔ Holds runs cpu := by
  have hStrip :
      pyStrip (runsText runs).toList =
        (runsText runs).toList := by
    apply pyStrip_of_plain
    intro c hSpace
    rw [toList_runsText]
    apply Texts.not_mem_intercalate
      (ne_of_isPySpace hSpace (by decide))
    intro part hPart
    rcases List.mem_map.mp hPart with ⟨run, -, hIs⟩
    rw [← hIs]
    exact not_mem_cpuRangeText
      (not_isDigit_of_isPySpace hSpace)
      (ne_of_isPySpace hSpace (by decide))
  cases runs with
  | nil => exact ⟨∅, by decide, by simp [Holds]⟩
  | cons run runs =>
      have hSome : (runsText (run :: runs)).toList ≠ [] := by
        rw [toList_runsText, List.map_cons,
          Texts.intercalate_cons]
        exact List.append_ne_nil_of_left_ne_nil
          (cpuRangeText_ne_nil run) _
      have hSplit :
          ((runsText (run :: runs)).toList).splitOn ',' =
            (run :: runs).map (fun run =>
              (cpuRangeText run).toList) := by
        rw [toList_runsText]
        apply List.splitOn_intercalate
        · intro part hPart
          rcases List.mem_map.mp hPart with ⟨other, -, hIs⟩
          rw [← hIs]
          exact not_mem_cpuRangeText (by decide) (by decide)
        · simp
      rcases parseCpuTokens_runs (runsText (run :: runs))
        hFilled ∅ with ⟨cpus, hParse, hCpus⟩
      refine ⟨cpus, ?_, by simpa using hCpus⟩
      unfold parseCpuList
      simp only
      rw [hStrip, if_neg hSome, hSplit]
      exact hParse

end

------------------------------------------------------------
-- The Round Trip
------------------------------------------------------------

open Runs (Holds Maximal)

/- The text of maximal runs. -/
def Canonical (text : String) : Prop :=
  ∃ runs, Maximal runs ∧ text = runsText runs

theorem canonical_formatCpuList
    (cpus : Finset Nat) :
    Canonical (formatCpuList cpus) :=
  ⟨cpuRuns cpus, (cpuRuns_spec cpus).1, formatCpuList_eq cpus⟩

theorem parseCpuList_formatCpuList
    (cpus : Finset Nat) :
    parseCpuList (formatCpuList cpus) = .ok cpus := by
  have hSpec := cpuRuns_spec cpus
  rcases parseCpuList_runsText hSpec.1.filled with
    ⟨read, hParse, hRead⟩
  rw [formatCpuList_eq, hParse]
  refine congrArg Except.ok (Finset.ext ?_)
  intro cpu
  rw [hRead cpu, hSpec.2 cpu]

theorem Canonical.eq_formatCpuList
    {text : String}
    {cpus : Finset Nat}
    (hCanonical : Canonical text)
    (hParse : parseCpuList text = .ok cpus) :
    text = formatCpuList cpus := by
  rcases hCanonical with ⟨runs, hMaximal, hText⟩
  have hSpec := cpuRuns_spec cpus
  rcases parseCpuList_runsText hMaximal.filled with
    ⟨read, hRuns, hRead⟩
  rw [hText] at hParse ⊢
  rw [hRuns, Except.ok.injEq] at hParse
  subst hParse
  rw [formatCpuList_eq]
  refine congrArg runsText (hMaximal.unique hSpec.1 ?_)
  intro cpu
  rw [← hRead cpu, hSpec.2 cpu]

theorem cpuList_roundTrip :
    (∀ cpus : Finset Nat,
      parseCpuList (formatCpuList cpus) = .ok cpus) ∧
    (∀ cpus : Finset Nat, ∃ runs : List (Nat × Nat),
      formatCpuList cpus =
          String.intercalate "," (runs.map cpuRangeText) ∧
        runs.Pairwise (fun earlier later =>
          earlier.2 + 1 < later.1) ∧
        (∀ cpu, cpu ∈ cpus ↔
          ∃ run ∈ runs, run.1 ≤ cpu ∧ cpu ≤ run.2) ∧
        ∀ run ∈ runs,
          run.1 ≤ run.2 ∧ run.2 + 1 ∉ cpus ∧
            ∀ cpu, cpu + 1 = run.1 → cpu ∉ cpus) ∧
    (∀ text cpus, parseCpuList text = .ok cpus →
      Canonical (formatCpuList cpus) ∧
        parseCpuList (formatCpuList cpus) = .ok cpus ∧
        ∀ other, Canonical other →
          parseCpuList other = .ok cpus →
            other = formatCpuList cpus) ∧
    ∀ text other cpus others,
      parseCpuList text = .ok cpus →
        parseCpuList other = .ok others →
          (cpus = others ↔
            formatCpuList cpus = formatCpuList others) := by
  refine ⟨parseCpuList_formatCpuList, ?_, ?_, ?_⟩
  · intro cpus
    have hSpec := cpuRuns_spec cpus
    refine ⟨cpuRuns cpus, formatCpuList_eq cpus,
      hSpec.1.apart, fun cpu => (hSpec.2 cpu).symm, ?_⟩
    intro run hRun
    refine ⟨hSpec.1.filled run hRun, ?_, ?_⟩
    · rw [← hSpec.2]
      exact hSpec.1.not_holds_after hRun
    · intro cpu hBefore
      rw [← hSpec.2]
      exact hSpec.1.not_holds_before hRun hBefore
  · intro text cpus _
    exact ⟨canonical_formatCpuList cpus,
      parseCpuList_formatCpuList cpus,
      fun other hCanonical hParse =>
        hCanonical.eq_formatCpuList hParse⟩
  · intro text other cpus others _ _
    constructor
    · intro hSame
      rw [hSame]
    · intro hSame
      have hRead := parseCpuList_formatCpuList cpus
      rw [hSame, parseCpuList_formatCpuList] at hRead
      exact (Except.ok.inj hRead).symm

end Controls

end RsCamera
