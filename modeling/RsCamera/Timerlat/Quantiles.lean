import Mathlib.Algebra.Order.Floor.Ring
import Mathlib.Tactic.Linarith
import Mathlib.Tactic.NormNum
import RsCamera.Timerlat.Histogram

/-
  The quantiles of a timerlat histogram.

  The text itself says how often each latency was sampled: by
  the last line of its bucket under the last header.  The
  parser collects exactly these counts, and the rank that it
  looks for is the ceiling of the quantile of the count.

  Key definitions include:
    * `Table`, `tableOf`, `bucketCount`

  Key theorems include:
    * `collect_buckets`
    * `targetRank_eq_ceil`
    * `parseTimerlatHistogram_quantiles`
-/

------------------------------------------------------------
-- What The Text Says
------------------------------------------------------------

namespace RsCamera

namespace Timerlat

/- A column, a latency and a count. -/
structure Entry where
  column : String
  latencyUs : Int
  count : Int
deriving DecidableEq, Repr

/- The buckets under the last header. -/
structure Table where
  columns : List String
  entries : List Entry
deriving DecidableEq, Repr

def bucketEntries
    (columns : List String)
    (latency : String)
    (tokens : List String) : List Entry :=
  match pyInt latency, integers tokens with
  | .ok latencyUs, .ok values =>
      (columns.zip values).map (fun item =>
        ⟨item.1, latencyUs, item.2⟩)
  | _, _ => []

def Table.step (table : Table) : Line → Table
| .header columns => ⟨columns, []⟩
| .bucket latency tokens =>
    { table with
      entries :=
        table.entries ++
          bucketEntries table.columns latency tokens }
| _ => table

def tableOf (text : String) : Table :=
  (readLines text).foldl Table.step ⟨[], []⟩

/- The last count of a bucket that is not zero. -/
def lastCount
    (column : String)
    (latencyUs : Int)
    (entries : List Entry) : Option Int :=
  ((entries.filter (fun entry =>
    entry.column = column ∧ entry.latencyUs = latencyUs ∧
      entry.count ≠ 0)).getLast?).map Entry.count

/- How often a latency was sampled in a column. -/
def bucketCount
    (text column : String)
    (latencyUs : Int) : Int :=
  (lastCount column latencyUs (tableOf text).entries).getD 0

------------------------------------------------------------
-- What Is Collected
------------------------------------------------------------

theorem lastCount_concat
    (column : String)
    (latencyUs : Int)
    (entries : List Entry)
    (entry : Entry) :
    lastCount column latencyUs (entries ++ [entry]) =
      if entry.column = column ∧ entry.latencyUs = latencyUs ∧
          entry.count ≠ 0 then
        some entry.count
      else
        lastCount column latencyUs entries := by
  unfold lastCount
  rw [List.filter_append, List.filter_singleton]
  split
  next hHere =>
    simp [hHere]
  next hOther =>
    simp [hOther]

/- The parser has the columns and counts of the text. -/
structure Collected
    (table : Table)
    (parsed : Parsed) : Prop where
  columns : parsed.columns = table.columns
  counts :
    ∀ column latencyUs,
      (parsed.histograms.getD column ∅).get? latencyUs =
        lastCount column latencyUs table.entries

theorem getD_forColumns
    {V : Type}
    (columns : List String)
    (value : V)
    (column : String) :
    (forColumns columns value).getD column value = value := by
  unfold Dict.getD
  cases hGet : (forColumns columns value).get? column with
  | none => rfl
  | some found =>
      rcases Dict.get?_update_cases hGet with hOld | hNew
      · cases hOld
      · rcases List.mem_map.mp hNew with ⟨other, -, hIs⟩
        rw [Prod.mk.injEq] at hIs
        rw [Option.getD_some, ← hIs.2]

theorem collected_start
    (columns : List String) :
    Collected ⟨columns, []⟩ (Parsed.start columns) where
  columns := rfl
  counts := by
    intro column latencyUs
    unfold Parsed.start
    simp only
    rw [getD_forColumns]
    rfl

/- One value of a bucket line. -/
theorem setBucket_counts
    {histograms : Dict String (Dict Int Int)}
    {entries : List Entry}
    (hCounts :
      ∀ column latencyUs,
        (histograms.getD column ∅).get? latencyUs =
          lastCount column latencyUs entries)
    (latency : Int)
    (item : String × Int) :
    ∀ column latencyUs,
      ((setBucket latency histograms item).getD column
          ∅).get? latencyUs =
        lastCount column latencyUs
          (entries ++ [⟨item.1, latency, item.2⟩]) := by
  intro column latencyUs
  rw [lastCount_concat]
  unfold setBucket
  split
  next hSome =>
    by_cases hColumn : item.1 = column
    · subst hColumn
      rw [Dict.getD, Dict.get?_set, if_pos rfl,
        Option.getD_some, Dict.get?_set, hCounts]
      simp [hSome, eq_comm]
    · rw [Dict.getD, Dict.get?_set, if_neg (Ne.symm hColumn),
        ← Dict.getD, hCounts, if_neg]
      exact fun hBoth => hColumn hBoth.1
  next hNone =>
    rw [hCounts, if_neg]
    exact fun hBoth => hNone hBoth.2.2

theorem foldl_setBucket_counts
    {histograms : Dict String (Dict Int Int)}
    {entries : List Entry}
    (hCounts :
      ∀ column latencyUs,
        (histograms.getD column ∅).get? latencyUs =
          lastCount column latencyUs entries)
    (latency : Int)
    (items : List (String × Int)) :
    ∀ column latencyUs,
      ((items.foldl (setBucket latency)
          histograms).getD column ∅).get? latencyUs =
        lastCount column latencyUs
          (entries ++ items.map (fun item =>
            ⟨item.1, latency, item.2⟩)) := by
  induction items generalizing histograms entries with
  | nil => simpa using hCounts
  | cons item items ih =>
      rw [List.foldl_cons, List.map_cons, List.append_cons]
      exact ih (setBucket_counts hCounts latency item)

theorem columnValues_eq_ok
    {columns tokens : List String}
    {error : String}
    {items : List (String × Int)}
    (hItems : columnValues columns tokens error = .ok items) :
    ∃ values,
      integers tokens = .ok values ∧
        items = columns.zip values := by
  rcases bind_eq_ok.mp hItems with ⟨values, hValues, hRest⟩
  refine ⟨values, hValues, ?_⟩
  split at hRest
  · cases hRest
  · exact (Except.ok.inj hRest).symm

theorem Collected.step
    {table : Table}
    {parsed next : Parsed}
    {line : Line}
    (hCollected : Collected table parsed)
    (hStep : parsed.step line = .ok next) :
    Collected (table.step line) next := by
  cases line with
  | skipped =>
      cases hStep
      exact hCollected
  | header columns =>
      cases hStep
      exact collected_start columns
  | summary key tokens =>
      rw [Parsed.step] at hStep
      split at hStep
      · cases hStep
        exact hCollected
      · rcases bind_eq_ok.mp hStep with ⟨items, -, hNext⟩
        cases hNext
        exact ⟨hCollected.columns, hCollected.counts⟩
  | overflow tokens =>
      rw [Parsed.step] at hStep
      split at hStep
      · cases hStep
        exact hCollected
      · rcases bind_eq_ok.mp hStep with ⟨items, -, hNext⟩
        cases hNext
        exact ⟨hCollected.columns, hCollected.counts⟩
  | bucket latency tokens =>
      rw [Parsed.step] at hStep
      split at hStep
      next hNone =>
        -- Without columns a bucket line has no entries.
        cases hStep
        rw [hCollected.columns] at hNone
        refine ⟨hCollected.columns, ?_⟩
        intro column latencyUs
        have hEntries :
            bucketEntries table.columns latency tokens = [] := by
          rw [hNone, bucketEntries]
          split
          · rfl
          · rfl
        rw [Table.step, hEntries, List.append_nil]
        exact hCollected.counts column latencyUs
      next hSome =>
        rcases bind_eq_ok.mp hStep with
          ⟨latencyUs, hLatency, hRest⟩
        rcases bind_eq_ok.mp hRest with ⟨items, hItems, hNext⟩
        cases hNext
        rcases columnValues_eq_ok hItems with
          ⟨values, hValues, hIs⟩
        refine ⟨hCollected.columns, ?_⟩
        have hEntries :
            bucketEntries table.columns latency tokens =
              items.map (fun item =>
                ⟨item.1, latencyUs, item.2⟩) := by
          rw [bucketEntries, hLatency, hValues, hIs,
            hCollected.columns]
        rw [Table.step, hEntries]
        exact foldl_setBucket_counts hCollected.counts latencyUs
          items

theorem collect_collected
    {text : String}
    {parsed : Parsed}
    (hCollect : collect text = .ok parsed) :
    Collected (tableOf text) parsed := by
  unfold collect at hCollect
  unfold tableOf
  generalize readLines text = lines at hCollect ⊢
  induction lines using List.reverseRecOn
    generalizing parsed with
  | nil =>
      cases hCollect
      exact
        { columns := rfl
          counts := fun _ _ => rfl }
  | append_singleton lines line ih =>
      rcases foldlM_concat_eq_ok.mp hCollect with
        ⟨before, hBefore, hStep⟩
      rw [List.foldl_append, List.foldl_cons, List.foldl_nil]
      exact (ih hBefore).step hStep

------------------------------------------------------------
-- Ranks
------------------------------------------------------------

/- Every quantile is a multiple of a ten-thousandth. -/
theorem Quantile.value_eq
    (quantile : Quantile) :
    ∃ parts : Int, 0 < parts ∧
      quantile.value = parts / 10000 := by
  cases quantile with
  | p50 => exact ⟨5000, by norm_num, by norm_num [value]⟩
  | p99 => exact ⟨9900, by norm_num, by norm_num [value]⟩
  | p999 => exact ⟨9990, by norm_num, by norm_num [value]⟩
  | p9999 => exact ⟨9999, by norm_num, by norm_num [value]⟩

/-
  Adding almost one and cutting off rounds up a multiple of a
  ten-thousandth.
-/
theorem floor_add_eq_ceil
    (n : Int) :
    ⌊(n : ℚ) / 10000 + 999999999 / 1000000000⌋ =
      ⌈(n : ℚ) / 10000⌉ := by
  have hUpper := Int.le_ceil ((n : ℚ) / 10000)
  have hLower := Int.ceil_lt_add_one ((n : ℚ) / 10000)
  generalize ⌈(n : ℚ) / 10000⌉ = rank at hUpper hLower
  rw [div_le_iff₀ (by norm_num)] at hUpper
  rw [← sub_lt_iff_lt_add, lt_div_iff₀ (by norm_num)] at hLower
  have hUpperInt : n ≤ rank * 10000 := by exact_mod_cast hUpper
  have hLowerInt : (rank - 1) * 10000 < n := by
    exact_mod_cast hLower
  -- The next ten-thousandth is enough.
  have hNext : (rank - 1) * 10000 + 1 ≤ n := hLowerInt
  have hNextQ : ((rank : ℚ) - 1) * 10000 + 1 ≤ n := by
    exact_mod_cast hNext
  have hUpperQ : (n : ℚ) ≤ rank * 10000 := by
    exact_mod_cast hUpperInt
  rw [Int.floor_eq_iff]
  constructor
  · linarith
  · linarith

theorem targetRank_eq_ceil
    {total : Int}
    (hTotal : 0 < total)
    (quantile : Quantile) :
    targetRank total quantile.value =
        ⌈quantile.value * total⌉ ∧
      1 ≤ ⌈quantile.value * total⌉ := by
  rcases quantile.value_eq with ⟨parts, hParts, hValue⟩
  have hProduct :
      quantile.value * total =
        ((parts * total : Int) : ℚ) / 10000 := by
    rw [hValue]
    push_cast
    ring
  have hPositive : 1 ≤ ⌈quantile.value * total⌉ := by
    rw [Int.one_le_ceil_iff, hProduct]
    have hBoth : 0 < parts * total := mul_pos hParts hTotal
    have hBothQ : (0 : ℚ) < ((parts * total : Int) : ℚ) := by
      exact_mod_cast hBoth
    positivity
  refine ⟨?_, hPositive⟩
  unfold targetRank
  rw [mul_comm (total : ℚ), hProduct, floor_add_eq_ceil,
    ← hProduct]
  exact max_eq_right hPositive

theorem targetRank_mono
    {total : Int}
    (hTotal : 0 < total)
    {small large : ℚ}
    (hLe : small ≤ large) :
    targetRank total small ≤ targetRank total large := by
  have hTotalQ : (0 : ℚ) ≤ total := by exact_mod_cast hTotal.le
  have hProduct := mul_le_mul_of_nonneg_left hLe hTotalQ
  unfold targetRank
  exact max_le_max_left 1
    (Int.floor_mono (by linarith))

theorem sortedBuckets_sorted
    (buckets : Dict Int Int) :
    ((sortedBuckets buckets).map Prod.fst).Pairwise
      (· < ·) := by
  have hPerm :
      (sortedBuckets buckets).Perm buckets.items :=
    List.perm_insertionSort _ _
  have hNodup : ((sortedBuckets buckets).map Prod.fst).Nodup :=
    (hPerm.map Prod.fst).nodup_iff.mpr buckets.nodup
  have hSorted :=
    List.pairwise_insertionSort
      (fun left right : Int × Int => left.1 ≤ right.1)
      buckets.items
  rw [List.pairwise_map]
  have hBoth := hSorted.and (List.pairwise_map.mp hNodup)
  refine hBoth.imp ?_
  rintro left right ⟨hLe, hNe⟩
  exact lt_of_le_of_ne hLe hNe

/- A later quantile is a later rank. -/
theorem nearestRank_mono
    (buckets : Dict Int Int)
    (total : Int)
    {small large : ℚ}
    (hLe : small ≤ large)
    {high : Int}
    (hHigh : nearestRank buckets total large = some high) :
    ∃ low,
      nearestRank buckets total small = some low ∧
        low ≤ high := by
  unfold nearestRank at hHigh ⊢
  split at hHigh
  · cases hHigh
  next hTotal =>
    rw [if_neg hTotal]
    exact Ranks.firstReaching_mono (fun _ => le_refl _)
      ((sortedBuckets_sorted buckets).imp (fun hLess =>
        hLess.le))
      (targetRank_mono (not_le.mp hTotal) hLe) hHigh

/- The samples of a column in order. -/
def columnSamples (buckets : Dict Int Int) : List Int :=
  Ranks.samples (sortedBuckets buckets)

theorem count_columnSamples
    (buckets : Dict Int Int)
    (latencyUs : Int) :
    (columnSamples buckets).count latencyUs =
      ((buckets.get? latencyUs).getD 0).toNat := by
  have hPerm :
      (sortedBuckets buckets).Perm buckets.items :=
    List.perm_insertionSort _ _
  have hNodup : ((sortedBuckets buckets).map Prod.fst).Nodup :=
    (hPerm.map Prod.fst).nodup_iff.mpr buckets.nodup
  cases hGet : buckets.get? latencyUs with
  | none =>
      apply Ranks.count_samples_of_not_mem
      intro hIn
      have hKey : latencyUs ∈ buckets.keys :=
        (hPerm.map Prod.fst).subset hIn
      rcases Dict.mem_keys_iff.mp hKey with ⟨count, hCount⟩
      rw [hGet] at hCount
      cases hCount
  | some count =>
      have hItem : (latencyUs, count) ∈ sortedBuckets buckets :=
        hPerm.symm.subset (Dict.mem_items_iff.mpr hGet)
      exact Ranks.count_samples hNodup hItem

/- Without negative counts, a rank is a place in the samples. -/
theorem nearestRank_eq
    {buckets : Dict Int Int}
    (hCounts :
      ∀ latencyUs, 0 ≤ (buckets.get? latencyUs).getD 0)
    {total : Int}
    (hTotal : 0 < total)
    (quantile : Quantile) :
    nearestRank buckets total quantile.value =
      (columnSamples buckets)[
        (⌈quantile.value * total⌉ - 1).toNat]? := by
  rcases targetRank_eq_ceil hTotal quantile with
    ⟨hRank, hPositive⟩
  have hItems :
      ∀ item ∈ sortedBuckets buckets, 0 ≤ item.2 := by
    intro item hItem
    have hIn :=
      (List.perm_insertionSort _ _).subset hItem
    have hGet : buckets.get? item.1 = some item.2 :=
      Dict.mem_items_iff.mp hIn
    have hHere := hCounts item.1
    rwa [hGet, Option.getD_some] at hHere
  unfold nearestRank columnSamples
  rw [if_neg (not_le.mpr hTotal), hRank,
    Ranks.firstReaching_eq hItems (by omega), sub_zero]

theorem length_columnSamples
    {buckets : Dict Int Int}
    (hCounts :
      ∀ latencyUs, 0 ≤ (buckets.get? latencyUs).getD 0) :
    ((columnSamples buckets).length : Int) =
      (buckets.items.map Prod.snd).sum := by
  have hPerm :
      (sortedBuckets buckets).Perm buckets.items :=
    List.perm_insertionSort _ _
  unfold columnSamples
  rw [Ranks.length_samples, (hPerm.map Prod.snd).sum_eq]
  intro item hItem
  have hGet : buckets.get? item.1 = some item.2 :=
    Dict.mem_items_iff.mp (hPerm.subset hItem)
  have hHere := hCounts item.1
  rwa [hGet, Option.getD_some] at hHere

------------------------------------------------------------
-- The Quantiles Of A Text
------------------------------------------------------------

/- What the parser has checked of an accepted text. -/
theorem parseTimerlatHistogram_ok
    {text : String}
    {report : Report}
    (hParse : parseTimerlatHistogram text = .ok report) :
    ∃ parsed,
      collect text = .ok parsed ∧
        ∀ column ∈ report.columns, ∃ context,
          report.contexts.get? column = some context ∧
            makeContext parsed column = .ok context := by
  rcases bind_eq_ok.mp hParse with ⟨parsed, hCollect, hRest⟩
  refine ⟨parsed, hCollect, ?_⟩
  split at hRest
  · cases hRest
  split at hRest
  · cases hRest
  rcases bind_eq_ok.mp hRest with ⟨contexts, hContexts, hIs⟩
  cases hIs
  simp only
  clear hParse hCollect hRest
  generalize parsed.columns = columns at hContexts
  induction columns using List.reverseRecOn
    generalizing contexts with
  | nil => simp
  | append_singleton columns last ih =>
      rcases foldlM_concat_eq_ok.mp hContexts with
        ⟨before, hBefore, hStep⟩
      rcases bind_eq_ok.mp hStep with ⟨made, hMade, hSet⟩
      cases hSet
      intro column hColumn
      rw [Dict.get?_set]
      split
      next hLast => exact ⟨made, rfl, hLast ▸ hMade⟩
      next hOther =>
        rcases List.mem_append.mp hColumn with hIn | hIn
        · exact ih before hBefore column hIn
        · exact absurd (List.mem_singleton.mp hIn) hOther

theorem makeContext_eq_ok
    {parsed : Parsed}
    {column : String}
    {context : Context}
    (hContext : makeContext parsed column = .ok context) :
    context.histogramCount + context.overflow = context.count ∧
      context.histogramCount =
        ((parsed.histograms.getD column ∅).items.map
          Prod.snd).sum ∧
      ∀ quantile,
        context.quantile quantile =
          nearestRank (parsed.histograms.getD column ∅)
            context.count quantile.value := by
  unfold makeContext at hContext
  simp only at hContext
  split at hContext
  · cases hContext
  next hSum =>
    cases hContext
    refine ⟨not_not.mp hSum, rfl, ?_⟩
    intro quantile
    cases quantile with
    | p50 => rfl
    | p99 => rfl
    | p999 => rfl
    | p9999 => rfl

/-
  The last part is about texts that count samples: a column
  with a negative number in it counts none.
-/
theorem parseTimerlatHistogram_quantiles
    (text : String)
    (report : Report)
    (hParse : parseTimerlatHistogram text = .ok report) :
    ∀ column ∈ report.columns, ∃ context,
      report.contexts.get? column = some context ∧
      context.histogramCount + context.overflow = context.count ∧
      (∀ small large : Quantile, small.value ≤ large.value →
        (context.quantile small = none →
          context.quantile large = none) ∧
        ∀ low high,
          context.quantile small = some low →
            context.quantile large = some high →
              low ≤ high) ∧
      ((∀ latencyUs, 0 ≤ bucketCount text column latencyUs) →
        0 ≤ context.overflow →
        ∃ samples : List Int,
          samples.Pairwise (· ≤ ·) ∧
          (∀ latencyUs,
            (samples.count latencyUs : Int) =
              bucketCount text column latencyUs) ∧
          (samples.length : Int) = context.histogramCount ∧
          ∀ quantile : Quantile,
            (context.quantile quantile = none ↔
              context.count = 0 ∨
                (samples.length : Int) <
                  ⌈quantile.value * context.count⌉) ∧
            ∀ value, context.quantile quantile = some value →
              samples[(⌈quantile.value *
                context.count⌉ - 1).toNat]? = some value) := by
  rcases parseTimerlatHistogram_ok hParse with
    ⟨parsed, hCollect, hContexts⟩
  have hCollected := collect_collected hCollect
  intro column hColumn
  rcases hContexts column hColumn with ⟨context, hGet, hMake⟩
  rcases makeContext_eq_ok hMake with
    ⟨hSum, hInRange, hQuantile⟩
  refine ⟨context, hGet, hSum, ?_, ?_⟩
  · intro small large hLe
    simp only [hQuantile]
    constructor
    · intro hNone
      rw [Option.eq_none_iff_forall_ne_some]
      intro high hHigh
      rcases nearestRank_mono _ _ hLe hHigh with
        ⟨low, hLow, -⟩
      rw [hNone] at hLow
      cases hLow
    · intro low high hLow hHigh
      rcases nearestRank_mono _ _ hLe hHigh with
        ⟨earlier, hEarlier, hOrder⟩
      rw [hLow, Option.some.injEq] at hEarlier
      rw [hEarlier]
      exact hOrder
  · intro hCounts hOver
    have hBuckets :
        ∀ latencyUs,
          ((parsed.histograms.getD column ∅).get?
              latencyUs).getD 0 =
            bucketCount text column latencyUs := by
      intro latencyUs
      rw [hCollected.counts]
      rfl
    have hNonneg :
        ∀ latencyUs,
          0 ≤ ((parsed.histograms.getD column ∅).get?
            latencyUs).getD 0 := by
      intro latencyUs
      rw [hBuckets]
      exact hCounts latencyUs
    have hLength := length_columnSamples hNonneg
    rw [← hInRange] at hLength
    refine ⟨columnSamples (parsed.histograms.getD column ∅),
      Ranks.samples_sorted (sortedBuckets_sorted _), ?_,
      hLength, ?_⟩
    · intro latencyUs
      rw [count_columnSamples, hBuckets,
        Int.toNat_of_nonneg (hCounts latencyUs)]
    · intro quantile
      rcases Int.lt_or_le 0 context.count with hSome | hNone
      · have hPositive := (targetRank_eq_ceil hSome quantile).2
        rw [hQuantile, nearestRank_eq hNonneg hSome]
        refine ⟨?_, fun value hValue => hValue⟩
        rw [List.getElem?_eq_none_iff]
        omega
      · have hZero : context.count = 0 := by omega
        rw [hQuantile, nearestRank, if_pos hNone]
        exact ⟨by simp [hZero], by simp⟩

/- A bucket that is given twice, and a sample above all. -/
def repeatedBucket : String :=
  "# RTLA timerlat histogram\nIndex   IRQ-000\n" ++
    "0  3\n5  1\n5  2\nover:  1\n" ++
    "count:  6\nmin:  0\navg:  2\nmax:  9\n"

/- The columns of a text, and the context of one of them. -/
def accepted
    (text column : String) :
    Option (List String × Option Context) :=
  match parseTimerlatHistogram text with
  | .ok report => some (report.columns, report.contexts.get? column)
  | .error _ => none

theorem bucketCount_nonneg
    {text column : String}
    (hEntries :
      ∀ entry ∈ (tableOf text).entries, 0 ≤ entry.count)
    (latencyUs : Int) :
    0 ≤ bucketCount text column latencyUs := by
  unfold bucketCount lastCount
  cases hLast : List.getLast? _ with
  | none => exact le_refl 0
  | some entry =>
      exact hEntries entry
        (List.mem_of_mem_filter (List.mem_of_getLast? hLast))

/- Five samples in the buckets, and one above all of them. -/
theorem repeatedBucket_quantiles :
    ∃ report context,
      parseTimerlatHistogram repeatedBucket = .ok report ∧
        report.contexts.get? "IRQ-000" = some context ∧
        context.p50Us = some 0 ∧ context.p99Us = none ∧
        ∃ samples : List Int,
          samples.Pairwise (· ≤ ·) ∧ samples.count 0 = 3 ∧
            samples.count 5 = 2 ∧ samples.length = 5 ∧
            samples[2]? = some 0 := by
  have hAccepted :
      accepted repeatedBucket "IRQ-000" =
        some
          (["IRQ-000"],
            some
              { count := 6
                min := 0
                avg := 2
                max := 9
                overflow := 1
                histogramCount := 5
                p50Us := some 0
                p99Us := none
                p999Us := none
                p9999Us := none }) := by
    decide +kernel
  unfold accepted at hAccepted
  split at hAccepted
  next report hParse =>
    rw [Option.some.injEq, Prod.mk.injEq] at hAccepted
    rcases hAccepted with ⟨hColumns, hContext⟩
    rcases parseTimerlatHistogram_quantiles repeatedBucket
      report hParse "IRQ-000" (by rw [hColumns]; simp) with
      ⟨context, hGet, hSum, -, hSamples⟩
    rw [hContext, Option.some.injEq] at hGet
    subst hGet
    rcases hSamples
        (bucketCount_nonneg (by decide +kernel)) (by decide) with
      ⟨samples, hSorted, hCounts, hLength, hRanks⟩
    have hZero : samples.count 0 = 3 := by
      have hCount := hCounts 0
      rw [show bucketCount repeatedBucket "IRQ-000" 0 = 3 by
        decide +kernel] at hCount
      exact_mod_cast hCount
    have hFive : samples.count 5 = 2 := by
      have hCount := hCounts 5
      rw [show bucketCount repeatedBucket "IRQ-000" 5 = 2 by
        decide +kernel] at hCount
      exact_mod_cast hCount
    have hInRange : (samples.length : Int) = 5 := hLength
    have hThird := (hRanks .p50).2 0 rfl
    rw [show (⌈Quantile.p50.value * ((6 : Int) : ℚ)⌉ - 1).toNat =
      2 by decide +kernel] at hThird
    exact
      ⟨report, _, hParse, hContext, rfl, rfl, samples, hSorted,
        hZero, hFive, by exact_mod_cast hInRange, hThird⟩
  next => cases hAccepted

end Timerlat

end RsCamera
