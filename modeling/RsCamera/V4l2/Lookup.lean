import RsCamera.Lib.Dict
import RsCamera.Lib.Lookup
import RsCamera.Trace.Activations
import RsCamera.V4l2.Diagnostic

/-
  The row of a time: `nearest` in
  `parse_freshness_kernel_trace.py`, which finds the event of
  the kernel that belongs to an event of the capture threads,
  and `activation_at` in `parse_v4l2_diagnostic_trace.py`,
  which finds the activation that an event is part of.

  Both search by bisection. What they find is stated here as
  what a look at all rows would find.

  Key definitions include:
    * `nearest`, `Preferred`
    * `rowsOf`, `Sequential`

  Key theorems include:
    * `candidates_eq`
    * `get?_loadActivations`, `activationAt_eq_some_iff`
    * `sequential_threadActivations`
    * `nearest_activationAt_scan`
-/

------------------------------------------------------------
-- The Nearest Row
------------------------------------------------------------

namespace RsCamera

namespace V4l2

section Nearest

/- A row may have no number. -/
variable {Row : Type}
variable (timestamp : Row → Int)
variable (sequenceOf : Row → Option Int)

/- `int(row.get("sequence", -1)) == sequence`. -/
def hasSequence (sequence : Int) (row : Row) : Bool :=
  (sequenceOf row).getD (-1) = sequence

/- The rows from `begin` to before `end`. -/
def candidates
    (rows : List Row)
    (timestamps : List Int)
    (timestampNs radiusNs : Int) : List Row :=
  slice rows
    (bisectLeft timestamps (timestampNs - radiusNs))
    (bisectRight timestamps (timestampNs + radiusNs))

/- `abs(int(row["timestamp_ns"]) - timestamp_ns)`. -/
def distance (timestampNs : Int) (row : Row) : Nat :=
  (timestamp row - timestampNs).natAbs

def nearest
    (rows : List Row)
    (timestamps : List Int)
    (timestampNs radiusNs : Int)
    (sequence : Option Int) : Option Row :=
  let found := candidates rows timestamps timestampNs radiusNs
  let chosen :=
    match sequence with
    | none => found
    | some sequence =>
        let same := found.filter (hasSequence sequenceOf sequence)
        if same.isEmpty then found else same
  chosen.argmin (distance timestamp timestampNs)

/- A row within the radius, at its ends as well. -/
def Within (timestampNs radiusNs : Int) (row : Row) : Prop :=
  distance timestamp timestampNs row ≤ radiusNs

instance
    (timestampNs radiusNs : Int) :
    DecidablePred (Within timestamp timestampNs radiusNs) :=
  fun row =>
    inferInstanceAs
      (Decidable
        ((distance timestamp timestampNs row : Int) ≤ radiusNs))

/-
  A row that may be chosen: it has the number asked for,
  unless no row within the radius has.
-/
def Preferred
    (rows : List Row)
    (timestampNs radiusNs : Int)
    (sequence : Option Int)
    (row : Row) : Prop :=
  Within timestamp timestampNs radiusNs row ∧
    ∀ wanted, sequence = some wanted →
      (∃ other ∈ rows,
        Within timestamp timestampNs radiusNs other ∧
          hasSequence sequenceOf wanted other = true) →
      hasSequence sequenceOf wanted row = true

end Nearest

------------------------------------------------------------
-- Looking At All Rows
------------------------------------------------------------

section Scan

variable {Row : Type}
variable {timestamp : Row → Int}
variable (sequenceOf : Row → Option Int)
variable {rows : List Row}
variable
  (hSorted :
    rows.Pairwise (fun left right =>
      timestamp left ≤ timestamp right))
variable (timestampNs radiusNs : Int)

include hSorted in
/- The two bisections find the rows within the radius. -/
theorem candidates_eq :
    candidates rows (rows.map timestamp) timestampNs radiusNs =
      rows.filter (Within timestamp timestampNs radiusNs) := by
  rw [candidates, slice_bisect timestamp hSorted]
  apply List.filter_congr
  intro row _
  apply decide_eq_decide.mpr
  rw [Within, distance]
  omega

/- Without a number, every row within the radius may be. -/
theorem preferred_none_iff
    (row : Row) :
    Preferred timestamp sequenceOf rows timestampNs radiusNs none
        row ↔
      Within timestamp timestampNs radiusNs row := by
  simp [Preferred]

theorem preferred_some_iff_of_exists
    {wanted : Int}
    (hSome :
      ∃ other ∈ rows,
        Within timestamp timestampNs radiusNs other ∧
          hasSequence sequenceOf wanted other = true)
    (row : Row) :
    Preferred timestamp sequenceOf rows timestampNs radiusNs
        (some wanted) row ↔
      Within timestamp timestampNs radiusNs row ∧
        hasSequence sequenceOf wanted row = true := by
  constructor
  · rintro ⟨hWithin, hOnly⟩
    exact ⟨hWithin, hOnly wanted rfl hSome⟩
  · rintro ⟨hWithin, hSame⟩
    refine ⟨hWithin, ?_⟩
    intro other hOther _
    rw [← Option.some.inj hOther]
    exact hSame

theorem preferred_some_iff_of_not_exists
    {wanted : Int}
    (hNone :
      ¬ ∃ other ∈ rows,
        Within timestamp timestampNs radiusNs other ∧
          hasSequence sequenceOf wanted other = true)
    (row : Row) :
    Preferred timestamp sequenceOf rows timestampNs radiusNs
        (some wanted) row ↔
      Within timestamp timestampNs radiusNs row := by
  refine ⟨And.left, fun hWithin => ⟨hWithin, ?_⟩⟩
  intro other hOther hSome
  rw [← Option.some.inj hOther] at hSome
  exact absurd hSome hNone

include hSorted in
/- The least is looked for among the preferred rows. -/
theorem nearest_eq
    (sequence : Option Int) :
    ∃ test : Row → Bool,
      (∀ row,
        Preferred timestamp sequenceOf rows timestampNs radiusNs
            sequence row ↔
          test row = true) ∧
        nearest timestamp sequenceOf rows (rows.map timestamp)
            timestampNs radiusNs sequence =
          (rows.filter test).argmin
            (distance timestamp timestampNs) := by
  have hFound :=
    candidates_eq hSorted timestampNs radiusNs
  cases sequence with
  | none =>
      refine
        ⟨fun row => Within timestamp timestampNs radiusNs row,
          ?_, ?_⟩
      · intro row
        rw [preferred_none_iff, decide_eq_true_eq]
      · rw [nearest, hFound]
  | some wanted =>
      by_cases hSome :
          ∃ other ∈ rows,
            Within timestamp timestampNs radiusNs other ∧
              hasSequence sequenceOf wanted other = true
      · refine
          ⟨fun row =>
            hasSequence sequenceOf wanted row &&
              decide (Within timestamp timestampNs radiusNs row),
            ?_, ?_⟩
        · intro row
          rw [preferred_some_iff_of_exists _ _ _ hSome,
            Bool.and_eq_true, decide_eq_true_eq, and_comm]
        · have hSame :
              ((rows.filter
                  (Within timestamp timestampNs radiusNs)).filter
                (hasSequence sequenceOf wanted)).isEmpty =
                  false := by
            rcases hSome with ⟨other, hOther, hWithin, hHas⟩
            rw [List.isEmpty_eq_false_iff_exists_mem]
            refine ⟨other, List.mem_filter.mpr ⟨?_, hHas⟩⟩
            exact List.mem_filter.mpr
              ⟨hOther, decide_eq_true hWithin⟩
          rw [nearest, hFound]
          simp only [hSame, Bool.false_eq_true, if_false]
          rw [List.filter_filter]
      · refine
          ⟨fun row => Within timestamp timestampNs radiusNs row,
            ?_, ?_⟩
        · intro row
          rw [preferred_some_iff_of_not_exists _ _ _ hSome,
            decide_eq_true_eq]
        · have hNone :
              ((rows.filter
                  (Within timestamp timestampNs radiusNs)).filter
                (hasSequence sequenceOf wanted)).isEmpty =
                  true := by
            rw [List.isEmpty_iff, List.filter_eq_nil_iff]
            intro other hOther hHas
            rw [List.mem_filter, decide_eq_true_eq] at hOther
            exact hSome ⟨other, hOther.1, hOther.2, hHas⟩
          rw [nearest, hFound]
          simp only [hNone, if_true]

/- If a row is within the radius, one is preferred. -/
theorem exists_preferred_iff
    (sequence : Option Int) :
    (∃ row ∈ rows,
        Preferred timestamp sequenceOf rows timestampNs radiusNs
          sequence row) ↔
      ∃ row ∈ rows,
        Within timestamp timestampNs radiusNs row := by
  constructor
  · rintro ⟨row, hRow, hPreferred⟩
    exact ⟨row, hRow, hPreferred.1⟩
  · rintro ⟨row, hRow, hWithin⟩
    cases sequence with
    | none =>
        refine ⟨row, hRow, ?_⟩
        rw [preferred_none_iff]
        exact hWithin
    | some wanted =>
        by_cases hSome :
            ∃ other ∈ rows,
              Within timestamp timestampNs radiusNs other ∧
                hasSequence sequenceOf wanted other = true
        · rcases hSome with ⟨other, hOther, hBoth⟩
          refine ⟨other, hOther, ?_⟩
          rw [preferred_some_iff_of_exists _ _ _
            ⟨other, hOther, hBoth⟩]
          exact hBoth
        · refine ⟨row, hRow, ?_⟩
          rw [preferred_some_iff_of_not_exists _ _ _ hSome]
          exact hWithin

include hSorted in
theorem nearest_eq_none_iff
    (sequence : Option Int) :
    nearest timestamp sequenceOf rows (rows.map timestamp)
        timestampNs radiusNs sequence = none ↔
      ∀ row ∈ rows,
        ¬ Within timestamp timestampNs radiusNs row := by
  rcases nearest_eq sequenceOf hSorted timestampNs radiusNs
    sequence with ⟨test, hTest, hNearest⟩
  have hAny :=
    @exists_preferred_iff _ timestamp sequenceOf rows timestampNs
      radiusNs sequence
  rw [hNearest, List.argmin_eq_none, List.filter_eq_nil_iff]
  simp only [← hTest]
  rw [← not_iff_not]
  push Not
  exact hAny

include hSorted in
theorem nearest_firstMin
    {sequence : Option Int}
    {row : Row}
    (hRow :
      nearest timestamp sequenceOf rows (rows.map timestamp)
        timestampNs radiusNs sequence = some row) :
    FirstMin
      (Preferred timestamp sequenceOf rows timestampNs radiusNs
        sequence)
      (distance timestamp timestampNs) rows row := by
  rcases nearest_eq sequenceOf hSorted timestampNs radiusNs
    sequence with ⟨test, hTest, hNearest⟩
  have hSame :
      Preferred timestamp sequenceOf rows timestampNs radiusNs
          sequence =
        fun row => test row = true :=
    funext (fun row => propext (hTest row))
  rw [hSame]
  exact firstMin_of_argmin_filter (hNearest.symm.trans hRow)

end Scan

------------------------------------------------------------
-- The Activation Of A Time
------------------------------------------------------------

/- The rows of a thread, in the order of the file. -/
def rowsOf (rows : List ActivationRow) (tid : Int) :
    List ActivationRow :=
  rows.filter (fun row => row.tid = tid)

/- The time is in the activation or at one of its ends. -/
def ActivationRow.Holds
    (row : ActivationRow)
    (timestampNs : Int) : Prop :=
  row.releaseNs ≤ timestampNs ∧ timestampNs ≤ row.completionNs

/-
  The activations of a thread follow one another: they end
  after they begin, and one ends before the next begins or
  when it does. The rows may be in any order but for two that
  begin at the same time.
-/
structure Sequential (rows : List ActivationRow) : Prop where
  proper : ∀ row ∈ rows, row.releaseNs ≤ row.completionNs
  apart :
    rows.Pairwise
      (Apart ActivationRow.releaseNs ActivationRow.completionNs)

def sortByRelease (rows : List ActivationRow) :
    List ActivationRow :=
  rows.insertionSort
    (fun left right => left.releaseNs ≤ right.releaseNs)

theorem get?_loadActivations
    (rows : List ActivationRow)
    (tid : Int) :
    (loadActivations rows).get? tid =
      if rowsOf rows tid = [] then
        none
      else
        some
          ((sortByRelease (rowsOf rows tid)).map
              ActivationRow.releaseNs,
            sortByRelease (rowsOf rows tid)) := by
  have hLoaded :=
    get?_foldl_set
      (fun group =>
        ((sortByRelease group).map ActivationRow.releaseNs,
          sortByRelease group))
      (groupLists ActivationRow.tid rows) tid
  rw [get?_groupLists] at hLoaded
  refine hLoaded.trans ?_
  rw [rowsOf]
  split
  · rfl
  · rfl

section

variable {rows : List ActivationRow}

theorem mem_sortByRelease
    {row : ActivationRow} :
    row ∈ sortByRelease rows ↔ row ∈ rows :=
  List.mem_insertionSort _

theorem sortByRelease_sorted
    (rows : List ActivationRow) :
    (sortByRelease rows).Pairwise (fun left right =>
      left.releaseNs ≤ right.releaseNs) :=
  (insertionSort_stablySorted ActivationRow.releaseNs rows).sorted

/- What is found is the last activation that has begun. -/
theorem activationAt_eq_some_iff
    {tid timestampNs activation : Int} :
    activationAt (loadActivations rows) tid timestampNs =
        some activation ↔
      ∃ position row,
        bisectRight
            ((sortByRelease (rowsOf rows tid)).map
              ActivationRow.releaseNs) timestampNs =
            position + 1 ∧
          (sortByRelease (rowsOf rows tid))[position]? =
            some row ∧
          timestampNs ≤ row.completionNs ∧
          row.activation = activation := by
  rw [activationAt, get?_loadActivations]
  by_cases hNone : rowsOf rows tid = []
  · rw [if_pos hNone, hNone]
    simp [sortByRelease]
  · rw [if_neg hNone]
    simp only
    cases bisectRight
      ((sortByRelease (rowsOf rows tid)).map
        ActivationRow.releaseNs) timestampNs with
    | zero => simp
    | succ position =>
        simp only [Nat.add_right_cancel_iff, exists_and_left,
          exists_eq_left']
        cases (sortByRelease (rowsOf rows tid))[position]? with
        | none => simp
        | some row =>
            by_cases hIn : timestampNs ≤ row.completionNs
            · simp [hIn]
            · simp [hIn]

/- Whatever the rows: what is found holds the time. -/
theorem holds_of_activationAt
    {tid timestampNs activation : Int}
    (hFound :
      activationAt (loadActivations rows) tid timestampNs =
        some activation) :
    ∃ row ∈ rowsOf rows tid,
      row.Holds timestampNs ∧ row.activation = activation := by
  rcases activationAt_eq_some_iff.mp hFound with
    ⟨position, row, hCount, hRow, hIn, hIs⟩
  rcases exists_last_le ActivationRow.releaseNs
    (sortByRelease_sorted (rowsOf rows tid)) hCount with
    ⟨last, hLast, hBegun⟩
  have hSame : last = row :=
    Option.some.inj (hLast.symm.trans hRow)
  rw [hSame] at hBegun
  exact ⟨row, mem_sortByRelease.mp (List.mem_of_getElem? hRow),
    ⟨hBegun, hIn⟩, hIs⟩

theorem activationAt_of_holds
    {tid timestampNs : Int}
    (hSequential : Sequential (rowsOf rows tid))
    (hHolds :
      ∃ row ∈ rowsOf rows tid, row.Holds timestampNs) :
    ∃ activation,
      activationAt (loadActivations rows) tid timestampNs =
        some activation := by
  rcases hHolds with ⟨row, hRow, hBegun, hIn⟩
  have hDisjoint :
      Disjointed ActivationRow.releaseNs
        ActivationRow.completionNs
        (sortByRelease (rowsOf rows tid)) :=
    disjointed_insertionSort hSequential.proper
      hSequential.apart
  have hProper :
      ∀ row ∈ sortByRelease (rowsOf rows tid),
        row.releaseNs ≤ row.completionNs :=
    fun row hRow =>
      hSequential.proper row (mem_sortByRelease.mp hRow)
  rcases hDisjoint.exists_begun hProper
    (mem_sortByRelease.mpr hRow) hBegun hIn with
    ⟨position, last, hCount, hLast, hOver⟩
  exact ⟨last.activation,
    activationAt_eq_some_iff.mpr
      ⟨position, last, hCount, hLast, hOver, rfl⟩⟩

end

------------------------------------------------------------
-- The Rows That Are Written
------------------------------------------------------------

/- The columns of an activation that are read back. -/
def ActivationRow.ofTrace (row : Trace.Activation) :
    ActivationRow where
  tid := row.tid
  activation := row.activation
  releaseNs := row.releaseNs
  completionNs := row.completionNs

/- The parser of the steady trace writes them in order. -/
theorem sequential_threadActivations
    (events : List Trace.LimeEvent)
    (begin finish : Int)
    (labels : Trace.IntervalLabels) :
    Sequential
      ((Trace.threadActivations events begin finish labels).map
        ActivationRow.ofTrace) := by
  rcases Trace.threadActivations_sequenced events begin finish
    labels with ⟨hApart, hSpans⟩
  constructor
  · rw [List.forall_mem_map]
    intro row hRow
    exact (hSpans row hRow).release_le
  · rw [List.pairwise_map]
    exact hApart.imp (fun hOver => Or.inl hOver)

------------------------------------------------------------
-- Both Lookups
------------------------------------------------------------

/-
  The nearest row is the first of those at the least distance
  among the preferred ones of all rows, and there is none
  exactly if no row is within the radius. The activation of a
  time is one that holds it, if any of the thread does.
-/
theorem nearest_activationAt_scan
    {Row : Type}
    {timestamp : Row → Int}
    (sequenceOf : Row → Option Int)
    {rows : List Row}
    (hSorted :
      rows.Pairwise (fun left right =>
        timestamp left ≤ timestamp right))
    (queryNs radiusNs : Int)
    (sequence : Option Int)
    {activations : List ActivationRow}
    {tid : Int}
    (hSequential : Sequential (rowsOf activations tid))
    (timestampNs : Int) :
    (nearest timestamp sequenceOf rows (rows.map timestamp)
          queryNs radiusNs sequence = none ↔
        ∀ row ∈ rows, ¬ Within timestamp queryNs radiusNs row) ∧
      (∀ row,
        nearest timestamp sequenceOf rows (rows.map timestamp)
            queryNs radiusNs sequence = some row →
          FirstMin
            (Preferred timestamp sequenceOf rows queryNs radiusNs
              sequence)
            (distance timestamp queryNs) rows row) ∧
      (∀ activation,
        activationAt (loadActivations activations) tid
            timestampNs = some activation →
          ∃ row ∈ rowsOf activations tid,
            row.Holds timestampNs ∧
              row.activation = activation) ∧
      ((∃ row ∈ rowsOf activations tid, row.Holds timestampNs) →
        ∃ activation,
          activationAt (loadActivations activations) tid
            timestampNs = some activation) :=
  ⟨nearest_eq_none_iff sequenceOf hSorted queryNs radiusNs
      sequence,
    fun _ hRow =>
      nearest_firstMin sequenceOf hSorted queryNs radiusNs hRow,
    fun _ hFound => holds_of_activationAt hFound,
    fun hHolds => activationAt_of_holds hSequential hHolds⟩

/-
  Two rows of one time, and two activations that touch, the
  later one first in the file.
-/
theorem nearest_activationAt_scan_touching :
    (∃ row : Int × Int,
      nearest Prod.fst (fun row => some row.2)
          [(10, 1), (20, 2), (20, 3), (30, 3)] [10, 20, 20, 30]
          22 10 (some 3) = some row ∧
        FirstMin
          (Preferred Prod.fst (fun row => some row.2)
            [(10, 1), (20, 2), (20, 3), (30, 3)] 22 10 (some 3))
          (distance Prod.fst 22)
          [(10, 1), (20, 2), (20, 3), (30, 3)] row) ∧
      ∃ activation,
        activationAt
            (loadActivations [⟨7, 2, 20, 30⟩, ⟨7, 1, 10, 20⟩])
            7 20 = some activation := by
  have hBoth :=
    @nearest_activationAt_scan (Int × Int) Prod.fst
      (fun row => some row.2)
      [(10, 1), (20, 2), (20, 3), (30, 3)]
      (by decide) 22 10 (some 3)
      [⟨7, 2, 20, 30⟩, ⟨7, 1, 10, 20⟩] 7
      ⟨by decide, by simp [rowsOf, Apart]⟩ 20
  refine ⟨⟨(20, 3), ?_, ?_⟩, ?_⟩
  · decide
  · exact hBoth.2.1 (20, 3) (by decide)
  · exact hBoth.2.2.2
      ⟨⟨7, 1, 10, 20⟩, by simp [rowsOf],
        by simp [ActivationRow.Holds]⟩

end V4l2

end RsCamera
