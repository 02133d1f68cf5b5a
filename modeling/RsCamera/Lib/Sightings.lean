import Mathlib.Algebra.BigOperators.Group.Finset.Basic
import Mathlib.Data.Finset.Card
import Mathlib.Data.Finset.Union
import Mathlib.Data.List.Basic

/-
  Numbered sightings of streams, handed over in deliveries.

  A sighting is compared with a remembered earlier number of
  its stream: it repeats what is not newer, and it misses
  what lies between.  `tally` counts both over a whole list,
  for any memory of the past.  `lastNumber` is the memory
  that never forgets a stream.

  Main declarations:
    * `Sighting`, `lastNumber`
    * `Tally`, `tally`
    * `InDelivery`
    * `tally_rename`
    * `tally_append_of_disjoint`
    * `tally_eq_sum_streams`
    * `Harmless`
    * `tally_eq_of_harmless`, `tally_forgetful`
-/

------------------------------------------------------------
-- Sightings
------------------------------------------------------------

structure Sighting (K D : Type) where
  stream : K
  delivery : D
  number : Nat
deriving Repr, DecidableEq

section Memory

variable {K D : Type}
variable [DecidableEq K]

/- The numbers seen of one stream, in order. -/
def numbersSeen
    (seen : List (Sighting K D))
    (stream : K) : List Nat :=
  (seen.filter (fun sighting => sighting.stream = stream)).map
    Sighting.number

/- The last number seen of a stream. -/
def lastNumber
    (seen : List (Sighting K D))
    (stream : K) : Option Nat :=
  (numbersSeen seen stream).getLast?

@[simp] theorem lastNumber_nil
    (stream : K) :
    lastNumber ([] : List (Sighting K D)) stream = none := rfl

theorem numbersSeen_append
    (seen more : List (Sighting K D))
    (stream : K) :
    numbersSeen (seen ++ more) stream =
      numbersSeen seen stream ++ numbersSeen more stream := by
  simp [numbersSeen]

theorem lastNumber_append_singleton
    (seen : List (Sighting K D))
    (sighting : Sighting K D)
    (stream : K) :
    lastNumber (seen ++ [sighting]) stream =
      if sighting.stream = stream then
        some sighting.number
      else
        lastNumber seen stream := by
  unfold lastNumber
  rw [numbersSeen_append]
  by_cases hStream : sighting.stream = stream
  · simp [numbersSeen, hStream]
  · simp [numbersSeen, hStream]

variable {seen : List (Sighting K D)}
variable {stream : K}

/- Other streams have no numbers to show for this one. -/
theorem numbersSeen_eq_nil
    (hNone : ∀ sighting ∈ seen, sighting.stream ≠ stream) :
    numbersSeen seen stream = [] := by
  unfold numbersSeen
  rw [List.map_eq_nil_iff, List.filter_eq_nil_iff]
  intro other hOther hSame
  exact hNone other hOther (of_decide_eq_true hSame)

/- Sightings of other streams do not change what is known. -/
theorem lastNumber_append_right
    (hNone : ∀ sighting ∈ seen, sighting.stream ≠ stream)
    (more : List (Sighting K D)) :
    lastNumber (seen ++ more) stream =
      lastNumber more stream := by
  unfold lastNumber
  rw [numbersSeen_append, numbersSeen_eq_nil hNone,
    List.nil_append]

/- Nothing later of a stream leaves its last number. -/
theorem lastNumber_append_left
    {more : List (Sighting K D)}
    (hNone : ∀ sighting ∈ more, sighting.stream ≠ stream)
    (seen : List (Sighting K D)) :
    lastNumber (seen ++ more) stream =
      lastNumber seen stream := by
  unfold lastNumber
  rw [numbersSeen_append, numbersSeen_eq_nil hNone,
    List.append_nil]

/- A number seen before is the number of some sighting. -/
theorem exists_of_lastNumber
    {last : Nat}
    (hLast : lastNumber seen stream = some last) :
    ∃ sighting ∈ seen,
      sighting.stream = stream ∧ sighting.number = last := by
  unfold lastNumber numbersSeen at hLast
  rcases List.mem_map.mp (List.mem_of_getLast? hLast) with
    ⟨sighting, hSighting, hNumber⟩
  rw [List.mem_filter] at hSighting
  exact ⟨sighting, hSighting.1,
    of_decide_eq_true hSighting.2, hNumber⟩

end Memory

------------------------------------------------------------
-- Tallies
------------------------------------------------------------

/- A sighting that is not newer than the number before. -/
def isRepeat (prior : Option Nat) (number : Nat) : Bool :=
  prior.any (fun last => number ≤ last)

/- How many numbers lie between a sighting and the last. -/
def missedSince (prior : Option Nat) (number : Nat) : Nat :=
  match prior with
  | none => 0
  | some last => number - last - 1

@[simp] theorem isRepeat_none
    (number : Nat) :
    isRepeat none number = false := rfl

@[simp] theorem isRepeat_some
    (last number : Nat) :
    isRepeat (some last) number = decide (number ≤ last) := rfl

@[simp] theorem missedSince_none
    (number : Nat) :
    missedSince none number = 0 := rfl

@[simp] theorem missedSince_some
    (last number : Nat) :
    missedSince (some last) number = number - last - 1 := rfl

/- Something is missing before a number past the next. -/
theorem missedSince_pos_iff
    {last number : Nat} :
    0 < missedSince (some last) number ↔ last + 1 < number := by
  rw [missedSince_some]
  omega

/-
  The deliveries seen, those with a repeat, those with a
  gap, and the number of repeats and of missing numbers.
-/
structure Tally (D : Type) where
  deliveries : Finset D := ∅
  stale : Finset D := ∅
  gapped : Finset D := ∅
  repeats : Nat := 0
  missing : Nat := 0

section Tallies

variable {K D : Type}
variable [DecidableEq D]

/- Account one sighting, given the number before it. -/
def Tally.observe
    (total : Tally D)
    (prior : Option Nat)
    (sighting : Sighting K D) : Tally D where
  deliveries := insert sighting.delivery total.deliveries
  stale :=
    if isRepeat prior sighting.number then
      insert sighting.delivery total.stale
    else
      total.stale
  gapped :=
    if 0 < missedSince prior sighting.number then
      insert sighting.delivery total.gapped
    else
      total.gapped
  repeats :=
    total.repeats +
      (if isRepeat prior sighting.number then 1 else 0)
  missing :=
    total.missing + missedSince prior sighting.number

/-
  Tally a list of sightings.  The memory says which earlier
  number a sighting is compared with, given what was seen.
-/
def tally
    (memory : List (Sighting K D) → Sighting K D → Option Nat)
    (seen : List (Sighting K D)) : Tally D :=
  (seen.foldl
    (fun past sighting =>
      (past.1 ++ [sighting],
        past.2.observe (memory past.1 sighting) sighting))
    (([], {}) : List (Sighting K D) × Tally D)).2

theorem foldl_tally_fst
    (memory : List (Sighting K D) → Sighting K D → Option Nat)
    (seen before : List (Sighting K D))
    (total : Tally D) :
    (seen.foldl
      (fun past sighting =>
        (past.1 ++ [sighting],
          past.2.observe (memory past.1 sighting) sighting))
      (before, total)).1 = before ++ seen := by
  induction seen generalizing before total with
  | nil => simp
  | cons sighting seen ih =>
      rw [List.foldl_cons, ih]
      simp

@[simp] theorem tally_nil
    (memory :
      List (Sighting K D) → Sighting K D → Option Nat) :
    tally memory [] = {} := rfl

theorem tally_append_singleton
    (memory : List (Sighting K D) → Sighting K D → Option Nat)
    (seen : List (Sighting K D))
    (sighting : Sighting K D) :
    tally memory (seen ++ [sighting]) =
      (tally memory seen).observe (memory seen sighting)
        sighting := by
  unfold tally
  rw [List.foldl_append, List.foldl_cons, List.foldl_nil]
  simp only
  rw [foldl_tally_fst, List.nil_append]

/- The deliveries do not depend on the memory. -/
theorem tally_deliveries
    (memory : List (Sighting K D) → Sighting K D → Option Nat)
    (seen : List (Sighting K D)) :
    (tally memory seen).deliveries =
      (seen.map Sighting.delivery).toFinset := by
  induction seen using List.reverseRecOn with
  | nil => rfl
  | append_singleton seen sighting ih =>
      rw [tally_append_singleton]
      unfold Tally.observe
      simp only
      rw [ih, List.map_append, List.toFinset_append]
      ext delivery
      simp

/- Only deliveries that were seen are stale or gapped. -/
theorem tally_subset_deliveries
    (memory : List (Sighting K D) → Sighting K D → Option Nat)
    (seen : List (Sighting K D)) :
    (tally memory seen).stale ∪ (tally memory seen).gapped ⊆
      (tally memory seen).deliveries := by
  induction seen using List.reverseRecOn with
  | nil => exact Finset.empty_subset _
  | append_singleton seen sighting ih =>
      rw [tally_append_singleton]
      unfold Tally.observe
      simp only
      intro delivery hDelivery
      rw [Finset.mem_insert]
      by_cases hSame : delivery = sighting.delivery
      · exact Or.inl hSame
      · right
        apply ih
        rw [Finset.mem_union] at hDelivery ⊢
        rcases hDelivery with hStale | hGapped
        · left
          split at hStale
          · exact Finset.mem_of_mem_insert_of_ne hStale hSame
          · exact hStale
        · right
          split at hGapped
          · exact
              Finset.mem_of_mem_insert_of_ne hGapped hSame
          · exact hGapped

end Tallies

------------------------------------------------------------
-- One Delivery At A Time
------------------------------------------------------------

section Deliveries

variable {K D : Type}
variable [DecidableEq D]
variable
  {memory : List (Sighting K D) → Sighting K D → Option Nat}

/-
  The counters of a pass amid the rows of one delivery: the
  flags say whether the delivery is stale or gapped so far.
-/
structure InDelivery
    (memory : List (Sighting K D) → Sighting K D → Option Nat)
    (before : List (Sighting K D))
    (delivery : D)
    (rows : List (Sighting K D))
    (anyStale anyGap : Bool)
    (repeats : Nat)
    (missing : Int) : Prop where
  repeats_eq :
    repeats = (tally memory (before ++ rows)).repeats
  missing_eq :
    missing = ((tally memory (before ++ rows)).missing : Int)
  stale_eq :
    (tally memory (before ++ rows)).stale =
      if anyStale then
        insert delivery (tally memory before).stale
      else
        (tally memory before).stale
  gapped_eq :
    (tally memory (before ++ rows)).gapped =
      if anyGap then
        insert delivery (tally memory before).gapped
      else
        (tally memory before).gapped

theorem inDelivery_nil
    (before : List (Sighting K D))
    (delivery : D) :
    InDelivery memory before delivery [] false false
      (tally memory before).repeats
      (tally memory before).missing := by
  constructor <;> rw [List.append_nil] <;> rfl

/- One more row of the delivery. -/
theorem InDelivery.observe
    {before rows : List (Sighting K D)}
    {delivery : D}
    {anyStale anyGap : Bool}
    {repeats : Nat}
    {missing : Int}
    (hCounts :
      InDelivery memory before delivery rows anyStale anyGap
        repeats missing)
    {row : Sighting K D}
    {prior : Option Nat}
    (hDelivery : row.delivery = delivery)
    (hPrior : memory (before ++ rows) row = prior) :
    InDelivery memory before delivery (rows ++ [row])
      (anyStale || isRepeat prior row.number)
      (anyGap || decide (0 < missedSince prior row.number))
      (repeats + (if isRepeat prior row.number then 1 else 0))
      (missing + (missedSince prior row.number : Int)) := by
  have hTally :
      tally memory (before ++ (rows ++ [row])) =
        (tally memory (before ++ rows)).observe prior row := by
    rw [← List.append_assoc, tally_append_singleton, hPrior]
  constructor
  · rw [hTally, hCounts.repeats_eq]
    rfl
  · rw [hTally, hCounts.missing_eq]
    simp only [Tally.observe]
    push_cast
    rfl
  · rw [hTally]
    simp only [Tally.observe, hCounts.stale_eq, hDelivery,
      Bool.or_eq_true]
    by_cases hRepeat : isRepeat prior row.number = true
    · by_cases hAny : anyStale = true
      · simp [hRepeat, hAny]
      · simp [hRepeat, hAny]
    · simp [hRepeat]
  · rw [hTally]
    simp only [Tally.observe, hCounts.gapped_eq, hDelivery,
      Bool.or_eq_true, decide_eq_true_eq]
    by_cases hGap : 0 < missedSince prior row.number
    · by_cases hAny : anyGap = true
      · simp [hGap, hAny]
      · simp [hGap, hAny]
    · simp [hGap]

/- A new delivery adds one to what its flags say. -/
theorem InDelivery.card_eq
    {before rows : List (Sighting K D)}
    {delivery : D}
    {anyStale anyGap : Bool}
    {repeats : Nat}
    {missing : Int}
    (hCounts :
      InDelivery memory before delivery rows anyStale anyGap
        repeats missing)
    (hNew : delivery ∉ (tally memory before).deliveries) :
    (tally memory (before ++ rows)).stale.card =
        (tally memory before).stale.card + anyStale.toNat ∧
      (tally memory (before ++ rows)).gapped.card =
        (tally memory before).gapped.card + anyGap.toNat ∧
      ((tally memory (before ++ rows)).stale ∪
          (tally memory (before ++ rows)).gapped).card =
        ((tally memory before).stale ∪
            (tally memory before).gapped).card +
          (anyStale || anyGap).toNat := by
  have hSubset := tally_subset_deliveries memory before
  have hProblem :
      delivery ∉ (tally memory before).stale ∪
        (tally memory before).gapped :=
    fun hMember => hNew (hSubset hMember)
  have hStale : delivery ∉ (tally memory before).stale :=
    fun hMember =>
      hProblem (Finset.mem_union_left _ hMember)
  have hGapped : delivery ∉ (tally memory before).gapped :=
    fun hMember =>
      hProblem (Finset.mem_union_right _ hMember)
  rw [hCounts.stale_eq, hCounts.gapped_eq]
  cases anyStale <;> cases anyGap <;>
    simp [Finset.card_insert_of_notMem hProblem,
      Finset.card_insert_of_notMem hStale,
      Finset.card_insert_of_notMem hGapped]

end Deliveries

------------------------------------------------------------
-- Renaming
------------------------------------------------------------

section Renaming

variable {K K' D D' : Type}
variable [DecidableEq K] [DecidableEq K']
variable [DecidableEq D] [DecidableEq D']

/- The memory that never forgets a stream. -/
def remembered
    (seen : List (Sighting K D))
    (sighting : Sighting K D) : Option Nat :=
  lastNumber seen sighting.stream

def Sighting.rename
    (f : K → K')
    (g : D → D')
    (sighting : Sighting K D) : Sighting K' D' where
  stream := f sighting.stream
  delivery := g sighting.delivery
  number := sighting.number

def Tally.rename
    (g : D → D')
    (total : Tally D) : Tally D' where
  deliveries := total.deliveries.image g
  stale := total.stale.image g
  gapped := total.gapped.image g
  repeats := total.repeats
  missing := total.missing

omit [DecidableEq D] [DecidableEq D'] in
theorem lastNumber_rename
    {f : K → K'}
    (hInjective : Function.Injective f)
    (g : D → D')
    (seen : List (Sighting K D))
    (stream : K) :
    lastNumber (seen.map (Sighting.rename f g)) (f stream) =
      lastNumber seen stream := by
  induction seen using List.reverseRecOn with
  | nil => rfl
  | append_singleton seen sighting ih =>
      rw [List.map_append, List.map_singleton,
        lastNumber_append_singleton,
        lastNumber_append_singleton, ih]
      simp only [Sighting.rename, hInjective.eq_iff]

/- A tally is the same under other names for the streams. -/
theorem tally_rename
    {f : K → K'}
    (hInjective : Function.Injective f)
    (g : D → D')
    (seen : List (Sighting K D)) :
    tally remembered (seen.map (Sighting.rename f g)) =
      (tally remembered seen).rename g := by
  induction seen using List.reverseRecOn with
  | nil => rfl
  | append_singleton seen sighting ih =>
      have hMemory :
          remembered (seen.map (Sighting.rename f g))
              (sighting.rename f g) =
            remembered seen sighting :=
        lastNumber_rename hInjective g seen sighting.stream
      rw [List.map_append, List.map_singleton,
        tally_append_singleton, tally_append_singleton, ih,
        hMemory]
      unfold Tally.observe Tally.rename Sighting.rename
      simp only [Finset.image_insert]
      congr 1
      · split <;> simp
      · split <;> simp

end Renaming

------------------------------------------------------------
-- Separate Sources
------------------------------------------------------------

section Sources

variable {K D : Type}
variable [DecidableEq K] [DecidableEq D]

/- The tally of two lists that share no stream. -/
def Tally.join (left right : Tally D) : Tally D where
  deliveries := left.deliveries ∪ right.deliveries
  stale := left.stale ∪ right.stale
  gapped := left.gapped ∪ right.gapped
  repeats := left.repeats + right.repeats
  missing := left.missing + right.missing

omit [DecidableEq K] in
theorem Tally.join_observe
    (left right : Tally D)
    (prior : Option Nat)
    (sighting : Sighting K D) :
    (left.join right).observe prior sighting =
      left.join (right.observe prior sighting) := by
  unfold Tally.observe Tally.join
  simp only [Finset.union_insert, Nat.add_assoc]
  congr 1
  · split <;> simp
  · split <;> simp

theorem tally_append_of_disjoint
    {seen more : List (Sighting K D)}
    (hDisjoint :
      ∀ sighting ∈ seen, ∀ other ∈ more,
        sighting.stream ≠ other.stream) :
    tally remembered (seen ++ more) =
      (tally remembered seen).join
        (tally remembered more) := by
  induction more using List.reverseRecOn with
  | nil => simp [Tally.join]
  | append_singleton more sighting ih =>
      have hMemory :
          remembered (seen ++ more) sighting =
            remembered more sighting := by
        apply lastNumber_append_right
        intro other hOther
        exact hDisjoint other hOther sighting (by simp)
      have hRest :=
        ih (fun other hOther another hAnother =>
          hDisjoint other hOther another
            (List.mem_append_left _ hAnother))
      rw [← List.append_assoc, tally_append_singleton, hRest,
        hMemory, Tally.join_observe,
        ← tally_append_singleton]

end Sources

------------------------------------------------------------
-- Totals Over Streams
------------------------------------------------------------

section Streams

variable {K D : Type}
variable [DecidableEq K] [DecidableEq D]

/-
  A counter of the tally is a sum over the streams, when
  each number adds to the weight of its own stream what it
  adds to the counter.
-/
theorem tally_eq_sum_streams
    {count : Tally D → Nat}
    {gain : Option Nat → Nat → Nat}
    {weight : List Nat → Nat}
    (hEmpty : count {} = 0)
    (hObserve :
      ∀ total prior (sighting : Sighting K D),
        count (total.observe prior sighting) =
          count total + gain prior sighting.number)
    (hNil : weight [] = 0)
    {seen : List (Sighting K D)}
    (hGain :
      ∀ before sighting, before ++ [sighting] <+: seen →
        weight (numbersSeen before sighting.stream ++
            [sighting.number]) =
          weight (numbersSeen before sighting.stream) +
            gain (remembered before sighting) sighting.number)
    {streams : Finset K}
    (hStreams :
      ∀ sighting ∈ seen, sighting.stream ∈ streams) :
    count (tally remembered seen) =
      ∑ stream ∈ streams,
        weight (numbersSeen seen stream) := by
  induction seen using List.reverseRecOn with
  | nil =>
      rw [tally_nil, hEmpty, Finset.sum_eq_zero]
      intro stream _
      exact hNil
  | append_singleton seen sighting ih =>
      have hBefore :=
        ih (fun before other hPrefix =>
            hGain before other
              (hPrefix.trans (List.prefix_append _ _)))
          (fun other hOther =>
            hStreams other (List.mem_append_left _ hOther))
      have hMember : sighting.stream ∈ streams :=
        hStreams sighting (by simp)
      have hOthers :
          ∑ stream ∈ streams.erase sighting.stream,
              weight (numbersSeen (seen ++ [sighting]) stream) =
            ∑ stream ∈ streams.erase sighting.stream,
              weight (numbersSeen seen stream) := by
        apply Finset.sum_congr rfl
        intro stream hOther
        have hNe : sighting.stream ≠ stream :=
          (Finset.ne_of_mem_erase hOther).symm
        rw [numbersSeen_append]
        simp [numbersSeen, hNe]
      have hOwn :
          numbersSeen (seen ++ [sighting]) sighting.stream =
            numbersSeen seen sighting.stream ++
              [sighting.number] := by
        rw [numbersSeen_append]
        simp [numbersSeen]
      rw [tally_append_singleton, hObserve, hBefore,
        ← Finset.add_sum_erase _ _ hMember,
        ← Finset.add_sum_erase _ _ hMember, hOthers, hOwn,
        hGain seen sighting (List.prefix_refl _)]
      omega

end Streams

------------------------------------------------------------
-- Forgetful Memories
------------------------------------------------------------

section Forgetful

variable {K D : Type}
variable [DecidableEq D]
variable
  {memory memory' :
    List (Sighting K D) → Sighting K D → Option Nat}

/-
  Where the second memory has lost a number of the first,
  the sighting is the very next number.
-/
def Harmless
    (memory memory' :
      List (Sighting K D) → Sighting K D → Option Nat)
    (seen : List (Sighting K D)) : Prop :=
  ∀ before sighting, before ++ [sighting] <+: seen →
    memory' before sighting ≠ memory before sighting →
      ∀ last, memory before sighting = some last →
        sighting.number = last + 1

omit [DecidableEq D] in
theorem harmless_append_singleton
    {seen : List (Sighting K D)}
    {sighting : Sighting K D} :
    Harmless memory memory' (seen ++ [sighting]) ↔
      Harmless memory memory' seen ∧
        (memory' seen sighting ≠ memory seen sighting →
          ∀ last, memory seen sighting = some last →
            sighting.number = last + 1) := by
  unfold Harmless
  constructor
  · intro hAll
    refine ⟨?_, hAll seen sighting (List.prefix_refl _)⟩
    intro before other hPrefix
    exact hAll before other
      (hPrefix.trans (List.prefix_append _ _))
  · rintro ⟨hBefore, hLast⟩ before other hPrefix
    rcases List.prefix_concat_iff.mp hPrefix with
      hEq | hShort
    · rcases List.append_inj' hEq rfl with ⟨hSeen, hOne⟩
      cases List.singleton_inj.mp hOne
      cases hSeen
      exact hLast
    · exact hBefore before other hShort

/- Forgetting before the very next number changes nothing. -/
theorem observe_forgotten
    (total : Tally D)
    {last : Nat}
    {sighting : Sighting K D}
    (hNext : sighting.number = last + 1) :
    total.observe none sighting =
      total.observe (some last) sighting := by
  unfold Tally.observe
  simp [hNext]

/- A memory that forgets harmlessly gives the same tally. -/
theorem tally_eq_of_harmless
    (hForgets :
      ∀ seen sighting,
        memory' seen sighting = memory seen sighting ∨
          memory' seen sighting = none)
    {seen : List (Sighting K D)}
    (hHarmless : Harmless memory memory' seen) :
    tally memory' seen = tally memory seen := by
  induction seen using List.reverseRecOn with
  | nil => rfl
  | append_singleton seen sighting ih =>
      rcases harmless_append_singleton.mp hHarmless with
        ⟨hBefore, hLast⟩
      rw [tally_append_singleton, tally_append_singleton,
        ih hBefore]
      rcases hForgets seen sighting with hSame | hNone
      · rw [hSame]
      · cases hFull : memory seen sighting with
        | none => rw [hNone]
        | some last =>
            have hNext : sighting.number = last + 1 := by
              apply hLast _ last hFull
              simp [hNone, hFull]
            rw [hNone, observe_forgotten _ hNext]

/-
  A forgetful memory counts no more, and it counts as much
  only where all that it forgets is harmless.
-/
theorem tally_forgetful
    (hForgets :
      ∀ seen sighting,
        memory' seen sighting = memory seen sighting ∨
          memory' seen sighting = none)
    (seen : List (Sighting K D)) :
    ((tally memory' seen).repeats ≤
        (tally memory seen).repeats ∧
      (tally memory' seen).missing ≤
        (tally memory seen).missing) ∧
    ((tally memory' seen).repeats =
        (tally memory seen).repeats →
      (tally memory' seen).missing =
        (tally memory seen).missing →
      Harmless memory memory' seen) := by
  induction seen using List.reverseRecOn with
  | nil =>
      refine ⟨⟨Nat.le_refl _, Nat.le_refl _⟩, ?_⟩
      intro _ _ before sighting hPrefix
      simp at hPrefix
  | append_singleton seen sighting ih =>
      rcases ih with ⟨⟨hRepeats, hMissing⟩, hEqual⟩
      rw [tally_append_singleton, tally_append_singleton]
      simp only [Tally.observe]
      rw [harmless_append_singleton]
      rcases hForgets seen sighting with hSame | hNone
      · rw [hSame]
        refine ⟨⟨by omega, by omega⟩, ?_⟩
        intro hRepeatsEq hMissingEq
        refine ⟨hEqual (by omega) (by omega), ?_⟩
        intro hDiffers
        exact absurd rfl hDiffers
      · rw [hNone]
        cases hFull : memory seen sighting with
        | none =>
            refine ⟨⟨by omega, by omega⟩, ?_⟩
            intro hRepeatsEq hMissingEq
            refine ⟨hEqual (by omega) (by omega), ?_⟩
            intro hDiffers
            exact absurd rfl hDiffers
        | some last =>
            simp only [isRepeat_none, isRepeat_some,
              missedSince_none, missedSince_some,
              decide_eq_true_eq, Bool.false_eq_true, if_false]
            by_cases hRepeat : sighting.number ≤ last
            · simp only [hRepeat, if_true]
              refine ⟨⟨by omega, by omega⟩, ?_⟩
              intro hRepeatsEq
              omega
            · simp only [hRepeat, if_false]
              refine ⟨⟨by omega, by omega⟩, ?_⟩
              intro hRepeatsEq hMissingEq
              refine ⟨hEqual (by omega) (by omega), ?_⟩
              rintro - other hOther
              cases Option.some.inj hOther
              omega

end Forgetful
