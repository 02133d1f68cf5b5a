import Mathlib.Data.List.Perm.Basic
import RsCamera.Startup.Cycles

/-
  The windows of the cycles, from the calls of the probe to
  the data of the parser.

  The markers of the probe are lines among those of every other
  thread.  What the parser takes for the cycles is what the
  probe has been through, wherever it was killed.

  Key definitions include:
    * `markerCalls`
    * `Marks`, `Describes`

  Key theorems include:
    * `phases_read`
    * `startup_windows`
-/

------------------------------------------------------------
-- The Markers Of A File
------------------------------------------------------------

namespace RsCamera

namespace Startup

section

open Emit (Dictionary readJsonl sortKey)
open SharedFile (Entry MarkerCall bytesOf fileText sortByTime)
open PhaseMarker (markerMembers)

def markerCall? : Entry → Option MarkerCall
| .event _ => none
| .note _ => none
| .marker call => some call

def isMarkerEntry (entry : Entry) : Bool :=
  (markerCall? entry).isSome

/- The markers that were written, in the order of the file. -/
def markerCalls (entries : List Entry) : List MarkerCall :=
  entries.filterMap markerCall?

theorem filter_isMarkerEntry
    (entries : List Entry) :
    entries.filter isMarkerEntry =
      (markerCalls entries).map Entry.marker := by
  induction entries with
  | nil => rfl
  | cons entry entries ih =>
      cases entry with
      | event call => exact ih
      | note call => exact ih
      | marker call => exact congrArg (Entry.marker call :: ·) ih

/- Only the line of a marker is read as a phase. -/
theorem isPhase_of_readAs
    {entry : Entry}
    {members : Dictionary}
    (hRead : entry.ReadAs members) :
    isPhase members = isMarkerEntry entry := by
  simp only [isPhase, hRead.kind_and_time.1]
  unfold Json.codesOf isMarkerEntry
  cases entry with
  | event call => cases call <;> simp [Entry.kind, markerCall?]
  | note call => cases call <;> simp [Entry.kind, markerCall?]
  | marker call => exact decide_eq_true rfl

/- The phases are the markers, in the order of the file. -/
theorem phases_read
    {entries : List Entry}
    {dictionaries : List Dictionary}
    (hRead :
      List.Forall₂ Entry.ReadAs
        (sortByTime Entry.timestampNs entries) dictionaries)
    (hClock :
      (markerCalls entries).Pairwise (fun left right =>
        left.timestampNs.toNat ≤ right.timestampNs.toNat)) :
    List.Forall₂
      (fun call members => (Entry.marker call).ReadAs members)
      (markerCalls entries) (dictionaries.filter isPhase) := by
  have hOrder :
      (entries.filter isMarkerEntry).Pairwise
        (fun left right =>
          left.timestampNs.toNat ≤
            right.timestampNs.toNat) := by
    rw [filter_isMarkerEntry, List.pairwise_map]
    exact hClock
  have hSorted :
      (sortByTime Entry.timestampNs entries).filter
          isMarkerEntry =
        (markerCalls entries).map Entry.marker :=
    (filter_mergeSort
      (fun entry : Entry => entry.timestampNs.toNat)
      hOrder).trans (filter_isMarkerEntry entries)
  have hFiltered :
      List.Forall₂ Entry.ReadAs
        ((sortByTime Entry.timestampNs entries).filter
          isMarkerEntry)
        (dictionaries.filter isPhase) := by
    refine List.rel_filter ?_ hRead
    intro entry members hAs
    change isMarkerEntry entry = true ↔ isPhase members = true
    rw [isPhase_of_readAs hAs]
  rwa [hSorted, List.forall₂_map_left_iff] at hFiltered

end

------------------------------------------------------------
-- The Names Of The Probe
------------------------------------------------------------

section

open Emit (Dictionary)
open SharedFile (Entry MarkerCall bytesOf)
open PhaseMarker (markerMembers)

/- Letters, digits and underscores are among these. -/
def isNameChar (c : Char) : Bool :=
  48 ≤ c.toNat && c.toNat ≤ 122 && c.toNat != 92

theorem isNameChar_iff
    (c : Char) :
    isNameChar c = true ↔
      48 ≤ c.toNat ∧ c.toNat ≤ 122 ∧ c.toNat ≠ 92 := by
  simp [isNameChar, and_assoc]

structure IsShort (name : String) : Prop where
  chars : name.toList.all isNameChar = true
  length : name.toList.length ≤ 248

theorem IsShort.range
    {name : String}
    (hName : IsShort name) :
    ∀ c ∈ name.toList,
      48 ≤ c.toNat ∧ c.toNat ≤ 122 ∧ c.toNat ≠ 92 := by
  intro c hC
  rw [← isNameChar_iff]
  exact List.all_eq_true.mp hName.chars c hC

theorem chars_phases :
    ∀ phase ∈ "begin" :: "end" :: innerPhases,
      phase.toList.length ≤ 28 ∧
        phase.toList.all isNameChar = true := by
  decide

theorem toNat_of_isDigit
    {c : Char}
    (hDigit : c.isDigit = true) :
    48 ≤ c.toNat ∧ c.toNat ≤ 57 := by
  have hRange : 48 ≤ c.val ∧ c.val ≤ 57 := by
    simpa [Char.isDigit] using hDigit
  exact ⟨UInt32.le_iff_toNat_le.mp hRange.1,
    UInt32.le_iff_toNat_le.mp hRange.2⟩

theorem isShort_cycleMarker
    {cycle : Nat}
    (hCycle : cycle ≤ 2 ^ 31)
    {phase : String}
    (hPhase : phase ∈ "begin" :: "end" :: innerPhases) :
    IsShort (cycleMarker cycle phase) := by
  have hChars := chars_phases phase hPhase
  have hDigits : (cycleDigits cycle).length ≤ 11 := by
    have hCount : (Nat.toDigits 10 cycle).length ≤ 10 := by
      rw [Nat.length_toDigits_le_iff (by decide) (by decide)]
      omega
    unfold cycleDigits
    rw [List.length_append]
    split
    · rw [List.length_singleton]
      omega
    · rw [List.length_nil]
      omega
  constructor
  case chars =>
    have hAll : (cycleDigits cycle).all isNameChar = true := by
      rw [List.all_eq_true]
      intro c hC
      have hRange :=
        toNat_of_isDigit (isDigit_cycleDigits cycle c hC)
      rw [isNameChar_iff]
      omega
    rw [cycleMarker_toList, List.all_append, List.all_append,
      List.all_cons, hAll, hChars.2]
    rfl
  case length =>
    rw [cycleMarker_toList, List.length_append,
      List.length_append, List.length_cons]
    change 6 + _ ≤ 248
    omega

theorem IsMarker.isShort
    {options : ProbeOptions}
    {name : String}
    (hName : IsMarker options name) :
    IsShort name := by
  cases hName with
  | process hIn =>
      have hAll :
          ∀ name ∈
              ["process_start", "process_exit",
                "process_error"],
            name.toList.length ≤ 248 ∧
              name.toList.all isNameChar = true := by
        decide
      exact ⟨(hAll name hIn).2, (hAll name hIn).1⟩
  | cycle number phase hNumber hPhase hIs =>
      have hCycles := options.cycles_lt
      rw [hIs]
      exact isShort_cycleMarker (by omega) hPhase

section Bytes

variable {name : String}

theorem toNat_bytesOf
    (hName : IsShort name) :
    (bytesOf name).map UInt8.toNat =
      name.toList.map Char.toNat := by
  unfold bytesOf
  rw [List.map_map]
  apply List.map_congr_left
  intro c hC
  have hRange := hName.range c hC
  exact UInt8.toNat_ofNat_of_lt' (show c.toNat < 256 by omega)

theorem toNat_mem_bytesOf
    (hName : IsShort name) :
    ∀ b ∈ bytesOf name,
      48 ≤ b.toNat ∧ b.toNat ≤ 122 ∧ b.toNat ≠ 92 := by
  intro b hB
  have hMap := List.mem_map_of_mem (f := UInt8.toNat) hB
  rw [toNat_bytesOf hName] at hMap
  rcases List.mem_map.mp hMap with ⟨c, hC, hIs⟩
  rw [← hIs]
  exact hName.range c hC

/- A name of the probe is written as it is. -/
theorem cBytes_bytesOf
    (hName : IsShort name) :
    PhaseMarker.cBytes (bytesOf name) = bytesOf name := by
  unfold PhaseMarker.cBytes
  rw [List.takeWhile_eq_self_iff]
  intro b hB
  have hRange := toNat_mem_bytesOf hName b hB
  apply decide_eq_true
  rintro rfl
  exact absurd hRange.1 (by decide)

theorem length_escapeAll
    (hName : IsShort name) :
    (PhaseMarker.escapeAll
      (PhaseMarker.cBytes (bytesOf name))).length ≤ 248 := by
  have hOne :
      ∀ b ∈ bytesOf name,
        (PhaseMarker.escape b).length = 1 := by
    intro b hB
    have hRange := toNat_mem_bytesOf hName b hB
    unfold PhaseMarker.escape
    rw [if_neg, if_pos (by omega)]
    · rfl
    · rintro (hQuote | hSlash)
      · have hQuote : b.toNat = 34 := hQuote
        omega
      · have hSlash : b.toNat = 92 := hSlash
        omega
  have hLength := hName.length
  rw [cBytes_bytesOf hName]
  unfold PhaseMarker.escapeAll
  rw [List.length_flatMap, List.map_congr_left hOne,
    List.map_const', List.sum_replicate_nat,
    Nat.mul_one, bytesOf, List.length_map]
  exact hLength

/- What a marker of the probe is read as. -/
theorem members_of_readAs
    {call : MarkerCall}
    {members : Dictionary}
    (hName : IsShort name)
    (hCall : call.name = some (bytesOf name))
    (hRead : (Entry.marker call).ReadAs members) :
    members =
      markerMembers call.timestampNs call.tid (bytesOf name) := by
  rcases hRead with ⟨read, hMembers, -, hWhole⟩
  rw [hCall, Option.getD_some] at hWhole
  rw [hMembers, hWhole (length_escapeAll hName),
    cBytes_bytesOf hName]

theorem eventName_marker
    (hName : IsShort name)
    (timestampNs : UInt64)
    (tid : Int64) :
    eventName (markerMembers timestampNs tid (bytesOf name)) =
      name.toList := by
  have hMember :
      Json.member
          (markerMembers timestampNs tid (bytesOf name))
          "name" =
        some (.str ((bytesOf name).map UInt8.toNat)) := rfl
  have hInverse : Char.ofNat ∘ Char.toNat = id := by
    funext c
    exact Char.ofNat_toNat c
  unfold eventName
  rw [hMember, toNat_bytesOf hName]
  simp only [List.map_map, hInverse, List.map_id]

theorem timedPhase_marker
    (truncate : List Char → Except String Int)
    (timestampNs : UInt64)
    (tid : Int64)
    (bytes : List UInt8) :
    timedPhase truncate (markerMembers timestampNs tid bytes) =
      .ok
        (markerMembers timestampNs tid bytes,
          (timestampNs.toNat : Int)) := rfl

end Bytes

end

------------------------------------------------------------
-- The Markers Of A Run That May Have Been Killed
------------------------------------------------------------

section

open Emit (Dictionary sortKey)
open SharedFile (Entry MarkerCall bytesOf)
open PhaseMarker (markerMembers)

/- A marker, by its name and its time. -/
abbrev Mark : Type :=
  String × UInt64

def Mark.time (mark : Mark) : Int :=
  mark.2.toNat

/- The times of the beginnings and the ends of cycles. -/
def turnTimes (marks : List Mark) : List Int :=
  marks.filterMap (fun mark =>
    (cycleMatch mark.1.toList).map (fun _ => mark.time))

/- Some markers of a run, as far as it came. -/
structure Written
    (options : ProbeOptions)
    (answers : List Answer)
    (marks : List Mark) : Prop where
  front :
    marks.map Prod.fst <+: (Probe.run options answers).markers
  clock :
    marks.Pairwise (fun left right =>
      left.2.toNat ≤ right.2.toNat)

section Written

variable {options : ProbeOptions}
variable {answers : List Answer}
variable {marks : List Mark}

theorem Written.isMarker
    (hWritten : Written options answers marks) :
    ∀ mark ∈ marks, IsMarker options mark.1 := by
  intro mark hMark
  apply (Probe.sound_run options answers).names
  exact hWritten.front.subset (List.mem_map_of_mem hMark)

theorem cycleView_prefix
    {names markers : List String}
    (hFront : names <+: markers) :
    cycleView names <+: cycleView markers := by
  rcases hFront with ⟨rest, rfl⟩
  rw [cycleView_append]
  exact List.prefix_append _ _

theorem Written.turns
    (hWritten : Written options answers marks) :
    cycleView (marks.map Prod.fst) =
      Startup.turns (cycleView (marks.map Prod.fst)).length := by
  have hSound := Probe.sound_run options answers
  rcases hSound.turned.view with ⟨opened, hView⟩
  have hFront := cycleView_prefix hWritten.front
  rw [hView] at hFront
  exact of_prefix_turns hFront

theorem length_turnTimes
    (marks : List Mark) :
    (turnTimes marks).length =
      (cycleView (marks.map Prod.fst)).length := by
  unfold turnTimes cycleView
  rw [List.filterMap_map, List.length_filterMap_eq_countP,
    List.length_filterMap_eq_countP]
  congr 1
  funext mark
  cases hMatch : cycleMatch mark.1.toList with
  | none => simp [hMatch]
  | some turn => simp [hMatch]

theorem Written.times
    (hWritten : Written options answers marks) :
    (turnTimes marks).Pairwise (· ≤ ·) := by
  unfold turnTimes
  rw [List.pairwise_filterMap]
  refine hWritten.clock.imp ?_
  intro left right hLe first hFirst second hSecond
  rw [Option.map_eq_some_iff] at hFirst hSecond
  rcases hFirst with ⟨_, -, rfl⟩
  rcases hSecond with ⟨_, -, rfl⟩
  exact Int.ofNat_le.mpr hLe

theorem mem_turnTimes
    {time : Int}
    (hTime : time ∈ turnTimes marks) :
    ∃ mark ∈ marks, mark.time = time := by
  rcases List.mem_filterMap.mp hTime with ⟨mark, hMark, hIs⟩
  rw [Option.map_eq_some_iff] at hIs
  rcases hIs with ⟨_, -, hIs⟩
  exact ⟨mark, hMark, hIs⟩

/- The first marker is that of the start, or the only one. -/
theorem Written.first
    (hWritten : Written options answers marks) :
    marks = [] ∨ (∃ mark, marks = [mark]) ∨
      ∃ mark rest,
        marks = mark :: rest ∧ mark.1 = "process_start" := by
  have hFront := hWritten.front
  have hSound := Probe.sound_run options answers
  cases marks with
  | nil => exact Or.inl rfl
  | cons mark rest =>
      right
      rcases hSound.opened.first with hNone | hError | hBegun
      · rw [hNone] at hFront
        exact absurd (List.prefix_nil.mp hFront) (by simp)
      · left
        rw [hError] at hFront
        have hLength := hFront.length_le
        simp only [List.length_map, List.length_cons,
          List.length_nil] at hLength
        have hRest : rest = [] := by
          apply List.eq_nil_of_length_eq_zero
          omega
        rw [hRest]
        exact ⟨mark, rfl⟩
      · right
        rcases hBegun with ⟨later, hIs, -⟩
        rw [hIs, List.map_cons, List.cons_prefix_cons] at hFront
        exact ⟨mark, rest, rfl, hFront.1⟩

end Written

end

------------------------------------------------------------
-- The Ends Among The Names
------------------------------------------------------------

theorem turnOf_phases :
    ∀ phase ∈ "begin" :: "end" :: innerPhases,
      turnOf phase =
        if phase = "begin" then
          some true
        else if phase = "end" then
          some false
        else
          none := by
  decide

theorem not_end_begin
    (front : List Char) :
    "_end".toList.isSuffixOf (front ++ "_begin".toList) =
      false := by
  rw [Bool.eq_false_iff, ne_eq, List.isSuffixOf_iff_suffix]
  rintro ⟨before, hIs⟩
  have hLast := congrArg List.getLast? hIs
  simp at hLast

section

variable {options : ProbeOptions}
variable {names : List String}

/- The end of a cycle, by its name. -/
theorem isEndName_iff
    {name : String}
    (hName : IsMarker options name) :
    isEndName name.toList =
      (cycleMatch name.toList).any (fun turn => !turn.2) := by
  cases hName with
  | process hIn =>
      have hAll :
          ∀ name ∈
              ["process_start", "process_exit",
                "process_error"],
            isEndName name.toList =
              (cycleMatch name.toList).any
                (fun turn => !turn.2) := by
        decide
      exact hAll name hIn
  | cycle number phase hNumber hPhase hIs =>
      have hMatch := cycleMatch_cycleMarker number phase
      rw [turnOf_phases phase hPhase, ← hIs] at hMatch
      unfold isEndName
      rw [hMatch]
      by_cases hBegin : phase = "begin"
      · have hText :
            name.toList =
              "cycle_".toList ++ cycleDigits number ++
                "_begin".toList := by
          rw [hIs, hBegin, cycleMarker_toList]
          simp
        rw [if_pos hBegin, hText, not_end_begin]
        rfl
      · rw [if_neg hBegin]
        by_cases hEnd : phase = "end"
        · have hText :
              name.toList =
                "cycle_".toList ++ cycleDigits number ++
                  "_end".toList := by
            rw [hIs, hEnd, cycleMarker_toList]
            simp
          have hSuffix :
              "_end".toList.isSuffixOf name.toList = true := by
            rw [List.isSuffixOf_iff_suffix, hText]
            exact List.suffix_append _ _
          rw [if_pos hEnd, hSuffix]
          rfl
        · rw [if_neg hEnd]
          rfl

/- The ends of cycles in turn. -/
theorem countP_turns
    (n : Nat) :
    (turns n).countP (fun turn => !turn.2) = n / 2 := by
  induction n with
  | zero => rfl
  | succ n ih =>
      rw [turns_succ, List.countP_append, ih,
        List.countP_singleton]
      unfold markAt
      by_cases hEven : n % 2 = 0
      · simp [hEven]
        omega
      · simp [hEven]
        omega

theorem countP_ends
    (hNames : ∀ name ∈ names, IsMarker options name) :
    (names.map String.toList).countP isEndName =
      (cycleView names).countP (fun turn => !turn.2) := by
  unfold cycleView
  rw [List.countP_filterMap, List.countP_map]
  apply List.countP_congr
  intro name hName
  rw [Function.comp_apply, isEndName_iff (hNames name hName)]
  cases cycleMatch name.toList with
  | none => simp
  | some turn => simp

/- No end is written twice. -/
theorem nodup_ends
    (hNames : ∀ name ∈ names, IsMarker options name)
    (hTurns :
      cycleView names = turns (cycleView names).length) :
    ((names.map String.toList).filter isEndName).Nodup := by
  have hDistinct : (cycleView names).Nodup := by
    rw [hTurns]
    unfold turns
    refine List.Nodup.map_on ?_ List.nodup_range
    intro i _ j _ hEq
    unfold markAt at hEq
    rw [Prod.mk.injEq, decide_eq_decide] at hEq
    omega
  unfold cycleView at hDistinct
  rw [List.filter_map, List.nodup_map_iff
    (fun _ _ hEq => String.toList_inj.mp hEq)]
  -- Two equal names have equal marks.
  rw [List.nodup_iff_pairwise_ne, List.pairwise_filter]
  rw [List.nodup_iff_pairwise_ne, List.pairwise_filterMap]
    at hDistinct
  refine List.Pairwise.imp_of_mem ?_ hDistinct
  rintro left right hLeft - hApart hEnd - rfl
  rw [Function.comp_apply,
    isEndName_iff (hNames left hLeft)] at hEnd
  cases hMatch : cycleMatch left.toList with
  | none =>
      rw [hMatch] at hEnd
      cases hEnd
  | some turn => exact hApart turn hMatch turn hMatch rfl

theorem length_dedup_ends
    (hNames : ∀ name ∈ names, IsMarker options name)
    (hTurns :
      cycleView names = turns (cycleView names).length) :
    ((names.map String.toList).dedup.filter isEndName).length =
      (cycleView names).length / 2 := by
  have hPerm :
      ((names.map String.toList).dedup.filter isEndName).Perm
        ((names.map String.toList).filter isEndName) := by
    rw [List.perm_ext_iff_of_nodup
      ((List.nodup_dedup _).filter _)
      (nodup_ends hNames hTurns)]
    intro name
    rw [List.mem_filter, List.mem_filter, List.mem_dedup]
  rw [hPerm.length_eq, ← List.countP_eq_length_filter,
    countP_ends hNames, hTurns, countP_turns, length_turns]

end

------------------------------------------------------------
-- The Data Of The Parser
------------------------------------------------------------

open Emit (Dictionary readJsonl sortKey)
open SharedFile (Entry MarkerCall bytesOf fileText sortByTime)
open PhaseMarker (markerMembers)

/- The calls that wrote some markers. -/
def CallsOf (calls : List MarkerCall) (marks : List Mark) : Prop :=
  calls.map (fun call => (call.name, call.timestampNs)) =
    marks.map (fun mark => (some (bytesOf mark.1), mark.2))

theorem timed_of_read
    (truncate : List Char → Except String Int)
    {calls : List MarkerCall}
    {marks : List Mark}
    {phases : List Dictionary}
    (hCalls : CallsOf calls marks)
    (hShort : ∀ mark ∈ marks, IsShort mark.1)
    (hRead :
      List.Forall₂
        (fun call members => (Entry.marker call).ReadAs members)
        calls phases) :
    ∃ timed,
      phases.mapM (timedPhase truncate) = .ok timed ∧
        timed.map Prod.fst = phases ∧
        timed.map (fun phase => (eventName phase.1, phase.2)) =
          marks.map (fun mark => (mark.1.toList, mark.time)) := by
  induction hRead generalizing marks with
  | nil =>
      rw [CallsOf, List.map_nil, eq_comm, List.map_eq_nil_iff]
        at hCalls
      rw [hCalls]
      exact ⟨[], rfl, rfl, rfl⟩
  | @cons call members calls phases hFirst hRest ih =>
      cases marks with
      | nil => cases hCalls
      | cons mark marks =>
          rw [CallsOf, List.map_cons, List.map_cons,
            List.cons.injEq, Prod.mk.injEq] at hCalls
          rw [List.forall_mem_cons] at hShort
          rcases ih hCalls.2 hShort.2 with
            ⟨timed, hTimed, hPhases, hView⟩
          have hMembers :=
            members_of_readAs hShort.1 hCalls.1.1 hFirst
          refine
            ⟨(members, (call.timestampNs.toNat : Int)) :: timed,
              ?_, ?_, ?_⟩
          · rw [mapM_eq_ok_iff] at hTimed ⊢
            refine .cons ?_ hTimed
            rw [hMembers]
            exact timedPhase_marker truncate _ _ _
          · rw [List.map_cons, hPhases]
          · rw [List.map_cons, List.map_cons, hView, hMembers,
              eventName_marker hShort.1, hCalls.1.2]
            rfl

section Views

variable {timed : List (Dictionary × Int)}
variable {marks : List Mark}

theorem cycleMarks_view
    (hView :
      timed.map (fun phase => (eventName phase.1, phase.2)) =
        marks.map (fun mark => (mark.1.toList, mark.time))) :
    cycleMarks timed =
      marks.filterMap (fun mark =>
        (cycleMatch mark.1.toList).map (fun turn =>
          (turn, mark.time))) := by
  have hSame :
      cycleMarks timed =
        (timed.map (fun phase =>
          (eventName phase.1, phase.2))).filterMap (fun view =>
            (cycleMatch view.1).map (fun turn =>
              (turn, view.2))) := by
    rw [List.filterMap_map]
    rfl
  rw [hSame, hView, List.filterMap_map]
  rfl

theorem cycleMarks_turns
    (hView :
      timed.map (fun phase => (eventName phase.1, phase.2)) =
        marks.map (fun mark => (mark.1.toList, mark.time))) :
    (cycleMarks timed).map Prod.fst =
        cycleView (marks.map Prod.fst) ∧
      (cycleMarks timed).map Prod.snd = turnTimes marks := by
  rw [cycleMarks_view hView]
  unfold cycleView turnTimes
  rw [List.map_filterMap, List.map_filterMap,
    List.filterMap_map]
  constructor
  · congr 1
    funext mark
    simp only [Function.comp_apply]
    cases cycleMatch mark.1.toList with
    | none => rfl
    | some turn => rfl
  · congr 1
    funext mark
    cases cycleMatch mark.1.toList with
    | none => rfl
    | some turn => rfl

theorem originOf_start
    {phase : Dictionary × Int}
    (hStart : eventName phase.1 = "process_start".toList)
    (later : List (Dictionary × Int)) :
    originOf (phase :: later) = phase.2 := by
  have hFind :
      (phase :: later).find? (fun phase =>
          eventName phase.1 = "process_start".toList) =
        some phase := by
    apply List.find?_cons_of_pos
    exact decide_eq_true hStart
  unfold originOf
  rw [hFind]

theorem originOf_singleton
    (phase : Dictionary × Int) :
    originOf [phase] = phase.2 := by
  by_cases hStart : eventName phase.1 = "process_start".toList
  · exact originOf_start hStart []
  · have hFind :
        [phase].find? (fun phase =>
            eventName phase.1 = "process_start".toList) =
          none := by
      rw [List.find?_eq_none]
      intro other hOther
      rw [List.mem_singleton.mp hOther, decide_eq_true_iff]
      exact hStart
    unfold originOf
    rw [hFind]
    rfl

/- The origin is the time of the first marker. -/
theorem originOf_view
    {options : ProbeOptions}
    {answers : List Answer}
    (hWritten : Written options answers marks)
    (hView :
      timed.map (fun phase => (eventName phase.1, phase.2)) =
        marks.map (fun mark => (mark.1.toList, mark.time))) :
    originOf timed = ((marks.head?).map Mark.time).getD 0 := by
  rcases hWritten.first with hNil | ⟨mark, hOne⟩ |
    ⟨mark, rest, hIs, hStart⟩
  · rw [hNil, List.map_nil, List.map_eq_nil_iff] at hView
    rw [hView, hNil]
    rfl
  · rw [hOne, List.map_singleton] at hView
    rcases List.map_eq_singleton_iff.mp hView with
      ⟨phase, hPhase, hEq⟩
    rw [Prod.mk.injEq] at hEq
    rw [hPhase, hOne, originOf_singleton]
    exact hEq.2
  · rw [hIs, List.map_cons, List.map_eq_cons_iff] at hView
    rcases hView with ⟨phase, later, hTimed, hEq, -⟩
    rw [Prod.mk.injEq, hStart] at hEq
    rw [hTimed, hIs, originOf_start hEq.1]
    exact hEq.2

end Views

/- The number of the events has no part in the keys. -/
theorem mapM_sortKey_read
    (truncate : List Char → Except String Int)
    {entries : List Entry}
    {dictionaries : List Dictionary}
    (hRead :
      List.Forall₂ Entry.ReadAs entries dictionaries) :
    ∃ keyed,
      dictionaries.mapM (sortKey truncate) = .ok keyed ∧
        keyed.map Prod.fst =
          entries.map (fun entry =>
            (entry.timestampNs.toNat : Int)) := by
  induction hRead with
  | nil => exact ⟨[], rfl, rfl⟩
  | @cons entry members entries dictionaries hFirst _ ih =>
      rcases ih with ⟨keyed, hKeyed, hKeys⟩
      refine
        ⟨((entry.timestampNs.toNat : Int), members) :: keyed,
          ?_, ?_⟩
      · rw [mapM_eq_ok_iff] at hKeyed ⊢
        refine .cons ?_ hKeyed
        rw [sortKey, hFirst.kind_and_time.2]
        rfl
      · rw [List.map_cons, List.map_cons, hKeys]

theorem le_traceEndOf
    {origin time : Int}
    {keyed : List (Int × Dictionary)}
    (hTime : time ∈ keyed.map Prod.fst) :
    time ≤ traceEndOf origin keyed := by
  unfold traceEndOf
  cases hMax : (keyed.map Prod.fst).max? with
  | none =>
      rw [List.max?_eq_none_iff] at hMax
      rw [hMax] at hTime
      cases hTime
  | some top =>
      exact (List.max?_eq_some_iff.mp hMax).2 time hTime

theorem CallsOf.times
    {calls : List MarkerCall}
    {marks : List Mark}
    (hCalls : CallsOf calls marks) :
    calls.map MarkerCall.timestampNs = marks.map Prod.snd := by
  have hSnd := congrArg (List.map Prod.snd) hCalls
  rw [List.map_map, List.map_map] at hSnd
  exact hSnd

/- What the parser finds, from what was written. -/
structure Describes
    (entries : List Entry)
    (marks : List Mark)
    (data : PhaseData) : Prop where
  origin : data.origin = ((marks.head?).map Mark.time).getD 0
  phases : data.phases.length = marks.length
  -- A cycle without an end goes on to the end of the trace.
  bounds :
    ∃ traceEnd : Int,
      (∀ entry ∈ entries,
          (entry.timestampNs.toNat : Int) ≤ traceEnd) ∧
        data.bounds = turnWindows (turnTimes marks) traceEnd
  windows : Windows data.bounds
  started :
    cyclesStarted data = ((turnTimes marks).length + 1) / 2
  completed :
    cyclesCompletedByPhase data = (turnTimes marks).length / 2
  failed :
    processError data = true ↔
      "process_error" ∈ marks.map Prod.fst

theorem describes_phaseData
    {options : ProbeOptions}
    {answers : List Answer}
    {entries : List Entry}
    {marks : List Mark}
    {dictionaries : List Dictionary}
    (hWritten : Written options answers marks)
    (hCalls : CallsOf (markerCalls entries) marks)
    (truncate : List Char → Except String Int)
    (hRead :
      List.Forall₂ Entry.ReadAs
        (sortByTime Entry.timestampNs entries) dictionaries) :
    ∃ data,
      phaseData truncate dictionaries = .ok data ∧
        Describes entries marks data := by
  have hShort : ∀ mark ∈ marks, IsShort mark.1 :=
    fun mark hMark => (hWritten.isMarker mark hMark).isShort
  have hClock :
      (markerCalls entries).Pairwise (fun left right =>
        left.timestampNs.toNat ≤ right.timestampNs.toNat) := by
    have hMarks := hWritten.clock
    rw [← List.pairwise_map (f := Prod.snd)
        (R := fun left right : UInt64 =>
          left.toNat ≤ right.toNat),
      ← hCalls.times, List.pairwise_map] at hMarks
    exact hMarks
  rcases timed_of_read truncate hCalls hShort
      (phases_read hRead hClock) with
    ⟨timed, hTimed, hPhases, hView⟩
  rcases mapM_sortKey_read truncate hRead with
    ⟨keyed, hKeyed, hKeys⟩
  have hMarks := cycleMarks_turns hView
  have hTurns :
      (cycleMarks timed).map Prod.fst =
        turns (cycleMarks timed).length := by
    have hLength := congrArg List.length hMarks.1
    rw [List.length_map] at hLength
    rw [hMarks.1, hLength]
    exact hWritten.turns
  have hData := phaseData_of_turns hTimed hKeyed hTurns
  have hEnd :
      ∀ entry ∈ entries,
        (entry.timestampNs.toNat : Int) ≤
          traceEndOf (originOf timed) keyed := by
    intro entry hEntry
    apply le_traceEndOf
    rw [hKeys]
    exact List.mem_map_of_mem
      ((List.mergeSort_perm _ _).mem_iff.mpr hEntry)
  have hNames :
      (dictionaries.filter isPhase).map eventName =
        (marks.map Prod.fst).map String.toList := by
    have hFirst := congrArg (List.map Prod.fst) hView
    rw [List.map_map, List.map_map] at hFirst
    rw [← hPhases, List.map_map, List.map_map]
    exact hFirst
  rw [hMarks.2] at hData
  refine ⟨_, hData, ?_⟩
  constructor
  case origin => exact originOf_view hWritten hView
  case phases =>
    have hLength := congrArg List.length hNames
    rw [List.length_map, List.length_map, List.length_map]
      at hLength
    exact hLength
  case bounds => exact ⟨_, hEnd, rfl⟩
  case windows =>
    apply windows_turns hWritten.times
    intro time hTime
    rcases mem_turnTimes hTime with ⟨mark, hMark, rfl⟩
    have hCall :
        mark.2 ∈
          (markerCalls entries).map MarkerCall.timestampNs := by
      rw [hCalls.times]
      exact List.mem_map_of_mem hMark
    rcases List.mem_map.mp hCall with ⟨call, hIn, hTimes⟩
    have hEntry : Entry.marker call ∈ entries := by
      have hFilter : Entry.marker call ∈
          entries.filter isMarkerEntry := by
        rw [filter_isMarkerEntry]
        exact List.mem_map_of_mem hIn
      exact List.mem_of_mem_filter hFilter
    have hLe := hEnd _ hEntry
    change (call.timestampNs.toNat : Int) ≤ _ at hLe
    rw [hTimes] at hLe
    exact hLe
  case started =>
    simp [cyclesStarted, turnWindows]
  case completed =>
    unfold cyclesCompletedByPhase phaseNames
    simp only [hNames]
    rw [length_dedup_ends _ hWritten.turns, length_turnTimes]
    · exact options
    · rw [List.forall_mem_map]
      exact hWritten.isMarker
  case failed =>
    unfold processError phaseNames
    simp only [hNames]
    rw [List.contains_iff_mem, List.mem_dedup, List.mem_map]
    constructor
    · rintro ⟨name, hName, hIs⟩
      rw [← String.toList_inj.mp hIs]
      exact hName
    · exact fun hName => ⟨_, hName, rfl⟩

/-
  Whatever the library answers, wherever the probe is killed
  and whatever the other threads write in between: the file is
  read when each line fits its buffer, and only then, and the
  windows of the parser are those of the cycles of the probe,
  one after the other.  A time of a window is of its cycle,
  that at which one ends and the next begins of the first, and
  a time outside of all of them of none.  Of a run that was not
  killed it counts every cycle.
-/
theorem startup_windows
    {options : ProbeOptions}
    {answers : List Answer}
    {entries : List Entry}
    {marks : List Mark}
    (hWritten : Written options answers marks)
    (hCalls : CallsOf (markerCalls entries) marks)
    (truncate : List Char → Except String Int)
    (path : String) :
    ((∃ dictionaries,
        readJsonl truncate path (fileText entries) =
          .ok dictionaries) ↔
      ∀ entry ∈ entries, entry.Fits) ∧
    ∀ dictionaries,
      readJsonl truncate path (fileText entries) =
          .ok dictionaries →
        ∃ data,
          phaseData truncate dictionaries = .ok data ∧
          Describes entries marks data ∧
          (∀ window ∈ data.bounds, ∀ time,
            window.2.1 ≤ time → time ≤ window.2.2 →
              (∀ earlier ∈ data.bounds, earlier.1 < window.1 →
                earlier.2.2 ≠ time) →
              Trace.cycleAt (some time)
                  (Std.TreeMap.ofList data.bounds) =
                window.1) ∧
          (∀ time,
            (∀ window ∈ data.bounds,
                time < window.2.1 ∨ window.2.2 < time) →
              Trace.cycleAt (some time)
                  (Std.TreeMap.ofList data.bounds) =
                0) ∧
          (marks.map Prod.fst =
              (Probe.run options answers).markers →
            cyclesCompletedByPhase data =
              (Probe.run options answers).completedCycles) := by
  have hAll
      (hFits : ∀ entry ∈ entries, entry.Fits) :
      ∃ dictionaries,
        readJsonl truncate path (fileText (entries.map id)) =
            .ok dictionaries ∧
          List.Forall₂ (fun entry => (id entry).ReadAs)
            (sortByTime (fun entry => (id entry).timestampNs)
              entries)
            dictionaries :=
    SharedFile.readJsonl_calls hFits truncate path
  rw [List.map_id] at hAll
  refine ⟨⟨?_, ?_⟩, ?_⟩
  · rintro ⟨dictionaries, hFile⟩
    exact SharedFile.fits_of_read hFile
  · intro hFits
    rcases hAll hFits with ⟨dictionaries, hFile, -⟩
    exact ⟨dictionaries, hFile⟩
  intro others hOthers
  rcases hAll (SharedFile.fits_of_read hOthers) with
    ⟨dictionaries, hFile, hRead⟩
  rw [hOthers] at hFile
  rw [← Except.ok.inj hFile] at hRead
  rcases describes_phaseData hWritten hCalls truncate hRead with
    ⟨data, hData, hDescribes⟩
  refine ⟨data, hData, hDescribes, ?_, ?_, ?_⟩
  · intro window hWindow time hAfter hBefore hEarlier
    exact hDescribes.windows.cycleAt hWindow hAfter hBefore
      hEarlier
  · intro time hOutside
    exact hDescribes.windows.cycleAt_outside hOutside
  · intro hWhole
    rcases (Probe.sound_run options answers).turned.view with
      ⟨opened, hView⟩
    have hLength := congrArg List.length hView
    rw [length_turns] at hLength
    rw [hDescribes.completed, length_turnTimes, hWhole, hLength]
    have hOne : opened.toNat ≤ 1 := Bool.toNat_le opened
    omega

/- Two cycles are asked for; the probe is killed in the first. -/
def twoCycles : ProbeOptions where
  cycles := 2
  frames := 1
  cycles_pos := by decide
  cycles_lt := by decide

def killedMarks : List Mark :=
  [("process_start", 10), ("cycle_01_begin", 30)]

/- A thread is detached by another one between the markers. -/
def killedEntries : List Entry :=
  [.marker
      { timestampNs := 10
        tid := 7
        name := some (bytesOf "process_start") },
    .note (.detach 20 9 0x7f0000001000 0),
    .marker
      { timestampNs := 30
        tid := 7
        name := some (bytesOf "cycle_01_begin") }]

theorem killedMarks_written :
    Written twoCycles [{}, {}] killedMarks where
  front := ⟨["cycle_01_before_context"], by decide⟩
  clock := by decide

theorem startup_windows_killed :
    ∃ dictionaries data,
      readJsonl (fun _ => .ok 0) "trace"
          (fileText killedEntries) =
        .ok dictionaries ∧
      phaseData (fun _ => .ok 0) dictionaries = .ok data ∧
      data.origin = 10 ∧ cyclesStarted data = 1 ∧
        cyclesCompletedByPhase data = 0 ∧
        Trace.cycleAt (some 30)
            (Std.TreeMap.ofList data.bounds) = 1 := by
  have hFits : ∀ entry ∈ killedEntries, entry.Fits := by
    simp [killedEntries, Entry.Fits]
  have hCalls : CallsOf (markerCalls killedEntries) killedMarks :=
    rfl
  rcases startup_windows killedMarks_written hCalls
      (fun _ => .ok 0) "trace" with
    ⟨hReads, hWindows⟩
  rcases hReads.mpr hFits with ⟨dictionaries, hRead⟩
  rcases hWindows dictionaries hRead with
    ⟨data, hData, hDescribes, hWithin, -⟩
  have hTurns : turnTimes killedMarks = [30] := by
    decide
  have hStarted := hDescribes.started
  have hCompleted := hDescribes.completed
  rw [hTurns] at hStarted hCompleted
  refine ⟨dictionaries, data, hRead, hData, hDescribes.origin,
    hStarted, hCompleted, ?_⟩
  rcases hDescribes.bounds with ⟨traceEnd, hEnd, hBounds⟩
  have hOne : data.bounds = [(1, 30, traceEnd + 1)] := by
    rw [hBounds, hTurns]
    rfl
  have hLast := hEnd _ (List.mem_of_getElem (i := 2)
    (h := by decide) rfl)
  refine hWithin (1, 30, traceEnd + 1) ?_ 30 (le_refl _) ?_ ?_
  · rw [hOne]
    exact List.mem_singleton_self _
  · change (30 : Int) ≤ traceEnd + 1
    have hTime : (30 : Int) ≤ traceEnd := hLast
    omega
  · intro earlier hEarlier hLess
    rw [hOne, List.mem_singleton] at hEarlier
    rw [hEarlier] at hLess
    exact absurd hLess (lt_irrefl _)

end Startup

end RsCamera
