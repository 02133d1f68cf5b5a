import Mathlib.Data.List.GetD
import RsCamera.Lib.Dict
import RsCamera.Lib.Sorted
import RsCamera.Trace.Lifecycle
import RsCamera.Trace.Readback

/-
  The phases of a start-up run and the windows of its cycles
  (`phase_data` in `parse_startup_trace.py`, and the counts
  that `parse` takes from them).

  Key definitions include:
    * `cycleMatch`, `phaseData`
    * `markAt`, `InTurn`

  Key theorems include:
    * `phaseData_of_turns`
    * `cycleAt_ofList`
-/

------------------------------------------------------------
-- The Functions
------------------------------------------------------------

namespace RsCamera

namespace Startup

section

open Emit (Dictionary jsonInt sortKey)

/- What `CYCLE_RE` finds: the number, and whether it begins. -/
def cycleMatch (name : List Char) : Option (Int × Bool) :=
  if "cycle_".toList.isPrefixOf name then
    let rest := name.drop "cycle_".length
    let digits := rest.takeWhile isDecimal
    let suffix := rest.dropWhile isDecimal
    let value : Int :=
      Nat.ofDigitChars 10 (digits.filterMap decimalDigit?) 0
    if digits = [] then
      none
    else if suffix = "_begin".toList ∨
        suffix = "_begin\n".toList then
      some (value, true)
    else if suffix = "_end".toList ∨
        suffix = "_end\n".toList then
      some (value, false)
    else
      none
  else
    none

/-
  `str(event.get("name", ""))`.  The text of a value that is
  no string is not the name of a phase.
-/
def eventName (event : Dictionary) : List Char :=
  match Json.member event "name" with
  | some (.str codes) => codes.map Char.ofNat
  | _ => []

/- `event["event"] == "phase_marker"`. -/
def isPhase (event : Dictionary) : Bool :=
  match Json.member event "event" with
  | some (.str codes) =>
      codes = Json.codesOf "phase_marker".toList
  | _ => false

/- `int(event["timestamp_ns"])`. -/
def phaseTime
    (truncate : List Char → Except String Int)
    (event : Dictionary) : Except String Int :=
  match Json.member event "timestamp_ns" with
  | none => .error "'timestamp_ns'"
  | some value => jsonInt truncate value

/- A phase with its time. -/
def timedPhase
    (truncate : List Char → Except String Int)
    (event : Dictionary) : Except String (Dictionary × Int) := do
  let time ← phaseTime truncate event
  .ok (event, time)

/- The first start of the process, or else the first marker. -/
def originOf (phases : List (Dictionary × Int)) : Int :=
  match phases.find? (fun phase =>
    eventName phase.1 = "process_start".toList) with
  | some phase => phase.2
  | none => ((phases.map Prod.snd).min?).getD 0

/- The starts and the ends of the cycles so far. -/
structure CycleMarks where
  starts : Dict Int Int := ∅
  ends : Dict Int Int := ∅

/- A start or an end of a cycle. -/
def CycleMarks.add
    (marks : CycleMarks)
    (mark : (Int × Bool) × Int) : CycleMarks :=
  if mark.1.2 then
    { marks with starts := marks.starts.set mark.1.1 mark.2 }
  else
    { marks with ends := marks.ends.set mark.1.1 mark.2 }

/- One phase of the loop. -/
def CycleMarks.step
    (marks : CycleMarks)
    (phase : Dictionary × Int) : CycleMarks :=
  match cycleMatch (eventName phase.1) with
  | none => marks
  | some cycle => marks.add (cycle, phase.2)

/- A cycle without an end ends with the next start. -/
def windowsOf
    (ends : Dict Int Int)
    (traceEnd : Int) :
    List (Int × Int) → List (Int × (Int × Int))
| [] => []
| (cycle, start) :: rest =>
    let nextStart := ((rest.head?).map Prod.snd).getD (traceEnd + 1)
    (cycle, (start, ends.getD cycle nextStart)) ::
      windowsOf ends traceEnd rest

/- What `phase_data` returns. -/
structure PhaseData where
  origin : Int
  phases : List Dictionary
  bounds : List (Int × (Int × Int))

/- `phase_data`. -/
def phaseData
    (truncate : List Char → Except String Int)
    (events : List Dictionary) : Except String PhaseData := do
  let timed ← (events.filter isPhase).mapM (timedPhase truncate)
  let keyed ← events.mapM (sortKey truncate)
  let origin := originOf timed
  let marks := timed.foldl CycleMarks.step {}
  let traceEnd := ((keyed.map Prod.fst).max?).getD origin
  .ok
    { origin := origin
      phases := events.filter isPhase
      bounds :=
        windowsOf marks.ends traceEnd
          (marks.starts.items.insertionSort
            (fun left right => left.1 ≤ right.1)) }

/- The set of the names of the phases. -/
def phaseNames (data : PhaseData) : List (List Char) :=
  (data.phases.map eventName).dedup

/- The column `cycles_started`. -/
def cyclesStarted (data : PhaseData) : Nat :=
  data.bounds.length

/- The names of ends that are counted. -/
def isEndName (name : List Char) : Bool :=
  (cycleMatch name).isSome && "_end".toList.isSuffixOf name

/- The column `cycles_completed`. -/
def cyclesCompletedByPhase (data : PhaseData) : Nat :=
  ((phaseNames data).filter isEndName).length

/- The column `process_error`. -/
def processError (data : PhaseData) : Bool :=
  (phaseNames data).contains "process_error".toList

end

------------------------------------------------------------
-- Cycles In Turn
------------------------------------------------------------

/- Every cycle begins and ends before the next one begins. -/
def markAt (i : Nat) : Int × Bool :=
  (((i / 2 + 1 : Nat) : Int), i % 2 = 0)

/- The first marks of the cycles. -/
def turns (n : Nat) : List (Int × Bool) :=
  (List.range n).map markAt

/- The start of a cycle, by its number. -/
def startItem (times : List Int) (k : Nat) : Int × Int :=
  (((k + 1 : Nat) : Int), times.getD (2 * k) 0)

/- The end of a cycle, by its number. -/
def endItem (times : List Int) (k : Nat) : Int × Int :=
  (((k + 1 : Nat) : Int), times.getD (2 * k + 1) 0)

/- The starts among the marks, by the times of the marks. -/
def startItems (times : List Int) : List (Int × Int) :=
  (List.range ((times.length + 1) / 2)).map (startItem times)

/- The ends of the cycles that ended. -/
def endItems (times : List Int) : List (Int × Int) :=
  (List.range (times.length / 2)).map (endItem times)

/- The window of a cycle. -/
def turnWindow
    (times : List Int)
    (traceEnd : Int)
    (k : Nat) : Int × (Int × Int) :=
  (((k + 1 : Nat) : Int),
    (times.getD (2 * k) 0,
      times.getD (2 * k + 1) (traceEnd + 1)))

/- The windows of cycles in turn. -/
def turnWindows
    (times : List Int)
    (traceEnd : Int) : List (Int × (Int × Int)) :=
  (List.range ((times.length + 1) / 2)).map
    (turnWindow times traceEnd)

theorem turns_succ
    (n : Nat) :
    turns (n + 1) = turns n ++ [markAt n] := by
  unfold turns
  rw [List.range_succ, List.map_append]
  rfl

@[simp] theorem length_turns
    (n : Nat) :
    (turns n).length = n := by
  simp [turns]

/- What is cut off behind is in turn as well. -/
theorem of_prefix_turns
    {marks : List (Int × Bool)}
    {n : Nat}
    (hFront : marks <+: turns n) :
    marks = turns marks.length := by
  have hLength := hFront.length_le
  rw [length_turns] at hLength
  rw [List.prefix_iff_eq_take] at hFront
  rw [hFront]
  unfold turns
  rw [← List.map_take, List.take_range, List.length_map,
    List.length_range, Nat.min_eq_left hLength]

theorem startItems_concat
    (times : List Int)
    (time : Int) :
    startItems (times ++ [time]) =
      startItems times ++
        (if times.length % 2 = 0 then
          [(((times.length / 2 + 1 : Nat) : Int), time)]
        else
          []) := by
  have hOld :
      ∀ k ∈ List.range ((times.length + 1) / 2),
        startItem (times ++ [time]) k = startItem times k := by
    intro k hK
    rw [List.mem_range] at hK
    unfold startItem
    rw [List.getD_append _ _ _ _ (by omega)]
  unfold startItems
  rw [List.length_append, List.length_singleton]
  by_cases hEven : times.length % 2 = 0
  · have hCount :
        (times.length + 1 + 1) / 2 =
          (times.length + 1) / 2 + 1 := by
      omega
    have hLast : (times.length + 1) / 2 = times.length / 2 := by
      omega
    have hTwice : 2 * (times.length / 2) = times.length := by
      omega
    rw [if_pos hEven, hCount, List.range_succ, List.map_append,
      List.map_congr_left hOld, List.map_singleton, hLast]
    simp [startItem, hTwice]
  · have hCount :
        (times.length + 1 + 1) / 2 =
          (times.length + 1) / 2 := by
      omega
    rw [if_neg hEven, List.append_nil, hCount,
      List.map_congr_left hOld]

theorem endItems_concat
    (times : List Int)
    (time : Int) :
    endItems (times ++ [time]) =
      endItems times ++
        (if times.length % 2 = 0 then
          []
        else
          [(((times.length / 2 + 1 : Nat) : Int), time)]) := by
  have hOld :
      ∀ k ∈ List.range (times.length / 2),
        endItem (times ++ [time]) k = endItem times k := by
    intro k hK
    rw [List.mem_range] at hK
    unfold endItem
    rw [List.getD_append _ _ _ _ (by omega)]
  unfold endItems
  rw [List.length_append, List.length_singleton]
  by_cases hEven : times.length % 2 = 0
  · have hCount :
        (times.length + 1) / 2 = times.length / 2 := by
      omega
    rw [if_pos hEven, List.append_nil, hCount,
      List.map_congr_left hOld]
  · have hCount :
        (times.length + 1) / 2 = times.length / 2 + 1 := by
      omega
    have hTwice : 2 * (times.length / 2) + 1 = times.length := by
      omega
    rw [if_neg hEven, hCount, List.range_succ, List.map_append,
      List.map_congr_left hOld, List.map_singleton]
    simp [endItem, hTwice]

theorem not_mem_keys
    {marks : Dict Int Int}
    {item : Nat → Int × Int}
    {n : Nat}
    (hItem : ∀ k, (item k).1 = ((k + 1 : Nat) : Int))
    (hItems : marks.items = (List.range n).map item) :
    ((n + 1 : Nat) : Int) ∉ marks.keys := by
  intro hKey
  unfold Dict.keys at hKey
  rw [hItems, List.map_map] at hKey
  rcases List.mem_map.mp hKey with ⟨k, hK, hIs⟩
  rw [List.mem_range] at hK
  rw [Function.comp_apply, hItem] at hIs
  omega

/- The starts and the ends of marks in turn. -/
theorem foldl_add
    (times : List Int) :
    let marks :=
      ((turns times.length).zip times).foldl CycleMarks.add {}
    marks.starts.items = startItems times ∧
      marks.ends.items = endItems times := by
  induction times using List.reverseRecOn with
  | nil => exact ⟨rfl, rfl⟩
  | append_singleton times time ih =>
      intro marks
      generalize hBefore :
        ((turns times.length).zip times).foldl CycleMarks.add {} =
          before at ih
      have hMarks : marks = before.add (markAt times.length, time) := by
        change
          ((turns (times ++ [time]).length).zip
            (times ++ [time])).foldl CycleMarks.add {} = _
        rw [List.length_append, List.length_singleton, turns_succ,
          List.zip_append (length_turns _), List.foldl_append,
          hBefore]
        rfl
      rw [hMarks, startItems_concat, endItems_concat]
      by_cases hEven : times.length % 2 = 0
      · have hHalf : (times.length + 1) / 2 = times.length / 2 := by
          omega
        have hStarts := ih.1
        unfold startItems at hStarts
        rw [hHalf] at hStarts
        have hNew := not_mem_keys (fun _ => rfl) hStarts
        have hBegins : (markAt times.length).2 = true :=
          decide_eq_true hEven
        unfold CycleMarks.add
        rw [if_pos hBegins, if_pos hEven, if_pos hEven,
          List.append_nil]
        refine ⟨?_, ih.2⟩
        rw [← ih.1]
        exact Dict.items_set_of_not_mem hNew time
      · have hNew := not_mem_keys (fun _ => rfl) ih.2
        have hEnds : (markAt times.length).2 = false :=
          decide_eq_false hEven
        unfold CycleMarks.add
        rw [if_neg (by simp [hEnds]), if_neg hEven, if_neg hEven,
          List.append_nil]
        refine ⟨ih.1, ?_⟩
        rw [← ih.2]
        exact Dict.items_set_of_not_mem hNew time

/- A cycle that ended has its own end. -/
theorem getD_ends
    {times : List Int}
    {ends : Dict Int Int}
    (hEnds : ends.items = endItems times)
    (k : Nat)
    (fallback : Int) :
    ends.getD ((k + 1 : Nat) : Int) fallback =
      times.getD (2 * k + 1) fallback := by
  unfold Dict.getD
  by_cases hEnded : 2 * k + 1 < times.length
  · have hItem : endItem times k ∈ ends.items := by
      rw [hEnds]
      exact List.mem_map_of_mem (List.mem_range.mpr (by omega))
    have hGet := Dict.mem_items_iff.mp hItem
    rw [hGet, Option.getD_some, List.getD_eq_getElem _ _ hEnded,
      List.getD_eq_getElem _ _ hEnded]
  · have hNone : ends.get? ((k + 1 : Nat) : Int) = none := by
      rw [Option.eq_none_iff_forall_ne_some]
      intro time hSome
      rw [← Dict.mem_items_iff, hEnds] at hSome
      rcases List.mem_map.mp hSome with ⟨i, hI, hIs⟩
      rw [List.mem_range] at hI
      have hKey := congrArg Prod.fst hIs
      simp only [endItem] at hKey
      omega
    rw [hNone, Option.getD_none,
      List.getD_eq_default _ _ (by omega)]

theorem windowsOf_range
    {times : List Int}
    {ends : Dict Int Int}
    (hEnds : ends.items = endItems times)
    (traceEnd : Int)
    {j m : Nat}
    (hCount : j + m = (times.length + 1) / 2) :
    windowsOf ends traceEnd
        ((List.range' j m).map (startItem times)) =
      (List.range' j m).map (turnWindow times traceEnd) := by
  induction m generalizing j with
  | zero => rfl
  | succ m ih =>
      have hRest :=
        ih (show j + 1 + m = (times.length + 1) / 2 by omega)
      rw [List.range'_succ, List.map_cons, List.map_cons]
      unfold windowsOf
      simp only [hRest]
      congr 1
      have hEnd (fallback : Int) :
          ends.getD (startItem times j).1 fallback =
            times.getD (2 * j + 1) fallback :=
        getD_ends hEnds j fallback
      unfold turnWindow
      rw [hEnd]
      -- Only the last cycle can be without an end.
      by_cases hEnded : 2 * j + 1 < times.length
      · rw [List.getD_eq_getElem _ _ hEnded,
          List.getD_eq_getElem _ _ hEnded]
        rfl
      · have hLast : m = 0 := by
          omega
        rw [hLast]
        rfl

theorem startItems_sorted
    (times : List Int) :
    (startItems times).Pairwise (fun left right =>
      left.1 ≤ right.1) := by
  unfold startItems
  rw [List.pairwise_map]
  refine List.pairwise_lt_range.imp ?_
  intro i j hLess
  simp only [startItem]
  omega

/- The windows that the loops find for marks in turn. -/
theorem windowsOf_turns
    {times : List Int}
    {marks : CycleMarks}
    (hMarks :
      marks =
        ((turns times.length).zip times).foldl CycleMarks.add {})
    (traceEnd : Int) :
    windowsOf marks.ends traceEnd
        (marks.starts.items.insertionSort
          (fun left right => left.1 ≤ right.1)) =
      turnWindows times traceEnd := by
  have hItems := foldl_add times
  rw [← hMarks] at hItems
  rw [hItems.1, (startItems_sorted times).insertionSort_eq]
  unfold startItems turnWindows
  rw [List.range_eq_range']
  exact windowsOf_range hItems.2 traceEnd (Nat.zero_add _)

------------------------------------------------------------
-- The Data Of A Run
------------------------------------------------------------

section

open Emit (Dictionary sortKey)

/- The marks of the cycles among the phases, with their times. -/
def cycleMarks
    (phases : List (Dictionary × Int)) :
    List ((Int × Bool) × Int) :=
  phases.filterMap (fun phase =>
    (cycleMatch (eventName phase.1)).map (fun cycle =>
      (cycle, phase.2)))

theorem foldl_step
    (phases : List (Dictionary × Int))
    (marks : CycleMarks) :
    phases.foldl CycleMarks.step marks =
      (cycleMarks phases).foldl CycleMarks.add marks := by
  unfold cycleMarks
  rw [List.foldl_filterMap]
  congr 1
  funext marks phase
  unfold CycleMarks.step
  cases cycleMatch (eventName phase.1) with
  | none => rfl
  | some cycle => rfl

/- The time of the last event. -/
def traceEndOf
    (origin : Int)
    (keyed : List (Int × Dictionary)) : Int :=
  ((keyed.map Prod.fst).max?).getD origin

theorem phaseData_of_turns
    {truncate : List Char → Except String Int}
    {events : List Dictionary}
    {timed : List (Dictionary × Int)}
    {keyed : List (Int × Dictionary)}
    (hTimed :
      (events.filter isPhase).mapM (timedPhase truncate) =
        .ok timed)
    (hKeyed : events.mapM (sortKey truncate) = .ok keyed)
    (hTurns :
      (cycleMarks timed).map Prod.fst =
        turns (cycleMarks timed).length) :
    phaseData truncate events =
      .ok
        { origin := originOf timed
          phases := events.filter isPhase
          bounds :=
            turnWindows ((cycleMarks timed).map Prod.snd)
              (traceEndOf (originOf timed) keyed) } := by
  have hMarks :
      timed.foldl CycleMarks.step {} =
        ((turns ((cycleMarks timed).map Prod.snd).length).zip
          ((cycleMarks timed).map Prod.snd)).foldl
            CycleMarks.add {} := by
    have hZip := List.zip_unzip (cycleMarks timed)
    rw [List.unzip_eq_map] at hZip
    rw [foldl_step, List.length_map, ← hTurns, hZip]
  have hBounds :=
    windowsOf_turns hMarks (traceEndOf (originOf timed) keyed)
  unfold phaseData
  refine bind_eq_ok.mpr ⟨timed, hTimed, ?_⟩
  refine bind_eq_ok.mpr ⟨keyed, hKeyed, ?_⟩
  rw [← hBounds]
  rfl

end

------------------------------------------------------------
-- The Cycle Of A Time
------------------------------------------------------------

variable {bounds : List (Int × (Int × Int))}

theorem toList_ofList
    (hKeys : (bounds.map Prod.fst).Pairwise (· < ·)) :
    (Std.TreeMap.ofList bounds compare : Trace.CycleBounds).toList =
      bounds := by
  have hDistinct :
      bounds.Pairwise (fun left right =>
        ¬ compare left.1 right.1 = .eq) := by
    rw [List.pairwise_map] at hKeys
    refine hKeys.imp ?_
    intro left right hLess hEq
    rw [compare_eq_iff_eq] at hEq
    omega
  refine @eq_of_keys_lt _ _ _ Prod.fst _ _ ?_ ?_ ?_
  · rw [List.pairwise_map]
    refine Std.TreeMap.ordered_keys_toList.imp ?_
    intro left right hLess
    exact compare_lt_iff_lt.mp hLess
  · exact hKeys
  · rintro ⟨cycle, window⟩
    rw [Std.TreeMap.mem_toList_iff_getElem?_eq_some]
    constructor
    · intro hGet
      by_cases hKey : cycle ∈ bounds.map Prod.fst
      · rcases List.mem_map.mp hKey with ⟨entry, hEntry, hIs⟩
        have hOwn :=
          Std.TreeMap.getElem?_ofList_of_mem
            (show compare entry.1 cycle = .eq from
              compare_eq_iff_eq.mpr hIs)
            hDistinct hEntry
        rw [hGet] at hOwn
        cases hOwn
        rw [← hIs]
        exact hEntry
      · rw [Std.TreeMap.getElem?_ofList_of_contains_eq_false
          (by simpa using hKey)] at hGet
        cases hGet
    · intro hEntry
      exact Std.TreeMap.getElem?_ofList_of_mem
        (compare_eq_iff_eq.mpr rfl) hDistinct hEntry

/- Windows one after the other. -/
structure Windows
    (bounds : List (Int × (Int × Int))) : Prop where
  keys : (bounds.map Prod.fst).Pairwise (· < ·)
  positive : ∀ window ∈ bounds, 0 < window.1
  ordered : ∀ window ∈ bounds, window.2.1 ≤ window.2.2
  apart :
    bounds.Pairwise (fun left right => left.2.2 ≤ right.2.1)

/-
  A time of a window belongs to its cycle, unless it is the
  end of an earlier one.
-/
theorem Windows.cycleAt
    (hWindows : Windows bounds)
    {window : Int × (Int × Int)}
    (hWindow : window ∈ bounds)
    {time : Int}
    (hAfter : window.2.1 ≤ time)
    (hBefore : time ≤ window.2.2)
    (hEarlier :
      ∀ earlier ∈ bounds, earlier.1 < window.1 →
        earlier.2.2 ≠ time) :
    Trace.cycleAt (some time) (Std.TreeMap.ofList bounds) =
      window.1 := by
  have hFind :
      bounds.find? (fun entry =>
          entry.2.1 ≤ time ∧ time ≤ entry.2.2) =
        some window := by
    rcases List.append_of_mem hWindow with ⟨front, back, hIs⟩
    have hApart := hWindows.apart
    have hKeys := hWindows.keys
    rw [List.pairwise_map] at hKeys
    rw [hIs] at hApart hKeys hEarlier ⊢
    rw [List.pairwise_append] at hApart hKeys
    rw [List.find?_append, List.find?_eq_none.mpr ?_,
      Option.none_or, List.find?_cons_of_pos]
    · simp
      omega
    · intro entry hEntry
      have hEnd := hApart.2.2 entry hEntry window
        List.mem_cons_self
      have hKey := hKeys.2.2 entry hEntry window
        List.mem_cons_self
      have hOther := hEarlier entry
        (List.mem_append_left _ hEntry) hKey
      simp
      omega
  change ((((Std.TreeMap.ofList bounds compare :
    Trace.CycleBounds).toList.find? _).map _).getD 0) = _
  rw [toList_ofList hWindows.keys, hFind]
  rfl

theorem Windows.cycleAt_outside
    (hWindows : Windows bounds)
    {time : Int}
    (hOutside :
      ∀ window ∈ bounds, time < window.2.1 ∨ window.2.2 < time) :
    Trace.cycleAt (some time) (Std.TreeMap.ofList bounds) =
      0 := by
  have hFind :
      bounds.find? (fun entry =>
          entry.2.1 ≤ time ∧ time ≤ entry.2.2) =
        none := by
    rw [List.find?_eq_none]
    intro entry hEntry
    have hOut := hOutside entry hEntry
    simp
    omega
  change ((((Std.TreeMap.ofList bounds compare :
    Trace.CycleBounds).toList.find? _).map _).getD 0) = _
  rw [toList_ofList hWindows.keys, hFind]
  rfl

theorem getD_le_getD
    {times : List Int}
    (hTimes : times.Pairwise (· ≤ ·))
    {traceEnd : Int}
    (hEnd : ∀ time ∈ times, time ≤ traceEnd)
    {i j : Nat}
    (hOrder : i ≤ j)
    (hFirst : i < times.length)
    (fallback : Int) :
    times.getD i fallback ≤ times.getD j (traceEnd + 1) := by
  rw [List.getD_eq_getElem _ _ hFirst]
  by_cases hLast : j < times.length
  · rw [List.getD_eq_getElem _ _ hLast]
    rcases Nat.lt_or_eq_of_le hOrder with hLess | hEq
    · exact List.pairwise_iff_getElem.mp hTimes i j hFirst hLast
        hLess
    · subst hEq
      exact le_refl _
  · rw [List.getD_eq_default _ _ (by omega)]
    have hLe := hEnd _ (List.getElem_mem hFirst)
    omega

/- Marks in turn whose times do not go back. -/
theorem windows_turns
    {times : List Int}
    (hTimes : times.Pairwise (· ≤ ·))
    {traceEnd : Int}
    (hEnd : ∀ time ∈ times, time ≤ traceEnd) :
    Windows (turnWindows times traceEnd) := by
  unfold turnWindows
  constructor
  case keys =>
    rw [List.map_map, List.pairwise_map]
    refine List.pairwise_lt_range.imp ?_
    intro i j hLess
    simp only [Function.comp_apply, turnWindow]
    omega
  case positive =>
    rw [List.forall_mem_map]
    intro k _
    simp only [turnWindow]
    omega
  case ordered =>
    rw [List.forall_mem_map]
    intro k hK
    rw [List.mem_range] at hK
    exact getD_le_getD hTimes hEnd (by omega) (by omega) 0
  case apart =>
    rw [List.pairwise_map]
    refine List.Pairwise.imp_of_mem ?_ List.pairwise_lt_range
    intro i j _ hJ hLess
    rw [List.mem_range] at hJ
    simp only [turnWindow]
    have hEnded : 2 * i + 1 < times.length := by
      omega
    have hBegun : 2 * j < times.length := by
      omega
    rw [List.getD_eq_getElem _ _ hEnded,
      List.getD_eq_getElem _ _ hBegun]
    exact List.pairwise_iff_getElem.mp hTimes _ _ hEnded hBegun
      (by omega)

end Startup

end RsCamera
