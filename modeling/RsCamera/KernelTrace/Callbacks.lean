import Mathlib.Algebra.Order.Ring.Rat
import Mathlib.Data.Int.ConditionallyCompleteOrder
import Mathlib.Data.List.Sort
import Mathlib.Data.Prod.Lex
import Mathlib.Order.WithBot
import Mathlib.Tactic.Linarith
import RsCamera.Lib.Sorted

/-
  The completion callback of a video buffer (the end of
  `analyze_kernel` in `analyze_full_receive_path.py`).

  The callbacks are sorted as tuples, and the scan for a
  buffer goes back from the last one that starts in time.
  It gives up at the first callback that starts too early
  for the longest of all durations.

  Key definitions include:
    * `Callback`, `VideoBuffer`
    * `sortCallbacks`, `scanBack`
    * `assignCallback`, `assignCallbacks`
    * `Mixed`, `Assigned`

  Key theorems include:
    * `scanBack_eq`
    * `assignCallback_assigned`
    * `assignCallbacks_assigned_iff`
-/

------------------------------------------------------------
-- Callbacks And Buffers
------------------------------------------------------------

namespace RsCamera

namespace KernelTrace

/- An entry of `uvc_xhci_callbacks`. -/
structure Callback where
  startS : ℚ
  endS : ℚ
  activationS : ℚ
  irq : Option Int
deriving DecidableEq

/- The order of the tuples. -/
def Callback.key
    (callback : Callback) : ℚ ×ₗ ℚ ×ₗ ℚ ×ₗ WithBot Int :=
  toLex (callback.startS, toLex (callback.endS,
    toLex (callback.activationS, callback.irq)))

/-
  The comparison of two tuples gets to the interrupts, and
  one of them is `None`.
-/
def Mixed (left right : Callback) : Prop :=
  left.startS = right.startS ∧ left.endS = right.endS ∧
    left.activationS = right.activationS ∧
      left.irq = none ∧ right.irq ≠ none

instance (left right : Callback) :
    Decidable (Mixed left right) :=
  inferInstanceAs (Decidable (_ ∧ _ ∧ _ ∧ _ ∧ _))

/-
  `sort` of a list of tuples.  Tuples that stand next to each
  other in the result have been compared, so a mixed pair
  does not go unnoticed.
-/
def sortCallbacks
    (callbacks : List Callback) :
    Except String (List Callback) :=
  if ∃ left ∈ callbacks, ∃ right ∈ callbacks,
      Mixed left right then
    .error
      ("'<' not supported between instances of " ++
        "'NoneType' and 'int'")
  else
    .ok
      (callbacks.insertionSort (fun left right =>
        left.key ≤ right.key))

/- A video buffer of the trace, as far as it gets a callback. -/
structure VideoBuffer where
  backendS : ℚ
  completeS : ℚ
  bytesused : Nat
  sequence : Int
  xhciActivationS : Option ℚ
  xhciRunS : Option ℚ
  xhciIrq : Option Int
deriving DecidableEq

------------------------------------------------------------
-- The Scan
------------------------------------------------------------

/- The longest callback; zero if there is none. -/
def maxCallbackDuration (callbacks : List Callback) : ℚ :=
  (callbacks.map (fun callback =>
    callback.endS - callback.startS)).max?.getD 0

/- The loop that goes back from behind a position. -/
def scanBack
    (callbacks : List Callback)
    (longest backendS : ℚ) : Nat → List Callback
| 0 => []
| position + 1 =>
    match callbacks[position]? with
    | none => []
    | some callback =>
        if callback.startS < backendS - longest then
          []
        else if backendS ≤ callback.endS then
          callback ::
            scanBack callbacks longest backendS position
        else
          scanBack callbacks longest backendS position

/- The first of the candidates with the latest start. -/
def latestStart : List Callback → Option Callback
| [] => none
| candidate :: rest =>
    some
      (rest.foldl
        (fun best callback =>
          if best.startS < callback.startS then
            callback
          else
            best)
        candidate)

/- The loop body over the sorted callbacks. -/
def assignCallback
    (callbacks : List Callback)
    (buffer : VideoBuffer) : VideoBuffer :=
  let starts := callbacks.map Callback.startS
  let position :=
    bisect (fun startS => !(buffer.backendS < startS)) starts
  let candidates :=
    scanBack callbacks (maxCallbackDuration callbacks)
      buffer.backendS position
  match latestStart candidates with
  | none => buffer
  | some callback =>
      { buffer with
        xhciActivationS := some callback.activationS
        xhciRunS := some callback.startS
        xhciIrq :=
          match callback.irq with
          | none => buffer.xhciIrq
          | some number => some number }

/- The callbacks are sorted once, for all buffers. -/
def assignCallbacks
    (callbacks : List Callback)
    (videoBuffers : List VideoBuffer) :
    Except String (List VideoBuffer) := do
  let sorted ← sortCallbacks callbacks
  .ok (videoBuffers.map (assignCallback sorted))

------------------------------------------------------------
-- What Is Assigned
------------------------------------------------------------

/- The time lies in the callback, both ends included. -/
def Callback.Contains
    (callback : Callback)
    (backendS : ℚ) : Prop :=
  callback.startS ≤ backendS ∧ backendS ≤ callback.endS

instance (callback : Callback) (backendS : ℚ) :
    Decidable (callback.Contains backendS) :=
  inferInstanceAs (Decidable (_ ∧ _))

/- The greatest tuple among those that contain the instant. -/
structure Latest
    (callbacks : List Callback)
    (backendS : ℚ)
    (callback : Callback) : Prop where
  mem : callback ∈ callbacks
  contains : callback.Contains backendS
  greatest :
    ∀ other ∈ callbacks, other.Contains backendS →
      other.startS ≤ callback.startS ∧
        other.key ≤ callback.key

/- What a buffer is to be, by the whole list of callbacks. -/
inductive Assigned
    (callbacks : List Callback)
    (buffer : VideoBuffer) : VideoBuffer → Prop
| latest
    (callback : Callback)
    (hLatest : Latest callbacks buffer.backendS callback) :
    Assigned callbacks buffer
      { buffer with
        xhciActivationS := some callback.activationS
        xhciRunS := some callback.startS
        xhciIrq := callback.irq.or buffer.xhciIrq }
| unassigned
    (hNone :
      ∀ callback ∈ callbacks,
        ¬callback.Contains buffer.backendS) :
    Assigned callbacks buffer buffer

------------------------------------------------------------
-- Correctness Of The Scan
------------------------------------------------------------

section Scan

variable {callbacks : List Callback}
variable {backendS : ℚ}

theorem startS_le_of_key_le
    {left right : Callback}
    (hKey : left.key ≤ right.key) :
    left.startS ≤ right.startS :=
  (Prod.Lex.toLex_le_toLex'.mp hKey).1

/- No callback lasts longer than the longest one. -/
theorem duration_le
    {callback : Callback}
    (hMem : callback ∈ callbacks) :
    callback.endS - callback.startS ≤
      maxCallbackDuration callbacks := by
  unfold maxCallbackDuration
  have hDuration :
      callback.endS - callback.startS ∈
        callbacks.map (fun callback =>
          callback.endS - callback.startS) :=
    List.mem_map_of_mem hMem
  cases hMax :
      (callbacks.map (fun callback =>
        callback.endS - callback.startS)).max? with
  | none =>
      rw [List.max?_eq_none_iff] at hMax
      simp [hMax] at hDuration
  | some longest =>
      exact (List.max?_eq_some_iff.mp hMax).2 _ hDuration

/-
  A callback that contains the instant does not start before
  the cut: it would last longer than the longest one.
-/
theorem not_early_of_contains
    {callback : Callback}
    (hMem : callback ∈ callbacks)
    (hContains : callback.Contains backendS) :
    ¬callback.startS <
      backendS - maxCallbackDuration callbacks := by
  have hDuration := duration_le hMem
  have hEnd := hContains.2
  linarith

/-
  The scan from a position finds all callbacks before it
  that contain the instant, the last one first.
-/
theorem scanBack_eq
    (hSorted :
      callbacks.Pairwise (fun left right =>
        left.startS ≤ right.startS))
    {position : Nat}
    (hLength : position ≤ callbacks.length)
    (hStarts :
      ∀ callback ∈ callbacks.take position,
        callback.startS ≤ backendS) :
    scanBack callbacks (maxCallbackDuration callbacks)
        backendS position =
      ((callbacks.take position).filter (fun callback =>
        callback.Contains backendS)).reverse := by
  induction position with
  | zero => simp [scanBack]
  | succ position ih =>
      have hTake :=
        (List.take_concat_get' callbacks position hLength).symm
      have hRest :
          ∀ callback ∈ callbacks.take position,
            callback.startS ≤ backendS := by
        intro callback hMem
        apply hStarts
        rw [hTake]
        exact List.mem_append_left _ hMem
      have hStart :
          callbacks[position].startS ≤ backendS := by
        apply hStarts
        rw [hTake]
        exact List.mem_append_right _ (List.mem_singleton_self _)
      rw [scanBack, List.getElem?_eq_getElem hLength]
      simp only
      rw [ih (by omega) hRest, hTake, List.filter_append,
        List.reverse_append]
      split
      next hEarly =>
        -- Everything before the cut starts even earlier.
        symm
        rw [← List.reverse_append, List.reverse_eq_nil_iff,
          ← List.filter_append, ← hTake,
          List.filter_eq_nil_iff]
        intro callback hMem
        simp only [decide_eq_true_eq]
        intro hContains
        apply not_early_of_contains
          (List.mem_of_mem_take hMem) hContains
        apply lt_of_le_of_lt _ hEarly
        rw [hTake] at hMem
        rcases List.mem_append.mp hMem with hBefore | hHere
        · have hPairs :=
            hSorted.sublist
              (List.take_sublist (position + 1) callbacks)
          rw [hTake, List.pairwise_append] at hPairs
          exact hPairs.2.2 callback hBefore _
            (List.mem_singleton_self _)
        · simp only [List.mem_singleton] at hHere
          rw [hHere]
      next hLate =>
        split
        next hEnd =>
          have hContains :
              callbacks[position].Contains backendS :=
            ⟨hStart, hEnd⟩
          simp [hContains]
        next hEnd =>
          have hContains :
              ¬callbacks[position].Contains backendS :=
            fun hContains => hEnd hContains.2
          simp [hContains]

/- Of candidates in falling order the first one is chosen. -/
theorem latestStart_cons
    {candidate : Callback}
    {rest : List Callback}
    (hRest :
      ∀ callback ∈ rest,
        callback.startS ≤ candidate.startS) :
    latestStart (candidate :: rest) = some candidate := by
  simp only [latestStart, Option.some.injEq]
  induction rest with
  | nil => rfl
  | cons callback rest ih =>
      have hCallback := hRest callback (by simp)
      rw [List.foldl_cons, if_neg (not_lt.mpr hCallback)]
      apply ih
      intro other hOther
      exact hRest other (List.mem_cons_of_mem _ hOther)

/- The candidates of a buffer. -/
theorem candidates_eq
    (hSorted :
      callbacks.Pairwise (fun left right =>
        left.key ≤ right.key)) :
    scanBack callbacks (maxCallbackDuration callbacks)
        backendS
        (bisect (fun startS => !(backendS < startS))
          (callbacks.map Callback.startS)) =
      (callbacks.filter (fun callback =>
        callback.Contains backendS)).reverse := by
  have hStarts :
      callbacks.Pairwise (fun left right =>
        left.startS ≤ right.startS) :=
    hSorted.imp startS_le_of_key_le
  have hFirst :
      LeftFirst (fun callback : Callback =>
        !decide (backendS < callback.startS)) callbacks := by
    apply hStarts.imp
    intro left right hLe hRight
    simp only [Bool.not_eq_true', decide_eq_false_iff_not,
      not_lt] at hRight ⊢
    exact hLe.trans hRight
  have hBisect :
      bisect (fun startS => !decide (backendS < startS))
          (callbacks.map Callback.startS) =
        callbacks.countP (fun callback =>
          !decide (backendS < callback.startS)) := by
    rw [bisect_eq_countP]
    · rw [List.countP_map]
      rfl
    · exact List.pairwise_map.mpr hFirst
  have hTake := take_countP hFirst
  rw [hBisect, scanBack_eq hStarts List.countP_le_length,
    hTake, List.filter_filter]
  · congr 2
    funext callback
    simp only [Callback.Contains]
    by_cases hStart : callback.startS ≤ backendS
    · simp [hStart]
    · simp [hStart]
  · intro callback hMem
    rw [hTake] at hMem
    simpa using (List.mem_filter.mp hMem).2

/- A buffer gets its callback from the sorted list. -/
theorem assignCallback_assigned
    (hSorted :
      callbacks.Pairwise (fun left right =>
        left.key ≤ right.key))
    (buffer : VideoBuffer) :
    Assigned callbacks buffer
      (assignCallback callbacks buffer) := by
  unfold assignCallback
  simp only [candidates_eq hSorted]
  have hMem :
      ∀ callback,
        callback ∈
            (callbacks.filter (fun callback =>
              callback.Contains buffer.backendS)).reverse ↔
          callback ∈ callbacks ∧
            callback.Contains buffer.backendS := by
    simp
  have hFalling :
      ((callbacks.filter (fun callback =>
        callback.Contains
          buffer.backendS)).reverse).Pairwise
        (fun left right => right.key ≤ left.key) :=
    List.pairwise_reverse.mpr (hSorted.filter _)
  cases hCandidates :
      (callbacks.filter (fun callback =>
        callback.Contains buffer.backendS)).reverse with
  | nil =>
      apply Assigned.unassigned
      intro callback hCallback hContains
      have hFound := (hMem callback).mpr ⟨hCallback, hContains⟩
      simp [hCandidates] at hFound
  | cons callback rest =>
      rw [hCandidates] at hMem hFalling
      rw [List.pairwise_cons] at hFalling
      rw [latestStart_cons]
      · have hHead := (hMem callback).mp (by simp)
        have hLatest :
            Latest callbacks buffer.backendS callback := by
          refine ⟨hHead.1, hHead.2, ?_⟩
          intro other hOther hContains
          have hFound := (hMem other).mpr ⟨hOther, hContains⟩
          have hKey : other.key ≤ callback.key := by
            rcases List.mem_cons.mp hFound with hSame | hRest
            · rw [hSame]
            · exact hFalling.1 other hRest
          exact ⟨startS_le_of_key_le hKey, hKey⟩
        have hAssigned := Assigned.latest callback hLatest
        cases hIrq : callback.irq with
        | none => simpa [hIrq] using hAssigned
        | some number => simpa [hIrq] using hAssigned
      · intro other hOther
        exact startS_le_of_key_le (hFalling.1 other hOther)

end Scan

------------------------------------------------------------
-- When The Callbacks Are Sorted At All
------------------------------------------------------------

/- What a buffer is to be does not depend on the order. -/
theorem Assigned.perm
    {callbacks shuffled : List Callback}
    (hPerm : callbacks.Perm shuffled)
    {buffer assigned : VideoBuffer}
    (hAssigned : Assigned callbacks buffer assigned) :
    Assigned shuffled buffer assigned := by
  cases hAssigned with
  | latest callback hLatest =>
      apply Assigned.latest
      refine ⟨hPerm.mem_iff.mp hLatest.mem,
        hLatest.contains, ?_⟩
      intro other hOther
      exact hLatest.greatest other (hPerm.mem_iff.mpr hOther)
  | unassigned hNone =>
      apply Assigned.unassigned
      intro callback hCallback
      exact hNone callback (hPerm.mem_iff.mpr hCallback)

/-
  All buffers are assigned as they should be, unless the sort
  raises because of an interrupt that is not known.
-/
theorem assignCallbacks_assigned_iff
    (callbacks : List Callback)
    (videoBuffers : List VideoBuffer) :
    (∃ assigned,
        assignCallbacks callbacks videoBuffers =
          .ok assigned ∧
        List.Forall₂ (Assigned callbacks) videoBuffers
          assigned) ↔
      ∀ left ∈ callbacks, ∀ right ∈ callbacks,
        ¬Mixed left right := by
  unfold assignCallbacks sortCallbacks
  constructor
  · intro hAssigned left hLeft right hRight hMixed
    rcases hAssigned with ⟨assigned, hOk, -⟩
    rw [if_pos ⟨left, hLeft, right, hRight, hMixed⟩] at hOk
    cases hOk
  · intro hPlain
    rw [if_neg]
    · refine ⟨_, rfl, ?_⟩
      rw [List.forall₂_map_right_iff, List.forall₂_same]
      intro buffer hBuffer
      apply (assignCallback_assigned
        (List.pairwise_insertionSort _ _) buffer).perm
      exact List.perm_insertionSort _ _
    · rintro ⟨left, hLeft, right, hRight, hMixed⟩
      exact hPlain left hLeft right hRight hMixed

/- Two controllers, one with a thread without a number. -/
def sameInstants : List Callback :=
  [{ startS := 3 / 2, endS := 2, activationS := 1,
     irq := none },
    { startS := 3 / 2, endS := 2, activationS := 1,
      irq := some 7 }]

/- A buffer within a callback. -/
def bufferInside : VideoBuffer where
  backendS := 7 / 4
  completeS := 3
  bytesused := 4096
  sequence := 0
  xhciActivationS := none
  xhciRunS := none
  xhciIrq := none

/- Both callbacks contain the instant, none is assigned. -/
theorem sameInstants_not_assigned :
    (∀ callback ∈ sameInstants,
      callback.startS ≤ callback.endS ∧
        callback.Contains bufferInside.backendS) ∧
    ¬∃ assigned,
      assignCallbacks sameInstants [bufferInside] =
        .ok assigned ∧
      List.Forall₂ (Assigned sameInstants) [bufferInside]
        assigned := by
  constructor
  · decide +kernel
  · rintro ⟨assigned, hOk, -⟩
    unfold assignCallbacks sortCallbacks at hOk
    rw [if_pos (by decide +kernel)] at hOk
    cases hOk

end KernelTrace

end RsCamera
