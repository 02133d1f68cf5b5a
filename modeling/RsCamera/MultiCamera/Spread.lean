import RsCamera.MultiCamera.Plan

/-
  The loop of `_spread`.

  The groups of the hubs are queues in a dictionary, and each
  pass over the sorted hubs takes the first camera of every
  queue that is not empty.  The loop ends after at most one
  pass for each camera, and at any time no hub is more than
  one camera ahead of another that has cameras left.

  Key definitions include:
    * `Spreading`, `Spreading.pass`
    * `spreadLoop`

  Key theorems include:
    * `spreadLoop_eq`
    * `spread_balanced`
-/

------------------------------------------------------------
-- The Loop
------------------------------------------------------------

namespace RsCamera

namespace MultiCamera

section

open Choices

/- `by_hub` and `result`. -/
structure Spreading where
  byHub : Dict String (List Camera)
  result : List Camera

/- `by_hub[hub]`; the dictionary gives new hubs no cameras. -/
def Spreading.queue
    (s : Spreading)
    (hub : String) : List Camera :=
  s.byHub.getD hub []

/- The body of the inner loop. -/
def Spreading.take
    (s : Spreading)
    (hub : String) : Spreading :=
  match s.queue hub with
  | [] => s
  | camera :: rest =>
      { byHub := s.byHub.set hub rest
        result := s.result ++ [camera] }

/- `sorted(by_hub)`. -/
def Spreading.hubs (s : Spreading) : List String :=
  sortTexts s.byHub.keys

def Spreading.pass (s : Spreading) : Spreading :=
  s.hubs.foldl Spreading.take s

/- `not any(by_hub.values())`. -/
def Spreading.finished (s : Spreading) : Bool :=
  s.byHub.items.all (fun item => item.2.isEmpty)

/- The `while` loop; without fuel it has not ended. -/
def spreadLoop : Nat → Spreading → Option (List Camera)
| 0, _ => none
| fuel + 1, s =>
    if s.finished then
      some s.result
    else
      spreadLoop fuel s.pass

/- The groups of the hubs, each one sorted. -/
def spreadStart (cameras : List Camera) : Spreading where
  byHub :=
    (groupLists Camera.upstreamHub cameras).mapValues
      (fun group => group.insertionSort (fun left right =>
        toLex (left.model, left.serial) ≤
          toLex (right.model, right.serial)))
  result := []

end

------------------------------------------------------------
-- One Pass
------------------------------------------------------------

section

open Choices

/- The queues in the order of the hubs. -/
def Spreading.queues (s : Spreading) : List (List Camera) :=
  s.hubs.map s.queue

theorem Spreading.mem_keys_of_queue
    {s : Spreading}
    {hub : String}
    {camera : Camera}
    {rest : List Camera}
    (hQueue : s.queue hub = camera :: rest) :
    hub ∈ s.byHub.keys := by
  rw [Dict.mem_keys_iff]
  unfold Spreading.queue Dict.getD at hQueue
  cases hGet : s.byHub.get? hub with
  | none => simp [hGet] at hQueue
  | some group => exact ⟨group, rfl⟩

theorem Spreading.keys_take
    (s : Spreading)
    (hub : String) :
    (s.take hub).byHub.keys = s.byHub.keys := by
  unfold Spreading.take
  split
  next hQueue => rfl
  next camera rest hQueue =>
    exact Dict.keys_set_of_mem (mem_keys_of_queue hQueue) rest

theorem Spreading.queue_take
    (s : Spreading)
    (hub other : String) :
    (s.take hub).queue other =
      if other = hub then (s.queue hub).tail
      else s.queue other := by
  unfold Spreading.take
  split
  next hQueue =>
    split
    next hSame => rw [hSame, hQueue, List.tail_nil]
    next => rfl
  next camera rest hQueue =>
    rw [hQueue, List.tail_cons]
    unfold Spreading.queue Dict.getD
    rw [Dict.get?_set]
    split
    · rfl
    · rfl

theorem Spreading.result_take
    (s : Spreading)
    (hub : String) :
    (s.take hub).result =
      s.result ++ (s.queue hub).head?.toList := by
  unfold Spreading.take
  split
  next hQueue => simp [hQueue]
  next camera rest hQueue => simp [hQueue]

/- What a pass over hubs does, each hub named once. -/
theorem Spreading.foldl_take
    {hubs : List String}
    (hHubs : hubs.Nodup)
    (s : Spreading) :
    (hubs.foldl Spreading.take s).byHub.keys = s.byHub.keys ∧
      (∀ hub, (hubs.foldl Spreading.take s).queue hub =
        if hub ∈ hubs then (s.queue hub).tail
        else s.queue hub) ∧
      (hubs.foldl Spreading.take s).result =
        s.result ++ (hubs.map s.queue).filterMap
          List.head? := by
  induction hubs generalizing s with
  | nil => simp
  | cons hub hubs ih =>
      rw [List.nodup_cons] at hHubs
      rcases ih hHubs.2 (s.take hub) with
        ⟨hKeys, hQueues, hResult⟩
      -- The queues of the later hubs are still the old ones.
      have hLater :
          hubs.map (s.take hub).queue = hubs.map s.queue := by
        apply List.map_congr_left
        intro other hOther
        rw [queue_take, if_neg]
        intro hSame
        exact hHubs.1 (hSame ▸ hOther)
      rw [List.foldl_cons]
      refine ⟨hKeys.trans (keys_take s hub), ?_, ?_⟩
      · intro other
        rw [hQueues other, queue_take]
        by_cases hSame : other = hub
        · rw [hSame, if_neg hHubs.1]
          simp
        · simp [hSame]
      · rw [hResult, hLater, result_take, List.map_cons]
        cases hQueue : s.queue hub with
        | nil => simp [List.filterMap_cons]
        | cons camera rest => simp

theorem Spreading.nodup_hubs
    (s : Spreading) :
    s.hubs.Nodup :=
  (List.perm_insertionSort _ _).nodup_iff.mpr s.byHub.nodup

theorem Spreading.queues_pass
    (s : Spreading) :
    s.pass.queues = s.queues.map List.tail ∧
      s.pass.result =
        s.result ++ s.queues.filterMap List.head? := by
  rcases foldl_take s.nodup_hubs s with
    ⟨hKeys, hQueues, hResult⟩
  refine ⟨?_, hResult⟩
  have hHubs : s.pass.hubs = s.hubs := by
    unfold Spreading.hubs
    exact congrArg sortTexts hKeys
  unfold Spreading.queues
  rw [hHubs, List.map_map]
  apply List.map_congr_left
  intro hub hHub
  exact (hQueues hub).trans (if_pos hHub)

theorem Spreading.finished_iff
    (s : Spreading) :
    s.finished = s.queues.all List.isEmpty := by
  have hPerm := List.perm_insertionSort (· ≤ ·) s.byHub.keys
  have hAll :
      s.queues.all List.isEmpty =
        (s.byHub.keys.map s.queue).all List.isEmpty :=
    (hPerm.map s.queue).all_eq
  rw [hAll]
  unfold Spreading.finished Dict.keys
  rw [List.map_map, List.all_map]
  apply Bool.eq_iff_iff.mpr
  rw [List.all_eq_true, List.all_eq_true]
  apply forall₂_congr
  intro item hItem
  have hGet : s.byHub.get? item.1 = some item.2 :=
    Dict.mem_items_iff.mp hItem
  simp [Spreading.queue, Dict.getD, hGet]

end

------------------------------------------------------------
-- All Passes
------------------------------------------------------------

open Choices

/- The induction is on the passes; each one takes a camera. -/
theorem spreadLoop_turns
    {fuel : Nat}
    {s : Spreading}
    (hFuel : s.queues.flatten.length ≤ fuel) :
    spreadLoop (fuel + 1) s =
      some (s.result ++ turns fuel s.queues) := by
  induction fuel generalizing s with
  | zero =>
      have hDone : s.finished = true := by
        have hNil : s.queues.flatten = [] :=
          List.length_eq_zero_iff.mp (by omega)
        rw [s.finished_iff]
        simpa [List.isEmpty_iff] using hNil
      simp [spreadLoop, hDone, turns]
  | succ fuel ih =>
      rw [spreadLoop, turns, s.finished_iff]
      split
      next hAll => rw [List.append_nil]
      next hSome =>
        rcases s.queues_pass with ⟨hQueues, hResult⟩
        have hLength :=
          (heads_append_tails_perm s.queues).length_eq
        have hTaken :=
          List.length_pos_iff.mpr (heads_ne_nil hSome)
        rw [List.length_append] at hLength
        rw [ih (by rw [hQueues]; omega), hQueues, hResult,
          List.append_assoc]

/- The groups stand in the order of their hubs. -/
theorem takeTurns_spreadStart
    (cameras : List Camera) :
    takeTurns (spreadStart cameras).queues = spread cameras := by
  have hKeys :
      (spreadStart cameras).byHub.keys =
        (groupLists Camera.upstreamHub cameras).keys := by
    simp [spreadStart, Dict.keys, Dict.mapValues]
  have hHubs :
      (spreadStart cameras).hubs =
        ((groupLists Camera.upstreamHub cameras
          ).items.insertionSort (fun left right =>
            left.1 ≤ right.1)).map Prod.fst := by
    unfold Spreading.hubs sortTexts
    rw [hKeys, List.map_insertionSort _ (· ≤ ·) _ _
      (fun _ _ _ _ => Iff.rfl)]
    rfl
  unfold spread Spreading.queues
  rw [hHubs, List.map_map]
  refine congrArg takeTurns (List.map_congr_left ?_)
  intro item hItem
  have hIn := (List.mem_insertionSort _).mp hItem
  have hGet :
      (spreadStart cameras).byHub.get? item.1 =
        some (item.2.insertionSort (fun left right =>
          toLex (left.model, left.serial) ≤
            toLex (right.model, right.serial))) := by
    rw [← Dict.mem_items_iff]
    exact List.mem_map.mpr ⟨item, hIn, rfl⟩
  simp [Spreading.queue, Dict.getD, hGet]

theorem hub_of_mem_queue
    {cameras : List Camera}
    {hub : String}
    {camera : Camera}
    (hCamera : camera ∈ (spreadStart cameras).queue hub) :
    camera.upstreamHub = hub := by
  unfold Spreading.queue Dict.getD at hCamera
  cases hGet : (spreadStart cameras).byHub.get? hub with
  | none => simp [hGet] at hCamera
  | some group =>
      rw [hGet, Option.getD_some] at hCamera
      rcases List.mem_map.mp (Dict.mem_items_iff.mpr hGet) with
        ⟨item, hItem, hIs⟩
      rw [Prod.mk.injEq] at hIs
      rw [← hIs.2, List.mem_insertionSort] at hCamera
      rw [← hIs.1]
      exact key_of_mem_groupLists (Dict.mem_items_iff.mp hItem)
        camera hCamera

theorem separate_spreadStart
    (cameras : List Camera) :
    Separate Camera.upstreamHub
      (spreadStart cameras).queues := by
  constructor
  · intro queue hQueue x hX y hY
    rcases List.mem_map.mp hQueue with ⟨hub, -, hIs⟩
    subst hIs
    rw [hub_of_mem_queue hX, hub_of_mem_queue hY]
  · unfold Spreading.queues
    rw [List.pairwise_map]
    refine (spreadStart cameras).nodup_hubs.imp ?_
    intro hub other hNe x hX y hY
    rw [hub_of_mem_queue hX, hub_of_mem_queue hY]
    exact hNe

theorem spread_balanced
    (cameras : List Camera) :
    (∃ passes, ∀ fuel, passes ≤ fuel →
        spreadLoop fuel (spreadStart cameras) =
          some (spread cameras)) ∧
      (spread cameras).Perm cameras ∧
      (∀ taken, taken <+: spread cameras →
        ∀ hub other,
          taken.countP (fun camera =>
              camera.upstreamHub = hub) ≤
            taken.countP (fun camera =>
              camera.upstreamHub = other) + 1 ∨
          taken.countP (fun camera =>
              camera.upstreamHub = other) =
            cameras.countP (fun camera =>
              camera.upstreamHub = other)) ∧
      ∀ taken, taken <+: spread cameras →
        ∀ hub,
          2 ≤ taken.countP (fun camera =>
              camera.upstreamHub = hub) →
          ∀ camera ∈ cameras, ∃ used ∈ taken,
            used.upstreamHub = camera.upstreamHub := by
  have hPerm := spread_perm cameras
  have hQueues := takeTurns_spreadStart cameras
  have hFlat :=
    (takeTurns_perm (spreadStart cameras).queues).symm.trans
      (hQueues ▸ hPerm)
  have hBalanced :
      ∀ taken, taken <+: spread cameras →
        Balanced Camera.upstreamHub cameras taken := by
    intro taken hTaken hub other
    rw [← hQueues] at hTaken
    have hHere :=
      takeTurns_balanced (separate_spreadStart cameras) hTaken
        hub other
    rwa [ofKey_perm Camera.upstreamHub other hFlat] at hHere
  refine ⟨?_, hPerm, hBalanced, ?_⟩
  · refine ⟨(spreadStart cameras).queues.flatten.length + 1, ?_⟩
    intro fuel hFuel
    rcases Nat.exists_eq_add_of_le' hFuel with ⟨more, hMore⟩
    rw [hMore, ← Nat.add_assoc, spreadLoop_turns (by omega),
      turns_of_le (Nat.le_refl _) (by omega)]
    exact congrArg some hQueues
  · intro taken hTaken hub hTwo camera hCamera
    have hSome :
        0 < cameras.countP (fun other =>
          other.upstreamHub = camera.upstreamHub) :=
      List.countP_pos_iff.mpr ⟨camera, hCamera, by simp⟩
    have hUsed :
        0 < taken.countP (fun other =>
          other.upstreamHub = camera.upstreamHub) := by
      have hHere :=
        hBalanced taken hTaken hub camera.upstreamHub
      unfold ofKey at hHere
      omega
    rcases List.countP_pos_iff.mp hUsed with
      ⟨used, hIn, hHub⟩
    exact ⟨used, hIn, by simpa using hHub⟩

end MultiCamera

end RsCamera
