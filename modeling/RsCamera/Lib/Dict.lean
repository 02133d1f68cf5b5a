import Mathlib.Algebra.GroupWithZero.Nat
import Mathlib.Data.List.Induction
import Mathlib.Data.List.Nodup

/-
  Dictionaries in the order of insertion.

  A `Dict` is a list of items with distinct keys.  Setting a
  key that is present replaces its value and keeps its
  place; a new key goes to the end.

  Main declarations:
    * `Dict`, `Dict.get?`, `Dict.set`
    * `Dict.get?_set`, `Dict.get?_update_of_not_mem`
    * `Dict.mem_items_iff`
    * `Dict.mem_keys_iff`, `Dict.mem_keys_set`
    * `groupFold`, `Contiguous`
    * `groupFold_items`, `get?_groupLists`
    * `groupLists_of_contiguous`
-/

------------------------------------------------------------
-- Items With Distinct Keys
------------------------------------------------------------

section Items

variable {K V : Type}
variable [DecidableEq K]

/- Replace the value of a key, or add the key at the end. -/
def setItem : List (K × V) → K → V → List (K × V)
| [], k, v => [(k, v)]
| item :: items, k, v =>
    if item.1 = k then
      (k, v) :: items
    else
      item :: setItem items k v

theorem mem_setItem_keys
    {items : List (K × V)}
    {k k' : K}
    {v : V} :
    k' ∈ (setItem items k v).map Prod.fst ↔
      k' ∈ items.map Prod.fst ∨ k' = k := by
  induction items with
  | nil => simp [setItem]
  | cons item items ih =>
      rw [setItem]
      split
      next hKey =>
        rw [List.map_cons, List.map_cons, List.mem_cons,
          List.mem_cons, hKey]
        tauto
      next hKey =>
        rw [List.map_cons, List.map_cons, List.mem_cons,
          List.mem_cons, ih]
        tauto

theorem nodup_setItem_keys
    {items : List (K × V)}
    (hNodup : (items.map Prod.fst).Nodup)
    (k : K)
    (v : V) :
    ((setItem items k v).map Prod.fst).Nodup := by
  induction items with
  | nil => simp [setItem]
  | cons item items ih =>
      rw [List.map_cons, List.nodup_cons] at hNodup
      rw [setItem]
      split
      next hKey =>
        rw [List.map_cons, List.nodup_cons, ← hKey]
        exact hNodup
      next hKey =>
        rw [List.map_cons, List.nodup_cons,
          mem_setItem_keys, not_or]
        exact ⟨⟨hNodup.1, hKey⟩, ih hNodup.2⟩

end Items

------------------------------------------------------------
-- Dictionaries
------------------------------------------------------------

structure Dict (K V : Type) where
  items : List (K × V)
  nodup : (items.map Prod.fst).Nodup

namespace Dict

variable {K V : Type}

instance : EmptyCollection (Dict K V) :=
  ⟨⟨[], List.nodup_nil⟩⟩

def keys (d : Dict K V) : List K :=
  d.items.map Prod.fst

variable [DecidableEq K]

def get? (d : Dict K V) (k : K) : Option V :=
  (d.items.find? (fun item => item.1 = k)).map Prod.snd

def getD (d : Dict K V) (k : K) (fallback : V) : V :=
  (d.get? k).getD fallback

def set (d : Dict K V) (k : K) (v : V) : Dict K V where
  items := setItem d.items k v
  nodup := nodup_setItem_keys d.nodup k v

omit [DecidableEq K] in
@[simp] theorem items_empty :
    (∅ : Dict K V).items = [] := rfl

theorem mem_keys_set
    {d : Dict K V}
    {k k' : K}
    {v : V} :
    k' ∈ (d.set k v).keys ↔ k' ∈ d.keys ∨ k' = k :=
  mem_setItem_keys

/- The value of a key is the one it stands with. -/
theorem mem_items_iff
    {d : Dict K V}
    {k : K}
    {v : V} :
    (k, v) ∈ d.items ↔ d.get? k = some v := by
  rcases d with ⟨items, hNodup⟩
  unfold get?
  simp only
  induction items with
  | nil => simp
  | cons item items ih =>
      rw [List.map_cons, List.nodup_cons] at hNodup
      rw [List.mem_cons, List.find?_cons]
      by_cases hKey : item.1 = k
      · have hAbsent : (k, v) ∉ items := by
          intro hMember
          apply hNodup.1
          rw [hKey]
          exact List.mem_map_of_mem hMember
        simp only [hKey, decide_true, Option.map_some,
          Option.some.injEq, hAbsent, or_false]
        constructor
        · intro hEq
          rw [← hEq]
        · intro hValue
          rw [← hKey, ← hValue]
      · have hOther : (k, v) ≠ item := by
          intro hEq
          exact hKey (by rw [← hEq])
        simp only [hKey, decide_false, hOther, false_or]
        exact ih hNodup.2

theorem mem_keys_iff
    {d : Dict K V}
    {k : K} :
    k ∈ d.keys ↔ ∃ v, d.get? k = some v := by
  unfold keys
  rw [List.mem_map]
  constructor
  · rintro ⟨item, hItem, hKey⟩
    rw [← hKey]
    exact ⟨item.2, mem_items_iff.mp hItem⟩
  · rintro ⟨v, hGet⟩
    exact ⟨(k, v), mem_items_iff.mpr hGet, rfl⟩

theorem get?_set
    (d : Dict K V)
    (k k' : K)
    (v : V) :
    (d.set k v).get? k' =
      if k' = k then some v else d.get? k' := by
  rcases d with ⟨items, hNodup⟩
  unfold get? set
  simp only
  clear hNodup
  induction items with
  | nil =>
      by_cases hKey : k' = k
      · simp [setItem, hKey]
      · simp [setItem, hKey, Ne.symm hKey]
  | cons item items ih =>
      rw [setItem]
      by_cases hItem : item.1 = k
      · rw [if_pos hItem]
        by_cases hKey : k' = k
        · simp [hKey]
        · simp [hKey, Ne.symm hKey, hItem]
      · rw [if_neg hItem, List.find?_cons, List.find?_cons]
        by_cases hFound : item.1 = k'
        · have hKey : k' ≠ k := hFound ▸ hItem
          simp [hFound, hKey]
        · simp only [hFound, decide_false]
          exact ih

/- A new key goes to the end. -/
theorem items_set_of_not_mem
    {d : Dict K V}
    {k : K}
    (hKey : k ∉ d.keys)
    (v : V) :
    (d.set k v).items = d.items ++ [(k, v)] := by
  rcases d with ⟨items, hNodup⟩
  unfold keys at hKey
  unfold set
  simp only at hKey ⊢
  clear hNodup
  induction items with
  | nil => rfl
  | cons item items ih =>
      rw [List.map_cons, List.mem_cons, not_or] at hKey
      rw [setItem, if_neg (Ne.symm hKey.1), ih hKey.2]
      rfl

/- A key that is there keeps its place. -/
theorem keys_set_of_mem
    {d : Dict K V}
    {k : K}
    (hKey : k ∈ d.keys)
    (v : V) :
    (d.set k v).keys = d.keys := by
  rcases d with ⟨items, hNodup⟩
  unfold keys at hKey ⊢
  unfold set
  simp only at hKey ⊢
  clear hNodup
  induction items with
  | nil => simp at hKey
  | cons item items ih =>
      rw [setItem]
      split
      next hHere => rw [List.map_cons, List.map_cons, hHere]
      next hOther =>
        rw [List.map_cons, List.mem_cons] at hKey
        rcases hKey with hSame | hLater
        · exact absurd hSame.symm hOther
        · rw [List.map_cons, List.map_cons, ih hLater]

/- Change every value. -/
def mapValues {W : Type} (f : V → W) (d : Dict K V) :
    Dict K W where
  items := d.items.map (fun item => (item.1, f item.2))
  nodup := by
    rw [List.map_map]
    exact d.nodup

/- Setting a key changes a sum over the values by its own. -/
theorem sum_set
    (size : V → Nat)
    (d : Dict K V)
    (k : K)
    (v : V) :
    ((d.set k v).items.map (fun item => size item.2)).sum +
        ((d.get? k).map size).getD 0 =
      (d.items.map (fun item => size item.2)).sum +
        size v := by
  rcases d with ⟨items, hNodup⟩
  unfold get? set
  simp only
  clear hNodup
  induction items with
  | nil => simp [setItem]
  | cons item items ih =>
      rw [setItem]
      by_cases hItem : item.1 = k
      · simp [hItem]
        omega
      · simp only [hItem, if_false, List.map_cons,
          List.sum_cons, List.find?_cons, decide_false]
        omega

/- Set the keys of a list of items, in order. -/
def update (d : Dict K V) (items : List (K × V)) : Dict K V :=
  items.foldl (fun d item => d.set item.1 item.2) d

theorem get?_update_of_not_mem
    {d : Dict K V}
    {items : List (K × V)}
    {k : K}
    (hAbsent : k ∉ items.map Prod.fst) :
    (d.update items).get? k = d.get? k := by
  unfold update
  induction items generalizing d with
  | nil => simp
  | cons item items ih =>
      simp only [List.map_cons, List.mem_cons, not_or] at hAbsent
      rw [List.foldl_cons, ih hAbsent.2, get?_set,
        if_neg hAbsent.1]

/- An item whose key is set once is the one that is found. -/
theorem get?_update_of_mem
    {d : Dict K V}
    {items : List (K × V)}
    {k : K}
    {v : V}
    (hNodup : (items.map Prod.fst).Nodup)
    (hItem : (k, v) ∈ items) :
    (d.update items).get? k = some v := by
  induction items generalizing d with
  | nil => cases hItem
  | cons item items ih =>
      rw [List.map_cons, List.nodup_cons] at hNodup
      change ((d.set item.1 item.2).update items).get? k = _
      rcases List.mem_cons.mp hItem with hHere | hLater
      · rw [← hHere] at hNodup ⊢
        rw [get?_update_of_not_mem hNodup.1, get?_set,
          if_pos rfl]
      · exact ih hNodup.2 hLater

/- A value is an old one, or it was set. -/
theorem get?_update_cases
    {d : Dict K V}
    {items : List (K × V)}
    {k : K}
    {v : V}
    (hGet : (d.update items).get? k = some v) :
    d.get? k = some v ∨ (k, v) ∈ items := by
  unfold update at hGet
  induction items generalizing d with
  | nil => exact Or.inl hGet
  | cons item items ih =>
      rw [List.foldl_cons] at hGet
      rcases ih hGet with hOld | hLater
      · rw [get?_set] at hOld
        split at hOld
        next hKey =>
          cases hOld
          rw [hKey]
          exact Or.inr List.mem_cons_self
        next hOther => exact Or.inl hOld
      · exact Or.inr (List.mem_cons_of_mem _ hLater)

/- The items of a dictionary, looked up in any order. -/
theorem lookup_of_perm
    {d : Dict K V}
    {entries : List (K × V)}
    (hPerm : entries.Perm d.items)
    (k : K) :
    entries.lookup k = d.get? k := by
  have hLookup
      (entries : List (K × V))
      (hNodup : (entries.map Prod.fst).Nodup)
      (v : V) :
      entries.lookup k = some v ↔ (k, v) ∈ entries := by
    induction entries with
    | nil => simp
    | cons item entries ih =>
        rw [List.map_cons, List.nodup_cons] at hNodup
        rw [List.lookup_cons, List.mem_cons]
        by_cases hKey : k = item.1
        · have hAbsent : (k, v) ∉ entries := fun hIn =>
            hNodup.1 (hKey ▸ List.mem_map_of_mem hIn)
          simp only [hKey, beq_self_eq_true, Option.some.injEq]
          constructor
          · intro hValue
            rw [← hValue]
            exact Or.inl rfl
          · rintro (hHere | hLater)
            · rw [← hHere]
            · exact absurd (hKey ▸ hLater) hAbsent
        · have hOther : (k, v) ≠ item := fun hEq =>
            hKey (by rw [← hEq])
          have hBeq : (k == item.1) = false :=
            beq_eq_false_iff_ne.mpr hKey
          simp only [hBeq, hOther, false_or]
          exact ih hNodup.2
  have hNodup : (entries.map Prod.fst).Nodup :=
    (hPerm.map Prod.fst).nodup_iff.mpr d.nodup
  refine Option.ext ?_
  intro v
  rw [hLookup entries hNodup, hPerm.mem_iff, mem_items_iff]

end Dict

------------------------------------------------------------
-- Grouping
------------------------------------------------------------

section Grouping

variable {K V X : Type}
variable [DecidableEq K]

/-
  Fold records into the value of their key, starting from a
  default value.
-/
def groupFold
    (key : X → K)
    (f : V → X → V)
    (start : V)
    (records : List X) : Dict K V :=
  records.foldl
    (fun d record =>
      d.set (key record) (f (d.getD (key record) start) record))
    ∅

/- Collect records in lists under their keys. -/
def groupLists
    (key : X → K)
    (records : List X) : Dict K (List X) :=
  groupFold key (fun group record => group ++ [record]) []
    records

theorem groupFold_append_singleton
    (key : X → K)
    (f : V → X → V)
    (start : V)
    (records : List X)
    (record : X) :
    groupFold key f start (records ++ [record]) =
      (groupFold key f start records).set (key record)
        (f ((groupFold key f start records).getD (key record)
          start) record) := by
  unfold groupFold
  rw [List.foldl_append, List.foldl_cons, List.foldl_nil]

/- Putting a record into a group adds it to the records. -/
theorem flatMap_setItem_perm
    (items : List (K × List X))
    (k : K)
    (x : X) :
    ((setItem items k
        ((((items.find? (fun item => item.1 = k)).map
          Prod.snd).getD []) ++ [x])).flatMap Prod.snd).Perm
      (items.flatMap Prod.snd ++ [x]) := by
  induction items with
  | nil => simp [setItem]
  | cons item items ih =>
      rw [setItem]
      by_cases hItem : item.1 = k
      · simp only [hItem, if_true, List.find?_cons,
          decide_true, Option.map_some, Option.getD_some,
          List.flatMap_cons, List.append_assoc]
        exact List.Perm.append_left _ List.perm_append_comm
      · simp only [hItem, if_false, List.find?_cons,
          decide_false, List.flatMap_cons, List.append_assoc]
        exact List.Perm.append_left _ ih

/- The groups together have the records. -/
theorem groupLists_perm
    (key : X → K)
    (records : List X) :
    ((groupLists key records).items.flatMap Prod.snd).Perm
      records := by
  induction records using List.reverseRecOn with
  | nil => simp [groupLists, groupFold]
  | append_singleton records record ih =>
      unfold groupLists at ih ⊢
      rw [groupFold_append_singleton]
      exact (flatMap_setItem_perm _ (key record) record).trans
        (List.Perm.append_right _ ih)

/- A group has the records of its key, in their order. -/
theorem get?_groupLists
    (key : X → K)
    (records : List X)
    (k : K) :
    (groupLists key records).get? k =
      if records.filter (fun record => key record = k) = [] then
        none
      else
        some (records.filter (fun record => key record = k)) := by
  induction records using List.reverseRecOn with
  | nil => rfl
  | append_singleton records record ih =>
      unfold groupLists at ih ⊢
      rw [groupFold_append_singleton, Dict.get?_set,
        List.filter_append]
      by_cases hKey : k = key record
      · have hOld :
            (groupFold key
                (fun group record => group ++ [record]) []
                records).getD (key record) [] =
              records.filter (fun record => key record = k) := by
          rw [← hKey, Dict.getD, ih]
          split
          next hNone => exact hNone.symm
          next => rfl
        rw [if_pos hKey, hOld]
        simp [hKey]
      · rw [if_neg hKey, ih]
        simp [Ne.symm hKey]

/- A record stands in the group of its key. -/
theorem key_of_mem_groupLists
    {key : X → K}
    {records : List X}
    {k : K}
    {group : List X}
    (hGroup : (groupLists key records).get? k = some group) :
    ∀ record ∈ group, key record = k := by
  rw [get?_groupLists] at hGroup
  split at hGroup
  · cases hGroup
  · cases hGroup
    intro record hRecord
    exact of_decide_eq_true (List.mem_filter.mp hRecord).2

/- Changing the values changes what is set. -/
theorem setItem_map
    {W : Type}
    (g : V → W)
    (items : List (K × V))
    (k : K)
    (v : V) :
    setItem (items.map (fun item => (item.1, g item.2))) k
        (g v) =
      (setItem items k v).map
        (fun item => (item.1, g item.2)) := by
  induction items with
  | nil => rfl
  | cons item items ih =>
      rw [List.map_cons, setItem, setItem]
      split
      · rfl
      · rw [List.map_cons, ih]

/- Every fold of the groups is a fold of the lists. -/
theorem groupFold_items
    (key : X → K)
    (f : V → X → V)
    (start : V)
    (records : List X) :
    (groupFold key f start records).items =
      (groupLists key records).items.map
        (fun item => (item.1, item.2.foldl f start)) := by
  induction records using List.reverseRecOn with
  | nil => rfl
  | append_singleton records record ih =>
      have hGet :
          (groupFold key f start records).getD (key record)
              start =
            ((groupLists key records).getD (key record)
              []).foldl f start := by
        unfold Dict.getD Dict.get?
        rw [ih, List.find?_map]
        have hSame :
            (fun item : K × V => decide (item.1 = key record)) ∘
                (fun item : K × List X =>
                  (item.1, item.2.foldl f start)) =
              fun item => decide (item.1 = key record) := rfl
        rw [hSame]
        cases (groupLists key records).items.find?
          (fun item => item.1 = key record) with
        | none => rfl
        | some item => rfl
      unfold groupLists at hGet ih ⊢
      rw [groupFold_append_singleton,
        groupFold_append_singleton]
      unfold Dict.set
      simp only
      rw [hGet, ih, ← setItem_map, List.foldl_append]
      rfl

/- Grouping mapped records maps the groups. -/
theorem groupLists_map
    {Y : Type}
    (key : Y → K)
    (f : X → Y)
    (records : List X) :
    (groupLists key (records.map f)).items =
      (groupLists (fun record => key (f record))
        records).items.map
          (fun item => (item.1, item.2.map f)) := by
  have hFold :
      groupLists key (records.map f) =
        groupFold (fun record => key (f record))
          (fun group record => group ++ [f record]) []
          records := by
    unfold groupLists groupFold
    rw [List.foldl_map]
  have hGroup :
      ∀ group : List X,
        group.foldl (fun done record => done ++ [f record])
            [] =
          group.map f := by
    intro group
    induction group using List.reverseRecOn with
    | nil => rfl
    | append_singleton group record ih =>
        rw [List.foldl_append, ih]
        simp
  rw [hFold, groupFold_items]
  simp only [hGroup]

/-
  Records with one key stand together: a key that has been
  seen before is the key of the record just before.
-/
def Contiguous (key : X → K) (records : List X) : Prop :=
  ∀ before record, before ++ [record] <+: records →
    key record ∈ before.map key →
      (before.map key).getLast? = some (key record)

omit [DecidableEq K] in
theorem Contiguous.of_append
    {key : X → K}
    {records : List X}
    {record : X}
    (hContiguous : Contiguous key (records ++ [record])) :
    Contiguous key records ∧
      (key record ∈ records.map key →
        (records.map key).getLast? = some (key record)) := by
  constructor
  · intro before other hPrefix
    exact hContiguous before other
      (hPrefix.trans (List.prefix_append _ _))
  · exact hContiguous records record (List.prefix_refl _)

/- Records in the order of their keys stand together. -/
omit [DecidableEq K] in
theorem contiguous_of_sorted
    {D : Type}
    {r : D → D → Prop}
    (hAntisymm : ∀ a b, r a b → r b a → a = b)
    {name : D → K}
    {key : X → D}
    {records : List X}
    (hName : Function.Injective name)
    (hSorted :
      records.Pairwise (fun first second =>
        r (key first) (key second))) :
    Contiguous (fun record => name (key record)) records := by
  intro before record hPrefix hSeen
  have hPairs := hSorted.sublist hPrefix.sublist
  rw [List.pairwise_append] at hPairs
  rcases List.mem_map.mp hSeen with ⟨seen, hMember, hSame⟩
  have hKey : key seen = key record := hName hSame
  cases hLast : before.getLast? with
  | none =>
      have hEmpty : before = [] := by
        simpa using hLast
      rw [hEmpty] at hMember
      cases hMember
  | some last =>
      have hAfter : r (key last) (key record) :=
        hPairs.2.2 last (List.mem_of_getLast? hLast) record
          (by simp)
      have hLastKey : key last = key record := by
        rcases List.getLast?_eq_some_iff.mp hLast with
          ⟨first, hEq⟩
        have hOrder := hPairs.1
        rw [hEq] at hOrder hMember
        rcases List.mem_append.mp hMember with
          hFirst | hOne
        · apply hAntisymm _ _ hAfter
          rw [← hKey]
          exact (List.pairwise_append.mp hOrder).2.2 seen
            hFirst last (by simp)
        · rw [← List.mem_singleton.mp hOne, hKey]
      rw [List.getLast?_map, hLast, Option.map_some,
        hLastKey]

theorem setItem_of_not_mem
    {items : List (K × V)}
    {k : K}
    (hAbsent : k ∉ items.map Prod.fst)
    (v : V) :
    setItem items k v = items ++ [(k, v)] := by
  induction items with
  | nil => rfl
  | cons item items ih =>
      rw [List.map_cons, List.mem_cons, not_or] at hAbsent
      rw [setItem, if_neg (Ne.symm hAbsent.1),
        ih hAbsent.2, List.cons_append]

theorem setItem_concat
    {items : List (K × V)}
    {k : K}
    (hAbsent : k ∉ items.map Prod.fst)
    (old v : V) :
    setItem (items ++ [(k, old)]) k v =
      items ++ [(k, v)] := by
  induction items with
  | nil => simp [setItem]
  | cons item items ih =>
      rw [List.map_cons, List.mem_cons, not_or] at hAbsent
      rw [List.cons_append, setItem,
        if_neg (Ne.symm hAbsent.1), ih hAbsent.2,
        List.cons_append]

/- What the groups of contiguous records look like. -/
structure GroupsOf
    (key : X → K)
    (records : List X)
    (items : List (K × List X)) : Prop where
  flatten : items.flatMap Prod.snd = records
  nonempty : ∀ item ∈ items, item.2 ≠ []
  same_key : ∀ item ∈ items, ∀ record ∈ item.2,
    key record = item.1
  last_key :
    (items.map Prod.fst).getLast? = (records.map key).getLast?

/- One more record of the key seen last. -/
omit [DecidableEq K] in
theorem GroupsOf.extend_last
    {key : X → K}
    {records : List X}
    {first : List (K × List X)}
    {record : X}
    {group : List X}
    (hGroups :
      GroupsOf key records (first ++ [(key record, group)])) :
    GroupsOf key (records ++ [record])
      (first ++ [(key record, group ++ [record])]) where
  flatten := by
    have hFlat := hGroups.flatten
    rw [List.flatMap_append] at hFlat ⊢
    rw [← hFlat]
    simp
  nonempty := by
    intro item hMember
    rcases List.mem_append.mp hMember with hFirst | hOne
    · exact hGroups.nonempty item
        (List.mem_append_left _ hFirst)
    · rw [List.mem_singleton.mp hOne]
      simp
  same_key := by
    intro item hMember other hOther
    rcases List.mem_append.mp hMember with hFirst | hOne
    · exact hGroups.same_key item
        (List.mem_append_left _ hFirst) other hOther
    · rw [List.mem_singleton.mp hOne] at hOther ⊢
      rcases List.mem_append.mp hOther with hOld | hNew
      · exact hGroups.same_key (key record, group) (by simp)
          other hOld
      · rw [List.mem_singleton.mp hNew]
  last_key := by simp

/- A record of a new key opens a group of its own. -/
omit [DecidableEq K] in
theorem GroupsOf.open_group
    {key : X → K}
    {records : List X}
    {items : List (K × List X)}
    (hGroups : GroupsOf key records items)
    (record : X) :
    GroupsOf key (records ++ [record])
      (items ++ [(key record, [record])]) where
  flatten := by
    rw [List.flatMap_append, hGroups.flatten]
    simp
  nonempty := by
    intro item hMember
    rcases List.mem_append.mp hMember with hOld | hOne
    · exact hGroups.nonempty item hOld
    · rw [List.mem_singleton.mp hOne]
      simp
  same_key := by
    intro item hMember other hOther
    rcases List.mem_append.mp hMember with hOld | hOne
    · exact hGroups.same_key item hOld other hOther
    · rw [List.mem_singleton.mp hOne] at hOther ⊢
      rw [List.mem_singleton.mp hOther]
  last_key := by simp

/- The groups have the keys of the records. -/
omit [DecidableEq K] in
theorem GroupsOf.mem_keys
    {key : X → K}
    {records : List X}
    {items : List (K × List X)}
    (hGroups : GroupsOf key records items)
    {k : K} :
    k ∈ items.map Prod.fst ↔ k ∈ records.map key := by
  constructor
  · intro hKey
    rcases List.mem_map.mp hKey with ⟨item, hItem, hEq⟩
    rcases List.exists_mem_of_ne_nil _
      (hGroups.nonempty item hItem) with ⟨record, hRecord⟩
    rw [List.mem_map]
    refine ⟨record, ?_, ?_⟩
    · rw [← hGroups.flatten, List.mem_flatMap]
      exact ⟨item, hItem, hRecord⟩
    · rw [hGroups.same_key item hItem record hRecord, hEq]
  · intro hKey
    rcases List.mem_map.mp hKey with ⟨record, hRecord, hEq⟩
    rw [← hGroups.flatten, List.mem_flatMap] at hRecord
    rcases hRecord with ⟨item, hItem, hMember⟩
    rw [← hEq, hGroups.same_key item hItem record hMember]
    exact List.mem_map_of_mem hItem

theorem groupLists_append_singleton
    (key : X → K)
    (records : List X)
    (record : X) :
    (groupLists key (records ++ [record])).items =
      setItem (groupLists key records).items (key record)
        (((groupLists key records).get?
          (key record)).getD [] ++ [record]) := by
  unfold groupLists
  rw [groupFold_append_singleton]
  rfl

/- The groups of contiguous records are the runs of a key. -/
theorem groupLists_of_contiguous
    {key : X → K}
    {records : List X}
    (hContiguous : Contiguous key records) :
    GroupsOf key records (groupLists key records).items := by
  induction records using List.reverseRecOn with
  | nil =>
      refine ⟨rfl, ?_, ?_, rfl⟩
      · intro item hItem
        cases hItem
      · intro item hItem
        cases hItem
  | append_singleton records record ih =>
      rcases hContiguous.of_append with ⟨hBefore, hLast⟩
      have hGroups := ih hBefore
      rw [groupLists_append_singleton]
      by_cases hSeen :
          key record ∈ (groupLists key records).keys
      · -- The key was seen, so its group is the last one.
        have hLastKey := hGroups.last_key
        rw [hLast (hGroups.mem_keys.mp hSeen)] at hLastKey
        rcases List.eq_nil_or_concat
          (groupLists key records).items with
          hNil | ⟨first, group, hConcat⟩
        · unfold Dict.keys at hSeen
          rw [hNil] at hSeen
          cases hSeen
        · rw [List.concat_eq_append] at hConcat
          have hGroup : group = (key record, group.2) := by
            rw [hConcat] at hLastKey
            have hKey : group.1 = key record := by
              simpa using hLastKey
            rw [← hKey]
          rw [hGroup] at hConcat
          have hNodup := (groupLists key records).nodup
          rw [hConcat, List.map_append,
            List.nodup_append] at hNodup
          have hAbsent :
              key record ∉ first.map Prod.fst := by
            intro hMember
            exact hNodup.2.2 _ hMember _ (by simp) rfl
          have hGet :
              (groupLists key records).get? (key record) =
                some group.2 := by
            rw [← Dict.mem_items_iff, hConcat]
            simp
          rw [hGet, hConcat]
          simp only [Option.getD_some]
          rw [setItem_concat hAbsent]
          exact (hConcat ▸ hGroups).extend_last
      · have hGet :
            (groupLists key records).get? (key record) =
              none := by
          cases hFound :
              (groupLists key records).get? (key record) with
          | none => rfl
          | some group =>
              exact absurd
                (Dict.mem_keys_iff.mpr ⟨group, hFound⟩) hSeen
        rw [hGet, setItem_of_not_mem hSeen]
        exact hGroups.open_group record

/- The keys of the groups keep the order of the records. -/
omit [DecidableEq K] in
theorem GroupsOf.pairwise_keys
    {key : X → K}
    {records : List X}
    {items : List (K × List X)}
    (hGroups : GroupsOf key records items)
    {r : K → K → Prop}
    (hSorted :
      records.Pairwise (fun first second =>
        r (key first) (key second))) :
    items.Pairwise (fun first second =>
      r first.1 second.1) := by
  rw [← hGroups.flatten, List.pairwise_flatMap] at hSorted
  apply hSorted.2.imp_of_mem
  intro first second hFirst hSecond hPairs
  rcases List.exists_mem_of_ne_nil _
    (hGroups.nonempty first hFirst) with ⟨x, hX⟩
  rcases List.exists_mem_of_ne_nil _
    (hGroups.nonempty second hSecond) with ⟨y, hY⟩
  rw [← hGroups.same_key first hFirst x hX,
    ← hGroups.same_key second hSecond y hY]
  exact hPairs x hX y hY

/- Setting distinct keys one after another lists them all. -/
theorem foldl_set_items
    {key : X → K}
    {value : X → V}
    {records : List X}
    (hNodup : (records.map key).Nodup) :
    (records.foldl
        (fun d record => d.set (key record) (value record))
        (∅ : Dict K V)).items =
      records.map (fun record => (key record, value record)) := by
  induction records using List.reverseRecOn with
  | nil => rfl
  | append_singleton records record ih =>
      rw [List.map_append, List.nodup_append] at hNodup
      have hItems := ih hNodup.1
      have hAbsent :
          key record ∉ (records.map (fun record =>
            (key record, value record))).map Prod.fst := by
        rw [List.map_map]
        intro hMember
        exact hNodup.2.2 _ hMember _ (by simp) rfl
      rw [List.foldl_append, List.foldl_cons, List.foldl_nil,
        List.map_append, List.map_singleton]
      unfold Dict.set at hItems ⊢
      simp only at hItems ⊢
      rw [hItems, setItem_of_not_mem hAbsent]

/- Setting changed values, key by key, changes each value. -/
theorem get?_foldl_set
    {W : Type}
    (f : V → W)
    (d : Dict K V)
    (k : K) :
    (d.items.foldl
        (fun (changed : Dict K W) item =>
          changed.set item.1 (f item.2)) ∅).get? k =
      (d.get? k).map f := by
  have hItems :=
    @foldl_set_items K W (K × V) _ Prod.fst (fun item => f item.2)
      d.items d.nodup
  unfold Dict.get? at hItems ⊢
  rw [hItems, List.find?_map, Option.map_map, Option.map_map]
  rfl

end Grouping
