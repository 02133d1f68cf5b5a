import Mathlib.Data.List.Basic
import Mathlib.Logic.Basic

/-
  Command lines: an option loop that takes the arguments
  from the left, and the blocks of arguments that a caller
  puts one after the other.

  A block is described by what the loop makes of it,
  whatever follows: either it is stored in the state, or the
  loop stops.

  Main declarations:
    * `Stores`
    * `Stores.append`, `Stores.flatMap`, `Stores.run_eq`
    * `givenArguments`, `stores_given`
    * `OptionTable`, `OptionTable.read`
    * `PathText`
-/

------------------------------------------------------------
-- Blocks of Arguments
------------------------------------------------------------

section Blocks

variable {α σ ρ : Type}

/-
  The loop stores a block that is accepted, and goes on
  behind it; it stops at any other.
-/
structure Stores
    (run : List α → σ → ρ)
    (refusal : ρ)
    (block : List α)
    (accepted : Prop)
    (store : σ → σ) : Prop where
  accepts :
    accepted → ∀ rest state,
      run (block ++ rest) state = run rest (store state)
  refuses :
    ¬accepted → ∀ rest state,
      run (block ++ rest) state = refusal

variable {run : List α → σ → ρ} {refusal : ρ}

theorem Stores.nil : Stores run refusal [] True id where
  accepts := fun _ _ _ => rfl
  refuses := fun hNot => absurd trivial hNot

theorem Stores.append
    {first second : List α}
    {acceptedFirst acceptedSecond : Prop}
    {storeFirst storeSecond : σ → σ}
    (hFirst :
      Stores run refusal first acceptedFirst storeFirst)
    (hSecond :
      Stores run refusal second acceptedSecond storeSecond) :
    Stores run refusal (first ++ second)
      (acceptedFirst ∧ acceptedSecond)
      (storeSecond ∘ storeFirst) where
  accepts := by
    intro hBoth rest state
    rw [List.append_assoc, hFirst.accepts hBoth.1,
      hSecond.accepts hBoth.2]
    rfl
  refuses := by
    intro hNot rest state
    rw [List.append_assoc]
    by_cases hAccepted : acceptedFirst
    · rw [hFirst.accepts hAccepted]
      exact hSecond.refuses
        (fun hOther => hNot ⟨hAccepted, hOther⟩) _ _
    · exact hFirst.refuses hAccepted _ _

/- The blocks of a list, one after the other. -/
theorem Stores.flatMap
    {ι : Type}
    {block : ι → List α}
    {accepted : ι → Prop}
    {store : ι → σ → σ}
    (entries : List ι)
    (hEach :
      ∀ entry ∈ entries,
        Stores run refusal (block entry) (accepted entry)
          (store entry)) :
    Stores run refusal (entries.flatMap block)
      (∀ entry ∈ entries, accepted entry)
      (fun state =>
        entries.foldl (fun current entry => store entry current)
          state) := by
  induction entries with
  | nil =>
      refine ⟨fun _ _ _ => rfl, fun hNot => ?_⟩
      exact absurd (fun _ hMem => by cases hMem) hNot
  | cons entry entries ih =>
      rw [List.forall_mem_cons] at hEach
      have hBoth := hEach.1.append (ih hEach.2)
      rw [List.flatMap_cons]
      refine ⟨fun hAll => ?_, fun hNot => ?_⟩
      · exact hBoth.accepts (List.forall_mem_cons.mp hAll)
      · exact hBoth.refuses
          (fun hAll => hNot (List.forall_mem_cons.mpr hAll))

/- What the loop makes of a whole command line. -/
theorem Stores.run_eq
    {block : List α}
    {accepted : Prop}
    [Decidable accepted]
    {store : σ → σ}
    (hStores : Stores run refusal block accepted store)
    (state : σ) :
    run block state =
      if accepted then run [] (store state) else refusal := by
  by_cases hAccepted : accepted
  · have hRun := hStores.accepts hAccepted [] state
    rw [List.append_nil] at hRun
    rw [if_pos hAccepted, hRun]
  · have hRun := hStores.refuses hAccepted [] state
    rw [List.append_nil] at hRun
    rw [if_neg hAccepted, hRun]

/- The condition and the update may be written differently. -/
theorem Stores.congr
    {block : List α}
    {accepted accepted' : Prop}
    {store store' : σ → σ}
    (hStores : Stores run refusal block accepted store)
    (hAccepted : accepted ↔ accepted')
    (hStore : ∀ state, store state = store' state) :
    Stores run refusal block accepted' store' where
  accepts := by
    intro hOther rest state
    rw [hStores.accepts (hAccepted.mpr hOther), hStore]
  refuses := by
    intro hNot
    exact hStores.refuses
      (fun hOther => hNot (hAccepted.mp hOther))

end Blocks

------------------------------------------------------------
-- Values That May Be Left Out
------------------------------------------------------------

section Given

variable {V σ ρ : Type}

/- The option and its value, or nothing at all. -/
def givenArguments
    (option : String)
    (print : V → String) : Option V → List String
| none => []
| some value => [option, print value]

/- The state with the value, if there is one. -/
def storeGiven
    (store : V → σ → σ) : Option V → σ → σ
| none, state => state
| some value, state => store value state

theorem stores_given
    {run : List String → σ → ρ}
    {refusal : ρ}
    {option : String}
    {print : V → String}
    {fits : V → Prop}
    {store : V → σ → σ}
    (hEach :
      ∀ value,
        Stores run refusal [option, print value] (fits value)
          (store value))
    (value? : Option V) :
    Stores run refusal (givenArguments option print value?)
      (∀ value ∈ value?, fits value)
      (storeGiven store value?) := by
  cases value? with
  | none =>
      exact Stores.nil.congr (by simp) (fun _ => rfl)
  | some value =>
      exact (hEach value).congr (by simp) (fun _ => rfl)

end Given

------------------------------------------------------------
-- Tables of Options
------------------------------------------------------------

/-
  The options that take a value and those that take none,
  with what to say at the end of the arguments and at an
  argument that is no option.
-/
structure OptionTable (ε σ : Type) where
  setter : String → Option (String → σ → Except ε σ)
  switch : String → Option (σ → σ)
  missing : String → ε
  unknown : String → ε

section Tables

variable {ε σ : Type}

def OptionTable.read
    (table : OptionTable ε σ) :
    List String → σ → Except ε σ
| [], state => .ok state
| argument :: rest, state =>
    match table.setter argument with
    | some set =>
        match rest with
        | [] => .error (table.missing argument)
        | value :: rest => do
            let next ← set value state
            table.read rest next
    | none =>
        match table.switch argument with
        | some set => table.read rest (set state)
        | none => .error (table.unknown argument)

variable {table : OptionTable ε σ}

/- An option whose value is stored. -/
theorem OptionTable.stores_value
    {option value : String}
    {set : String → σ → Except ε σ}
    {refusal : ε}
    {accepted : Prop}
    {store : σ → σ}
    (hSetter : table.setter option = some set)
    (hAccepts :
      accepted → ∀ state, set value state = .ok (store state))
    (hRefuses :
      ¬accepted → ∀ state, set value state = .error refusal) :
    Stores table.read (.error refusal) [option, value] accepted
      store where
  accepts := by
    intro hAccepted rest state
    change table.read (option :: value :: rest) state = _
    rw [OptionTable.read, hSetter]
    simp only
    rw [hAccepts hAccepted]
    rfl
  refuses := by
    intro hNot rest state
    change table.read (option :: value :: rest) state = _
    rw [OptionTable.read, hSetter]
    simp only
    rw [hRefuses hNot]
    rfl

/- An option that takes every value. -/
theorem OptionTable.stores_ok
    {option value : String}
    {set : String → σ → Except ε σ}
    {refusal : Except ε σ}
    {store : σ → σ}
    (hSetter : table.setter option = some set)
    (hSet : ∀ state, set value state = .ok (store state)) :
    Stores table.read refusal [option, value] True store where
  accepts := by
    intro _ rest state
    change table.read (option :: value :: rest) state = _
    rw [OptionTable.read, hSetter]
    simp only
    rw [hSet]
    rfl
  refuses := fun hNot => absurd trivial hNot

/- An option without a value. -/
theorem OptionTable.stores_switch
    {option : String}
    {set : σ → σ}
    {refusal : Except ε σ}
    (hSetter : table.setter option = none)
    (hSwitch : table.switch option = some set) :
    Stores table.read refusal [option] True set where
  accepts := by
    intro _ rest state
    change table.read (option :: rest) state = _
    rw [OptionTable.read, hSetter]
    simp only
    rw [hSwitch]
  refuses := fun hNot => absurd trivial hNot

end Tables

------------------------------------------------------------
-- Paths
------------------------------------------------------------

/- The text of a path, which is never empty. -/
structure PathText where
  text : String
  nonempty : text ≠ ""
deriving Repr, DecidableEq

/- A file inside a directory, as the operator `/` names it. -/
def PathText.file
    (directory : PathText)
    (name : String) : PathText where
  text := directory.text ++ "/" ++ name
  nonempty := by
    intro hEmpty
    have hParts := String.append_eq_empty_iff.mp hEmpty
    exact directory.nonempty
      (String.append_eq_empty_iff.mp hParts.1).1
