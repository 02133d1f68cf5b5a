import Mathlib.Data.List.Induction

/-
  What a log says about its past.

  Something holds since an entry if the entry started it and
  every later one keeps it.  A property of this form is read
  off a log entry by entry: behind one more entry it holds if
  that entry starts it, or keeps what held before.

  Main declarations:
    * `Since`
    * `since_nil`, `since_concat`
    * `Since.mem`
-/

variable {A : Type}

/-
  An entry that started something where it stood, and only
  entries that keep it since.
-/
def Since
    (starts : List A → A → Prop)
    (keeps : A → Prop)
    (log : List A) : Prop :=
  ∃ before entry later,
    log = before ++ entry :: later ∧ starts before entry ∧
      ∀ other ∈ later, keeps other

@[simp]
theorem since_nil
    {starts : List A → A → Prop}
    {keeps : A → Prop} :
    ¬ Since starts keeps [] := by
  rintro ⟨before, entry, later, hLog, -⟩
  simp at hLog

/- One more entry starts it, or keeps what held before. -/
theorem since_concat
    {starts : List A → A → Prop}
    {keeps : A → Prop}
    {log : List A}
    {last : A} :
    Since starts keeps (log ++ [last]) ↔
      starts log last ∨ (keeps last ∧ Since starts keeps log) := by
  constructor
  · rintro ⟨before, entry, later, hLog, hStarts, hKeeps⟩
    induction later using List.reverseRecOn with
    | nil =>
        rcases List.append_inj' hLog rfl with ⟨hBefore, hEntry⟩
        cases hEntry
        exact Or.inl (hBefore ▸ hStarts)
    | append_singleton later final _ =>
        rw [← List.cons_append, ← List.append_assoc] at hLog
        rcases List.append_inj' hLog rfl with ⟨hFront, hEntry⟩
        cases hEntry
        rw [List.forall_mem_append] at hKeeps
        exact Or.inr
          ⟨hKeeps.2 last (List.mem_singleton_self last),
            before, entry, later, hFront, hStarts, hKeeps.1⟩
  · rintro (hStarts | ⟨hLast, hSince⟩)
    · exact ⟨log, last, [], rfl, hStarts, by simp⟩
    · rcases hSince with
        ⟨before, entry, later, rfl, hStarts, hKeeps⟩
      refine ⟨before, entry, later ++ [last], by simp, hStarts,
        ?_⟩
      rw [List.forall_mem_append]
      exact ⟨hKeeps, by simpa using hLast⟩

/- What started it is in the log. -/
theorem Since.mem
    {starts : List A → A → Prop}
    {keeps : A → Prop}
    {log : List A}
    (hSince : Since starts keeps log) :
    ∃ before, ∃ entry ∈ log, starts before entry := by
  rcases hSince with ⟨before, entry, later, rfl, hStarts, -⟩
  exact ⟨before, entry, by simp, hStarts⟩
