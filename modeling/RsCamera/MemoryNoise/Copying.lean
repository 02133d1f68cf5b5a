import RsCamera.MemoryNoise.Limiter

/-
  What the copy workers copy.

  The loop resets the offset only where it is equal to the
  size of the buffer.  It is therefore never behind it only
  because the chunk divides the buffer, which `main` has
  checked, and because neither size has wrapped around.

  Key definitions include:
    * `Sizes.noise`, `chunksPerPass`
    * `Aligned`, `Inside`, `Copies`

  Key theorems include:
    * `Aligned.copied`
    * `run_copies`
    * `copying_safe`
-/

------------------------------------------------------------
-- One Copy
------------------------------------------------------------

namespace RsCamera

namespace MemoryNoise

/- The workers are started with the sizes of `main`. -/
def Sizes.noise
    (sizes : Sizes)
    (limiter : AggregateRateLimiter) : Noise where
  bufferSizeBytes := sizes.bufferSizeBytes
  copyChunkBytes := sizes.copyChunkBytes
  limiter := limiter

/- What `main` has checked of the sizes. -/
structure Divided (noise : Noise) : Prop where
  chunk_pos : 0 < noise.copyChunkBytes.toNat
  divides :
    noise.copyChunkBytes.toNat ∣ noise.bufferSizeBytes.toNat
  buffer_pos : 0 < noise.bufferSizeBytes.toNat

def chunksPerPass (noise : Noise) : Nat :=
  noise.bufferSizeBytes.toNat / noise.copyChunkBytes.toNat

/- Where a worker is after a number of chunks. -/
structure Aligned
    (noise : Noise)
    (chunks : Nat)
    (worker : Worker) : Prop where
  offset :
    worker.offset.toNat =
      chunks % chunksPerPass noise * noise.copyChunkBytes.toNat
  source :
    worker.source =
      if chunks / chunksPerPass noise % 2 = 0 then
        .first
      else
        .second
  destination :
    worker.destination =
      if chunks / chunksPerPass noise % 2 = 0 then
        .second
      else
        .first

section

variable {noise : Noise}
variable {chunks : Nat}
variable {worker : Worker}

theorem Aligned.distinct
    (hAligned : Aligned noise chunks worker) :
    worker.source ≠ worker.destination := by
  rw [hAligned.source, hAligned.destination]
  split
  · decide
  · decide

theorem Divided.buffer_eq
    (hDivided : Divided noise) :
    chunksPerPass noise * noise.copyChunkBytes.toNat =
      noise.bufferSizeBytes.toNat :=
  Nat.div_mul_cancel hDivided.divides

theorem Divided.chunksPerPass_pos
    (hDivided : Divided noise) :
    0 < chunksPerPass noise :=
  Nat.div_pos
    (Nat.le_of_dvd hDivided.buffer_pos hDivided.divides)
    hDivided.chunk_pos

/- A range of one chunk that lies in the buffer. -/
structure Inside (noise : Noise) (offset : UInt64) : Prop where
  bound :
    offset.toNat + noise.copyChunkBytes.toNat ≤
      noise.bufferSizeBytes.toNat
  exact :
    (offset + noise.copyChunkBytes).toNat =
      offset.toNat + noise.copyChunkBytes.toNat

theorem Aligned.inside
    (hDivided : Divided noise)
    (hAligned : Aligned noise chunks worker) :
    Inside noise worker.offset := by
  have hLess :=
    Nat.mod_lt chunks hDivided.chunksPerPass_pos
  have hBound :
      worker.offset.toNat + noise.copyChunkBytes.toNat ≤
        noise.bufferSizeBytes.toNat := by
    rw [hAligned.offset, ← Nat.succ_mul, ← hDivided.buffer_eq]
    exact Nat.mul_le_mul_right _ hLess
  have hSize := noise.bufferSizeBytes.toNat_lt
  refine ⟨hBound, ?_⟩
  rw [UInt64.toNat_add]
  exact Nat.mod_eq_of_lt (by omega)

/- One more chunk either ends a pass or does not. -/
theorem succ_div_mod
    {perPass : Nat}
    (hPositive : 0 < perPass)
    (chunks : Nat) :
    (chunks % perPass + 1 = perPass ∧
        (chunks + 1) % perPass = 0 ∧
        (chunks + 1) / perPass = chunks / perPass + 1) ∨
      (chunks % perPass + 1 < perPass ∧
        (chunks + 1) % perPass = chunks % perPass + 1 ∧
        (chunks + 1) / perPass = chunks / perPass) := by
  have hSplit := Nat.div_add_mod chunks perPass
  have hLess := Nat.mod_lt chunks hPositive
  by_cases hLast : chunks % perPass + 1 = perPass
  · have hNext :
        chunks + 1 = perPass * (chunks / perPass + 1) := by
      rw [Nat.mul_succ]
      omega
    refine Or.inl ⟨hLast, ?_, ?_⟩
    · rw [hNext, Nat.mul_mod_right]
    · rw [hNext, Nat.mul_div_cancel_left _ hPositive]
  · have hMore : chunks % perPass + 1 < perPass := by
      omega
    have hNext :
        chunks + 1 =
          chunks % perPass + 1 + perPass * (chunks / perPass) := by
      omega
    refine Or.inr ⟨hMore, ?_, ?_⟩
    · rw [hNext, Nat.add_mul_mod_self_left,
        Nat.mod_eq_of_lt hMore]
    · rw [hNext, Nat.add_mul_div_left _ _ hPositive,
        Nat.div_eq_of_lt hMore, Nat.zero_add]

theorem succ_mod_two
    (n : Nat) :
    ((n + 1) % 2 = 0) = ¬n % 2 = 0 := by
  rw [eq_iff_iff]
  omega

theorem Aligned.copied
    (hDivided : Divided noise)
    (hAligned : Aligned noise chunks worker)
    (measurementStarted : Bool) :
    Aligned noise (chunks + 1)
      (worker.copied noise measurementStarted) := by
  have hInside := hAligned.inside hDivided
  have hOffset :
      (worker.offset + noise.copyChunkBytes).toNat =
        (chunks % chunksPerPass noise + 1) *
          noise.copyChunkBytes.toNat := by
    rw [hInside.exact, hAligned.offset, Nat.succ_mul]
  have hEnd :
      worker.offset + noise.copyChunkBytes =
          noise.bufferSizeBytes ↔
        chunks % chunksPerPass noise + 1 = chunksPerPass noise := by
    rw [← UInt64.toNat_inj, hOffset, ← hDivided.buffer_eq]
    exact Nat.mul_left_inj
      (Nat.ne_of_gt hDivided.chunk_pos)
  unfold Worker.copied
  simp only
  rcases succ_div_mod hDivided.chunksPerPass_pos chunks with
    ⟨hLast, hMod, hDiv⟩ | ⟨hMore, hMod, hDiv⟩
  · rw [if_pos (hEnd.mpr hLast)]
    -- The buffers are swapped at the end of a pass.
    refine ⟨?_, ?_, ?_⟩
    · rw [hMod, Nat.zero_mul]
      rfl
    · rw [hDiv]
      simp only [succ_mod_two, ite_not]
      exact hAligned.destination
    · rw [hDiv]
      simp only [succ_mod_two, ite_not]
      exact hAligned.source
  · rw [if_neg (fun hIs => by
      have hSame := hEnd.mp hIs
      omega)]
    refine ⟨?_, ?_, ?_⟩
    · rw [hMod]
      exact hOffset
    · rw [hDiv]
      exact hAligned.source
    · rw [hDiv]
      exact hAligned.destination

end

------------------------------------------------------------
-- All Copies
------------------------------------------------------------

def chunksOf
    {W : Type}
    [DecidableEq W]
    (copies : List (Copied W))
    (w : W) : Nat :=
  copies.countP (fun copied => copied.worker = w)

/- The copies so far, and where all workers are. -/
structure Copies
    {W : Type}
    [DecidableEq W]
    (noise : Noise)
    (copies : List (Copied W))
    (s : State W) : Prop where
  inside :
    ∀ copied ∈ copies,
      Inside noise copied.offset ∧
        copied.source ≠ copied.destination
  aligned :
    ∀ w, Aligned noise (chunksOf copies w) (s.workers w)

/- Only a worker that copies changes its offset. -/
theorem copiedOf_of_place
    {W : Type}
    {s : State W}
    {w : W}
    (hPlace : (s.workers w).place ≠ .copying) :
    copiedOf s (.work w) = [] :=
  if_neg hPlace

section Copies

variable {W : Type}
variable [DecidableEq W]
variable {noise : Noise}
variable {copies : List (Copied W)}
variable {s t : State W}

theorem copies_start
    (noise : Noise)
    (clock : Int) :
    Copies noise [] (start W clock) where
  inside := by simp
  aligned := fun w =>
    { offset := by simp [chunksOf, start]
      source := by simp [chunksOf, start]
      destination := by simp [chunksOf, start] }

/- What a worker has left of a copy, it keeps. -/
theorem Aligned.of_same
    {chunks : Nat}
    {worker next : Worker}
    (hAligned : Aligned noise chunks worker)
    (hOffset : next.offset = worker.offset)
    (hSource : next.source = worker.source)
    (hDestination : next.destination = worker.destination) :
    Aligned noise chunks next where
  offset := by
    rw [hOffset]
    exact hAligned.offset
  source := by
    rw [hSource]
    exact hAligned.source
  destination := by
    rw [hDestination]
    exact hAligned.destination

/- A worker takes a step that copies nothing. -/
theorem Copies.kept
    (hCopies : Copies noise copies s)
    {w : W}
    {shared : Shared W}
    {worker : Worker}
    (hAligned :
      Aligned noise (chunksOf copies w) (s.workers w) →
        Aligned noise (chunksOf copies w) worker) :
    Copies noise (copies ++ [])
      { shared := shared
        workers := Function.update s.workers w worker } := by
  rw [List.append_nil]
  refine ⟨hCopies.inside, ?_⟩
  intro v
  by_cases hIs : v = w
  · subst hIs
    simp only [Function.update_self]
    exact hAligned (hCopies.aligned v)
  · simp only [Function.update_of_ne hIs]
    exact hCopies.aligned v

theorem Copies.copied
    (hDivided : Divided noise)
    (hCopies : Copies noise copies s)
    (w : W) :
    Copies noise
      (copies ++
        [⟨w, (s.workers w).source, (s.workers w).destination,
          (s.workers w).offset⟩])
      { shared := s.shared
        workers :=
          Function.update s.workers w
            ((s.workers w).copied noise
              s.shared.measurementStarted) } := by
  have hHere := hCopies.aligned w
  refine ⟨?_, ?_⟩
  · rw [List.forall_mem_append, List.forall_mem_singleton]
    exact ⟨hCopies.inside, hHere.inside hDivided, hHere.distinct⟩
  · intro v
    unfold chunksOf
    rw [List.countP_append, List.countP_singleton]
    by_cases hIs : v = w
    · subst hIs
      simp only [Function.update_self, decide_true, if_true]
      exact hHere.copied hDivided _
    · have hNot : ¬w = v := fun hSame => hIs hSame.symm
      simp only [Function.update_of_ne hIs, hNot, decide_false,
        Bool.false_eq_true, if_false, Nat.add_zero]
      exact hCopies.aligned v

theorem work_copies
    (hDivided : Divided noise)
    (hCopies : Copies noise copies s)
    {w : W}
    {shared : Shared W}
    {worker : Worker}
    {grants : List (Grant W)}
    (hMoves :
      Moves noise w s.shared (s.workers w) shared worker grants) :
    Copies noise (copies ++ copiedOf s (.work w))
      { shared := shared
        workers := Function.update s.workers w worker } := by
  cases hMoves with
  | copied hFrom =>
      rw [show copiedOf s (.work w) = _ from if_pos hFrom]
      exact hCopies.copied hDivided w
  | _ =>
      rename (s.workers w).place = _ => hFrom
      rw [copiedOf_of_place (by rw [hFrom]; simp)]
      exact hCopies.kept (fun hAligned =>
        hAligned.of_same rfl rfl rfl)

theorem step_copies
    (hDivided : Divided noise)
    (hCopies : Copies noise copies s)
    {action : Action W}
    (hStep : step noise s action = some t) :
    Copies noise (copies ++ copiedOf s action) t := by
  cases action with
  | work w =>
      rcases step_work hStep with ⟨shared, worker, hIs, hMoves⟩
      rw [hIs]
      exact work_copies hDivided hCopies hMoves
  | _ =>
      cases hStep
      rw [show copiedOf s _ = [] from rfl, List.append_nil]
      exact ⟨hCopies.inside, hCopies.aligned⟩

/- The induction is on the run, with the copies made in it. -/
theorem run_copies
    (hDivided : Divided noise)
    (hCopies : Copies noise copies s)
    {actions : List (Action W)}
    (hRun : (system W noise).run s actions = some t) :
    Copies noise
      (copies ++ (system W noise).observe copiedOf s actions) t :=
  (system W noise).run_observe_invariant (P := Copies noise)
    (fun _ _ _ _ hBefore hStep =>
      step_copies hDivided hBefore hStep)
    hCopies hRun

end Copies

theorem Aligned.offset_eq_zero_iff
    {noise : Noise}
    (hDivided : Divided noise)
    {chunks : Nat}
    {worker : Worker}
    (hAligned : Aligned noise chunks worker) :
    worker.offset = 0 ↔ chunksPerPass noise ∣ chunks := by
  rw [← UInt64.toNat_inj, hAligned.offset, UInt64.toNat_zero,
    Nat.mul_eq_zero, Nat.dvd_iff_mod_eq_zero]
  constructor
  · rintro (hMod | hChunk)
    · exact hMod
    · exact absurd hChunk (Nat.ne_of_gt hDivided.chunk_pos)
  · exact Or.inl

theorem WellSized.divided
    {workers : Nat}
    {sizes : Sizes}
    (hSized : WellSized workers sizes)
    (limiter : AggregateRateLimiter) :
    Divided (sizes.noise limiter) where
  chunk_pos := hSized.chunk_pos
  divides := hSized.divides
  buffer_pos := Nat.lt_of_lt_of_le hSized.chunk_pos hSized.chunk_le

/-
  With options that were accepted, every copy of every run
  lies in the two different buffers of its worker, the offset
  is zero again after exactly the chunks of a buffer, and the
  memory in all is what was computed.
-/
theorem copying_safe
    {stod : String → Except String Double}
    {hardwareThreads : UInt32}
    {arguments : List String}
    {options : Options}
    {sizes : Sizes}
    (hParse :
      parseOptions stod hardwareThreads arguments = .ok options)
    (hCheck : checkSizes options = .ok sizes) :
    sizes.totalAllocatedBytes.toNat =
        2 * options.workers.toNat * sizes.bufferSizeBytes.toNat ∧
      ∀ (W : Type) [DecidableEq W]
        (limiter : AggregateRateLimiter)
        (clock : Int)
        (actions : List (Action W))
        (s : State W),
        (system W (sizes.noise limiter)).run (start W clock)
            actions = some s →
          let copies :=
            (system W (sizes.noise limiter)).observe copiedOf
              (start W clock) actions
          (∀ copied ∈ copies,
            copied.offset.toNat + sizes.copyChunkBytes.toNat ≤
                sizes.bufferSizeBytes.toNat ∧
              (copied.offset + sizes.copyChunkBytes).toNat =
                copied.offset.toNat +
                  sizes.copyChunkBytes.toNat ∧
              copied.source ≠ copied.destination) ∧
            ∀ w,
              (s.workers w).source ≠ (s.workers w).destination ∧
                (s.workers w).offset.toNat =
                  chunksOf copies w %
                      (sizes.bufferSizeBytes.toNat /
                        sizes.copyChunkBytes.toNat) *
                    sizes.copyChunkBytes.toNat ∧
                ((s.workers w).offset = 0 ↔
                  sizes.bufferSizeBytes.toNat /
                      sizes.copyChunkBytes.toNat ∣
                    chunksOf copies w) := by
  have hSized :=
    checkSizes_wellSized (parseOptions_positive hParse) hCheck
  refine ⟨hSized.total, ?_⟩
  intro W _ limiter clock actions s hRun copies
  have hDivided := hSized.divided limiter
  have hCopies :=
    run_copies hDivided
      (copies_start (sizes.noise limiter) clock) hRun
  rw [List.nil_append] at hCopies
  constructor
  · intro copied hIn
    have hHere := hCopies.inside copied hIn
    exact ⟨hHere.1.bound, hHere.1.exact, hHere.2⟩
  · intro w
    have hHere := hCopies.aligned w
    exact ⟨hHere.distinct, hHere.offset,
      hHere.offset_eq_zero_iff hDivided⟩

/- One worker that copies a buffer of two chunks. -/
def twoChunks : List String :=
  ["--ready-file", "ready", "--summary-output", "summary",
    "--workers", "3", "--buffer-size-mib", "1",
    "--copy-chunk-kib", "512"]

def twoChunkSizes : Sizes where
  bufferSizeBytes := 1048576
  copyChunkBytes := 524288
  totalAllocatedBytes := 6291456
  estimatedMemoryBytesPerQuantum := 1048576

/- Three times around the loop, without a limit. -/
def threeCopies : List (Action Unit) :=
  List.replicate 12 (.work ())

/-
  The first buffer is copied in two chunks, and the third copy
  goes back the other way.
-/
theorem copying_safe_twoChunks :
    ∃ options s,
      parseOptions (fun _ => .error "stod") 4 twoChunks =
          .ok options ∧
        checkSizes options = .ok twoChunkSizes ∧
        twoChunkSizes.totalAllocatedBytes.toNat =
          2 * options.workers.toNat *
            twoChunkSizes.bufferSizeBytes.toNat ∧
        (system Unit
            (twoChunkSizes.noise (.make (.finite 0) 0))).run
              (start Unit 100) threeCopies = some s ∧
        (system Unit
            (twoChunkSizes.noise (.make (.finite 0) 0))).observe
              copiedOf (start Unit 100) threeCopies =
          [⟨(), .first, .second, 0⟩,
            ⟨(), .first, .second, 524288⟩,
            ⟨(), .second, .first, 0⟩] ∧
        (s.workers ()).offset.toNat = 3 % 2 * 524288 := by
  have hParse :
      parseOptions (fun _ => .error "stod") 4 twoChunks =
        .ok
          { readyFile := "ready"
            summaryOutput := "summary"
            workers := 3
            bufferSizeMib := 1
            copyChunkKib := 512 } := by
    decide +kernel
  have hCheck :
      checkSizes
          { readyFile := "ready"
            summaryOutput := "summary"
            workers := 3
            bufferSizeMib := 1
            copyChunkKib := 512 } =
        .ok twoChunkSizes := by
    decide +kernel
  have hSome :
      ((system Unit
          (twoChunkSizes.noise (.make (.finite 0) 0))).run
            (start Unit 100) threeCopies).isSome = true := by
    decide +kernel
  have hCopies :
      (system Unit
          (twoChunkSizes.noise (.make (.finite 0) 0))).observe
            copiedOf (start Unit 100) threeCopies =
        [⟨(), .first, .second, 0⟩,
          ⟨(), .first, .second, 524288⟩,
          ⟨(), .second, .first, 0⟩] := by
    decide +kernel
  rcases Option.isSome_iff_exists.mp hSome with ⟨s, hRun⟩
  rcases copying_safe hParse hCheck with ⟨hTotal, hRuns⟩
  refine ⟨_, s, hParse, hCheck, hTotal, hRun, hCopies, ?_⟩
  have hOffset :=
    ((hRuns Unit (.make (.finite 0) 0) 100 threeCopies s
      hRun).2 ()).2.1
  rw [hCopies] at hOffset
  exact hOffset

end MemoryNoise

end RsCamera
