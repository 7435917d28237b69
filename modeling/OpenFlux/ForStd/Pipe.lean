import Mathlib.Data.List.Basic

/-!
# Byte streams and the pumps between them

A `Pipe` is one direction of a connection: what was written and not read yet, and whether the
writer has closed it.  A read takes some of what is there, but how much is up to the
environment.  A `Pump` copies one pipe into another through a buffer until the source ends.

## Key results

- `Pump.step_conserves`: a pump neither loses nor reorders anything
- `Pump.step_isSome`: it can go on while there is something to copy
- `Pump.step_cost`: and each of its steps brings what there is closer to its end
-/

/-- What is between the writer and the reader of a stream. -/
structure Pipe (α : Type*) where
  queue : List α := []
  closed : Bool := false
  deriving DecidableEq, Repr

/-- A thread that copies: it holds what it has read and not written, or it has ended. -/
inductive Pump (α : Type*) where
  | copying (buffer : List α)
  | done
  deriving DecidableEq, Repr

variable {α : Type*}

namespace Pipe

/-- The writer writes. -/
def write (p : Pipe α) (xs : List α) : Pipe α := { p with queue := p.queue ++ xs }

/-- The writer closes its end. -/
def close (p : Pipe α) : Pipe α := { p with closed := true }

/-- Everything was read and nothing will follow. -/
def atEnd (p : Pipe α) : Bool := p.queue.isEmpty && p.closed

/-- A read that returns at most `n` elements; `none` while it blocks. -/
def read (p : Pipe α) (n : Nat) : Option (List α × Pipe α) :=
  if n = 0 ∨ p.queue = [] then none
  else some (p.queue.take n, { p with queue := p.queue.drop n })

@[simp]
theorem queue_write (p : Pipe α) (xs : List α) : (p.write xs).queue = p.queue ++ xs := rfl

@[simp]
theorem closed_write (p : Pipe α) (xs : List α) : (p.write xs).closed = p.closed := rfl

@[simp]
theorem queue_close (p : Pipe α) : p.close.queue = p.queue := rfl

@[simp]
theorem closed_close (p : Pipe α) : p.close.closed = true := rfl

/-- A pipe is at its end when it is closed and drained. -/
theorem atEnd_iff {p : Pipe α} : p.atEnd = true ↔ p.queue = [] ∧ p.closed = true := by
  simp [atEnd]

/-- A read takes something from the front, and no more than it has asked for. -/
theorem read_eq_some {p p' : Pipe α} {n : Nat} {chunk : List α}
    (h : p.read n = some (chunk, p')) :
    p.queue = chunk ++ p'.queue ∧ chunk ≠ [] ∧ chunk.length ≤ n ∧ p'.closed = p.closed := by
  rw [read, Option.ite_none_left_eq_some] at h
  obtain ⟨hcond, h⟩ := h
  obtain ⟨rfl, rfl⟩ := Prod.mk.inj (Option.some.inj h)
  rw [not_or] at hcond
  refine ⟨(List.take_append_drop n p.queue).symm, ?_, List.length_take_le n p.queue, rfl⟩
  simp [List.take_eq_nil_iff, hcond]

/-- There is nothing to read from an empty pipe. -/
theorem read_of_nil {p : Pipe α} (hqueue : p.queue = []) (n : Nat) : p.read n = none := by
  simp [read, hqueue]

/-- Whatever is there can be read. -/
theorem read_isSome {p : Pipe α} {n : Nat} (hn : n ≠ 0) (hqueue : p.queue ≠ []) :
    (p.read n).isSome := by
  rw [read, if_neg (by simp [hn, hqueue])]
  rfl

end Pipe

namespace Pump

/-- What was read and not written yet. -/
def buffer : Pump α → List α
  | copying buffer => buffer
  | done => []

/-- Whether the loop has ended. -/
def isDone : Pump α → Bool
  | copying _ => false
  | done => true

/-- One step of the copy loop: write what was read, or read at most `n` elements.  At the end
    of the source the target is closed. -/
def step (n : Nat) (src dst : Pipe α) : Pump α → Option (Pump α × Pipe α × Pipe α)
  | copying [] =>
    if src.atEnd then some (done, src, dst.close)
    else (src.read n).map fun r => (copying r.1, r.2, dst)
  | copying buffer => some (copying [], src, dst.write buffer)
  | done => none

/-- What a step can do. -/
theorem step_cases {n : Nat} {src dst src' dst' : Pipe α} {pump pump' : Pump α}
    (h : pump.step n src dst = some (pump', src', dst')) :
    (pump = copying [] ∧ src.atEnd ∧ pump' = done ∧ src' = src ∧ dst' = dst.close) ∨
    (pump = copying [] ∧ ∃ chunk, src.read n = some (chunk, src') ∧ pump' = copying chunk ∧
      dst' = dst) ∨
    (∃ buffer, buffer ≠ [] ∧ pump = copying buffer ∧ pump' = copying [] ∧ src' = src ∧
      dst' = dst.write buffer) := by
  unfold step at h
  split at h
  · split at h
    · -- end of the source
      rename_i hend
      cases h
      exact .inl ⟨rfl, hend, rfl, rfl, rfl⟩
    · obtain ⟨⟨chunk, src''⟩, hread, heq⟩ := Option.map_eq_some_iff.mp h
      cases heq
      exact .inr (.inl ⟨rfl, chunk, hread, rfl, rfl⟩)
  · -- what was read before is written
    rename_i buffer hne
    cases h
    exact .inr (.inr ⟨buffer, hne, rfl, rfl, rfl, rfl⟩)
  · cases h

section Step

variable {n : Nat} {src dst src' dst' : Pipe α} {pump pump' : Pump α}

/-- What was written, what is held and what is still to be read stay the same in this
    order. -/
theorem step_conserves (h : pump.step n src dst = some (pump', src', dst')) :
    dst'.queue ++ pump'.buffer ++ src'.queue = dst.queue ++ pump.buffer ++ src.queue := by
  obtain ⟨rfl, -, rfl, rfl, rfl⟩ | ⟨rfl, chunk, hread, rfl, rfl⟩ |
    ⟨buffer, -, rfl, rfl, rfl, rfl⟩ := step_cases h
  · rfl
  · rw [(Pipe.read_eq_some hread).1]
    simp [Pump.buffer]
  · simp [Pump.buffer]

/-- A pump that has ended has copied everything. -/
theorem step_done (h : pump.step n src dst = some (done, src', dst')) : src'.atEnd := by
  obtain ⟨-, hend, -, rfl, -⟩ | ⟨-, chunk, -, hpump, -⟩ | ⟨buffer, -, -, hpump, -⟩ :=
    step_cases h
  · exact hend
  · cases hpump
  · cases hpump

/-- A pump goes on while it holds something or there is something to read. -/
theorem step_isSome (hn : n ≠ 0) (hdone : pump ≠ done)
    (h : pump.buffer ≠ [] ∨ src.queue ≠ []) : (pump.step n src dst).isSome := by
  cases pump with
  | done => exact absurd rfl hdone
  | copying buffer =>
    cases buffer with
    | cons x xs => rfl
    | nil =>
      -- with an empty buffer there has to be something to read
      have hqueue : src.queue ≠ [] := by simpa [Pump.buffer] using h
      rw [step]
      split
      · rfl
      · rw [Option.isSome_map]
        exact Pipe.read_isSome hn hqueue

/-- A pump that cannot go on has nothing left. -/
theorem empty_of_step_eq_none (h : pump.step 1 src dst = none)
    (hdone : pump = done → src.atEnd) : pump.buffer = [] ∧ src.queue = [] := by
  by_cases hpump : pump = done
  · subst hpump
    exact ⟨rfl, (Pipe.atEnd_iff.mp (hdone rfl)).1⟩
  · by_contra hleft
    have hsome : (pump.step 1 src dst).isSome :=
      step_isSome Nat.one_ne_zero hpump (not_and_or.mp hleft)
    rw [h] at hsome
    cases hsome

/-- How far the elements of both pipes and of the pump are from having been read out of
    `dst`. -/
def cost (src dst : Pipe α) (pump : Pump α) : Nat :=
  3 * src.queue.length + 2 * pump.buffer.length + dst.queue.length +
    if pump.isDone then 0 else 1

/-- Every step costs something: an element goes forward, or the pump ends. -/
theorem step_cost (h : pump.step n src dst = some (pump', src', dst')) :
    cost src' dst' pump' < cost src dst pump := by
  obtain ⟨rfl, -, rfl, rfl, rfl⟩ | ⟨rfl, chunk, hread, rfl, rfl⟩ |
    ⟨buffer, hne, rfl, rfl, rfl, rfl⟩ := step_cases h
  · -- the end, a read and a write each make it smaller
    simp [cost, Pump.buffer, isDone]
  · obtain ⟨hqueue, hne, -⟩ := Pipe.read_eq_some hread
    have hpos := List.length_pos_iff.mpr hne
    simp only [cost, hqueue, Pump.buffer, isDone, List.length_append, List.length_nil,
      Bool.false_eq_true, if_false]
    omega
  · have hpos := List.length_pos_iff.mpr hne
    simp only [cost, Pump.buffer, isDone, Pipe.queue_write, List.length_append, List.length_nil,
      Bool.false_eq_true, if_false]
    omega

end Step

end Pump
