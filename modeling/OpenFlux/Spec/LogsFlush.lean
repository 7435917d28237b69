import OpenFlux.Model.LogsFragment

/-!
# Does every log line reach the view?

`flushPending` takes at most 64 lines and posts another callback for the rest, unless
`flushScheduled` is set.  But while it runs, the flag is still set: the callback clears it
only afterwards.  So the rest of a larger batch stays where it is, with no callback posted,
until the next message comes.

## Key results

- `takeBatch_pending`, `takeBatch_toAppend`: what the loop takes and what it writes
- `no_line_stuck`: as long as every callback finds at most 64 lines, lines that wait have a
  callback, and it shows them all
- `line_stuck`: a message of 65 lines
-/

namespace OpenFlux

namespace LogsFragment

/-! ## The loop -/

/-- The loop takes the first `n` lines. -/
theorem takeBatch_pending (time : Nat → String) (n : Nat) (batch : Batch) :
    (takeBatch time n batch).pending = batch.pending.drop n := by
  induction n generalizing batch with
  | zero => rfl
  | succ n ih =>
    rw [takeBatch]
    split
    · rename_i hnil
      rw [hnil]
      rfl
    · rename_i line rest hcons
      rw [ih, hcons]
      rfl

/-- The lines as they are shown, the first one with the number `total + 1` and as the
    `k`-th of its batch. -/
def shown (time : Nat → String) (k total : Nat) : List String → List String
  | [] => []
  | line :: rest => stamped (total + 1) (time k) line :: shown time (k + 1) (total + 1) rest

/-- From the second round on the loop writes a line break and a line each time. -/
theorem takeBatch_toAppend_of_pos (time : Nat → String) (n : Nat) (batch : Batch)
    (hpos : 0 < batch.appended) :
    (takeBatch time n batch).toAppend =
      "\n".intercalate (batch.toAppend ::
        shown time batch.appended batch.totalLines (batch.pending.take n)) := by
  induction n generalizing batch with
  | zero => simp [takeBatch, shown]
  | succ n ih =>
    rw [takeBatch]
    split
    · rename_i hnil
      rw [hnil, List.take_nil, shown, String.intercalate_singleton]
    · rename_i line rest hcons
      -- the text so far and the new line are one text for the rest of the loop
      rw [ih _ (Nat.succ_pos _), hcons, List.take_succ_cons, shown,
        String.intercalate_cons_cons, ← String.intercalate_cons_append]
      simp only [if_pos hpos]

/-- The loop writes the lines that it takes, separated by line breaks. -/
theorem takeBatch_toAppend (time : Nat → String) (n : Nat) (pending : List String)
    (totalLines : Nat) :
    (takeBatch time n { pending, totalLines }).toAppend =
      "\n".intercalate (shown time 0 totalLines (pending.take n)) := by
  cases n with
  | zero => simp [takeBatch, shown]
  | succ n =>
    cases pending with
    | nil => simp [takeBatch, shown]
    | cons line rest =>
      rw [takeBatch, takeBatch_toAppend_of_pos _ _ _ (Nat.succ_pos _), List.take_succ_cons, shown]
      simp

/-! ## The property -/

/-- Lines that wait have a callback, and a callback that finds at most 64 lines moves them all
    to the view. -/
structure NotStuck (logs : LogsFragment) : Prop where
  posted : logs.pending ≠ [] → 0 < logs.callbacks
  drains : logs.pending ≠ [] → logs.pending.length ≤ batchSize → ∀ env : Env,
    ∃ logs', logs.step (.callback env) = some (logs', []) ∧ logs'.pending = [] ∧
      (env.cut = none → logs'.text = logs.text ++
        "\n".intercalate (shown env.time 0 logs.totalLines logs.pending))

/-! ## The condition on steps -/

/-- A callback finds at most one batch of lines. -/
def fitsBatch (logs : LogsFragment) : Action → Bool
  | .callback _ => logs.pending.length ≤ batchSize
  | _ => true

/-! ## A run of the callback -/

/-- The callback leaves what comes after the first 64 lines, and posts nothing for it. -/
theorem flushPending_pending (logs : LogsFragment) (env : Env) (hflag : logs.flushScheduled) :
    (logs.flushPending env).pending = logs.pending.drop batchSize ∧
      (logs.flushPending env).callbacks = logs.callbacks := by
  rw [flushPending]
  split
  · rename_i hempty
    rw [List.isEmpty_iff.mp hempty]
    exact ⟨rfl, rfl⟩
  · simp only [hflag, Bool.not_true, Bool.and_false, Bool.false_eq_true, if_false]
    exact ⟨takeBatch_pending _ _ _, trivial⟩

/-- What the callback writes, if the text is not cut. -/
theorem flushPending_text (logs : LogsFragment) (env : Env) (hcut : env.cut = none) :
    (logs.flushPending env).text = logs.text ++
      "\n".intercalate (shown env.time 0 logs.totalLines (logs.pending.take batchSize)) := by
  rw [flushPending]
  split
  · rename_i hempty
    rw [List.isEmpty_iff.mp hempty]
    simp [shown]
  · rw [← takeBatch_toAppend]
    simp only [hcut]
    split <;> rfl

/-! ## The invariant -/

/-- The invariant: lines that wait have set the flag, and the flag has posted one callback. -/
structure Posted (logs : LogsFragment) : Prop where
  /-- the flag says whether a callback is posted -/
  flag : logs.callbacks = if logs.flushScheduled then 1 else 0
  pending : logs.pending ≠ [] → logs.flushScheduled

/-- The fragment has just been created. -/
theorem posted_init : Posted {} where
  flag := rfl
  pending h := (h rfl).elim

/-- A message posts a callback unless there is one. -/
theorem Posted.enqueue {logs : LogsFragment} (hi : Posted logs) (message : String) :
    Posted (logs.enqueue message) := by
  have hflag := hi.flag
  rw [LogsFragment.enqueue]
  by_cases hset : logs.flushScheduled
  · simp only [hset, Bool.not_true, Bool.false_eq_true, if_false, if_true] at hflag ⊢
    exact ⟨hflag, fun _ => rfl⟩
  · simp only [hset, Bool.not_false, if_true, Bool.false_eq_true, if_false] at hflag ⊢
    exact ⟨by rw [post, hflag]; rfl, fun _ => rfl⟩

/-- Where a callback is posted, the flag is set. -/
theorem Posted.flushScheduled {logs : LogsFragment} (hi : Posted logs)
    (hpos : logs.callbacks ≠ 0) : logs.flushScheduled ∧ logs.callbacks = 1 := by
  have hflag := hi.flag
  by_cases hset : logs.flushScheduled
  · rw [if_pos hset] at hflag
    exact ⟨hset, hflag⟩
  · rw [if_neg hset] at hflag
    exact (hpos hflag).elim

/-- Every step keeps the invariant, if a callback finds at most one batch. -/
theorem Posted.step {logs logs' : LogsFragment} {a : Action} {o : List Unit}
    (hi : Posted logs) (hok : logs.fitsBatch a) (h : logs.step a = some (logs', o)) :
    Posted logs' := by
  cases a with
  | enqueue message =>
    obtain ⟨rfl, -⟩ := Prod.mk.inj (Option.some.inj h)
    exact hi.enqueue message
  | clear =>
    obtain ⟨rfl, -⟩ := Prod.mk.inj (Option.some.inj h)
    -- Clear leaves the callback posted, and nothing for it to do
    exact ⟨hi.flag, fun hne => (hne rfl).elim⟩
  | callback env =>
    have hfits : logs.pending.length ≤ batchSize := of_decide_eq_true hok
    rw [LogsFragment.step] at h
    split at h
    · contradiction
    · rename_i hpos
      obtain ⟨hset, hone⟩ := hi.flushScheduled hpos
      obtain ⟨rfl, -⟩ := Prod.mk.inj (Option.some.inj h)
      obtain ⟨hpending, hcallbacks⟩ :=
        flushPending_pending { logs with callbacks := logs.callbacks - 1 } env hset
      -- the flag is cleared, so nothing may be left
      refine ⟨?_, fun hne => (hne ?_).elim⟩
      · exact hcallbacks.trans (by rw [hone]; rfl)
      · exact hpending.trans (List.drop_eq_nil_of_le hfits)

/-- With a flush posted for every pending line, no line is stuck. -/
theorem Posted.notStuck {logs : LogsFragment} (hi : Posted logs) : NotStuck logs where
  posted hne := by
    rw [hi.flag, if_pos (hi.pending hne)]
    exact Nat.one_pos
  drains hne hfits env := by
    have hset := hi.pending hne
    have hone : logs.callbacks ≠ 0 := by rw [hi.flag, if_pos hset]; exact Nat.one_ne_zero
    let taken := { logs with callbacks := logs.callbacks - 1 }
    refine ⟨{ taken.flushPending env with flushScheduled := false },
      by rw [LogsFragment.step, if_neg hone], ?_, fun hcut => ?_⟩
    · exact (flushPending_pending taken env hset).1.trans (List.drop_eq_nil_of_le hfits)
    · exact (flushPending_text taken env hcut).trans (by rw [List.take_of_length_le hfits])

/-- **No line is stuck**, in a run whose callbacks all find at most 64 lines. -/
theorem no_line_stuck {logs : LogsFragment} {tr : List Unit}
    (h : machine.Reach (fun logs a => logs.fitsBatch a) logs tr) : NotStuck logs :=
  (h.inv (P := fun logs _ => Posted logs) posted_init
    (fun hi hok hstep => Posted.step hi hok hstep)).notStuck

/-- Three messages with a callback in between and a Clear. -/
theorem no_line_stuck_three : ∃ logs tr,
    machine.Reach (fun logs a => logs.fitsBatch a) logs tr ∧
      (logs.pending = ["d"] ∧ logs.callbacks = 1) ∧ NotStuck logs := by
  obtain ⟨logs, tr, hreach, hpred⟩ :=
    machine.exists_reach (fun logs a => logs.fitsBatch a)
      (fun logs _ => logs.pending = ["d"] ∧ logs.callbacks = 1)
      [.enqueue "a\nb", .callback {}, .enqueue "c", .clear, .enqueue "d"] (by decide +kernel)
  exact ⟨logs, tr, hreach, of_decide_eq_true hpred, no_line_stuck hreach⟩

/-- The 65th line of a message stays behind, with no callback posted. -/
theorem line_stuck : ∃ logs tr,
    machine.Reach (fun _ _ => True) logs tr ∧
      (logs.pending = ["x"] ∧ logs.callbacks = 0) ∧ ¬ NotStuck logs := by
  obtain ⟨logs, tr, hreach, hpred⟩ :=
    machine.exists_reach (fun _ _ => True)
      (fun logs _ => logs.pending = ["x"] ∧ logs.callbacks = 0)
      [.enqueue ("\n".intercalate (List.replicate 65 "x")), .callback {}] (by decide +kernel)
  obtain ⟨hpending, hcallbacks⟩ := of_decide_eq_true hpred
  refine ⟨logs, tr, hreach, ⟨hpending, hcallbacks⟩, fun hns => ?_⟩
  have hposted := hns.posted (by rw [hpending]; exact List.cons_ne_nil _ _)
  exact Nat.ne_of_gt hposted hcallbacks

end LogsFragment

end OpenFlux
