import OpenFlux.Spec.LogsFlush

/-!
# Does the view show one line per log line?

`flushPending` writes a line break before every line of its batch but the first, and the
text that is there already does not end in one.  So the first line of a batch is glued to
the last line of the batch before it.

A history runs beside the fragment: the lines that were queued, and for each callback that
took lines, which ones it took and at what time.

## Key results

- `History.Faithful.step`: the text is the batches, each with line breaks inside, one after
  the other
- `length_intercalate_numbered`: how many line breaks that is short of one line per line
- `one_line_each_iff`: the text is as it should be if and only if one callback took all lines
- `lines_glued`: two messages, each shown by its own callback
-/

namespace OpenFlux

namespace LogsFragment

/-- A line that was taken, and the time at which it was. -/
abbrev Taken := String × String

/-- Lines as they are shown, the first one with the number `total + 1`. -/
def numbered (total : Nat) : List Taken → List String
  | [] => []
  | (time, line) :: rest => stamped (total + 1) time line :: numbered (total + 1) rest

/-- The text that batches leave, written one after the other. -/
def batchText (total : Nat) : List (List Taken) → String
  | [] => ""
  | batch :: rest => "\n".intercalate (numbered total batch) ++
      batchText (total + batch.length) rest

/-- The lines that a callback takes. -/
def takenBy (logs : LogsFragment) (env : Env) : List Taken :=
  (logs.pending.take batchSize).mapIdx fun i line => (env.time i, line)

/-- A batch counts if it has lines. -/
def addBatch (batches : List (List Taken)) (batch : List Taken) : List (List Taken) :=
  if batch.isEmpty then batches else batches ++ [batch]

/-- A fragment, and what was shown in it since the last Clear. -/
structure History where
  logs : LogsFragment := {}
  /-- the lines of all messages -/
  enqueued : List String := []
  /-- what each callback took that found lines -/
  batches : List (List Taken) := []

namespace History

/-- The lines that were taken so far. -/
def dequeued (s : History) : List Taken := s.batches.flatten

/-- A step of the fragment, written into its history. -/
def step (s : History) (a : Action) : Option (History × List Unit) :=
  match s.logs.step a with
  | none => none
  | some (logs, o) =>
    match a with
    | .enqueue message => some ({ s with logs, enqueued := s.enqueued ++ lines message }, o)
    | .clear => some ({ logs }, o)
    | .callback env =>
      some ({ s with logs, batches := addBatch s.batches (s.logs.takenBy env) }, o)

/-- The fragment from its creation on. -/
def machine : Machine History Action Unit where
  init := {}
  step

/-- No Clear, and no text is cut. -/
def uncut : Action → Bool
  | .enqueue _ => true
  | .clear => false
  | .callback env => env.cut.isNone

/-- **One line per line**: the text is what was taken, numbered from 1, with one line break
    between any two lines. -/
def OneLineEach (s : History) : Prop := s.logs.text = "\n".intercalate (numbered 0 s.dequeued)

end History

/-! ## Texts -/

/-- The numbers go on behind the front. -/
theorem numbered_append (total : Nat) (front rest : List Taken) :
    numbered total (front ++ rest) =
      numbered total front ++ numbered (total + front.length) rest := by
  induction front generalizing total with
  | nil => rfl
  | cons taken front ih =>
    simp only [List.cons_append, numbered, ih, List.length_cons]
    rw [Nat.add_right_comm, Nat.add_assoc]

/-- Lines that were taken are shown. -/
theorem numbered_ne_nil {total : Nat} {taken : List Taken} (h : taken ≠ []) :
    numbered total taken ≠ [] := by
  cases taken with
  | nil => exact absurd rfl h
  | cons first rest => simp [numbered]

/-- The loop of `flushPending` numbers the lines that it takes. -/
theorem shown_eq_numbered (time : Nat → String) (k total : Nat) (pending : List String) :
    shown time k total pending =
      numbered total (pending.mapIdx fun i line => (time (k + i), line)) := by
  induction pending generalizing k total with
  | nil => rfl
  | cons line rest ih =>
    simp only [shown, List.mapIdx_cons, numbered, ih, Nat.add_zero]
    simp only [Nat.add_assoc, Nat.add_comm 1]

section AddBatch

variable (batches : List (List Taken)) (batch : List Taken)

/-- The lines of a batch come behind those before it. -/
theorem flatten_addBatch : (addBatch batches batch).flatten = batches.flatten ++ batch := by
  cases batch <;> simp [addBatch]

/-- A batch is written behind the text, with no line break in between. -/
theorem batchText_concat (total : Nat) :
    batchText total (batches ++ [batch]) = batchText total batches ++
      "\n".intercalate (numbered (total + batches.flatten.length) batch) := by
  induction batches generalizing total with
  | nil => simp [batchText]
  | cons first rest ih =>
    simp only [List.cons_append, batchText, ih, List.flatten_cons, List.length_append,
      String.append_assoc, Nat.add_assoc]

/-- A batch without lines leaves no text either. -/
theorem batchText_addBatch (total : Nat) :
    batchText total (addBatch batches batch) = batchText total batches ++
      "\n".intercalate (numbered (total + batches.flatten.length) batch) := by
  cases batch with
  | nil => simp [addBatch, numbered]
  | cons first rest => exact batchText_concat batches (first :: rest) total

variable {batches} in
/-- Only batches with lines are counted. -/
theorem addBatch_ne_nil (h : ∀ b ∈ batches, b ≠ []) :
    ∀ b ∈ addBatch batches batch, b ≠ [] := by
  cases batch with
  | nil => exact h
  | cons first rest =>
    intro b hb
    obtain hb | hb := List.mem_append.mp hb
    · exact h b hb
    · obtain rfl := List.mem_singleton.mp hb
      exact List.cons_ne_nil _ _

end AddBatch

/-- One line per line has a line break more than the batches, for every batch but the
    first. -/
theorem length_intercalate_numbered {batches : List (List Taken)}
    (h : ∀ batch ∈ batches, batch ≠ []) (total : Nat) :
    ("\n".intercalate (numbered total batches.flatten)).length =
      (batchText total batches).length + (batches.length - 1) := by
  induction batches generalizing total with
  | nil => rfl
  | cons batch rest ih =>
    -- the break between this batch and the next one is the one that is missing
    have hbatch := h batch List.mem_cons_self
    have hrest : ∀ b ∈ rest, b ≠ [] := fun b hb => h b (List.mem_cons_of_mem _ hb)
    cases rest with
    | nil => simp [batchText]
    | cons next rest =>
      have hnext : (next :: rest).flatten ≠ [] := by
        simp [hrest next List.mem_cons_self]
      have htext : batchText total (batch :: next :: rest) =
          "\n".intercalate (numbered total batch) ++
            batchText (total + batch.length) (next :: rest) := rfl
      rw [List.flatten_cons, numbered_append, String.intercalate_append_of_ne_nil
        (numbered_ne_nil hbatch) (numbered_ne_nil hnext), htext]
      simp only [String.length_append, ih hrest, List.length_cons]
      have hbreak : "\n".length = 1 := rfl
      omega

/-! ## Steps of the fragment -/

/-- A message changes nothing but the queue and the callbacks. -/
theorem enqueue_fields (logs : LogsFragment) (message : String) :
    (logs.enqueue message).text = logs.text ∧
      (logs.enqueue message).totalLines = logs.totalLines ∧
      (logs.enqueue message).pending = logs.pending ++ lines message := by
  rw [enqueue]
  dsimp only
  split <;> exact ⟨rfl, rfl, rfl⟩

/-- The loop counts the lines that it takes. -/
theorem takeBatch_totalLines (time : Nat → String) (n : Nat) (batch : Batch) :
    (takeBatch time n batch).totalLines = batch.totalLines + (batch.pending.take n).length := by
  induction n generalizing batch with
  | zero => simp [takeBatch]
  | succ n ih =>
    rw [takeBatch]
    split
    · rename_i hnil
      simp [hnil]
    · rename_i line rest hcons
      rw [ih, hcons, List.take_succ_cons, List.length_cons]
      show batch.totalLines + 1 + (rest.take n).length = _
      omega

/-- What is left in the queue, and the number of the next line. -/
theorem flushPending_queue (logs : LogsFragment) (env : Env) :
    (logs.flushPending env).pending = logs.pending.drop batchSize ∧
      (logs.flushPending env).totalLines =
        logs.totalLines + (logs.pending.take batchSize).length := by
  rw [flushPending]
  split
  · rename_i hempty
    simp [List.isEmpty_iff.mp hempty]
  · have hpending := takeBatch_pending env.time batchSize
      { pending := logs.pending, totalLines := logs.totalLines }
    have htotal := takeBatch_totalLines env.time batchSize
      { pending := logs.pending, totalLines := logs.totalLines }
    dsimp only
    split
    · exact ⟨hpending, htotal⟩
    · exact ⟨hpending, htotal⟩

/-- The callback writes what it takes, with line breaks only inside the batch. -/
theorem flushPending_text_numbered (logs : LogsFragment) (env : Env) (hcut : env.cut = none) :
    (logs.flushPending env).text =
      logs.text ++ "\n".intercalate (numbered logs.totalLines (logs.takenBy env)) := by
  rw [flushPending_text logs env hcut, shown_eq_numbered]
  simp only [Nat.zero_add, takenBy]

/-- At most one batch is taken. -/
theorem length_takenBy (logs : LogsFragment) (env : Env) :
    (logs.takenBy env).length = (logs.pending.take batchSize).length := by
  rw [takenBy, List.length_mapIdx]

/-- The lines are taken from the front of the queue. -/
theorem map_snd_takenBy (logs : LogsFragment) (env : Env) :
    (logs.takenBy env).map Prod.snd = logs.pending.take batchSize := by
  apply List.ext_getElem?
  intro i
  simp [takenBy, List.getElem?_mapIdx, Function.comp_def]

/-! ## Runs -/

namespace History

/-- The text and the queue tell the history. -/
structure Faithful (s : History) : Prop where
  text : s.logs.text = batchText 0 s.batches
  total : s.logs.totalLines = s.dequeued.length
  queue : s.enqueued = s.dequeued.map Prod.snd ++ s.logs.pending
  nonempty : ∀ line ∈ s.enqueued, line ≠ ""
  batches : ∀ batch ∈ s.batches, batch ≠ []

/-- At first there is no text and no line. -/
theorem faithful_init : Faithful {} where
  text := rfl
  total := rfl
  queue := rfl
  nonempty := by simp
  batches := by simp

/-- Every step without a Clear or a cut keeps the history. -/
theorem Faithful.step {s s' : History} {a : Action} {o : List Unit} (hi : Faithful s)
    (hok : uncut a) (h : step s a = some (s', o)) : Faithful s' := by
  cases a with
  -- the text stays, and the queue gets the lines of the message
  | enqueue message =>
    obtain ⟨rfl, -⟩ := Prod.mk.inj (Option.some.inj h)
    obtain ⟨htext, htotal, hpending⟩ := enqueue_fields s.logs message
    constructor
    · exact htext.trans hi.text
    · exact htotal.trans hi.total
    · show s.enqueued ++ lines message = s.dequeued.map Prod.snd ++ (s.logs.enqueue message).pending
      rw [hpending, hi.queue, List.append_assoc]
    · intro line hline
      obtain hline | hline := List.mem_append.mp hline
      · exact hi.nonempty line hline
      · -- `lines` keeps no empty line
        exact of_decide_eq_true (List.mem_filter.mp hline).2
    · exact hi.batches
  -- a cleared text no longer tells the history
  | clear => simp [uncut] at hok
  | callback env =>
    have hcut : env.cut = none := by simpa [uncut] using hok
    simp only [History.step, LogsFragment.step] at h
    split at h
    · cases h
    · rename_i logs o' hstep
      rw [Option.ite_none_left_eq_some] at hstep
      obtain ⟨-, hstep⟩ := hstep
      obtain ⟨rfl, -⟩ := Prod.mk.inj (Option.some.inj hstep)
      obtain ⟨rfl, -⟩ := Prod.mk.inj (Option.some.inj h)
      -- the callback itself is no longer posted while it runs
      let running := { s.logs with callbacks := s.logs.callbacks - 1 }
      obtain ⟨hpending, htotal⟩ := flushPending_queue running env
      have htext := flushPending_text_numbered running env hcut
      have hdequeued : (addBatch s.batches (s.logs.takenBy env)).flatten =
          s.dequeued ++ s.logs.takenBy env := flatten_addBatch _ _
      constructor
      · show (running.flushPending env).text = batchText 0 (addBatch s.batches _)
        rw [htext, batchText_addBatch, ← hi.text, Nat.zero_add]
        show s.logs.text ++ "\n".intercalate (numbered s.logs.totalLines _) = _
        rw [hi.total]
        rfl
      · show (running.flushPending env).totalLines = (addBatch s.batches _).flatten.length
        rw [htotal, hdequeued, List.length_append, length_takenBy, ← hi.total]
      · show s.enqueued = (addBatch s.batches _).flatten.map Prod.snd ++
          (running.flushPending env).pending
        rw [hpending, hdequeued, List.map_append, map_snd_takenBy, List.append_assoc, hi.queue]
        congr 1
        exact (List.take_append_drop _ _).symm
      · exact hi.nonempty
      · exact addBatch_ne_nil _ hi.batches

/-- The text tells the history of the whole run. -/
theorem faithful_of_reach {s : History} {tr : List Unit}
    (h : machine.Reach (fun _ a => uncut a) s tr) : Faithful s :=
  h.inv (P := fun s _ => Faithful s) faithful_init (fun hi hok hstep => hi.step hok hstep)

/-- Two batches are one line break short. -/
theorem Faithful.oneLineEach_iff {s : History} (hi : Faithful s) :
    OneLineEach s ↔ s.batches.length ≤ 1 := by
  have hlength := length_intercalate_numbered hi.batches 0
  rw [OneLineEach, dequeued, hi.text]
  constructor
  · -- the two texts differ in length as soon as there are two batches
    intro heq
    rw [← heq] at hlength
    omega
  · intro hone
    cases hbatches : s.batches with
    | nil => simp [batchText, numbered]
    | cons batch rest =>
      obtain rfl : rest = [] := by simpa [hbatches] using hone
      simp [batchText]

/-- In a run without a Clear and without a cut, the lines that were taken and those that wait
    are the lines of all messages, none of them empty, and the view shows one line per line
    if and only if a single callback took them all. -/
theorem one_line_each_iff {s : History} {tr : List Unit}
    (h : machine.Reach (fun _ a => uncut a) s tr) :
    s.enqueued = s.dequeued.map Prod.snd ++ s.logs.pending ∧
      (∀ line ∈ s.enqueued, line ≠ "") ∧
      s.logs.text = batchText 0 s.batches ∧
      (OneLineEach s ↔ s.batches.length ≤ 1) := by
  have hi := faithful_of_reach h
  exact ⟨hi.queue, hi.nonempty, hi.text, hi.oneLineEach_iff⟩

/-- Two messages of three lines that one callback takes, and one that waits. -/
theorem one_line_each_three : ∃ s tr, machine.Reach (fun _ a => uncut a) s tr ∧
    s.dequeued = [("9:00", "a"), ("9:00", "b"), ("9:00", "c")] ∧ s.logs.pending = ["d"] ∧
    OneLineEach s := by
  obtain ⟨s, tr, hreach, hpred⟩ :=
    machine.exists_reach (fun _ a => uncut a)
      (fun s _ => s.dequeued = [("9:00", "a"), ("9:00", "b"), ("9:00", "c")] &&
        s.logs.pending = ["d"] && s.batches.length ≤ 1)
      [.enqueue "a\n\nb", .enqueue "c", .callback { time := fun _ => "9:00" }, .enqueue "d"]
      (by decide +kernel)
  simp only [Bool.and_eq_true, decide_eq_true_eq] at hpred
  obtain ⟨⟨hdequeued, hpending⟩, hone⟩ := hpred
  exact ⟨s, tr, hreach, hdequeued, hpending, (one_line_each_iff hreach).2.2.2.mpr hone⟩

/-- The second message is shown behind the first one, in the same line. -/
theorem lines_glued : ∃ s tr, machine.Reach (fun _ a => uncut a) s tr ∧
    s.dequeued = [("9:00", "a"), ("9:00", "b")] ∧
    s.logs.text = "   1 [9:00] a   2 [9:00] b" ∧ ¬ OneLineEach s := by
  obtain ⟨s, tr, hreach, hpred⟩ :=
    machine.exists_reach (fun _ a => uncut a)
      (fun s _ => s.dequeued = [("9:00", "a"), ("9:00", "b")] &&
        s.logs.text = "   1 [9:00] a   2 [9:00] b" && s.batches.length = 2)
      -- each line has a flush of its own
      [.enqueue "a", .callback { time := fun _ => "9:00" }, .enqueue "b",
        .callback { time := fun _ => "9:00" }] (by decide +kernel)
  simp only [Bool.and_eq_true, decide_eq_true_eq] at hpred
  obtain ⟨⟨hdequeued, htext⟩, htwo⟩ := hpred
  refine ⟨s, tr, hreach, hdequeued, htext, ?_⟩
  rw [(faithful_of_reach hreach).oneLineEach_iff]
  omega

end History

end LogsFragment

end OpenFlux
