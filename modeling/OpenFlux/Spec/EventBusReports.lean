import OpenFlux.Model.EventBus

/-!
# Does the exit report survive on the bus?

The report shares its buffer with every log line.  Nothing is lost silently: an event that
was dispatched is in the buffer, was collected, or was dropped (`account_step`).  But what is
dropped is the oldest event, whatever it is, so a report that is not collected before 128
further events are dispatched is gone.

## Key results

- `reports_kept`: no report is lost if each is collected before 128 further events come
- `report_lost`: a report followed by 128 log lines
-/

namespace OpenFlux

namespace EventBus

/-! ## The property -/

/-- Each exit report that was dispatched is in the buffer or was collected, counted with
    repetitions. -/
def ReportsKept (bus : EventBus) (tr : List Obs) : Prop :=
  ∀ ev : AppEvent, ev.isNativeProcessExited →
    tr.count (.dispatched ev) = bus.buffer.count ev + tr.count (.collected ev)

/-! ## The condition on steps -/

/-- Every exit report in the buffer has at most `n` events behind it. -/
def behindReports (n : Nat) : List AppEvent → Bool
  | [] => true
  | ev :: rest => (!ev.isNativeProcessExited || rest.length ≤ n) && behindReports n rest

/-- An event is dispatched only while fewer than 127 have been dispatched behind each exit
    report that is not collected; with the new one there are fewer than 128. -/
def reportsFollowed (bus : EventBus) : Action → Bool
  | .dispatch _ => behindReports (extraBufferCapacity - 2) bus.buffer
  | .collect => true

/-! ## The invariant -/

/-- Where every event is that was dispatched. -/
structure Account (bus : EventBus) (tr : List Obs) : Prop where
  bounded : bus.buffer.length ≤ extraBufferCapacity
  count : ∀ ev, tr.count (.dispatched ev) =
    bus.buffer.count ev + tr.count (.collected ev) + tr.count (.dropped ev)

/-- At first nothing was dispatched. -/
theorem account_init : Account {} [] where
  bounded := Nat.zero_le _
  count _ := rfl

/-- A full buffer is not empty, so `tryEmit` either finds room or drops the oldest event. -/
theorem tryEmit_cases (bus : EventBus) (event : AppEvent) :
    (bus.buffer.length < extraBufferCapacity ∧
      bus.tryEmit event = ({ buffer := bus.buffer ++ [event] }, [.dispatched event])) ∨
    ∃ oldest rest, bus.buffer = oldest :: rest ∧ extraBufferCapacity ≤ bus.buffer.length ∧
      bus.tryEmit event =
        ({ buffer := rest ++ [event] }, [.dispatched event, .dropped oldest]) := by
  by_cases hroom : bus.buffer.length < extraBufferCapacity
  · exact .inl ⟨hroom, by rw [tryEmit, if_pos hroom]⟩
  · -- a full buffer has an oldest event
    right
    match hbuf : bus.buffer with
    | [] => exact (hroom (by rw [hbuf]; decide)).elim
    | oldest :: rest =>
      refine ⟨oldest, rest, rfl, by rw [← hbuf]; exact Nat.le_of_not_lt hroom, ?_⟩
      rw [tryEmit, if_neg hroom, hbuf]

/-- Every step moves an event to where it is counted. -/
theorem Account.step {bus bus' : EventBus} {tr o : List Obs} {a : Action}
    (hi : Account bus tr) (h : bus.step a = some (bus', o)) : Account bus' (tr ++ o) := by
  cases a with
  | dispatch event =>
    have hstep : bus.tryEmit event = (bus', o) := Option.some.inj h
    obtain ⟨hroom, heq⟩ | ⟨oldest, rest, hbuf, -, heq⟩ := tryEmit_cases bus event <;>
      obtain ⟨rfl, rfl⟩ := Prod.mk.inj (heq.symm.trans hstep)
    · -- there is room for the event
      refine ⟨?_, fun ev => ?_⟩
      · rw [List.length_append]
        exact hroom
      · have hcount := hi.count ev
        grind
    · -- the oldest event makes room, and is counted as dropped
      have hle := hi.bounded
      rw [hbuf] at hle
      refine ⟨?_, fun ev => ?_⟩
      · rw [List.length_append]
        exact hle
      · have hcount := hi.count ev
        rw [hbuf] at hcount
        grind
  | collect =>
    rw [EventBus.step] at h
    match hbuf : bus.buffer with
    | [] => rw [hbuf] at h; contradiction
    | event :: rest =>
      rw [hbuf] at h
      obtain ⟨rfl, rfl⟩ := Prod.mk.inj (Option.some.inj h)
      have hle := hi.bounded
      rw [hbuf] at hle
      refine ⟨Nat.le_of_succ_le hle, fun ev => ?_⟩
      have hcount := hi.count ev
      rw [hbuf] at hcount
      grind

/-- What a step drops is no exit report. -/
theorem not_dropped {bus bus' : EventBus} {o : List Obs} {a : Action} {ev : AppEvent}
    (hexit : ev.isNativeProcessExited) (hok : bus.reportsFollowed a)
    (h : bus.step a = some (bus', o)) : .dropped ev ∉ o := by
  cases a with
  | dispatch event =>
    have hstep : bus.tryEmit event = (bus', o) := Option.some.inj h
    obtain ⟨-, heq⟩ | ⟨oldest, rest, hbuf, hfull, heq⟩ := tryEmit_cases bus event <;>
      obtain ⟨rfl, rfl⟩ := Prod.mk.inj (heq.symm.trans hstep)
    · simp
    · -- the oldest event of a full buffer has 127 behind it
      have hbehind : behindReports (extraBufferCapacity - 2) bus.buffer := hok
      rw [hbuf] at hbehind hfull
      simp only [behindReports, extraBufferCapacity, Bool.and_eq_true, Bool.or_eq_true,
        Bool.not_eq_true', List.length_cons] at hbehind hfull
      rintro (_ | ⟨_, _ | ⟨_, ⟨⟩⟩⟩)
      obtain hnot | hshort := hbehind.1
      · exact Bool.noConfusion (hnot.symm.trans hexit)
      · have hle := of_decide_eq_true hshort
        omega
  | collect =>
    rw [EventBus.step] at h
    split at h
    · contradiction
    · obtain ⟨-, rfl⟩ := Prod.mk.inj (Option.some.inj h)
      simp

/-- **No exit report is lost**, in a run in which each is collected before 128 further events
    are dispatched. -/
theorem reports_kept {bus : EventBus} {tr : List Obs}
    (h : machine.Reach (fun bus a => bus.reportsFollowed a) bus tr) : ReportsKept bus tr := by
  have hinv : Account bus tr ∧ ∀ ev : AppEvent, ev.isNativeProcessExited → .dropped ev ∉ tr :=
    h.inv (P := fun bus tr =>
        Account bus tr ∧ ∀ ev : AppEvent, ev.isNativeProcessExited → .dropped ev ∉ tr)
      ⟨account_init, fun _ _ => List.not_mem_nil⟩
      (fun ⟨hi, hnone⟩ hok hstep => ⟨hi.step hstep, fun ev hexit hmem =>
        (List.mem_append.mp hmem).elim (hnone ev hexit) (not_dropped hexit hok hstep)⟩)
  intro ev hexit
  rw [hinv.1.count ev, List.count_eq_zero.mpr (hinv.2 ev hexit), Nat.add_zero]

/-- A report amid log lines, collected behind the one that came first. -/
theorem reports_kept_amid : ∃ bus tr,
    machine.Reach (fun bus a => bus.reportsFollowed a) bus tr ∧
      tr.contains (.collected (.nativeProcessExited "died")) ∧ ReportsKept bus tr := by
  obtain ⟨bus, tr, hreach, hpred⟩ :=
    machine.exists_reach (fun bus a => bus.reportsFollowed a)
      (fun _ tr => tr.contains (.collected (.nativeProcessExited "died")))
      [.dispatch (.logMessage "a"), .dispatch (.nativeProcessExited "died"),
        .dispatch (.logMessage "b"), .collect, .collect] (by decide +kernel)
  exact ⟨bus, tr, hreach, hpred, reports_kept hreach⟩

/-- A report and 128 log lines, before the collector gets to run. -/
theorem report_lost : ∃ bus tr, machine.Reachable bus tr ∧
    (tr.contains (.dispatched (.nativeProcessExited "died")) ∧
      tr.contains (.dropped (.nativeProcessExited "died"))) ∧ ¬ ReportsKept bus tr := by
  obtain ⟨bus, tr, hreach, hpred⟩ :=
    machine.exists_reach (fun _ _ => True)
      (fun bus tr => tr.contains (.dispatched (.nativeProcessExited "died")) &&
        tr.contains (.dropped (.nativeProcessExited "died")) &&
        (tr.count (.dispatched (.nativeProcessExited "died")) = 1 &&
          bus.buffer.count (.nativeProcessExited "died") = 0 &&
          tr.count (.collected (.nativeProcessExited "died")) = 0))
      -- the report is the oldest event when the buffer overflows
      (.dispatch (.nativeProcessExited "died") ::
        List.replicate 128 (.dispatch (.logMessage "x"))) (by decide +kernel)
  simp only [Bool.and_eq_true, decide_eq_true_eq] at hpred
  obtain ⟨hboth, ⟨hone, hbuf⟩, hcoll⟩ := hpred
  refine ⟨bus, tr, hreach, hboth, fun hkept => ?_⟩
  have hcount := hkept (.nativeProcessExited "died") rfl
  omega

end EventBus

end OpenFlux
