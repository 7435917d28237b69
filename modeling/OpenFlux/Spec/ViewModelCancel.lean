import OpenFlux.Spec.ViewModelStep

/-!
# What a cancelled start still does

`teardown` cancels the start job, but the job only looks at that when it is dispatched for
the first time, in `join` and in `delay`.  Between these points it runs on: it publishes
states, and after a blocking service call `awaitService` reads a `service` that the
teardown may have reset already and calls `fail`, which tears down whatever session is
current by then.

`StartJob.noticesCancel` are the points of the job body from which a cancellation is
noticed before any of this.  Two stretches qualify: the suspension points themselves, and
the calls that start and bind the service, which end in the `delay` of `awaitBinding` as
long as no binder has arrived.

## Key results

- `cancelled_start_inert`: when every `teardown` finds the start at such a point, a
  cancelled start never publishes, fails or touches another job
- `cancelled_start_not_inert`: without that, a cancelled start fails the session that was
  started after it
-/

namespace OpenFlux

/-- A cancellation that arrives here is noticed before the job publishes a state or calls
    `fail`. -/
def StartJob.noticesCancel (j : StartJob) : Bool :=
  match j.pc with
  | .launched | .bindingDelay _ | .pollDelay _ | .finished => true
  -- without a teardown to wait for, there is no `join` and no look at the cancellation
  | .joining => j.pendingTeardown.isSome
  | .startService | .requestBind | .bindService => true
  | .awaitBinding waited => waited < bindTimeoutMs
  | _ => false

/-- The effect neither writes `_active` nor calls `fail` or `teardown`. -/
def Effect.isInert : Effect → Bool
  | .publish _ | .fail _ | .teardown _ => false
  | _ => true

namespace ViewModel

/-- No step of a cancelled start writes `_active`, calls `fail` or `teardown`, or changes
    another job. -/
def CancelledInert (vm : ViewModel) : Prop :=
  ∀ id env j vm' o, vm.jobs[id]? = some (.start j) → j.cancelled →
    vm.step (.job id env) = some (vm', o) →
    vm'.active = vm.active ∧ (∀ x ∈ o, x.2.isInert) ∧
    vm'.startJob = vm.startJob ∧ ∀ k, k ≠ id → vm'.jobs[k]? = vm.jobs[k]?

/-! ## The condition on steps -/

/-- The step calls `teardown`. -/
def tearsDown (vm : ViewModel) (a : Action) : Bool :=
  (vm.step a).any fun r => r.2.any (·.2.isTeardown)

/-- The start that `teardown` would cancel notices it in time. -/
def startNoticesCancel (vm : ViewModel) : Bool :=
  match vm.startJob.bind (vm.jobs[·]?) with
  | some (.start j) => j.noticesCancel
  | _ => true

/-- The step belongs to the start that is held in `startJob`. -/
def isStartStep (vm : ViewModel) : Action → Bool
  | .job id _ => vm.startJob = some id
  | _ => false

/-- The step is the loop test of `awaitBinding` in a cancelled start. -/
def testsBindingCancelled (vm : ViewModel) : Action → Bool
  | .job id _ =>
    match vm.jobs[id]? with
    | some (.start { cancelled := true, pc := .awaitBinding _, .. }) => true
    | _ => false
  | _ => false

/-- The condition: `teardown` is called by the failing start itself or while the start
    notices a cancellation in time, and a cancelled start that tests for the binder finds
    none. -/
def CancelInTime (vm : ViewModel) (a : Action) : Prop :=
  (vm.tearsDown a → vm.startNoticesCancel ∨ vm.isStartStep a) ∧
  (vm.testsBindingCancelled a → vm.service = none)

instance (vm : ViewModel) (a : Action) : Decidable (vm.CancelInTime a) :=
  inferInstanceAs (Decidable ((_ → _ ∨ _) ∧ (_ → _)))

/-! ## The invariant -/

/-- Every cancelled start is at a point where it notices. -/
def CancelledNotice (vm : ViewModel) : Prop :=
  ∀ ⦃id : Nat⦄ ⦃j : StartJob⦄, vm.jobs[id]? = some (.start j) → j.cancelled → j.noticesCancel

/-- From such a point a cancelled start does nothing but start and bind the service. -/
theorem startNext_inert {vm : ViewModel} {j : StartJob} {env : Env} {pc : StartPc}
    {eff : Effect} (hc : j.cancelled) (hn : j.noticesCancel)
    (h : vm.startNext j env = some (pc, eff)) : eff.isInert := by
  cases hpc : j.pc with
  | launched | bindingDelay _ | pollDelay _ | startService | requestBind | bindService =>
    simp only [startNext, hpc] at h
    cases h
    rfl
  | joining =>
    simp only [startNext, hpc, hc, if_true] at h
    split at h <;> cases h <;> rfl
  | awaitBinding waited =>
    simp only [startNext, hpc] at h
    split at h <;> cases h <;> rfl
  | finished => simp [startNext, hpc] at h
  | _ =>
    -- at every other point the cancellation is not noticed
    simp [StartJob.noticesCancel, hpc] at hn

/-- From such a point a cancelled start goes to another one or finishes, unless it finds
    a binder. -/
theorem startNext_noticesCancel {vm : ViewModel} {j : StartJob} {env : Env} {pc : StartPc}
    {eff : Effect} (hc : j.cancelled) (hn : j.noticesCancel)
    (hbind : (∃ waited, j.pc = .awaitBinding waited) → vm.service = none)
    (h : vm.startNext j env = some (pc, eff)) :
    ({ j with pc } : StartJob).noticesCancel := by
  cases hpc : j.pc with
  | awaitBinding waited =>
    have hwait : waited < bindTimeoutMs := by simpa [StartJob.noticesCancel, hpc] using hn
    -- without a binder the loop goes on to its `delay`, which throws
    have hnone := hbind ⟨waited, hpc⟩
    simp only [startNext, hpc, hnone, hwait, and_self, if_true] at h
    cases h
    rfl
  | joining =>
    -- `join` throws in a cancelled start
    obtain ⟨t, ht⟩ := Option.isSome_iff_exists.mp
      (show j.pendingTeardown.isSome by simpa [StartJob.noticesCancel, hpc] using hn)
    simp only [startNext, hpc, ht, hc, if_true] at h
    cases h
    rfl
  | launched | bindingDelay _ | pollDelay _ =>
    simp only [startNext, hpc, hc, if_true] at h
    cases h
    rfl
  | startService | requestBind | bindService =>
    simp only [startNext, hpc] at h
    cases h
    rfl
  | finished => simp [startNext, hpc] at h
  | _ => simp [StartJob.noticesCancel, hpc] at hn

/-- `CancelledNotice` is about the job table only. -/
theorem CancelledNotice.congr {vm vm' : ViewModel} (h : CancelledNotice vm)
    (hsame : SameJobs vm vm') : CancelledNotice vm' := by
  intro id j hj hc
  rw [hsame.jobs] at hj
  exact h hj hc

/-- Cancelling a start that notices keeps the invariant. -/
theorem CancelledNotice.teardown {vm : ViewModel} (h : CancelledNotice vm)
    (hn : vm.startNoticesCancel) (f : TunnelState) : CancelledNotice (vm.teardown f) := by
  intro id j hj hc
  obtain ⟨job₀, hjob₀, hjob⟩ | ⟨-, hjob⟩ := teardown_job hj
  · by_cases hid : vm.startJob = some id
    · cases job₀ with
      | teardown t => simp [hid, Job.cancel] at hjob
      | start j₀ =>
        -- the job is `j₀`, cancelled or already finished
        have hn₀ : j₀.noticesCancel := by
          simpa [startNoticesCancel, hid, hjob₀] using hn
        simp only [hid, if_true, Job.cancel] at hjob
        split at hjob
        · cases hjob
          exact hn₀
        · cases hjob
          exact hn₀
    · rw [if_neg hid] at hjob
      exact h (hjob ▸ hjob₀) hc
  · cases hjob

/-- A new start is not cancelled yet. -/
theorem CancelledNotice.launchStart {vm : ViewModel} (h : CancelledNotice vm)
    (tunnel : Tunnel) : CancelledNotice (vm.launchStart tunnel) := by
  intro id j hj hc
  obtain hj | ⟨-, hj⟩ := launchStart_job hj
  · exact h hj hc
  · cases hj
    cases hc

/-- A job may move on as long as it still notices its own cancellation. -/
theorem CancelledNotice.setJob {vm : ViewModel} (h : CancelledNotice vm) {id : Nat} {new : Job}
    (hnew : ∀ j, new = .start j → j.cancelled → j.noticesCancel) :
    CancelledNotice (vm.setJob id new) := by
  intro k j hj hc
  obtain ⟨-, hnew'⟩ | ⟨-, hj⟩ := setJob_job hj
  · exact hnew j hnew'.symm hc
  · exact h hj hc

/-! ## Steps -/

/-- A step that records a call of `teardown` meets the first half of the condition. -/
private theorem CancelInTime.notices {vm vm' : ViewModel} {a : Action} {o : List Obs}
    (hok : vm.CancelInTime a) (h : vm.step a = some (vm', o))
    (ho : ∃ x ∈ o, x.2.isTeardown) : vm.startNoticesCancel ∨ vm.isStartStep a := by
  apply hok.1
  simp only [tearsDown, h, Option.any_some, List.any_eq_true]
  exact ho

/-- A cancelled start that tests for the binder meets the second half. -/
private theorem CancelInTime.service {vm : ViewModel} {id : Nat} {env : Env} {j : StartJob}
    (hok : vm.CancelInTime (.job id env)) (hj : vm.jobs[id]? = some (.start j))
    (hc : j.cancelled) (hpc : ∃ waited, j.pc = .awaitBinding waited) : vm.service = none := by
  obtain ⟨waited, hpc⟩ := hpc
  apply hok.2
  obtain ⟨tunnel, pendingTeardown, cancelled, pc⟩ := j
  simp only at hc hpc
  subst hc hpc
  simp [testsBindingCancelled, hj]

/-- In a start job's step, the job that `teardown` would cancel still notices: it is
    another one, untouched so far, or the stepping job, which has finished. -/
private theorem startNoticesCancel_setJob {vm : ViewModel} {id : Nat} {old : Job}
    {j : StartJob} (hold : vm.jobs[id]? = some old) (hpc : j.pc = .finished)
    (hn : vm.startNoticesCancel ∨ vm.startJob = some id) :
    (vm.setJob id (.start j)).startNoticesCancel := by
  have hstart : (vm.setJob id (.start j)).startJob = vm.startJob := rfl
  unfold startNoticesCancel
  rw [hstart]
  cases hs : vm.startJob with
  | none => rfl
  | some k =>
    -- the job that is set, or another one
    by_cases hk : k = id
    · subst hk
      simp [setJob_job_self _ hold, StartJob.noticesCancel, hpc]
    · have hn : vm.startNoticesCancel := by
        obtain hn | hn := hn
        · exact hn
        · exact absurd (Option.some.inj (hs.symm.trans hn)) hk
      simpa [startNoticesCancel, hs, setJob_job_of_ne _ hk] using hn

/-- A call of `teardown` is recorded. -/
theorem record_isTeardown {who : Actor} {eff : Effect} (h : eff.isTeardown) :
    ∃ x ∈ record who eff, x.2.isTeardown := by
  refine ⟨(who, eff), ?_, h⟩
  cases eff <;> simp [Effect.isTeardown] at h
  simp [record]

/-- Every step keeps the invariant, if cancellations come in time. -/
theorem cancelledNotice_step {vm vm' : ViewModel} {a : Action} {o : List Obs}
    (hn : CancelledNotice vm) (hok : vm.CancelInTime a) (h : vm.step a = some (vm', o)) :
    CancelledNotice vm' := by
  by_cases ha : ∃ id env, a = .job id env
  · obtain ⟨id, env, rfl⟩ := ha
    obtain ⟨j, pc, eff, hj, hnext, rfl, rfl⟩ | ⟨j, pc, eff, hj, hnext, rfl, -⟩ := jobStep_cases h
    · -- first the step of the body, then its effect
      have hmoved : CancelledNotice (vm.setJob id (.start { j with pc })) := by
        apply hn.setJob
        intro j' hj' hc
        obtain rfl := Job.start.inj hj'
        have hc : j.cancelled := hc
        exact startNext_noticesCancel hc (hn hj hc) (hok.service hj hc) hnext
      cases heff : eff.isTeardown with
      | false => exact hmoved.congr (perform_sameJobs _ heff)
      | true =>
        -- the `teardown` at the end of `fail`
        have hstart := hok.notices h (record_isTeardown heff)
        have hpc := startNext_teardown hnext heff
        cases eff <;> simp [Effect.isTeardown] at heff
        exact hmoved.teardown
          (startNoticesCancel_setJob hj hpc (by simpa [isStartStep] using hstart)) _
    · refine CancelledNotice.congr ?_ (perform_sameJobs _ (teardownNext_not_teardown hnext))
      exact hn.setJob (by simp)
  · have ha : ∀ id env, a ≠ .job id env := by simpa using ha
    obtain ⟨vm₁, hvm₁, hvm'⟩ := (step_main ha h).jobs
    have hn₁ : CancelledNotice vm₁ := by
      obtain hsame | ⟨ho, f, hsame⟩ := hvm₁
      · exact hn.congr hsame
      · -- the main thread is no start job
        have hstart : vm.startNoticesCancel := by
          refine (hok.notices h ho).resolve_right ?_
          cases a <;> simp [isStartStep] at ha ⊢
        exact (hn.teardown hstart f).congr hsame
    obtain hsame | ⟨-, tunnel, hsame⟩ := hvm'
    · exact hn₁.congr hsame
    · exact (hn₁.launchStart tunnel).congr hsame

/-- An inert effect leaves `_active` and the job table alone. -/
private theorem perform_inert (vm : ViewModel) {eff : Effect} (h : eff.isInert) :
    (vm.perform eff).active = vm.active ∧ (vm.perform eff).startJob = vm.startJob ∧
      (vm.perform eff).jobs = vm.jobs := by
  cases eff <;> first | exact ⟨rfl, rfl, rfl⟩ | simp [Effect.isInert] at h

/-- A cancelled start that notices is inert. -/
theorem CancelledNotice.inert {vm : ViewModel} (hn : CancelledNotice vm) :
    CancelledInert vm := by
  intro id env j vm' o hj hc h
  obtain ⟨j₀, pc, eff, hj₀, hnext, rfl, rfl⟩ | ⟨_, _, _, hj₀, -⟩ := jobStep_cases h
  · obtain rfl : j = j₀ := Job.start.inj (Option.some.inj (hj.symm.trans hj₀))
    -- a cancelled coroutine that notices it has no effect
    have heff := startNext_inert hc (hn hj hc) hnext
    obtain ⟨hactive, hstart, hjobs⟩ :=
      perform_inert (vm.setJob id (.start { j with pc })) heff
    refine ⟨hactive, ?_, hstart, ?_⟩
    · intro x hx
      rwa [(mem_record hx).1]
    · intro k hk
      rw [hjobs, setJob_job_of_ne _ hk]
  · exact Job.noConfusion (Option.some.inj (hj.symm.trans hj₀))

/-- In every run in which each call of `teardown` comes from the failing start itself or
    finds the start at a point where it notices its cancellation, and a cancelled start
    never tests for a binder that has arrived, cancelled starts are inert. -/
theorem cancelled_start_inert (repo : TunnelRepository) (vm : ViewModel) (tr : List Obs)
    (h : (machine repo).Reach CancelInTime vm tr) : CancelledInert vm := by
  have hn : CancelledNotice vm := by
    refine Machine.Reach.inv (P := fun vm _ => CancelledNotice vm) ?_ ?_ h
    · intro id j hj
      simp [machine, init] at hj
    · intro vm tr a vm' o hn hok hstep
      exact cancelledNotice_step hn hok hstep
  exact hn.inert

/-- A start is cancelled while it waits for the binder, and the next session is started. -/
theorem cancelled_start_inert_binding :
    ∃ vm tr, (machine {}).Reach CancelInTime vm tr ∧
      (.main, .teardown .idle) ∈ tr ∧ CancelledInert vm := by
  obtain ⟨vm, tr, hrun, htr⟩ := Machine.exists_reach (machine {}) CancelInTime
    (fun _ tr => decide ((.main, .teardown .idle) ∈ tr))
    (List.flatten [[.startTunnel demoTunnel], jobSteps 0 8, [.stop, .startTunnel demoTunnel],
      jobSteps 0 1]) (by decide +kernel)
  exact ⟨vm, tr, hrun, of_decide_eq_true htr, cancelled_start_inert _ _ _ hrun⟩

/-- `stop` and a new `startTunnel` while the first start is inside `startOpenFluxNative`.
    Its teardown resets `service`; the cancelled start returns from the call, finds no
    service, and its `fail` tears down the second session. -/
def stopDuringTransport : List Action :=
  [.startTunnel demoTunnel] ++ jobSteps 0 6 ++ [.onServiceConnected 0] ++ jobSteps 0 4 ++
    [.stop] ++ jobSteps 1 14 ++ [.startTunnel demoTunnel] ++ jobSteps 0 4

/-- The first start after these steps, at its call of `teardown`. -/
def overtakenStart : StartJob :=
  { tunnel := demoTunnel
    pendingTeardown := none
    cancelled := true
    pc := .failTeardown serviceNotConnected }

/-- The `fail` of a start that was cancelled too late cancels the start of the next session. -/
theorem cancelled_start_not_inert :
    ∃ vm tr, (machine {}).Reachable vm tr ∧ ¬ CancelledInert vm := by
  obtain ⟨vm, tr, hrun, hvm⟩ := Machine.exists_reach (machine {}) (fun _ _ => True)
    (fun vm _ => decide (vm.startJob = some 2 ∧ vm.jobs[0]? = some (Job.start overtakenStart)))
    stopDuringTransport (by decide +kernel)
  obtain ⟨hstart, hjob⟩ := of_decide_eq_true hvm
  refine ⟨vm, tr, hrun, ?_⟩
  intro hinert
  have hstep : vm.step (.job 0 {}) = some
      ((vm.setJob 0 (.start { overtakenStart with pc := .finished })).act (.start 0)
        (.teardown (.error serviceNotConnected))) := by
    simp [step, jobStep, hjob, startNext, overtakenStart]
  -- the step resets `startJob`, which held the second session's job
  obtain ⟨-, -, hsame, -⟩ := hinert 0 {} _ _ _ hjob rfl hstep
  have hnone : vm.startJob = none := hsame.symm
  rw [hstart] at hnone
  cases hnone

end ViewModel

end OpenFlux
