import OpenFlux.Spec.ViewModelStep

/-!
# Is there at most one live start?

`startTunnel` stops the session that `_active` shows before it launches a start job and puts
it into `startJob`.  But `_active` is not the start job: a teardown publishes its final state
while the next start waits for it, and `onServiceDisconnected` publishes `Idle` under a start
that runs.  A `startTunnel` that comes then replaces `startJob` and leaves the earlier start
alive, where `stop` does not reach it.

## Key results

- `one_live_start`: there is at most one live start and `startJob` holds it, if no session is
  created while `_active` shows none and the start in `startJob` is live
- `two_live_starts`: three calls of `startTunnel`, the last one when the teardown of the first
  session has just published `Idle`
-/

namespace OpenFlux

/-- The job is a start that is neither completed nor cancelled. -/
def Job.isLiveStart : Job → Bool
  | .start j => j.pc ≠ .finished && !j.cancelled
  | .teardown _ => false

/-- A start that is cancelled is not live. -/
theorem Job.cancel_not_live (job : Job) : job.cancel.isLiveStart = false := by
  cases job with
  | start j => by_cases hpc : j.pc = .finished <;> simp [Job.cancel, Job.isLiveStart, hpc]
  | teardown j => rfl

namespace ViewModel

/-- The job with this number is a live start. -/
def isLiveStart (vm : ViewModel) (id : Nat) : Bool := (vm.jobs[id]?).any Job.isLiveStart

/-- At most one start is live, and `startJob` holds it. -/
structure OneLiveStart (vm : ViewModel) : Prop where
  unique : ∀ k k', vm.isLiveStart k → vm.isLiveStart k' → k = k'
  held : ∀ k, vm.isLiveStart k → vm.startJob = some k

/-! ## The condition on steps -/

/-- The call stops the session that is shown, or `startJob` has no live start, or it creates
    no session. -/
def startsAlone (vm : ViewModel) (a : Action) : Bool :=
  !vm.createsSession a || vm.active.isActive || vm.startJob.all fun id => !vm.isLiveStart id

/-! ## The invariant -/

/-- `startJob` holds every live start. -/
def LiveHeld (vm : ViewModel) : Prop :=
  ∀ k job, vm.jobs[k]? = some job → job.isLiveStart → vm.startJob = some k

/-- The same in terms of `isLiveStart`. -/
theorem liveHeld_iff {vm : ViewModel} :
    LiveHeld vm ↔ ∀ k, vm.isLiveStart k → vm.startJob = some k := by
  simp only [LiveHeld, isLiveStart, Option.any_eq_true]
  exact ⟨fun h k ⟨job, hjob, hlive⟩ => h k job hjob hlive,
    fun h k job hjob hlive => h k ⟨job, hjob, hlive⟩⟩

/-- `LiveHeld` is about the job table only. -/
theorem LiveHeld.congr {vm vm' : ViewModel} (hsame : SameJobs vm vm') (h : LiveHeld vm) :
    LiveHeld vm' := by
  intro k job hjob hlive
  rw [hsame.jobs] at hjob
  rw [hsame.startJob]
  exact h k job hjob hlive

/-- After `teardown` no start is live. -/
theorem LiveHeld.teardown_none {vm : ViewModel} (h : LiveHeld vm) (f : TunnelState) {k : Nat}
    {job : Job} (hjob : (vm.teardown f).jobs[k]? = some job) : job.isLiveStart = false := by
  obtain ⟨job₀, hjob₀, rfl⟩ | ⟨-, rfl⟩ := teardown_job hjob
  · split
    · exact job₀.cancel_not_live
    · rename_i hne
      exact Bool.eq_false_iff.mpr fun hlive => hne (h k job₀ hjob₀ hlive)
  · rfl

/-- A `teardown` keeps it. -/
theorem LiveHeld.teardown {vm : ViewModel} (f : TunnelState) (h : LiveHeld vm) :
    LiveHeld (vm.teardown f) := by
  intro k job hjob hlive
  exact Bool.noConfusion (hlive.symm.trans (h.teardown_none f hjob))

/-- A start that is launched while none is live is the only one. -/
theorem liveHeld_launchStart {vm : ViewModel} (tunnel : Tunnel)
    (hnone : ∀ (k : Nat) (job : Job), vm.jobs[k]? = some job → job.isLiveStart = false) :
    LiveHeld (vm.launchStart tunnel) := by
  intro k job hjob hlive
  obtain hold | ⟨rfl, -⟩ := launchStart_job hjob
  · exact Bool.noConfusion (hlive.symm.trans (hnone k job hold))
  · rfl

/-- A job step revives nothing. -/
theorem LiveHeld.setJob {vm : ViewModel} {id : Nat} {old new : Job} (h : LiveHeld vm)
    (hold : vm.jobs[id]? = some old) (hnew : new.isLiveStart → old.isLiveStart) :
    LiveHeld (vm.setJob id new) := by
  intro k job hjob hlive
  obtain ⟨rfl, rfl⟩ | ⟨-, hjob⟩ := setJob_job hjob
  · exact h k old hold (hnew hlive)
  · exact h k job hjob hlive

/-- A start that is live after its step was so before. -/
theorem startNext_live {vm : ViewModel} {j : StartJob} {env : Env} {pc : StartPc} {eff : Effect}
    (h : vm.startNext j env = some (pc, eff)) (hlive : (Job.start { j with pc }).isLiveStart) :
    (Job.start j).isLiveStart := by
  simp only [Job.isLiveStart, Bool.and_eq_true, decide_eq_true_eq] at hlive ⊢
  exact ⟨startNext_not_finished h, hlive.2⟩

/-- A session is created after `stop`, or where no start is live. -/
theorem LiveHeld.createsSession {vm : ViewModel} {a : Action} (h : LiveHeld vm)
    (ha : vm.createsSession a) (hok : vm.startsAlone a) (tunnel : Tunnel) :
    LiveHeld ((vm.stopIf vm.active.isActive).1.launchStart tunnel) := by
  apply liveHeld_launchStart
  cases hactive : vm.active.isActive with
  | true => exact fun k job hjob => h.teardown_none .idle hjob
  | false =>
    -- nothing is stopped, so the condition has to say that nothing is live
    simp only [startsAlone, ha, hactive, Bool.not_true, Bool.false_or, Option.all_eq_true,
      Bool.not_eq_true'] at hok
    intro k job (hjob : vm.jobs[k]? = some job)
    refine Bool.eq_false_iff.mpr fun hlive => ?_
    have hnot := hok k (h k job hjob hlive)
    rw [isLiveStart, hjob, Option.any_some] at hnot
    exact Bool.noConfusion (hlive.symm.trans hnot)

/-- Every step keeps it, if sessions start alone. -/
theorem LiveHeld.step {vm vm' : ViewModel} {a : Action} {o : List Obs} (h : LiveHeld vm)
    (hok : vm.startsAlone a) (hstep : vm.step a = some (vm', o)) : LiveHeld vm' := by
  by_cases ha : ∃ id env, a = .job id env
  · obtain ⟨id, env, rfl⟩ := ha
    obtain ⟨j, pc, eff, hj, hnext, rfl, -⟩ | ⟨j, pc, eff, hj, hnext, rfl, -⟩ :=
      jobStep_cases hstep
    · exact perform_preserves LiveHeld.congr LiveHeld.teardown eff
        (h.setJob hj (startNext_live hnext))
    · exact perform_preserves LiveHeld.congr LiveHeld.teardown eff
        (h.setJob hj (by simp [Job.isLiveStart]))
  · by_cases hcreates : vm.createsSession a
    · obtain ⟨tunnel, hsame⟩ := step_createsSession hcreates hstep
      exact (h.createsSession hcreates hok tunnel).congr hsame
    · -- any other call is at most a `teardown`
      obtain ⟨vm₁, hvm₁, hvm'⟩ := (step_main (by simpa using ha) hstep).jobs
      have h₁ : LiveHeld vm₁ := by
        obtain hsame | ⟨-, f, hsame⟩ := hvm₁
        · exact h.congr hsame
        · exact (h.teardown f).congr hsame
      obtain hsame | ⟨hcreates', -⟩ := hvm'
      · exact h₁.congr hsame
      · exact (hcreates hcreates').elim

/-- As `startJob` holds one job, one start is live. -/
theorem LiveHeld.oneLiveStart {vm : ViewModel} (h : LiveHeld vm) : OneLiveStart vm where
  unique k k' hk hk' :=
    Option.some.inj ((liveHeld_iff.mp h k hk).symm.trans (liveHeld_iff.mp h k' hk'))
  held := liveHeld_iff.mp h

/-- **At most one start is live and `startJob` holds it**, in every run that creates a session
    only while one is shown or while `startJob` has no live start. -/
theorem one_live_start (repo : TunnelRepository) (vm : ViewModel) (tr : List Obs)
    (h : (machine repo).Reach (fun vm a => vm.startsAlone a) vm tr) : OneLiveStart vm := by
  have hheld : LiveHeld vm := by
    refine Machine.Reach.inv (P := fun vm _ => LiveHeld vm) ?_ ?_ h
    · intro k job hjob
      contradiction
    · intro vm tr a vm' o hheld hok hstep
      exact hheld.step hok hstep
  exact hheld.oneLiveStart

/-- The second of two sessions is started while the first one connects. -/
theorem one_live_start_restart : ∃ vm tr,
    (machine {}).Reach (fun vm a => vm.startsAlone a) vm tr ∧
      (vm.isLiveStart 2 ∧ vm.jobs.length = 3) ∧ OneLiveStart vm := by
  obtain ⟨vm, tr, hrun, hpred⟩ := Machine.exists_reach (machine {}) (fun vm a => vm.startsAlone a)
    (fun vm _ => vm.isLiveStart 2 && vm.jobs.length = 3)
    (List.flatten [[.startTunnel demoTunnel], jobSteps 0 4,
      [.startTunnel { demoTunnel with id := 2 }], jobSteps 1 4]) (by decide +kernel)
  simp only [Bool.and_eq_true, decide_eq_true_eq] at hpred
  exact ⟨vm, tr, hrun, hpred, one_live_start _ _ _ hrun⟩

/-- The second session waits for the teardown of the first one.  That publishes `Idle`, so the
    third `startTunnel` stops nothing. -/
theorem two_live_starts : ∃ vm tr, (machine {}).Reachable vm tr ∧
    (vm.isLiveStart 2 ∧ vm.isLiveStart 3 ∧ vm.startJob = some 3) ∧ ¬ OneLiveStart vm := by
  obtain ⟨vm, tr, hrun, hpred⟩ := Machine.exists_reach (machine {}) (fun _ _ => True)
    (fun vm _ => vm.isLiveStart 2 && (vm.isLiveStart 3 && vm.startJob = some 3))
    (List.flatten [[.startTunnel demoTunnel, .startTunnel { demoTunnel with id := 2 }],
      jobSteps 1 5, [.startTunnel { demoTunnel with id := 3 }]]) (by decide +kernel)
  simp only [Bool.and_eq_true, decide_eq_true_eq] at hpred
  obtain ⟨htwo, hthree, hstart⟩ := hpred
  refine ⟨vm, tr, hrun, ⟨htwo, hthree, hstart⟩, fun hone => ?_⟩
  exact absurd (hone.unique 2 3 htwo hthree) (by decide)

end ViewModel

end OpenFlux
