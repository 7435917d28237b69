import OpenFlux.Spec.AppStep
import OpenFlux.Spec.ViewModelSerial
import OpenFlux.Spec.ViewModelSessions

/-!
# Which session a failure report hits

The report of an unexpected exit waits in two queues before the view model sees it, and
the user may stop and start sessions meanwhile.  Neither the callback's `stopEverything` nor
`fail` can tell which session the report is about.  A report is *outdated* once a start job
newer than its session exists.

What keeps an outdated report from the new session are two tests.  The collector asks whether
a session is shown, and `fail` whether `startJob` is empty and a teardown is going on.  They
help before the new session is shown, which is while its start waits for a teardown that has
published, and again when the new session has been stopped.  For the second half the
view model must not show a session that it no longer holds: `Owned` says that it does so only
until a teardown publishes.

## Key results

- `reports_hit_own_session`: an outdated report is ignored if and only if it is the collector
  that handles it, while no start is held or no session is shown
- `report_hits_next_session`: a report that the user overtakes with a restart cancels the
  new session
-/

namespace OpenFlux

/-- The job is a start. -/
def Job.isStart : Job → Bool
  | .start _ => true
  | .teardown _ => false

/-- A state that shows no tunnel is not active. -/
theorem TunnelState.isActive_eq (state : TunnelState) : state.isActive = state.tunnel.isSome := by
  cases state <;> rfl

namespace ViewModel

/-! ## Sessions that are shown and not held -/

/-- While `startJob` is empty, a start publishes only as long as a teardown has still to
    publish. -/
def publishesHeld (vm : ViewModel) : OpenFlux.Action → Bool
  | .job id env =>
    match vm.jobs[id]? with
    | some (.start j) => vm.startJob.isSome || vm.jobs.any Job.isUnpublished ||
        (vm.startNext j env).all fun next => next.2.published?.isNone
    | _ => true
  | _ => true

/-- A session that is shown is held in `startJob`, or some teardown will replace what is
    shown by its final state. -/
structure Owned (vm : ViewModel) : Prop where
  shown : vm.startJob = none → vm.active.isActive → ∃ job ∈ vm.jobs, job.isUnpublished
  finals : ∀ job ∈ vm.jobs, job.finalTunnel? = none

/-- At first nothing is shown. -/
theorem owned_init (repo : TunnelRepository) : Owned (init repo) where
  shown _ hactive := by cases hactive
  finals _ hjob := by cases hjob

/-- Only the shown state and the jobs matter. -/
theorem Owned.congr {vm vm' : ViewModel} (h : Owned vm) (hsame : SameJobs vm vm')
    (hactive : vm'.active.isActive → vm.active.isActive) : Owned vm' := by
  constructor
  · rw [hsame.startJob, hsame.jobs]
    exact fun hnone hactive' => h.shown hnone (hactive hactive')
  · rw [hsame.jobs]
    exact h.finals

/-- The new teardown has still to publish. -/
theorem Owned.teardown {vm : ViewModel} (h : Owned vm) {f : TunnelState}
    (hf : f.tunnel = none) : Owned (vm.teardown f) where
  shown _ _ := vm.exists_isUnpublished_teardown f
  finals := finals_teardown h.finals hf

/-- Maybe there is a `stop()`. -/
theorem Owned.stopIf {vm : ViewModel} (h : Owned vm) (cond : Bool) :
    Owned (vm.stopIf cond).1 := by
  cases cond with
  | false => exact h
  | true => exact h.teardown rfl

/-- `fail` launches a teardown or does nothing. -/
theorem Owned.fail {vm : ViewModel} (h : Owned vm) (message : String) :
    Owned (vm.fail message).1 := by
  rw [ViewModel.fail]
  split
  · exact h
  · exact h.teardown rfl

/-- The new start is held. -/
theorem Owned.startTunnel {vm : ViewModel} (h : Owned vm) (tunnel : Tunnel) :
    Owned (vm.startTunnel tunnel).1 := by
  rw [ViewModel.startTunnel]
  split
  · exact h
  · constructor
    · intro hnone
      cases hnone
    · intro job hjob
      obtain hjob | hjob := List.mem_append.mp hjob
      · exact (h.stopIf vm.active.isActive).finals job hjob
      · rw [List.mem_singleton.mp hjob]
        rfl

/-- An effect that publishes no unheld session. -/
theorem Owned.perform {vm : ViewModel} (h : Owned vm) {eff : Effect}
    (hpublish : ∀ state, eff.published? = some state → vm.startJob = none → state.isActive →
      ∃ job ∈ vm.jobs, job.isUnpublished)
    (hteardown : ∀ f, eff = .teardown f → f.tunnel = none) : Owned (vm.perform eff) := by
  cases eff with
  | publish state => exact ⟨hpublish state rfl, h.finals⟩
  | teardown f => exact h.teardown (hteardown f rfl)
  | _ => exact h.congr ⟨rfl, rfl, rfl⟩ id

/-- A start that publishes is held, or overtaken by a teardown that has still to publish. -/
theorem Owned.start_step {vm : ViewModel} (h : Owned vm) {id : Nat} {env : Env} {j : StartJob}
    {pc : StartPc} {eff : Effect} (hj : vm.jobs[id]? = some (.start j))
    (hnext : vm.startNext j env = some (pc, eff)) (hok : vm.publishesHeld (.job id env)) :
    Owned ((vm.setJob id (.start { j with pc })).perform eff) := by
  have hunpublished :=
    exists_isUnpublished_setJob (.start { j with pc }) hj (by simp [Job.isUnpublished])
  have hmoved : Owned (vm.setJob id (.start { j with pc })) :=
    ⟨fun hnone hactive => hunpublished (h.shown hnone hactive),
      finals_setJob h.finals _ hj rfl⟩
  refine hmoved.perform ?_ fun f hf => startNext_teardown_tunnel hnext hf
  intro state hstate hnone _
  -- the condition, with nothing held
  have hnone : vm.startJob = none := hnone
  apply hunpublished
  simpa [publishesHeld, hj, hnext, hnone, hstate] using hok

/-- The final state of a teardown is not active. -/
theorem Owned.teardown_step {vm : ViewModel} (h : Owned vm) {id : Nat} {env : Env}
    {j : TeardownJob} {pc : TeardownPc} {eff : Effect}
    (hj : vm.jobs[id]? = some (.teardown j)) (hnext : vm.teardownNext j env = some (pc, eff)) :
    Owned ((vm.setJob id (.teardown { j with pc })).perform eff) := by
  have hfinals := finals_setJob h.finals (.teardown { j with pc }) hj rfl
  obtain rfl | ⟨hnone, hkeeps⟩ := teardownNext_unpublished hnext
  · -- it publishes its final state
    refine ⟨fun _ hactive => ?_, hfinals⟩
    have hfinal : j.finalState.tunnel = none := h.finals _ (List.mem_of_getElem? hj)
    have hactive : j.finalState.isActive := hactive
    rw [TunnelState.isActive_eq, hfinal] at hactive
    cases hactive
  · have hmoved : Owned (vm.setJob id (.teardown { j with pc })) :=
      ⟨fun hstart hactive => exists_isUnpublished_setJob _ hj hkeeps (h.shown hstart hactive),
        hfinals⟩
    refine hmoved.perform (fun state hstate => ?_) fun f hf => ?_
    · cases hnone.symm.trans hstate
    · have hnot := teardownNext_not_teardown hnext
      rw [hf] at hnot
      contradiction

/-- One step of the view model. -/
theorem Owned.step {vm vm' : ViewModel} {a : OpenFlux.Action} {o : List Obs} (h : Owned vm)
    (hok : vm.publishesHeld a) (hstep : vm.step a = some (vm', o)) : Owned vm' := by
  cases a with
  | startTunnel tunnel =>
    obtain ⟨rfl, -⟩ := Prod.mk.inj (Option.some.inj hstep)
    exact h.startTunnel tunnel
  | startCurrent =>
    simp only [ViewModel.step, startCurrent, Option.some.injEq] at hstep
    split at hstep <;> obtain ⟨rfl, -⟩ := Prod.mk.inj hstep
    · exact h
    · exact h.startTunnel _
  -- the new teardown has still to publish
  | stop =>
    obtain ⟨rfl, -⟩ := Prod.mk.inj (Option.some.inj hstep)
    exact h.teardown rfl
  | selectTunnel tunnel | removeTunnel tunnel =>
    obtain ⟨rfl, -⟩ := Prod.mk.inj (Option.some.inj hstep)
    exact (h.stopIf _).congr ⟨rfl, rfl, rfl⟩ id
  -- the list of tunnels does not matter to the sessions
  | addTunnel tunnel =>
    simp only [ViewModel.step, addTunnel, Option.some.injEq] at hstep
    split at hstep <;> obtain ⟨rfl, -⟩ := Prod.mk.inj hstep
    · exact h
    · exact h.congr ⟨rfl, rfl, rfl⟩ id
  | updateTunnel old new =>
    simp only [ViewModel.step, updateTunnel, Option.some.injEq] at hstep
    split at hstep <;> obtain ⟨rfl, -⟩ := Prod.mk.inj hstep
    · exact h
    · exact (h.stopIf _).congr ⟨rfl, rfl, rfl⟩ id
  | onServiceConnected s =>
    obtain ⟨rfl, -⟩ := Prod.mk.inj (Option.some.inj hstep)
    exact h.congr ⟨rfl, rfl, rfl⟩ id
  | onServiceDisconnected =>
    simp only [ViewModel.step, onServiceDisconnected, Option.some.injEq] at hstep
    split at hstep <;> obtain ⟨rfl, -⟩ := Prod.mk.inj hstep
    · exact h.congr ⟨rfl, rfl, rfl⟩ id
    · -- `Idle` is shown
      exact h.congr ⟨rfl, rfl, rfl⟩ fun hactive => by cases hactive
  | nativeProcessExited message =>
    simp only [ViewModel.step, nativeProcessExited, Option.some.injEq] at hstep
    split at hstep <;> obtain ⟨rfl, -⟩ := Prod.mk.inj hstep
    · exact h.fail message
    · exact h
  -- only the coroutines publish on their own
  | job id env =>
    obtain ⟨j, pc, eff, hj, hnext, rfl, -⟩ | ⟨j, pc, eff, hj, hnext, rfl, -⟩ :=
      jobStep_cases hstep
    · exact h.start_step hj hnext hok
    · exact h.teardown_step hj hnext

/-- While a teardown has still to publish, `teardownJob` is active: it is that teardown, or a
    newer one, which waits for it. -/
theorem Chain.teardownIsActive {vm : ViewModel} (h : Chain vm)
    (hunpublished : ∃ job ∈ vm.jobs, job.isUnpublished) : vm.teardownIsActive := by
  obtain ⟨job, hmem, hjob⟩ := hunpublished
  obtain ⟨i, hi⟩ := List.mem_iff_getElem?.mp hmem
  have hkind : job.isTeardown ∧ job.isCompleted = false := by
    cases job with
    | start j => cases hjob
    | teardown j => simp_all [Job.isUnpublished, Job.isTeardown, Job.isCompleted]
  -- `teardownJob` is at least as new
  obtain ⟨t, ht, hle⟩ := h.latest hi hkind.1
  obtain ⟨jobₜ, hjobₜ, htd⟩ := h.valid ht
  have hactive : jobₜ.isCompleted = false := by
    by_contra hdone
    have hdone : jobₜ.isCompleted := by simpa using hdone
    have hcompleted : job.isCompleted := by
      obtain hlt | rfl := Nat.lt_or_eq_of_le hle
      · exact h.completed_of_lt hjobₜ (Job.pastJoin_of_isCompleted htd hdone) hi hkind.1 hlt
      · rwa [Option.some.inj (hi.symm.trans hjobₜ)]
    rw [hkind.2] at hcompleted
    cases hcompleted
  simp [ViewModel.teardownIsActive, ViewModel.isCompleted, ht, hjobₜ, hactive]

/-- What the collector ignores, as the code tests it and as the invariants put it. -/
theorem nativeProcessExited_eq_iff {vm : ViewModel} (hchain : Chain vm) (howned : Owned vm)
    (message : String) : (vm.nativeProcessExited message).1 = vm ↔
      vm.startJob = none ∨ vm.active.isActive = false := by
  unfold nativeProcessExited
  cases hactive : vm.active.isActive with
  | false => simp
  | true =>
    rw [if_pos rfl]
    cases hstart : vm.startJob with
    | none =>
      -- the session that is shown is being torn down, so the test of `fail` succeeds
      have hteardown := hchain.teardownIsActive (howned.shown hstart hactive)
      simp [ViewModel.fail, hstart, hteardown]
    | some k =>
      -- the session that is held is torn down
      have hfail : (vm.fail message).1 = vm.teardown (.error message) := by
        simp [ViewModel.fail, hstart]
      rw [hfail]
      refine ⟨fun heq => ?_, fun h => by simp at h⟩
      have hnone : (vm.teardown (.error message)).startJob = none := rfl
      rw [heq, hstart] at hnone
      cases hnone

/-! ## The start that is held -/

/-- The start that is held in `startJob` is the newest one. -/
def HoldsNewest (vm : ViewModel) : Prop :=
  ∀ ⦃j k : Nat⦄ ⦃job : Job⦄, vm.startJob = some j → vm.jobs[k]? = some job → job.isStart → k ≤ j

/-- Only the jobs matter. -/
theorem HoldsNewest.congr {vm vm' : ViewModel} (hsame : SameJobs vm vm') (h : HoldsNewest vm) :
    HoldsNewest vm' := by
  unfold HoldsNewest
  rw [hsame.startJob, hsame.jobs]
  exact h

/-- After `teardown` no start is held. -/
theorem holdsNewest_teardown (vm : ViewModel) (f : TunnelState) :
    HoldsNewest (vm.teardown f) := by
  intro j k job hstart
  cases hstart

/-- A start that is launched is the newest, and it is held. -/
theorem holdsNewest_launchStart (vm : ViewModel) (tunnel : Tunnel) :
    HoldsNewest (vm.launchStart tunnel) := by
  intro j k job hstart hk _
  obtain rfl := Option.some.inj hstart
  have hlt := (List.getElem?_eq_some_iff.mp hk).1
  simp only [launchStart, List.length_append, List.length_singleton] at hlt
  exact Nat.lt_succ_iff.mp hlt

/-- A job stays what it is. -/
theorem HoldsNewest.setJob {vm : ViewModel} {id : Nat} {old new : Job} (h : HoldsNewest vm)
    (hold : vm.jobs[id]? = some old) (hkind : new.isStart = old.isStart) :
    HoldsNewest (vm.setJob id new) := by
  intro j k job hstart hk hjob
  obtain ⟨rfl, rfl⟩ | ⟨-, hk⟩ := setJob_job hk
  · exact h hstart hold (hkind ▸ hjob)
  · exact h hstart hk hjob

/-- Every step keeps that. -/
theorem HoldsNewest.step {vm vm' : ViewModel} {a : OpenFlux.Action} {o : List Obs}
    (h : HoldsNewest vm) (hstep : vm.step a = some (vm', o)) : HoldsNewest vm' :=
  step_preserves .congr (fun f _ => holdsNewest_teardown _ f)
    (fun tunnel _ => holdsNewest_launchStart _ tunnel) (fun hj _ h => h.setJob hj rfl)
    (fun hj _ h => h.setJob hj rfl) hstep h

end ViewModel

namespace App

/-! ## The property -/

/-- A start job newer than the report's session exists. -/
def outdated (app : App) (r : Report) : Bool :=
  (List.range app.vm.jobs.length).any fun j =>
    (app.vm.jobs[j]?).any Job.isStart && r.session.all (· < j)

/-- The view model holds a session newer than the report's. -/
def holdsNewer (app : App) (r : Report) : Bool :=
  app.vm.startJob.any fun j => r.session.all (· < j)

/-- The main thread gets to this report: in the callback that the supervisor posted, or in the
    collector. -/
def Handles (app : App) (a : Action) (r : Report) : Prop :=
  a = .runCallback ∧ app.handler.head? = some r ∨ a = .collect ∧ app.bus.head? = some r

/-- An outdated report neither makes the service stop nor changes the view model. -/
def IgnoresOutdated (app : App) : Prop :=
  ∀ a app' o r, app.step a = some (app', o) → app.Handles a r →
    app.outdated r → app'.vm = app.vm ∧ app'.supervisors = app.supervisors

/-! ## Runs -/

/-- The condition on the view model's jobs. -/
def publishesHeld (app : App) : Action → Bool
  | .view a => app.vm.publishesHeld a
  | _ => true

/-- The invariants of the view model. -/
structure Tracked (vm : ViewModel) : Prop where
  chain : vm.Chain
  owned : vm.Owned
  newest : vm.HoldsNewest

/-- A run of the app takes the view model from step to step. -/
theorem Tracked.step {app app' : App} {a : Action} {o : List Obs} (h : Tracked app.vm)
    (hok : app.publishesHeld a) (hstep : app.step a = some (app', o)) : Tracked app'.vm := by
  cases step_stepped hstep with
  | view _ hview =>
    rw [foldl_serve_vm]
    exact ⟨ViewModel.chain_step hview h.chain, h.owned.step hok hview, h.newest.step hview⟩
  | collect _ _ hcollect =>
    exact ⟨ViewModel.chain_step hcollect h.chain, h.owned.step rfl hcollect,
      h.newest.step hcollect⟩
  | _ => exact h

/-- If an outdated report finds a start held, it is that of a newer session. -/
theorem holdsNewer_eq_false_iff {app : App} {r : Report} (h : app.vm.HoldsNewest)
    (hout : app.outdated r) : app.holdsNewer r = false ↔ app.vm.startJob = none := by
  cases hstart : app.vm.startJob with
  | none => simp [holdsNewer, hstart]
  | some j =>
    simp only [outdated, List.any_eq_true, List.mem_range, Bool.and_eq_true] at hout
    obtain ⟨k, -, hk, hlt⟩ := hout
    obtain ⟨job, hjob, hkind⟩ := (Option.any_eq_true _ _).mp hk
    -- the start that outdates the report is at most as new as the one held
    have hle := h hstart hjob hkind
    have hnewer : app.holdsNewer r := by
      simp only [holdsNewer, hstart, Option.any_some]
      cases hsession : r.session with
      | none => rfl
      | some i =>
        have hik : i < k := by simpa [hsession] using hlt
        simp only [Option.all_some, decide_eq_true_eq]
        omega
    simp [hnewer]

/-- The callback starts a `stop` in the supervisor. -/
theorem supervisors_ne_of_launch {app : App} {s : Binder} {sup : Supervisor}
    (hsup : app.supervisors[s]? = some sup) (t : Supervisor.Thread) :
    app.supervisors.set s (sup.launch t) ≠ app.supervisors := by
  intro heq
  have hlt := (List.getElem?_eq_some_iff.mp hsup).1
  have hsame : sup.launch t = sup := by
    have hget := congrArg (·[s]?) heq
    rw [List.getElem?_set_self hlt, hsup] at hget
    exact Option.some.inj hget
  have hlen := congrArg (·.threads.length) hsame
  simp [Supervisor.launch] at hlen

/-- In every run in which, while `startJob` is empty, starts publish only as long as a teardown
    has still to publish: an outdated report is ignored if and only if the collector handles
    it while no newer session is held or none is shown.  The callback never ignores one. -/
theorem reports_hit_own_session (repo : TunnelRepository) (app : App) (tr : List Obs)
    (h : (machine repo).Reach (fun app a => app.publishesHeld a) app tr) (a : Action)
    (app' : App) (o : List Obs) (r : Report) (hstep : app.step a = some (app', o))
    (hhandles : app.Handles a r) (hout : app.outdated r) :
    app'.vm = app.vm ∧ app'.supervisors = app.supervisors ↔
      a = .collect ∧ (app.holdsNewer r = false ∨ app.vm.active.isActive = false) := by
  -- three facts about every run: the chain of jobs, who is shown, and which start is the newest
  have hinv : Tracked app.vm := by
    refine Machine.Reach.inv (P := fun app _ => Tracked app.vm) ?_ ?_ h
    · refine ⟨ViewModel.chain_init repo, ViewModel.owned_init repo, ?_⟩
      intro j k job hstart
      cases hstart
    · intro app tr a app' o hinv hok hstep
      exact hinv.step hok hstep
  rw [holdsNewer_eq_false_iff hinv.newest hout]
  cases step_stepped hstep with
  -- the callback always launches a `stopEverything` on its service
  | runCallback _ _ hsup =>
    constructor
    · rintro ⟨-, hsame⟩
      exact (supervisors_ne_of_launch hsup _ hsame).elim
    · rintro ⟨ha, -⟩
      cases ha
  -- the collector changes the view model or nothing at all
  | collect _ _ hcollect =>
    obtain ⟨rfl, -⟩ := Prod.mk.inj (Option.some.inj hcollect)
    have hiff := ViewModel.nativeProcessExited_eq_iff hinv.chain hinv.owned
    constructor
    · rintro ⟨hsame, -⟩
      exact ⟨rfl, (hiff _).mp hsame⟩
    · rintro ⟨-, hspared⟩
      exact ⟨(hiff _).mpr hspared, rfl⟩
  -- no other action handles a report
  | _ => obtain ⟨ha, -⟩ | ⟨ha, -⟩ := hhandles <;> cases ha

/-! ### Concrete runs -/

/-- A session is started, and its process exits while the view model waits for it: the
    report is posted. -/
def untilPosted : List Action :=
  [.serviceCreated "key", .view (.startTunnel ViewModel.demoTunnel)] ++
    (ViewModel.jobSteps 0 6).map .view ++ [.view (.onServiceConnected 0)] ++
    (ViewModel.jobSteps 0 4).map .view ++ (Supervisor.threadSteps 0 11).map (.native 0) ++
    [.native 0 (.exit 0 1)] ++ (Supervisor.threadSteps 1 13).map (.native 0)

/-- The main thread handles the callback; then the event is on the bus. -/
def untilDispatched : List Action :=
  [.runCallback] ++ (Supervisor.threadSteps 2 7).map (.native 0) ++ [.finishCallback]

/-- The restart, up to where the teardown of the first session has published `Idle` and the
    second start has still to join it. -/
def untilTornDown : List Action :=
  [.view (.startTunnel ViewModel.demoTunnel)] ++ (ViewModel.jobSteps 1 6).map .view ++
    (Supervisor.threadSteps 3 6).map (.native 0) ++ (ViewModel.jobSteps 1 2).map .view ++
    (Supervisor.threadSteps 4 6).map (.native 0) ++ (ViewModel.jobSteps 1 6).map .view

/-- The collector gets to a report of the first session while a second one exists. -/
def collectsOutdated (app : App) : Bool :=
  app.bus.head?.any (fun r => r.session = some 0 && app.outdated r) &&
    (app.step .collect).isSome

/-- What the test means. -/
theorem exists_of_collectsOutdated {app : App} (h : app.collectsOutdated) :
    ∃ r app' o, app.step .collect = some (app', o) ∧ app.Handles .collect r ∧
      r.session = some 0 ∧ app.outdated r := by
  obtain ⟨hbus, hcollect⟩ := Bool.and_eq_true_iff.mp h
  obtain ⟨r, hr, hreport⟩ := (Option.any_eq_true _ _).mp hbus
  obtain ⟨hsession, hout⟩ := Bool.and_eq_true_iff.mp hreport
  obtain ⟨⟨app', o⟩, hstep⟩ := Option.isSome_iff_exists.mp hcollect
  exact ⟨r, app', o, hstep, .inr ⟨rfl, hr⟩, of_decide_eq_true hsession, hout⟩

/-- A report of the first session is ignored although the view model holds a second one, which
    is not shown yet; and it is ignored after the second one has been stopped, while it is still
    shown. -/
theorem reports_hit_own_session_restart :
    (∃ app tr r app' o, (machine {}).Reach (fun app a => app.publishesHeld a) app tr ∧
      app.step .collect = some (app', o) ∧ app.Handles .collect r ∧ r.session = some 0 ∧
      app.outdated r ∧ app.vm.startJob = some 2 ∧
      app'.vm = app.vm ∧ app'.supervisors = app.supervisors) ∧
    ∃ app tr r app' o, (machine {}).Reach (fun app a => app.publishesHeld a) app tr ∧
      app.step .collect = some (app', o) ∧ app.Handles .collect r ∧ r.session = some 0 ∧
      app.outdated r ∧ app.vm.active.isActive ∧
      app'.vm = app.vm ∧ app'.supervisors = app.supervisors := by
  constructor
  · -- the teardown of the first session has shown `Idle`, and the second start waits for it
    obtain ⟨app, tr, hrun, happ⟩ := Machine.exists_reach (machine {})
      (fun app a => app.publishesHeld a)
      (fun app _ => app.collectsOutdated &&
        decide (app.vm.startJob = some 2 ∧ app.vm.active.isActive = false))
      (untilPosted ++ untilDispatched ++ untilTornDown) (by decide +kernel)
    obtain ⟨hcollects, hstate⟩ := Bool.and_eq_true_iff.mp happ
    obtain ⟨r, app', o, hstep, hhandles, hsession, hout⟩ := exists_of_collectsOutdated hcollects
    obtain ⟨hstart, hactive⟩ := of_decide_eq_true hstate
    have hignored := (reports_hit_own_session _ _ _ hrun _ _ _ _ hstep hhandles hout).mpr
      ⟨rfl, .inr hactive⟩
    exact ⟨app, tr, r, app', o, hrun, hstep, hhandles, hsession, hout, hstart, hignored⟩
  · -- the second session was stopped again, and the first one is still shown
    obtain ⟨app, tr, hrun, happ⟩ := Machine.exists_reach (machine {})
      (fun app a => app.publishesHeld a)
      (fun app _ => app.collectsOutdated &&
        decide (app.vm.startJob = none ∧ app.vm.active.isActive))
      (untilPosted ++ untilDispatched ++
        [.view (.startTunnel ViewModel.demoTunnel), .view .stop]) (by decide +kernel)
    obtain ⟨hcollects, hstate⟩ := Bool.and_eq_true_iff.mp happ
    obtain ⟨r, app', o, hstep, hhandles, hsession, hout⟩ := exists_of_collectsOutdated hcollects
    obtain ⟨hstart, hactive⟩ := of_decide_eq_true hstate
    have hnone : app.holdsNewer r = false := by simp [holdsNewer, hstart]
    have hignored := (reports_hit_own_session _ _ _ hrun _ _ _ _ hstep hhandles hout).mpr
      ⟨rfl, .inl hnone⟩
    exact ⟨app, tr, r, app', o, hrun, hstep, hhandles, hsession, hout, hactive, hignored⟩

/-- The user restarts the tunnel after the report was posted and before the main thread gets
    to it: the report of the first session cancels the start of the second. -/
theorem report_hits_next_session :
    ∃ app tr, (machine {}).Reachable app tr ∧ ¬ IgnoresOutdated app := by
  obtain ⟨app, tr, hrun, happ⟩ := Machine.exists_reach (machine {}) (fun _ _ => True)
    (fun app _ => app.bus.head?.any app.outdated &&
      (app.step .collect).any fun r => r.1.vm.startJob ≠ app.vm.startJob)
    (untilPosted ++ [.view (.startTunnel ViewModel.demoTunnel)] ++ untilDispatched)
    (by decide +kernel)
  obtain ⟨hbus, hcollect⟩ := Bool.and_eq_true_iff.mp happ
  obtain ⟨r, hr, hout⟩ := (Option.any_eq_true _ _).mp hbus
  obtain ⟨⟨app', o⟩, hstep, hne⟩ := (Option.any_eq_true _ _).mp hcollect
  refine ⟨app, tr, hrun, ?_⟩
  -- collecting the outdated report replaces the start job of the second session
  intro hignores
  have hvm := (hignores .collect app' o r hstep (.inr ⟨rfl, hr⟩) hout).1
  have hne : app'.vm.startJob ≠ app.vm.startJob := of_decide_eq_true hne
  rw [hvm] at hne
  exact hne rfl

end App

end OpenFlux
