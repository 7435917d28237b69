import OpenFlux.ForStd.List
import OpenFlux.Model.ViewModel

/-!
# What a step of the view model can do to its jobs

Every invariant over runs of `ViewModel.machine` is about the job table.  A step changes it
in four ways only: a job moves its own program counter, `teardown` cancels the start and
appends a teardown job, and `launchStart` appends a start job.  This file says so once:

- `step_main`: a main-thread call is at most one `teardown` followed by at most one
  `launchStart`
- `jobStep_cases`: a job step is one step of its body followed by its effect
- `perform_sameJobs`, `teardown_sameRest`: of the effects only `Effect.teardown` touches other
  jobs, and it touches nothing else

The rest are the lookups in the table after each of the four.
-/

namespace OpenFlux

/-- The effect is a call of `teardown`. -/
def Effect.isTeardown : Effect → Bool
  | .teardown _ => true
  | _ => false

/-- The calls on the service are no `teardown`. -/
@[simp] theorem Phase.call_isTeardown (phase : Phase) (s : Binder) (tunnel : Tunnel) :
    (phase.call s tunnel).isTeardown = false := by
  cases phase <;> rfl

namespace ViewModel

/-- The job table and the two fields that point into it are the same. -/
structure SameJobs (vm vm' : ViewModel) : Prop where
  jobs : vm'.jobs = vm.jobs
  startJob : vm'.startJob = vm.startJob
  teardownJob : vm'.teardownJob = vm.teardownJob

/-- A step that does nothing. -/
theorem SameJobs.refl (vm : ViewModel) : SameJobs vm vm := ⟨rfl, rfl, rfl⟩

/-- What `teardown` leaves alone. -/
structure SameRest (vm vm' : ViewModel) : Prop where
  repo : vm'.repo = vm.repo
  service : vm'.service = vm.service
  bindRequested : vm'.bindRequested = vm.bindRequested

/-! ## Effects -/

/-- Only `Effect.teardown` touches the job table. -/
theorem perform_sameJobs (vm : ViewModel) {eff : Effect} (h : eff.isTeardown = false) :
    SameJobs vm (vm.perform eff) := by
  cases eff <;> first | exact ⟨rfl, rfl, rfl⟩ | simp [Effect.isTeardown] at h

/-- The effects of a main-thread call. -/
def mainEffect : Effect → Bool
  | .publish _ | .fail _ | .teardown _ => true
  | _ => false

/-- The job table after a `teardown` that may or may not have been called, as `o` records. -/
def MaybeTeardown (vm vm' : ViewModel) (o : List Obs) : Prop :=
  SameJobs vm vm' ∨ (∃ x ∈ o, x.2.isTeardown) ∧ ∃ f, SameJobs (vm.teardown f) vm'

/-- The call starts a session: `startTunnel` on a tunnel that is not running yet. -/
def createsSession (vm : ViewModel) : Action → Bool
  | .startTunnel tunnel => vm.active ≠ .running tunnel
  | .startCurrent =>
    (vm.active.tunnel <|> vm.selected <|> vm.repo.getSelected).any (vm.active ≠ .running ·)
  | _ => false

/-- A main-thread call is at most one `teardown` and then at most one `launchStart`. -/
structure MainMove (vm : ViewModel) (a : Action) (vm' : ViewModel) (o : List Obs) : Prop where
  obs : ∀ x ∈ o, x.1 = .main ∧ mainEffect x.2
  bindRequested : vm'.bindRequested = vm.bindRequested
  jobs : ∃ vm₁, MaybeTeardown vm vm₁ o ∧
    (SameJobs vm₁ vm' ∨ vm.createsSession a ∧ ∃ tunnel, SameJobs (vm₁.launchStart tunnel) vm')

/-- A main-thread call that leaves the job table alone. -/
theorem MainMove.same {vm vm' : ViewModel} {a : Action} {o : List Obs} (h : SameJobs vm vm')
    (hbind : vm'.bindRequested = vm.bindRequested)
    (hobs : ∀ x ∈ o, x.1 = .main ∧ mainEffect x.2) : MainMove vm a vm' o :=
  ⟨hobs, hbind, vm', .inl h, .inl (.refl _)⟩

/-- Cancelling a start writes the job table only. -/
private theorem cancelStart_sameRest (vm : ViewModel) : SameRest vm vm.cancelStart := by
  unfold cancelStart
  split <;> exact ⟨rfl, rfl, rfl⟩

/-- A `teardown` writes the jobs only. -/
theorem teardown_sameRest (vm : ViewModel) (f : TunnelState) : SameRest vm (vm.teardown f) := by
  obtain ⟨hrepo, hservice, hbind⟩ := vm.cancelStart_sameRest
  exact ⟨hrepo, hservice, hbind⟩

/-- A `stop` writes the jobs only. -/
theorem stopIf_sameRest (vm : ViewModel) (cond : Bool) : SameRest vm (vm.stopIf cond).1 := by
  cases cond with
  | false => exact ⟨rfl, rfl, rfl⟩
  | true => exact vm.teardown_sameRest .idle

/-- A `stop` is recorded as the main thread's. -/
theorem stopIf_obs (vm : ViewModel) (cond : Bool) :
    ∀ x ∈ (vm.stopIf cond).2, x.1 = .main ∧ mainEffect x.2 := by
  cases cond <;> simp [stopIf, stop, act, record, mainEffect]

/-- A `stop` is a `teardown` that may or may not be called. -/
theorem stopIf_maybeTeardown (vm : ViewModel) (cond : Bool) (o : List Obs) :
    MaybeTeardown vm (vm.stopIf cond).1 ((vm.stopIf cond).2 ++ o) := by
  cases cond with
  | false => exact .inl (.refl _)
  | true =>
    refine .inr ⟨⟨(.main, .teardown .idle), ?_, rfl⟩, .idle, .refl _⟩
    simp [stopIf, stop, act, record]

/-- A main-thread call that stops when `c` holds and then changes other fields only. -/
theorem MainMove.stopIf {vm vm' : ViewModel} {a : Action} {c : Bool}
    (hjobs : SameJobs (vm.stopIf c).1 vm')
    (hbind : vm'.bindRequested = (vm.stopIf c).1.bindRequested) :
    MainMove vm a vm' (vm.stopIf c).2 := by
  refine ⟨vm.stopIf_obs c, hbind.trans (vm.stopIf_sameRest c).bindRequested, _, ?_,
    .inl hjobs⟩
  simpa using vm.stopIf_maybeTeardown c []

/-- `startTunnel` is a `stop`, if a session is shown, and a new start job. -/
theorem startTunnel_main (vm : ViewModel) {a : Action} {tunnel : Tunnel}
    (ha : vm.active ≠ .running tunnel → vm.createsSession a) :
    MainMove vm a (vm.startTunnel tunnel).1 (vm.startTunnel tunnel).2 := by
  unfold startTunnel
  split
  · exact .same (.refl _) rfl (by simp)
  · rename_i hne
    -- the fields written between the two are not part of the job table
    refine ⟨?_, (vm.stopIf_sameRest _).bindRequested, _, vm.stopIf_maybeTeardown _ _,
      .inr ⟨ha hne, tunnel, ⟨rfl, rfl, rfl⟩⟩⟩
    intro x hx
    obtain hx | hx := List.mem_append.mp hx
    · exact vm.stopIf_obs _ x hx
    · obtain rfl := List.mem_singleton.mp hx
      exact ⟨rfl, rfl⟩

/-- `fail` tears down, unless that is under way already. -/
private theorem fail_main (vm : ViewModel) (a : Action) (message : String) :
    MainMove vm a (vm.fail message).1 (vm.fail message).2 := by
  unfold fail
  split
  · exact .same (.refl _) rfl (by simp [mainEffect])
  · refine ⟨by simp [mainEffect], (vm.teardown_sameRest _).bindRequested, _,
      .inr ⟨⟨(.main, .teardown (.error message)), by simp, rfl⟩, _, .refl _⟩, .inl (.refl _)⟩

/-- What a main-thread call or callback can do to the job table. -/
theorem step_main {vm vm' : ViewModel} {a : Action} {o : List Obs}
    (ha : ∀ id env, a ≠ .job id env) (h : vm.step a = some (vm', o)) : MainMove vm a vm' o := by
  cases a with
  | startTunnel tunnel =>
    obtain ⟨rfl, rfl⟩ := Prod.mk.inj (Option.some.inj h)
    apply startTunnel_main
    intro hne
    simpa [createsSession] using hne
  | startCurrent =>
    simp only [step, startCurrent, Option.some.injEq] at h
    -- without a tunnel to start nothing happens
    split at h
    · obtain ⟨rfl, rfl⟩ := Prod.mk.inj h
      exact .same (.refl _) rfl (by simp)
    · rename_i tunnel htunnel
      obtain ⟨rfl, rfl⟩ := Prod.mk.inj h
      apply startTunnel_main
      intro hne
      rw [createsSession, htunnel]
      simpa using hne
  | stop =>
    obtain ⟨rfl, rfl⟩ := Prod.mk.inj (Option.some.inj h)
    exact MainMove.stopIf (c := true) (.refl _) rfl
  | selectTunnel tunnel =>
    obtain ⟨rfl, rfl⟩ := Prod.mk.inj (Option.some.inj h)
    exact .stopIf ⟨rfl, rfl, rfl⟩ rfl
  | addTunnel tunnel =>
    simp only [step, addTunnel, Option.some.injEq] at h
    split at h <;> obtain ⟨rfl, rfl⟩ := Prod.mk.inj h <;>
      exact .same ⟨rfl, rfl, rfl⟩ rfl (by simp)
  | removeTunnel tunnel =>
    obtain ⟨rfl, rfl⟩ := Prod.mk.inj (Option.some.inj h)
    exact .stopIf ⟨rfl, rfl, rfl⟩ rfl
  | updateTunnel old new =>
    simp only [step, updateTunnel, Option.some.injEq] at h
    split at h
    · obtain ⟨rfl, rfl⟩ := Prod.mk.inj h
      exact .same (.refl _) rfl (by simp)
    · obtain ⟨rfl, rfl⟩ := Prod.mk.inj h
      exact .stopIf ⟨rfl, rfl, rfl⟩ rfl
  | onServiceConnected s =>
    obtain ⟨rfl, rfl⟩ := Prod.mk.inj (Option.some.inj h)
    exact .same ⟨rfl, rfl, rfl⟩ rfl (by simp)
  | onServiceDisconnected =>
    -- writes `service` and perhaps `_active`, never a job
    simp only [step, onServiceDisconnected, Option.some.injEq] at h
    split at h <;> obtain ⟨rfl, rfl⟩ := Prod.mk.inj h <;>
      exact .same ⟨rfl, rfl, rfl⟩ rfl (by simp [mainEffect])
  | nativeProcessExited message =>
    -- only a session that connects or runs can fail
    simp only [step, nativeProcessExited, Option.some.injEq] at h
    split at h
    · obtain ⟨rfl, rfl⟩ := Prod.mk.inj h
      exact vm.fail_main _ message
    · obtain ⟨rfl, rfl⟩ := Prod.mk.inj h
      exact .same (.refl _) rfl (by simp)
  | job id env => exact absurd rfl (ha id env)

/-- `startTunnel` on a tunnel that is not running yet: `stop` if a session is shown, then a new
    start job. -/
theorem startTunnel_jobs {vm : ViewModel} {tunnel : Tunnel} (h : vm.active ≠ .running tunnel) :
    SameJobs ((vm.stopIf vm.active.isActive).1.launchStart tunnel) (vm.startTunnel tunnel).1 := by
  rw [startTunnel, if_neg h]
  exact ⟨rfl, rfl, rfl⟩

/-- What a call does that starts a session. -/
theorem step_createsSession {vm vm' : ViewModel} {a : Action} {o : List Obs}
    (ha : vm.createsSession a) (h : vm.step a = some (vm', o)) :
    ∃ tunnel, SameJobs ((vm.stopIf vm.active.isActive).1.launchStart tunnel) vm' := by
  cases a with
  | startTunnel tunnel =>
    obtain ⟨rfl, -⟩ := Prod.mk.inj (Option.some.inj h)
    exact ⟨tunnel, startTunnel_jobs (of_decide_eq_true ha)⟩
  | startCurrent =>
    obtain ⟨tunnel, htunnel, hne⟩ := (Option.any_eq_true _ _).mp ha
    simp only [step, startCurrent, htunnel, Option.some.injEq] at h
    obtain ⟨rfl, -⟩ := Prod.mk.inj h
    exact ⟨tunnel, startTunnel_jobs (of_decide_eq_true hne)⟩
  | _ => contradiction

/-! ## Job steps -/

/-- A job step: one step of the job's body and then its effect. -/
theorem jobStep_cases {vm vm' : ViewModel} {id : Nat} {env : Env} {o : List Obs}
    (h : vm.jobStep id env = some (vm', o)) :
    (∃ j pc eff, vm.jobs[id]? = some (.start j) ∧ vm.startNext j env = some (pc, eff) ∧
      vm' = (vm.setJob id (.start { j with pc })).perform eff ∧ o = record (.start id) eff) ∨
    (∃ j pc eff, vm.jobs[id]? = some (.teardown j) ∧ vm.teardownNext j env = some (pc, eff) ∧
      vm' = (vm.setJob id (.teardown { j with pc })).perform eff ∧
      o = record (.teardown id) eff) := by
  unfold jobStep at h
  -- no such job, a start, or a teardown
  split at h
  · contradiction
  · rename_i j hj
    obtain ⟨⟨pc, eff⟩, hnext, hact⟩ := Option.map_eq_some_iff.mp h
    obtain ⟨rfl, rfl⟩ := Prod.mk.inj hact
    exact .inl ⟨j, pc, eff, hj, hnext, rfl, rfl⟩
  · rename_i j hj
    obtain ⟨⟨pc, eff⟩, hnext, hact⟩ := Option.map_eq_some_iff.mp h
    obtain ⟨rfl, rfl⟩ := Prod.mk.inj hact
    exact .inr ⟨j, pc, eff, hj, hnext, rfl, rfl⟩

/-- A step records its effect, unless it has none. -/
theorem mem_record {who : Actor} {eff : Effect} {x : Obs} (h : x ∈ record who eff) :
    x = (who, eff) ∧ eff ≠ .skip := by
  unfold record at h
  split at h
  · simp at h
  · rename_i hne
    exact ⟨List.mem_singleton.mp h, hne⟩

/-- Who records an effect: the main thread one of its own, a job the effect of the step its
    body takes. -/
theorem step_obs {vm vm' : ViewModel} {a : Action} {o : List Obs} {x : Obs}
    (h : vm.step a = some (vm', o)) (hx : x ∈ o) :
    (x.1 = .main ∧ mainEffect x.2) ∨
    (∃ id env j pc, a = .job id env ∧ x.1 = .start id ∧ x.2 ≠ .skip ∧
      vm.jobs[id]? = some (.start j) ∧ vm.startNext j env = some (pc, x.2)) ∨
    (∃ id env j pc, a = .job id env ∧ x.1 = .teardown id ∧ x.2 ≠ .skip ∧
      vm.jobs[id]? = some (.teardown j) ∧ vm.teardownNext j env = some (pc, x.2)) := by
  by_cases ha : ∃ id env, a = .job id env
  · obtain ⟨id, env, rfl⟩ := ha
    obtain ⟨j, pc, eff, hj, hnext, -, rfl⟩ | ⟨j, pc, eff, hj, hnext, -, rfl⟩ := jobStep_cases h
    · obtain ⟨rfl, hne⟩ := mem_record hx
      exact .inr (.inl ⟨id, env, j, pc, rfl, rfl, hne, hj, hnext⟩)
    · obtain ⟨rfl, hne⟩ := mem_record hx
      exact .inr (.inr ⟨id, env, j, pc, rfl, rfl, hne, hj, hnext⟩)
  · exact .inl ((step_main (by simpa using ha) h).obs x hx)

/-- Only a start that has not finished makes a step. -/
theorem startNext_not_finished {vm : ViewModel} {j : StartJob} {env : Env}
    {r : StartPc × Effect} (h : vm.startNext j env = some r) : j.pc ≠ .finished := by
  intro hpc
  simp [startNext, hpc] at h

/-- Only the last step of `fail` in a start job calls `teardown`. -/
theorem startNext_teardown {vm : ViewModel} {j : StartJob} {env : Env} {pc : StartPc}
    {eff : Effect} (h : vm.startNext j env = some (pc, eff)) (heff : eff.isTeardown) :
    pc = .finished := by
  unfold startNext at h
  repeat' split at h
  all_goals cases h
  all_goals first | rfl | cases heff | simp at heff

/-- A teardown job's body never calls `teardown`. -/
theorem teardownNext_not_teardown {vm : ViewModel} {j : TeardownJob} {env : Env}
    {pc : TeardownPc} {eff : Effect} (h : vm.teardownNext j env = some (pc, eff)) :
    eff.isTeardown = false := by
  unfold teardownNext at h
  repeat' split at h
  all_goals cases h
  all_goals rfl

section Preserves

variable {P : ViewModel → Prop} (hsame : ∀ {vm vm'}, SameJobs vm vm' → P vm → P vm')
  (hteardown : ∀ {vm} f, P vm → P (vm.teardown f))

include hsame hteardown

/-- A property of the job table that `teardown` keeps is kept by every effect. -/
theorem perform_preserves {vm : ViewModel} (eff : Effect) (hP : P vm) : P (vm.perform eff) := by
  cases heff : eff.isTeardown with
  | false => exact hsame (perform_sameJobs vm heff) hP
  | true =>
    cases eff <;> simp [Effect.isTeardown] at heff
    exact hteardown _ hP

variable (hlaunch : ∀ {vm} tunnel, P vm → P (vm.launchStart tunnel))

include hlaunch

/-- A property of the job table that `teardown` and `launchStart` keep is kept by every
    main-thread call. -/
theorem MainMove.preserves {vm vm' : ViewModel} {a : Action} {o : List Obs}
    (h : MainMove vm a vm' o) (hP : P vm) : P vm' := by
  obtain ⟨vm₁, hvm₁, hvm'⟩ := h.jobs
  -- first a teardown, perhaps, then a new start, perhaps
  have hP₁ : P vm₁ := by
    obtain hsame₁ | ⟨-, f, hsame₁⟩ := hvm₁
    · exact hsame hsame₁ hP
    · exact hsame hsame₁ (hteardown f hP)
  obtain hsame' | ⟨-, tunnel, hsame'⟩ := hvm'
  · exact hsame hsame' hP₁
  · exact hsame hsame' (hlaunch tunnel hP₁)

/-- A property of the job table that the four changes keep is kept by every step. -/
theorem step_preserves
    (hstart : ∀ {vm id j env pc eff}, vm.jobs[id]? = some (.start j) →
      vm.startNext j env = some (pc, eff) → P vm → P (vm.setJob id (.start { j with pc })))
    (hteardownJob : ∀ {vm id j env pc eff}, vm.jobs[id]? = some (.teardown j) →
      vm.teardownNext j env = some (pc, eff) → P vm →
      P (vm.setJob id (.teardown { j with pc })))
    {vm vm' : ViewModel} {a : Action} {o : List Obs} (h : vm.step a = some (vm', o))
    (hP : P vm) : P vm' := by
  by_cases ha : ∃ id env, a = .job id env
  · obtain ⟨id, env, rfl⟩ := ha
    -- a coroutine moves and has its effect; the main thread does one of a few things
    obtain ⟨j, pc, eff, hj, hnext, rfl, -⟩ | ⟨j, pc, eff, hj, hnext, rfl, -⟩ := jobStep_cases h
    · exact perform_preserves hsame hteardown eff (hstart hj hnext hP)
    · exact perform_preserves hsame hteardown eff (hteardownJob hj hnext hP)
  · exact (step_main (by simpa using ha) h).preserves hsame hteardown hlaunch hP

end Preserves

/-! ## Lookups in the job table -/

/-- Only the job in `startJob` is cancelled. -/
theorem cancelStart_jobs (vm : ViewModel) (k : Nat) :
    vm.cancelStart.jobs[k]? =
      (vm.jobs[k]?).map fun job => if vm.startJob = some k then job.cancel else job := by
  unfold cancelStart
  split
  · rename_i h
    simp [h]
  · rename_i id h
    simp only [h, Option.some.injEq, List.getElem?_modify]
    split <;> rfl

/-- No job is added or removed. -/
@[simp] theorem cancelStart_length (vm : ViewModel) :
    vm.cancelStart.jobs.length = vm.jobs.length := by
  unfold cancelStart
  split <;> simp

/-- The teardown jobs are not touched. -/
@[simp] theorem cancelStart_teardownJob (vm : ViewModel) :
    vm.cancelStart.teardownJob = vm.teardownJob := by
  unfold cancelStart
  split <;> rfl

/-- The job table after `teardown`: the start is cancelled and a teardown job is new. -/
theorem teardown_jobs (vm : ViewModel) (f : TunnelState) :
    (vm.teardown f).jobs =
      vm.cancelStart.jobs ++ [.teardown { finalState := f, previous := vm.teardownJob }] := by
  simp [teardown]

/-- The new teardown job is held. -/
@[simp] theorem teardown_teardownJob (vm : ViewModel) (f : TunnelState) :
    (vm.teardown f).teardownJob = some vm.jobs.length := by
  simp [teardown]

/-- A job of the table after `teardown` was there before, and cancelled if it is the
    start, or it is the new teardown job. -/
theorem teardown_job {vm : ViewModel} {f : TunnelState} {k : Nat} {job : Job}
    (h : (vm.teardown f).jobs[k]? = some job) :
    (∃ job₀, vm.jobs[k]? = some job₀ ∧
      job = if vm.startJob = some k then job₀.cancel else job₀) ∨
    k = vm.jobs.length ∧ job = .teardown { finalState := f, previous := vm.teardownJob } := by
  rw [teardown_jobs, List.getElem?_concat_eq_some, cancelStart_jobs, cancelStart_length] at h
  obtain h | hnew := h
  · obtain ⟨job₀, hjob₀, hjob⟩ := Option.map_eq_some_iff.mp h
    exact .inl ⟨job₀, hjob₀, hjob.symm⟩
  · exact .inr hnew

/-- A job keeps its place in a `teardown`. -/
theorem teardown_job_of {vm : ViewModel} (f : TunnelState) {k : Nat} {job : Job}
    (h : vm.jobs[k]? = some job) :
    (vm.teardown f).jobs[k]? = some (if vm.startJob = some k then job.cancel else job) := by
  rw [teardown_jobs]
  apply List.getElem?_append_of_eq_some
  rw [cancelStart_jobs, h]
  rfl

/-- A job of the table after `teardown`, up to its cancellation. -/
theorem mem_teardown_jobs {vm : ViewModel} {f : TunnelState} {job : Job}
    (h : job ∈ (vm.teardown f).jobs) :
    (∃ job₀ ∈ vm.jobs, job = job₀ ∨ job = job₀.cancel) ∨
      job = .teardown { finalState := f, previous := vm.teardownJob } := by
  obtain ⟨k, hk⟩ := List.mem_iff_getElem?.mp h
  obtain ⟨job₀, hjob₀, rfl⟩ | ⟨-, rfl⟩ := teardown_job hk
  · refine .inl ⟨job₀, List.mem_of_getElem? hjob₀, ?_⟩
    split
    · exact .inr rfl
    · exact .inl rfl
  · exact .inr rfl

/-- A job survives `teardown`, up to its cancellation. -/
theorem exists_mem_teardown_jobs {vm : ViewModel} (f : TunnelState) {job : Job}
    (h : job ∈ vm.jobs) : ∃ job' ∈ (vm.teardown f).jobs, job' = job ∨ job' = job.cancel := by
  obtain ⟨k, hk⟩ := List.mem_iff_getElem?.mp h
  refine ⟨_, List.mem_of_getElem? (teardown_job_of f hk), ?_⟩
  split
  · exact .inr rfl
  · exact .inl rfl

/-- A job of the table after `launchStart` was there before or is the new start job. -/
theorem launchStart_job {vm : ViewModel} {tunnel : Tunnel} {k : Nat} {job : Job}
    (h : (vm.launchStart tunnel).jobs[k]? = some job) :
    vm.jobs[k]? = some job ∨
    k = vm.jobs.length ∧ job = .start { tunnel, pendingTeardown := vm.teardownJob } := by
  rwa [launchStart, List.getElem?_concat_eq_some] at h

/-- A job keeps its place when a start is launched. -/
theorem launchStart_job_of {vm : ViewModel} (tunnel : Tunnel) {k : Nat} {job : Job}
    (h : vm.jobs[k]? = some job) : (vm.launchStart tunnel).jobs[k]? = some job :=
  List.getElem?_append_of_eq_some h

/-- A job of the table after a job step is the one that made it, or was there before. -/
theorem setJob_job {vm : ViewModel} {id k : Nat} {new job : Job}
    (h : (vm.setJob id new).jobs[k]? = some job) :
    k = id ∧ job = new ∨ k ≠ id ∧ vm.jobs[k]? = some job := by
  rw [setJob, List.getElem?_set] at h
  split at h
  · rename_i hid
    split at h
    · exact .inl ⟨hid.symm, (Option.some.inj h).symm⟩
    · contradiction
  · rename_i hid
    exact .inr ⟨Ne.symm hid, h⟩

/-- The job that makes the step. -/
theorem setJob_job_self {vm : ViewModel} {id : Nat} {old : Job} (new : Job)
    (h : vm.jobs[id]? = some old) : (vm.setJob id new).jobs[id]? = some new := by
  obtain ⟨hlt, -⟩ := List.getElem?_eq_some_iff.mp h
  simp [setJob, hlt]

/-- The other jobs. -/
theorem setJob_job_of_ne {vm : ViewModel} {id k : Nat} (new : Job) (h : k ≠ id) :
    (vm.setJob id new).jobs[k]? = vm.jobs[k]? := by
  simp [setJob, Ne.symm h]

/-! ## Concrete runs -/

/-- A tunnel for concrete runs. -/
def demoTunnel : Tunnel :=
  { id := 1, name := "demo", transportType := "yandex", transportConnPayload := ["--url", "d"] }

/-- `n` steps of one job in a row. -/
def jobSteps (id n : Nat) : List Action := List.replicate n (.job id {})

end ViewModel

end OpenFlux
