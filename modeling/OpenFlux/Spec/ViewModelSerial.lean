import OpenFlux.Spec.ViewModelStep

/-!
# Starts and teardowns run one after another

A start job waits only for the teardown that was the latest when it was created, and a
teardown only for the one before it.  `Chain` says that these waits form an unbroken chain
over the whole job table: whatever teardown `i` is older than a job `k`, the job `k` waits
for a teardown `t` with `i ≤ t < k`.  Following the chain down (`Chain.completed_of_lt`),
a job that got past its own `join` finds every older teardown completed.

## Key results

- `chain_step`: every step keeps `Chain`
- `start_after_teardown`: along every run, no effect of a teardown comes after a service
  call of a start job that was created after it
-/

namespace OpenFlux

namespace Job

/-- The job that this one joins first. -/
def awaits : Job → Option Nat
  | .start j => j.pendingTeardown
  | .teardown j => j.previous

/-- The job is a teardown. -/
def isTeardown : Job → Bool
  | .start _ => false
  | .teardown _ => true

/-- The job has returned from its `join`.  A start that was cancelled in `join` has not,
    so a completed start does not count. -/
def pastJoin : Job → Bool
  | .start j => match j.pc with
    | .launched | .joining | .finished => false
    | _ => true
  | .teardown j => match j.pc with
    | .launched | .joining => false
    | _ => true

/-- Cancelling a job changes none of these. -/
@[simp] theorem cancel_awaits (job : Job) : job.cancel.awaits = job.awaits := by
  cases job with
  | start j => simp only [cancel]; split <;> rfl
  | teardown j => rfl

@[simp] theorem cancel_isTeardown (job : Job) : job.cancel.isTeardown = job.isTeardown := by
  cases job with
  | start j => simp only [cancel]; split <;> rfl
  | teardown j => rfl

@[simp] theorem cancel_pastJoin (job : Job) : job.cancel.pastJoin = job.pastJoin := by
  cases job with
  | start j => simp only [cancel]; split <;> rfl
  | teardown j => rfl

@[simp] theorem cancel_isCompleted (job : Job) : job.cancel.isCompleted = job.isCompleted := by
  cases job with
  | start j => simp only [cancel]; split <;> rfl
  | teardown j => rfl

/-- A completed teardown has been through its `join`. -/
theorem pastJoin_of_isCompleted {job : Job} (ht : job.isTeardown) (hc : job.isCompleted) :
    job.pastJoin := by
  cases job with
  | start j => simp [isTeardown] at ht
  | teardown j =>
    have hpc : j.pc = .finished := by simpa [isCompleted] using hc
    simp [pastJoin, hpc]

end Job

namespace ViewModel

/-! ## Growth of the job table -/

/-- Every job keeps its place, its kind and what it waits for, and stays completed. -/
def Grows (vm vm' : ViewModel) : Prop :=
  ∀ ⦃k : Nat⦄ ⦃job : Job⦄, vm.jobs[k]? = some job →
    ∃ job', vm'.jobs[k]? = some job' ∧ job'.awaits = job.awaits ∧
      job'.isTeardown = job.isTeardown ∧ (job.isCompleted → job'.isCompleted)

/-- A step that leaves the jobs alone. -/
theorem SameJobs.grows {vm vm' : ViewModel} (h : SameJobs vm vm') : Grows vm vm' := by
  intro k job hjob
  exact ⟨job, by rw [h.jobs, hjob], rfl, rfl, id⟩

/-- One step after another. -/
theorem Grows.trans {vm vm' vm'' : ViewModel} (h : Grows vm vm') (h' : Grows vm' vm'') :
    Grows vm vm'' := by
  intro k job hjob
  obtain ⟨job₁, hjob₁, ha₁, ht₁, hc₁⟩ := h hjob
  obtain ⟨job₂, hjob₂, ha₂, ht₂, hc₂⟩ := h' hjob₁
  exact ⟨job₂, hjob₂, ha₂.trans ha₁, ht₂.trans ht₁, fun hc => hc₂ (hc₁ hc)⟩

/-- A `teardown` cancels a job and adds one. -/
theorem grows_teardown (vm : ViewModel) (f : TunnelState) : Grows vm (vm.teardown f) := by
  intro k job hjob
  refine ⟨_, teardown_job_of f hjob, ?_⟩
  split <;> simp

/-- A start that is launched is added. -/
theorem grows_launchStart (vm : ViewModel) (tunnel : Tunnel) :
    Grows vm (vm.launchStart tunnel) := by
  intro k job hjob
  exact ⟨job, launchStart_job_of tunnel hjob, rfl, rfl, id⟩

/-- A job that has not completed may be replaced by one of the same kind. -/
theorem grows_setJob {vm : ViewModel} {id : Nat} {old new : Job}
    (hold : vm.jobs[id]? = some old) (hnot : old.isCompleted = false)
    (ha : new.awaits = old.awaits) (ht : new.isTeardown = old.isTeardown) :
    Grows vm (vm.setJob id new) := by
  intro k job hjob
  by_cases hk : k = id
  · subst hk
    obtain rfl : old = job := Option.some.inj (hold.symm.trans hjob)
    refine ⟨new, setJob_job_self new hold, ha, ht, ?_⟩
    simp [hnot]
  · exact ⟨job, by rw [setJob_job_of_ne new hk, hjob], rfl, rfl, fun h => h⟩

/-- What a job joined stays completed. -/
theorem Grows.isCompleted {vm vm' : ViewModel} (h : Grows vm vm') {id : Nat}
    (hc : vm.isCompleted id) : vm'.isCompleted id := by
  unfold ViewModel.isCompleted at hc ⊢
  cases hjob : vm.jobs[id]? with
  | none => simp [hjob] at hc
  | some job =>
    obtain ⟨job', hjob', -, -, hcomp⟩ := h hjob
    rw [hjob] at hc
    rw [hjob']
    exact hcomp hc

/-! ## The chain of joins -/

/-- The waits form a chain. -/
structure Chain (vm : ViewModel) : Prop where
  /-- `teardownJob` is the latest teardown. -/
  latest : ∀ {i : Nat} {job : Job}, vm.jobs[i]? = some job → job.isTeardown →
    ∃ t, vm.teardownJob = some t ∧ i ≤ t
  /-- `teardownJob` points to a teardown. -/
  valid : ∀ {t : Nat}, vm.teardownJob = some t → ∃ job, vm.jobs[t]? = some job ∧ job.isTeardown
  /-- A job waits for a teardown at least as new as every teardown older than itself. -/
  covers : ∀ {k i : Nat} {job jobᵢ : Job}, vm.jobs[k]? = some job →
    vm.jobs[i]? = some jobᵢ → jobᵢ.isTeardown → i < k → ∃ t jobₜ, job.awaits = some t ∧
      i ≤ t ∧ t < k ∧ vm.jobs[t]? = some jobₜ ∧ jobₜ.isTeardown
  /-- A job past its `join` found what it waits for completed. -/
  joined : ∀ {k t : Nat} {job : Job}, vm.jobs[k]? = some job → job.pastJoin → job.awaits = some t →
    vm.isCompleted t

/-- A job past its `join` finds every older teardown completed: down the chain of joins,
    by induction on the job. -/
theorem Chain.completed_of_lt {vm : ViewModel} (h : Chain vm) {k i : Nat} {job jobᵢ : Job}
    (hjob : vm.jobs[k]? = some job) (hpast : job.pastJoin) (hjobᵢ : vm.jobs[i]? = some jobᵢ)
    (hᵢ : jobᵢ.isTeardown) (hlt : i < k) : jobᵢ.isCompleted := by
  induction k using Nat.strongRecOn generalizing job with
  | ind k ih =>
    obtain ⟨t, jobₜ, hawaits, hle, htk, hjobₜ, hₜ⟩ := h.covers hjob hjobᵢ hᵢ hlt
    -- the job is past its `join`, so what it waited for has completed
    have hdone : jobₜ.isCompleted := by
      have := h.joined hjob hpast hawaits
      simpa [ViewModel.isCompleted, hjobₜ] using this
    -- which is `i` itself, or a newer teardown that is past its own `join`
    obtain hit | rfl := Nat.lt_or_eq_of_le hle
    · exact ih t htk hjobₜ (Job.pastJoin_of_isCompleted hₜ hdone) hit
    · rwa [Option.some.inj (hjobᵢ.symm.trans hjobₜ)]

/-! ### The four changes keep the chain -/

/-- There are no jobs yet. -/
theorem chain_init (repo : TunnelRepository) : Chain (init repo) where
  latest := by simp [init]
  valid := by simp [init]
  covers := by simp [init]
  joined := by simp [init]

/-- The chain is about the job table only. -/
theorem Chain.congr {vm vm' : ViewModel} (h : Chain vm) (hsame : SameJobs vm vm') :
    Chain vm' := by
  have hc : ∀ t, vm'.isCompleted t = vm.isCompleted t := by
    intro t
    rw [ViewModel.isCompleted, hsame.jobs, ViewModel.isCompleted]
  constructor
  · rw [hsame.jobs, hsame.teardownJob]; exact h.latest
  · rw [hsame.jobs, hsame.teardownJob]; exact h.valid
  · rw [hsame.jobs]; exact h.covers
  · intro k t job hjob hpast hawaits
    rw [hsame.jobs] at hjob
    rw [hc]
    exact h.joined hjob hpast hawaits

/-- The teardown that a job created now waits for covers all teardowns so far. -/
private theorem Chain.covers_new {vm : ViewModel} (h : Chain vm) {i : Nat} {jobᵢ : Job}
    (hjobᵢ : vm.jobs[i]? = some jobᵢ) (hᵢ : jobᵢ.isTeardown) :
    ∃ t jobₜ, vm.teardownJob = some t ∧ i ≤ t ∧ t < vm.jobs.length ∧
      vm.jobs[t]? = some jobₜ ∧ jobₜ.isTeardown := by
  obtain ⟨t, ht, hle⟩ := h.latest hjobᵢ hᵢ
  obtain ⟨jobₜ, hjobₜ, hₜ⟩ := h.valid ht
  obtain ⟨hlt, -⟩ := List.getElem?_eq_some_iff.mp hjobₜ
  exact ⟨t, jobₜ, ht, hle, hlt, hjobₜ, hₜ⟩

/-- A new start waits for the latest teardown. -/
theorem Chain.launchStart {vm : ViewModel} (h : Chain vm) (tunnel : Tunnel) :
    Chain (vm.launchStart tunnel) := by
  have hgrows := grows_launchStart vm tunnel
  constructor
  · intro i job hjob ht
    obtain hjob | ⟨-, rfl⟩ := launchStart_job hjob
    · exact h.latest hjob ht
    · simp [Job.isTeardown] at ht
  · intro t ht
    obtain ⟨job, hjob, htd⟩ := h.valid ht
    exact ⟨job, launchStart_job_of tunnel hjob, htd⟩
  · intro k i job jobᵢ hjob hjobᵢ hᵢ hik
    -- a teardown is never the new job
    have hjobᵢ : vm.jobs[i]? = some jobᵢ := by
      obtain hjobᵢ | ⟨-, rfl⟩ := launchStart_job hjobᵢ
      · exact hjobᵢ
      · simp [Job.isTeardown] at hᵢ
    obtain hjob | ⟨rfl, rfl⟩ := launchStart_job hjob
    · obtain ⟨t, jobₜ, ha, hle, hlt, hjobₜ, hₜ⟩ := h.covers hjob hjobᵢ hᵢ hik
      exact ⟨t, jobₜ, ha, hle, hlt, launchStart_job_of tunnel hjobₜ, hₜ⟩
    · obtain ⟨t, jobₜ, ht, hle, hlt, hjobₜ, hₜ⟩ := h.covers_new hjobᵢ hᵢ
      exact ⟨t, jobₜ, ht, hle, hlt, launchStart_job_of tunnel hjobₜ, hₜ⟩
  · intro k t job hjob hpast hawaits
    obtain hjob | ⟨-, rfl⟩ := launchStart_job hjob
    · exact hgrows.isCompleted (h.joined hjob hpast hawaits)
    · simp [Job.pastJoin] at hpast

/-- Undo a possible cancellation in a lookup: the attributes `Chain` is about stay. -/
private theorem teardown_job_attrs {vm : ViewModel} {f : TunnelState} {k : Nat} {job : Job}
    (h : (vm.teardown f).jobs[k]? = some job) :
    (∃ job₀, vm.jobs[k]? = some job₀ ∧ job.awaits = job₀.awaits ∧
      job.isTeardown = job₀.isTeardown ∧ job.pastJoin = job₀.pastJoin) ∨
    k = vm.jobs.length ∧ job = .teardown { finalState := f, previous := vm.teardownJob } := by
  obtain ⟨job₀, hjob₀, rfl⟩ | hnew := teardown_job h
  · refine .inl ⟨job₀, hjob₀, ?_⟩
    split <;> simp
  · exact .inr hnew

/-- A new teardown waits for the one before. -/
theorem Chain.teardown {vm : ViewModel} (h : Chain vm) (f : TunnelState) :
    Chain (vm.teardown f) := by
  have hgrows := grows_teardown vm f
  constructor
  · -- the new teardown is the last entry of the table
    intro i job hjob ht
    refine ⟨vm.jobs.length, teardown_teardownJob vm f, ?_⟩
    obtain ⟨hlt, -⟩ := List.getElem?_eq_some_iff.mp hjob
    rw [teardown_jobs, List.length_append, cancelStart_length] at hlt
    exact Nat.lt_succ_iff.mp hlt
  · intro t ht
    rw [teardown_teardownJob, Option.some.injEq] at ht
    subst ht
    refine ⟨.teardown { finalState := f, previous := vm.teardownJob }, ?_, rfl⟩
    rw [teardown_jobs, List.getElem?_append_right (by simp)]
    simp
  · intro k i job jobᵢ hjob hjobᵢ hᵢ hik
    -- the older teardown was already there, possibly before the cancellation
    have hlen : k ≤ vm.jobs.length := by
      obtain ⟨hlt, -⟩ := List.getElem?_eq_some_iff.mp hjob
      rw [teardown_jobs, List.length_append, cancelStart_length] at hlt
      exact Nat.lt_succ_iff.mp hlt
    obtain ⟨job₀ᵢ, hjob₀ᵢ, -, hᵢ', -⟩ | ⟨rfl, -⟩ := teardown_job_attrs hjobᵢ
    · rw [hᵢ'] at hᵢ
      obtain ⟨job₀, hjob₀, ha, -, -⟩ | ⟨rfl, rfl⟩ := teardown_job_attrs hjob
      · obtain ⟨t, jobₜ, hat, hle, hlt, hjobₜ, hₜ⟩ := h.covers hjob₀ hjob₀ᵢ hᵢ hik
        obtain ⟨job', hjob', -, ht', -⟩ := hgrows hjobₜ
        exact ⟨t, job', ha.trans hat, hle, hlt, hjob', ht'.trans hₜ⟩
      · obtain ⟨t, jobₜ, hat, hle, hlt, hjobₜ, hₜ⟩ := h.covers_new hjob₀ᵢ hᵢ
        obtain ⟨job', hjob', -, ht', -⟩ := hgrows hjobₜ
        exact ⟨t, job', hat, hle, hlt, hjob', ht'.trans hₜ⟩
    · omega
  · intro k t job hjob hpast hawaits
    -- a new teardown has not joined anything yet
    obtain ⟨job₀, hjob₀, ha, -, hp⟩ | ⟨-, rfl⟩ := teardown_job_attrs hjob
    · exact hgrows.isCompleted (h.joined hjob₀ (hp ▸ hpast) (ha ▸ hawaits))
    · simp [Job.pastJoin] at hpast

/-- A job may move on, and past its `join` once what it waits for has completed. -/
theorem Chain.setJob {vm : ViewModel} (h : Chain vm) {id : Nat} {old new : Job}
    (hold : vm.jobs[id]? = some old) (hnot : old.isCompleted = false)
    (ha : new.awaits = old.awaits) (ht : new.isTeardown = old.isTeardown)
    (hjoin : new.pastJoin → old.pastJoin ∨ ∀ t, old.awaits = some t → vm.isCompleted t) :
    Chain (vm.setJob id new) := by
  have hgrows := grows_setJob hold hnot ha ht
  -- lookups in the new table, back in the old one
  have hback : ∀ {k : Nat} {job : Job}, (vm.setJob id new).jobs[k]? = some job →
      ∃ job₀, vm.jobs[k]? = some job₀ ∧ job.awaits = job₀.awaits ∧
        job.isTeardown = job₀.isTeardown ∧
        (job.pastJoin → job₀.pastJoin ∨ ∀ t, job₀.awaits = some t → vm.isCompleted t) := by
    intro k job hjob
    obtain ⟨rfl, rfl⟩ | ⟨-, hjob⟩ := setJob_job hjob
    · exact ⟨old, hold, ha, ht, hjoin⟩
    · exact ⟨job, hjob, rfl, rfl, .inl⟩
  constructor
  · intro i job hjob hi
    obtain ⟨job₀, hjob₀, -, ht₀, -⟩ := hback hjob
    exact h.latest hjob₀ (ht₀ ▸ hi)
  · -- the teardown in `teardownJob` may be the job that moves
    intro t htd
    obtain ⟨job, hjob, hj⟩ := h.valid htd
    obtain ⟨job', hjob', -, ht', -⟩ := hgrows hjob
    exact ⟨job', hjob', ht'.trans hj⟩
  · intro k i job jobᵢ hjob hjobᵢ hᵢ hik
    obtain ⟨job₀, hjob₀, ha₀, -, -⟩ := hback hjob
    obtain ⟨job₀ᵢ, hjob₀ᵢ, -, ht₀, -⟩ := hback hjobᵢ
    obtain ⟨t, jobₜ, hat, hle, hlt, hjobₜ, hₜ⟩ := h.covers hjob₀ hjob₀ᵢ (ht₀ ▸ hᵢ) hik
    obtain ⟨job', hjob', -, ht', -⟩ := hgrows hjobₜ
    exact ⟨t, job', ha₀.trans hat, hle, hlt, hjob', ht'.trans hₜ⟩
  · intro k t job hjob hpast hawaits
    obtain ⟨job₀, hjob₀, ha₀, -, hp₀⟩ := hback hjob
    rw [ha₀] at hawaits
    -- it was past its `join` before, or has just left it
    obtain hp | hdone := hp₀ hpast
    · exact hgrows.isCompleted (h.joined hjob₀ hp hawaits)
    · exact hgrows.isCompleted (hdone t hawaits)

/-! ### Steps of job bodies -/

/-- Only a start that has not completed makes a step. -/
theorem startNext_not_completed {vm : ViewModel} {j : StartJob} {env : Env}
    {r : StartPc × Effect} (h : vm.startNext j env = some r) :
    (Job.start j).isCompleted = false := by
  simpa [Job.isCompleted] using startNext_not_finished h

/-- The same for a teardown. -/
theorem teardownNext_not_completed {vm : ViewModel} {j : TeardownJob} {env : Env}
    {r : TeardownPc × Effect} (h : vm.teardownNext j env = some r) :
    (Job.teardown j).isCompleted = false := by
  have hpc : j.pc ≠ .finished := by
    intro hpc
    simp [teardownNext, hpc] at h
  simpa [Job.isCompleted] using hpc

/-- A start leaves its `join` only when what it waits for has completed. -/
theorem startNext_join {vm : ViewModel} {j : StartJob} {env : Env} {pc : StartPc}
    {eff : Effect} (h : vm.startNext j env = some (pc, eff))
    (hpast : (Job.start { j with pc }).pastJoin) :
    (Job.start j).pastJoin ∨ ∀ t, j.pendingTeardown = some t → vm.isCompleted t := by
  cases hpc : j.pc with
  | launched =>
    -- from here it goes to `join`, or a cancelled start to its end
    simp only [startNext, hpc, Option.some.injEq, Prod.mk.injEq] at h
    obtain ⟨rfl, -⟩ := h
    cases hc : j.cancelled <;> simp [Job.pastJoin, hc] at hpast
  | joining =>
    -- nothing to wait for, cancelled, or the teardown has completed
    simp only [startNext, hpc] at h
    split at h
    · rename_i hnone
      exact .inr fun t ht => by simp [hnone] at ht
    · rename_i id hid
      split at h
      · cases h
        simp [Job.pastJoin] at hpast
      · split at h
        · rename_i hdone
          exact .inr fun t ht => by
            rw [hid, Option.some.injEq] at ht
            rwa [← ht]
        · cases h
  | finished => simp [startNext, hpc] at h
  | _ => exact .inl (by simp [Job.pastJoin, hpc])

/-- A teardown leaves its `join` only when what it waits for has completed. -/
theorem teardownNext_join {vm : ViewModel} {j : TeardownJob} {env : Env} {pc : TeardownPc}
    {eff : Effect} (h : vm.teardownNext j env = some (pc, eff))
    (hpast : (Job.teardown { j with pc }).pastJoin) :
    (Job.teardown j).pastJoin ∨ ∀ t, j.previous = some t → vm.isCompleted t := by
  cases hpc : j.pc with
  | launched =>
    simp only [teardownNext, hpc, Option.some.injEq, Prod.mk.injEq] at h
    obtain ⟨rfl, -⟩ := h
    simp [Job.pastJoin] at hpast
  -- `join` returns when the earlier teardown is over
  | joining =>
    simp only [teardownNext, hpc] at h
    split at h
    · rename_i hdone
      refine .inr fun t ht => ?_
      simpa [ht] using hdone
    · cases h
  | _ => exact .inl (by simp [Job.pastJoin, hpc])

/-- A start acts on shared state only past its `join`. -/
theorem startNext_acts {vm : ViewModel} {j : StartJob} {env : Env} {pc : StartPc}
    {eff : Effect} (h : vm.startNext j env = some (pc, eff)) (heff : eff ≠ .skip) :
    (Job.start j).pastJoin := by
  cases hpc : j.pc with
  -- up to the join nothing is done
  | launched =>
    simp only [startNext, hpc, Option.some.injEq, Prod.mk.injEq] at h
    exact absurd h.2.symm heff
  | joining =>
    simp only [startNext, hpc] at h
    repeat' split at h
    all_goals cases h
    all_goals exact absurd rfl heff
  | finished => simp [startNext, hpc] at h
  | _ => simp [Job.pastJoin, hpc]

/-! ### Every step -/

/-- Every step keeps the chain. -/
theorem chain_step {vm vm' : ViewModel} {a : Action} {o : List Obs}
    (h : vm.step a = some (vm', o)) (hc : Chain vm) : Chain vm' :=
  step_preserves (fun hsame hc => hc.congr hsame) (fun f hc => hc.teardown f)
    (fun tunnel hc => hc.launchStart tunnel)
    (fun hj hnext hc => hc.setJob hj (startNext_not_completed hnext) rfl rfl
      (startNext_join hnext))
    (fun hj hnext hc => hc.setJob hj (teardownNext_not_completed hnext) rfl rfl
      (teardownNext_join hnext)) h hc

/-- Every step only adds to the job table. -/
theorem step_grows {vm vm' : ViewModel} {a : Action} {o : List Obs}
    (h : vm.step a = some (vm', o)) : Grows vm vm' :=
  step_preserves (fun hsame hg => hg.trans hsame.grows)
    (fun f hg => hg.trans (grows_teardown _ f))
    (fun tunnel hg => hg.trans (grows_launchStart _ tunnel))
    (fun hj hnext hg => hg.trans (grows_setJob hj (startNext_not_completed hnext) rfl rfl))
    (fun hj hnext hg => hg.trans (grows_setJob hj (teardownNext_not_completed hnext) rfl rfl))
    h (SameJobs.refl vm).grows

/-! ## Order of effects along a run -/

/-- A call that a start job makes on the service or on the context. -/
def startCall : Effect → Bool
  | .startForegroundService | .bindService | .startOpenFluxNative _ _ | .startTun2Socks _ => true
  | _ => false

/-- `x` is a service call of the start job `k`. -/
def StartCallOf (k : Nat) (x : Obs) : Prop := x.1 = .start k ∧ startCall x.2

/-- `x` is an effect of the teardown job `i`: a stop call, the unbinding, or a write of
    `bindRequested`, `service` or `_active`. -/
def TeardownEffectOf (i : Nat) (x : Obs) : Prop := x.1 = .teardown i

/-- The job `k` exists and every teardown older than it has completed. -/
def Settled (vm : ViewModel) (k : Nat) : Prop :=
  k < vm.jobs.length ∧ ∀ i job, vm.jobs[i]? = some job → job.isTeardown → i < k →
    job.isCompleted

/-- A job that is settled stays so. -/
theorem Settled.grows {vm vm' : ViewModel} {k : Nat} (h : Settled vm k) (hg : Grows vm vm') :
    Settled vm' k := by
  obtain ⟨hk, hall⟩ := h
  refine ⟨?_, ?_⟩
  · obtain ⟨job', hjob', -⟩ := hg (List.getElem?_eq_getElem hk)
    exact (List.getElem?_eq_some_iff.mp hjob').1
  · intro i job' hjob' ht hik
    -- the table only grows, so the job was there before
    have hi : vm.jobs[i]? = some vm.jobs[i] := List.getElem?_eq_getElem (by omega)
    obtain ⟨job'', hjob'', -, ht'', hc''⟩ := hg hi
    obtain rfl : job' = job'' := Option.some.inj (hjob'.symm.trans hjob'')
    exact hc'' (hall i _ hi (ht''.symm.trans ht) hik)

/-- The invariant: the chain, every start that has called the service is settled, and the
    order itself. -/
structure Serial (vm : ViewModel) (tr : List Obs) : Prop where
  chain : Chain vm
  settled : ∀ x ∈ tr, ∀ k, StartCallOf k x → Settled vm k
  ordered : tr.Pairwise fun x y => ∀ k i, StartCallOf k x → TeardownEffectOf i y → ¬ i < k

/-- A step keeps the invariant when its start calls are settled and its teardown effects
    come from teardowns that no settled start is newer than. -/
theorem Serial.extend {vm vm' : ViewModel} {tr o : List Obs} (hs : Serial vm tr)
    (hchain : Chain vm') (hgrows : Grows vm vm')
    (hstart : ∀ x ∈ o, ∀ k, StartCallOf k x → Settled vm k)
    (hteardown : ∀ y ∈ o, ∀ i, TeardownEffectOf i y → ∀ k, Settled vm k → ¬ i < k) :
    Serial vm' (tr ++ o) := by
  have hsettled : ∀ x ∈ tr ++ o, ∀ k, StartCallOf k x → Settled vm k := by
    intro x hx
    obtain hx | hx := List.mem_append.mp hx
    · exact hs.settled x hx
    · exact hstart x hx
  refine ⟨hchain, fun x hx k hk => (hsettled x hx k hk).grows hgrows, ?_⟩
  -- pairs inside the step, and pairs of an earlier effect with one of the step
  rw [List.pairwise_append]
  refine ⟨hs.ordered, List.pairwise_of_forall_mem_list ?_, ?_⟩
  · intro x hx y hy k i hk hi
    exact hteardown y hy i hi k (hstart x hx k hk)
  · intro x hx y hy k i hk hi
    exact hteardown y hy i hi k (hs.settled x hx k hk)

/-- Every step keeps the invariant. -/
theorem serial_step {vm vm' : ViewModel} {a : Action} {tr o : List Obs}
    (hs : Serial vm tr) (h : vm.step a = some (vm', o)) : Serial vm' (tr ++ o) := by
  refine hs.extend (chain_step h hs.chain) (step_grows h) ?_ ?_
  · -- a start that calls the service is past its join, so the chain settles it
    intro x hx k hk
    obtain ⟨hwho, -⟩ | ⟨id, env, j, pc, -, hwho, hne, hj, hnext⟩ |
        ⟨id, env, j, pc, -, hwho, -⟩ := step_obs h hx
    · exact Actor.noConfusion (hwho.symm.trans hk.1)
    · obtain rfl : id = k := by simpa using hwho.symm.trans hk.1
      refine ⟨(List.getElem?_eq_some_iff.mp hj).1, ?_⟩
      intro i jobᵢ hjobᵢ hᵢ hik
      exact hs.chain.completed_of_lt hj (startNext_acts hnext hne) hjobᵢ hᵢ hik
    · exact Actor.noConfusion (hwho.symm.trans hk.1)
  · -- a teardown that acts has not completed, so no newer job is settled
    intro y hy i hi k hk hik
    obtain ⟨hwho, -⟩ | ⟨id, env, j, pc, -, hwho, -⟩ | ⟨id, env, j, pc, -, hwho, -, hj, hnext⟩ :=
      step_obs h hy
    · exact Actor.noConfusion (hwho.symm.trans hi)
    · exact Actor.noConfusion (hwho.symm.trans hi)
    · obtain rfl : id = i := by simpa using hwho.symm.trans hi
      have hdone := hk.2 id _ hj rfl hik
      rw [teardownNext_not_completed hnext] at hdone
      exact Bool.noConfusion hdone

/-- The invariant holds along every run. -/
theorem serial_reach {repo : TunnelRepository} {vm : ViewModel} {tr : List Obs}
    (h : (machine repo).Reachable vm tr) : Serial vm tr := by
  refine Machine.Reach.inv ⟨chain_init repo, by simp, by simp⟩ ?_ h
  intro vm tr a vm' o hs _ hstep
  exact serial_step hs hstep

/-- Along every run, whenever a start job `k` calls the service, no effect of a teardown
    job created before `k` comes later. -/
theorem start_after_teardown (repo : TunnelRepository) (vm : ViewModel) (tr : List Obs)
    (h : (machine repo).Reachable vm tr) :
    tr.Pairwise fun x y => ∀ k i, StartCallOf k x → TeardownEffectOf i y → ¬ i < k :=
  (serial_reach h).ordered

/-- A session is stopped and started again at once: the second start calls the service, and
    both teardowns are over by then. -/
theorem start_after_teardown_restart :
    ∃ vm tr, (machine {}).Reachable vm tr ∧
      (.start 3, .startForegroundService) ∈ tr ∧ (.teardown 1, .unbindService) ∈ tr ∧
      tr.Pairwise fun x y => ∀ k i, StartCallOf k x → TeardownEffectOf i y → ¬ i < k := by
  obtain ⟨vm, tr, hrun, htr⟩ := Machine.exists_reach (machine {}) (fun _ _ => True)
    (fun _ tr => decide ((.start 3, .startForegroundService) ∈ tr ∧
      (.teardown 1, .unbindService) ∈ tr))
    (List.flatten [[.startTunnel demoTunnel], jobSteps 0 7,
      [.onServiceConnected 0, .stop, .startTunnel demoTunnel],
      jobSteps 1 14, jobSteps 2 6, jobSteps 3 4]) (by decide +kernel)
  obtain ⟨hstart, hunbind⟩ := of_decide_eq_true htr
  exact ⟨vm, tr, hrun, hstart, hunbind, start_after_teardown _ _ _ hrun⟩

end ViewModel

end OpenFlux
