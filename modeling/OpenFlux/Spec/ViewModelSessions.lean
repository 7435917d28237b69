import OpenFlux.Spec.ViewModelStore

/-!
# Does an active session run a stored tunnel?

Tunnels come into the store by a scan of a QR code, which adds the tunnel and starts it, and
leave it or change by `removeTunnel` and `updateTunnel`, which stop the session if it runs that
very tunnel.  Three things go wrong.  `addTunnel` ignores a tunnel whose id is stored already,
and the scan starts it all the same.  A start that waits for a teardown is not shown in
`_active` for a moment, so that removing its tunnel does not stop it.  And a cancelled start
can still publish its tunnel after the teardown.

## Key results

- `active_stored`: apart from these, a session that is shown runs a tunnel of the list, with
  all its fields, whenever no teardown is going on
- `active_not_stored`: a scan of a tunnel whose id is stored
-/

namespace OpenFlux

/-- The tunnel of a live start. -/
def Job.liveTunnel? : Job → Option Tunnel
  | .start j => if j.pc ≠ .finished && !j.cancelled then some j.tunnel else none
  | .teardown _ => none

/-- The job is a teardown that has still to publish its final state. -/
def Job.isUnpublished : Job → Bool
  | .start _ => false
  | .teardown j => j.pc ≠ .refresh && j.pc ≠ .finished

/-- The tunnel that a teardown would publish. -/
def Job.finalTunnel? : Job → Option Tunnel
  | .start _ => none
  | .teardown j => j.finalState.tunnel

/-- A start that is cancelled is not live. -/
@[simp] theorem Job.cancel_liveTunnel? (job : Job) : job.cancel.liveTunnel? = none := by
  cases job with
  | start j => by_cases hpc : j.pc = .finished <;> simp [Job.cancel, Job.liveTunnel?, hpc]
  | teardown j => rfl

/-- Cancelling does not change what a teardown publishes. -/
@[simp] theorem Job.cancel_finalTunnel? (job : Job) :
    job.cancel.finalTunnel? = job.finalTunnel? := by
  cases job with
  | start j => by_cases hpc : j.pc = .finished <;> simp [Job.cancel, Job.finalTunnel?, hpc]
  | teardown j => rfl

/-- The state that an effect writes to `_active`. -/
def Effect.published? : Effect → Option TunnelState
  | .publish state => some state
  | _ => none

/-- The calls on the service publish nothing. -/
@[simp] theorem Phase.call_published? (phase : Phase) (s : Binder) (tunnel : Tunnel) :
    (phase.call s tunnel).published? = none := by
  cases phase <;> rfl

/-- Both states of a start show its tunnel. -/
@[simp] theorem Phase.state_tunnel (phase : Phase) (tunnel : Tunnel) :
    (phase.state tunnel).tunnel = some tunnel := by
  cases phase <;> rfl

namespace ViewModel

/-! ## The calls -/

/-- What is done in the tunnel list: a scan, or any other call or step of the view model. -/
inductive UiAction where
  | scan (tunnel : Tunnel)
  | view (a : Action)

/-- `startTunnel` and `startCurrent` are for tunnels of the list. -/
def isListed (vm : ViewModel) (a : Action) : Bool :=
  match a with
  | .startTunnel _ | .startCurrent => (vm.askedFor a).all (· ∈ vm.repo.tunnels)
  | _ => true

/-- The handler of a scan. -/
def scan (vm : ViewModel) (tunnel : Tunnel) : ViewModel × List Obs :=
  let (vm, o) := vm.addTunnel tunnel
  let (vm, o') := vm.startTunnel tunnel
  (vm, o ++ o')

/-- A call from the list, or a step of the view model. -/
def uiStep (vm : ViewModel) : UiAction → Option (ViewModel × List Obs)
  | .scan tunnel => some (vm.scan tunnel)
  | .view a => if vm.isListed a then vm.step a else none

/-- The calls over an empty store. -/
def uiMachine : Machine ViewModel UiAction Obs where
  init := init {}
  step := uiStep

/-- Every teardown has finished. -/
def isSettled (vm : ViewModel) : Bool := vm.jobs.all fun job =>
  match job with
  | .start _ => true
  | .teardown j => j.pc = .finished

/-- Between the teardowns a session that is shown runs a tunnel of the list. -/
def ActiveStored (vm : ViewModel) : Prop :=
  vm.isSettled → ∀ tunnel, vm.active.tunnel = some tunnel → tunnel ∈ vm.repo.tunnels

/-! ## The condition on steps -/

/-- A session of the tunnel with this id, shown or to come, is stopped by a call that stops
    the session of `tunnel`. -/
def stopsSession (vm : ViewModel) (tunnel : Tunnel) : Bool :=
  (vm.active.tunnel.all fun shown => shown.id ≠ tunnel.id || shown = tunnel) &&
  (List.range vm.jobs.length).all fun k =>
    ((vm.jobs[k]?).bind Job.liveTunnel?).all fun live =>
      live.id ≠ tunnel.id || (vm.startJob = some k && vm.active.tunnel = some tunnel)

/-- A cancelled start publishes only while a teardown has still to publish. -/
def publishesInTime (vm : ViewModel) (id : Nat) (env : Env) : Bool :=
  match vm.jobs[id]? with
  | some (.start j) => !j.cancelled || vm.jobs.any Job.isUnpublished ||
      (vm.startNext j env).all fun next => next.2.published?.isNone
  | _ => true

/-- The condition on calls and job steps. -/
def keepsSessions (vm : ViewModel) : Action → Bool
  | .removeTunnel tunnel => vm.stopsSession tunnel
  | .updateTunnel old _ => vm.stopsSession old
  | .job id env => vm.publishesInTime id env
  | _ => true

/-- A scan brings a new id or the stored tunnel itself; and `keepsSessions`. -/
def keepsStored (vm : ViewModel) : UiAction → Bool
  | .scan tunnel => vm.repo.tunnels.all fun t => t.id ≠ tunnel.id || t = tunnel
  | .view a => vm.keepsSessions a

/-! ## The invariant

It is about the list, the state that is shown and the jobs only. -/

/-- Live starts run tunnels of the list. So does the session that is shown, unless a teardown is
    about to replace it. -/
structure Sessions (tunnels : List Tunnel) (active : TunnelState) (jobs : List Job) : Prop where
  starts : ∀ job ∈ jobs, ∀ tunnel, job.liveTunnel? = some tunnel → tunnel ∈ tunnels
  active : ∀ tunnel, active.tunnel = some tunnel →
    tunnel ∈ tunnels ∨ ∃ job ∈ jobs, job.isUnpublished
  finals : ∀ job ∈ jobs, job.finalTunnel? = none

/-- The invariant of a view model. -/
abbrev HasSessions (vm : ViewModel) : Prop := Sessions vm.repo.tunnels vm.active vm.jobs

section Sessions

variable {tunnels tunnels' : List Tunnel} {active : TunnelState} {jobs : List Job}

/-- No tunnels, no session and no jobs. -/
theorem sessions_init : Sessions [] .idle [] where
  starts _ hjob := (List.not_mem_nil hjob).elim
  active _ ht := by cases ht
  finals _ hjob := (List.not_mem_nil hjob).elim

/-- The list may grow. -/
theorem Sessions.mono (h : Sessions tunnels active jobs) (hsub : tunnels ⊆ tunnels') :
    Sessions tunnels' active jobs where
  starts job hjob tunnel hlive := hsub (h.starts job hjob tunnel hlive)
  active tunnel hactive := (h.active tunnel hactive).imp_left fun hmem => hsub hmem
  finals := h.finals

/-- A list that loses the tunnels with one id, when no session of that id is left. -/
theorem Sessions.without (h : Sessions tunnels active jobs) {id : Int64}
    (hsub : ∀ t ∈ tunnels, t.id ≠ id → t ∈ tunnels')
    (hstarts : ∀ job ∈ jobs, ∀ t, job.liveTunnel? = some t → t.id ≠ id)
    (hactive : ∀ t, active.tunnel = some t → t.id ≠ id ∨ ∃ job ∈ jobs, job.isUnpublished) :
    Sessions tunnels' active jobs where
  starts job hjob t hlive := hsub t (h.starts job hjob t hlive) (hstarts job hjob t hlive)
  active t ht := by
    obtain hne | hunpublished := hactive t ht
    · exact (h.active t ht).imp_left fun hmem => hsub t hmem hne
    · exact .inr hunpublished
  finals := h.finals

/-- A state without a tunnel can always be shown. -/
theorem Sessions.show_none (h : Sessions tunnels active jobs) {state : TunnelState}
    (hstate : state.tunnel = none) : Sessions tunnels state jobs where
  starts := h.starts
  active _ ht := by cases hstate.symm.trans ht
  finals := h.finals

/-- A new start of a tunnel of the list, which is shown. -/
theorem Sessions.launch (h : Sessions tunnels active jobs) {tunnel : Tunnel}
    (hmem : tunnel ∈ tunnels) (pendingTeardown : Option Nat) :
    Sessions tunnels (.connecting tunnel) (jobs ++ [.start { tunnel, pendingTeardown }]) where
  starts job hjob t hlive := by
    obtain hjob | hjob := List.mem_append.mp hjob
    · exact h.starts job hjob t hlive
    · rw [List.mem_singleton.mp hjob] at hlive
      obtain rfl := Option.some.inj hlive
      exact hmem
  active t ht := by
    obtain rfl := Option.some.inj ht
    exact .inl hmem
  finals job hjob := by
    obtain hjob | hjob := List.mem_append.mp hjob
    · exact h.finals job hjob
    · rw [List.mem_singleton.mp hjob]
      rfl

end Sessions

/-- A new teardown has still to publish. -/
theorem exists_isUnpublished_teardown (vm : ViewModel) (f : TunnelState) :
    ∃ job ∈ (vm.teardown f).jobs, job.isUnpublished := by
  refine ⟨.teardown { finalState := f, previous := vm.teardownJob }, ?_, rfl⟩
  rw [teardown_jobs]
  exact List.mem_append_right _ (List.mem_singleton.mpr rfl)

/-- Teardowns to a state without a tunnel. -/
theorem finals_teardown {vm : ViewModel} (h : ∀ job ∈ vm.jobs, job.finalTunnel? = none)
    {f : TunnelState} (hf : f.tunnel = none) :
    ∀ job ∈ (vm.teardown f).jobs, job.finalTunnel? = none := by
  intro job hjob
  -- untouched, cancelled or new
  obtain ⟨job₀, hjob₀, rfl | rfl⟩ | rfl := mem_teardown_jobs hjob
  · exact h _ hjob₀
  · rw [Job.cancel_finalTunnel?]
    exact h job₀ hjob₀
  · exact hf

/-- A job that moves keeps its final state. -/
theorem finals_setJob {vm : ViewModel} (h : ∀ job ∈ vm.jobs, job.finalTunnel? = none) {id : Nat}
    {old : Job} (new : Job) (hold : vm.jobs[id]? = some old)
    (hfinal : new.finalTunnel? = old.finalTunnel?) :
    ∀ job ∈ (vm.setJob id new).jobs, job.finalTunnel? = none := by
  intro job hjob
  obtain hjob | rfl := List.mem_or_eq_of_mem_set hjob
  · exact h job hjob
  · rw [hfinal]
    exact h old (List.mem_of_getElem? hold)

/-- `teardown` cancels a start and adds a teardown that has still to publish. -/
theorem HasSessions.teardown {vm : ViewModel} (h : HasSessions vm) {f : TunnelState}
    (hf : f.tunnel = none) : HasSessions (vm.teardown f) where
  starts job hjob tunnel hlive := by
    rw [(vm.teardown_sameRest f).repo]
    obtain ⟨job₀, hjob₀, rfl | rfl⟩ | rfl := mem_teardown_jobs hjob
    · exact h.starts _ hjob₀ tunnel hlive
    · rw [Job.cancel_liveTunnel?] at hlive
      contradiction
    · contradiction
  active _ _ := .inr (vm.exists_isUnpublished_teardown f)
  finals := finals_teardown h.finals hf

/-- A `stop` keeps the invariant. -/
theorem HasSessions.stopIf {vm : ViewModel} (h : HasSessions vm) (cond : Bool) :
    HasSessions (vm.stopIf cond).1 := by
  cases cond with
  | false => exact h
  | true => exact h.teardown rfl

/-! ## Calls -/

/-- A tunnel of the list is started. -/
theorem HasSessions.startTunnel {vm : ViewModel} (h : HasSessions vm) {tunnel : Tunnel}
    (hmem : tunnel ∈ vm.repo.tunnels) : HasSessions (vm.startTunnel tunnel).1 := by
  rw [ViewModel.startTunnel]
  split
  · exact h
  · have hstopped := h.stopIf vm.active.isActive
    exact hstopped.launch (by rw [(vm.stopIf_sameRest _).repo]; exact hmem) _

/-- A tunnel is added. -/
theorem HasSessions.addTunnel {vm : ViewModel} (h : HasSessions vm) (tunnel : Tunnel) :
    HasSessions (vm.addTunnel tunnel).1 := by
  rw [ViewModel.addTunnel]
  split
  · exact h
  · exact h.mono (List.subset_append_left _ _)

/-- What `stopsSession` says about each job. -/
theorem stopsSession_job {vm : ViewModel} {tunnel : Tunnel} (hok : vm.stopsSession tunnel)
    {k : Nat} {job : Job} {t : Tunnel} (hjob : vm.jobs[k]? = some job)
    (hlive : job.liveTunnel? = some t) :
    t.id ≠ tunnel.id ∨ vm.startJob = some k ∧ vm.active.tunnel = some tunnel := by
  obtain ⟨hlt, -⟩ := List.getElem?_eq_some_iff.mp hjob
  have hk := List.all_eq_true.mp (Bool.and_eq_true_iff.mp hok).2 k (List.mem_range.mpr hlt)
  rw [hjob, Option.bind_some, hlive, Option.all_some] at hk
  simpa using hk

/-- What `stopsSession` says about the session that is shown. -/
theorem stopsSession_active {vm : ViewModel} {tunnel t : Tunnel} (hok : vm.stopsSession tunnel)
    (ht : vm.active.tunnel = some t) : t.id ≠ tunnel.id ∨ t = tunnel := by
  have hshown := (Bool.and_eq_true_iff.mp hok).1
  rw [ht, Option.all_some] at hshown
  simpa using hshown

/-- A call that stops the session of `tunnel` and takes the tunnels with its id off the list:
    no session of that id is left, no live start, and what is shown is about to be replaced. -/
theorem HasSessions.without {vm : ViewModel} (h : HasSessions vm) {tunnel : Tunnel}
    (hok : vm.stopsSession tunnel) {tunnels : List Tunnel}
    (hsub : ∀ t ∈ vm.repo.tunnels, t.id ≠ tunnel.id → t ∈ tunnels) :
    Sessions tunnels (vm.stopIf (vm.active.tunnel = some tunnel)).1.active
      (vm.stopIf (vm.active.tunnel = some tunnel)).1.jobs := by
  have hstopped := h.stopIf (vm.active.tunnel = some tunnel)
  rw [HasSessions, (vm.stopIf_sameRest _).repo] at hstopped
  refine hstopped.without hsub ?_ ?_
  · intro job hjob t hlive
    by_cases hshown : vm.active.tunnel = some tunnel
    · rw [decide_eq_true hshown] at hjob
      obtain ⟨k, hk⟩ := List.mem_iff_getElem?.mp hjob
      -- `stop` cancels the start that `startJob` holds, and only that one
      obtain ⟨job₀, hjob₀, rfl⟩ | ⟨-, rfl⟩ := teardown_job hk
      · split at hlive
        · rw [Job.cancel_liveTunnel?] at hlive
          contradiction
        · -- a live start of this id would be the one in `startJob`
          rename_i hne
          exact (stopsSession_job hok hjob₀ hlive).resolve_right fun hstart => hne hstart.1
      · contradiction
    · rw [decide_eq_false hshown] at hjob
      obtain ⟨k, hk⟩ := List.mem_iff_getElem?.mp hjob
      exact (stopsSession_job hok hk hlive).resolve_right fun hstart => hshown hstart.2
  · intro t ht
    by_cases hshown : vm.active.tunnel = some tunnel
    · right
      rw [decide_eq_true hshown]
      exact vm.exists_isUnpublished_teardown .idle
    · rw [decide_eq_false hshown] at ht
      refine .inl ((stopsSession_active hok ht).resolve_right ?_)
      rintro rfl
      exact hshown ht

/-- A tunnel is removed together with its session. -/
theorem HasSessions.removeTunnel {vm : ViewModel} (h : HasSessions vm) {tunnel : Tunnel}
    (hok : vm.stopsSession tunnel) : HasSessions (vm.removeTunnel tunnel).1 := by
  refine h.without hok fun t ht hne => ?_
  show t ∈ (vm.stopIf _).1.repo.tunnels.filter _
  rw [(vm.stopIf_sameRest _).repo]
  exact List.mem_filter.mpr ⟨ht, decide_eq_true hne⟩

/-- A tunnel is edited and its session stopped. -/
theorem HasSessions.updateTunnel {vm : ViewModel} (h : HasSessions vm) {old new : Tunnel}
    (hok : vm.stopsSession old) : HasSessions (vm.updateTunnel old new).1 := by
  rw [ViewModel.updateTunnel]
  split
  · exact h
  · rename_i idx hidx
    refine h.without hok fun t ht hne => ?_
    -- the entry that is replaced has the id of `old`
    obtain ⟨k, hk⟩ := List.mem_iff_getElem?.mp ht
    obtain ⟨hlt, hold, -⟩ := List.findIdx?_eq_some_iff_getElem.mp hidx
    have hkidx : idx ≠ k := by
      rintro rfl
      rw [List.getElem?_eq_getElem hlt] at hk
      obtain rfl := Option.some.inj hk
      exact hne (of_decide_eq_true hold)
    exact List.mem_iff_getElem?.mpr ⟨k, by rw [← hk]; exact List.getElem?_set_ne hkidx⟩

/-! ## Jobs -/

/-- A start publishes its own tunnel. -/
theorem startNext_published? {vm : ViewModel} {j : StartJob} {env : Env} {pc : StartPc}
    {eff : Effect} {state : TunnelState} (h : vm.startNext j env = some (pc, eff))
    (heff : eff.published? = some state) : state.tunnel = some j.tunnel := by
  unfold startNext at h
  repeat' split at h
  all_goals cases h
  all_goals
    first
    | (obtain rfl := Option.some.inj heff; first | rfl | exact Phase.state_tunnel _ _)
    | cases heff
    | simp at heff

/-- The teardown that `fail` calls ends in an error. -/
theorem startNext_teardown_tunnel {vm : ViewModel} {j : StartJob} {env : Env} {pc : StartPc}
    {eff : Effect} {f : TunnelState} (h : vm.startNext j env = some (pc, eff))
    (heff : eff = .teardown f) : f.tunnel = none := by
  have hteardown : eff.isTeardown := by rw [heff]; rfl
  unfold startNext at h
  repeat' split at h
  all_goals cases h
  all_goals
    first
    | (cases hteardown; done)
    | (simp at hteardown)
    | (cases heff; rfl)

/-- A teardown publishes its final state, and until then it has still to publish. -/
theorem teardownNext_unpublished {vm : ViewModel} {j : TeardownJob} {env : Env}
    {pc : TeardownPc} {eff : Effect} (h : vm.teardownNext j env = some (pc, eff)) :
    eff = .publish j.finalState ∨ eff.published? = none ∧
      ((Job.teardown j).isUnpublished → (Job.teardown { j with pc }).isUnpublished) := by
  unfold teardownNext at h
  repeat' split at h
  all_goals cases h
  all_goals
    first
    | exact .inl rfl
    | exact .inr ⟨rfl, fun _ => rfl⟩
    | exact .inr ⟨rfl, fun hun => by simp_all [Job.isUnpublished]⟩

/-- An effect other than a publication: it changes nothing here, or it is a `teardown`. -/
theorem HasSessions.perform {vm : ViewModel} (h : HasSessions vm) {eff : Effect}
    (hpublish : ∀ state, eff.published? = some state → ∀ t, state.tunnel = some t →
      t ∈ vm.repo.tunnels ∨ ∃ job ∈ vm.jobs, job.isUnpublished)
    (hteardown : ∀ f, eff = .teardown f → f.tunnel = none) : HasSessions (vm.perform eff) := by
  cases eff with
  | publish state => exact ⟨h.starts, hpublish state rfl, h.finals⟩
  | teardown f => exact h.teardown (hteardown f rfl)
  | _ => exact h

/-- A teardown that has still to publish is there after the step of another job, or of its own
    if it has still to publish then. -/
theorem exists_isUnpublished_setJob {vm : ViewModel} {id : Nat} {old : Job} (new : Job)
    (hold : vm.jobs[id]? = some old) (hnew : old.isUnpublished → new.isUnpublished)
    (h : ∃ job ∈ vm.jobs, job.isUnpublished) :
    ∃ job ∈ (vm.setJob id new).jobs, job.isUnpublished := by
  obtain ⟨job, hmem, hjob⟩ := h
  obtain ⟨k, hk⟩ := List.mem_iff_getElem?.mp hmem
  by_cases hid : k = id
  · subst hid
    obtain rfl := Option.some.inj (hold.symm.trans hk)
    exact ⟨new, List.mem_of_getElem? (setJob_job_self new hold), hnew hjob⟩
  · exact ⟨job, List.mem_of_getElem? ((setJob_job_of_ne new hid).trans hk), hjob⟩

/-- A job that moves revives no start and keeps its final state. -/
theorem HasSessions.setJob {vm : ViewModel} (h : HasSessions vm) {id : Nat} {old : Job}
    (new : Job) (hold : vm.jobs[id]? = some old)
    (hlive : ∀ t, new.liveTunnel? = some t → old.liveTunnel? = some t)
    (hfinal : new.finalTunnel? = old.finalTunnel?) {state : TunnelState}
    (hstate : ∀ t, state.tunnel = some t →
      t ∈ vm.repo.tunnels ∨ ∃ job ∈ (vm.setJob id new).jobs, job.isUnpublished) :
    Sessions vm.repo.tunnels state (vm.setJob id new).jobs where
  starts job hjob t ht := by
    obtain hjob | rfl := List.mem_or_eq_of_mem_set hjob
    · exact h.starts job hjob t ht
    · exact h.starts old (List.mem_of_getElem? hold) t (hlive t ht)
  active := hstate
  finals := finals_setJob h.finals new hold hfinal

section JobStep

variable {vm : ViewModel} {id : Nat} {env : Env} {eff : Effect}

/-- The tunnel of a start that makes a step. -/
theorem startNext_liveTunnel? {j : StartJob} {pc : StartPc}
    (h : vm.startNext j env = some (pc, eff)) :
    (Job.start j).liveTunnel? = if j.cancelled then none else some j.tunnel := by
  have hpc := startNext_not_finished h
  cases hc : j.cancelled <;> simp [Job.liveTunnel?, hpc, hc]

/-- A start makes a step. -/
theorem HasSessions.start_step (h : HasSessions vm) {j : StartJob} {pc : StartPc}
    (hj : vm.jobs[id]? = some (.start j)) (hnext : vm.startNext j env = some (pc, eff))
    (hok : vm.publishesInTime id env) :
    HasSessions ((vm.setJob id (.start { j with pc })).perform eff) := by
  have hlive := startNext_liveTunnel? hnext
  have hunpublished :=
    exists_isUnpublished_setJob (.start { j with pc }) hj (by simp [Job.isUnpublished])
  have hmoved : HasSessions (vm.setJob id (.start { j with pc })) := by
    refine h.setJob (.start { j with pc }) hj ?_ rfl
      fun t ht => (h.active t ht).imp_right hunpublished
    intro t ht
    rw [hlive]
    by_cases hc : j.cancelled <;> simp_all [Job.liveTunnel?]
  refine hmoved.perform ?_ fun f hf => startNext_teardown_tunnel hnext hf
  intro state hstate t ht
  obtain rfl : j.tunnel = t :=
    Option.some.inj ((startNext_published? hnext hstate).symm.trans ht)
  by_cases hc : j.cancelled
  · -- a cancelled start shows its tunnel for a moment
    right
    apply hunpublished
    simp only [publishesInTime, hj, hc, hnext, hstate, Bool.not_true, Bool.false_or,
      Option.all_some, Option.isNone_some, Bool.or_false] at hok
    exact List.any_eq_true.mp hok
  · -- a live start runs a tunnel of the list
    rw [if_neg hc] at hlive
    exact .inl (h.starts _ (List.mem_of_getElem? hj) _ hlive)

/-- A teardown makes a step. -/
theorem HasSessions.teardown_step (h : HasSessions vm) {j : TeardownJob} {pc : TeardownPc}
    (hj : vm.jobs[id]? = some (.teardown j)) (hnext : vm.teardownNext j env = some (pc, eff)) :
    HasSessions ((vm.setJob id (.teardown { j with pc })).perform eff) := by
  obtain rfl | ⟨hnone, hkeeps⟩ := teardownNext_unpublished hnext
  · -- the final state shows no tunnel
    have hfinal : j.finalState.tunnel = none := h.finals _ (List.mem_of_getElem? hj)
    exact h.setJob (.teardown { j with pc }) hj (by simp [Job.liveTunnel?]) rfl
      fun t ht => by cases hfinal.symm.trans ht
  · -- before its publication it keeps its place, or moves on to it
    have hunpublished := exists_isUnpublished_setJob (.teardown { j with pc }) hj hkeeps
    have hmoved : HasSessions (vm.setJob id (.teardown { j with pc })) :=
      h.setJob (.teardown { j with pc }) hj (by simp [Job.liveTunnel?]) rfl
        fun t ht => (h.active t ht).imp_right hunpublished
    refine hmoved.perform (fun state hstate => ?_) fun f hf => ?_
    · cases hnone.symm.trans hstate
    · have hnot := teardownNext_not_teardown hnext
      rw [hf] at hnot
      contradiction

end JobStep

/-! ## Runs -/

/-- A session fails. -/
theorem HasSessions.fail {vm : ViewModel} (h : HasSessions vm) (message : String) :
    HasSessions (vm.fail message).1 := by
  rw [ViewModel.fail]
  split
  · exact h
  · exact h.teardown rfl

/-- Every call and every job step keeps the invariant. -/
theorem HasSessions.step {vm vm' : ViewModel} {a : Action} {o : List Obs} (h : HasSessions vm)
    (hlisted : vm.isListed a) (hok : vm.keepsSessions a) (hstep : vm.step a = some (vm', o)) :
    HasSessions vm' := by
  cases a with
  | startTunnel tunnel =>
    obtain ⟨rfl, -⟩ := Prod.mk.inj (Option.some.inj hstep)
    -- only tunnels of the list are started
    exact h.startTunnel (of_decide_eq_true hlisted)
  | startCurrent =>
    simp only [ViewModel.step, startCurrent, Option.some.injEq] at hstep
    simp only [isListed, askedFor] at hlisted
    split at hstep
    · obtain ⟨rfl, -⟩ := Prod.mk.inj hstep
      exact h
    · rename_i tunnel htunnel
      obtain ⟨rfl, -⟩ := Prod.mk.inj hstep
      rw [htunnel, Option.all_some] at hlisted
      exact h.startTunnel (of_decide_eq_true hlisted)
  | stop =>
    obtain ⟨rfl, -⟩ := Prod.mk.inj (Option.some.inj hstep)
    exact h.teardown rfl
  | selectTunnel tunnel =>
    obtain ⟨rfl, -⟩ := Prod.mk.inj (Option.some.inj hstep)
    -- the session that is shown is stopped, whatever its tunnel
    exact h.stopIf vm.active.isActive
  | addTunnel tunnel =>
    obtain ⟨rfl, -⟩ := Prod.mk.inj (Option.some.inj hstep)
    exact h.addTunnel tunnel
  | removeTunnel tunnel =>
    obtain ⟨rfl, -⟩ := Prod.mk.inj (Option.some.inj hstep)
    exact h.removeTunnel hok
  | updateTunnel old new =>
    obtain ⟨rfl, -⟩ := Prod.mk.inj (Option.some.inj hstep)
    exact h.updateTunnel hok
  | onServiceConnected s =>
    obtain ⟨rfl, -⟩ := Prod.mk.inj (Option.some.inj hstep)
    exact h
  | onServiceDisconnected =>
    simp only [ViewModel.step, onServiceDisconnected, Option.some.injEq] at hstep
    -- with `Idle` shown there is nothing to publish
    split at hstep <;> obtain ⟨rfl, -⟩ := Prod.mk.inj hstep
    · exact h
    · -- the binding is gone, and `Idle` is shown
      exact h.show_none rfl
  | nativeProcessExited message =>
    simp only [ViewModel.step, nativeProcessExited, Option.some.injEq] at hstep
    split at hstep <;> obtain ⟨rfl, -⟩ := Prod.mk.inj hstep
    · exact h.fail message
    · exact h
  | job id env =>
    obtain ⟨j, pc, eff, hj, hnext, rfl, -⟩ | ⟨j, pc, eff, hj, hnext, rfl, -⟩ :=
      jobStep_cases hstep
    · exact h.start_step hj hnext hok
    · exact h.teardown_step hj hnext

/-- After `addTunnel` the tunnel of a scan is stored. -/
theorem mem_addTunnel {vm : ViewModel} {tunnel : Tunnel}
    (hok : vm.keepsStored (.scan tunnel)) : tunnel ∈ (vm.addTunnel tunnel).1.repo.tunnels := by
  rw [ViewModel.addTunnel]
  split
  · rename_i hany
    -- the condition: what is stored under the id is this tunnel
    obtain ⟨t, ht, hid⟩ := List.any_eq_true.mp hany
    have hsame := List.all_eq_true.mp hok t ht
    rw [of_decide_eq_true hid] at hsame
    have heq : t = tunnel := by simpa using hsame
    exact heq ▸ ht
  · exact List.mem_append_right _ (List.mem_singleton.mpr rfl)

/-- What is done in the list keeps the invariant. -/
theorem HasSessions.ui_step {vm vm' : ViewModel} {a : UiAction} {o : List Obs}
    (h : HasSessions vm) (hok : vm.keepsStored a) (hstep : vm.uiStep a = some (vm', o)) :
    HasSessions vm' := by
  cases a with
  | scan tunnel =>
    obtain ⟨rfl, -⟩ := Prod.mk.inj (Option.some.inj hstep)
    -- the tunnel that is started was stored before
    exact (h.addTunnel tunnel).startTunnel (mem_addTunnel hok)
  | view a =>
    rw [uiStep] at hstep
    split at hstep
    · rename_i hlisted
      exact h.step hlisted hok hstep
    · contradiction

/-- Without a teardown on its way, the session that is shown runs a tunnel of the list. -/
theorem HasSessions.activeStored {vm : ViewModel} (h : HasSessions vm) : ActiveStored vm := by
  intro hsettled tunnel hactive
  refine (h.active tunnel hactive).resolve_right ?_
  rintro ⟨job, hjob, hunpublished⟩
  have hdone := List.all_eq_true.mp hsettled job hjob
  cases job with
  | start j => contradiction
  | teardown j => simp_all [Job.isUnpublished]

/-- **A session that is shown runs a stored tunnel**, between the teardowns of a run in which
    scans bring new ids, tunnels are removed or edited only together with their session, and
    no cancelled start publishes late. -/
theorem active_stored {vm : ViewModel} {tr : List Obs}
    (h : uiMachine.Reach (fun vm a => vm.keepsStored a) vm tr) : ActiveStored vm := by
  have hinv : HasSessions vm := by
    refine h.inv (P := fun vm _ => HasSessions vm) ?_ ?_
    · exact sessions_init
    · intro vm tr a vm' o hinv hok hstep
      exact hinv.ui_step hok hstep
  exact hinv.activeStored

/-- A tunnel is scanned, edited while it connects, and started again. -/
theorem active_stored_edited : ∃ vm tr,
    uiMachine.Reach (fun vm a => vm.keepsStored a) vm tr ∧
      (vm.isSettled ∧ vm.active = .connecting { demoTunnel with name := "edited" }) ∧
      ActiveStored vm := by
  obtain ⟨vm, tr, hreach, hpred⟩ :=
    uiMachine.exists_reach (fun vm a => vm.keepsStored a)
      (fun vm _ => vm.isSettled && vm.active = .connecting { demoTunnel with name := "edited" })
      (List.flatten [[.scan demoTunnel], (jobSteps 0 4).map .view,
        -- the edit stops the session, and the edited tunnel is started
        [.view (.updateTunnel demoTunnel { demoTunnel with name := "edited" })],
        (jobSteps 1 6).map .view,
        [.view (.startTunnel { demoTunnel with name := "edited" })],
        (jobSteps 2 3).map .view]) (by decide +kernel)
  simp only [Bool.and_eq_true, decide_eq_true_eq] at hpred
  exact ⟨vm, tr, hreach, hpred, active_stored hreach⟩

/-- Calls wait until the teardown of the one before has finished. -/
def waitsForTeardown (vm : ViewModel) : UiAction → Bool
  | .view (.job _ _) => true
  | _ => vm.isSettled

/-- A tunnel is scanned whose id is stored.  The store keeps the old one, and the new one
    connects. -/
theorem active_not_stored : ∃ vm tr,
    uiMachine.Reach (fun vm a => vm.waitsForTeardown a) vm tr ∧
      (vm.active = .connecting { demoTunnel with transportConnPayload := ["--url", "e"] } ∧
        vm.repo.tunnels = [demoTunnel]) ∧ ¬ ActiveStored vm := by
  obtain ⟨vm, tr, hreach, hpred⟩ :=
    uiMachine.exists_reach (fun vm a => vm.waitsForTeardown a)
      (fun vm _ => vm.isSettled &&
        (vm.active = .connecting { demoTunnel with transportConnPayload := ["--url", "e"] } &&
          vm.repo.tunnels = [demoTunnel]))
      (List.flatten [
        -- the second code has the id of the first and is started without being stored
        [.scan demoTunnel, .scan { demoTunnel with transportConnPayload := ["--url", "e"] }],
        (jobSteps 1 6).map .view, (jobSteps 2 3).map .view]) (by decide +kernel)
  simp only [Bool.and_eq_true, decide_eq_true_eq] at hpred
  obtain ⟨hsettled, hactive, htunnels⟩ := hpred
  refine ⟨vm, tr, hreach, ⟨hactive, htunnels⟩, fun hstored => ?_⟩
  have hmem := hstored hsettled _ (by rw [hactive]; rfl)
  rw [htunnels] at hmem
  exact absurd (List.mem_singleton.mp hmem) (by decide)

end ViewModel

end OpenFlux
