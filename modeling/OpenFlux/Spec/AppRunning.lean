import OpenFlux.Spec.AppStep
import OpenFlux.Spec.SupervisorRun

/-!
# Is `Running` truthful?

A start job calls `startOpenFluxNative` and then polls two flags of the service, neither of
which says whose run it is about.  `start` ignores a call while a run is on, so a start that
comes upon another session's process publishes `Running` for its own tunnel.

A start is *in session* from its call until it publishes `Running`.  While an uncancelled start
is in session, the supervisor it has called is its own: `Session` follows the call through
`Supervisor.Run`.

## Key results

- `running_own_process`: `Running` is published for the process that the start's own call
  spawned, if sessions do not get in each other's way
- `running_foreign_process`: two live starts, of which the second one finds the first one's
  process
-/

namespace OpenFlux

/-! ## Starts in session -/

namespace StartPc

/-- Behind the call of `startOpenFluxNative` and before the publication of `Running`. -/
def inSession : StartPc → Bool
  | .inCall _ | .pollDeadline _ | .pollService _ | .pollError _ _ | .pollReady _ _
  | .pollDelay _ | .publish .tun2socks | .call .tun2socks | .publishRunning => true
  | _ => false

/-- Behind the last look at the error. -/
def hasLooked : StartPc → Bool
  | .pollReady .tun2socks _ | .publishRunning => true
  | _ => false

/-- The binder that is being polled. -/
def binder? : StartPc → Option Binder
  | .pollError _ s | .pollReady _ s => some s
  | _ => none

end StartPc

/-- A start in session that is not cancelled. -/
def StartJob.isInSession (j : StartJob) : Bool := !j.cancelled && j.pc.inSession

/-- A job that is a start in session. -/
def Job.isInSession : Job → Bool
  | .start j => j.isInSession
  | .teardown _ => false

/-- A cancelled start is in no session. -/
theorem Job.cancel_not_inSession (job : Job) : job.cancel.isInSession = false := by
  cases job with
  | start j =>
    by_cases hpc : j.pc = .finished
    · simp [Job.cancel, Job.isInSession, StartJob.isInSession, StartPc.inSession, hpc]
    · simp [Job.cancel, Job.isInSession, StartJob.isInSession, hpc]
  | teardown j => rfl

namespace ViewModel

/-- `teardown` brings no start into session. -/
theorem teardown_inSession {vm : ViewModel} {f : TunnelState} {k : Nat} {j : StartJob}
    (hj : (vm.teardown f).jobs[k]? = some (.start j)) (hin : j.isInSession) :
    vm.jobs[k]? = some (.start j) := by
  obtain ⟨job₀, hjob₀, heq⟩ | ⟨-, heq⟩ := teardown_job hj
  · split at heq
    · have hnot := job₀.cancel_not_inSession
      rw [← heq] at hnot
      exact Bool.noConfusion (hnot.symm.trans hin)
    · rw [hjob₀, heq]
  · contradiction

/-- No effect brings a start into session. -/
theorem perform_inSession {vm : ViewModel} {eff : Effect} {k : Nat} {j : StartJob}
    (hj : (vm.perform eff).jobs[k]? = some (.start j)) (hin : j.isInSession) :
    vm.jobs[k]? = some (.start j) := by
  cases eff with
  | teardown f => exact teardown_inSession hj hin
  | _ => exact hj

/-- A start that is in session after a step was so before, or has made a step itself. -/
theorem step_inSession {vm vm' : ViewModel} {a : Action} {o : List Obs}
    (h : vm.step a = some (vm', o)) {k : Nat} {j : StartJob}
    (hj : vm'.jobs[k]? = some (.start j)) (hin : j.isInSession) :
    vm.jobs[k]? = some (.start j) ∨
    ∃ env j₀ pc eff, a = .job k env ∧ vm.jobs[k]? = some (.start j₀) ∧
      vm.startNext j₀ env = some (pc, eff) ∧ j = { j₀ with pc } ∧
      o = record (.start k) eff := by
  by_cases ha : ∃ id env, a = .job id env
  · obtain ⟨id, env, rfl⟩ := ha
    -- the job that moves, or another one
    obtain ⟨j₀, pc, eff, hj₀, hnext, rfl, rfl⟩ | ⟨j₀, pc, eff, hj₀, hnext, rfl, rfl⟩ :=
      jobStep_cases h
    · obtain ⟨rfl, heq⟩ | ⟨-, hold⟩ := setJob_job (perform_inSession hj hin)
      · exact .inr ⟨env, j₀, pc, eff, rfl, hj₀, hnext, Job.start.inj heq, rfl⟩
      · exact .inl hold
    · obtain ⟨rfl, heq⟩ | ⟨-, hold⟩ := setJob_job (perform_inSession hj hin)
      · contradiction
      · exact .inl hold
  · -- the main thread may cancel a start and launch another one
    obtain ⟨vm₁, hvm₁, hvm'⟩ := (step_main (by simpa using ha) h).jobs
    have hold : vm₁.jobs[k]? = some (.start j) := by
      obtain hsame | ⟨-, tunnel, hsame⟩ := hvm'
      · rwa [hsame.jobs] at hj
      · rw [hsame.jobs] at hj
        obtain hold | ⟨-, heq⟩ := launchStart_job hj
        · exact hold
        · -- a new start is not in session
          obtain rfl := Job.start.inj heq
          contradiction
    left
    obtain hsame | ⟨-, f, hsame⟩ := hvm₁
    · rwa [hsame.jobs] at hold
    · rw [hsame.jobs] at hold
      exact teardown_inSession hold hin

/-- `startTunnel` does not touch the binder. -/
theorem startTunnel_service (vm : ViewModel) (tunnel : Tunnel) :
    (vm.startTunnel tunnel).1.service = vm.service := by
  rw [startTunnel]
  split
  · rfl
  · exact (vm.stopIf_sameRest _).service

/-- `fail` does not touch the binder. -/
theorem fail_service (vm : ViewModel) (message : String) :
    (vm.fail message).1.service = vm.service := by
  rw [fail]
  split
  · rfl
  · exact (vm.teardown_sameRest _).service

/-- No effect sets the binder. -/
theorem perform_service {vm : ViewModel} {eff : Effect} {s : Binder}
    (hs : (vm.perform eff).service = some s) : vm.service = some s := by
  cases eff with
  | resetService => contradiction
  | teardown f => exact (vm.teardown_sameRest f).service.symm.trans hs
  | _ => exact hs

/-- A binder that is there after a step was there before, or has just come. -/
theorem step_service {vm vm' : ViewModel} {a : Action} {o : List Obs}
    (h : vm.step a = some (vm', o)) {s : Binder} (hs : vm'.service = some s) :
    vm.service = some s ∨ a = .onServiceConnected s := by
  cases a with
  -- what the user does leaves the binding alone
  | startTunnel tunnel =>
    obtain ⟨rfl, -⟩ := Prod.mk.inj (Option.some.inj h)
    exact .inl ((vm.startTunnel_service tunnel).symm.trans hs)
  | startCurrent =>
    simp only [step, startCurrent, Option.some.injEq] at h
    split at h <;> obtain ⟨rfl, -⟩ := Prod.mk.inj h
    · exact .inl hs
    · exact .inl ((vm.startTunnel_service _).symm.trans hs)
  | stop =>
    obtain ⟨rfl, -⟩ := Prod.mk.inj (Option.some.inj h)
    exact .inl ((vm.teardown_sameRest .idle).service.symm.trans hs)
  | selectTunnel tunnel =>
    obtain ⟨rfl, -⟩ := Prod.mk.inj (Option.some.inj h)
    exact .inl ((vm.stopIf_sameRest _).service.symm.trans hs)
  | addTunnel tunnel =>
    simp only [step, addTunnel, Option.some.injEq] at h
    split at h <;> obtain ⟨rfl, -⟩ := Prod.mk.inj h <;> exact .inl hs
  | removeTunnel tunnel =>
    obtain ⟨rfl, -⟩ := Prod.mk.inj (Option.some.inj h)
    exact .inl ((vm.stopIf_sameRest _).service.symm.trans hs)
  | updateTunnel old new =>
    simp only [step, updateTunnel, Option.some.injEq] at h
    split at h <;> obtain ⟨rfl, -⟩ := Prod.mk.inj h
    · exact .inl hs
    · exact .inl ((vm.stopIf_sameRest _).service.symm.trans hs)
  | onServiceConnected s' =>
    obtain ⟨rfl, -⟩ := Prod.mk.inj (Option.some.inj h)
    obtain rfl := Option.some.inj hs
    exact .inr rfl
  -- the binding is cleared, whatever was shown
  | onServiceDisconnected =>
    simp only [step, onServiceDisconnected, Option.some.injEq] at h
    split at h <;> obtain ⟨rfl, -⟩ := Prod.mk.inj h <;> contradiction
  | nativeProcessExited message =>
    simp only [step, nativeProcessExited, Option.some.injEq] at h
    split at h <;> obtain ⟨rfl, -⟩ := Prod.mk.inj h
    · exact .inl ((vm.fail_service message).symm.trans hs)
    · exact .inl hs
  -- a coroutine does not assign `service`
  | job id env =>
    left
    obtain ⟨j, pc, eff, -, -, rfl, -⟩ | ⟨j, pc, eff, -, -, rfl, -⟩ := jobStep_cases h
    · have hold := perform_service hs
      exact hold
    · have hold := perform_service hs
      exact hold

end ViewModel

namespace App

/-! ## The property -/

/-- The process that the service holds was spawned by the `startOpenFluxNative` call of the
    start job `k`, from the tunnel's payload and key. -/
def RunsOwnProcess (app : App) (k : Nat) (tunnel : Tunnel) : Prop :=
  ∃ c ∈ app.calls, c.job = k ∧ ∃ sup, app.supervisors[c.service]? = some sup ∧
    (∃ pc, sup.threads[c.thread]? = some (.start
      { payload := tunnel.transportConnPayload, encryptionKey := tunnel.encryptionKey, pc })) ∧
    sup.HoldsOwn c.thread tunnel.transportConnPayload tunnel.encryptionKey

/-! ## The condition on steps -/

/-- The call of a job. -/
def callOf (app : App) (job : Nat) : Option Call := app.calls.find? (·.job = job)

/-- All starts in session, with their calls, meet `P`. -/
def allSessions (app : App) (P : StartJob → Call → Bool) : Bool :=
  (List.range app.vm.jobs.length).all fun k =>
    match app.vm.jobs[k]? with
    | some (.start j) => !j.isInSession || (app.callOf k).all (P j)
    | _ => true

/-- No start is in session. -/
def noSession (app : App) : Bool := !app.vm.jobs.any Job.isInSession

/-- There is a binder, and its supervisor is not running and busy with no call. -/
def serviceFree (app : App) : Bool :=
  app.vm.service.any fun s => (app.supervisors[s]?).any fun sup =>
    !sup.running && sup.threads.all fun t => !t.isCall || t.isReturned

/-- A `stop` on this service hits no session, or one whose call has returned with an error
    that the start has still to look at. -/
def mayStop (app : App) (s : Binder) : Bool :=
  app.allSessions fun j c => c.service ≠ s ||
    (!j.pc.hasLooked && (app.supervisors[s]?).any fun sup =>
      sup.error.isSome && (sup.threads[c.thread]?).any (·.isReturned))

/-- The sessions do not get in each other's way. -/
def sessionsApart (app : App) : Action → Bool
  | .view (.job id _) =>
    match app.vm.jobs[id]? with
    | some (.start j) =>
      -- the call of `startOpenFluxNative`
      (j.pc ≠ .call .transport || (app.noSession && (j.cancelled || app.serviceFree))) &&
      (j.pc ≠ .publishRunning || !j.cancelled)
    | some (.teardown { pc := .stopNative s, .. })
    | some (.teardown { pc := .stopVpn s, .. }) => app.mayStop s
    | _ => true
  | .view (.onServiceConnected s) => app.allSessions fun _ c => c.service = s
  | .stopEverything s => app.mayStop s
  | .runCallback => app.handler.head?.all fun report => app.mayStop report.service
  | _ => true

/-! ## The invariant -/

/-- The start `j`, which is the job `k`, and its run. -/
def Session (app : App) (k : Nat) (j : StartJob) : Prop :=
  ∃ c sup, app.callOf k = some c ∧ app.supervisors[c.service]? = some sup ∧
    (∀ s, app.vm.service = some s → s = c.service) ∧
    (∀ s, j.pc.binder? = some s → s = c.service) ∧
    sup.Run c.thread j.tunnel.transportConnPayload j.tunnel.encryptionKey
      (j.pc ≠ .inCall .transport) j.pc.hasLooked

/-- Every start in session has a run of its own. -/
def Sessions (app : App) : Prop :=
  ∀ k j, app.vm.jobs[k]? = some (.start j) → j.isInSession → Session app k j

/-! ## Steps that leave the job of a session alone -/

section Frame

variable {app app' : App} {k : Nat} {j : StartJob}

/-- A condition on all sessions, for one of them. -/
theorem allSessions_of {P : StartJob → Call → Bool} (h : app.allSessions P)
    (hj : app.vm.jobs[k]? = some (.start j)) (hin : j.isInSession) {c : Call}
    (hc : app.callOf k = some c) : P j c := by
  obtain ⟨hlt, -⟩ := List.getElem?_eq_some_iff.mp hj
  have hk := List.all_eq_true.mp h k (List.mem_range.mpr hlt)
  simpa [hj, hin, hc] using hk

/-- A session goes on if its call, its binder and its run do. -/
theorem Session.frame (h : Session app k j) (hcall : app'.callOf k = app.callOf k)
    (hservice : ∀ s c, app'.vm.service = some s → app.callOf k = some c →
      app.vm.service = some s ∨ s = c.service)
    (hrun : ∀ c sup, app.callOf k = some c → app.supervisors[c.service]? = some sup →
      sup.Run c.thread j.tunnel.transportConnPayload j.tunnel.encryptionKey
        (j.pc ≠ .inCall .transport) j.pc.hasLooked →
      ∃ sup', app'.supervisors[c.service]? = some sup' ∧
        sup'.Run c.thread j.tunnel.transportConnPayload j.tunnel.encryptionKey
          (j.pc ≠ .inCall .transport) j.pc.hasLooked) : Session app' k j := by
  obtain ⟨c, sup, hc, hsup, hserv, hbinder, hr⟩ := h
  obtain ⟨sup', hsup', hr'⟩ := hrun c sup hc hsup hr
  refine ⟨c, sup', hcall.trans hc, hsup', fun s hs => ?_, hbinder, hr'⟩
  exact (hservice s c hs hc).elim (hserv s) id

/-- A step of the view model that calls no service. -/
theorem Session.set_vm (h : Session app k j) {vm' : ViewModel}
    (hservice : ∀ s, vm'.service = some s → app.vm.service = some s) :
    Session { app with vm := vm' } k j :=
  h.frame rfl (fun s _ hs _ => .inl (hservice s hs)) fun _ sup _ hsup hr => ⟨sup, hsup, hr⟩

/-- A step of one supervisor. -/
theorem Session.set_supervisor (h : Session app k j) (hcall : app'.callOf k = app.callOf k)
    (hservice : ∀ s c, app'.vm.service = some s → app.callOf k = some c →
      app.vm.service = some s ∨ s = c.service)
    {s : Binder} {sup sup' : Supervisor} (hsup : app.supervisors[s]? = some sup)
    (hset : app'.supervisors = app.supervisors.set s sup')
    (hrun : ∀ c, app.callOf k = some c → c.service = s →
      sup.Run c.thread j.tunnel.transportConnPayload j.tunnel.encryptionKey
        (j.pc ≠ .inCall .transport) j.pc.hasLooked →
      sup'.Run c.thread j.tunnel.transportConnPayload j.tunnel.encryptionKey
        (j.pc ≠ .inCall .transport) j.pc.hasLooked) : Session app' k j := by
  refine h.frame hcall hservice fun c sup₀ hc hsup₀ hr => ?_
  rw [hset]
  -- its own supervisor, or another one
  by_cases hs : c.service = s
  · obtain rfl : sup = sup₀ := by
      rw [hs] at hsup₀
      exact Option.some.inj (hsup.symm.trans hsup₀)
    obtain ⟨hlt, -⟩ := List.getElem?_eq_some_iff.mp hsup
    exact ⟨sup', by rw [hs]; exact List.getElem?_set_self hlt, hrun c hc hs hr⟩
  · exact ⟨sup₀, by rw [List.getElem?_set_ne (Ne.symm hs)]; exact hsup₀, hr⟩

/-- A `stop` on a service that may be stopped. -/
theorem Session.launch_stop (h : Session app k j) (hj : app.vm.jobs[k]? = some (.start j))
    (hin : j.isInSession) (hcall : app'.callOf k = app.callOf k)
    (hservice : ∀ s c, app'.vm.service = some s → app.callOf k = some c →
      app.vm.service = some s ∨ s = c.service)
    {s : Binder} {sup : Supervisor} (hmay : app.mayStop s)
    (hsup : app.supervisors[s]? = some sup)
    (hset : app'.supervisors = app.supervisors.set s (sup.launch (.stop .setShutting))) :
    Session app' k j := by
  refine h.set_supervisor hcall hservice hsup hset fun c hc hs hr => ?_
  -- the session has failed already, and its start will see the error
  have hdoomed := allSessions_of hmay hj hin hc
  simp only [hs, hsup, ne_eq, not_true_eq_false, decide_false, Bool.false_or, Option.any_some,
    Bool.and_eq_true, Bool.not_eq_true', Option.isSome_iff_ne_none] at hdoomed
  obtain ⟨hlooked, herror, hreturned⟩ := hdoomed
  exact .inr ⟨(hr.failed hreturned herror).launch_stop _, hlooked⟩

end Frame

/-! ## Steps of the view model -/

/-- A call is recorded for the job that made it. -/
theorem callOf_serveCall_of_ne {app : App} {s : Binder} {job k : Nat} {t : Supervisor.Thread}
    (hne : job ≠ k) : (app.serveCall s job t).callOf k = app.callOf k := by
  unfold serveCall
  split
  · rfl
  · simp [callOf, hne]

/-- A start comes into session by its call only. -/
theorem startNext_inSession {vm : ViewModel} {j : StartJob} {env : Env} {pc : StartPc}
    {eff : Effect} (h : vm.startNext j env = some (pc, eff)) (hpc : pc.inSession) :
    j.pc.inSession ∨ j.pc = .call .transport := by
  cases hj : j.pc with
  | call phase => cases phase <;> first | exact .inr rfl | exact .inl rfl
  | publish phase =>
    cases phase with
    | transport =>
      simp only [ViewModel.startNext, hj] at h
      cases h
      contradiction
    | tun2socks => exact .inl rfl
  | _ =>
    first
    | exact .inl rfl
    | (simp only [ViewModel.startNext, hj] at h
       repeat' split at h
       all_goals cases h
       all_goals contradiction)

section Move

variable {app app' : App} {k : Nat} {j : StartJob} {env : Env} {pc : StartPc} {eff : Effect}

/-- The return of `startOpenFluxNative`. -/
theorem answers_inCall (hj : app.vm.jobs[k]? = some (.start j)) (hpc : j.pc = .inCall .transport)
    (h : app.answers k env) : app.callReturned k := by
  obtain ⟨tunnel, pendingTeardown, cancelled, pc⟩ := j
  obtain rfl : pc = .inCall .transport := hpc
  simpa [answers, hj] using h

/-- The answer of `nativeError`. -/
theorem answers_pollError {phase : Phase} {s : Binder} (hj : app.vm.jobs[k]? = some (.start j))
    (hpc : j.pc = .pollError phase s) (h : app.answers k env) :
    env.threw.isSome ∨ ∃ sup, app.supervisors[s]? = some sup ∧ sup.error = env.nativeError := by
  obtain ⟨tunnel, pendingTeardown, cancelled, pc⟩ := j
  obtain rfl : pc = .pollError phase s := hpc
  simp only [answers, hj, Bool.or_eq_true, Option.any_eq_true, decide_eq_true_eq] at h
  exact h

/-- A start in session makes a step: it sees its call return, it polls the binder of its call,
    and it looks at the error. -/
theorem Session.move (h : Session app k j) (hj : app.vm.jobs[k]? = some (.start j))
    (hanswers : app.answers k env) (hnext : app.vm.startNext j env = some (pc, eff))
    (hin : j.pc.inSession) (hpc : pc.inSession)
    (hcall : app'.callOf k = app.callOf k) (hsups : app'.supervisors = app.supervisors)
    (hservice : ∀ s, app'.vm.service = some s → app.vm.service = some s) :
    Session app' k { j with pc } := by
  obtain ⟨c, sup, hc, hsup, hserv, hbinder, hr⟩ := h
  refine ⟨c, sup, hcall.trans hc, by rw [hsups]; exact hsup,
    fun s hs => hserv s (hservice s hs), ?_⟩
  -- what the run needs to know about the new program counter
  suffices hnew : (∀ s, pc.binder? = some s → s = c.service) ∧
      sup.Run c.thread j.tunnel.transportConnPayload j.tunnel.encryptionKey
        (pc ≠ .inCall .transport) pc.hasLooked from hnew
  cases hjpc : j.pc with
  -- the return of the call tells that the start thread is done
  | inCall phase =>
    simp only [ViewModel.startNext, hjpc] at hnext
    split at hnext <;> cases hnext
    · contradiction
    · refine ⟨by simp [StartPc.binder?], ?_⟩
      cases phase with
      | transport =>
        have hreturned := answers_inCall hj hjpc hanswers
        rw [callReturned, ← callOf, hc, Option.any_some, hasReturned, hsup, Option.any_some]
          at hreturned
        exact (hr.returns hreturned).weaken (fun _ => rfl) (by simp [StartPc.hasLooked])
      | tun2socks =>
        rw [hjpc] at hr
        exact hr
  -- the wait leaves its loop, or looks once more
  | pollDeadline phase =>
    rw [hjpc] at hr
    simp only [ViewModel.startNext, hjpc] at hnext
    split at hnext <;> cases hnext
    · contradiction
    · exact ⟨by simp [StartPc.binder?], hr⟩
  -- the binder that it is going to poll is that of the session
  | pollService phase =>
    rw [hjpc] at hr
    simp only [ViewModel.startNext, hjpc] at hnext
    split at hnext <;> cases hnext
    · contradiction
    · rename_i s hs
      refine ⟨fun s' hs' => ?_, hr⟩
      obtain rfl := Option.some.inj hs'
      exact hserv _ hs
  | pollError phase s =>
    have hs : s = c.service := hbinder s (by rw [hjpc]; rfl)
    rw [hjpc] at hr
    simp only [ViewModel.startNext, hjpc] at hnext
    split at hnext
    · cases hnext
      exact ⟨by simp [StartPc.binder?], hr⟩
    · rename_i hthrew
      split at hnext <;> cases hnext
      · contradiction
      · rename_i hnone
        refine ⟨fun s' hs' => (Option.some.inj hs').symm.trans hs, ?_⟩
        -- no error now, so the process is the call's own
        obtain hsome | ⟨sup₀, hsup₀, herror⟩ := answers_pollError hj hjpc hanswers
        · exact (hthrew hsome).elim
        · rw [hs, hsup] at hsup₀
          obtain rfl := Option.some.inj hsup₀
          exact (hr.see (herror.trans hnone)).weaken (fun _ => rfl) (fun _ => rfl)
  -- ready: on to the next phase; otherwise the wait sleeps
  | pollReady phase s =>
    rw [hjpc] at hr
    simp only [ViewModel.startNext, hjpc] at hnext
    split at hnext <;> cases hnext
    · cases phase with
      | transport => exact ⟨by simp [Phase.next, StartPc.binder?], hr⟩
      | tun2socks => exact ⟨by simp [Phase.next, StartPc.binder?], hr⟩
    · exact ⟨by simp [StartPc.binder?], hr.weaken (fun _ => rfl) (by simp [StartPc.hasLooked])⟩
  | pollDelay phase =>
    rw [hjpc] at hr
    simp only [ViewModel.startNext, hjpc] at hnext
    split at hnext <;> cases hnext
    · contradiction
    · exact ⟨by simp [StartPc.binder?], hr⟩
  -- the phase of the transport is published before there is a session
  | publish phase =>
    rw [hjpc] at hr hin
    cases phase with
    | transport => contradiction
    | tun2socks =>
      simp only [ViewModel.startNext, hjpc] at hnext
      cases hnext
      exact ⟨by simp [StartPc.binder?], hr⟩
  | call phase =>
    rw [hjpc] at hr hin
    cases phase with
    | transport => contradiction
    | tun2socks =>
      simp only [ViewModel.startNext, hjpc] at hnext
      split at hnext <;> cases hnext <;> exact ⟨by simp [StartPc.binder?], hr⟩
  -- with `Running` published the coroutine ends
  | publishRunning =>
    simp only [ViewModel.startNext, hjpc] at hnext
    cases hnext
    contradiction
  | _ =>
    rw [hjpc] at hin
    contradiction

end Move

/-- The call of `startOpenFluxNative` on a free service. -/
theorem session_begins {app : App} {vm' : ViewModel} {k : Nat} {j : StartJob} {env : Env}
    {pc : StartPc} {eff : Effect} (hpc : j.pc = .call .transport) (hfree : app.serviceFree)
    (hnext : app.vm.startNext j env = some (pc, eff))
    (hservice : ∀ s, vm'.service = some s → app.vm.service = some s) :
    Session (({ app with vm := vm' } : App).serve (.start k, eff)) k { j with pc } := by
  -- the binder and its idle supervisor
  obtain ⟨s, hs, hsup⟩ := (Option.any_eq_true _ _).mp hfree
  obtain ⟨sup, hsup, hidle⟩ := (Option.any_eq_true _ _).mp hsup
  simp only [Bool.and_eq_true, Bool.not_eq_true', List.all_eq_true, Bool.or_eq_true] at hidle
  simp only [ViewModel.startNext, hpc, hs] at hnext
  cases hnext
  obtain ⟨hlt, -⟩ := List.getElem?_eq_some_iff.mp hsup
  refine ⟨{ service := s, thread := sup.threads.length, job := k }, sup.launch (.start
    { payload := j.tunnel.transportConnPayload, encryptionKey := j.tunnel.encryptionKey }),
    ?_, ?_, ?_, by simp [StartPc.binder?], ?_⟩
  · simp [Phase.call, serve, serveCall, hsup, callOf]
  · simp only [Phase.call, serve, serveCall, hsup]
    exact List.getElem?_set_self hlt
  · intro s' hs'
    rw [serve_vm] at hs'
    exact Option.some.inj ((hservice s' hs').symm.trans hs)
  · refine Supervisor.run_launch_start hidle.1 fun t ht hcall => ?_
    obtain hnot | hreturned := hidle.2 t ht
    · exact Bool.noConfusion (hnot.symm.trans hcall)
    · exact hreturned

section Steps

variable {app app' : App} {o : List Obs}

/-- What a step of the view model does to the binder of a session. -/
theorem service_step {vm' : ViewModel} {a : OpenFlux.Action}
    (h : app.vm.step a = some (vm', o)) (hok : app.sessionsApart (.view a)) {k : Nat}
    {j : StartJob} (hj : app.vm.jobs[k]? = some (.start j)) (hin : j.isInSession) (s : Binder)
    (c : Call) (hs : vm'.service = some s) (hc : app.callOf k = some c) :
    app.vm.service = some s ∨ s = c.service := by
  obtain hold | rfl := ViewModel.step_service h hs
  · exact .inl hold
  · exact .inr (of_decide_eq_true (allSessions_of hok hj hin hc)).symm

/-- A step of a start. -/
theorem sessions_job_start {vm' : ViewModel} {id : Nat} {env : Env} {j₁ : StartJob}
    {pc : StartPc} {eff : Effect} (hi : Sessions app)
    (hok : app.sessionsApart (.view (.job id env))) (hanswers : app.answers id env)
    (hstep : app.vm.step (.job id env) = some (vm', o))
    (hj₁ : app.vm.jobs[id]? = some (.start j₁))
    (hnext : app.vm.startNext j₁ env = some (pc, eff)) :
    Sessions (({ app with vm := vm' } : App).serve (.start id, eff)) := by
  intro k j hj hin
  rw [serve_vm] at hj
  have hservice : ∀ s, vm'.service = some s → app.vm.service = some s := fun s hs =>
    (ViewModel.step_service hstep hs).resolve_right (by simp)
  simp only [sessionsApart, hj₁, Bool.and_eq_true, Bool.or_eq_true, decide_eq_true_eq] at hok
  by_cases hcall : j₁.pc = .call .transport
  · -- nobody else is in session, so this is the start that makes the call
    obtain ⟨hnone, hfree⟩ := hok.1.resolve_left fun hne => hne hcall
    obtain hold | ⟨env', j₀, pc', eff', heq, hj₀, hnext', rfl, -⟩ :=
      ViewModel.step_inSession hstep hj hin
    · have hany : app.vm.jobs.any Job.isInSession :=
        List.any_eq_true.mpr ⟨.start j, List.mem_of_getElem? hold, hin⟩
      rw [noSession, hany] at hnone
      contradiction
    · obtain ⟨rfl, rfl⟩ := Action.job.inj heq
      obtain rfl := Job.start.inj (Option.some.inj (hj₀.symm.trans hj₁))
      obtain ⟨rfl, rfl⟩ := Prod.mk.inj (Option.some.inj (hnext'.symm.trans hnext))
      refine session_begins hcall (hfree.resolve_left fun hc => ?_) hnext hservice
      simp only [StartJob.isInSession, hc] at hin
      contradiction
  · -- any other step of a start calls no supervisor
    rw [startNext_served hnext hcall]
    obtain hold | ⟨env', j₀, pc', eff', heq, hj₀, hnext', rfl, -⟩ :=
      ViewModel.step_inSession hstep hj hin
    · exact (hi k j hold hin).set_vm hservice
    · obtain ⟨rfl, rfl⟩ := Action.job.inj heq
      obtain rfl := Job.start.inj (Option.some.inj (hj₀.symm.trans hj₁))
      have hpc' : pc'.inSession := (Bool.and_eq_true_iff.mp hin).2
      have hin₀ : j₀.pc.inSession := (startNext_inSession hnext' hpc').resolve_right hcall
      refine (hi _ j₀ hj₀ ?_).move hj₀ hanswers hnext' hin₀ hpc' rfl rfl hservice
      exact Bool.and_eq_true_iff.mpr ⟨(Bool.and_eq_true_iff.mp hin).1, hin₀⟩

/-- A teardown that calls a `stop` may do so. -/
theorem mayStop_of_teardown {id : Nat} {env : Env} {j : TeardownJob} {s : Binder}
    (hok : app.sessionsApart (.view (.job id env)))
    (hj : app.vm.jobs[id]? = some (.teardown j)) (hpc : j.pc = .stopNative s ∨ j.pc = .stopVpn s) :
    app.mayStop s := by
  obtain ⟨finalState, previous, pc⟩ := j
  obtain rfl | rfl : pc = .stopNative s ∨ pc = .stopVpn s := hpc
  · simpa only [sessionsApart, hj] using hok
  · simpa only [sessionsApart, hj] using hok

/-- A step of a teardown. -/
theorem sessions_job_teardown {vm' : ViewModel} {id : Nat} {env : Env} {j₁ : TeardownJob}
    {pc : TeardownPc} {eff : Effect} (hi : Sessions app)
    (hok : app.sessionsApart (.view (.job id env)))
    (hstep : app.vm.step (.job id env) = some (vm', o))
    (hj₁ : app.vm.jobs[id]? = some (.teardown j₁))
    (hnext : app.vm.teardownNext j₁ env = some (pc, eff)) :
    Sessions (({ app with vm := vm' } : App).serve (.teardown id, eff)) := by
  intro k j hj hin
  rw [serve_vm] at hj
  -- a job never binds
  have hservice : ∀ s, vm'.service = some s → app.vm.service = some s := fun s hs =>
    (ViewModel.step_service hstep hs).resolve_right (by simp)
  obtain hold | ⟨env', j₀, pc', eff', heq, hj₀, -, -, -⟩ := ViewModel.step_inSession hstep hj hin
  · obtain ⟨s, hpc, hserve⟩ | hserve :=
      teardownNext_served hnext ({ app with vm := vm' } : App) id <;> rw [hserve]
    · -- the call is recorded for the teardown, which is another job
      have hne : id ≠ k := by
        rintro rfl
        exact Job.noConfusion (Option.some.inj (hold.symm.trans hj₁))
      cases hsup : app.supervisors[s]? with
      | none =>
        simp only [serveCall, hsup]
        exact (hi k j hold hin).set_vm hservice
      | some sup =>
        refine (hi k j hold hin).launch_stop hold hin (callOf_serveCall_of_ne hne) ?_
          (mayStop_of_teardown hok hj₁ hpc) hsup ?_
        · intro s' _ hs' _
          rw [serveCall_vm] at hs'
          exact .inl (hservice s' hs')
        · simp only [serveCall, hsup]
    · exact (hi k j hold hin).set_vm hservice
  · -- a teardown does not move a start
    obtain ⟨rfl, rfl⟩ := Action.job.inj heq
    exact Job.noConfusion (Option.some.inj (hj₀.symm.trans hj₁))

/-- A call or callback on the main thread, which calls no service. -/
theorem sessions_main {vm' : ViewModel} {a : OpenFlux.Action} (hi : Sessions app)
    (ha : ∀ id env, a ≠ .job id env) (h : app.vm.step a = some (vm', o))
    (hservice : ∀ {k j}, app.vm.jobs[k]? = some (.start j) → j.isInSession → ∀ s c,
      vm'.service = some s → app.callOf k = some c → app.vm.service = some s ∨ s = c.service)
    (hvm : app'.vm = vm') (hcalls : app'.calls = app.calls)
    (hsups : app'.supervisors = app.supervisors) : Sessions app' := by
  intro k j hj hin
  rw [hvm] at hj
  obtain hold | ⟨env, _, _, _, rfl, -⟩ := ViewModel.step_inSession h hj hin
  · refine (hi k j hold hin).frame (by rw [callOf, hcalls]; rfl) ?_ ?_
    · rw [hvm]
      exact hservice hold hin
    · intro c sup _ hsup hr
      exact ⟨sup, by rw [hsups]; exact hsup, hr⟩
  · exact (ha k env rfl).elim

/-- A step of the view model, with the calls that it makes. -/
theorem sessions_view {vm' : ViewModel} {a : OpenFlux.Action} (hi : Sessions app)
    (hok : app.sessionsApart (.view a)) (hmay : app.mayStep a)
    (hstep : app.vm.step a = some (vm', o)) :
    Sessions (o.foldl serve { app with vm := vm' }) := by
  by_cases ha : ∃ id env, a = .job id env
  · obtain ⟨id, env, rfl⟩ := ha
    obtain ⟨j, pc, eff, hj, hnext, -, ho⟩ | ⟨j, pc, eff, hj, hnext, -, ho⟩ :=
      ViewModel.jobStep_cases hstep
    · rw [ho, foldl_serve_record]
      exact sessions_job_start hi hok hmay hstep hj hnext
    · rw [ho, foldl_serve_record]
      exact sessions_job_teardown hi hok hstep hj hnext
  · have ha : ∀ id env, a ≠ .job id env := by simpa using ha
    -- the main thread makes no call on a service
    rw [foldl_serve_main fun x hx => ((ViewModel.step_main ha hstep).obs x hx).1]
    exact sessions_main hi ha hstep (service_step hstep hok) rfl rfl rfl

/-- A step that changes neither the view model nor the calls. -/
theorem Sessions.frame (hi : Sessions app) (hvm : app'.vm = app.vm)
    (hsession : ∀ {k j}, app.vm.jobs[k]? = some (.start j) → j.isInSession → Session app k j →
      Session app' k j) : Sessions app' := by
  intro k j hj hin
  rw [hvm] at hj
  exact hsession hj hin (hi k j hj hin)

/-- Every step of the app keeps the sessions. -/
theorem sessions_step {a : Action} (hi : Sessions app) (hok : app.sessionsApart a)
    (h : app.step a = some (app', o)) : Sessions app' := by
  cases step_stepped h with
  | view hmay hstep => exact sessions_view hi hok hmay hstep
  | serviceCreated keyPath =>
    refine hi.frame rfl fun _ _ hsession => ?_
    refine hsession.frame rfl (fun _ _ hs _ => .inl hs) fun c sup _ hsup hr => ?_
    exact ⟨sup, List.getElem?_append_of_eq_some hsup, hr⟩
  | stopEverything hsup =>
    refine hi.frame rfl fun hj hin hsession => ?_
    exact hsession.launch_stop hj hin rfl (fun _ _ hs _ => .inl hs) hok hsup rfl
  | native hsup hinternal hstep =>
    refine hi.frame rfl fun _ _ hsession => ?_
    refine hsession.set_supervisor rfl (fun _ _ hs _ => .inl hs) hsup rfl fun c _ _ hr => ?_
    -- the step is no call
    refine hr.step ?_ ?_ hstep
    · rintro payload key rfl
      contradiction
    · rintro rfl
      contradiction
  | @runCallback report rest sup hcallback hhandler hsup =>
    have hmay : app.mayStop report.service := by
      simpa [sessionsApart, hhandler] using hok
    refine hi.frame rfl fun hj hin hsession => ?_
    exact hsession.launch_stop hj hin rfl (fun _ _ hs _ => .inl hs) hmay hsup rfl
  | finishCallback _ _ => exact hi.frame rfl fun _ _ hsession => hsession
  | collect _ _ hstep =>
    -- `fail` is a call on the main thread
    refine sessions_main hi (by simp) hstep (fun _ _ s _ hs _ => ?_) rfl rfl rfl
    exact .inl ((ViewModel.step_service hstep hs).resolve_right (by simp))
  | dropOldest _ => exact hi.frame rfl fun _ _ hsession => hsession

end Steps

/-! ## The result -/

/-- A session that has found no error holds its own process. -/
theorem Session.runsOwnProcess {app : App} {k : Nat} {j : StartJob} (h : Session app k j)
    (hlooked : j.pc.hasLooked) : RunsOwnProcess app k j.tunnel := by
  obtain ⟨c, sup, hc, hsup, -, -, hr⟩ := h
  rw [hlooked] at hr
  exact ⟨c, List.mem_of_find?_eq_some hc, by simpa using List.find?_some hc, sup, hsup, hr.call,
    hr.holdsOwn⟩

/-- Only the last step of a start publishes `Running`. -/
theorem startNext_running {vm : ViewModel} {j : StartJob} {env : Env} {pc : StartPc}
    {tunnel : Tunnel} (h : vm.startNext j env = some (pc, .publish (.running tunnel))) :
    j.pc = .publishRunning ∧ j.tunnel = tunnel := by
  cases hj : j.pc with
  | publishRunning =>
    simp only [ViewModel.startNext, hj] at h
    cases h
    exact ⟨rfl, rfl⟩
  -- the phases publish other states
  | publish phase => cases phase <;> simp [ViewModel.startNext, hj, Phase.state] at h
  | call phase =>
    cases phase <;> simp only [ViewModel.startNext, hj] at h <;> split at h <;> cases h
  | _ =>
    simp only [ViewModel.startNext, hj] at h
    repeat' split at h
    all_goals cases h

/-- What a start is seen to do is done by a step of it. -/
theorem step_start_obs {app app' : App} {a : Action} {o : List Obs} {k : Nat} {eff : Effect}
    (h : app.step a = some (app', o)) (hmem : (.start k, eff) ∈ o) :
    ∃ env j pc vm', a = .view (.job k env) ∧ app.vm.jobs[k]? = some (.start j) ∧
      app.vm.startNext j env = some (pc, eff) ∧
      app' = ({ app with vm := vm' } : App).serve (.start k, eff) := by
  cases step_stepped h with
  | @view a vm' o _ hstep =>
    by_cases ha : ∃ id env, a = .job id env
    · obtain ⟨id, env, rfl⟩ := ha
      obtain ⟨j, pc, eff', hj, hnext, -, rfl⟩ | ⟨j, pc, eff', -, -, -, rfl⟩ :=
        ViewModel.jobStep_cases hstep <;>
        obtain ⟨hwho, rfl⟩ := Prod.mk.inj (ViewModel.mem_record hmem).1
      · obtain rfl := Actor.start.inj hwho
        exact ⟨env, j, pc, vm', rfl, hj, hnext, foldl_serve_record _ _ _⟩
      · contradiction
    · -- whatever the main thread does it does in its own name
      have hmain := ((ViewModel.step_main (by simpa using ha) hstep).obs _ hmem).1
      contradiction
  | collect _ _ hstep =>
    have hmain := ((ViewModel.step_main (by simp) hstep).obs _ hmem).1
    contradiction
  | _ => contradiction

/-- **`Running` is truthful**: in a run in which the sessions do not get in each other's way, a
    start that publishes `Running` has its own process running. -/
theorem running_own_process (repo : TunnelRepository) {app app' : App} {tr o : List Obs}
    {a : Action} (h : (machine repo).Reach (fun app a => app.sessionsApart a) app tr)
    (hok : app.sessionsApart a) (hstep : app.step a = some (app', o)) (k : Nat)
    (tunnel : Tunnel) (hrunning : (.start k, .publish (.running tunnel)) ∈ o) :
    RunsOwnProcess app' k tunnel := by
  have hi : Sessions app := by
    refine Machine.Reach.inv (P := fun app _ => Sessions app) ?_ ?_ h
    · intro k j hj
      contradiction
    · intro app tr a app' o hi hok hstep
      exact sessions_step hi hok hstep
  -- the publication is a step of the start itself, which is in session up to then
  obtain ⟨env, j, pc, vm', rfl, hj, hnext, rfl⟩ := step_start_obs hstep hrunning
  obtain ⟨hpc, rfl⟩ := startNext_running hnext
  simp only [sessionsApart, hj, hpc, Bool.and_eq_true, Bool.or_eq_true, decide_eq_true_eq,
    Bool.not_eq_true'] at hok
  have hlive : j.cancelled = false := hok.2.resolve_left fun hne => hne rfl
  have hsession := hi k j hj (by simp [StartJob.isInSession, hlive, hpc, StartPc.inSession])
  exact hsession.runsOwnProcess (by rw [hpc]; rfl)

/-! ### Concrete runs -/

/-- The start thread `0` of the only service spawns a process, and the watch thread `1` finds
    it ready. -/
def untilReady : List Action :=
  (Supervisor.threadSteps 0 11).map (.native 0) ++ (Supervisor.threadSteps 1 2).map (.native 0) ++
    [.native 0 (.thread 1 { connects := true }), .native 0 (.thread 1 {})]

/-- A start whose call has returned finds OpenFlux and tun2socks ready and comes to
    `publishRunning`. -/
def untilPublishing (k : Nat) : List Action :=
  (ViewModel.jobSteps k 4).map .view ++ [.view (.job k { ready := true })] ++
    (ViewModel.jobSteps k 6).map .view ++ [.view (.job k { ready := true })]

/-- The next step of a start publishes `Running`. -/
def publishesRunning (app : App) (k : Nat) (tunnel : Tunnel) : Bool :=
  (app.step (.view (.job k {}))).any fun r => (.start k, .publish (.running tunnel)) ∈ r.2

/-- A session is started and gets to `Running`. -/
theorem running_own_process_started : ∃ app app' tr o,
    (machine {}).Reach (fun app a => app.sessionsApart a) app tr ∧
      app.step (.view (.job 0 {})) = some (app', o) ∧
      (.start 0, .publish (.running ViewModel.demoTunnel)) ∈ o ∧
      RunsOwnProcess app' 0 ViewModel.demoTunnel := by
  obtain ⟨app, tr, hrun, hpred⟩ := Machine.exists_reach (machine {})
    (fun app a => app.sessionsApart a)
    (fun app _ => app.sessionsApart (.view (.job 0 {})) &&
      app.publishesRunning 0 ViewModel.demoTunnel)
    (List.flatten [[.serviceCreated "key", .view (.startTunnel ViewModel.demoTunnel)],
      (ViewModel.jobSteps 0 6).map .view, [.view (.onServiceConnected 0)],
      (ViewModel.jobSteps 0 4).map .view, untilReady, untilPublishing 0]) (by decide +kernel)
  obtain ⟨hok, hrunning⟩ := Bool.and_eq_true_iff.mp hpred
  obtain ⟨⟨app', o⟩, hstep, hmem⟩ := (Option.any_eq_true _ _).mp hrunning
  have hmem := of_decide_eq_true hmem
  exact ⟨app, app', tr, o, hrun, hstep, hmem, running_own_process _ hrun hok hstep 0 _ hmem⟩

/-- Two starts are live, because the third `startTunnel` comes when the teardown of the first
    session has just published `Idle`.  The call of the second of them comes while the process
    of the first one runs, and is ignored. -/
def untilForeign (tunnel : Tunnel) : List Action :=
  [.serviceCreated "key", .view (.startTunnel ViewModel.demoTunnel),
    .view (.startTunnel { ViewModel.demoTunnel with id := 2 })] ++
    (ViewModel.jobSteps 1 5).map .view ++ [.view (.startTunnel tunnel), .view (.job 1 {})] ++
    (ViewModel.jobSteps 2 6).map .view ++ (ViewModel.jobSteps 3 6).map .view ++
    [.view (.onServiceConnected 0)] ++ (ViewModel.jobSteps 2 4).map .view ++ untilReady ++
    (ViewModel.jobSteps 3 4).map .view ++ [.native 0 (.thread 2 {})] ++ untilPublishing 3

/-- No call of the job has spawned the process that its service holds. -/
def holdsForeign (app : App) (k : Nat) : Bool :=
  app.calls.all fun c => c.job ≠ k || (app.supervisors[c.service]?).all fun sup =>
    sup.process.all fun p => (sup.procs[p]?).all fun pr => pr.startedBy ≠ c.thread

/-- Both cannot be. -/
theorem RunsOwnProcess.not_foreign {app : App} {k : Nat} {tunnel : Tunnel}
    (h : RunsOwnProcess app k tunnel) : app.holdsForeign k = false := by
  obtain ⟨c, hc, hjob, sup, hsup, -, p, hp, pr, port, hpr, hby, -⟩ := h
  refine Bool.eq_false_iff.mpr fun hall => ?_
  have hforeign := List.all_eq_true.mp hall c hc
  simp [hjob, hsup, hp, hpr, hby] at hforeign

/-- The third `startTunnel` stops nothing, and its start publishes `Running` for the process of
    the second one. -/
theorem running_foreign_process : ∃ app app' tr o tunnel,
    (machine {}).Reachable app tr ∧ app.step (.view (.job 3 {})) = some (app', o) ∧
      (.start 3, .publish (.running tunnel)) ∈ o ∧ ¬ RunsOwnProcess app' 3 tunnel := by
  obtain ⟨app, tr, hrun, hpred⟩ := Machine.exists_reach (machine {}) (fun _ _ => True)
    (fun app _ => app.publishesRunning 3 { ViewModel.demoTunnel with id := 3 } &&
      (app.step (.view (.job 3 {}))).all fun r => r.1.holdsForeign 3)
    (untilForeign { ViewModel.demoTunnel with id := 3 }) (by decide +kernel)
  obtain ⟨hrunning, hforeign⟩ := Bool.and_eq_true_iff.mp hpred
  obtain ⟨⟨app', o⟩, hstep, hmem⟩ := (Option.any_eq_true _ _).mp hrunning
  rw [hstep] at hforeign
  refine ⟨app, app', tr, o, _, hrun, hstep, of_decide_eq_true hmem, fun hown => ?_⟩
  exact Bool.noConfusion (hown.not_foreign.symm.trans hforeign)

end App

end OpenFlux
