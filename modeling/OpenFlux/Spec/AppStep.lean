import OpenFlux.Model.App
import OpenFlux.Spec.SupervisorStep
import OpenFlux.Spec.ViewModelStep

/-!
# What a step of the app can do

`App.step` is a partial function: an action may find no service, no report or the main thread
busy.  `Stepped` says once what each action does when it can be taken, so that an invariant
over runs has one case per constructor and never unfolds `App.step`.

The rest is about the calls on services among the view model's effects: only a start at
`.call .transport` and a teardown at its two stops make one.
-/

namespace OpenFlux

namespace App

/-- The actions that can be taken, what each leads to and what is seen of it. -/
inductive Stepped (app : App) : Action → App → List Obs → Prop where
  -- what the view model asks of a service is served in the same step
  | view {a : OpenFlux.Action} {vm' : ViewModel} {o : List Obs} (hmay : app.mayStep a)
      (hstep : app.vm.step a = some (vm', o)) :
      Stepped app (.view a) (o.foldl serve { app with vm := vm' }) o
  | serviceCreated (keyPath : String) :
      Stepped app (.serviceCreated keyPath)
        { app with supervisors := app.supervisors ++ [{ keyPath }] } []
  | stopEverything {s : Binder} {sup : Supervisor} (hsup : app.supervisors[s]? = some sup) :
      Stepped app (.stopEverything s)
        { app with supervisors := app.supervisors.set s (sup.launch (.stop .setShutting)) } []
  -- the reports of the exit are posted to the main handler
  | native {s : Binder} {a : Supervisor.Action} {sup sup' : Supervisor}
      {o : List Supervisor.Obs} (hsup : app.supervisors[s]? = some sup)
      (hinternal : isInternal a) (hstep : sup.step a = some (sup', o)) :
      Stepped app (.native s a)
        { app with
          supervisors := app.supervisors.set s sup'
          handler := app.handler ++ app.posted s sup o } []
  | runCallback {report : Report} {rest : List Report} {sup : Supervisor}
      (hcallback : app.callback = none) (hhandler : app.handler = report :: rest)
      (hsup : app.supervisors[report.service]? = some sup) :
      Stepped app .runCallback
        { app with
          supervisors := app.supervisors.set report.service (sup.launch (.stop .setShutting))
          handler := rest
          callback := some { report, stop := sup.threads.length } } []
  -- the callback waited for its `stopEverything`, and the report goes to the bus
  | finishCallback {report : Report} {stop : Nat}
      (hcallback : app.callback = some { report, stop })
      (hreturned : app.hasReturned report.service stop) :
      Stepped app .finishCallback { app with callback := none, bus := app.bus ++ [report] } []
  | collect {report : Report} {rest : List Report} {vm' : ViewModel} {o : List Obs}
      (hcallback : app.callback = none) (hbus : app.bus = report :: rest)
      (hstep : app.vm.step (.nativeProcessExited report.message) = some (vm', o)) :
      Stepped app .collect { app with vm := vm', bus := rest } o
  | dropOldest {report : Report} {rest : List Report} (hbus : app.bus = report :: rest) :
      Stepped app .dropOldest { app with bus := rest } []

/-- A step that was taken is one of these. -/
theorem step_stepped {app app' : App} {a : Action} {o : List Obs}
    (h : app.step a = some (app', o)) : Stepped app a app' o := by
  cases a with
  | view a =>
    simp only [App.step] at h
    split at h
    · rename_i hmay
      obtain ⟨⟨vm', o'⟩, hstep, heq⟩ := Option.map_eq_some_iff.mp h
      obtain ⟨rfl, rfl⟩ := Prod.mk.inj heq
      exact .view hmay hstep
    · contradiction
  -- always possible
  | serviceCreated keyPath =>
    obtain ⟨rfl, rfl⟩ := Prod.mk.inj (Option.some.inj h)
    exact .serviceCreated keyPath
  | stopEverything s =>
    obtain ⟨sup, hsup, heq⟩ := Option.map_eq_some_iff.mp h
    obtain ⟨rfl, rfl⟩ := Prod.mk.inj heq
    exact .stopEverything hsup
  -- only what the service does by itself
  | native s a =>
    simp only [App.step] at h
    split at h
    · contradiction
    · rename_i sup hsup
      split at h
      · rename_i hinternal
        obtain ⟨⟨sup', o'⟩, hstep, heq⟩ := Option.map_eq_some_iff.mp h
        obtain ⟨rfl, rfl⟩ := Prod.mk.inj heq
        exact .native hsup hinternal hstep
      · contradiction
  -- the main thread is free and a report is at the front
  | runCallback =>
    simp only [App.step] at h
    split at h
    · rename_i report rest hcallback hhandler
      obtain ⟨sup, hsup, heq⟩ := Option.map_eq_some_iff.mp h
      obtain ⟨rfl, rfl⟩ := Prod.mk.inj heq
      exact .runCallback hcallback hhandler hsup
    · contradiction
  -- the `stopEverything` of the callback has to return first
  | finishCallback =>
    simp only [App.step] at h
    split at h
    · rename_i report stop hcallback
      split at h
      · rename_i hreturned
        obtain ⟨rfl, rfl⟩ := Prod.mk.inj (Option.some.inj h)
        exact .finishCallback hcallback hreturned
      · contradiction
    · contradiction
  -- the main thread is in no callback
  | collect =>
    simp only [App.step] at h
    split at h
    · rename_i report rest hcallback hbus
      obtain ⟨rfl, rfl⟩ := Prod.mk.inj (Option.some.inj h)
      exact .collect hcallback hbus rfl
    · contradiction
  | dropOldest =>
    simp only [App.step] at h
    split at h
    · rename_i report rest hbus
      obtain ⟨rfl, rfl⟩ := Prod.mk.inj (Option.some.inj h)
      exact .dropOldest hbus
    · contradiction

/-! ## Calls on services -/

/-- What the main thread does is no call on a service. -/
theorem foldl_serve_main {o : List Obs} (h : ∀ x ∈ o, x.1 = .main) (app : App) :
    o.foldl serve app = app := by
  induction o generalizing app with
  | nil => rfl
  | cons x o ih =>
    obtain ⟨who, eff⟩ := x
    obtain rfl : who = .main := h _ List.mem_cons_self
    exact ih (fun y hy => h y (List.mem_cons_of_mem _ hy)) app

/-- A job makes at most one call on a service in a step. -/
theorem foldl_serve_record (who : Actor) (eff : Effect) (app : App) :
    (ViewModel.record who eff).foldl serve app = app.serve (who, eff) := by
  unfold ViewModel.record
  split
  · rename_i hskip
    subst hskip
    cases who <;> rfl
  · rfl

/-- A start calls the service's supervisor at one place only. -/
theorem startNext_served {vm : ViewModel} {j : StartJob} {env : Env} {pc : StartPc}
    {eff : Effect} (h : vm.startNext j env = some (pc, eff)) (hpc : j.pc ≠ .call .transport)
    (app : App) (id : Nat) : app.serve (.start id, eff) = app := by
  cases hj : j.pc with
  | call phase =>
    cases phase with
    | transport => exact (hpc hj).elim
    | tun2socks =>
      simp only [ViewModel.startNext, hj] at h
      split at h <;> cases h <;> rfl
  -- no other statement is a call on a service
  | _ =>
    simp only [ViewModel.startNext, hj] at h
    repeat' split at h
    all_goals cases h
    all_goals rfl

/-- The two calls of a teardown on the service. -/
theorem teardownNext_served {vm : ViewModel} {j : TeardownJob} {env : Env} {pc : TeardownPc}
    {eff : Effect} (h : vm.teardownNext j env = some (pc, eff)) (app : App) (id : Nat) :
    (∃ s, (j.pc = .stopNative s ∨ j.pc = .stopVpn s) ∧
      app.serve (.teardown id, eff) = app.serveCall s id (.stop .setShutting)) ∨
    app.serve (.teardown id, eff) = app := by
  cases hj : j.pc with
  | stopNative s =>
    simp only [ViewModel.teardownNext, hj] at h
    cases h
    exact .inl ⟨s, .inl rfl, rfl⟩
  | stopVpn s =>
    simp only [ViewModel.teardownNext, hj] at h
    cases h
    exact .inl ⟨s, .inr rfl, rfl⟩
  -- no other statement is a call on a service
  | _ =>
    simp only [ViewModel.teardownNext, hj] at h
    repeat' split at h
    all_goals cases h
    all_goals exact .inr rfl

/-- A call on a service does not touch the view model. -/
theorem serveCall_vm (app : App) (s : Binder) (job : Nat) (t : Supervisor.Thread) :
    (app.serveCall s job t).vm = app.vm := by
  unfold serveCall
  split <;> rfl

/-- Service calls do not touch the view model. -/
theorem serve_vm (app : App) (x : Obs) : (app.serve x).vm = app.vm := by
  unfold serve
  split
  · exact app.serveCall_vm _ _ _
  · exact app.serveCall_vm _ _ _
  · exact app.serveCall_vm _ _ _
  · rfl

/-- All the calls of a step do not touch the view model. -/
theorem foldl_serve_vm (o : List Obs) (app : App) : (o.foldl serve app).vm = app.vm := by
  induction o generalizing app with
  | nil => rfl
  | cons x o ih => exact (ih (app.serve x)).trans (app.serve_vm x)

end App

end OpenFlux
