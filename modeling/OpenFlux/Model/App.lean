import OpenFlux.Model.Supervisor
import OpenFlux.Model.ViewModel

/-!
# The view model and the services

`ViewModel` and `Supervisor` leave each other to the environment.  Here they are put
together: the view model's calls on a binder run in the supervisor of that service
instance, its jobs are blocked until such a call has returned, and what they poll is what
the supervisor's flags say.

The report of an unexpected exit goes the other way, through two queues.  The supervisor
posts `onUnexpectedExit` to the main thread's handler; when the main thread gets to it, it
runs `stopEverything`, of which the supervisor's `stop` matters here, and dispatches
`NativeProcessExited` on the event bus; the view model's collector receives that on the
main thread, later again.  The main thread does one thing at a time.

A report carries nothing but its message.  The field `session` is not in the code: it says
which start job made the `startOpenFluxNative` call that the report is about.
-/

namespace OpenFlux

namespace App

/-- A call on a service: the supervisor's thread that runs it, and the job that made it. -/
structure Call where
  service : Binder
  thread : Nat
  job : Nat
  deriving DecidableEq, Repr

/-- The report of an unexpected exit, on its way to the view model. -/
structure Report where
  service : Binder
  session : Option Nat
  message : String
  deriving DecidableEq, Repr

/-- The main thread inside `onUnexpectedExit`, and the thread number of its
    `supervisor.stop()`. -/
structure Callback where
  report : Report
  stop : Nat
  deriving DecidableEq, Repr

/-- A step of one of the parts. -/
inductive Action where
  /-- a call or callback of the view model, or a step of one of its jobs -/
  | view (a : OpenFlux.Action)
  /-- `onCreate` of a new service instance -/
  | serviceCreated (keyPath : String)
  /-- `onRevoke`, `onDestroy` or a failed `startTun2Socks` -/
  | stopEverything (s : Binder)
  /-- a step of the supervisor's threads and processes -/
  | native (s : Binder) (a : Supervisor.Action)
  /-- the main thread takes the next posted callback -/
  | runCallback
  /-- its `stopEverything` is over: dispatch the event -/
  | finishCallback
  /-- the collector receives the next event -/
  | collect
  /-- the bus is full of other events and drops the oldest one -/
  | dropOldest
  deriving DecidableEq, Repr

end App

/-- The parts of the app in one process. -/
structure App where
  vm : ViewModel
  supervisors : List Supervisor := []
  /-- the latest call first -/
  calls : List App.Call := []
  handler : List App.Report := []
  callback : Option App.Callback := none
  bus : List App.Report := []
  deriving DecidableEq, Repr

namespace App

/-! ## Service calls -/

/-- Run a call in the supervisor of the service. -/
def serveCall (app : App) (s : Binder) (job : Nat) (t : Supervisor.Thread) : App :=
  match app.supervisors[s]? with
  | none => app
  | some sup =>
    { app with
      supervisors := app.supervisors.set s (sup.launch t)
      calls := { service := s, thread := sup.threads.length, job } :: app.calls }

/-- The calls among the view model's effects. -/
def serve (app : App) : Obs → App
  | (.start job, .startOpenFluxNative s tunnel) =>
    app.serveCall s job (.start
      { payload := tunnel.transportConnPayload, encryptionKey := tunnel.encryptionKey })
  | (.teardown job, .stopOpenFluxNative s) | (.teardown job, .stopVpn s) =>
    app.serveCall s job (.stop .setShutting)
  | _ => app

/-- The thread of a supervisor has returned. -/
def hasReturned (app : App) (s : Binder) (thread : Nat) : Bool :=
  (app.supervisors[s]?).any fun sup => (sup.threads[thread]?).any (·.isReturned)

/-- The job's latest call has returned. -/
def callReturned (app : App) (job : Nat) : Bool :=
  (app.calls.find? (·.job = job)).any fun c => app.hasReturned c.service c.thread

/-- A job step is possible with these answers: a call has returned, and a poll sees the
    supervisor's fields. -/
def answers (app : App) (id : Nat) (env : Env) : Bool :=
  match app.vm.jobs[id]? with
  | some (.start { pc := .inCall .transport, .. }) => app.callReturned id
  | some (.start { pc := .pollError _ s, .. }) =>
    env.threw.isSome || (app.supervisors[s]?).any (·.error = env.nativeError)
  | some (.start { pc := .pollReady .transport s, .. }) =>
    env.threw.isSome || (app.supervisors[s]?).any (·.ready = env.ready)
  | some (.teardown { pc := .inStopNative _, .. })
  | some (.teardown { pc := .inStopVpn, .. }) => app.callReturned id
  | _ => true

/-- The view model may take this step: a job as the services answer, the main thread only
    when it is not inside a callback. -/
def mayStep (app : App) : OpenFlux.Action → Bool
  | .job id env => app.answers id env
  | .onServiceConnected s => app.callback.isNone && s < app.supervisors.length
  -- the collector is `collect`
  | .nativeProcessExited _ => false
  | _ => app.callback.isNone

/-! ## Reports -/

/-- The start job that a supervisor's thread works for. -/
def sessionOf (app : App) (s : Binder) (sup : Supervisor) (thread : Nat) : Option Nat :=
  let start := match sup.threads[thread]? with
    | some (.watch w) => (sup.procs[w.proc]?).map (·.startedBy)
    | _ => some thread
  (app.calls.find? fun c => c.service = s && some c.thread = start).map (·.job)

/-- The callbacks that a step of a supervisor posts. -/
def posted (app : App) (s : Binder) (sup : Supervisor) (o : List Supervisor.Obs) :
    List Report :=
  o.filterMap fun x => match x.2 with
    | .post message => some { service := s, session := app.sessionOf s sup x.1, message }
    | _ => none

/-- A step of a supervisor's own, not a call on it. -/
def isInternal : Supervisor.Action → Bool
  | .callStart _ _ | .callStop => false
  | _ => true

/-! ## Steps -/

/-- One step of one part, with what it causes in the others. -/
def step (app : App) : Action → Option (App × List Obs)
  -- calls on a service are made in the step that has them as its effect
  | .view a =>
    if app.mayStep a then
      (app.vm.step a).map fun (vm, o) => (o.foldl serve { app with vm }, o)
    else none
  | .serviceCreated keyPath =>
    some ({ app with supervisors := app.supervisors ++ [{ keyPath }] }, [])
  -- of what `stopEverything` does, `supervisor.stop()` is what matters to the view model
  | .stopEverything s =>
    (app.supervisors[s]?).map fun sup =>
      ({ app with supervisors := app.supervisors.set s (sup.launch (.stop .setShutting)) }, [])
  | .native s a =>
    match app.supervisors[s]? with
    | none => none
    | some sup =>
      -- `start` and `stop` come from the view model and the service only
      if isInternal a then
        (sup.step a).map fun (sup', o) =>
          ({ app with
              supervisors := app.supervisors.set s sup'
              handler := app.handler ++ app.posted s sup o }, [])
      else none
  -- `onUnexpectedExit` runs on the main thread, which does nothing else meanwhile
  | .runCallback =>
    match app.callback, app.handler with
    | none, report :: rest =>
      (app.supervisors[report.service]?).map fun sup =>
        ({ app with
            supervisors :=
              app.supervisors.set report.service (sup.launch (.stop .setShutting))
            handler := rest
            callback := some { report, stop := sup.threads.length } }, [])
    | _, _ => none
  | .finishCallback =>
    match app.callback with
    | some { report, stop } =>
      -- the event is dispatched behind `stopEverything`
      if app.hasReturned report.service stop then
        some ({ app with callback := none, bus := app.bus ++ [report] }, [])
      else none
    | none => none
  -- `nativeProcessExited` looks at the state that is shown when the event is collected
  | .collect =>
    match app.callback, app.bus with
    | none, report :: rest =>
      let (vm, o) := app.vm.nativeProcessExited report.message
      some ({ app with vm, bus := rest }, o)
    | _, _ => none
  | .dropOldest =>
    match app.bus with
    | _ :: rest => some ({ app with bus := rest }, [])
    | [] => none

/-- The app from its start. -/
def machine (repo : TunnelRepository) : Machine App Action Obs where
  init := { vm := .init repo }
  step

end App

end OpenFlux
