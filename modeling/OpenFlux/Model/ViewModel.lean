import OpenFlux.ForStd.Machine
import OpenFlux.Model.Tunnel

/-!
# TunnelsViewModel

The view model starts a session in a *start job* and ends it in a *teardown job*.  Both
run on background threads, interleaved with each other and with the calls made on the main
thread.  A job is a program counter; one step of it is one access to shared state, one call
or one wait.

* `startNext` and `teardownNext` are the control flow of the two job bodies: from the
  shared state and the environment's answer to the next program counter and the `Effect`
  of the step.  They return `none` while the job is blocked or after it has finished.
* `perform` is what an effect does to the shared state.
* A call of `startTunnel` or `teardown` is one step, as is every other main-thread call.

Coroutine cancellation is cooperative: `cancelled` is only looked at when the job is
dispatched for the first time, in `join` and in `delay`.  Binder calls block without
suspending, so they take two steps (the call and its return) and look at nothing.

Jobs are numbered in the order of their creation.  Left out because nothing here reads
them: `bound`, `activeTunnelData`, the uptime counter and the list shown in the UI.
-/

namespace OpenFlux

/-- The `IUnifiedService` of one service instance. -/
abbrev Binder := Nat

/-- The two things a start waits for, one after the other. -/
inductive Phase where
  | transport
  | tun2socks
  deriving DecidableEq, Repr

/-- Program counter of a start job. -/
inductive StartPc where
  /-- launched, not yet dispatched -/
  | launched
  /-- in `pendingTeardown?.join()` -/
  | joining
  | publishConnecting
  | startService
  | requestBind
  | bindService
  /-- the loop test of `awaitBinding` -/
  | awaitBinding (waited : Nat)
  | bindingDelay (waited : Nat)
  /-- `return service` of `awaitBinding` and the null test on it -/
  | bindingResult
  /-- publish the state of the phase, then call the service and poll it -/
  | publish (phase : Phase)
  -- `service?.` and the call on it
  | call (phase : Phase)
  | inCall (phase : Phase)
  -- the loop of `awaitService`: its test, the binder, the error, the flag and the delay
  | pollDeadline (phase : Phase)
  | pollService (phase : Phase)
  | pollError (phase : Phase) (s : Binder)
  | pollReady (phase : Phase) (s : Binder)
  | pollDelay (phase : Phase)
  | publishRunning
  | refresh
  /-- in `fail`: its two tests and its call of `teardown` -/
  | failStartJob (message : String)
  | failTeardownJob (message : String)
  | failTeardown (message : String)
  | finished
  deriving DecidableEq, Repr

/-- Program counter of a teardown job. -/
inductive TeardownPc where
  | launched
  /-- in `previous?.join()` -/
  | joining
  | testBindRequested
  | awaitBinding (waited : Nat)
  | bindingDelay (waited : Nat)
  | bindingResult
  -- each blocking call has a step at its beginning and one at its return
  | stopNative (s : Binder)
  | inStopNative (s : Binder)
  | stopVpn (s : Binder)
  | inStopVpn
  | unbind
  | resetBindRequested
  | resetService
  | publish
  | refresh
  | finished
  deriving DecidableEq, Repr

/-- The coroutine of `startTunnel`. -/
structure StartJob where
  tunnel : Tunnel
  pendingTeardown : Option Nat
  cancelled : Bool := false
  pc : StartPc := .launched
  deriving DecidableEq, Repr

/-- Teardown jobs are never cancelled. -/
structure TeardownJob where
  finalState : TunnelState
  previous : Option Nat
  pc : TeardownPc := .launched
  deriving DecidableEq, Repr

/-- A coroutine on `Dispatchers.IO`. -/
inductive Job where
  | start (j : StartJob)
  | teardown (j : TeardownJob)
  deriving DecidableEq, Repr

/-- The fields of `TunnelsViewModel`, and the jobs it has launched. -/
structure ViewModel where
  repo : TunnelRepository
  selected : Option Tunnel
  active : TunnelState := .idle
  service : Option Binder := none
  bindRequested : Bool := false
  startJob : Option Nat := none
  teardownJob : Option Nat := none
  jobs : List Job := []
  deriving DecidableEq, Repr

/-- Who takes a step: the main thread or the body of a job. -/
inductive Actor where
  | main
  | start (id : Nat)
  | teardown (id : Nat)
  deriving DecidableEq, Repr

/-- What a step does besides moving a program counter. -/
inductive Effect where
  | skip
  /-- `_active.value = state` -/
  | publish (state : TunnelState)
  | startForegroundService
  | requestBind
  | bindService
  | startOpenFluxNative (s : Binder) (tunnel : Tunnel)
  | startTun2Socks (s : Binder)
  | stopOpenFluxNative (s : Binder)
  | stopVpn (s : Binder)
  | unbindService
  | resetBindRequested
  | resetService
  /-- a call of `fail` -/
  | fail (message : String)
  /-- a call of `teardown` -/
  | teardown (finalState : TunnelState)
  | refresh
  deriving DecidableEq, Repr

/-- One observed effect. -/
abbrev Obs := Actor × Effect

/-- What the environment answers when a job looks at the clock or calls the service. -/
structure Env where
  /-- the deadline of `awaitService` has passed -/
  expired : Bool := false
  /-- the call throws, with this message -/
  threw : Option String := none
  nativeError : Option String := none
  ready : Bool := false
  deriving DecidableEq, Repr

/-- Main-thread calls and callbacks, and steps of jobs. -/
inductive Action where
  | startTunnel (tunnel : Tunnel)
  | startCurrent
  | stop
  | selectTunnel (tunnel : Tunnel)
  | addTunnel (tunnel : Tunnel)
  | removeTunnel (tunnel : Tunnel)
  | updateTunnel (old new : Tunnel)
  | onServiceConnected (s : Binder)
  | onServiceDisconnected
  /-- the collector receives `AppEvent.NativeProcessExited` -/
  | nativeProcessExited (message : String)
  | job (id : Nat) (env : Env)
  deriving DecidableEq, Repr

/-! ## Constants and texts -/

/-- `BIND_TIMEOUT_MS`. -/
def bindTimeoutMs : Nat := 5000

/-- The `delay` of `awaitBinding`. -/
def bindPollMs : Nat := 50

/-- The message when there is no service. -/
def serviceNotConnected : String := "Service not connected"

namespace Phase

/-- What is published while the phase goes on. -/
def state (tunnel : Tunnel) : Phase → TunnelState
  | transport => .startingTransport tunnel
  | tun2socks => .startingTun2Socks tunnel

/-- The call that starts the phase. -/
def call (s : Binder) (tunnel : Tunnel) : Phase → Effect
  | transport => .startOpenFluxNative s tunnel
  | tun2socks => .startTun2Socks s

/-- The message when that call throws. -/
def failed (message : String) : Phase → String
  | transport => "Transport failed: " ++ message
  | tun2socks => "tun2socks failed: " ++ message

/-- The message when the phase takes too long. -/
def timeoutMessage : Phase → String
  | transport => "Transport did not start"
  | tun2socks => "tun2socks did not start"

/-- Where the start goes once the phase is ready. -/
def next : Phase → StartPc
  | transport => .publish .tun2socks
  | tun2socks => .publishRunning

end Phase

/-- A job has completed, by itself or after a cancellation took effect. -/
def Job.isCompleted : Job → Bool
  | .start j => j.pc = .finished
  | .teardown j => j.pc = .finished

/-- `job.cancel()`; a job that has completed keeps its outcome. -/
def Job.cancel : Job → Job
  | .start j => if j.pc = .finished then .start j else .start { j with cancelled := true }
  | .teardown j => .teardown j

namespace ViewModel

/-- A new view model. -/
def init (repo : TunnelRepository) : ViewModel :=
  { repo, selected := repo.getSelected }

/-! ## Shared state -/

/-- `job.join()` would return. -/
def isCompleted (vm : ViewModel) (id : Nat) : Bool := (vm.jobs[id]?).any Job.isCompleted

/-- `teardownJob?.isActive == true`. -/
def teardownIsActive (vm : ViewModel) : Bool := vm.teardownJob.any fun id => !vm.isCompleted id

/-- A job goes on. -/
def setJob (vm : ViewModel) (id : Nat) (job : Job) : ViewModel :=
  { vm with jobs := vm.jobs.set id job }

/-- `refresh()` -/
def refresh (vm : ViewModel) : ViewModel := { vm with selected := vm.repo.getSelected }

/-- `startJob?.cancel()`. -/
def cancelStart (vm : ViewModel) : ViewModel :=
  match vm.startJob with
  | none => vm
  | some id => { vm with jobs := vm.jobs.modify id Job.cancel }

/-- Cancel the start and launch a teardown job behind the previous one. -/
def teardown (vm : ViewModel) (finalState : TunnelState) : ViewModel :=
  let vm := { vm.cancelStart with startJob := none }
  { vm with
    teardownJob := some vm.jobs.length
    jobs := vm.jobs ++ [.teardown { finalState, previous := vm.teardownJob }] }

/-- Launch a start job that waits for the teardown in progress. -/
def launchStart (vm : ViewModel) (tunnel : Tunnel) : ViewModel :=
  { vm with
    startJob := some vm.jobs.length
    jobs := vm.jobs ++ [.start { tunnel, pendingTeardown := vm.teardownJob }] }

/-- An effect on the view model. -/
def perform (vm : ViewModel) : Effect → ViewModel
  | .publish state => { vm with active := state }
  | .requestBind => { vm with bindRequested := true }
  | .resetBindRequested => { vm with bindRequested := false }
  | .resetService => { vm with service := none }
  | .teardown finalState => vm.teardown finalState
  | .refresh => vm.refresh
  | .skip | .startForegroundService | .bindService | .startOpenFluxNative _ _
  | .startTun2Socks _ | .stopOpenFluxNative _ | .stopVpn _ | .unbindService | .fail _ => vm

/-- An effect is observed if there was one. -/
def record (who : Actor) (eff : Effect) : List Obs := if eff = .skip then [] else [(who, eff)]

/-- Perform an effect and record it. -/
def act (vm : ViewModel) (who : Actor) (eff : Effect) : ViewModel × List Obs :=
  (vm.perform eff, record who eff)

/-! ## Job bodies -/

/-- Enter `fail`. -/
def enterFail (message : String) : StartPc × Effect := (.failStartJob message, .fail message)

/-- One step of a start job. -/
def startNext (vm : ViewModel) (j : StartJob) (env : Env) : Option (StartPc × Effect) :=
  match j.pc with
  | .launched => some (if j.cancelled then .finished else .joining, .skip)
  -- a cancelled `join` throws, whether or not the teardown has completed
  | .joining =>
    match j.pendingTeardown with
    | none => some (.publishConnecting, .skip)
    | some id =>
      if j.cancelled then some (.finished, .skip)
      else if vm.isCompleted id then some (.publishConnecting, .skip)
      else none
  | .publishConnecting => some (.startService, .publish (.connecting j.tunnel))
  | .startService => some (.requestBind, .startForegroundService)
  | .requestBind => some (.bindService, .requestBind)
  | .bindService => some (.awaitBinding 0, .bindService)
  | .awaitBinding waited =>
    if vm.service = none ∧ waited < bindTimeoutMs then some (.bindingDelay waited, .skip)
    else some (.bindingResult, .skip)
  | .bindingDelay waited =>
    some (if j.cancelled then .finished else .awaitBinding (waited + bindPollMs), .skip)
  | .bindingResult =>
    match vm.service with
    | none => some (enterFail serviceNotConnected)
    | some _ => some (.publish .transport, .skip)
  | .publish phase => some (.call phase, .publish (phase.state j.tunnel))
  -- `service?.` skips the call if the service is gone
  | .call phase =>
    match vm.service with
    | none => some (.pollDeadline phase, .skip)
    | some s => some (.inCall phase, phase.call s j.tunnel)
  | .inCall phase =>
    match env.threw with
    | some message => some (enterFail (phase.failed message))
    | none => some (.pollDeadline phase, .skip)
  | .pollDeadline phase =>
    if env.expired then some (enterFail phase.timeoutMessage)
    else some (.pollService phase, .skip)
  | .pollService phase =>
    match vm.service with
    | none => some (enterFail serviceNotConnected)
    | some s => some (.pollError phase s, .skip)
  -- an exception while polling is ignored
  | .pollError phase s =>
    if env.threw.isSome then some (.pollDelay phase, .skip)
    else match env.nativeError with
      | some message => some (enterFail message)
      | none => some (.pollReady phase s, .skip)
  | .pollReady phase _ =>
    if env.threw.isNone && env.ready then some (phase.next, .skip)
    else some (.pollDelay phase, .skip)
  | .pollDelay phase => some (if j.cancelled then .finished else .pollDeadline phase, .skip)
  | .publishRunning => some (.refresh, .publish (.running j.tunnel))
  | .refresh => some (.finished, .refresh)
  -- `startJob == null && teardownJob?.isActive == true`
  | .failStartJob message =>
    some (if vm.startJob = none then .failTeardownJob message else .failTeardown message, .skip)
  | .failTeardownJob message =>
    some (if vm.teardownIsActive then .finished else .failTeardown message, .skip)
  | .failTeardown message => some (.finished, .teardown (.error message))
  | .finished => none

/-- One step of a teardown job. -/
def teardownNext (vm : ViewModel) (j : TeardownJob) (env : Env) :
    Option (TeardownPc × Effect) :=
  match j.pc with
  | .launched => some (.joining, .skip)
  -- a teardown waits for the one before it
  | .joining =>
    if j.previous.all vm.isCompleted then some (.testBindRequested, .skip) else none
  | .testBindRequested =>
    some (if vm.bindRequested then .awaitBinding 0 else .resetService, .skip)
  | .awaitBinding waited =>
    if vm.service = none ∧ waited < bindTimeoutMs then some (.bindingDelay waited, .skip)
    else some (.bindingResult, .skip)
  | .bindingDelay waited => some (.awaitBinding (waited + bindPollMs), .skip)
  | .bindingResult =>
    match vm.service with
    | none => some (.unbind, .skip)
    | some s => some (.stopNative s, .skip)
  | .stopNative s => some (.inStopNative s, .stopOpenFluxNative s)
  -- an exception skips `stopVpn`
  | .inStopNative s => some (if env.threw.isSome then .unbind else .stopVpn s, .skip)
  | .stopVpn s => some (.inStopVpn, .stopVpn s)
  | .inStopVpn => some (.unbind, .skip)
  | .unbind => some (.resetBindRequested, .unbindService)
  | .resetBindRequested => some (.resetService, .resetBindRequested)
  | .resetService => some (.publish, .resetService)
  | .publish => some (.refresh, .publish j.finalState)
  | .refresh => some (.finished, .refresh)
  | .finished => none

/-- One step of a job, if it is not suspended. -/
def jobStep (vm : ViewModel) (id : Nat) (env : Env) : Option (ViewModel × List Obs) :=
  match vm.jobs[id]? with
  | none => none
  | some (.start j) => (vm.startNext j env).map fun (pc, eff) =>
      (vm.setJob id (.start { j with pc })).act (.start id) eff
  | some (.teardown j) => (vm.teardownNext j env).map fun (pc, eff) =>
      (vm.setJob id (.teardown { j with pc })).act (.teardown id) eff

/-! ## Main thread -/

/-- `stop()` -/
def stop (vm : ViewModel) : ViewModel × List Obs := vm.act .main (.teardown .idle)

/-- `stop()` when `cond` holds. -/
def stopIf (vm : ViewModel) (cond : Bool) : ViewModel × List Obs :=
  if cond then vm.stop else (vm, [])

/-- `startTunnel(tunnel)` -/
def startTunnel (vm : ViewModel) (tunnel : Tunnel) : ViewModel × List Obs :=
  if vm.active = .running tunnel then (vm, [])
  else
    let (vm, o) := vm.stopIf vm.active.isActive
    let vm := { vm with
      repo := vm.repo.setSelectedId tunnel.id
      selected := some tunnel
      active := .connecting tunnel }
    (vm.launchStart tunnel, o ++ [(.main, .publish (.connecting tunnel))])

/-- `startCurrent()` -/
def startCurrent (vm : ViewModel) : ViewModel × List Obs :=
  match vm.active.tunnel <|> vm.selected <|> vm.repo.getSelected with
  | none => (vm, [])
  | some tunnel => vm.startTunnel tunnel

/-- `selectTunnel(tunnel)` -/
def selectTunnel (vm : ViewModel) (tunnel : Tunnel) : ViewModel × List Obs :=
  let (vm, o) := vm.stopIf vm.active.isActive
  ({ vm with repo := vm.repo.setSelectedId tunnel.id, selected := some tunnel }, o)

/-- `addTunnel(tunnel)` -/
def addTunnel (vm : ViewModel) (tunnel : Tunnel) : ViewModel × List Obs :=
  let current := vm.repo.tunnels
  if current.any (·.id = tunnel.id) then (vm, [])
  else (({ vm with repo := vm.repo.save (current ++ [tunnel]) } : ViewModel).refresh, [])

/-- `removeTunnel(tunnel)` -/
def removeTunnel (vm : ViewModel) (tunnel : Tunnel) : ViewModel × List Obs :=
  let (vm, o) := vm.stopIf (vm.active.tunnel = some tunnel)
  let current := vm.repo.tunnels.filter (·.id ≠ tunnel.id)
  (({ vm with repo := vm.repo.save current } : ViewModel).refresh, o)

/-- `updateTunnel(old, new)` -/
def updateTunnel (vm : ViewModel) (old new : Tunnel) : ViewModel × List Obs :=
  match vm.repo.tunnels.findIdx? (·.id = old.id) with
  | none => (vm, [])
  | some idx =>
    let current := vm.repo.tunnels.set idx new
    let (vm, o) := vm.stopIf (vm.active.tunnel = some old)
    (({ vm with repo := vm.repo.save current } : ViewModel).refresh, o)

/-- The callback for a service that is gone. -/
def onServiceDisconnected (vm : ViewModel) : ViewModel × List Obs :=
  let vm := { vm with service := none }
  if vm.active = .idle then (vm, [])
  else (({ vm with active := .idle } : ViewModel).refresh, [(.main, .publish .idle)])

/-- `fail` on the main thread. -/
def fail (vm : ViewModel) (message : String) : ViewModel × List Obs :=
  if vm.startJob = none ∧ vm.teardownIsActive then (vm, [(.main, .fail message)])
  else (vm.teardown (.error message),
    [(.main, .fail message), (.main, .teardown (.error message))])

/-- What the collector does with a report. -/
def nativeProcessExited (vm : ViewModel) (message : String) : ViewModel × List Obs :=
  if vm.active.isActive then vm.fail message else (vm, [])

/-- One call, callback or step of a job. -/
def step (vm : ViewModel) : Action → Option (ViewModel × List Obs)
  | .startTunnel tunnel => some (vm.startTunnel tunnel)
  | .startCurrent => some vm.startCurrent
  | .stop => some vm.stop
  | .selectTunnel tunnel => some (vm.selectTunnel tunnel)
  | .addTunnel tunnel => some (vm.addTunnel tunnel)
  | .removeTunnel tunnel => some (vm.removeTunnel tunnel)
  | .updateTunnel old new => some (vm.updateTunnel old new)
  | .onServiceConnected s => some ({ vm with service := some s }, [])
  | .onServiceDisconnected => some vm.onServiceDisconnected
  | .nativeProcessExited message => some (vm.nativeProcessExited message)
  | .job id env => vm.jobStep id env

/-- The view model over a given store. -/
def machine (repo : TunnelRepository) : Machine ViewModel Action Obs where
  init := init repo
  step := step

end ViewModel

end OpenFlux
