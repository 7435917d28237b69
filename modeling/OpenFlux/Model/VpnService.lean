import OpenFlux.ForStd.Machine

/-!
# SocksVpnService

The service with its `VpnServiceController` (the VPN interface and `isRunning`) and its
`Tun2SocksLauncher` (the DNS relay and the helper processes).

`startTun2Socks` runs under the service's lock and takes seconds: it opens the relay,
launches pdnsd and tun2socks with a sleep behind each and tries up to ten times to hand
over the file descriptor.  `stopEverything` does not take the lock.  It is called by
`stopVpn`, `onRevoke`, `onDestroy`, after an unexpected exit and by a `startTun2Socks` that
has failed.  `onStartCommand` establishes the interface.

A step of a thread is one access to a field, one call or one sleep.  Interfaces and relays
are numbered in the order in which they were opened.  The notifications, the helper
processes and the supervisor have no part in what is proved about the service here.
-/

namespace OpenFlux

namespace VpnService

/-- Where a `stopEverything` is. -/
inductive StopPc where
  /-- before the two pid files -/
  | killHelpers
  /-- `dnsRelay?.close()` and `dnsRelay = null` -/
  | readRelay
  | closeRelay (r : Nat)
  | clearRelay
  | stopSupervisor
  /-- `iface?.close()`, `iface = null` and `isRunning.set(false)` -/
  | readIface
  | closeIface (i : Nat)
  | clearIface
  | clearRunning
  | stopSelf
  | returned
  deriving DecidableEq, Repr

/-- Where a `startTun2Socks` is. -/
inductive StartPc where
  /-- waiting for the lock -/
  | acquire
  -- the checks of `startTun2Socks`
  | readFd
  | readIntent
  /-- from here on in `tun2socks.start` -/
  | prepareSock
  | openRelay
  | assignRelay (r : Nat)
  | allocPort
  | writeConf
  | startPdnsd
  | startTun2Socks
  -- the loop over the attempts
  | sendFd (attempt : Nat)
  | retryDelay (attempt : Nat)
  /-- `vpn.isRunning.set(true)` -/
  | setRunning
  /-- in the `stopEverything` of a start that has failed -/
  | stopping (pc : StopPc)
  | release
  | returned
  deriving DecidableEq, Repr

/-- Where an `onStartCommand` is. -/
inductive CommandPc where
  | setIntent
  /-- `vpn.isConfigured()`, and the same test in `configure` -/
  | testConfigured
  | testIface
  | establish
  | returned
  deriving DecidableEq, Repr

/-- The threads inside the service. -/
inductive Thread where
  | start (pc : StartPc)
  | stop (pc : StopPc)
  | command (pc : CommandPc)
  deriving DecidableEq, Repr

/-- A `ParcelFileDescriptor` of the VPN interface. -/
structure Iface where
  fd : Int
  isOpen : Bool := true
  deriving DecidableEq, Repr

/-- What a step does to the service. -/
inductive Effect where
  | skip
  | acquire
  | release
  /-- `startTun2Socks` has passed its checks and calls `tun2socks.start` -/
  | launch
  | openRelay
  | setRelay (r : Option Nat)
  | closeRelay (r : Nat)
  | setIntent
  | establish (fd : Option Int)
  | closeIface (i : Nat)
  | clearIface
  | setRunning (b : Bool)
  /-- the end of a `stopEverything` -/
  | stopSelf
  deriving DecidableEq, Repr

/-- An effect and the thread that had it. -/
abbrev Obs := Nat × Effect

/-- What the environment answers in a step. -/
structure Env where
  threw : Bool := false
  /-- the result of `builder.establish()` -/
  established : Option Int := none
  /-- `sendfd` returned 0 -/
  sent : Bool := false
  interrupted : Bool := false
  deriving DecidableEq, Repr

/-- A call, or a step of a thread. -/
inductive Action where
  | callStartTun2Socks
  | callStopEverything
  | onStartCommand
  | thread (id : Nat) (env : Env)
  deriving DecidableEq, Repr

/-- `SEND_FD_ATTEMPTS`. -/
def sendFdAttempts : Nat := 10

end VpnService

/-- The fields of the service, with the descriptors and relays there have been. -/
structure VpnService where
  iface : Option Nat := none
  isRunning : Bool := false
  dnsRelay : Option Nat := none
  /-- `lastIntent` is not null -/
  hasIntent : Bool := false
  /-- the thread that holds the service's lock -/
  lock : Option Nat := none
  ifaces : List VpnService.Iface := []
  /-- for each relay whether it is open -/
  relays : List Bool := []
  threads : List VpnService.Thread := []
  deriving DecidableEq, Repr

namespace VpnService

/-! ## Shared state -/

/-- An effect on the service. -/
def perform (svc : VpnService) (id : Nat) : Effect → VpnService
  | .acquire => { svc with lock := some id }
  | .release => { svc with lock := none }
  | .openRelay => { svc with relays := svc.relays ++ [true] }
  | .setRelay r => { svc with dnsRelay := r }
  | .closeRelay r => { svc with relays := svc.relays.set r false }
  | .setIntent => { svc with hasIntent := true }
  | .establish none => { svc with iface := none }
  | .establish (some fd) =>
    { svc with iface := some svc.ifaces.length, ifaces := svc.ifaces ++ [{ fd }] }
  | .closeIface i => { svc with ifaces := svc.ifaces.modify i ({ · with isOpen := false }) }
  | .clearIface => { svc with iface := none }
  | .setRunning b => { svc with isRunning := b }
  | .skip | .launch | .stopSelf => svc

/-- A thread goes on. -/
def setThread (svc : VpnService) (id : Nat) (t : Thread) : VpnService :=
  { svc with threads := svc.threads.set id t }

/-- A call comes in. -/
def launch (svc : VpnService) (t : Thread) : VpnService :=
  { svc with threads := svc.threads ++ [t] }

/-- What `vpn.fd` yields: the descriptor, `-1` without an interface, or an exception
    (`none`) from one that was closed. -/
def fd (svc : VpnService) : Option Int :=
  match svc.iface with
  | none => some (-1)
  | some i => (svc.ifaces[i]?).bind fun f => if f.isOpen then some f.fd else none

/-! ## Thread bodies -/

/-- One step of `stopEverything`. -/
def stopNext (svc : VpnService) : StopPc → Option (StopPc × Effect)
  -- the helpers are other processes, which the service's state says nothing about
  | .killHelpers => some (.readRelay, .skip)
  | .readRelay => some (match svc.dnsRelay with
      | some r => .closeRelay r
      | none => .clearRelay, .skip)
  | .closeRelay r => some (.clearRelay, .closeRelay r)
  | .clearRelay => some (.stopSupervisor, .setRelay none)
  | .stopSupervisor => some (.readIface, .skip)
  -- `?.` reads the field before it acts on the value
  | .readIface => some (match svc.iface with
      | some i => .closeIface i
      | none => .clearIface, .skip)
  | .closeIface i => some (.clearIface, .closeIface i)
  | .clearIface => some (.clearRunning, .clearIface)
  | .clearRunning => some (.stopSelf, .setRunning false)
  | .stopSelf => some (.returned, .stopSelf)
  | .returned => none

/-- A statement of `tun2socks.start` that may throw, out of `startTun2Socks`. -/
def orThrow (env : Env) (next : StartPc × Effect) : StartPc × Effect :=
  if env.threw then (.release, .skip) else next

/-- One step of `startTun2Socks`. -/
def startNext (svc : VpnService) (env : Env) : StartPc → Option (StartPc × Effect)
  | .acquire => if svc.lock = none then some (.readFd, .acquire) else none
  -- an interface that was closed throws, and the lock is released
  | .readFd => some (match svc.fd with
      | some fd => if fd ≤ 0 then .release else .readIntent
      | none => .release, .skip)
  | .readIntent => some (if svc.hasIntent then (.prepareSock, .launch) else (.release, .skip))
  | .prepareSock => some (orThrow env (.openRelay, .skip))
  | .openRelay => some (orThrow env (.assignRelay svc.relays.length, .openRelay))
  | .assignRelay r => some (.allocPort, .setRelay (some r))
  | .allocPort => some (orThrow env (.writeConf, .skip))
  | .writeConf => some (orThrow env (.startPdnsd, .skip))
  | .startPdnsd => some (orThrow env (.startTun2Socks, .skip))
  | .startTun2Socks => some (orThrow env (.sendFd 1, .skip))
  | .sendFd attempt => some (if env.sent then .setRunning else .retryDelay attempt, .skip)
  -- after the last attempt everything is stopped
  | .retryDelay attempt =>
    some (if env.interrupted || sendFdAttempts ≤ attempt then .stopping .killHelpers
      else .sendFd (attempt + 1), .skip)
  | .setRunning => some (.release, .setRunning true)
  -- the lock is still held
  | .stopping pc =>
    match svc.stopNext pc with
    | some (pc, eff) => some (.stopping pc, eff)
    | none => some (.release, .skip)
  | .release => some (.returned, .release)
  | .returned => none

/-- One step of `onStartCommand`. -/
def commandNext (svc : VpnService) (env : Env) : CommandPc → Option (CommandPc × Effect)
  | .setIntent => some (.testConfigured, .setIntent)
  | .testConfigured => some (if svc.iface.isSome then .returned else .testIface, .skip)
  | .testIface => some (if svc.iface.isSome then .returned else .establish, .skip)
  | .establish => some (.returned, if env.threw then .skip else .establish env.established)
  | .returned => none

/-- One step of a thread: where it is then and what it does. -/
def threadNext (svc : VpnService) (env : Env) : Thread → Option (Thread × Effect)
  | .start pc => (svc.startNext env pc).map fun (pc, eff) => (.start pc, eff)
  | .stop pc => (svc.stopNext pc).map fun (pc, eff) => (.stop pc, eff)
  | .command pc => (svc.commandNext env pc).map fun (pc, eff) => (.command pc, eff)

/-- An effect is observed if there was one. -/
def record (id : Nat) (eff : Effect) : List Obs := if eff = .skip then [] else [(id, eff)]

/-- An `onStartCommand` in progress; the main thread runs one at a time. -/
def Thread.isActiveCommand : Thread → Bool
  | command pc => pc ≠ .returned
  | _ => false

/-- One action, where it can happen. -/
def step (svc : VpnService) : Action → Option (VpnService × List Obs)
  | .callStartTun2Socks => some (svc.launch (.start .acquire), [])
  | .callStopEverything => some (svc.launch (.stop .killHelpers), [])
  | .onStartCommand =>
    if svc.threads.any (·.isActiveCommand) then none
    else some (svc.launch (.command .setIntent), [])
  | .thread id env =>
    match svc.threads[id]? with
    | none => none
    | some t => (svc.threadNext env t).map fun (t, eff) =>
        ((svc.setThread id t).perform id eff, record id eff)

/-- A service instance after `onCreate`. -/
def machine : Machine VpnService Action Obs where
  init := {}
  step

end VpnService

end OpenFlux
