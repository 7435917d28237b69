import OpenFlux.ForStd.Machine

/-!
# DnsTcpRelay

The relay runs on a cached thread pool.  The accept loop is one task of it, each accepted
client is served by another, and each `serve` submits a third that copies from the client to
the upstream while it copies the other way itself.  `close()` sets `closed`, closes the
server socket and shuts the pool down, in three steps and without waiting for anybody.

`execute` and `submit` throw `RejectedExecutionException` once the pool is shut down.  An
exception that leaves a task given to `execute` is uncaught; a task given to `submit` keeps
its exception in the future.  `use` closes its socket on every way out and throws what
`close` throws only if nothing was thrown before.

The bytes are left out: how long a copy lasts and whether it ends with an exception makes no
difference, because `pump` catches `IOException`.  A socket counts as closed as soon as
`close` was called.
-/

namespace OpenFlux

namespace DnsTcpRelay

/-- What can be thrown here: the `RejectedExecutionException` of the pool and the
    `IOException` of a socket. -/
inductive Exn where
  | rejectedExecution
  | io
  deriving DecidableEq, Repr

/-- Where the accept loop is. -/
inductive AcceptPc where
  /-- `while (!closed)` -/
  | test
  | accept
  /-- `pool.execute { serve(client) }` -/
  | execute (client : Nat)
  | ended
  | died (exn : Exn)
  deriving DecidableEq, Repr

/-- Where a `pump` is. -/
inductive PumpPc where
  | copy
  /-- `runCatching { to.shutdownOutput() }` -/
  | shutdownOutput
  deriving DecidableEq, Repr

/-- Where `serve` is. -/
inductive ServePc where
  /-- in `connectUpstream`, with the targets that are left -/
  | connect (targets : List String)
  /-- `client.soTimeout = IDLE_TIMEOUT_MS` -/
  | clientTimeout (upstream : Nat)
  | upstreamTimeout (upstream : Nat)
  /-- `pool.submit { pump(client, upstream) }` -/
  | submit (upstream : Nat)
  | pump (upstream : Nat) (pc : PumpPc)
  /-- `runCatching { toUpstream.get(..) }` -/
  | get (upstream : Nat)
  /-- the end of `upstream.use`, left with an exception or without one -/
  | closeUpstream (upstream : Nat) (exn : Option Exn)
  | closeClient (exn : Option Exn)
  | ended
  | died (exn : Exn)
  deriving DecidableEq, Repr

/-- Where `close()` is. -/
inductive ClosePc where
  | setClosed
  | closeServer
  | shutdownNow
  | returned
  deriving DecidableEq, Repr

/-- The tasks of the pool, and the calls of `close()`. -/
inductive Thread where
  | acceptLoop (pc : AcceptPc)
  | serve (client : Nat) (pc : ServePc)
  /-- `pump(client, upstream)` as a task, `none` when it has ended -/
  | pump (pc : Option PumpPc)
  | close (pc : ClosePc)
  deriving DecidableEq, Repr

/-- The exception that ended a task. -/
def Thread.uncaught : Thread → Option Exn
  | .acceptLoop (.died exn) => some exn
  | .serve _ (.died exn) => some exn
  | _ => none

/-- What a step of a task does to the relay. -/
inductive Effect where
  | skip
  /-- `Logx.w(TAG, message)` -/
  | warn (message : String)
  /-- a connected socket, from `accept` or from `Socks5.connect` -/
  | newSocket
  | closeSocket (socket : Nat)
  /-- the pool takes a task -/
  | run (task : Thread)
  | setClosed
  | closeServer
  | shutdownNow
  deriving DecidableEq, Repr

/-- What the outside does in a step. -/
structure Env where
  /-- the call fails with an `IOException` -/
  fails : Bool := false
  /-- its message -/
  message : String := ""
  deriving DecidableEq, Repr

/-- Whose turn it is. -/
inductive Action where
  /-- a call of `close()` -/
  | close
  | thread (id : Nat) (env : Env)
  deriving DecidableEq, Repr

/-- `DEFAULT_UPSTREAMS`, as they are printed. -/
def defaultUpstreams : List String := ["/1.1.1.1:53", "/8.8.8.8:53"]

end DnsTcpRelay

open DnsTcpRelay

/-- The fields of the relay, with the sockets and the tasks of its pool. -/
structure DnsTcpRelay where
  upstreams : List String := defaultUpstreams
  closed : Bool := false
  serverOpen : Bool := true
  /-- whether the pool is shut down -/
  shutdown : Bool := false
  /-- whether each socket is open -/
  sockets : List Bool := []
  threads : List Thread := []
  deriving DecidableEq, Repr

namespace DnsTcpRelay

/-- A task goes on. -/
def setThread (relay : DnsTcpRelay) (id : Nat) (t : Thread) : DnsTcpRelay :=
  { relay with threads := relay.threads.set id t }

/-- An effect on the relay. -/
def perform (relay : DnsTcpRelay) : Effect → DnsTcpRelay
  | .skip | .warn _ => relay
  | .newSocket => { relay with sockets := relay.sockets ++ [true] }
  | .closeSocket s => { relay with sockets := relay.sockets.set s false }
  | .run t => { relay with threads := relay.threads ++ [t] }
  | .setClosed => { relay with closed := true }
  | .closeServer => { relay with serverOpen := false }
  | .shutdownNow => { relay with shutdown := true }

/-- `start()` on a new relay. -/
def start (upstreams : List String) : DnsTcpRelay :=
  { upstreams, threads := [.acceptLoop .test] }

/-! ## The tasks -/

/-- The accept loop. -/
def acceptNext (relay : DnsTcpRelay) (env : Env) : AcceptPc → Option (AcceptPc × Effect)
  | .test => if relay.closed then some (.ended, .skip) else some (.accept, .skip)
  | .accept =>
    if relay.serverOpen && !env.fails then some (.execute relay.sockets.length, .newSocket)
    else if relay.closed then some (.ended, .skip)
    else some (.ended, .warn ("accept failed: " ++ env.message))
  -- `execute` throws outside of the `try`
  | .execute client =>
    if relay.shutdown then some (.died .rejectedExecution, .skip)
    else some (.test, .run (.serve client (.connect relay.upstreams)))
  | .ended | .died _ => none

/-- The exception after a `use`: what its block threw, or else what `close` throws. -/
def afterUse (exn : Option Exn) (env : Env) : Option Exn :=
  exn <|> if env.fails then some .io else none

/-- `serve(client)` -/
def serveNext (relay : DnsTcpRelay) (client : Nat) (env : Env) :
    ServePc → Option (ServePc × Effect)
  | .connect [] => some (.closeClient none, .skip)
  | .connect (target :: targets) =>
    if env.fails then
      some (.connect targets,
        .warn ("DNS via tunnel to " ++ target ++ " failed: " ++ env.message))
    else some (.clientTimeout relay.sockets.length, .newSocket)
  | .clientTimeout upstream =>
    if env.fails then some (.closeUpstream upstream (some .io), .skip)
    else some (.upstreamTimeout upstream, .skip)
  | .upstreamTimeout upstream =>
    if env.fails then some (.closeUpstream upstream (some .io), .skip)
    else some (.submit upstream, .skip)
  -- `submit` throws inside of both `use` blocks
  | .submit upstream =>
    if relay.shutdown then some (.closeUpstream upstream (some .rejectedExecution), .skip)
    else some (.pump upstream .copy, .run (.pump (some .copy)))
  | .pump upstream .copy => some (.pump upstream .shutdownOutput, .skip)
  | .pump upstream .shutdownOutput => some (.get upstream, .skip)
  -- done, timed out, interrupted or failed: `runCatching` goes on
  | .get upstream => some (.closeUpstream upstream none, .skip)
  | .closeUpstream upstream exn =>
    some (.closeClient (afterUse exn env), .closeSocket upstream)
  | .closeClient exn =>
    match afterUse exn env with
    | none => some (.ended, .closeSocket client)
    | some thrown => some (.died thrown, .closeSocket client)
  | .ended | .died _ => none

/-- `pump(client, upstream)` as a task of its own -/
def pumpNext : Option PumpPc → Option (Option PumpPc × Effect)
  | some .copy => some (some .shutdownOutput, .skip)
  | some .shutdownOutput => some (none, .skip)
  | none => none

/-- `close()` -/
def closeNext (env : Env) : ClosePc → Option (ClosePc × Effect)
  | .setClosed => some (.closeServer, .setClosed)
  -- in `runCatching`
  | .closeServer =>
    if env.fails then some (.shutdownNow, .skip) else some (.shutdownNow, .closeServer)
  | .shutdownNow => some (.returned, .shutdownNow)
  | .returned => none

/-! ## Steps -/

/-- The next step of a task, if it is not blocked or done. -/
def threadNext (relay : DnsTcpRelay) (env : Env) : Thread → Option (Thread × Effect)
  | .acceptLoop pc => (relay.acceptNext env pc).map fun r => (.acceptLoop r.1, r.2)
  | .serve client pc => (relay.serveNext client env pc).map fun r => (.serve client r.1, r.2)
  | .pump pc => (pumpNext pc).map fun r => (.pump r.1, r.2)
  | .close pc => (closeNext env pc).map fun r => (.close r.1, r.2)

/-- The warnings of a step. -/
def record : Effect → List String
  | .warn message => [message]
  | _ => []

/-- One step of a task, or a new call of `close()`. -/
def step (relay : DnsTcpRelay) : Action → Option (DnsTcpRelay × List String)
  | .close => some ({ relay with threads := relay.threads ++ [.close .setClosed] }, [])
  | .thread id env =>
    match relay.threads[id]? with
    | none => none
    | some t =>
      (relay.threadNext env t).map fun r => ((relay.setThread id r.1).perform r.2, record r.2)

/-- The relay from `start()` on. -/
def machine (upstreams : List String) : Machine DnsTcpRelay Action String where
  init := start upstreams
  step

end DnsTcpRelay

end OpenFlux
