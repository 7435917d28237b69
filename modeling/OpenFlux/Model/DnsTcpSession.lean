import OpenFlux.ForStd.Machine
import OpenFlux.Model.Socks5

/-!
# One served client of DnsTcpRelay, with its bytes

`serve` tries the resolvers in the order of the list until `Socks5.connect` returns a socket.
Then one thread copies from the client to the upstream while `serve` itself copies the other
way, until both streams have ended.

The client, the proxy and the resolvers act in between, and each read gets as much as the
environment likes.  `Socks5.connect` may fail with an `IOException` in any of its calls; behind
it there are no I/O errors and no timeouts, and the relay is not closed.

A connection that was given up stays, because its proxy may go on with it.
-/

namespace OpenFlux

open Socks5

namespace DnsTcpSession

/-- An `InetSocketAddress` and how it is printed. -/
inductive Target where
  | ipv4 (target : Ipv4Target) (text : String)
  /-- its address is not an `Inet4Address` -/
  | other (text : String)
  deriving DecidableEq, Repr

/-- `DEFAULT_UPSTREAMS`. -/
def defaultUpstreams : List Target :=
  [.ipv4 { ip := (1, 1, 1, 1), port := 53 } "/1.1.1.1:53",
    .ipv4 { ip := (8, 8, 8, 8), port := 53 } "/8.8.8.8:53"]

/-- A target for which `Socks5.connect` threw. -/
structure Attempt where
  target : Target
  /-- the connection to the proxy, where there was one -/
  conn : Option Conn
  /-- a call failed; otherwise the target is not IPv4 or the proxy has refused -/
  ioFailed : Bool
  deriving DecidableEq, Repr

/-- Where `serve` is. -/
inductive Pc where
  /-- in `connectUpstream`, with the targets that are left -/
  | connect (targets : List Target)
  /-- in `Socks5.connect` -/
  | handshake (stage : Stage) (conn : Conn) (text : String) (targets : List Target)
  /-- both `pump`s, from the client to the upstream and back -/
  | relay (conn : Conn) (text : String) (up down : Pump UInt8)
  /-- both sockets are closed -/
  | ended (conn : Conn) (text : String)
  /-- no target is left: the client's socket is closed -/
  | failed
  deriving DecidableEq, Repr

/-- The connection in use. -/
def Pc.conn? : Pc → Option Conn
  | .handshake _ conn _ _ | .relay conn _ _ _ | .ended conn _ => some conn
  | .connect _ | .failed => none

/-- The connection in use has changed. -/
def Pc.setConn (conn : Conn) : Pc → Pc
  | .handshake stage _ text targets => .handshake stage conn text targets
  | .relay _ text up down => .relay conn text up down
  | .ended _ text => .ended conn text
  | pc => pc

/-- Whose turn it is. -/
inductive Action where
  | clientSend (bytes : List UInt8)
  | clientClose
  | clientReceive (n : Nat)
  /-- the proxy at the other end of the connection in use -/
  | proxy (a : ProxyAction)
  /-- the proxy at the other end of the connection of attempt `k` -/
  | oldProxy (k : Nat) (a : ProxyAction)
  /-- `serve` goes on; a read gets at most `n` bytes -/
  | serve (n : Nat)
  /-- a call in `Socks5.connect` throws an `IOException` -/
  | ioFailure (message : String)
  /-- `pump(client, upstream)` goes on -/
  | pumpUp (n : Nat)
  /-- `pump(upstream, client)` goes on -/
  | pumpDown (n : Nat)
  deriving DecidableEq, Repr

/-- The client and its connection to the relay. -/
structure Client where
  /-- from the client to the relay -/
  output : Pipe UInt8 := {}
  /-- from the relay to the client -/
  input : Pipe UInt8 := {}
  /-- what the client has sent -/
  sent : List UInt8 := []
  /-- what the client has received -/
  received : List UInt8 := []
  deriving DecidableEq, Repr

/-- The client sends, if it has not closed its side. -/
def Client.send (client : Client) (bytes : List UInt8) : Option Client :=
  if client.output.closed then none
  else some { client with output := client.output.write bytes, sent := client.sent ++ bytes }

/-- The client reads at most `n` bytes. -/
def Client.receive (client : Client) (n : Nat) : Option Client :=
  (client.input.read n).map fun r =>
    { client with input := r.2, received := client.received ++ r.1 }

end DnsTcpSession

open DnsTcpSession

/-- One client with the task that serves it. -/
structure DnsTcpSession where
  pc : Pc
  attempts : List Attempt := []
  client : Client := {}
  deriving DecidableEq, Repr

namespace DnsTcpSession

/-- The `catch` in `connectUpstream`: on to the next target, with a warning. -/
def giveUp (s : DnsTcpSession) (attempt : Attempt) (text message : String)
    (targets : List Target) : DnsTcpSession × List String :=
  ({ s with pc := .connect targets, attempts := s.attempts ++ [attempt] },
    ["DNS via tunnel to " ++ text ++ " failed: " ++ message])

/-- `socket.close()` by the relay. -/
def closed (conn : Conn) : Conn := { conn with up := conn.up.close }

/-- `serve`, up to the pumps and behind them. -/
def serveStep (s : DnsTcpSession) (n : Nat) : Option (DnsTcpSession × List String) :=
  match s.pc with
  | .connect [] => some ({ s with pc := .failed }, [])
  | .connect (.other text :: targets) =>
    some (s.giveUp { target := .other text, conn := none, ioFailed := false } text
      ("SOCKS5 needs an IPv4 target, got " ++ text) targets)
  | .connect (.ipv4 target text :: targets) =>
    some ({ s with pc := .handshake .greet { target } text targets }, [])
  | .handshake stage conn text targets =>
    match stage.step text n conn with
    | none => none
    | some (.next stage conn) => some ({ s with pc := .handshake stage conn text targets }, [])
    | some (.connected conn) =>
      some ({ s with pc := .relay conn text (.copying []) (.copying []) }, [])
    | some (.throws message) =>
      some (s.giveUp
        { target := .ipv4 conn.target text, conn := some (closed conn), ioFailed := false } text
        message targets)
  -- `serve` waits for both pumps
  | .relay conn text .done .done => some ({ s with pc := .ended conn text }, [])
  | .relay .. | .ended .. | .failed => none

/-- An `IOException` in `Socks5.connect`, which is caught in `connectUpstream`. -/
def ioFailure (s : DnsTcpSession) (message : String) : Option (DnsTcpSession × List String) :=
  match s.pc with
  -- `socket.connect` throws before there is a connection
  | .connect (.ipv4 target text :: targets) =>
    some (s.giveUp { target := .ipv4 target text, conn := none, ioFailed := true } text message
      targets)
  -- any call in the handshake throws, and the socket is closed
  | .handshake _ conn text targets =>
    some (s.giveUp
      { target := .ipv4 conn.target text, conn := some (closed conn), ioFailed := true } text
      message targets)
  | _ => none

/-- One step of the session; it emits warnings. -/
def step (s : DnsTcpSession) : Action → Option (DnsTcpSession × List String)
  | .clientSend bytes => (s.client.send bytes).map fun client => ({ s with client }, [])
  | .clientClose =>
    some ({ s with client := { s.client with output := s.client.output.close } }, [])
  | .clientReceive n => (s.client.receive n).map fun client => ({ s with client }, [])
  -- only the connection in use and those of earlier attempts have a proxy at their end
  | .proxy a =>
    match s.pc.conn? with
    | none => none
    | some conn => (conn.proxyStep a).map fun conn => ({ s with pc := s.pc.setConn conn }, [])
  | .oldProxy k a =>
    match s.attempts[k]? with
    | some { conn := some conn, target, ioFailed } =>
      (conn.proxyStep a).map fun conn =>
        ({ s with attempts := s.attempts.set k { target, conn := some conn, ioFailed } }, [])
    | _ => none
  | .serve n => s.serveStep n
  | .ioFailure message => s.ioFailure message
  -- the pumps run from the end of the handshake on, each in its thread
  | .pumpUp n =>
    match s.pc with
    | .relay conn text up down =>
      (up.step n s.client.output conn.up).map fun r =>
        ({ s with
            pc := .relay { conn with up := r.2.2 } text r.1 down
            client := { s.client with output := r.2.1 } }, [])
    | _ => none
  | .pumpDown n =>
    match s.pc with
    | .relay conn text up down =>
      (down.step n conn.down s.client.input).map fun r =>
        ({ s with
            pc := .relay { conn with down := r.2.1 } text up r.1
            client := { s.client with input := r.2.2 } }, [])
    | _ => none

/-- `serve` of a client that has just been accepted. -/
def machine (upstreams : List Target) : Machine DnsTcpSession Action String where
  init := { pc := .connect upstreams }
  step

end DnsTcpSession

end OpenFlux
