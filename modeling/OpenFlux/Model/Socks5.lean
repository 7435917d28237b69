import OpenFlux.ForStd.BigEndian
import OpenFlux.ForStd.Pipe

/-!
# Socks5.connect and the proxy

`Socks5.connect` opens a connection to the local proxy, asks for "no authentication", sends a
CONNECT request and reads ten bytes of reply.  Each read gets some of the bytes that have
arrived; `readFully` goes on until its array is full and throws `EOFException` at the end of
the stream.

The proxy conforms to RFC 1928: it answers a complete greeting and a complete request, and
its reply carries a bound address of any type.  Behind the reply it carries bytes between the
connection and the resolver that was asked for.  A proxy that refuses closes the connection.
-/

namespace OpenFlux

open BigEndian

namespace Socks5

/-! ## Messages of RFC 1928 -/

/-- An IPv4 socket address. -/
structure Ipv4Target where
  ip : UInt8 × UInt8 × UInt8 × UInt8
  port : UInt16
  deriving DecidableEq, Repr

/-- The bound address in a reply, with its type. -/
inductive Bound where
  | ipv4 (a b c d : UInt8)
  | domain (name : { name : List UInt8 // 0 < name.length ∧ name.length < 256 })
  | ipv6 (address : Vector UInt8 16)
  deriving DecidableEq, Repr

/-- ATYP. -/
def Bound.type : Bound → UInt8
  | .ipv4 .. => 1
  | .domain _ => 3
  | .ipv6 _ => 4

/-- BND.ADDR. -/
def Bound.bytes : Bound → List UInt8
  | .ipv4 a b c d => [a, b, c, d]
  | .domain name => UInt8.ofNat name.val.length :: name.val
  | .ipv6 address => address.toList

/-- The reply to a CONNECT. -/
def replyBytes (rep : UInt8) (bound : Bound) (port : UInt16) : List UInt8 :=
  [5, rep, 0, bound.type] ++ bound.bytes ++ write16 port

/-! ## The proxy -/

/-- Where the proxy is. -/
inductive ProxyPc where
  /-- waits for the greeting -/
  | greeting
  /-- waits for the request -/
  | request
  /-- has found no acceptable method -/
  | noMethod
  /-- has refused the CONNECT -/
  | refused
  /-- carries bytes to and from `resolver` -/
  | connected (resolver : Ipv4Target)
  deriving DecidableEq, Repr

/-- A connection from the relay to the proxy. -/
structure Conn where
  target : Ipv4Target
  /-- from the relay to the proxy -/
  up : Pipe UInt8 := {}
  /-- from the proxy to the relay -/
  down : Pipe UInt8 := {}
  proxy : ProxyPc := .greeting
  /-- what the resolver has received -/
  received : List UInt8 := []
  /-- what the resolver has sent behind the reply -/
  sent : List UInt8 := []
  deriving DecidableEq, Repr

/-- What the proxy and the resolver behind it do. -/
inductive ProxyAction where
  /-- answer the greeting -/
  | method (accept : Bool)
  /-- answer the request -/
  | reply (rep : UInt8) (bound : Bound) (port : UInt16)
  /-- close the connection after a refusal -/
  | close
  | resolverReceive (n : Nat)
  | resolverSend (bytes : List UInt8)
  | resolverClose
  deriving DecidableEq, Repr

/-- One step of the proxy; `none` if it has to wait. -/
def Conn.proxyStep (c : Conn) : ProxyAction → Option Conn
  | .method accept =>
    match c.proxy, c.up.queue with
    | .greeting, 5 :: n :: rest =>
      -- it accepts no authentication only if that was offered
      if rest.length < n.toNat ∨ accept ∧ 0 ∉ rest.take n.toNat then none
      else some { c with
        up := { c.up with queue := rest.drop n.toNat }
        down := c.down.write [5, if accept then 0 else 0xFF]
        proxy := if accept then .request else .noMethod }
    | _, _ => none
  -- it answers a CONNECT to an IPv4 address, with any address that it likes
  | .reply rep bound port =>
    match c.proxy, c.up.queue with
    | .request, 5 :: 1 :: _ :: 1 :: i₀ :: i₁ :: i₂ :: i₃ :: p₀ :: p₁ :: rest =>
      some { c with
        up := { c.up with queue := rest }
        down := c.down.write (replyBytes rep bound port)
        proxy := if rep = 0 then .connected { ip := (i₀, i₁, i₂, i₃), port := read16 p₀ p₁ }
          else .refused }
    | _, _ => none
  | .close =>
    match c.proxy with
    | .noMethod | .refused => if c.down.closed then none else some { c with down := c.down.close }
    | _ => none
  | .resolverReceive n =>
    match c.proxy with
    | .connected _ => (c.up.read n).map fun r => { c with up := r.2, received := c.received ++ r.1 }
    | _ => none
  | .resolverSend bytes =>
    match c.proxy with
    | .connected _ =>
      if c.down.closed then none
      else some { c with down := c.down.write bytes, sent := c.sent ++ bytes }
    | _ => none
  -- the resolver may close at any time, and more than once
  | .resolverClose =>
    match c.proxy with
    | .connected _ => some { c with down := c.down.close }
    | _ => none

/-! ## `connect` behind `socket.connect` -/

/-- The next call in `connect`. -/
inductive Stage where
  /-- `out.write(byteArrayOf(5, 1, 0))` -/
  | greet
  /-- `ByteArray(2).also(input::readFully)` with the bytes it has got -/
  | method (got : List UInt8)
  /-- the write of the request -/
  | request
  /-- `ByteArray(10).also(input::readFully)` with the bytes it has got -/
  | reply (got : List UInt8)
  deriving DecidableEq, Repr

/-- What a call in `connect` leads to. -/
inductive Outcome where
  | next (stage : Stage) (c : Conn)
  | connected (c : Conn)
  /-- an `IOException` with this message -/
  | throws (message : String)
  deriving DecidableEq, Repr

/-- The greeting: one method, which is no authentication. -/
def greeting : List UInt8 := [5, 1, 0]

/-- The request to connect to an IPv4 address. -/
def requestBytes (target : Ipv4Target) : List UInt8 :=
  [5, 1, 0, 1, target.ip.1, target.ip.2.1, target.ip.2.2.1, target.ip.2.2.2] ++
    write16 target.port

/-- One read of `readFully`, of at most `n` bytes. -/
def readMore (c : Conn) (n want : Nat) (got : List UInt8) (stage : List UInt8 → Stage) :
    Option Outcome :=
  -- the message of an `EOFException` is null
  if c.down.atEnd then some (.throws "null")
  else (c.down.read (min n (want - got.length))).map fun r =>
    .next (stage (got ++ r.1)) { c with down := r.2 }

/-- A `Byte` as it is printed. -/
def byteText (b : UInt8) : String := toString b.toInt8.toInt

/-- One step of `connect` to a target that is printed as `text`. -/
def Stage.step (text : String) (n : Nat) (c : Conn) : Stage → Option Outcome
  | .greet => some (.next (.method []) { c with up := c.up.write greeting })
  | .method got =>
    if got.length < 2 then readMore c n 2 got .method
    else if got = [5, 0] then some (.next .request c)
    else some (.throws "SOCKS5 proxy refused no-auth")
  | .request => some (.next (.reply []) { c with up := c.up.write (requestBytes c.target) })
  | .reply got =>
    if got.length < 10 then readMore c n 10 got .reply
    -- of the reply only the second byte is looked at
    else if got.getD 1 0 ≠ 0 then
      some (.throws ("SOCKS5 connect to " ++ text ++ " failed (reply " ++
        byteText (got.getD 1 0) ++ ")"))
    else some (.connected c)

end Socks5

end OpenFlux
