import Mathlib.Data.List.Basic

/-!
# BSocksClient

The SOCKS5 client of tun2socks: it connects to the proxy, offers its authentication methods,
authenticates, asks for a connection to the destination and reads the reply.  Then it is up,
and its connection belongs to its user.

Its memory is explicit.  Each packet is written piece by piece into a buffer of the size that
was reserved for it, and each receive writes behind what it has got so far; a write outside
the buffer, an interface that is initialised or freed twice and an `ASSERT` that does not hold
set `fault`.  Whether an allocation succeeds is up to the environment.
-/

namespace OpenFlux

/-- A `BAddr` of either type.  Addresses and ports are in network byte order. -/
inductive NetAddr where
  | ipv4 (ip : Vector UInt8 4) (port : Vector UInt8 2)
  | ipv6 (ip : Vector UInt8 16) (port : Vector UInt8 2)
  deriving DecidableEq, Repr

namespace BSocksClient

/-- `STATE_CONNECTING` to `STATE_UP` -/
inductive State where
  | connecting
  | sendingHello
  | sentHello
  | sendingPassword
  | sentPassword
  | sendingRequest
  | sentRequest
  | receivedReplyHeader
  | up
  deriving DecidableEq, Repr

/-- `struct BSocksClient_auth_info` -/
inductive AuthInfo where
  | none
  | password (username password : List UInt8)
  deriving DecidableEq, Repr

/-- `SOCKS_METHOD_NO_AUTHENTICATION_REQUIRED` and `SOCKS_METHOD_USERNAME_PASSWORD` -/
def AuthInfo.authType : AuthInfo → UInt8
  | .none => 0
  | .password .. => 2

/-- The arguments of `BSocksClient_Init`. -/
structure Params where
  authInfo : List AuthInfo
  destAddr : NetAddr
  deriving DecidableEq, Repr

/-- `BSOCKSCLIENT_EVENT_ERROR`, `_UP` and `_ERROR_CLOSED` -/
inductive Event where
  | error
  | up
  | errorClosed
  deriving DecidableEq, Repr

/-- The interfaces of the connection that are initialised. -/
inductive Io where
  | none
  | control
  | up
  deriving DecidableEq, Repr

end BSocksClient

open BSocksClient in
/-- `BSocksClient`, with what its connection is doing -/
structure BSocksClient where
  state : State := .connecting
  buffer : Option (List UInt8) := none
  /-- `BConnection_Init` was done -/
  con : Bool := false
  io : Io := .none
  /-- what `control.send_sender` has not written yet -/
  sending : List UInt8 := []
  recvDest : Nat := 0
  recvLen : Nat := 0
  recvTotal : Nat := 0
  /-- how many bytes the receive under way can take -/
  wanted : Nat := 0
  /-- how many bytes of its buffer the user has offered for sending -/
  offered : Nat := 0
  fault : Bool := false
  deriving DecidableEq, Repr

namespace BSocksClient

/-- `ASSERT(c)` -/
def assert (c : Bool) (o : BSocksClient) : BSocksClient :=
  if c then o else { o with fault := true }

/-! ## Memory -/

/-- `mem` with `bytes` copied to offset `off`. -/
def overwrite (mem : List UInt8) (off : Nat) (bytes : List UInt8) : List UInt8 :=
  mem.take off ++ bytes ++ mem.drop (off + bytes.length)

/-- `reserve_buffer`.  The bytes that `BRealloc` adds are not initialised; they are zero
    here. -/
def reserveBuffer (alloc : Bool) (size : Nat) (o : BSocksClient) : Option BSocksClient :=
  if alloc then
    let old := o.buffer.getD []
    some { o with buffer := some ((old ++ List.replicate size 0).take size) }
  else none

/-- `memcpy` to offset `off` of the buffer. -/
def store (off : Nat) (bytes : List UInt8) (o : BSocksClient) : BSocksClient :=
  match o.buffer with
  | none => { o with fault := true }
  | some mem =>
    if off + bytes.length ≤ mem.length then
      { o with buffer := some (overwrite mem off bytes) }
    else { o with fault := true }

/-- The byte at offset `i` of the buffer. -/
def load (i : Nat) (o : BSocksClient) : UInt8 := ((o.buffer.getD [])[i]?).getD 0

/-! ## Interfaces of the connection -/

/-- `init_control_io` -/
def initControlIo (o : BSocksClient) : BSocksClient :=
  { o.assert (o.con && o.io = .none) with io := .control }

/-- `free_control_io` -/
def freeControlIo (o : BSocksClient) : BSocksClient :=
  { o.assert (o.io = .control) with io := .none, sending := [], wanted := 0 }

/-- `init_up_io` -/
def initUpIo (o : BSocksClient) : BSocksClient :=
  { o.assert (o.con && o.io = .none) with io := .up }

/-- `free_up_io` -/
def freeUpIo (o : BSocksClient) : BSocksClient :=
  { o.assert (o.io = .up) with io := .none, wanted := 0, offered := 0 }

/-- `BConnection_Free` -/
def freeConnection (o : BSocksClient) : BSocksClient :=
  { o.assert (o.con && o.io = .none) with con := false }

/-- `PacketPassInterface_Sender_Send(o->control.send_if, o->buffer, size)` -/
def send (size : Nat) (o : BSocksClient) : BSocksClient :=
  { o.assert (o.sending = []) with sending := (o.buffer.getD []).take size }

/-- `do_receive` -/
def doReceive (o : BSocksClient) : BSocksClient :=
  { o.assert (o.recvLen < o.recvTotal && o.wanted = 0) with
    wanted := o.recvTotal - o.recvLen }

/-- `start_receive` -/
def startReceive (dest total : Nat) (o : BSocksClient) : BSocksClient :=
  doReceive { o.assert (0 < total) with recvDest := dest, recvLen := 0, recvTotal := total }

/-! ## The handshake -/

/-- The length of the request: `sizeof(struct socks_request_header)` and the address. -/
def requestSize : NetAddr → Nat
  | .ipv4 .. => 4 + 6
  | .ipv6 .. => 4 + 18

/-- `SOCKS_ATYP_IPV4` and `SOCKS_ATYP_IPV6` -/
def atyp : NetAddr → UInt8
  | .ipv4 .. => 1
  | .ipv6 .. => 4

/-- `struct socks_addr_ipv4` and `struct socks_addr_ipv6` -/
def addrBytes : NetAddr → List UInt8
  | .ipv4 ip port => ip.toList ++ port.toList
  | .ipv6 ip port => ip.toList ++ port.toList

/-- `auth_finished` -/
def authFinished (p : Params) (alloc : Bool) (o : BSocksClient) :
    BSocksClient × Option Event :=
  match o.reserveBuffer alloc (requestSize p.destAddr) with
  | none => (o, some .error)
  | some o =>
    -- the address behind the header, then the header
    let o := o.store 4 (addrBytes p.destAddr)
    let o := o.store 0 [5, 1, 0, atyp p.destAddr]
    ({ o.send (requestSize p.destAddr) with state := .sendingRequest }, none)

/-- `connector_handler`, with whether `BConnection_Init` succeeds. -/
def connectorHandler (p : Params) (isError conInit alloc : Bool) (o : BSocksClient) :
    BSocksClient × Option Event :=
  let o := o.assert (o.state = .connecting)
  if isError then (o, some .error)
  else if !conInit then (o, some .error)
  else
    let o := initControlIo { o.assert (!o.con) with con := true }
    -- the number of methods is one byte of the hello
    if p.authInfo.length = 0 ∨ p.authInfo.length > 255 then
      (o.freeControlIo.freeConnection, some .error)
    else
      match o.reserveBuffer alloc (2 + p.authInfo.length) with
      | none => (o.freeControlIo.freeConnection, some .error)
      | some o =>
        let o := o.store 0 [5, UInt8.ofNat p.authInfo.length]
        -- the loop over the methods writes one byte each
        let o := o.store 2 (p.authInfo.map AuthInfo.authType)
        ({ o.send (2 + p.authInfo.length) with state := .sendingHello }, none)

/-- `connection_handler`; `recvClosed` is `BCONNECTION_EVENT_RECVCLOSED`, otherwise it is
    `BCONNECTION_EVENT_ERROR`. -/
def connectionHandler (recvClosed : Bool) (o : BSocksClient) : BSocksClient × Option Event :=
  let o := o.assert (o.state ≠ .connecting)
  if o.state = .up ∧ recvClosed then (o, some .errorClosed)
  else (o, some .error)

/-- The password packet, one `memcpy` after the other. -/
def writePassword (username password : List UInt8) (o : BSocksClient) : BSocksClient :=
  let o := o.store 0 [1]
  let o := o.store 1 [UInt8.ofNat username.length]
  let o := o.store 2 username
  let o := o.store (2 + username.length) [UInt8.ofNat password.length]
  o.store (2 + username.length + 1) password

/-- In `STATE_SENT_HELLO`, after the last byte. -/
def receivedHello (p : Params) (alloc : Bool) (o : BSocksClient) :
    BSocksClient × Option Event :=
  if o.load 0 ≠ 5 then (o, some .error)
  else
    -- the method has to be one that was offered
    match p.authInfo.find? (fun ai => ai.authType = o.load 1) with
    | none => (o, some .error)
    | some .none => o.authFinished p alloc
    | some (.password username password) =>
      -- the lengths are one byte each
      if username.length = 0 ∨ username.length > 255 ∨
          password.length = 0 ∨ password.length > 255 then (o, some .error)
      else
        let size := 1 + 1 + username.length + 1 + password.length
        match o.reserveBuffer alloc size with
        | none => (o, some .error)
        | some o =>
          ({ (o.writePassword username password).send size with
            state := .sendingPassword }, none)

/-- In `STATE_SENT_REQUEST`. -/
def receivedReplyHeader (o : BSocksClient) : BSocksClient × Option Event :=
  if o.load 0 ≠ 5 then (o, some .error)
  else if o.load 1 ≠ 0 then (o, some .error)
  -- the rest of the reply is an address
  else if o.load 3 = 1 then
    ({ o.startReceive 4 6 with state := .receivedReplyHeader }, none)
  else if o.load 3 = 4 then
    ({ o.startReceive 4 18 with state := .receivedReplyHeader }, none)
  else (o, some .error)

/-- In `STATE_SENT_PASSWORD`. -/
def receivedPasswordReply (p : Params) (alloc : Bool) (o : BSocksClient) :
    BSocksClient × Option Event :=
  if o.load 0 ≠ 1 then (o, some .error)
  else if o.load 1 ≠ 0 then (o, some .error)
  else o.authFinished p alloc

/-- In `STATE_RECEIVED_REPLY_HEADER`. -/
def receivedReplyRest (o : BSocksClient) : BSocksClient × Option Event :=
  ({ ({ o with buffer := none }).freeControlIo.initUpIo with state := .up }, some .up)

/-- The `switch` of `recv_handler_done`, when everything that was asked for is there. -/
def receivedAll (p : Params) (alloc : Bool) (o : BSocksClient) : BSocksClient × Option Event :=
  match o.state with
  | .sentHello => o.receivedHello p alloc
  | .sentRequest => o.receivedReplyHeader
  | .sentPassword => o.receivedPasswordReply p alloc
  | .receivedReplyHeader => o.receivedReplyRest
  -- `ASSERT(0)`
  | _ => ({ o with fault := true }, none)

/-- The connection has read `data` for the receive under way, then `recv_handler_done`. -/
def recvHandlerDone (p : Params) (alloc : Bool) (data : List UInt8) (o : BSocksClient) :
    BSocksClient × Option Event :=
  let o := { o.store (o.recvDest + o.recvLen) data with wanted := 0 }
  let o := o.assert (data.length ≤ o.recvTotal - o.recvLen)
  let o := { o with recvLen := o.recvLen + data.length }
  -- receive more, or look at the answer
  if o.recvLen < o.recvTotal then (o.doReceive, none)
  else o.receivedAll p alloc

/-- `send_handler_done`, when the whole packet was written. -/
def sendHandlerDone (alloc : Bool) (o : BSocksClient) : BSocksClient × Option Event :=
  let o := o.assert o.buffer.isSome
  match o.state with
  | .sendingHello =>
    match o.reserveBuffer alloc 2 with
    | none => (o, some .error)
    | some o => ({ o.startReceive 0 2 with state := .sentHello }, none)
  -- room for the header and the longest address
  | .sendingRequest =>
    match o.reserveBuffer alloc (4 + max 6 18) with
    | none => (o, some .error)
    | some o => ({ o.startReceive 0 4 with state := .sentRequest }, none)
  | .sendingPassword =>
    match o.reserveBuffer alloc 2 with
    | none => (o, some .error)
    | some o => ({ o.startReceive 0 2 with state := .sentPassword }, none)
  -- `ASSERT(0)`
  | _ => ({ o with fault := true }, none)

/-- The connection has written `n` bytes of the packet: `output_handler_done` of
    `PacketStreamSender`. -/
def controlWritten (alloc : Bool) (n : Nat) (o : BSocksClient) : BSocksClient × Option Event :=
  let o := { o.assert (0 < n && n ≤ o.sending.length) with sending := o.sending.drop n }
  if o.sending = [] then o.sendHandlerDone alloc
  else (o, none)

/-- `BSocksClient_Free` -/
def free (o : BSocksClient) : BSocksClient :=
  let o :=
    if o.state ≠ .connecting then
      (if o.state = .up then o.freeUpIo else o.freeControlIo).freeConnection
    else o.assert (!o.con && o.io = .none)
  { o with buffer := none }

end BSocksClient

end OpenFlux
