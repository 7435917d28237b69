import OpenFlux.ForStd.Machine
import OpenFlux.ForStd.Pipe
import OpenFlux.Model.BSocksClient

/-!
# A TCP connection through tun2socks

tun2socks terminates the TCP connections of the device in lwIP and carries each one over a
SOCKS connection of its own.  `struct tcp_client` stands between the two: `client_*` are the
callbacks of lwIP's pcb and the handlers of the SOCKS client.

A `Relay` is one such client with the SOCKS client, the pcb and the connection to the proxy.
`step` takes one event of the reactor or of lwIP with all the calls that follow from it.  What
the environment decides is in the action: how much is written and read at a time, when the
application sends, acknowledges, closes or resets, what `tcp_write` and `tcp_output` return,
and any bytes at all from the proxy.

A callback of lwIP that schedules something for SOCKS runs the scheduled jobs before it
returns (`SYNC_COMMIT`) and then looks only at whether the client was freed, so that these jobs
are steps of their own here.  An `ASSERT` that does not hold sets `fault`.
-/

namespace OpenFlux

open BSocksClient (Event Params)

/-- `TCP_WND`, that is `4 * TCP_MSS` -/
def tcpWnd : Nat := 4 * 1460

/-- `TCP_SND_BUF` -/
def tcpSndBuf : Nat := 16384

/-- `CLIENT_SOCKS_RECV_BUF_SIZE` -/
def clientSocksRecvBufSize : Nat := 8192

/-- The fields of `struct tcp_client` that its functions work on. -/
structure TcpClient where
  clientClosed : Bool := false
  /-- the first `buf_used` bytes of `buf` -/
  buf : List UInt8 := []
  socksUp : Bool := false
  socksClosed : Bool := false
  /-- the first `socks_recv_buf_used` bytes of `socks_recv_buf`; `none` if that is -1 -/
  socksRecvBuf : Option (List UInt8) := none
  socksRecvBufSent : Nat := 0
  socksRecvWaiting : Bool := false
  socksRecvTcpPending : Nat := 0
  deriving DecidableEq, Repr

/-- What lwIP keeps for the connection: the callbacks that are set, the receive window and
    what was written and not acknowledged. -/
structure Pcb where
  recv : Bool := true
  sent : Bool := false
  err : Bool := true
  rcvWnd : Nat := tcpWnd
  unacked : List UInt8 := []
  deriving DecidableEq, Repr

/-- The messages of `client_log`, and that of `terminate`. -/
inductive LogMsg where
  | accepted
  | waitingForSocks
  | waitingForClient
  | clientError
  | clientClosed
  | noBuffer
  | socksError
  | socksUp
  | socksClosed
  | removingAfterClient
  | removingAfterSocks
  | tcpWriteFailed
  | tcpOutputFailed
  | cantQueue
  | tearingDown
  deriving DecidableEq, Repr

/-- A client with everything around it, and the streams that have passed through it. -/
structure Relay where
  client : TcpClient := {}
  socks : BSocksClient := {}
  pcb : Pcb := {}
  /-- what the proxy has sent and the SOCKS client has not read -/
  down : Pipe UInt8 := {}
  /-- `client_dealloc` was called -/
  dealloc : Bool := false
  fault : Bool := false
  log : List LogMsg := [.accepted]
  /-- what `client_recv_func` has taken from the application -/
  fromApp : List UInt8 := []
  /-- what was written to the connection to the proxy -/
  toServer : List UInt8 := []
  /-- what was read from the connection to the proxy -/
  fromServer : List UInt8 := []
  /-- what `tcp_write` has taken for the application -/
  toApp : List UInt8 := []
  deriving DecidableEq, Repr

/-- `err_t`, as far as it is looked at. -/
inductive Err where
  | ok
  | mem
  | other
  deriving DecidableEq, Repr

/-- What lwIP returns while one callback runs: for the calls of `tcp_write` in turn (and
    `ERR_OK` for any further ones), and for `tcp_output`. -/
structure TcpResults where
  writes : List Err := []
  output : Err := .ok
  deriving DecidableEq, Repr

namespace Relay

/-- `ASSERT(c)` -/
def assert (c : Bool) (s : Relay) : Relay :=
  if c then s else { s with fault := true }

/-- `client_log` -/
def clientLog (msg : LogMsg) (s : Relay) : Relay := { s with log := s.log ++ [msg] }

/-- `tcp_sndbuf(pcb)` -/
def sndBuf (s : Relay) : Nat := tcpSndBuf - s.pcb.unacked.length

/-- `tcp_err`, `tcp_recv` and `tcp_sent` with `NULL`. -/
def removeCallbacks (s : Relay) : Relay :=
  { s with pcb := { s.pcb with recv := false, sent := false, err := false } }

/-! ## The end of a client -/

/-- `client_dealloc` -/
def clientDealloc (s : Relay) : Relay :=
  let s := s.assert (s.client.clientClosed && s.client.socksClosed && !s.dealloc)
  { s with dealloc := true }

/-- `BSocksClient_Free(&client->socks_client)` and `socks_closed = 1` -/
def closeSocks (s : Relay) : Relay :=
  { s with socks := s.socks.free, client := { s.client with socksClosed := true } }

-- Each of the three calls another only when one more side of the client is closed, so that
-- a depth of three is enough.
mutual

/-- `client_handle_freed_client` -/
def handleFreedClientAux : Nat → Relay → Relay
  | 0, s => { s with fault := true }
  | depth + 1, s =>
    let s := s.assert (!s.client.clientClosed)
    let s := { s with client := { s.client with clientClosed := true } }
    -- data that SOCKS has not taken keeps it open
    if s.client.buf ≠ [] ∧ !s.client.socksClosed then s.clientLog .waitingForSocks
    else if !s.client.socksClosed then freeSocksAux depth s
    else s.clientDealloc

/-- `client_free_client` -/
def freeClientAux : Nat → Relay → Relay
  | 0, s => { s with fault := true }
  | depth + 1, s =>
    handleFreedClientAux depth (s.assert (!s.client.clientClosed)).removeCallbacks

/-- `client_free_socks` -/
def freeSocksAux : Nat → Relay → Relay
  | 0, s => { s with fault := true }
  | depth + 1, s =>
    -- nothing more is received from the application
    let s := s.assert (!s.client.socksClosed)
    let s :=
      -- data that lwIP or the application has not taken keeps the client open
      if s.client.socksUp ∧ !s.client.clientClosed then
        { s with pcb := { s.pcb with recv := false } }
      else s
    let s := s.closeSocks
    if s.client.socksUp ∧
        (s.client.socksRecvBuf.isSome ∨ 0 < s.client.socksRecvTcpPending) ∧
        !s.client.clientClosed then s.clientLog .waitingForClient
    else if !s.client.clientClosed then freeClientAux depth s
    else s.clientDealloc

end

/-- `client_handle_freed_client` -/
def clientHandleFreedClient (s : Relay) : Relay := handleFreedClientAux 3 s

/-- `client_free_client` -/
def clientFreeClient (s : Relay) : Relay := freeClientAux 3 s

/-- `client_free_socks` -/
def clientFreeSocks (s : Relay) : Relay := freeSocksAux 3 s

/-- `client_abort_client` differs from `client_free_client` in what it does to the pcb, which
    is gone for the client either way. -/
def clientAbortClient (s : Relay) : Relay := freeClientAux 3 s

/-- `terminate`, and `client_murder` when the event loop has ended -/
def clientMurder (s : Relay) : Relay :=
  let s := s.clientLog .tearingDown
  let s :=
    -- nothing is waited for
    if !s.client.clientClosed then
      let s := s.removeCallbacks
      { s with client := { s.client with clientClosed := true } }
    else s
  let s := if !s.client.socksClosed then s.closeSocks else s
  s.clientDealloc

/-- `client_err_func` -/
def clientErrFunc (s : Relay) : Relay :=
  let s := s.assert (!s.client.clientClosed)
  -- lwIP has freed the pcb
  (s.clientLog .clientError).removeCallbacks.clientHandleFreedClient

/-! ## From the application to SOCKS -/

/-- `StreamPassInterface_Sender_Send(client->socks_send_if, client->buf, client->buf_used)` -/
def senderSend (s : Relay) : Relay :=
  let s := s.assert (s.socks.io = .up && s.socks.offered = 0)
  { s with socks := { s.socks with offered := s.client.buf.length } }

/-- `client_send_to_socks` -/
def clientSendToSocks (s : Relay) : Relay :=
  (s.assert (!s.client.socksClosed && s.client.socksUp && s.client.buf ≠ [])).senderSend

/-- `client_recv_func` with `p == NULL` -/
def clientRecvClosed (s : Relay) : Relay :=
  ((s.assert (!s.client.clientClosed)).clientLog .clientClosed).clientFreeClient

/-- `client_recv_func` with the data of `p` -/
def clientRecvFunc (data : List UInt8) (s : Relay) : Relay :=
  let s := s.assert (!s.client.clientClosed && data ≠ [])
  if data.length > tcpWnd - s.client.buf.length then s.clientLog .noBuffer
  else
    let s := { s with
      client := { s.client with buf := s.client.buf ++ data }
      fromApp := s.fromApp ++ data }
    -- SOCKS is sending already if there was something in the buffer
    if s.client.buf.length = data.length ∧ s.client.socksUp then
      (s.assert (!s.client.socksClosed)).clientSendToSocks
    else s

/-- `tcp_recved(client->pcb, n)` -/
def tcpRecved (n : Nat) (s : Relay) : Relay :=
  { s with pcb := { s.pcb with rcvWnd := min (s.pcb.rcvWnd + n) tcpWnd } }

/-- `client_socks_send_handler_done` -/
def clientSocksSendHandlerDone (n : Nat) (s : Relay) : Relay :=
  let s := s.assert (!s.client.socksClosed && s.client.socksUp && s.client.buf ≠ [] &&
    0 < n && n ≤ s.client.buf.length)
  let s := { s with client := { s.client with buf := s.client.buf.drop n } }
  let s := if !s.client.clientClosed then s.tcpRecved n else s
  -- the rest of the buffer, or the end of a client whose application has closed
  if s.client.buf ≠ [] then s.senderSend
  else if s.client.clientClosed then (s.clientLog .removingAfterClient).clientFreeSocks
  else s

/-! ## From SOCKS to the application -/

/-- `client_socks_recv_initiate` -/
def clientSocksRecvInitiate (s : Relay) : Relay :=
  let s := s.assert (!s.client.clientClosed && !s.client.socksClosed && s.client.socksUp &&
    s.client.socksRecvBuf = none)
  let s := s.assert (s.socks.io = .up && s.socks.wanted = 0)
  { s with socks := { s.socks with wanted := clientSocksRecvBufSize } }

/-- `tcp_write` takes `n` more bytes of `data`. -/
def tcpWrite (data : List UInt8) (n : Nat) (s : Relay) : Relay :=
  let chunk := (data.drop s.client.socksRecvBufSent).take n
  { s with
    client := { s.client with
      socksRecvBufSent := s.client.socksRecvBufSent + n
      socksRecvTcpPending := s.client.socksRecvTcpPending + n }
    pcb := { s.pcb with unacked := s.pcb.unacked ++ chunk }
    toApp := s.toApp ++ chunk }

/-- The loop of `client_socks_recv_send_out`, with whether it has aborted the client.  Every
    round but the last one writes something. -/
def writeLoop (data : List UInt8) : Nat → List Err → Relay → Relay × Bool
  | 0, _, s => (s, false)
  | fuel + 1, writes, s =>
    let toWrite := min (data.length - s.client.socksRecvBufSent) s.sndBuf
    if toWrite = 0 then (s, false)
    else
      match writes.headD .ok with
      -- `ERR_MEM` is no error: the rest is written later
      | .mem => (s, false)
      | .other => ((s.clientLog .tcpWriteFailed).clientAbortClient, true)
      | .ok =>
        let s := s.tcpWrite data toWrite
        if s.client.socksRecvBufSent < data.length then writeLoop data fuel writes.tail s
        else (s, false)

/-- `client_socks_recv_send_out`; true is the return value -1. -/
def clientSocksRecvSendOut (r : TcpResults) (s : Relay) : Relay × Bool :=
  let data := s.client.socksRecvBuf.getD []
  let s := s.assert (!s.client.clientClosed && s.client.socksUp &&
    s.client.socksRecvBufSent < data.length && !s.client.socksRecvWaiting)
  let (s, aborted) := writeLoop data data.length r.writes s
  if aborted then (s, true)
  else if r.output ≠ .ok then ((s.clientLog .tcpOutputFailed).clientAbortClient, true)
  else if s.client.socksRecvBufSent < data.length then
    -- nothing would ever wake it up again
    if s.client.socksRecvTcpPending = 0 then
      ((s.clientLog .cantQueue).clientAbortClient, true)
    else ({ s with client := { s.client with socksRecvWaiting := true } }, false)
  else ({ s with client := { s.client with socksRecvBuf := none } }, false)

/-- The connection has read `data`, then `client_socks_recv_handler_done`. -/
def clientSocksRecvHandlerDone (r : TcpResults) (data : List UInt8) (s : Relay) : Relay :=
  let s := s.assert (data ≠ [] && data.length ≤ clientSocksRecvBufSize &&
    !s.client.socksClosed && s.client.socksUp && s.client.socksRecvBuf = none)
  -- the data is dropped
  if s.client.clientClosed then s
  else
    let s := { s with client := { s.client with
      socksRecvBuf := some data, socksRecvBufSent := 0, socksRecvWaiting := false } }
    let (s, aborted) := s.clientSocksRecvSendOut r
    if aborted then s
    else if s.client.socksRecvBuf = none then s.clientSocksRecvInitiate
    else s

/-- `client_sent_func` -/
def clientSentFunc (r : TcpResults) (len : Nat) (s : Relay) : Relay :=
  let s := s.assert (!s.client.clientClosed && s.client.socksUp && 0 < len &&
    len ≤ s.client.socksRecvTcpPending)
  let s := { s with client := { s.client with
    socksRecvTcpPending := s.client.socksRecvTcpPending - len } }
  match s.client.socksRecvBuf with
  -- some of the data could not be written before
  | some data =>
    let s := s.assert (s.client.socksRecvWaiting && s.client.socksRecvBufSent < data.length)
    let s := { s with client := { s.client with socksRecvWaiting := false } }
    let (s, aborted) := s.clientSocksRecvSendOut r
    if aborted then s
    else
      let s := s.assert (0 < s.client.socksRecvTcpPending)
      if s.client.socksRecvBuf = none ∧ !s.client.socksClosed then s.clientSocksRecvInitiate
      else s
  -- the last acknowledgement of a client whose SOCKS side has ended
  | none =>
    if s.client.socksClosed ∧ s.client.socksRecvTcpPending = 0 then
      (s.clientLog .removingAfterSocks).clientFreeClient
    else s

/-! ## The handler of the SOCKS client -/

/-- `client_socks_handler` -/
def clientSocksHandler (event : Event) (s : Relay) : Relay :=
  let s := s.assert (!s.client.socksClosed)
  match event with
  | .error => (s.clientLog .socksError).clientFreeSocks
  | .up =>
    let s := s.assert (!s.client.socksUp)
    let s := s.clientLog .socksUp
    let s := { s with client := { s.client with
      socksRecvBuf := none, socksRecvTcpPending := 0, socksUp := true } }
    let s :=
      if !s.client.clientClosed then { s with pcb := { s.pcb with sent := true } } else s
    -- data that has arrived during the handshake
    let s := if s.client.buf ≠ [] then s.clientSendToSocks else s
    if !s.client.clientClosed then s.clientSocksRecvInitiate else s
  | .errorClosed => ((s.assert s.client.socksUp).clientLog .socksClosed).clientFreeSocks

/-- The SOCKS client after one of its handlers, which may report an event. -/
def socksHandled (s : Relay) (result : BSocksClient × Option Event) : Relay :=
  match result with
  | (o, none) => { s with socks := o }
  | (o, some event) => clientSocksHandler event { s with socks := o }

/-! ## Events -/

/-- What the reactor, the proxy, lwIP and the application can do. -/
inductive Action where
  /-- `connector_handler` -/
  | connector (isError conInit alloc : Bool)
  /-- the connection writes `n` bytes of a packet of the handshake -/
  | controlWrite (n : Nat) (alloc : Bool)
  /-- the connection reads at most `n` bytes of the handshake -/
  | controlRead (n : Nat) (alloc : Bool)
  /-- the connection writes `n` bytes of the buffer of the client -/
  | upWrite (n : Nat)
  /-- the connection reads at most `n` bytes for the client -/
  | upRead (n : Nat) (r : TcpResults)
  /-- a read returns 0 -/
  | recvClosed
  /-- a read or a write fails -/
  | ioError
  | serverSend (bytes : List UInt8)
  | serverClose
  | appSend (bytes : List UInt8)
  | appClose
  /-- lwIP drops the connection, say because the application has reset it -/
  | appError
  /-- the application acknowledges `n` bytes -/
  | appAck (n : Nat) (r : TcpResults)
  /-- tun2socks ends -/
  | murder
  deriving DecidableEq, Repr

/-- One event; `none` if it cannot happen. -/
def step (p : Params) (s : Relay) : Action → Option Relay
  -- the connector reports once, as the first event of SOCKS
  | .connector isError conInit alloc =>
    if s.client.socksClosed ∨ s.socks.state ≠ .connecting then none
    else some (s.socksHandled (s.socks.connectorHandler p isError conInit alloc))
  -- `send(2)` may take less than what is left of the packet
  | .controlWrite n alloc =>
    if n = 0 ∨ s.socks.sending.length < n then none
    else
      some (socksHandled { s with toServer := s.toServer ++ s.socks.sending.take n }
        (s.socks.controlWritten alloc n))
  | .controlRead n alloc =>
    if s.socks.io ≠ .control then none
    else
      -- a read never gets more than was asked for
      (s.down.read (min n s.socks.wanted)).map fun (data, down) =>
        socksHandled { s with down, fromServer := s.fromServer ++ data }
          (s.socks.recvHandlerDone p alloc data)
  -- the interface passes on what was written, and the handler offers the rest again
  | .upWrite n =>
    if n = 0 ∨ s.socks.offered < n then none
    else
      some (clientSocksSendHandlerDone n { s with
        toServer := s.toServer ++ s.client.buf.take n
        socks := { s.socks with offered := 0 } })
  | .upRead n r =>
    if s.socks.io ≠ .up then none
    else
      (s.down.read (min n s.socks.wanted)).map fun (data, down) =>
        clientSocksRecvHandlerDone r data { s with
          down, fromServer := s.fromServer ++ data, socks := { s.socks with wanted := 0 } }
  -- the end of the stream is seen by a read, behind all of its data
  | .recvClosed =>
    if s.socks.wanted = 0 ∨ !s.down.atEnd then none
    else some (s.socksHandled (s.socks.connectionHandler true))
  | .ioError =>
    if !s.socks.con then none
    else some (s.socksHandled (s.socks.connectionHandler false))
  | .serverSend bytes => if s.down.closed then none else some { s with down := s.down.write bytes }
  | .serverClose => if s.down.closed then none else some { s with down := s.down.close }
  -- lwIP takes no more than its receive window
  | .appSend bytes =>
    if s.client.clientClosed ∨ bytes = [] ∨ s.pcb.rcvWnd < bytes.length then none
    else if s.pcb.recv then
      some (clientRecvFunc bytes
        { s with pcb := { s.pcb with rcvWnd := s.pcb.rcvWnd - bytes.length } })
    else
      -- `tcp_recv_null` drops the data and opens the window again
      some s
  | .appClose =>
    if s.client.clientClosed then none
    else if s.pcb.recv then some s.clientRecvClosed
    else some s
  | .appError =>
    if s.client.clientClosed then none
    else if s.pcb.err then some s.clientErrFunc
    else some s
  -- only sent data is acknowledged
  | .appAck n r =>
    if s.client.clientClosed ∨ n = 0 ∨ s.pcb.unacked.length < n then none
    else
      let s := { s with pcb := { s.pcb with unacked := s.pcb.unacked.drop n } }
      if s.pcb.sent then some (s.clientSentFunc r n) else some s
  | .murder => if s.dealloc then none else some s.clientMurder

/-- One connection from `listener_accept_func` on. -/
def machine (p : Params) : Machine Relay Action Empty where
  init := {}
  step s a := (s.step p a).map fun s' => (s', [])

end Relay

end OpenFlux
