import OpenFlux.Model.ChunkBuffer2

/-!
# The send path of a UDP gateway connection

A `PacketProtoFlow` is a `BufferWriter`, a `PacketProtoEncoder` and a `PacketBuffer` in a row.
They pass memory of the packet buffer to each other: the buffer asks the encoder for a packet,
the encoder asks the writer for one two bytes further on, and writes the length in front of it.

The components are joined by interfaces that call the other side later, from a job.  Here any
pending job may run next.  A function returns `none` where an `ASSERT` fails.
-/

namespace OpenFlux

open ByteMemory

/-! ## Interfaces -/

/-- `PRI_STATE_*` and `PPI_STATE_*` -/
inductive InterfaceState where
  | none
  | operationPending
  | busy
  | donePending
  deriving DecidableEq, Repr

/-- `PacketRecvInterface`; memory is an offset in the packet buffer. -/
structure PacketRecvInterface where
  mtu : Nat
  state : InterfaceState := .none
  jobOperationData : Nat := 0
  jobDoneLen : Nat := 0
  deriving DecidableEq, Repr

namespace PacketRecvInterface

/-- `PacketRecvInterface_Receiver_Recv` -/
def receiverRecv (i : PacketRecvInterface) (data : Nat) : Option PacketRecvInterface :=
  asserting (i.state = .none) <|
    some { i with state := .operationPending, jobOperationData := data }

/-- `PacketRecvInterface_Done` -/
def done (i : PacketRecvInterface) (dataLen : Nat) : Option PacketRecvInterface :=
  asserting (dataLen ≤ i.mtu ∧ i.state = .busy) <|
  some { i with state := .donePending, jobDoneLen := dataLen }

end PacketRecvInterface

/-- `PacketPassInterface`, without cancelling -/
structure PacketPassInterface where
  mtu : Nat
  state : InterfaceState := .none
  jobOperationData : Nat := 0
  jobOperationLen : Nat := 0
  deriving DecidableEq, Repr

/-- `PacketPassInterface_Sender_Send` -/
def PacketPassInterface.senderSend (i : PacketPassInterface) (data len : Nat) :
    Option PacketPassInterface :=
  asserting (len ≤ i.mtu ∧ i.state = .none) <|
  some { i with state := .operationPending, jobOperationData := data, jobOperationLen := len }

/-! ## The flow -/

/-- `sizeof(struct packetproto_header)` -/
def packetprotoHeaderSize : Nat := 2

/-- `PACKETPROTO_ENCLEN` -/
def packetprotoEnclen (len : Nat) : Nat := packetprotoHeaderSize + len

/-- `PACKETPROTO_MAXPAYLOAD` -/
def packetprotoMaxpayload : Nat := 65535

/-- A packet in the stream: its `packetproto_header` and its bytes. -/
def PacketProtoFlow.frame (data : List UInt8) : List UInt8 :=
  toLE packetprotoHeaderSize data.length ++ data

/-- The length of a frame. -/
theorem PacketProtoFlow.length_frame (data : List UInt8) :
    (frame data).length = packetprotoEnclen data.length := by
  simp [frame, packetprotoEnclen]

/-- `PacketProtoFlow`, with its three parts -/
structure PacketProtoFlow where
  /-- the `BufferWriter`: its interface, `out_have` and `out` -/
  writer : PacketRecvInterface
  outHave : Bool := false
  out : Nat := 0
  /-- the `PacketProtoEncoder` -/
  encoder : PacketRecvInterface
  outputPacket : Option Nat := none
  /-- the `PacketBuffer` -/
  buf : ChunkBuffer2
  inputMtu : Nat
  output : PacketPassInterface

namespace PacketProtoFlow

/-- Bytes are written to the memory of the packet buffer. -/
def write (o : PacketProtoFlow) (a : Nat) (bs : List UInt8) : PacketProtoFlow :=
  { o with buf := { o.buf with buffer := store o.buf.buffer a bs } }

/-- `PacketRecvInterface_Receiver_Recv(buf->input, buf->buf.input_dest)` -/
def receive (o : PacketProtoFlow) : Option PacketProtoFlow :=
  o.buf.inputDest.bind fun dest =>
  (o.encoder.receiverRecv dest).map fun encoder => { o with encoder }

/-- `PacketPassInterface_Sender_Send(buf->output, buf->buf.output_dest, buf->buf.output_avail)` -/
def send (o : PacketProtoFlow) : Option PacketProtoFlow :=
  o.buf.outputDest.bind fun dest =>
  (o.output.senderSend dest o.buf.outputAvail.toNat).map fun output => { o with output }

/-- `PacketProtoFlow_Init`, in memory that holds anything; the output takes packets of `mtu`. -/
def init (memory : Memory) (inputMtu numPackets mtu : Nat) : Option PacketProtoFlow :=
  asserting (inputMtu ≤ packetprotoMaxpayload ∧ 0 < numPackets) <|
  asserting (packetprotoEnclen inputMtu ≤ mtu) <|
  (ChunkBuffer2.calcBlocks (packetprotoEnclen inputMtu) numPackets).bind fun numBlocks =>
  (ChunkBuffer2.init memory numBlocks (packetprotoEnclen inputMtu)).bind fun buf =>
  receive
    { writer := { mtu := inputMtu }
      encoder := { mtu := packetprotoEnclen inputMtu }
      buf
      inputMtu := packetprotoEnclen inputMtu
      output := { mtu } }

/-! ### Handlers -/

/-- `BufferWriter_StartPacket`, the bytes, and `BufferWriter_EndPacket`; tells whether there was
    a place for the packet. -/
def writePacket (o : PacketProtoFlow) (data : List UInt8) : Option (PacketProtoFlow × Bool) :=
  if !o.outHave then some (o, false)
  else
    let o := o.write o.out data
    (o.writer.done data.length).map fun writer => ({ o with outHave := false, writer }, true)

/-- `output_handler_recv` of the `BufferWriter` -/
def writerHandlerRecv (o : PacketProtoFlow) (data : Nat) : Option PacketProtoFlow :=
  asserting (o.outHave = false) <| some { o with outHave := true, out := data }

/-- `output_handler_recv` of the `PacketProtoEncoder` -/
def encoderHandlerRecv (o : PacketProtoFlow) (data : Nat) : Option PacketProtoFlow :=
  asserting (o.outputPacket = none) <|
  (o.writer.receiverRecv (data + packetprotoHeaderSize)).map fun writer =>
  { o with outputPacket := some data, writer }

/-- `input_handler_done` of the `PacketProtoEncoder` -/
def encoderHandlerDone (o : PacketProtoFlow) (inLen : Nat) : Option PacketProtoFlow :=
  o.outputPacket.bind fun packet =>
  let o := o.write packet (toLE packetprotoHeaderSize inLen)
  (o.encoder.done (packetprotoEnclen inLen)).map fun encoder =>
  { o with outputPacket := none, encoder }

/-- `input_handler_done` of the `PacketBuffer` -/
def bufferHandlerInput (o : PacketProtoFlow) (inLen : Nat) : Option PacketProtoFlow :=
  asserting (inLen ≤ o.inputMtu) <|
  let wasEmpty := o.buf.outputAvail < 0
  (o.buf.submitPacket inLen).bind fun buf =>
  let o := { o with buf }
  -- if there is space, schedule receive
  (if o.buf.inputAvail ≥ o.inputMtu then o.receive else some o).bind fun o =>
  -- if buffer was empty, schedule send
  if wasEmpty then o.send else some o

/-- `output_handler_done` of the `PacketBuffer` -/
def bufferHandlerOutput (o : PacketProtoFlow) : Option PacketProtoFlow :=
  let wasFull := o.buf.inputAvail < o.inputMtu
  o.buf.consumePacket.bind fun buf =>
  let o := { o with buf }
  -- if buffer was full and there is space, schedule receive
  (if wasFull ∧ o.buf.inputAvail ≥ o.inputMtu then o.receive else some o).bind fun o =>
  -- if there is more data, schedule send
  if o.buf.outputAvail ≥ 0 then o.send else some o

/-! ### Runs -/

/-- The user, a pending job, or the output. -/
inductive Event where
  /-- a packet is written to the flow -/
  | packet (data : List UInt8)
  /-- the operation job of the writer, or its done job -/
  | writerOperation
  | writerDone
  | encoderOperation
  | encoderDone
  | outputOperation
  /-- the output is done with the packet it was given -/
  | outputFinish
  | outputDone
  deriving DecidableEq, Repr

/-- What goes into the flow and what comes out. -/
inductive Obs where
  | accepted (data : List UInt8)
  | refused (data : List UInt8)
  /-- the output is given a packet -/
  | sent (packet : List UInt8)
  /-- the packet is out of the buffer -/
  | finished
  deriving DecidableEq, Repr

/-- One event, if it can happen; `some none` where an `ASSERT` fails. -/
def step (o : PacketProtoFlow) : Event → Option (Option (PacketProtoFlow × List Obs))
  -- the user keeps to the MTU of the input
  | .packet data =>
    if data.length ≤ o.writer.mtu then
      some <| (o.writePacket data).map fun (o, ok) =>
        (o, [if ok then .accepted data else .refused data])
    else none
  -- the jobs of the interfaces, each possible while it is pending
  | .writerOperation =>
    if o.writer.state = .operationPending then
      some <| ({ o with writer := { o.writer with state := .busy } }.writerHandlerRecv
        o.writer.jobOperationData).map (·, [])
    else none
  | .writerDone =>
    if o.writer.state = .donePending then
      some <| ({ o with writer := { o.writer with state := .none } }.encoderHandlerDone
        o.writer.jobDoneLen).map (·, [])
    else none
  | .encoderOperation =>
    if o.encoder.state = .operationPending then
      some <| ({ o with encoder := { o.encoder with state := .busy } }.encoderHandlerRecv
        o.encoder.jobOperationData).map (·, [])
    else none
  | .encoderDone =>
    if o.encoder.state = .donePending then
      some <| ({ o with encoder := { o.encoder with state := .none } }.bufferHandlerInput
        o.encoder.jobDoneLen).map (·, [])
    else none
  -- the output reads the packet out of the buffer when its job runs
  | .outputOperation =>
    if o.output.state = .operationPending then
      some <| some ({ o with output := { o.output with state := .busy } },
        [.sent (load o.buf.buffer o.output.jobOperationData o.output.jobOperationLen)])
    else none
  -- the output takes its time
  | .outputFinish =>
    if o.output.state = .busy then
      some <| some ({ o with output := { o.output with state := .donePending } }, [])
    else none
  | .outputDone =>
    if o.output.state = .donePending then
      some <| ({ o with output := { o.output with state := .none } }.bufferHandlerOutput).map
        (·, [.finished])
    else none

end PacketProtoFlow

end OpenFlux
