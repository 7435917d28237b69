import OpenFlux.Model.PacketProtoFlow

/-!
# The receive path of the UDP gateway

A `PacketProtoDecoder` cuts the stream of the gateway into packets.  It passes a packet on out
of its own buffer, and receives more only when its user is done with it.

After an error its user, `UdpGwClient`, has the connection closed and the decoder freed.  A
function returns `none` where an `ASSERT` fails.
-/

namespace OpenFlux

open ByteMemory

/-- `PacketProtoDecoder`, with what it has asked its two interfaces for -/
structure PacketProtoDecoder where
  buf : Memory
  bufSize : Nat
  bufStart : Nat := 0
  bufUsed : Nat := 0
  outputMtu : Nat
  /-- where the stream is received to, and how many bytes it may be -/
  receiving : Option (Nat × Nat) := none
  /-- the packet that the user has, and its length -/
  sending : Option (Nat × Nat) := none
  error : Bool := false

namespace PacketProtoDecoder

/-- `StreamRecvInterface_Receiver_Recv` -/
def recv (o : PacketProtoDecoder) (data avail : Nat) : Option PacketProtoDecoder :=
  asserting (0 < avail ∧ o.receiving = none) <| some { o with receiving := some (data, avail) }

/-- `PacketPassInterface_Sender_Send` -/
def send (o : PacketProtoDecoder) (data len : Nat) : Option PacketProtoDecoder :=
  asserting (len ≤ o.outputMtu ∧ o.sending = none) <| some { o with sending := some (data, len) }

/-- `PacketProtoDecoder_Init`, for a user that takes packets of `mtu` -/
def init (buf : Memory) (mtu : Nat) : Option PacketProtoDecoder :=
  let outputMtu := min mtu packetprotoMaxpayload
  let o : PacketProtoDecoder := { buf, bufSize := packetprotoEnclen outputMtu, outputMtu }
  o.recv 0 o.bufSize

/-- The end of `process_data`: nothing to pass on. -/
def receiveMore (o : PacketProtoDecoder) : Option PacketProtoDecoder :=
  let o :=
    -- if we reached the end of the buffer, wrap around to allow more data to be received
    if o.bufStart + o.bufUsed = o.bufSize then
      { o with buf := store o.buf 0 (load o.buf o.bufStart o.bufUsed), bufStart := 0 }
    else o
  o.recv (o.bufStart + o.bufUsed) (o.bufSize - (o.bufStart + o.bufUsed))

/-- `process_data` -/
def processData (o : PacketProtoDecoder) : Option PacketProtoDecoder :=
  -- check if header was received
  if o.bufUsed < packetprotoHeaderSize then o.receiveMore
  else
    let dataLen := ofLE (load o.buf o.bufStart packetprotoHeaderSize)
    if dataLen > o.outputMtu then
      -- the packet is too large: reset the buffer, and report an error
      { o with bufStart := 0, bufUsed := 0, error := true }.recv 0 o.bufSize
    -- check if whole packet was received
    else if o.bufUsed - packetprotoHeaderSize < dataLen then o.receiveMore
    else
      { o with
        bufStart := o.bufStart + packetprotoEnclen dataLen
        bufUsed := o.bufUsed - packetprotoEnclen dataLen }.send
        (o.bufStart + packetprotoHeaderSize) dataLen

/-- `input_handler_done` -/
def inputHandlerDone (o : PacketProtoDecoder) (dataLen : Nat) : Option PacketProtoDecoder :=
  asserting (0 < dataLen ∧ dataLen ≤ o.bufSize - (o.bufStart + o.bufUsed)) <|
  { o with bufUsed := o.bufUsed + dataLen }.processData

/-! ## Runs -/

/-- What the other side of either interface does. -/
inductive Event where
  /-- bytes of the stream -/
  | input (bytes : List UInt8)
  /-- the user is done with the packet -/
  | outputDone
  deriving DecidableEq, Repr

/-- What passes through the decoder. -/
inductive Obs where
  | received (bytes : List UInt8)
  /-- the packet, as the user could read it till now -/
  | packet (data : List UInt8)
  deriving DecidableEq, Repr

/-- One event, if it can happen; `some none` where an `ASSERT` fails. -/
def step (o : PacketProtoDecoder) : Event → Option (Option (PacketProtoDecoder × List Obs))
  | .input bytes =>
    match o.error, o.receiving with
    | false, some (data, avail) =>
      -- the stream delivers something, but no more than there is room for
      if bytes ≠ [] ∧ bytes.length ≤ avail then
        some <| ({ o with buf := store o.buf data bytes, receiving := none }.inputHandlerDone
          bytes.length).map (·, [.received bytes])
      else none
    | _, _ => none
  -- the packet is still in the buffer when the output is done with it
  | .outputDone =>
    match o.error, o.sending with
    | false, some (data, len) =>
      some <| ({ o with sending := none }.processData).map (·, [.packet (load o.buf data len)])
    | _, _ => none

end PacketProtoDecoder

end OpenFlux
