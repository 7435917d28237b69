import OpenFlux.ForStd.Asserting
import OpenFlux.ForStd.ByteMemory

/-!
# The packet ring of BadVPN

A `ChunkBuffer2` holds packets in an array of `int`s.  A packet is a block with its length and
as many blocks as its bytes need; it never goes around the end of the array.  `wrap` is where
the data before the end stops and goes on at block 0.

A function returns `none` where an `ASSERT` fails.  The integers do not overflow in an array
of less than 2 GiB.
-/

namespace OpenFlux

open ByteMemory

/-- `bdivide_up` -/
def bdivideUp (a b : Nat) : Nat := if a % b > 0 then a / b + 1 else a / b

/-- `struct ChunkBuffer2` -/
structure ChunkBuffer2 where
  /-- the bytes of the array -/
  buffer : Memory
  /-- these are in blocks -/
  size : Nat
  wrap : Nat
  start : Nat
  used : Nat
  mtu : Nat
  /-- an offset in `buffer`, or `NULL` -/
  inputDest : Option Nat
  inputAvail : Int
  outputDest : Option Nat
  outputAvail : Int

namespace ChunkBuffer2

/-- `sizeof(struct ChunkBuffer2_block)` -/
def blockSize : Nat := 4

/-- `INT_MAX` -/
def intMax : Nat := 2147483647

/-- `ChunkBuffer2_calc_blocks`; `none` for -1 -/
def calcBlocks (chunkLen num : Nat) : Option Nat :=
  let chunkDataBlocks := bdivideUp chunkLen blockSize
  if chunkDataBlocks > intMax - 1 then none
  else
    let chunkBlocks := 1 + chunkDataBlocks
    if num > intMax - 1 then none
    else
      let numChunks := num + 1
      if chunkBlocks > intMax / numChunks then none else some (chunkBlocks * numChunks)

/-- `buffer[i].len` -/
def len (o : ChunkBuffer2) (i : Nat) : Nat := ofLE (load o.buffer (blockSize * i) blockSize)

/-- `_ChunkBuffer2_end` -/
def endPos (o : ChunkBuffer2) : Nat :=
  if o.used ≥ o.wrap - o.start then o.used - (o.wrap - o.start) else o.start + o.used

/-- `_ChunkBuffer2_assert_buffer` -/
def AssertBuffer (o : ChunkBuffer2) : Prop :=
  o.size > 0 ∧ o.wrap > 0 ∧ o.wrap ≤ o.size ∧ o.start < o.wrap ∧ o.used ≤ o.wrap ∧
    (o.wrap = o.size ∨ o.used ≥ o.wrap - o.start)

instance (o : ChunkBuffer2) : Decidable o.AssertBuffer := by
  unfold AssertBuffer
  infer_instance

/-- The number of free blocks, in `_ChunkBuffer2_update_input` and `_ChunkBuffer2_assert_io` -/
def free (o : ChunkBuffer2) : Int :=
  if o.used ≥ o.wrap - o.start then (o.start : Int) - o.endPos else (o.size : Int) - o.endPos

/-- `_ChunkBuffer2_assert_io` -/
def AssertIo (o : ChunkBuffer2) : Prop :=
  (if (o.size : Int) - o.endPos - 1 < o.mtu then o.inputDest = none ∧ o.inputAvail = -1
    else if o.free > 0 then
      o.inputDest = some (blockSize * (o.endPos + 1)) ∧ o.inputAvail = (o.free - 1) * blockSize
    else o.inputDest = none ∧ o.inputAvail = -1) ∧
  if o.used > 0 then
    let datalen := o.len o.start
    let blocklen := bdivideUp datalen blockSize
    datalen ≤ intMax ∧ blocklen + 1 ≤ o.used ∧ blocklen + 1 ≤ o.wrap - o.start ∧
      o.outputDest = some (blockSize * (o.start + 1)) ∧ o.outputAvail = datalen
  else o.outputDest = none ∧ o.outputAvail = -1

instance (o : ChunkBuffer2) : Decidable o.AssertIo := by
  unfold AssertIo
  infer_instance

/-- `_ChunkBuffer2_update_input` -/
def updateInput (o : ChunkBuffer2) : ChunkBuffer2 :=
  if (o.size : Int) - o.endPos - 1 < o.mtu then
    -- it will never be possible to write a MTU long packet here
    { o with inputDest := none, inputAvail := -1 }
  else if o.free > 0 then
    { o with
      inputDest := some (blockSize * (o.endPos + 1))
      inputAvail := (o.free - 1) * blockSize }
  else { o with inputDest := none, inputAvail := -1 }

/-- `_ChunkBuffer2_update_output` -/
def updateOutput (o : ChunkBuffer2) : Option ChunkBuffer2 :=
  if o.used > 0 then
    let datalen := o.len o.start
    let blocklen := bdivideUp datalen blockSize
    asserting (datalen ≤ intMax) <|
    asserting (blocklen + 1 ≤ o.used) <|
    asserting (blocklen + 1 ≤ o.wrap - o.start) <|
    some { o with outputDest := some (blockSize * (o.start + 1)), outputAvail := datalen }
  else some { o with outputDest := none, outputAvail := -1 }

/-- `ChunkBuffer2_Init` -/
def init (buffer : Memory) (blocks mtu : Nat) : Option ChunkBuffer2 :=
  asserting (blocks > 0) <|
  let o : ChunkBuffer2 :=
    { buffer, size := blocks, wrap := blocks, start := 0, used := 0
      mtu := bdivideUp mtu blockSize
      inputDest := none, inputAvail := -1, outputDest := none, outputAvail := -1 }
  asserting o.AssertBuffer <|
  o.updateInput.updateOutput.bind fun o =>
  asserting o.AssertIo <| some o

/-- The assignments of `ChunkBuffer2_SubmitPacket` -/
def appended (o : ChunkBuffer2) (len : Nat) : ChunkBuffer2 :=
  let e := o.endPos
  let blocklen := bdivideUp len blockSize
  let o := { o with
    buffer := store o.buffer (blockSize * e) (toLE blockSize len)
    used := o.used + (1 + blocklen) }
  -- if the data is not wrapped and a packet no longer fits behind it, the data wraps here
  if o.used ≤ o.wrap - o.start ∧ (o.mtu : Int) > (o.size : Int) - (e + 1 + blocklen) - 1 then
    { o with wrap := e + 1 + blocklen }
  else o

/-- `ChunkBuffer2_SubmitPacket` -/
def submitPacket (o : ChunkBuffer2) (len : Nat) : Option ChunkBuffer2 :=
  asserting (o.inputDest.isSome ∧ (len : Int) ≤ o.inputAvail ∧ o.AssertBuffer ∧ o.AssertIo) <|
  let blocklen := bdivideUp len blockSize
  asserting (o.endPos + 1 + blocklen ≤ o.size) <|
  asserting (o.used < o.wrap - o.start ∨ o.endPos + 1 + blocklen ≤ o.start) <|
  let o := o.appended len
  asserting o.AssertBuffer <|
  let o := o.updateInput
  -- the first packet is a new one only if the buffer was empty
  (if o.used = 1 + blocklen then o.updateOutput else some o).bind fun o =>
  asserting o.AssertIo <| some o

/-- The assignments of `ChunkBuffer2_ConsumePacket` -/
def consumed (o : ChunkBuffer2) : ChunkBuffer2 :=
  let blocklen := bdivideUp (o.len o.start) blockSize
  let o := { o with start := o.start + (1 + blocklen), used := o.used - (1 + blocklen) }
  -- behind the last packet before `wrap` the buffer goes on at block 0
  if o.start = o.wrap then { o with start := 0, wrap := o.size } else o

/-- `ChunkBuffer2_ConsumePacket` -/
def consumePacket (o : ChunkBuffer2) : Option ChunkBuffer2 :=
  asserting (o.outputDest.isSome ∧ o.AssertBuffer ∧ o.AssertIo) <|
  asserting (1 ≤ o.wrap - o.start ∧ 1 ≤ o.used) <|
  let blocklen := bdivideUp (o.len o.start) blockSize
  asserting (blocklen + 1 ≤ o.wrap - o.start ∧ blocklen + 1 ≤ o.used) <|
  let dataWrapped : Bool := o.used ≥ o.wrap - o.start
  let o := o.consumed
  asserting o.AssertBuffer <|
  -- with wrapped data the free blocks are before `start`, which has moved
  let o := if dataWrapped then o.updateInput else o
  o.updateOutput.bind fun o =>
  asserting o.AssertIo <| some o

end ChunkBuffer2

end OpenFlux
