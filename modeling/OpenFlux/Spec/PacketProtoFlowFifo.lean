import OpenFlux.ForStd.Machine
import OpenFlux.Model.PacketProtoFlow
import OpenFlux.Spec.ChunkBuffer2Ring

/-!
# A flow is a queue of frames

At any time one place in the ring, at most, is handed around between the packet buffer, the
encoder and the writer (`Stage`).  It stays where it is and is not part of a packet in the
ring, whatever is sent meanwhile, so what the writer and the encoder put there becomes the next
packet.

## Key results

- `Held.step`: every event keeps the parts of the flow in step with each other
- `flow_fifo`: what is accepted comes out framed, in order and once, and a packet is refused
  only while a job is pending or the ring is full
-/

namespace OpenFlux

open ByteMemory
open ChunkBuffer2 (Ring cellsOf blockSize intMax)

namespace PacketProtoFlow

/-- What `PacketProtoFlow_Init` is called with. -/
structure Params where
  inputMtu : Nat
  numPackets : Nat
  /-- of the output -/
  mtu : Nat
  payload : inputMtu ≤ packetprotoMaxpayload
  packets : 0 < numPackets
  fits : packetprotoEnclen inputMtu ≤ mtu
  /-- The ring of `num_packets + 1` framed packets has at most `INT_MAX` bytes: `input_avail` of
      `ChunkBuffer2` is an `int`.  `PacketProtoFlow_Init` does not check this. -/
  small : 4 * (cellsOf (packetprotoEnclen inputMtu) * (numPackets + 1)) ≤ intMax

variable {P : Params} {o o' : PacketProtoFlow} {q : List (List UInt8)} {d : Nat}
  {transit : Option (List UInt8)} {data p : List UInt8}

/-! ## The parts of a flow -/

/-- The place `d` on its way between the parts, and the packet that is in it. -/
inductive Stage (o : PacketProtoFlow) (d : Nat) : Option (List UInt8) → Prop
  /-- the buffer has asked the encoder -/
  | asked : o.encoder.state = .operationPending → o.encoder.jobOperationData = d →
      o.outputPacket = none → o.writer.state = .none → o.outHave = false → Stage o d none
  /-- the encoder has asked the writer -/
  | encoding : o.encoder.state = .busy → o.outputPacket = some d →
      o.writer.state = .operationPending →
      o.writer.jobOperationData = d + packetprotoHeaderSize → o.outHave = false → Stage o d none
  /-- the writer takes a packet -/
  | ready : o.encoder.state = .busy → o.outputPacket = some d → o.writer.state = .busy →
      o.out = d + packetprotoHeaderSize → o.outHave = true → Stage o d none
  /-- the writer has taken a packet -/
  | written {data : List UInt8} : o.encoder.state = .busy → o.outputPacket = some d →
      o.writer.state = .donePending → o.writer.jobDoneLen = data.length → o.outHave = false →
      data.length ≤ o.writer.mtu →
      load o.buf.buffer (d + packetprotoHeaderSize) data.length = data → Stage o d (some data)
  /-- the encoder has written the length -/
  | encoded {data : List UInt8} : o.encoder.state = .donePending →
      o.encoder.jobDoneLen = packetprotoEnclen data.length → o.outputPacket = none →
      o.writer.state = .none → o.outHave = false → data.length ≤ o.writer.mtu →
      load o.buf.buffer d (frame data).length = frame data → Stage o d (some data)

/-- Nothing is asked for, since there is no room. -/
structure Idle (o : PacketProtoFlow) : Prop where
  encoder : o.encoder.state = .none
  outputPacket : o.outputPacket = none
  writer : o.writer.state = .none
  outHave : o.outHave = false
  full : o.buf.inputAvail < o.inputMtu

/-- The place that the buffer has given out, or that there is none. -/
def Input (o : PacketProtoFlow) (transit : Option (List UInt8)) : Prop :=
  (Idle o ∧ transit = none) ∨
  ∃ d, o.buf.inputDest = some d ∧ (o.inputMtu : Int) ≤ o.buf.inputAvail ∧ Stage o d transit

/-- The first packet of the ring, at `dest`, is with the output. -/
structure Output (dest : Option Nat) (output : PacketPassInterface) (q : List (List UInt8)) :
    Prop where
  idle : output.state = .none ↔ q = []
  packet : ∀ p ∈ q.head?, dest = some output.jobOperationData ∧ output.jobOperationLen = p.length

/-- The sizes, which never change. -/
structure Sized (P : Params) (bufSize bufMtu inputMtu writerMtu encoderMtu outputMtu : Nat) :
    Prop where
  size : (bufMtu + 1) * (P.numPackets + 1) ≤ bufSize
  bufMtu : bufMtu = bdivideUp (packetprotoEnclen P.inputMtu) blockSize
  inputMtu : inputMtu = packetprotoEnclen P.inputMtu
  writer : writerMtu = P.inputMtu
  encoder : encoderMtu = packetprotoEnclen P.inputMtu
  output : outputMtu = P.mtu

/-- The flow holds the frames `q` in its ring, and a packet may be on its way there. -/
structure Held (P : Params) (o : PacketProtoFlow) (q : List (List UInt8))
    (transit : Option (List UInt8)) : Prop where
  sized : Sized P o.buf.size o.buf.mtu o.inputMtu o.writer.mtu o.encoder.mtu o.output.mtu
  ring : Ring o.buf q
  packets : ∀ p ∈ q, p.length ≤ packetprotoEnclen P.inputMtu
  input : Input o transit
  output : Output o.buf.outputDest o.output q

/-- The part of the ring that the output was given. -/
def handed (output : PacketPassInterface) (q : List (List UInt8)) : List (List UInt8) :=
  if output.state = .busy ∨ output.state = .donePending then q.take 1 else []

/-! ## Asking and sending -/

/-- With room for a packet there is a place for it. -/
theorem Ring.exists_inputDest {buf : ChunkBuffer2} (h : Ring buf q) (havail : 0 ≤ buf.inputAvail) :
    ∃ d, buf.inputDest = some d := by
  rw [h.inputAvail] at havail
  rw [h.inputDest]
  split at havail
  · rename_i hfree
    exact ⟨_, if_pos hfree⟩
  · omega

/-- The buffer asks for the next packet, if there is room. -/
theorem Input.of_receive (hring : Ring o.buf q) (hencoder : o.encoder.state = .none)
    (hpacket : o.outputPacket = none) (hwriter : o.writer.state = .none)
    (hhave : o.outHave = false) {c : Prop} [Decidable c]
    (hc : c ↔ o.buf.inputAvail ≥ o.inputMtu) :
    ∃ encoder, (if c then o.receive else some o) = some { o with encoder } ∧
      encoder.mtu = o.encoder.mtu ∧ Input { o with encoder } none := by
  by_cases havail : o.buf.inputAvail ≥ o.inputMtu
  · obtain ⟨d, hd⟩ := Ring.exists_inputDest hring (by omega)
    rw [if_pos (hc.mpr havail)]
    refine ⟨{ o.encoder with state := .operationPending, jobOperationData := d }, ?_, rfl,
      .inr ⟨d, hd, havail, .asked rfl rfl hpacket hwriter hhave⟩⟩
    rw [receive, hd, Option.bind_some, PacketRecvInterface.receiverRecv, asserting_pos hencoder]
    rfl
  · rw [if_neg (mt hc.mp havail)]
    exact ⟨o.encoder, rfl, rfl,
      .inl ⟨⟨hencoder, hpacket, hwriter, hhave, Int.not_le.mp havail⟩, rfl⟩⟩

/-- The buffer sends its first packet. -/
theorem Output.of_send (hring : Ring o.buf (p :: q)) (hidle : o.output.state = .none)
    (hlen : p.length ≤ o.output.mtu) :
    ∃ output, o.send = some { o with output } ∧ output.mtu = o.output.mtu ∧
      (∀ r, handed output r = []) ∧ Output o.buf.outputDest output (p :: q) := by
  obtain ⟨d, hd, havail, -⟩ := hring.output
  refine ⟨{ o.output with
    state := .operationPending, jobOperationData := d, jobOperationLen := p.length }, ?_, rfl,
    fun r => by simp [handed], by simp, ?_⟩
  · rw [send, hd, Option.bind_some, havail, PacketPassInterface.senderSend]
    dsimp only [Int.toNat_natCast]
    rw [asserting_pos ⟨hlen, hidle⟩]
    rfl
  · intro x hx
    obtain rfl := Option.some.inj hx
    exact ⟨hd, rfl⟩

/-- Of the buffer only the memory matters. -/
theorem Stage.setBuf {buf : ChunkBuffer2} (h : Stage o d transit)
    (hbuffer : buf.buffer = o.buf.buffer) (output : PacketPassInterface) :
    Stage { o with buf, output } d transit := by
  cases h with
  | asked h₁ h₂ h₃ h₄ h₅ => exact .asked h₁ h₂ h₃ h₄ h₅
  | encoding h₁ h₂ h₃ h₄ h₅ => exact .encoding h₁ h₂ h₃ h₄ h₅
  | ready h₁ h₂ h₃ h₄ h₅ => exact .ready h₁ h₂ h₃ h₄ h₅
  | written h₁ h₂ h₃ h₄ h₅ h₆ hload =>
    rw [← hbuffer] at hload
    exact .written h₁ h₂ h₃ h₄ h₅ h₆ hload
  | encoded h₁ h₂ h₃ h₄ h₅ h₆ hload =>
    rw [← hbuffer] at hload
    exact .encoded h₁ h₂ h₃ h₄ h₅ h₆ hload

/-- The output does not matter for it. -/
theorem Input.setOutput (h : Input o transit) (output : PacketPassInterface) :
    Input { o with output } transit := by
  obtain ⟨hidle, rfl⟩ | ⟨d, hd, havail, hstage⟩ := h
  · exact .inl ⟨⟨hidle.encoder, hidle.outputPacket, hidle.writer, hidle.outHave, hidle.full⟩, rfl⟩
  · exact .inr ⟨d, hd, havail, hstage.setBuf rfl output⟩

/-! ## Events -/

/-- A new flow is empty and asks for a packet. -/
theorem Held.of_init (P : Params) (memory : Memory) :
    ∃ o, init memory P.inputMtu P.numPackets P.mtu = some o ∧ Held P o [] none := by
  have hsmall := P.small
  have hle : cellsOf (packetprotoEnclen P.inputMtu) ≤
      cellsOf (packetprotoEnclen P.inputMtu) * (P.numPackets + 1) :=
    Nat.le_mul_of_pos_right _ (by omega)
  -- as many blocks as `PacketBuffer_Init` computes for the packets
  obtain ⟨buf, hbuf, hring, hsize, hmtu⟩ := Ring.init memory hle hsmall
  let o : PacketProtoFlow :=
    { writer := { mtu := P.inputMtu }
      encoder := { mtu := packetprotoEnclen P.inputMtu }
      buf
      inputMtu := packetprotoEnclen P.inputMtu
      output := { mtu := P.mtu } }
  have hcells : cellsOf (packetprotoEnclen P.inputMtu) = buf.mtu + 1 := by
    rw [hmtu, cellsOf, Nat.add_comm]
  rw [hcells] at hsize
  -- an empty ring has room
  have havail := hring.inputAvail_of_length (Nat.le_of_eq hsize.symm) (by simp) P.packets
  have hlen : packetprotoEnclen P.inputMtu ≤ 4 * buf.mtu :=
    ChunkBuffer2.cellsOf_le.mp (Nat.le_of_eq hcells)
  have hroom : o.buf.inputAvail ≥ o.inputMtu := by
    show (packetprotoEnclen P.inputMtu : Int) ≤ buf.inputAvail
    omega
  obtain ⟨encoder, hreceive, hencoder, hinput⟩ :=
    Input.of_receive hring (o := o) (c := True) rfl rfl rfl rfl (iff_of_true trivial hroom)
  rw [if_pos trivial] at hreceive
  refine ⟨{ o with encoder }, ?_,
    { sized := ⟨Nat.le_of_eq hsize.symm, hmtu, rfl, rfl, hencoder, rfl⟩
      ring := hring
      packets := by simp
      input := hinput
      output := ⟨by simp [o], by simp⟩ }⟩
  -- all the assertions of the initialisers hold
  rw [init, asserting_pos ⟨P.payload, P.packets⟩, asserting_pos P.fits,
    ChunkBuffer2.calcBlocks_eq (by omega), Option.bind_some, hbuf, Option.bind_some]
  exact hreceive

/-- Writing to the place that is handed around. -/
theorem Held.ring_write (h : Held P o q transit) (a : Nat) (bs : List UInt8)
    (hd : o.buf.inputDest = some d) (havail : (o.inputMtu : Int) ≤ o.buf.inputAvail) (ha : d ≤ a)
    (hbs : a + bs.length ≤ d + o.inputMtu) : Ring (o.write a bs).buf q :=
  h.ring.write hd ha (by omega)

/-- A packet is taken if the writer has a place for it. -/
theorem Held.writePacket (h : Held P o q transit) (hlen : data.length ≤ P.inputMtu) :
    (o.writePacket data = some (o, false) ∧ o.outHave = false) ∨
    ∃ o', o.writePacket data = some (o', true) ∧ transit = none ∧ o'.output = o.output ∧
      Held P o' q (some data) := by
  -- without a place for it a packet is refused, and nothing else happens
  have hrefuse : o.outHave = false → o.writePacket data = some (o, false) := by
    intro hhave
    rw [PacketProtoFlow.writePacket, hhave]
    rfl
  obtain ⟨hidle, -⟩ | ⟨d, hd, havail, hstage⟩ := h.input
  · exact .inl ⟨hrefuse hidle.outHave, hidle.outHave⟩
  · cases hstage with
    | asked _ _ _ _ hhave => exact .inl ⟨hrefuse hhave, hhave⟩
    | encoding _ _ _ _ hhave => exact .inl ⟨hrefuse hhave, hhave⟩
    | written _ _ _ _ hhave => exact .inl ⟨hrefuse hhave, hhave⟩
    | encoded _ _ _ _ hhave => exact .inl ⟨hrefuse hhave, hhave⟩
    -- the one stage at which the writer has a place
    | ready hencoder hpacket hwriter hout hhave =>
      have hmtu := h.sized.inputMtu
      have hwmtu := h.sized.writer
      -- the bytes go behind the header, into the free place
      have hring := h.ring_write o.out data hd havail (by omega) (by
        rw [hout, hmtu]
        unfold packetprotoEnclen
        omega)
      refine .inr ⟨{ o.write o.out data with
          outHave := false
          writer := { o.writer with state := .donePending, jobDoneLen := data.length } }, ?_, rfl,
        rfl,
        { sized := h.sized
          ring := hring
          packets := h.packets
          input := .inr ⟨d, hd, havail, .written hencoder hpacket rfl rfl rfl ?_ ?_⟩
          output := h.output }⟩
      · rw [PacketProtoFlow.writePacket, hhave]
        show Option.map _ (o.writer.done data.length) = _
        rw [PacketRecvInterface.done, asserting_pos ⟨by omega, hwriter⟩]
        rfl
      · exact Nat.le_trans hlen (Nat.le_of_eq hwmtu.symm)
      · rw [← hout]
        exact load_store _ _ _

/-- The writer gets a place. -/
theorem Held.writerOperation (h : Held P o q transit)
    (hstate : o.writer.state = .operationPending) :
    ∃ o', { o with writer := { o.writer with state := .busy } }.writerHandlerRecv
        o.writer.jobOperationData = some o' ∧ o'.output = o.output ∧ Held P o' q transit := by
  obtain ⟨hidle, -⟩ | ⟨d, hd, havail, hstage⟩ := h.input
  · cases hidle.writer.symm.trans hstate
  · cases hstage with
    -- the writer has no job in the other stages
    | asked _ _ _ hwriter => cases hwriter.symm.trans hstate
    | ready _ _ hwriter => cases hwriter.symm.trans hstate
    | written _ _ hwriter => cases hwriter.symm.trans hstate
    | encoded _ _ _ hwriter => cases hwriter.symm.trans hstate
    | encoding hencoder hpacket _ hdata hhave =>
      rw [writerHandlerRecv, asserting_pos hhave, hdata]
      exact ⟨_, rfl, rfl,
        { h with input := .inr ⟨d, hd, havail, .ready hencoder hpacket rfl rfl rfl⟩ }⟩

/-- The encoder asks the writer for a packet two bytes further on. -/
theorem Held.encoderOperation (h : Held P o q transit)
    (hstate : o.encoder.state = .operationPending) :
    ∃ o', { o with encoder := { o.encoder with state := .busy } }.encoderHandlerRecv
        o.encoder.jobOperationData = some o' ∧ o'.output = o.output ∧ Held P o' q transit := by
  obtain ⟨hidle, -⟩ | ⟨d, hd, havail, hstage⟩ := h.input
  · cases hidle.encoder.symm.trans hstate
  · cases hstage with
    | encoding hencoder => cases hencoder.symm.trans hstate
    | ready hencoder => cases hencoder.symm.trans hstate
    | written hencoder => cases hencoder.symm.trans hstate
    | encoded hencoder => cases hencoder.symm.trans hstate
    | asked _ hdata hpacket hwriter hhave =>
      rw [encoderHandlerRecv, asserting_pos hpacket, hdata, PacketRecvInterface.receiverRecv,
        asserting_pos hwriter]
      exact ⟨_, rfl, rfl,
        { h with input := .inr ⟨d, hd, havail, .encoding rfl rfl rfl rfl hhave⟩ }⟩

/-- The encoder writes the length in front of the packet. -/
theorem load_frame {m : Memory} (hdata : load m (d + packetprotoHeaderSize) data.length = data) :
    load (store m d (toLE packetprotoHeaderSize data.length)) d (frame data).length =
      frame data := by
  apply load_append
  · exact load_store _ _ _
  · rw [length_toLE, load_store_of_disjoint (.inr (Nat.le_of_eq (by rw [length_toLE])))]
    exact hdata

/-- The encoder writes the header of the packet that was written. -/
theorem Held.writerDone (h : Held P o q transit) (hstate : o.writer.state = .donePending) :
    ∃ o', { o with writer := { o.writer with state := .none } }.encoderHandlerDone
        o.writer.jobDoneLen = some o' ∧ o'.output = o.output ∧ Held P o' q transit := by
  obtain ⟨hidle, -⟩ | ⟨d, hd, havail, hstage⟩ := h.input
  · cases hidle.writer.symm.trans hstate
  · cases hstage with
    -- in the other stages the writer has not finished
    | asked _ _ _ hwriter => cases hwriter.symm.trans hstate
    | encoding _ _ hwriter => cases hwriter.symm.trans hstate
    | ready _ _ hwriter => cases hwriter.symm.trans hstate
    | encoded _ _ _ hwriter => cases hwriter.symm.trans hstate
    | @written data hencoder hpacket _ hlen hhave hmtu hdata =>
      have hinput := h.sized.inputMtu
      have hwmtu := h.sized.writer
      have hemtu := h.sized.encoder
      -- the header is written into the free place, before the payload
      have hring := h.ring_write d (toLE packetprotoHeaderSize data.length) hd havail
        (Nat.le_refl _) (by
          rw [length_toLE, hinput]
          unfold packetprotoEnclen
          omega)
      -- the frame is no longer than what the encoder may return
      have hfits : packetprotoEnclen data.length ≤ o.encoder.mtu := by
        rw [hemtu]
        unfold packetprotoEnclen
        omega
      rw [encoderHandlerDone, hlen]
      dsimp only
      rw [hpacket, Option.bind_some]
      show ∃ o', Option.map _ (o.encoder.done (packetprotoEnclen data.length)) = some o' ∧ _
      rw [PacketRecvInterface.done, asserting_pos ⟨hfits, hencoder⟩]
      exact ⟨_, rfl, rfl,
        { sized := h.sized
          ring := hring
          packets := h.packets
          input := .inr ⟨d, hd, havail, .encoded rfl rfl rfl rfl hhave hmtu (load_frame hdata)⟩
          output := h.output }⟩

/-- The packet is in the ring. -/
theorem Held.encoderDone (h : Held P o q transit) (hstate : o.encoder.state = .donePending) :
    ∃ o' data, { o with encoder := { o.encoder with state := .none } }.bufferHandlerInput
        o.encoder.jobDoneLen = some o' ∧ transit = some data ∧
      handed o'.output (q ++ [frame data]) = handed o.output q ∧
      Held P o' (q ++ [frame data]) none := by
  obtain ⟨hidle, -⟩ | ⟨d, hd, havail, hstage⟩ := h.input
  · cases hidle.encoder.symm.trans hstate
  · cases hstage with
    -- in the other stages the encoder has not finished
    | asked hencoder => cases hencoder.symm.trans hstate
    | encoding hencoder => cases hencoder.symm.trans hstate
    | ready hencoder => cases hencoder.symm.trans hstate
    | written hencoder => cases hencoder.symm.trans hstate
    | @encoded data _ hlen hpacket hwriter hhave hmtu hdata =>
      have hinput := h.sized.inputMtu
      have hwmtu := h.sized.writer
      have hle : packetprotoEnclen data.length ≤ o.inputMtu := by
        rw [hinput]
        unfold packetprotoEnclen
        omega
      -- the packet becomes the last one of the ring
      obtain ⟨buf, hsubmit, hring, hsize, hbmtu, hdest⟩ := h.ring.submitPacket hd hdata (by
        rw [length_frame]
        omega)
      rw [length_frame] at hsubmit
      let o₁ := { o with encoder := { o.encoder with state := .none }, buf }
      -- if there is room for one more, the encoder is asked for it at once
      obtain ⟨encoder, hreceive, hencoder, hinput'⟩ :=
        Input.of_receive (o := o₁) hring rfl hpacket hwriter hhave
          (Iff.rfl : buf.inputAvail ≥ o.inputMtu ↔ buf.inputAvail ≥ o.inputMtu)
      have hsized : Sized P buf.size buf.mtu o.inputMtu o.writer.mtu encoder.mtu o.output.mtu := by
        rw [hsize, hbmtu, hencoder]
        exact h.sized
      have hpackets : ∀ p ∈ q ++ [frame data], p.length ≤ packetprotoEnclen P.inputMtu := by
        intro p hp
        obtain hp | hp := List.mem_append.mp hp
        · exact h.packets p hp
        · rw [List.mem_singleton.mp hp, length_frame, ← hinput]
          exact hle
      rw [bufferHandlerInput, hlen, asserting_pos hle]
      dsimp only
      rw [hsubmit, Option.bind_some,
        show (if buf.inputAvail ≥ o.inputMtu then receive o₁ else some o₁) = _ from hreceive,
        Option.bind_some]
      -- the output gets the packet at once only if the buffer was empty
      cases q with
      | nil =>
        obtain ⟨output, hsend, homtu, hnew, houtput⟩ :=
          Output.of_send (o := { o₁ with encoder }) hring (h.output.idle.mpr rfl) (by
            rw [length_frame]
            exact Nat.le_trans (Nat.le_trans hle (Nat.le_of_eq hinput))
              (Nat.le_trans P.fits (Nat.le_of_eq h.sized.output.symm)))
        have hempty : o.buf.outputAvail < 0 := by rw [h.ring.outputAvail]; simp
        rw [if_pos hempty]
        exact ⟨_, data, hsend, rfl, (hnew _).trans (by simp [handed]),
          { sized := by
              show Sized P _ _ _ _ _ output.mtu
              rw [homtu]
              exact hsized
            ring := hring
            packets := hpackets
            input := hinput'.setOutput output
            output := houtput }⟩
      -- the output keeps the packet that it has
      | cons p q =>
        have hnonempty : ¬ o.buf.outputAvail < 0 := by rw [h.ring.outputAvail]; simp
        rw [if_neg hnonempty]
        refine ⟨_, data, rfl, rfl, rfl,
          { sized := hsized
            ring := hring
            packets := hpackets
            input := hinput'
            output := ⟨?_, ?_⟩ }⟩
        · exact iff_of_false (fun hnone => List.cons_ne_nil _ _ (h.output.idle.mp hnone)) (by simp)
        · show ∀ x ∈ some p, buf.outputDest = _ ∧ _
          rw [hdest (by simp)]
          exact h.output.packet

/-- The output has the first packet of the ring. -/
theorem Held.output_head (h : Held P o q transit) (hstate : o.output.state ≠ .none) :
    ∃ p q', q = p :: q' ∧
      load o.buf.buffer o.output.jobOperationData o.output.jobOperationLen = p := by
  obtain ⟨p, q', rfl⟩ := List.exists_cons_of_ne_nil (mt h.output.idle.mpr hstate)
  obtain ⟨hdest, hlen⟩ := h.output.packet p rfl
  obtain ⟨d, hd, -, hload⟩ := h.ring.output
  obtain rfl := Option.some.inj (hdest.symm.trans hd)
  exact ⟨p, q', rfl, by rw [hlen, hload]⟩

/-- The output goes on. -/
theorem Held.setState (h : Held P o q transit) (hstate : o.output.state ≠ .none)
    {state : InterfaceState} (hne : state ≠ .none) :
    Held P { o with output := { o.output with state } } q transit :=
  { h with
    input := h.input.setOutput _
    output := ⟨iff_of_false hne (mt h.output.idle.mpr hstate), h.output.packet⟩ }

/-- The output is done with the first packet. -/
theorem Held.outputDone (h : Held P o q transit) (hstate : o.output.state = .donePending) :
    ∃ o' p q', { o with output := { o.output with state := .none } }.bufferHandlerOutput =
        some o' ∧ q = p :: q' ∧ handed o'.output q' = [] ∧ Held P o' q' transit := by
  obtain ⟨p, q', rfl, -⟩ := h.output_head (by rw [hstate]; simp)
  obtain ⟨buf, hconsume, hring, hsize, hbmtu, hbuffer, hmore, hdest⟩ := h.ring.consumePacket
  let o₁ := { o with output := { o.output with state := .none }, buf }
  -- the place that is handed around stays; if there was none, there may be room for one now
  obtain ⟨encoder, hreceive, hencoder, hinput⟩ : ∃ encoder,
      (if o.buf.inputAvail < o.inputMtu ∧ buf.inputAvail ≥ o.inputMtu then receive o₁
        else some o₁) =
        some { o₁ with encoder } ∧ encoder.mtu = o.encoder.mtu ∧
      Input { o₁ with encoder } transit := by
    obtain ⟨hidle, rfl⟩ | ⟨d, hd, havail, hstage⟩ := h.input
    · exact Input.of_receive (o := o₁) hring hidle.encoder hidle.outputPacket hidle.writer
        hidle.outHave (and_iff_right hidle.full)
    · rw [if_neg (by omega)]
      exact ⟨o.encoder, rfl, rfl, .inr ⟨d, hdest d hd, Int.le_trans havail hmore,
        hstage.setBuf hbuffer _⟩⟩
  -- the sizes are fixed
  have hsized : Sized P buf.size buf.mtu o.inputMtu o.writer.mtu encoder.mtu o.output.mtu := by
    rw [hsize, hbmtu, hencoder]
    exact h.sized
  have hpackets : ∀ x ∈ q', x.length ≤ packetprotoEnclen P.inputMtu :=
    fun x hx => h.packets x (List.mem_cons_of_mem _ hx)
  rw [bufferHandlerOutput]
  dsimp only
  rw [hconsume, Option.bind_some,
    show (if o.buf.inputAvail < o.inputMtu ∧ buf.inputAvail ≥ o.inputMtu then receive o₁
      else some o₁) = _ from hreceive, Option.bind_some]
  cases q' with
  -- that was the last packet
  | nil =>
    have hempty : ¬ buf.outputAvail ≥ 0 := by rw [hring.outputAvail]; simp
    rw [if_neg hempty]
    exact ⟨_, p, [], rfl, rfl, by simp [handed, o₁],
      { sized := hsized
        ring := hring
        packets := hpackets
        input := hinput
        output := ⟨by simp [o₁], by simp⟩ }⟩
  -- the next packet is handed to the output
  | cons x q' =>
    have hnonempty : buf.outputAvail ≥ 0 := by rw [hring.outputAvail]; simp
    have hfits := Nat.le_trans (hpackets x List.mem_cons_self)
      (Nat.le_trans P.fits (Nat.le_of_eq h.sized.output.symm))
    obtain ⟨output, hsend, homtu, hnew, houtput⟩ :=
      Output.of_send (o := { o₁ with encoder }) hring rfl hfits
    rw [if_pos hnonempty]
    exact ⟨_, p, x :: q', hsend, rfl, hnew _,
      { sized := by
          show Sized P _ _ _ _ _ output.mtu
          rw [homtu]
          exact hsized
        ring := hring
        packets := hpackets
        input := hinput.setOutput output
        output := houtput }⟩

/-! ## Runs -/

/-- The events of a flow in any order; the state is `none` after an `ASSERT` failed. -/
def machine (P : Params) (memory : Memory) : Machine (Option PacketProtoFlow) Event Obs where
  init := init memory P.inputMtu P.numPackets P.mtu
  step s e :=
    s.bind fun o => (o.step e).map fun
      | some (o, obs) => (some o, obs)
      | none => (none, [])

/-- The packets that were accepted. -/
def acceptedOf (tr : List Obs) : List (List UInt8) :=
  tr.filterMap fun
    | .accepted data => some data
    | _ => none

/-- The frames that the output was given. -/
def sentOf (tr : List Obs) : List (List UInt8) :=
  tr.filterMap fun
    | .sent packet => some packet
    | _ => none

/-- How many of them it is done with. -/
def finishedIn (tr : List Obs) : Nat := tr.count .finished

/-- No job is pending. -/
structure AtRest (o : PacketProtoFlow) : Prop where
  writer : o.writer.state = .none ∨ o.writer.state = .busy
  encoder : o.encoder.state = .none ∨ o.encoder.state = .busy
  output : o.output.state = .none ∨ o.output.state = .busy

/-- What was accepted is finished, or in the ring, or on its way there. -/
structure Accounts (o : PacketProtoFlow) (q : List (List UInt8)) (transit : Option (List UInt8))
    (done : List (List UInt8)) (tr : List Obs) : Prop where
  accepted : (acceptedOf tr).map frame = done ++ q ++ (transit.map frame).toList
  sent : sentOf tr = done ++ handed o.output q
  finished : finishedIn tr = done.length

/-- The flow is intact, and every accepted packet is accounted for. -/
def Fifo (P : Params) (s : Option PacketProtoFlow) (tr : List Obs) : Prop :=
  ∃ o q transit done, s = some o ∧ Held P o q transit ∧ Accounts o q transit done tr

variable {s s' : Option PacketProtoFlow} {tr obs : List Obs} {e : Event} {memory : Memory}
  {done : List (List UInt8)}

/-- A new flow has accepted nothing. -/
theorem Fifo.init (P : Params) (memory : Memory) : Fifo P (machine P memory).init [] := by
  obtain ⟨o, hinit, hheld⟩ := Held.of_init P memory
  refine ⟨o, [], none, [], hinit, hheld, rfl, ?_, rfl⟩
  simp [sentOf, handed]

/-- A job inside the flow changes nothing about it. -/
theorem Accounts.of_output (h : Accounts o q transit done tr) (houtput : o'.output = o.output) :
    Accounts o' q transit done (tr ++ []) := by
  rw [List.append_nil]
  exact ⟨h.accepted, by rw [houtput]; exact h.sent, h.finished⟩

/-- One event, whatever it is. -/
theorem Held.step {r : Option (PacketProtoFlow × List Obs)} (h : Held P o q transit)
    (haccounts : Accounts o q transit done tr) (hr : o.step e = some r) :
    ∃ o' obs q' transit' done', r = some (o', obs) ∧ Held P o' q' transit' ∧
      Accounts o' q' transit' done' (tr ++ obs) := by
  have ⟨haccepted, hsent, hfinished⟩ := haccounts
  cases e with
  | packet data =>
    rw [PacketProtoFlow.step] at hr
    split at hr
    · rename_i hlen
      rw [h.sized.writer] at hlen
      -- refused or accepted
      obtain ⟨hwrite, -⟩ | ⟨o', hwrite, rfl, houtput, hheld⟩ := h.writePacket hlen
      · rw [hwrite] at hr
        cases hr
        -- a refused packet is in none of the three accounts
        refine ⟨o, _, q, transit, done, rfl, h, ?_, ?_, ?_⟩
        · simpa [acceptedOf] using haccepted
        · simpa [sentOf] using hsent
        · simpa [finishedIn] using hfinished
      · rw [hwrite] at hr
        cases hr
        refine ⟨o', _, q, some data, done, rfl, hheld, ?_, ?_, ?_⟩
        · simp_all [acceptedOf]
        · simpa [sentOf, houtput] using hsent
        · simpa [finishedIn] using hfinished
    · cases hr
  -- the jobs inside the flow emit nothing
  | writerOperation =>
    rw [PacketProtoFlow.step] at hr
    split at hr
    · rename_i hstate
      obtain ⟨o', heq, houtput, hheld⟩ := h.writerOperation hstate
      rw [heq] at hr
      cases hr
      exact ⟨o', _, q, transit, done, rfl, hheld, haccounts.of_output houtput⟩
    · cases hr
  | writerDone =>
    rw [PacketProtoFlow.step] at hr
    split at hr
    · rename_i hstate
      obtain ⟨o', heq, houtput, hheld⟩ := h.writerDone hstate
      rw [heq] at hr
      cases hr
      exact ⟨o', _, q, transit, done, rfl, hheld, haccounts.of_output houtput⟩
    · cases hr
  | encoderOperation =>
    rw [PacketProtoFlow.step] at hr
    split at hr
    · rename_i hstate
      obtain ⟨o', heq, houtput, hheld⟩ := h.encoderOperation hstate
      rw [heq] at hr
      cases hr
      exact ⟨o', _, q, transit, done, rfl, hheld, haccounts.of_output houtput⟩
    · cases hr
  -- the packet on its way arrives in the ring
  | encoderDone =>
    rw [PacketProtoFlow.step] at hr
    split at hr
    · rename_i hstate
      obtain ⟨o', data, heq, rfl, hhanded, hheld⟩ := h.encoderDone hstate
      rw [heq] at hr
      cases hr
      refine ⟨o', _, _, none, done, rfl, hheld, ?_, ?_, ?_⟩
      · simpa [acceptedOf] using haccepted
      · rw [hhanded, List.append_nil]
        exact hsent
      · rw [List.append_nil]
        exact hfinished
    · cases hr
  -- the first packet is handed to the output
  | outputOperation =>
    rw [PacketProtoFlow.step] at hr
    split at hr
    · rename_i hstate
      cases hr
      obtain ⟨p, q', rfl, hload⟩ := h.output_head (by rw [hstate]; simp)
      refine ⟨_, _, p :: q', transit, done, rfl, h.setState (by rw [hstate]; simp) (by simp),
        ?_, ?_, ?_⟩
      · simpa [acceptedOf] using haccepted
      · rw [handed, hstate] at hsent
        simp_all [sentOf, handed]
      · simpa [finishedIn] using hfinished
    · cases hr
  -- the packet stays the first of the ring until its job is done
  | outputFinish =>
    rw [PacketProtoFlow.step] at hr
    split at hr
    · rename_i hstate
      cases hr
      refine ⟨_, _, q, transit, done, rfl, h.setState (by rw [hstate]; simp) (by simp),
        by simpa using haccepted, ?_, by simpa using hfinished⟩
      rw [List.append_nil, hsent, handed, handed, if_pos (.inl hstate), if_pos (.inr rfl)]
    · cases hr
  -- it leaves the ring
  | outputDone =>
    rw [PacketProtoFlow.step] at hr
    split at hr
    · rename_i hstate
      obtain ⟨o', p, q', heq, rfl, hhanded, hheld⟩ := h.outputDone hstate
      rw [heq] at hr
      cases hr
      refine ⟨o', _, q', transit, done ++ [p], rfl, hheld, ?_, ?_, ?_⟩
      · simpa [acceptedOf] using haccepted
      · rw [handed, if_pos (.inr hstate)] at hsent
        rw [hhanded]
        simpa [sentOf] using hsent
      · simpa [finishedIn] using hfinished
    · cases hr

/-- Every event keeps it. -/
theorem Fifo.step (h : Fifo P s tr) (hstep : (machine P memory).step s e = some (s', obs)) :
    Fifo P s' (tr ++ obs) := by
  obtain ⟨o, q, transit, done, rfl, hheld, haccounts⟩ := h
  simp only [machine, Option.bind_some] at hstep
  obtain ⟨r, hr, heq⟩ := Option.map_eq_some_iff.mp hstep
  obtain ⟨o', obs', q', transit', done', rfl, hheld', haccounts'⟩ := hheld.step haccounts hr
  obtain ⟨rfl, rfl⟩ := Prod.mk.inj heq
  exact ⟨o', q', transit', done', rfl, hheld', haccounts'⟩

/-- Where no job is pending, the writer has a place or the ring is full. -/
theorem Held.atRest (h : Held P o q transit) (hrest : AtRest o) :
    transit = none ∧ (o.outHave = true ∨ P.numPackets ≤ q.length) := by
  have hwriter := hrest.writer
  have hencoder := hrest.encoder
  obtain ⟨hidle, rfl⟩ | ⟨d, hd, havail, hstage⟩ := h.input
  · refine ⟨rfl, .inr (Nat.le_of_not_lt fun hlt => ?_)⟩
    have hbuf := h.sized.bufMtu
    -- with fewer packets than it was made for, the ring has room, and the buffer would have asked
    have hcells : ∀ n, n ≤ packetprotoEnclen P.inputMtu → cellsOf n ≤ o.buf.mtu + 1 := by
      intro n hn
      have hle := (@ChunkBuffer2.cellsOf_le (packetprotoEnclen P.inputMtu) o.buf.mtu).mp
        (Nat.le_of_eq (by rw [hbuf, cellsOf, Nat.add_comm]))
      exact ChunkBuffer2.cellsOf_le.mpr (Nat.le_trans hn hle)
    have hroom := h.ring.inputAvail_of_length h.sized.size
      (fun p hp => hcells _ (h.packets p hp)) hlt
    have hmtu := h.sized.inputMtu
    have hle := ChunkBuffer2.cellsOf_le.mp (hcells _ (Nat.le_refl _))
    have hfull := hidle.full
    omega
  · cases hstage with
    | asked hstate => simp [hstate] at hencoder
    | encoding _ _ hstate => simp [hstate] at hwriter
    | ready _ _ _ _ hhave => exact ⟨rfl, .inl hhave⟩
    | written _ _ hstate => simp [hstate] at hwriter
    | encoded hstate => simp [hstate] at hencoder

/-- Along every run no `ASSERT` fails, and what the output is given are the accepted packets
    with their lengths in front, in order and each once.  Where no job is pending, all of them
    were given if the output is idle, and the next packet is accepted unless as many as the
    flow was made for are unfinished. -/
theorem flow_fifo (h : (machine P memory).Reachable s tr) :
    ∃ o, s = some o ∧ (∃ waiting, (acceptedOf tr).map frame = sentOf tr ++ waiting) ∧
      (AtRest o → (o.output.state = .none → (acceptedOf tr).map frame = sentOf tr) ∧
        (o.outHave = true ∨ P.numPackets + finishedIn tr ≤ (acceptedOf tr).length)) := by
  have hfifo : Fifo P s tr :=
    h.inv (P := fun s tr => Fifo P s tr) (Fifo.init P memory) fun h _ hs => h.step hs
  obtain ⟨o, q, transit, done, rfl, hheld, haccepted, hsent, hfinished⟩ := hfifo
  refine ⟨o, rfl, ?_, ?_⟩
  · -- the output has the first packet of the ring, or none of them
    have hsplit : ∃ rest, q = handed o.output q ++ rest := by
      unfold handed
      split
      · exact ⟨q.drop 1, (List.take_append_drop 1 q).symm⟩
      · exact ⟨q, rfl⟩
    obtain ⟨rest, hrest⟩ := hsplit
    refine ⟨rest ++ (transit.map frame).toList, ?_⟩
    rw [haccepted, hsent]
    conv_lhs => rw [hrest]
    simp
  · intro hrest
    obtain ⟨rfl, hroom⟩ := hheld.atRest hrest
    have hlength := congrArg List.length haccepted
    rw [List.length_map] at hlength
    refine ⟨fun hidle => ?_, hroom.imp id fun hfull => ?_⟩
    · rw [haccepted, hsent, hheld.output.idle.mp hidle]
      simp [handed]
    · simp at hlength
      omega

/-- A flow for one packet of at most three bytes. -/
def demoParams : Params where
  inputMtu := 3
  numPackets := 1
  mtu := 5
  payload := by decide
  packets := by decide
  fits := by decide
  small := by decide

/-- Two packets; the second is written while the first is sent, and a third is refused. -/
theorem flow_fifo_two : ∃ o tr, (machine demoParams fun _ => 0).Reachable (some o) tr ∧
    sentOf tr = [[3, 0, 1, 2, 3], [1, 0, 7]] ∧ ∃ waiting, (acceptedOf tr).map frame =
      sentOf tr ++ waiting := by
  obtain ⟨s, tr, hreach, hsent⟩ := (machine demoParams fun _ => 0).exists_reach (fun _ _ => True)
    (fun _ tr => decide (sentOf tr = [[3, 0, 1, 2, 3], [1, 0, 7]]))
    [.encoderOperation, .writerOperation, .packet [1, 2, 3], .writerDone, .encoderDone,
      .encoderOperation, .writerOperation, .packet [7], .outputOperation, .writerDone,
      .encoderDone, .packet [8, 9], .outputFinish, .outputDone, .outputOperation]
    (by decide +kernel)
  obtain ⟨o, rfl, hwaiting, -⟩ := flow_fifo hreach
  exact ⟨o, tr, hreach, of_decide_eq_true hsent, hwaiting⟩

end PacketProtoFlow

end OpenFlux
