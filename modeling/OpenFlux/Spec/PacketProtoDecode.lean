import OpenFlux.ForStd.Machine
import OpenFlux.Model.PacketProtoDecoder

/-!
# The decoder gives back the packets of the stream

What the decoder has received is the frames of the packets it has passed on, and the bytes in
its buffer, however the stream is cut into pieces.  It asks for more only if these are not a
whole frame, so no packet stays behind.

## Key results

- `processData_cases`: the three things `process_data` does
- `decoder_sound`: for any stream
- `decode_frames`: a stream of frames gives back the packets that were framed
-/

namespace OpenFlux

open ByteMemory
open PacketProtoFlow (frame length_frame)

namespace PacketProtoDecoder

/-! ## Frames -/

/-- No whole frame, but the beginning of one may be there. -/
def Incomplete (mtu : Nat) (bs : List UInt8) : Prop :=
  bs.length < packetprotoHeaderSize ∨
  ofLE (bs.take packetprotoHeaderSize) ≤ mtu ∧
    bs.length < packetprotoEnclen (ofLE (bs.take packetprotoHeaderSize))

/-- The header announces more than may be passed on. -/
def Oversize (mtu : Nat) (bs : List UInt8) : Prop :=
  packetprotoHeaderSize ≤ bs.length ∧ mtu < ofLE (bs.take packetprotoHeaderSize)

/-- The bytes of packets in the stream. -/
def frames (ps : List (List UInt8)) : List UInt8 := (ps.map frame).flatten

@[simp]
theorem frames_nil : frames [] = [] := rfl

@[simp]
theorem frames_cons (p : List UInt8) (ps : List (List UInt8)) :
    frames (p :: ps) = frame p ++ frames ps := rfl

@[simp]
theorem frames_append (ps qs : List (List UInt8)) : frames (ps ++ qs) = frames ps ++ frames qs := by
  simp [frames]

variable {o o' : PacketProtoDecoder} {mtu data len : Nat} {bs p rest : List UInt8}

/-- The header of a frame says how long the packet is. -/
theorem take_frame (hp : p.length ≤ packetprotoMaxpayload) (rest : List UInt8) :
    ofLE ((frame p ++ rest).take packetprotoHeaderSize) = p.length := by
  rw [frame, List.append_assoc, List.take_left' (length_toLE _ _), ofLE_toLE]
  show p.length < 65536
  unfold packetprotoMaxpayload at hp
  omega

/-! ## One round -/

/-- Nothing is going on but `process_data`. -/
structure Between (o : PacketProtoDecoder) : Prop where
  receiving : o.receiving = none
  sending : o.sending = none
  error : o.error = false
  size : o.bufSize = packetprotoEnclen o.outputMtu
  fits : o.bufStart + o.bufUsed ≤ o.bufSize

/-- The bytes in the buffer. -/
def buffered (o : PacketProtoDecoder) : List UInt8 := load o.buf o.bufStart o.bufUsed

/-- The decoder waits for bytes behind those it has. -/
structure Waiting (o : PacketProtoDecoder) : Prop where
  receiving : o.receiving = some (o.bufStart + o.bufUsed, o.bufSize - (o.bufStart + o.bufUsed))
  sending : o.sending = none
  error : o.error = false
  size : o.bufSize = packetprotoEnclen o.outputMtu
  room : o.bufStart + o.bufUsed < o.bufSize
  incomplete : Incomplete o.outputMtu o.buffered

/-- The user has the packet `p`. -/
structure Passing (o : PacketProtoDecoder) (p : List UInt8) : Prop where
  receiving : o.receiving = none
  sending : ∃ data, o.sending = some (data, p.length) ∧ load o.buf data p.length = p
  error : o.error = false
  size : o.bufSize = packetprotoEnclen o.outputMtu
  fits : o.bufStart + o.bufUsed ≤ o.bufSize
  length : p.length ≤ o.outputMtu

/-- Without a whole frame the decoder waits, and has room for more. -/
theorem receiveMore_waiting (h : Between o) (hincomplete : Incomplete o.outputMtu o.buffered) :
    ∃ o', o.receiveMore = some o' ∧ Waiting o' ∧ o'.buffered = o.buffered ∧
      o'.outputMtu = o.outputMtu := by
  have hsize := h.size
  have hfits := h.fits
  -- an incomplete frame is shorter than the buffer
  have hshort : o.bufUsed < o.bufSize := by
    unfold Incomplete buffered at hincomplete
    rw [length_load] at hincomplete
    unfold packetprotoEnclen at *
    omega
  by_cases hend : o.bufStart + o.bufUsed = o.bufSize
  · -- the bytes are moved to the front
    have hmoved : load (store o.buf 0 (load o.buf o.bufStart o.bufUsed)) 0 o.bufUsed =
        load o.buf o.bufStart o.bufUsed := by
      have hload := load_store o.buf 0 (load o.buf o.bufStart o.bufUsed)
      rwa [length_load] at hload
    rw [receiveMore, if_pos hend, recv, asserting_pos ⟨by dsimp only; omega, h.receiving⟩]
    refine ⟨_, rfl, ⟨rfl, h.sending, h.error, h.size, ?_, ?_⟩, hmoved, rfl⟩
    · dsimp only
      omega
    · show Incomplete o.outputMtu
        (load (store o.buf 0 (load o.buf o.bufStart o.bufUsed)) 0 o.bufUsed)
      rw [hmoved]
      exact hincomplete
  · rw [receiveMore, if_neg hend, recv, asserting_pos ⟨by omega, h.receiving⟩]
    exact ⟨_, rfl, ⟨rfl, h.sending, h.error, h.size, by dsimp only; omega, hincomplete⟩, rfl, rfl⟩

/-- A whole frame in the buffer, and what is behind it. -/
theorem buffered_eq_frame {n : Nat}
    (hlen : ofLE (o.buffered.take packetprotoHeaderSize) = n)
    (hn : packetprotoEnclen n ≤ o.bufUsed) :
    o.buffered = frame (load o.buf (o.bufStart + packetprotoHeaderSize) n) ++
      load o.buf (o.bufStart + packetprotoEnclen n) (o.bufUsed - packetprotoEnclen n) := by
  have hheader : (o.buffered.take packetprotoHeaderSize).length = packetprotoHeaderSize := by
    rw [List.length_take, buffered, length_load]
    unfold packetprotoEnclen at hn
    omega
  -- the two bytes of the header are the encoding of what is read from them
  have hle : toLE packetprotoHeaderSize n = o.buffered.take packetprotoHeaderSize := by
    have hround := toLE_ofLE (o.buffered.take packetprotoHeaderSize)
    rwa [hheader, hlen] at hround
  have hsplit : o.bufUsed = packetprotoHeaderSize + n + (o.bufUsed - packetprotoEnclen n) := by
    unfold packetprotoEnclen at *
    omega
  rw [frame, length_load, hle, buffered, take_load _ _ (by unfold packetprotoEnclen at hn; omega)]
  nth_rewrite 1 [hsplit]
  rw [load_add, load_add]
  rfl

/-- `process_data` asks for more, or reports an error, or passes a packet on. -/
theorem processData_cases (h : Between o) :
    ∃ o', o.processData = some o' ∧ o'.outputMtu = o.outputMtu ∧
      (Waiting o' ∧ o'.buffered = o.buffered ∨
        o'.error = true ∧ Oversize o.outputMtu o.buffered ∨
        ∃ p, Passing o' p ∧ o.buffered = frame p ++ o'.buffered) := by
  have hsize := h.size
  have hfits := h.fits
  unfold processData
  by_cases hheader : o.bufUsed < packetprotoHeaderSize
  · -- the header is not there yet
    rw [if_pos hheader]
    obtain ⟨o', hmore, hwaiting, hbuffered, hmtu⟩ := receiveMore_waiting h
      (.inl (by rw [buffered, length_load]; exact hheader))
    exact ⟨o', hmore, hmtu, .inl ⟨hwaiting, hbuffered⟩⟩
  · have htake : o.buffered.take packetprotoHeaderSize =
        load o.buf o.bufStart packetprotoHeaderSize :=
      take_load _ _ (by omega)
    have hlength : o.buffered.length = o.bufUsed := length_load _ _ _
    rw [if_neg hheader]
    dsimp only
    rw [← htake]
    generalize hlen : ofLE (o.buffered.take packetprotoHeaderSize) = n
    by_cases hover : n > o.outputMtu
    · -- the whole buffer is received again, and the error handler is called
      rw [if_pos hover, recv, asserting_pos]
      · exact ⟨_, rfl, rfl, .inr (.inl ⟨rfl, by omega, by omega⟩)⟩
      · refine ⟨?_, h.receiving⟩
        unfold packetprotoEnclen packetprotoHeaderSize at *
        omega
    · rw [if_neg hover]
      by_cases hmore : o.bufUsed - packetprotoHeaderSize < n
      · -- the packet is not there yet
        rw [if_pos hmore]
        obtain ⟨o', hmore, hwaiting, hbuffered, hmtu⟩ := receiveMore_waiting h
          (.inr ⟨by omega, by unfold packetprotoEnclen; omega⟩)
        exact ⟨o', hmore, hmtu, .inl ⟨hwaiting, hbuffered⟩⟩
      · -- a whole frame
        rw [if_neg hmore, send, asserting_pos ⟨by dsimp only; omega, h.sending⟩]
        refine ⟨_, rfl, rfl, .inr (.inr ⟨load o.buf (o.bufStart + packetprotoHeaderSize) n,
          ⟨h.receiving, ⟨_, by rw [length_load], by rw [length_load]⟩, h.error, h.size, ?_, ?_⟩,
          ?_⟩)⟩
        · dsimp only
          unfold packetprotoEnclen
          omega
        · show (load o.buf (o.bufStart + packetprotoHeaderSize) n).length ≤ o.outputMtu
          rw [length_load]
          omega
        · exact buffered_eq_frame hlen (by unfold packetprotoEnclen; omega)

/-! ## Runs -/

/-- The decoder on the buffer `buf`; `none` once an `ASSERT` has failed. -/
def machine (buf : Memory) (mtu : Nat) : Machine (Option PacketProtoDecoder) Event Obs where
  init := init buf mtu
  step s e :=
    s.bind fun o => (o.step e).map fun
      | some (o, obs) => (some o, obs)
      | none => (none, [])

/-- The stream as far as it was received. -/
def streamOf (tr : List Obs) : List UInt8 :=
  tr.flatMap fun
    | .received bytes => bytes
    | .packet _ => []

/-- The packets that the user has read. -/
def packetsOf (tr : List Obs) : List (List UInt8) :=
  tr.filterMap fun
    | .received _ => none
    | .packet data => some data

/-- What becomes of the bytes behind the packets that the user has read. -/
def Pending (o : PacketProtoDecoder) (rest : List UInt8) : Prop :=
  Waiting o ∧ rest = o.buffered ∨
  o.error = true ∧ Oversize o.outputMtu rest ∨
  ∃ p, Passing o p ∧ rest = frame p ++ o.buffered

/-- The stream is accounted for. -/
structure Decodes (mtu : Nat) (o : PacketProtoDecoder) (tr : List Obs) : Prop where
  outputMtu : o.outputMtu = min mtu packetprotoMaxpayload
  packets : ∀ p ∈ packetsOf tr, p.length ≤ o.outputMtu
  stream : ∃ rest, streamOf tr = frames (packetsOf tr) ++ rest ∧ Pending o rest

variable {buf : Memory} {s s' : Option PacketProtoDecoder} {tr obs : List Obs} {e : Event}

/-- Bytes that are received belong to the stream. -/
theorem streamOf_received (tr : List Obs) (bs : List UInt8) :
    streamOf (tr ++ [.received bs]) = streamOf tr ++ bs := by
  simp [streamOf]

/-- A packet that is passed on does not change the stream. -/
theorem streamOf_packet (tr : List Obs) (p : List UInt8) :
    streamOf (tr ++ [.packet p]) = streamOf tr := by
  simp [streamOf]

/-- Receiving bytes passes no packet on. -/
theorem packetsOf_received (tr : List Obs) (bs : List UInt8) :
    packetsOf (tr ++ [.received bs]) = packetsOf tr := by
  simp [packetsOf]

/-- A packet that is passed on is the last of the packets. -/
theorem packetsOf_packet (tr : List Obs) (p : List UInt8) :
    packetsOf (tr ++ [.packet p]) = packetsOf tr ++ [p] := by
  simp [packetsOf]

/-- After `process_data` the bytes of the buffer are accounted for. -/
theorem Between.pending (h : Between o) :
    ∃ o', o.processData = some o' ∧ o'.outputMtu = o.outputMtu ∧ Pending o' o.buffered := by
  obtain ⟨o', hdata, hmtu, hcases⟩ := processData_cases h
  refine ⟨o', hdata, hmtu, ?_⟩
  rcases hcases with ⟨hwaiting, hbuffered⟩ | ⟨herror, hover⟩ | ⟨p, hpassing, hbuffered⟩
  · exact .inl ⟨hwaiting, hbuffered.symm⟩
  · exact .inr (.inl ⟨herror, by rw [hmtu]; exact hover⟩)
  · exact .inr (.inr ⟨p, hpassing, hbuffered⟩)

/-- The bytes are received behind those in the buffer. -/
theorem Waiting.input (h : Waiting o) (hne : bs ≠ [])
    (hlen : bs.length ≤ o.bufSize - (o.bufStart + o.bufUsed)) :
    ∃ o', { o with
        buf := store o.buf (o.bufStart + o.bufUsed) bs
        receiving := none }.inputHandlerDone bs.length = some o' ∧
      o'.outputMtu = o.outputMtu ∧ Pending o' (o.buffered ++ bs) := by
  have hpos := List.length_pos_of_ne_nil hne
  have hroom := h.room
  rw [inputHandlerDone, asserting_pos ⟨hpos, hlen⟩]
  obtain ⟨o', hdata, hmtu, hpending⟩ := Between.pending
    (o := { o with
      buf := store o.buf (o.bufStart + o.bufUsed) bs
      receiving := none
      bufUsed := o.bufUsed + bs.length })
    ⟨rfl, h.sending, h.error, h.size, by dsimp only; omega⟩
  refine ⟨o', hdata, hmtu, ?_⟩
  -- behind those that were there
  have hbuffered : load (store o.buf (o.bufStart + o.bufUsed) bs) o.bufStart
      (o.bufUsed + bs.length) = o.buffered ++ bs := by
    rw [load_add, load_store, load_store_of_disjoint (.inl (Nat.le_refl _))]
    rfl
  rwa [buffered, hbuffered] at hpending

/-- The user is done with a packet, and `process_data` goes on behind it. -/
theorem Passing.outputDone (h : Passing o p) :
    ∃ o', { o with sending := none }.processData = some o' ∧ o'.outputMtu = o.outputMtu ∧
      Pending o' o.buffered :=
  Between.pending (o := { o with sending := none }) ⟨h.receiving, rfl, h.error, h.size, h.fits⟩

/-- At first the decoder waits for its first byte. -/
theorem Decodes.init (buf : Memory) (mtu : Nat) :
    ∃ o, (machine buf mtu).init = some o ∧ Decodes mtu o [] := by
  refine ⟨_, by rw [machine, PacketProtoDecoder.init, recv,
    asserting_pos ⟨by dsimp only; unfold packetprotoEnclen packetprotoHeaderSize; omega, rfl⟩], rfl,
    by simp [packetsOf], [], rfl, .inl ⟨⟨by simp, rfl, rfl, rfl, ?_, .inl ?_⟩, rfl⟩⟩
  · dsimp only
    unfold packetprotoEnclen packetprotoHeaderSize
    omega
  · rw [buffered, length_load]
    exact Nat.zero_lt_succ 1

/-- One event, whatever it is. -/
theorem Decodes.step {r : Option (PacketProtoDecoder × List Obs)} (h : Decodes mtu o tr)
    (hr : o.step e = some r) : ∃ o' obs, r = some (o', obs) ∧ Decodes mtu o' (tr ++ obs) := by
  obtain ⟨houtput, hpackets, rest, hstream, hpending⟩ := h
  cases e with
  | input bytes =>
    rw [PacketProtoDecoder.step] at hr
    split at hr
    · rename_i data avail herror hreceiving
      split at hr
      · rename_i hbytes
        -- bytes can only arrive while the decoder waits
        obtain ⟨hwaiting, rfl⟩ | ⟨herror', -⟩ | ⟨p, hpassing, -⟩ := hpending
        · have hsame := hwaiting.receiving.symm.trans hreceiving
          obtain ⟨rfl, rfl⟩ := Prod.mk.inj (Option.some.inj hsame)
          obtain ⟨o', hdone, hmtu, hpending'⟩ := hwaiting.input hbytes.1 hbytes.2
          rw [hdone] at hr
          refine ⟨o', [.received bytes], (Option.some.inj hr).symm, hmtu.trans houtput, ?_,
            o.buffered ++ bytes, ?_, hpending'⟩
          · -- nothing is passed on by receiving
            rw [packetsOf_received, hmtu]
            exact hpackets
          · rw [streamOf_received, packetsOf_received, hstream, List.append_assoc]
        · cases herror.symm.trans herror'
        · cases hpassing.receiving.symm.trans hreceiving
      · contradiction
    · contradiction
  | outputDone =>
    rw [PacketProtoDecoder.step] at hr
    split at hr
    · rename_i data len herror hsending
      -- a packet can only be done while the user has one
      obtain ⟨hwaiting, rfl⟩ | ⟨herror', -⟩ | ⟨p, hpassing, rfl⟩ := hpending
      · cases hwaiting.sending.symm.trans hsending
      · cases herror.symm.trans herror'
      · obtain ⟨data', hsending', hload⟩ := hpassing.sending
        obtain ⟨rfl, rfl⟩ := Prod.mk.inj (Option.some.inj (hsending'.symm.trans hsending))
        obtain ⟨o', hdone, hmtu, hpending'⟩ := hpassing.outputDone
        rw [hdone, hload] at hr
        refine ⟨o', [.packet p], (Option.some.inj hr).symm, hmtu.trans houtput, ?_,
          o.buffered, ?_, hpending'⟩
        · intro p' hp'
          rw [packetsOf_packet, List.mem_append] at hp'
          rw [hmtu]
          obtain hp' | hp' := hp'
          · exact hpackets p' hp'
          · rw [List.mem_singleton.mp hp']
            exact hpassing.length
        · rw [streamOf_packet, packetsOf_packet, hstream]
          simp
    · contradiction

/-- In every run the stream is accounted for. -/
theorem decodes_of_reachable (h : (machine buf mtu).Reachable s tr) :
    ∃ o, s = some o ∧ Decodes mtu o tr := by
  refine h.inv (P := fun s tr => ∃ o, s = some o ∧ Decodes mtu o tr) (Decodes.init buf mtu) ?_
  rintro s tr e s' obs ⟨o, rfl, hdecodes⟩ - hstep
  simp only [machine, Option.bind_some] at hstep
  obtain ⟨r, hr, heq⟩ := Option.map_eq_some_iff.mp hstep
  obtain ⟨o', obs', rfl, hdecodes'⟩ := hdecodes.step hr
  obtain ⟨rfl, rfl⟩ := Prod.mk.inj heq
  exact ⟨o', rfl, hdecodes'⟩

/-- Whatever the stream is and however it comes: no `ASSERT` fails, and it is the frames of the
    packets that the user has read and a rest.  The decoder asks for more only if the rest is
    not a whole frame, the user has the packet that the rest begins with, or that packet is too
    large and there is an error. -/
theorem decoder_sound (h : (machine buf mtu).Reachable s tr) :
    ∃ o rest, s = some o ∧ streamOf tr = frames (packetsOf tr) ++ rest ∧
      (∀ p ∈ packetsOf tr, p.length ≤ min mtu packetprotoMaxpayload) ∧
      (o.error = false ∧ o.receiving.isSome ∧ Incomplete (min mtu packetprotoMaxpayload) rest ∨
        o.error = false ∧ (∃ data len more, o.sending = some (data, len) ∧
          rest = frame (load o.buf data len) ++ more) ∨
        o.error = true ∧ Oversize (min mtu packetprotoMaxpayload) rest) := by
  obtain ⟨o, rfl, hmtu, hpackets, rest, hstream, hpending⟩ := decodes_of_reachable h
  rw [hmtu] at hpackets
  refine ⟨o, rest, rfl, hstream, hpackets, ?_⟩
  -- it waits, has stopped, or passes a packet on
  obtain ⟨hwaiting, rfl⟩ | ⟨herror, hover⟩ | ⟨p, hpassing, rfl⟩ := hpending
  · refine .inl ⟨hwaiting.error, by rw [hwaiting.receiving]; rfl, ?_⟩
    rw [← hmtu]
    exact hwaiting.incomplete
  · refine .inr (.inr ⟨herror, ?_⟩)
    rw [← hmtu]
    exact hover
  · obtain ⟨data, hsending, hload⟩ := hpassing.sending
    exact .inr (.inl ⟨hpassing.error, data, p.length, o.buffered, hsending, by rw [hload]⟩)

/-- A frame in three pieces, with the beginning of another one behind it. -/
theorem decoder_sound_split : ∃ o tr rest, (machine (fun _ => 0) 4).Reachable (some o) tr ∧
    packetsOf tr = [[1, 2, 3]] ∧ streamOf tr = frames (packetsOf tr) ++ rest := by
  obtain ⟨s, tr, hreach, hpackets⟩ := (machine (fun _ => 0) 4).exists_reach (fun _ _ => True)
    (fun _ tr => decide (packetsOf tr = [[1, 2, 3]]))
    [.input [3], .input [0, 1, 2], .input [3, 9], .outputDone, .input [0]] (by decide +kernel)
  obtain ⟨o, rest, rfl, hstream, -⟩ := decoder_sound hreach
  exact ⟨o, tr, rest, hreach, of_decide_eq_true hpackets, hstream⟩

/-! ## A stream of frames -/

/-- A frame is read off the front in one way. -/
theorem frame_append_prefix {q xs ys : List UInt8} (hp : p.length ≤ packetprotoMaxpayload)
    (hq : q.length ≤ packetprotoMaxpayload) (h : frame q ++ xs <+: frame p ++ ys) :
    q = p ∧ xs <+: ys := by
  obtain ⟨zs, hzs⟩ := h
  have hlen : q.length = p.length := by
    rw [← take_frame hq (xs ++ zs), ← take_frame hp ys, ← hzs, List.append_assoc]
  rw [List.append_assoc] at hzs
  obtain ⟨hframe, hrest⟩ := List.append_inj hzs (by rw [length_frame, length_frame, hlen])
  obtain ⟨-, hqp⟩ := List.append_inj hframe (by rw [length_toLE, length_toLE])
  exact ⟨hqp, zs, hrest⟩

/-- Frames are read off the front in one way. -/
theorem frames_append_prefix {ps qs : List (List UInt8)} {xs : List UInt8}
    (hps : ∀ p ∈ ps, p.length ≤ packetprotoMaxpayload)
    (hqs : ∀ q ∈ qs, q.length ≤ packetprotoMaxpayload) (h : frames qs ++ xs <+: frames ps) :
    ∃ ps', ps = qs ++ ps' ∧ xs <+: frames ps' := by
  induction qs generalizing ps with
  | nil => exact ⟨ps, rfl, h⟩
  | cons q qs ih =>
    cases ps with
    | nil =>
      have hlen := h.length_le
      rw [frames_cons, List.length_append, List.length_append, length_frame] at hlen
      unfold packetprotoEnclen packetprotoHeaderSize at hlen
      simp at hlen
    | cons p ps =>
      rw [frames_cons, frames_cons, List.append_assoc] at h
      -- the first frame of both is the same, and by induction the others
      obtain ⟨rfl, hrest⟩ := frame_append_prefix (hps p (.head _)) (hqs q (.head _)) h
      obtain ⟨ps', rfl, hps'⟩ := ih (fun p hp => hps p (.tail _ hp))
        (fun q hq => hqs q (.tail _ hq)) hrest
      exact ⟨ps', rfl, hps'⟩

/-- A header that was received is that of the first frame. -/
theorem header_of_prefix {ps : List (List UInt8)}
    (hps : ∀ p ∈ ps, p.length ≤ packetprotoMaxpayload) (h : rest <+: frames ps)
    (hlen : packetprotoHeaderSize ≤ rest.length) :
    ∃ p ps', ps = p :: ps' ∧ ofLE (rest.take packetprotoHeaderSize) = p.length := by
  obtain ⟨ys, hys⟩ := h
  cases ps with
  -- no frames have no header
  | nil =>
    have hnil := congrArg List.length hys
    rw [List.length_append, frames_nil, List.length_nil] at hnil
    unfold packetprotoHeaderSize at hlen
    omega
  | cons p ps =>
    refine ⟨p, ps, rfl, ?_⟩
    rw [← take_frame (hps p (.head _)) (frames ps), ← frames_cons, ← hys,
      List.take_append_of_le_length hlen]

/-- The round trip: from the frames of packets that the user takes, cut in any way, the decoder
    gets these packets, in order and once, and there is no error.  When all was received and
    the user has no packet, it has read all of them. -/
theorem decode_frames (ps : List (List UInt8)) (h : (machine buf mtu).Reachable s tr)
    (hps : ∀ p ∈ ps, p.length ≤ min mtu packetprotoMaxpayload)
    (hstream : streamOf tr <+: frames ps) :
    ∃ o, s = some o ∧ o.error = false ∧ packetsOf tr <+: ps ∧
      (streamOf tr = frames ps → o.sending = none → packetsOf tr = ps) := by
  obtain ⟨o, rfl, hmtu, hpackets, rest, hrest, hpending⟩ := decodes_of_reachable h
  have hmax : ∀ p ∈ ps, p.length ≤ packetprotoMaxpayload := fun p hp => by
    have := hps p hp
    omega
  have hrest' := hstream
  rw [hrest] at hrest'
  -- what was passed on is a part of what was framed
  obtain ⟨ps', rfl, hprefix⟩ := frames_append_prefix hmax
    (fun p hp => by have := hpackets p hp; omega) hrest'
  have hmax' : ∀ p ∈ ps', p.length ≤ packetprotoMaxpayload := fun p hp =>
    hmax p (List.mem_append_right _ hp)
  refine ⟨o, rfl, ?_, ⟨ps', rfl⟩, fun hall hnone => ?_⟩
  · obtain ⟨hwaiting, -⟩ | ⟨-, hlen, hover⟩ | ⟨p, hpassing, -⟩ := hpending
    · exact hwaiting.error
    · -- the header is that of a packet that the user takes
      obtain ⟨p, ps'', rfl, hheader⟩ := header_of_prefix hmax' hprefix hlen
      have := hps p (List.mem_append_right _ (.head _))
      omega
    · exact hpassing.error
  · -- nothing is left: a whole frame would have been passed on
    rw [hrest, frames_append] at hall
    obtain rfl := List.append_cancel_left hall
    cases ps' with
    | nil => simp
    | cons p ps' =>
      have hlen : packetprotoEnclen p.length ≤ (frames (p :: ps')).length := by
        rw [frames_cons, List.length_append, length_frame]
        omega
      obtain ⟨hwaiting, hbuffered⟩ | ⟨-, -, hover⟩ | ⟨p', hpassing, -⟩ := hpending
      · have hincomplete := hwaiting.incomplete
        rw [← hbuffered] at hincomplete
        unfold Incomplete at hincomplete
        rw [frames_cons, take_frame (hmax' p (.head _)), ← frames_cons] at hincomplete
        unfold packetprotoEnclen at *
        omega
      · rw [frames_cons, take_frame (hmax' p (.head _))] at hover
        have := hps p (List.mem_append_right _ (.head _))
        omega
      · obtain ⟨data, hsending, -⟩ := hpassing.sending
        cases hnone.symm.trans hsending

/-- `decode_frames` for a stream of three frames. -/
theorem decode_frames_three : ∃ o tr, (machine (fun _ => 0) 4).Reachable (some o) tr ∧
    packetsOf tr = [[1, 2, 3], [], [7]] := by
  obtain ⟨s, tr, hreach, hrun⟩ := (machine (fun _ => 0) 4).exists_reach (fun _ _ => True)
    (fun s tr => decide (streamOf tr = frames [[1, 2, 3], [], [7]]) && s.all (·.sending.isNone))
    [.input [3, 0, 1, 2], .input [3, 0], .outputDone, .input [0, 1, 0, 7], .outputDone, .outputDone]
    (by decide +kernel)
  obtain ⟨hstream, hidle⟩ := Bool.and_eq_true_iff.mp hrun
  have hstream := of_decide_eq_true hstream
  obtain ⟨o, rfl, -, -, hpackets⟩ := decode_frames [[1, 2, 3], [], [7]] hreach (by decide)
    (hstream ▸ List.prefix_refl _)
  exact ⟨o, tr, hreach, hpackets hstream (Option.isNone_iff_eq_none.mp hidle)⟩

end PacketProtoDecoder

end OpenFlux
