import OpenFlux.Model.BSocksClient

/-!
# The handshake of BSocksClient, byte for byte

What the client has written and read determines where it stands, however its packets and the
answers are cut: `Shaking` has one case per state.  The client comes up exactly when it has
read an acceptable answer to its hello, to its password and to its request, and not one byte
behind it.

## Key results

- `Shaking.connector`, `Shaking.controlWritten`, `Shaking.recvHandlerDone`: every handler keeps
  `Shaking`, reports an error, or comes up after a complete `Handshake`
- `Shaking.not_isPrefix`: a client that still waits has not been sent a complete answer
- `Handshake.unique`: a stream starts with at most one complete answer
-/

namespace OpenFlux

namespace BSocksClient

/-! ## The messages -/

/-- The methods that the client offers. -/
def hello (p : Params) : List UInt8 :=
  [5, UInt8.ofNat p.authInfo.length] ++ p.authInfo.map AuthInfo.authType

/-- The packet of the username and password method. -/
def passwordPacket (username password : List UInt8) : List UInt8 :=
  [1, UInt8.ofNat username.length] ++ username ++ [UInt8.ofNat password.length] ++ password

/-- The request for a connection to `dest`. -/
def request (dest : NetAddr) : List UInt8 := [5, 1, 0, atyp dest] ++ addrBytes dest

/-- What the client sends behind its hello for the method that was chosen, and what it has to
    be answered from the start. -/
inductive Authenticates (p : Params) : (sent received : List UInt8) → Prop
  | none : AuthInfo.none ∈ p.authInfo → Authenticates p [] [5, 0]
  | password {username password : List UInt8} :
      p.authInfo.find? (fun ai => ai.authType = 2) = some (.password username password) →
      0 < username.length → username.length ≤ 255 →
      0 < password.length → password.length ≤ 255 →
      Authenticates p (passwordPacket username password) [5, 2, 1, 0]

/-- The length of an address of this type in a reply. -/
def addrLen (atyp : UInt8) : Option Nat :=
  if atyp = 1 then some 6 else if atyp = 4 then some 18 else none

/-- The reply to a request that was granted. -/
structure Reply (received : List UInt8) : Prop where
  exists_parts : ∃ rsv atyp addr, received = [5, 0, rsv, atyp] ++ addr ∧
    addrLen atyp = some addr.length

/-- A complete handshake: what the client sends and what it receives. -/
inductive Handshake (p : Params) : (sent received : List UInt8) → Prop
  | intro {a b reply : List UInt8} : Authenticates p a b → Reply reply →
      Handshake p (hello p ++ a ++ request p.destAddr) (b ++ reply)

/-- The size that is reserved for the request is that of its header and its address. -/
theorem length_addrBytes (dest : NetAddr) : 4 + (addrBytes dest).length = requestSize dest := by
  cases dest <;> simp [addrBytes, requestSize]

/-- The request fills what is reserved for it. -/
theorem length_request (dest : NetAddr) : (request dest).length = requestSize dest := by
  rw [← length_addrBytes]
  simp [request]
  omega

/-! ## Writing into the buffer -/

section Memory

variable {mem bytes : List UInt8} {off n : Nat}

/-- A write inside the buffer keeps its size. -/
theorem length_overwrite (h : off + bytes.length ≤ mem.length) :
    (overwrite mem off bytes).length = mem.length := by
  simp only [overwrite, List.length_append, List.length_take, List.length_drop]
  omega

/-- What was written up to some offset, with more written there. -/
theorem take_overwrite (h : off ≤ mem.length) :
    (overwrite mem off bytes).take (off + bytes.length) = mem.take off ++ bytes := by
  have hlen : (mem.take off ++ bytes).length = off + bytes.length := by simp; omega
  rw [overwrite, List.take_left' hlen]

/-- A write up to the end of the buffer. -/
theorem overwrite_end (h : off + bytes.length = mem.length) :
    overwrite mem off bytes = mem.take off ++ bytes := by
  rw [overwrite, List.drop_eq_nil_of_le (by omega), List.append_nil]

/-- A packet whose end is written before its head. -/
theorem overwrite_head_last (head tail : List UInt8)
    (hlen : mem.length = head.length + tail.length) :
    overwrite (overwrite mem head.length tail) 0 head = head ++ tail := by
  have htake : (mem.take head.length).length = head.length := by simp; omega
  have hdrop : (mem.take head.length ++ tail).drop head.length = tail := List.drop_left' htake
  have htail : overwrite mem head.length tail = mem.take head.length ++ tail :=
    overwrite_end hlen.symm
  rw [htail, overwrite, Nat.zero_add, hdrop, List.take_zero, List.nil_append]

/-- A store inside the buffer succeeds. -/
theorem store_eq {o : BSocksClient} (hbuffer : o.buffer = some mem)
    (h : off + bytes.length ≤ mem.length) :
    o.store off bytes = { o with buffer := some (overwrite mem off bytes) } := by
  simp only [store, hbuffer, if_pos h]

/-- A reserved buffer has the size that was asked for. -/
theorem reserveBuffer_eq_some {o o' : BSocksClient} {alloc : Bool}
    (h : o.reserveBuffer alloc n = some o') :
    ∃ mem, mem.length = n ∧ o' = { o with buffer := some mem } := by
  cases alloc with
  | false => simp [reserveBuffer] at h
  | true =>
    simp only [reserveBuffer, if_true, Option.some.injEq] at h
    exact ⟨_, by simp, h.symm⟩

/-- `o` is `base` with a buffer of `size` bytes that starts with `done`. -/
structure Filled (base o : BSocksClient) (size : Nat) (done : List UInt8) : Prop where
  exists_mem : ∃ mem, o = { base with buffer := some mem } ∧ mem.length = size ∧
    mem.take done.length = done

/-- At first nothing is written. -/
theorem Filled.of_reserveBuffer {base o : BSocksClient} {alloc : Bool}
    (h : base.reserveBuffer alloc n = some o) : Filled base o n [] := by
  obtain ⟨mem, hlen, rfl⟩ := reserveBuffer_eq_some h
  exact ⟨mem, rfl, hlen, by simp⟩

/-- A piece that is written behind the others. -/
theorem Filled.store {base o : BSocksClient} {size : Nat} {done : List UInt8}
    (h : Filled base o size done) (off : Nat) (bytes : List UInt8) (hoff : done.length = off)
    (hfits : off + bytes.length ≤ size) : Filled base (o.store off bytes) size (done ++ bytes) := by
  obtain ⟨mem, rfl, hlen, htake⟩ := h.exists_mem
  subst hoff
  refine ⟨overwrite mem done.length bytes, ?_, ?_, ?_⟩
  · rw [store_eq rfl (by omega)]
  · rw [length_overwrite (by omega), hlen]
  · rw [List.length_append, take_overwrite (by omega), htake]

/-- A buffer that was filled to its end is sent. -/
theorem Filled.send {base o : BSocksClient} {size : Nat} {done : List UInt8}
    (h : Filled base o size done) (hdone : done.length = size) (hidle : base.sending = []) :
    o.send size = { base with buffer := some done, sending := done } := by
  obtain ⟨mem, rfl, hlen, htake⟩ := h.exists_mem
  have hmem : mem = done := by rw [← htake, hdone, ← hlen, List.take_length]
  subst hmem
  simp [BSocksClient.send, assert, hidle, ← hlen]

end Memory

/-! ## Where the client stands -/

/-- The part that all states between connecting and up share. -/
structure Control (o : BSocksClient) : Prop where
  con : o.con = true
  io : o.io = .control
  offered : o.offered = 0
  fault : o.fault = false

/-- A packet is being written, `o.sending` is left of it. -/
structure Sending (o : BSocksClient) : Prop extends Control o where
  buffer : o.buffer.isSome
  sending : o.sending ≠ []
  wanted : o.wanted = 0

/-- `got` was received behind `pre` in the buffer, and something is missing up to `total`
    bytes. -/
structure Receiving (o : BSocksClient) (pre got : List UInt8) (total : Nat) : Prop
    extends Control o where
  sending : o.sending = []
  recvDest : o.recvDest = pre.length
  recvLen : o.recvLen = got.length
  recvTotal : o.recvTotal = total
  more : got.length < total
  wanted : o.wanted = total - got.length
  buffer : ∃ mem, o.buffer = some mem ∧ pre.length + total ≤ mem.length ∧
    mem.take (pre.length + got.length) = pre ++ got

/-- What the client has written and read, by its state. -/
inductive Shaking (p : Params) (o : BSocksClient) : (written read : List UInt8) → Prop
  | connecting : o = {} → Shaking p o [] []
  | sendingHello {w : List UInt8} : o.state = .sendingHello → Sending o →
      w ++ o.sending = hello p → Shaking p o w []
  | sentHello {got : List UInt8} : o.state = .sentHello → Receiving o [] got 2 →
      Shaking p o (hello p) got
  | sendingPassword {w a : List UInt8} : o.state = .sendingPassword → Sending o →
      Authenticates p a [5, 2, 1, 0] → w ++ o.sending = hello p ++ a → Shaking p o w [5, 2]
  | sentPassword {a got : List UInt8} : o.state = .sentPassword → Receiving o [] got 2 →
      Authenticates p a [5, 2, 1, 0] → Shaking p o (hello p ++ a) ([5, 2] ++ got)
  | sendingRequest {w a b : List UInt8} : o.state = .sendingRequest → Sending o →
      Authenticates p a b → w ++ o.sending = hello p ++ a ++ request p.destAddr → Shaking p o w b
  | sentRequest {a b got : List UInt8} : o.state = .sentRequest → Receiving o [] got 4 →
      Authenticates p a b → o.buffer.map List.length = some 22 →
      Shaking p o (hello p ++ a ++ request p.destAddr) (b ++ got)
  | receivedReplyHeader {a b got : List UInt8} {rsv atyp : UInt8} {total : Nat} :
      o.state = .receivedReplyHeader → Receiving o [5, 0, rsv, atyp] got total →
      Authenticates p a b → addrLen atyp = some total →
      Shaking p o (hello p ++ a ++ request p.destAddr) (b ++ [5, 0, rsv, atyp] ++ got)

/-- The connection belongs to the user. -/
structure Up (o : BSocksClient) : Prop where
  state : o.state = .up
  con : o.con = true
  io : o.io = .up
  sending : o.sending = []
  fault : o.fault = false

/-- Nothing is left of the client. -/
structure Freed (o : BSocksClient) : Prop where
  buffer : o.buffer = none
  con : o.con = false
  io : o.io = .none
  sending : o.sending = []
  wanted : o.wanted = 0
  offered : o.offered = 0
  fault : o.fault = false

/-! ## Freeing -/

/-- A client that is up can be freed. -/
theorem Up.free {o : BSocksClient} (h : Up o) : Freed o.free := by
  obtain ⟨hstate, hcon, hio, hsending, hfault⟩ := h
  constructor <;>
    simp [BSocksClient.free, freeUpIo, freeConnection, assert, hstate, hcon, hio, hsending, hfault]

/-- An error that is reported from one of the control states. -/
theorem Control.free {o : BSocksClient} (h : Control o) (hstate : o.state ≠ .connecting)
    (hup : o.state ≠ .up) : Freed o.free := by
  obtain ⟨hcon, hio, hoffered, hfault⟩ := h
  constructor <;>
    simp [BSocksClient.free, freeControlIo, freeConnection, assert, hstate, hup, hcon, hio,
      hoffered, hfault]

/-- Between connecting and up, the interfaces of the handshake are initialised. -/
theorem Shaking.control {p : Params} {o : BSocksClient} {w r : List UInt8}
    (h : Shaking p o w r) (hstate : o.state ≠ .connecting) : Control o ∧ o.state ≠ .up := by
  cases h with
  | connecting ho =>
    subst ho
    exact absurd rfl hstate
  | sendingHello hs hc | sentHello hs hc | sendingPassword hs hc | sentPassword hs hc
  | sendingRequest hs hc | sentRequest hs hc | receivedReplyHeader hs hc =>
    exact ⟨hc.toControl, by rw [hs]; decide⟩

/-- During the handshake the user has offered nothing. -/
theorem Shaking.offered {p : Params} {o : BSocksClient} {w r : List UInt8}
    (h : Shaking p o w r) : o.offered = 0 := by
  cases h with
  | connecting ho => rw [ho]
  | sendingHello _ hc | sentHello _ hc | sendingPassword _ hc | sentPassword _ hc
  | sendingRequest _ hc | sentRequest _ hc | receivedReplyHeader _ hc => exact hc.offered

/-- During the handshake no assertion has failed. -/
theorem Shaking.fault {p : Params} {o : BSocksClient} {w r : List UInt8}
    (h : Shaking p o w r) : o.fault = false := by
  cases h with
  | connecting ho => rw [ho]
  | sendingHello _ hc | sentHello _ hc | sendingPassword _ hc | sentPassword _ hc
  | sendingRequest _ hc | sentRequest _ hc | receivedReplyHeader _ hc => exact hc.fault

/-- During the handshake the interfaces of the user are not there. -/
theorem Shaking.io_ne {p : Params} {o : BSocksClient} {w r : List UInt8}
    (h : Shaking p o w r) : o.io ≠ .up := by
  cases h with
  | connecting ho =>
    rw [ho]
    decide
  | sendingHello _ hc | sentHello _ hc | sendingPassword _ hc | sentPassword _ hc
  | sendingRequest _ hc | sentRequest _ hc | receivedReplyHeader _ hc =>
    rw [hc.io]
    decide

/-- Only a connection can be read from. -/
theorem Shaking.con_of_wanted {p : Params} {o : BSocksClient} {w r : List UInt8}
    (h : Shaking p o w r) (hwanted : o.wanted ≠ 0) : o.con = true := by
  cases h with
  | connecting ho =>
    rw [ho] at hwanted
    exact absurd rfl hwanted
  | sendingHello _ hc | sentHello _ hc | sendingPassword _ hc | sentPassword _ hc
  | sendingRequest _ hc | sentRequest _ hc | receivedReplyHeader _ hc => exact hc.con

/-- A client that has a connection is not connecting. -/
theorem Shaking.state_ne {p : Params} {o : BSocksClient} {w r : List UInt8}
    (h : Shaking p o w r) (hcon : o.con = true) : o.state ≠ .connecting := by
  cases h with
  | connecting ho =>
    rw [ho] at hcon
    cases hcon
  | sendingHello hs | sentHello hs | sendingPassword hs | sentPassword hs
  | sendingRequest hs | sentRequest hs | receivedReplyHeader hs =>
    rw [hs]
    decide

/-- A client can be freed in any state of the handshake. -/
theorem Shaking.free {p : Params} {o : BSocksClient} {w r : List UInt8} (h : Shaking p o w r) :
    Freed o.free := by
  by_cases hstate : o.state = .connecting
  · cases h with
    | connecting ho =>
      subst ho
      constructor <;> rfl
    | sendingHello hs | sentHello hs | sendingPassword hs | sentPassword hs
    | sendingRequest hs | sentRequest hs | receivedReplyHeader hs =>
      rw [hs] at hstate
      cases hstate
  · obtain ⟨hc, hup⟩ := h.control hstate
    exact hc.free hstate hup

/-! ## Sending -/

/-- What a handler can result in. -/
inductive Outcome (p : Params) (w r : List UInt8) : BSocksClient × Option Event → Prop
  | goesOn {o : BSocksClient} : Shaking p o w r → Outcome p w r (o, none)
  | error {o : BSocksClient} : Freed o.free → Outcome p w r (o, some .error)
  | up {o : BSocksClient} : Up o → o.buffer = none → o.wanted = 0 → o.offered = 0 →
      Handshake p w r → Outcome p w r (o, some .up)

/-- The request is written into the buffer from its end. -/
theorem authFinished_outcome {p : Params} {o : BSocksClient} {a b : List UInt8} {alloc : Bool}
    (hc : Control o) (hsending : o.sending = []) (hwanted : o.wanted = 0)
    (hstate : o.state ≠ .connecting) (hup : o.state ≠ .up) (hauth : Authenticates p a b) :
    Outcome p (hello p ++ a) b (o.authFinished p alloc) := by
  unfold authFinished
  split
  · exact .error (hc.free hstate hup)
  · rename_i o' hreserve
    obtain ⟨mem, hlen, rfl⟩ := reserveBuffer_eq_some hreserve
    have haddr := length_addrBytes p.destAddr
    -- the address goes behind the header, which is written last
    have hstore : (({ o with buffer := some mem }).store 4 (addrBytes p.destAddr)).store 0
        [5, 1, 0, atyp p.destAddr] = { o with buffer := some (request p.destAddr) } := by
      have hfits : 4 + (addrBytes p.destAddr).length ≤ mem.length := by omega
      have hhead : 0 + [5, 1, 0, atyp p.destAddr].length ≤
          (overwrite mem 4 (addrBytes p.destAddr)).length := by
        rw [length_overwrite hfits, List.length_cons]
        simp only [List.length_cons, List.length_nil]
        omega
      rw [store_eq rfl hfits, store_eq rfl hhead]
      exact congrArg (fun mem => { o with buffer := some mem })
        (overwrite_head_last [5, 1, 0, atyp p.destAddr] _ (hlen.trans haddr.symm))
    have hsend : ({ o with buffer := some (request p.destAddr) }).send
        (requestSize p.destAddr) = { o with
          buffer := some (request p.destAddr), sending := request p.destAddr } := by
      simp [BSocksClient.send, assert, hsending, ← length_request]
    simp only [hstore, hsend]
    refine .goesOn (.sendingRequest rfl ?_ hauth rfl)
    exact ⟨⟨hc.con, hc.io, hc.offered, hc.fault⟩, rfl, by simp [request], hwanted⟩

/-- `connector_handler` sends the hello, or reports an error with nothing left behind. -/
theorem Shaking.connector {p : Params} {o : BSocksClient} {w r : List UInt8}
    (h : Shaking p o w r) (hstate : o.state = .connecting) (isError conInit alloc : Bool) :
    Outcome p w r (o.connectorHandler p isError conInit alloc) := by
  cases h with
  | sendingHello hs | sentHello hs | sendingPassword hs | sentPassword hs
  | sendingRequest hs | sentRequest hs | receivedReplyHeader hs =>
    rw [hs] at hstate
    cases hstate
  | connecting ho =>
    subst ho
    unfold connectorHandler
    simp only [assert, decide_true, if_true, Bool.not_false, initControlIo, Bool.and_self]
    -- the connection failed, the methods do not fit, or there is no memory
    have hfreed : Freed ({} : BSocksClient).free := by constructor <;> rfl
    split
    · exact .error hfreed
    split
    · exact .error hfreed
    split
    · exact .error (by constructor <;> rfl)
    rename_i hcount
    rw [not_or] at hcount
    split
    · exact .error (by constructor <;> rfl)
    · rename_i o' hreserve
      -- two header bytes, and a byte for each method
      have hmethods := ((Filled.of_reserveBuffer hreserve).store 0
        [5, UInt8.ofNat p.authInfo.length] rfl (by simp)).store 2
        (p.authInfo.map AuthInfo.authType) rfl (by simp)
      rw [hmethods.send (by simp; omega) rfl]
      refine .goesOn (.sendingHello rfl ?_ (by simp [hello]))
      exact ⟨⟨rfl, rfl, rfl, rfl⟩, rfl, by simp, rfl⟩

/-- A receive does not depend on the state. -/
theorem Receiving.setState {o : BSocksClient} {pre got : List UInt8} {total : Nat}
    (h : Receiving o pre got total) (state : State) :
    Receiving { o with state } pre got total :=
  ⟨⟨h.con, h.io, h.offered, h.fault⟩, h.sending, h.recvDest, h.recvLen, h.recvTotal, h.more,
    h.wanted, h.buffer⟩

/-- A receive asks for all it has to get. -/
theorem startReceive_eq {o : BSocksClient} {dest total : Nat} (htotal : 0 < total)
    (hwanted : o.wanted = 0) :
    o.startReceive dest total =
      { o with recvDest := dest, recvLen := 0, recvTotal := total, wanted := total } := by
  simp [startReceive, doReceive, assert, htotal, hwanted]

/-- Starting to receive does not touch the buffer. -/
theorem startReceive_buffer (o : BSocksClient) (dest total : Nat) :
    (o.startReceive dest total).buffer = o.buffer := by
  unfold startReceive doReceive assert
  split <;> split <;> rfl

/-- A receive starts behind what is in the buffer. -/
theorem Receiving.of_startReceive {o : BSocksClient} {pre mem : List UInt8} {total : Nat}
    (hc : Control o) (hsending : o.sending = []) (hwanted : o.wanted = 0)
    (hbuffer : o.buffer = some mem) (hfits : pre.length + total ≤ mem.length)
    (hpre : mem.take pre.length = pre) (htotal : 0 < total) :
    Receiving (o.startReceive pre.length total) pre [] total := by
  rw [startReceive_eq htotal hwanted]
  exact ⟨⟨hc.con, hc.io, hc.offered, hc.fault⟩, hsending, rfl, rfl, rfl, htotal, rfl,
    mem, hbuffer, hfits, by simpa using hpre⟩

/-- The client after a packet was written to its end. -/
structure Written (o : BSocksClient) : Prop extends Control o where
  buffer : o.buffer.isSome
  sending : o.sending = []
  wanted : o.wanted = 0

/-- A buffer for the answer is reserved, and the answer is waited for. -/
theorem Written.receive {o : BSocksClient} {mem : List UInt8} {total : Nat} (h : Written o)
    (htotal : 0 < total) (hfits : total ≤ mem.length) (state : State) :
    Receiving { ({ o with buffer := some mem }).startReceive 0 total with state } [] [] total := by
  apply Receiving.setState
  have hc : Control { o with buffer := some mem } := ⟨h.con, h.io, h.offered, h.fault⟩
  have hpre : mem.take ([] : List UInt8).length = [] := by simp
  exact Receiving.of_startReceive hc h.sending h.wanted rfl (by simpa using hfits) hpre htotal

/-- `send_handler_done` waits for the answer to the packet that was written. -/
theorem Written.sendHandlerDone {p : Params} {o : BSocksClient} {alloc : Bool}
    {a b w : List UInt8} (h : Written o)
    (hstate : o.state = .sendingHello ∧ w = hello p ∧ b = [] ∨
      o.state = .sendingPassword ∧ w = hello p ++ a ∧ b = [5, 2] ∧
        Authenticates p a [5, 2, 1, 0] ∨
      o.state = .sendingRequest ∧ w = hello p ++ a ++ request p.destAddr ∧
        Authenticates p a b) :
    Outcome p w b (o.sendHandlerDone alloc) := by
  unfold BSocksClient.sendHandlerDone
  simp only [assert, h.buffer, if_true]
  -- without memory for the answer an error is reported
  have herror : ∀ {state}, o.state = state → state ≠ .connecting → state ≠ .up →
      Outcome p w b (o, some .error) := by
    intro state hs hconnecting hup
    exact .error (h.free (by rwa [hs]) (by rwa [hs]))
  -- the hello, the password, or the request
  obtain ⟨hs, rfl, rfl⟩ | ⟨hs, rfl, rfl, hauth⟩ | ⟨hs, rfl, hauth⟩ := hstate
  all_goals
    simp only [hs]
    split
    · exact herror hs (by decide) (by decide)
    rename_i o' hreserve
    obtain ⟨mem, hlen, rfl⟩ := reserveBuffer_eq_some hreserve
  · exact .goesOn (.sentHello rfl (h.receive (by decide) (by omega) _))
  · have hnext := Shaking.sentPassword (p := p) rfl
      (h.receive (by decide : 0 < 2) (by omega : 2 ≤ mem.length) .sentPassword) hauth
    exact .goesOn hnext
  · have hmem : mem.length = 22 := hlen
    have hnext := Shaking.sentRequest (p := p) rfl
      (h.receive (by decide : 0 < 4) (by omega : 4 ≤ mem.length) .sentRequest) hauth
      (by rw [startReceive_buffer, Option.map_some, hmem])
    rw [List.append_nil] at hnext
    exact .goesOn hnext

/-- However a packet is cut, writing a part of it keeps the handshake in step. -/
theorem Shaking.controlWritten {p : Params} {o : BSocksClient} {w r : List UInt8} {n : Nat}
    (h : Shaking p o w r) (hn : 0 < n) (hle : n ≤ o.sending.length) (alloc : Bool) :
    Outcome p (w ++ o.sending.take n) r (o.controlWritten alloc n) := by
  have hne : o.sending ≠ [] := List.length_pos_iff.mp (by omega)
  have hwritten : ∀ {x}, w ++ o.sending = x → w ++ o.sending.take n ++ o.sending.drop n = x := by
    intro x hx
    rw [List.append_assoc, List.take_append_drop, hx]
  unfold BSocksClient.controlWritten
  simp only [assert, hn, hle, decide_true, Bool.and_self, if_true]
  split
  · -- the packet is complete
    rename_i hlast
    have hall : ∀ {x}, w ++ o.sending = x → w ++ o.sending.take n = x := by
      intro x hx
      have hx' := hwritten hx
      rwa [hlast, List.append_nil] at hx'
    have hbase : ∀ hs : Sending o, Written { o with sending := o.sending.drop n } := fun hs =>
      ⟨⟨hs.con, hs.io, hs.offered, hs.fault⟩, hs.buffer, hlast, hs.wanted⟩
    cases h with
    | connecting ho => subst ho; exact absurd rfl hne
    | sentHello _ hc | sentPassword _ hc | sentRequest _ hc | receivedReplyHeader _ hc =>
      exact absurd hc.sending hne
    | sendingHello hstate hs hx =>
      exact (hbase hs).sendHandlerDone (a := []) (.inl ⟨hstate, hall hx, rfl⟩)
    | sendingPassword hstate hs hauth hx =>
      exact (hbase hs).sendHandlerDone (.inr (.inl ⟨hstate, hall hx, rfl, hauth⟩))
    | sendingRequest hstate hs hauth hx =>
      exact (hbase hs).sendHandlerDone (.inr (.inr ⟨hstate, hall hx, hauth⟩))
  · -- something is left of it
    rename_i hmore
    have hbase : ∀ hs : Sending o, Sending { o with sending := o.sending.drop n } := fun hs =>
      ⟨⟨hs.con, hs.io, hs.offered, hs.fault⟩, hs.buffer, hmore, hs.wanted⟩
    cases h with
    | connecting ho => subst ho; exact absurd rfl hne
    | sentHello _ hc | sentPassword _ hc | sentRequest _ hc | receivedReplyHeader _ hc =>
      exact absurd hc.sending hne
    | sendingHello hstate hs hx => exact .goesOn (.sendingHello hstate (hbase hs) (hwritten hx))
    | sendingPassword hstate hs hauth hx =>
      exact .goesOn (.sendingPassword hstate (hbase hs) hauth (hwritten hx))
    | sendingRequest hstate hs hauth hx =>
      exact .goesOn (.sendingRequest hstate (hbase hs) hauth (hwritten hx))

/-! ## Receiving -/

/-- A byte of the buffer, by what the buffer starts with. -/
theorem load_eq {o : BSocksClient} {mem l : List UInt8} {i k : Nat}
    (hbuffer : o.buffer = some mem) (htake : mem.take k = l) (hi : i < k) :
    o.load i = (l[i]?).getD 0 := by
  rw [load, hbuffer, Option.getD_some, ← htake, List.getElem?_take_of_lt hi]

/-- The client behind a read, before it looks at what it has got. -/
def afterRead (o : BSocksClient) (mem : List UInt8) (len : Nat) : BSocksClient :=
  { o with buffer := some mem, wanted := 0, recvLen := len }

/-- A read appends to what was received, and the rest is read or an answer is complete. -/
theorem Receiving.recvHandlerDone_eq {o : BSocksClient} {pre got data : List UInt8} {total : Nat}
    (h : Receiving o pre got total) (hle : data.length ≤ o.wanted) (p : Params) (alloc : Bool) :
    ∃ mem, o.buffer.map List.length = some mem.length ∧
      pre.length + total ≤ mem.length ∧
      mem.take (pre.length + (got ++ data).length) = pre ++ (got ++ data) ∧
      o.recvHandlerDone p alloc data =
        if (got ++ data).length < total then
          ((o.afterRead mem (got ++ data).length).doReceive, none)
        else (o.afterRead mem (got ++ data).length).receivedAll p alloc := by
  obtain ⟨mem, hbuffer, hfits, htake⟩ := h.buffer
  have hwanted := h.wanted
  have hmore := h.more
  -- what was asked for fits behind what is there
  have hoff : pre.length + got.length + data.length ≤ mem.length := by omega
  refine ⟨overwrite mem (pre.length + got.length) data, ?_, ?_, ?_, ?_⟩
  · rw [hbuffer, length_overwrite hoff]
    rfl
  · rw [length_overwrite hoff]
    exact hfits
  · rw [List.length_append, ← Nat.add_assoc, take_overwrite (by omega), htake, List.append_assoc]
  · -- the bytes go behind those that are there
    have hdest : o.recvDest + o.recvLen = pre.length + got.length := by rw [h.recvDest, h.recvLen]
    have hread : o.store (o.recvDest + o.recvLen) data =
        { o with buffer := some (overwrite mem (pre.length + got.length) data) } := by
      rw [hdest, store_eq hbuffer hoff]
    have hassert : data.length ≤ o.recvTotal - o.recvLen := by
      rw [h.recvTotal, h.recvLen]
      omega
    unfold recvHandlerDone afterRead
    simp only [hread, assert, hassert, decide_true, if_true]
    simp only [h.recvLen, h.recvTotal, List.length_append]

/-- An answer has arrived: `all` is in the buffer. -/
structure Complete (o : BSocksClient) (all : List UInt8) (size : Nat) : Prop
    extends Control o where
  sending : o.sending = []
  wanted : o.wanted = 0
  buffer : ∃ mem, o.buffer = some mem ∧ mem.length = size ∧ mem.take all.length = all

/-- A byte of the answer. -/
theorem Complete.load {o : BSocksClient} {all : List UInt8} {size i : Nat}
    (h : Complete o all size) (hi : i < all.length) : o.load i = (all[i]?).getD 0 := by
  obtain ⟨mem, hbuffer, -, htake⟩ := h.buffer
  exact load_eq hbuffer htake hi

/-- What follows from a read: it is waited for more, or the answer is looked at. -/
theorem Receiving.outcome {p : Params} {o : BSocksClient} {pre got data w r : List UInt8}
    {total size : Nat} {alloc : Bool} (h : Receiving o pre got total)
    (hsize : o.buffer.map List.length = some size) (hle : data.length ≤ o.wanted)
    (hmore : ∀ {o'}, Receiving o' pre (got ++ data) total → o'.state = o.state →
      o'.buffer.map List.length = some size → Shaking p o' w r)
    (hall : ∀ {o'}, Complete o' (pre ++ (got ++ data)) size → o'.state = o.state →
      (got ++ data).length = total → Outcome p w r (o'.receivedAll p alloc)) :
    Outcome p w r (o.recvHandlerDone p alloc data) := by
  obtain ⟨mem, hmem, hfits, htake, heq⟩ := h.recvHandlerDone_eq hle p alloc
  have hmemsize : mem.length = size := by
    rw [hsize, Option.some.injEq] at hmem
    exact hmem.symm
  rw [heq]
  split
  · -- the rest is asked for
    rename_i hlt
    refine .goesOn (hmore ?_ ?_ ?_)
    all_goals
      have hdo : (o.afterRead mem (got ++ data).length).doReceive = { o with
          buffer := some mem, recvLen := (got ++ data).length,
          wanted := o.recvTotal - (got ++ data).length } := by
        have hassert : (got ++ data).length < o.recvTotal := by rwa [h.recvTotal]
        simp only [doReceive, afterRead, assert, hassert, decide_true, Bool.and_self, if_true]
      rw [hdo]
    · exact ⟨⟨h.con, h.io, h.offered, h.fault⟩, h.sending, h.recvDest, rfl, h.recvTotal, hlt,
        by rw [h.recvTotal], mem, rfl, hfits, htake⟩
    · rw [← hmemsize]
      rfl
  · -- no more was read than was asked for, so the answer is complete
    rename_i hlt
    have hlen : (got ++ data).length = total := by
      have hwanted := h.wanted
      have hgot := h.more
      rw [List.length_append] at hlt ⊢
      omega
    refine hall ⟨⟨h.con, h.io, h.offered, h.fault⟩, h.sending, rfl, mem, rfl, hmemsize, ?_⟩ rfl
      hlen
    rw [List.length_append]
    exact htake

/-- The server's hello chooses the method. -/
theorem Complete.receivedHello {p : Params} {o : BSocksClient} {x y : UInt8} {size : Nat}
    {alloc : Bool} (h : Complete o [x, y] size) (hstate : o.state = .sentHello) :
    Outcome p (hello p) [x, y] (o.receivedHello p alloc) := by
  have hc := h.toControl
  have hx : o.load 0 = x := h.load (by simp)
  have hy : o.load 1 = y := h.load (by simp)
  have hconnecting : o.state ≠ .connecting := by rw [hstate]; decide
  have hup : o.state ≠ .up := by rw [hstate]; decide
  have herror := hc.free hconnecting hup
  unfold BSocksClient.receivedHello
  rw [hx, hy]
  split
  · exact .error herror
  rename_i hversion
  rw [not_not] at hversion
  subst hversion
  split
  · exact .error herror
  · -- no authentication: the request follows
    rename_i hfind
    have htype : y = 0 := by simpa [AuthInfo.authType, eq_comm] using List.find?_some hfind
    subst htype
    have hnone : AuthInfo.none ∈ p.authInfo := List.mem_of_find?_eq_some hfind
    rw [← List.append_nil (hello p)]
    exact authFinished_outcome hc h.sending h.wanted hconnecting hup (.none hnone)
  · -- a password packet, if both parts have a length that fits into a byte
    rename_i username password hfind
    have htype : y = 2 := by simpa [AuthInfo.authType, eq_comm] using List.find?_some hfind
    subst htype
    split
    · exact .error herror
    rename_i hlens
    dsimp only
    split
    · exact .error herror
    · rename_i o' hreserve
      have hlens' : 0 < username.length ∧ username.length ≤ 255 ∧ 0 < password.length ∧
          password.length ≤ 255 := by omega
      obtain ⟨hu, hu', hw, hw'⟩ := hlens'
      have hfilled : Filled o (o'.writePassword username password)
          (1 + 1 + username.length + 1 + password.length)
          (passwordPacket username password) := by
        -- one piece after the other, each behind what was written before
        have hname := (((Filled.of_reserveBuffer hreserve).store 0 [1] rfl
          (by simp; omega)).store 1 [UInt8.ofNat username.length] rfl (by simp; omega)).store 2
          username rfl (by omega)
        have hfull := (hname.store (2 + username.length) [UInt8.ofNat password.length]
          (by simp; omega) (by simp)).store (2 + username.length + 1) password
          (by simp; omega) (by omega)
        simpa [writePassword, passwordPacket] using hfull
      rw [hfilled.send (by simp [passwordPacket]; omega) h.sending]
      refine .goesOn (.sendingPassword rfl ?_ (.password hfind hu hu' hw hw') rfl)
      exact ⟨⟨hc.con, hc.io, hc.offered, hc.fault⟩, rfl, by simp [passwordPacket], h.wanted⟩

/-- The reply to the password has to be a success. -/
theorem Complete.receivedPasswordReply {p : Params} {o : BSocksClient} {a : List UInt8}
    {x y : UInt8} {size : Nat} {alloc : Bool} (h : Complete o [x, y] size)
    (hstate : o.state = .sentPassword) (hauth : Authenticates p a [5, 2, 1, 0]) :
    Outcome p (hello p ++ a) ([5, 2] ++ [x, y]) (o.receivedPasswordReply p alloc) := by
  have hconnecting : o.state ≠ .connecting := by rw [hstate]; decide
  have hup : o.state ≠ .up := by rw [hstate]; decide
  have hx : o.load 0 = x := h.load (by simp)
  have hy : o.load 1 = y := h.load (by simp)
  -- another version or status ends the handshake
  rw [BSocksClient.receivedPasswordReply, hx, hy]
  split
  · exact .error (h.free hconnecting hup)
  rename_i hver
  split
  · exact .error (h.free hconnecting hup)
  rename_i hrep
  rw [not_not] at hver hrep
  subst hver hrep
  exact authFinished_outcome h.toControl h.sending h.wanted hconnecting hup hauth

/-- The header of a reply says how much of it is left. -/
theorem Complete.receivedReplyHeader {p : Params} {o : BSocksClient} {a b : List UInt8}
    {ver rep rsv atyp : UInt8} (h : Complete o [ver, rep, rsv, atyp] 22)
    (hstate : o.state = .sentRequest) (hauth : Authenticates p a b) :
    Outcome p (hello p ++ a ++ request p.destAddr) (b ++ [ver, rep, rsv, atyp])
      o.receivedReplyHeader := by
  have herror := h.free (by rw [hstate]; decide) (by rw [hstate]; decide)
  -- the four bytes as the handler reads them out of the buffer
  have hver : o.load 0 = ver := h.load (by simp)
  have hrep : o.load 1 = rep := h.load (by simp)
  have htype : o.load 3 = atyp := h.load (by simp)
  -- with an address of a known type the rest of the reply is waited for
  have hrest : ∀ {total}, addrLen atyp = some total → 0 < total → total ≤ 18 → ver = 5 → rep = 0 →
      Outcome p (hello p ++ a ++ request p.destAddr) (b ++ [ver, rep, rsv, atyp])
        ({ o.startReceive 4 total with state := .receivedReplyHeader }, none) := by
    intro total haddr hpos hle hver hrep
    subst hver hrep
    obtain ⟨mem, hbuffer, hsize, htake⟩ := h.buffer
    have hreceiving : Receiving (o.startReceive [5, 0, rsv, atyp].length total)
        [5, 0, rsv, atyp] [] total :=
      Receiving.of_startReceive h.toControl h.sending h.wanted hbuffer (by simp; omega) htake hpos
    have hnext := Shaking.receivedReplyHeader (p := p) rfl
      (hreceiving.setState .receivedReplyHeader) hauth haddr
    rw [List.append_nil] at hnext
    exact .goesOn hnext
  unfold BSocksClient.receivedReplyHeader
  rw [hver, hrep, htype]
  split
  · exact .error herror
  rename_i hver
  split
  · exact .error herror
  -- version and reply code are right, and the type of the address decides
  rename_i hrep
  rw [not_not] at hver hrep
  split
  · rename_i hipv4
    exact hrest (by simp [addrLen, hipv4]) (by decide) (by decide) hver hrep
  split
  · rename_i hipv6
    exact hrest (by simp [addrLen, hipv6]) (by decide) (by decide) hver hrep
  · exact .error herror

/-- At the end of the reply the client comes up. -/
theorem Complete.receivedReplyRest {p : Params} {o : BSocksClient} {all w r : List UInt8}
    {size : Nat} (h : Complete o all size) (hhandshake : Handshake p w r) :
    Outcome p w r o.receivedReplyRest := by
  have heq : o.receivedReplyRest = ({ o with
      buffer := none, sending := [], wanted := 0, io := .up, state := .up }, some .up) := by
    simp [BSocksClient.receivedReplyRest, freeControlIo, initUpIo, assert, h.io, h.con]
  rw [heq]
  exact .up ⟨rfl, h.con, rfl, rfl, h.fault⟩ rfl rfl h.offered hhandshake

/-- A reply header has four bytes. -/
theorem exists_of_length_eq_four {l : List UInt8} (h : l.length = 4) :
    ∃ a b c d, l = [a, b, c, d] := by
  obtain ⟨a, l', rfl⟩ := List.exists_of_length_succ l h
  obtain ⟨b, c, d, rfl⟩ := List.length_eq_three.mp (Nat.succ.inj h)
  exact ⟨a, b, c, d, rfl⟩

/-- However the answers are cut, a read keeps the handshake in step, ends it with an error, or
    completes it at the last byte of the reply. -/
theorem Shaking.recvHandlerDone {p : Params} {o : BSocksClient} {w r data : List UInt8}
    (h : Shaking p o w r) (hne : data ≠ []) (hle : data.length ≤ o.wanted) (alloc : Bool) :
    Outcome p w (r ++ data) (o.recvHandlerDone p alloc data) := by
  have hpos : 0 < data.length := List.length_pos_iff.mpr hne
  cases h with
  | connecting ho =>
    subst ho
    exact absurd (Nat.lt_of_lt_of_le hpos hle) (Nat.lt_irrefl 0)
  -- no receive is under way while a packet is written
  | sendingHello _ hs | sendingPassword _ hs | sendingRequest _ hs =>
    have hzero := hs.wanted
    omega
  -- in every state the answer goes on, or is complete and decides what comes next
  | sentHello hstate hr =>
    obtain ⟨mem, hbuffer, -⟩ := hr.buffer
    refine hr.outcome (by rw [hbuffer]; rfl) hle ?_ ?_
    · intro o' hr' hstate' _
      exact .sentHello (hstate'.trans hstate) hr'
    · intro o' hall hstate' hlen
      obtain ⟨x, y, hxy⟩ := List.length_eq_two.mp hlen
      rw [hxy, List.nil_append] at hall
      rw [hxy, receivedAll, hstate', hstate]
      exact hall.receivedHello (hstate'.trans hstate)
  | sentPassword hstate hr hauth =>
    obtain ⟨mem, hbuffer, -⟩ := hr.buffer
    rw [List.append_assoc]
    refine hr.outcome (by rw [hbuffer]; rfl) hle ?_ ?_
    · intro o' hr' hstate' _
      exact .sentPassword (hstate'.trans hstate) hr' hauth
    · intro o' hall hstate' hlen
      obtain ⟨x, y, hxy⟩ := List.length_eq_two.mp hlen
      rw [hxy, List.nil_append] at hall
      rw [hxy, receivedAll, hstate', hstate]
      exact hall.receivedPasswordReply (hstate'.trans hstate) hauth
  -- the four bytes of the header tell how long the address is
  | @sentRequest a b got hstate hr hauth hsize =>
    rw [List.append_assoc b]
    refine hr.outcome hsize hle ?_ ?_
    · intro o' hr' hstate' hsize'
      exact .sentRequest (hstate'.trans hstate) hr' hauth hsize'
    · intro o' hall hstate' hlen
      obtain ⟨ver, rep, rsv, atyp, hheader⟩ := exists_of_length_eq_four hlen
      rw [hheader, List.nil_append] at hall
      rw [hheader, receivedAll, hstate', hstate]
      exact hall.receivedReplyHeader (hstate'.trans hstate) hauth
  -- with the address the handshake is complete
  | @receivedReplyHeader a b got rsv atyp total hstate hr hauth htype =>
    obtain ⟨mem, hbuffer, -⟩ := hr.buffer
    rw [List.append_assoc (b ++ _)]
    refine hr.outcome (by rw [hbuffer]; rfl) hle ?_ ?_
    · intro o' hr' hstate' _
      exact .receivedReplyHeader (hstate'.trans hstate) hr' hauth htype
    · intro o' hall hstate' hlen
      rw [receivedAll, hstate', hstate, List.append_assoc b]
      exact hall.receivedReplyRest
        (.intro hauth ⟨rsv, atyp, got ++ data, rfl, by rw [htype, hlen]⟩)

/-! ## Where a stream of answers ends -/

/-- The second byte of an answer decides how long the authentication is. -/
theorem Authenticates.prefix_cancel {p : Params} {a a' b b' x x' : List UInt8}
    (h : Authenticates p a b) (h' : Authenticates p a' b') (hpre : b ++ x <+: b' ++ x') :
    b = b' ∧ x <+: x' := by
  cases h <;> cases h' <;> simp_all [List.cons_prefix_cons]

/-- The fourth byte of a reply decides how long the address is. -/
theorem Reply.header_eq {reply got : List UInt8} {rsv atyp : UInt8} (h : Reply reply)
    (hpre : reply <+: [5, 0, rsv, atyp] ++ got) :
    ∃ addr, reply = [5, 0, rsv, atyp] ++ addr ∧ addrLen atyp = some addr.length ∧
      addr <+: got := by
  obtain ⟨rsv', atyp', addr, rfl, hlen⟩ := h.exists_parts
  simp only [List.cons_append, List.nil_append, List.cons_prefix_cons, true_and] at hpre
  obtain ⟨rfl, rfl, haddr⟩ := hpre
  exact ⟨addr, rfl, hlen, haddr⟩

/-- No reply starts with another one. -/
theorem Reply.eq_of_isPrefix {x y : List UInt8} (hx : Reply x) (hy : Reply y) (hpre : x <+: y) :
    x = y := by
  obtain ⟨rsv, atyp, addr, rfl, hlen⟩ := hy.exists_parts
  obtain ⟨addr', rfl, hlen', hpre'⟩ := hx.header_eq hpre
  rw [hlen, Option.some.injEq] at hlen'
  rw [hpre'.eq_of_length hlen'.symm]

/-- The same for what the client receives in all. -/
theorem Handshake.eq_of_isPrefix {p : Params} {w w' r r' : List UInt8} (h : Handshake p w r)
    (h' : Handshake p w' r') (hpre : r <+: r') : r = r' := by
  obtain ⟨hauth, hreply⟩ := h
  obtain ⟨hauth', hreply'⟩ := h'
  obtain ⟨rfl, hpre'⟩ := hauth.prefix_cancel hauth' hpre
  rw [hreply.eq_of_isPrefix hreply' hpre']

/-- A stream starts with at most one complete answer. -/
theorem Handshake.unique {p : Params} {w w' r r' l : List UInt8} (h : Handshake p w r)
    (h' : Handshake p w' r') (hr : r <+: l) (hr' : r' <+: l) : r = r' := by
  rcases List.prefix_or_prefix_of_prefix hr hr' with hpre | hpre
  · exact h.eq_of_isPrefix h' hpre
  · exact (h'.eq_of_isPrefix h hpre).symm

/-- The shortest answer is a hello without authentication and a reply with an IPv4 address. -/
theorem Handshake.length {p : Params} {w r : List UInt8} (h : Handshake p w r) :
    10 ≤ r.length := by
  obtain ⟨-, hreply⟩ := h
  obtain ⟨rsv, atyp, addr, rfl, hlen⟩ := hreply.exists_parts
  have haddr : 6 ≤ addr.length := by
    unfold addrLen at hlen
    split at hlen
    · exact Nat.le_of_eq (Option.some.inj hlen)
    · split at hlen
      · have hlen' : 18 = addr.length := Option.some.inj hlen
        omega
      · cases hlen
  simp only [List.length_append, List.length_cons, List.length_nil]
  omega

/-- A client that waits for the server has not been sent a complete answer. -/
theorem Shaking.not_isPrefix {p : Params} {o : BSocksClient} {w w' r r' : List UInt8}
    (h : Shaking p o w r) (hhandshake : Handshake p w' r') : ¬ r' <+: r := by
  intro hpre
  have hlong := hhandshake.length
  have hle := hpre.length_le
  cases h with
  -- before the reply header, too few bytes have arrived for any answer
  | connecting | sendingHello | sendingPassword =>
    simp only [List.length_cons, List.length_nil] at hle
    omega
  | sentHello _ hr =>
    have hmore := hr.more
    omega
  | sentPassword _ hr =>
    have hmore := hr.more
    simp only [List.length_append, List.length_cons, List.length_nil] at hle
    omega
  | sendingRequest _ _ hauth =>
    cases hauth <;>
    · simp only [List.length_cons, List.length_nil] at hle
      omega
  | sentRequest _ hr hauth =>
    have hmore := hr.more
    cases hauth <;>
    · simp only [List.length_append, List.length_cons, List.length_nil] at hle
      omega
  -- behind it, fewer than its address has
  | @receivedReplyHeader a b got rsv atyp total _ hr hauth htype =>
    obtain ⟨hauth', hreply⟩ := hhandshake
    rw [List.append_assoc] at hpre
    obtain ⟨-, hpre'⟩ := hauth'.prefix_cancel hauth hpre
    obtain ⟨addr, -, hlen, haddr⟩ := hreply.header_eq hpre'
    rw [htype, Option.some.injEq] at hlen
    have hmore := hr.more
    have hshort := haddr.length_le
    omega

end BSocksClient

end OpenFlux
