import OpenFlux.Spec.TcpClientStep

/-!
# The invariant of a TCP client

A client has two sides that end independently.  `SocksSide` says where SOCKS stands and what
it has carried, `ClientSide` what the pcb and the data for the application look like, and `Ok`
ties them together: `up` is what SOCKS has got from the application behind the handshake, and
`dn` what was read from it.

The log tells why a side has ended, so that what holds at the end can be said about the runs
in which nothing went wrong.

## Key results

- `Ok.of_freedClient`, `Ok.of_freedSocks`: the invariant when a side ends
-/

namespace OpenFlux

open BSocksClient (Event Params Authenticates Handshake Shaking Freed)

namespace Relay

/-- What was read from SOCKS and not taken by `tcp_write`. -/
def held (s : Relay) : List UInt8 :=
  (s.client.socksRecvBuf.getD []).drop s.client.socksRecvBufSent

/-- The application or lwIP has ended its side, or tun2socks has ended. -/
def ClientEnded (s : Relay) : Prop :=
  ∃ msg ∈ [LogMsg.clientClosed, .clientError, .tcpWriteFailed, .tcpOutputFailed, .cantQueue,
    .tearingDown], msg ∈ s.log

/-- SOCKS has reported its end, or tun2socks has ended. -/
def SocksEnded (s : Relay) : Prop :=
  LogMsg.socksError ∈ s.log ∨ LogMsg.socksClosed ∈ s.log ∨ LogMsg.tearingDown ∈ s.log

/-- Nothing but the handshake, or a part of it, was written. -/
def OnlyHandshake (p : Params) (written : List UInt8) : Prop :=
  written <+: BSocksClient.hello p ∨ ∃ a b, Authenticates p a b ∧
    written <+: BSocksClient.hello p ++ a ++ BSocksClient.request p.destAddr

/-- What was written and read behind a complete handshake. -/
structure Carries (p : Params) (s : Relay) (up dn : List UInt8) : Prop where
  handshake : ∃ w r, Handshake p w r ∧ s.toServer = w ++ up ∧ s.fromServer = r ++ dn

/-- Where SOCKS stands: `up` was carried to it, and `dn` from it. -/
inductive SocksSide (p : Params) (s : Relay) (up dn : List UInt8) : Prop
  | shaking : s.client.socksUp = false → s.client.socksClosed = false →
      Shaking p s.socks s.toServer s.fromServer → up = [] → dn = [] →
      s.client.socksRecvBuf = none → SocksSide p s up dn
  | up : s.client.socksUp = true → s.client.socksClosed = false → BSocksClient.Up s.socks →
      (s.client.buf = [] ↔ s.socks.offered = 0) → s.socks.offered ≤ s.client.buf.length →
      s.socks.wanted ≤ clientSocksRecvBufSize →
      (s.socks.wanted ≠ 0 → s.client.socksRecvBuf = none) →
      (s.client.clientClosed = false → s.client.socksRecvBuf = none →
        s.socks.wanted = clientSocksRecvBufSize) →
      Carries p s up dn → SocksSide p s up dn
  | failed : s.client.socksUp = false → s.client.socksClosed = true → Freed s.socks →
      OnlyHandshake p s.toServer → up = [] → dn = [] → s.client.socksRecvBuf = none →
      s.client.buf = [] ∧ s.ClientEnded ∨ s.SocksEnded → SocksSide p s up dn
  | down : s.client.socksUp = true → s.client.socksClosed = true → Freed s.socks →
      Carries p s up dn → s.client.buf = [] ∧ s.ClientEnded ∨ s.SocksEnded → SocksSide p s up dn

/-- Everything that was read is with the application, and SOCKS has ended. -/
structure Delivered (s : Relay) (dn : List UInt8) : Prop where
  toApp : s.toApp = dn
  unacked : s.pcb.unacked = []
  socksClosed : s.client.socksClosed = true
  socksEnded : s.SocksEnded

/-- Where the application stands: what is not with lwIP is held, or the side has ended. -/
inductive ClientSide (s : Relay) (dn : List UInt8) : Prop
  | opened : s.client.clientClosed = false → s.pcb.recv = !s.client.socksClosed →
      s.pcb.sent = s.client.socksUp → s.pcb.err = true →
      (s.client.socksClosed = false → s.pcb.rcvWnd + s.client.buf.length = tcpWnd) →
      s.toApp ++ s.held = dn →
      (s.client.socksUp = false → s.client.socksRecvBuf = none ∧ s.pcb.unacked = []) →
      (s.client.socksUp = true → s.client.socksRecvTcpPending = s.pcb.unacked.length) →
      (s.client.socksClosed = true → s.client.socksUp = true ∧ 0 < s.client.socksRecvTcpPending) →
      (∀ data, s.client.socksRecvBuf = some data → s.client.socksRecvWaiting = true ∧
        s.client.socksRecvBufSent < data.length ∧ 0 < s.client.socksRecvTcpPending) →
      ClientSide s dn
  | closed : s.client.clientClosed = true →
      (s.client.socksClosed = false → s.client.buf ≠ []) → s.Delivered dn ∨ s.ClientEnded →
      ClientSide s dn

/-- The part of the invariant that does not depend on which sides are open. -/
structure Common (s : Relay) (up dn : List UInt8) : Prop where
  fault : s.fault = false
  buf : s.client.buf.length ≤ tcpWnd
  fromApp : s.fromApp = up ++ s.client.buf
  toApp : s.toApp ++ s.held <+: dn
  atEnd : LogMsg.socksClosed ∈ s.log → s.down.atEnd = true
  noBuffer : LogMsg.noBuffer ∉ s.log

/-- The invariant of a client. -/
structure Ok (p : Params) (s : Relay) (up dn : List UInt8) : Prop extends Common s up dn where
  socks : SocksSide p s up dn
  client : ClientSide s dn
  dealloc : s.dealloc = (s.client.clientClosed && s.client.socksClosed)

variable {p : Params} {s t : Relay} {up dn : List UInt8}

/-! ## Messages -/

/-- The reason for the end of a client stays in the log. -/
theorem ClientEnded.of_log (h : s.ClientEnded) (hlog : s.log ⊆ t.log) : t.ClientEnded := by
  obtain ⟨msg, hmsg, hmem⟩ := h
  exact ⟨msg, hmsg, hlog hmem⟩

/-- A reported end of SOCKS stays in the log. -/
theorem SocksEnded.of_log (h : s.SocksEnded) (hlog : s.log ⊆ t.log) : t.SocksEnded := by
  obtain h | h | h := h
  · exact .inl (hlog h)
  · exact .inr (.inl (hlog h))
  · exact .inr (.inr (hlog h))

/-- The log only grows. -/
theorem log_subset_clientLog (s : Relay) (msg : LogMsg) : s.log ⊆ (s.clientLog msg).log :=
  List.subset_append_left ..

/-- A side that ends for a reason that is still in the log. -/
theorem ended_of_log {b : Prop} (h : b ∧ s.ClientEnded ∨ s.SocksEnded) (hlog : s.log ⊆ t.log) :
    b ∧ t.ClientEnded ∨ t.SocksEnded := by
  obtain ⟨hb, h⟩ | h := h
  · exact .inl ⟨hb, h.of_log hlog⟩
  · exact .inr (h.of_log hlog)

/-! ## Frames -/

/-- What `SocksSide` is about is the same in `t` as in `s`; the client may have ended and
    messages may have been added. -/
structure SameSocks (s t : Relay) : Prop where
  socks : t.socks = s.socks
  socksUp : t.client.socksUp = s.client.socksUp
  socksClosed : t.client.socksClosed = s.client.socksClosed
  socksRecvBuf : t.client.socksRecvBuf = s.client.socksRecvBuf
  buf : t.client.buf = s.client.buf
  clientOpen : t.client.clientClosed = false → s.client.clientClosed = false
  toServer : t.toServer = s.toServer
  fromServer : t.fromServer = s.fromServer
  log : s.log ⊆ t.log

/-- Only the two streams of the proxy matter for what was carried. -/
theorem Carries.congr (h : Carries p s up dn) (htoServer : t.toServer = s.toServer)
    (hfromServer : t.fromServer = s.fromServer) : Carries p t up dn := by
  obtain ⟨w, r, hhandshake, hw, hr⟩ := h
  exact ⟨w, r, hhandshake, htoServer.trans hw, hfromServer.trans hr⟩

/-- SOCKS stands where it stood. -/
theorem SocksSide.congr (h : SocksSide p s up dn) (hsame : SameSocks s t) :
    SocksSide p t up dn := by
  cases h with
  | shaking hup hopen hshaking hu hd hnone =>
    refine .shaking (hsame.socksUp.trans hup) (hsame.socksClosed.trans hopen) ?_ hu hd
      (hsame.socksRecvBuf.trans hnone)
    rwa [hsame.socks, hsame.toServer, hsame.fromServer]
  | up hup hopen hsocks hoffered hle hwanted hnone hasks hcarries =>
    refine .up (hsame.socksUp.trans hup) (hsame.socksClosed.trans hopen) ?_ ?_ ?_ ?_ ?_ ?_
      (hcarries.congr hsame.toServer hsame.fromServer)
    -- what SOCKS offers and asks for, and what is behind it in the client
    all_goals rw [hsame.socks]
    · exact hsocks
    · rwa [hsame.buf]
    · rwa [hsame.buf]
    · exact hwanted
    · rwa [hsame.socksRecvBuf]
    · intro hclosed
      rw [hsame.socksRecvBuf]
      exact hasks (hsame.clientOpen hclosed)
  | failed hup hclosed hfreed honly hu hd hnone hended =>
    refine .failed (hsame.socksUp.trans hup) (hsame.socksClosed.trans hclosed) ?_ ?_ hu hd
      (hsame.socksRecvBuf.trans hnone) ?_
    · rwa [hsame.socks]
    · -- what the proxy has got is a part of a handshake
      rwa [hsame.toServer]
    · rw [hsame.buf]
      exact ended_of_log hended hsame.log
  | down hup hclosed hfreed hcarries hended =>
    refine .down (hsame.socksUp.trans hup) (hsame.socksClosed.trans hclosed) ?_
      (hcarries.congr hsame.toServer hsame.fromServer) ?_
    · rwa [hsame.socks]
    · rw [hsame.buf]
      exact ended_of_log hended hsame.log

/-- Only the client, its pcb and what the application has got matter, and the messages that
    say why it has ended. -/
theorem ClientSide.congr (h : ClientSide s dn) (hclient : t.client = s.client)
    (hpcb : t.pcb = s.pcb) (htoApp : t.toApp = s.toApp) (hlog : s.log ⊆ t.log) :
    ClientSide t dn := by
  have hheld : t.held = s.held := by rw [held, hclient, held]
  cases h with
  | opened hopen hrecv hsent herr hwindow hexact hnotUp hpending hdrain hwaits =>
    refine .opened ?_ ?_ ?_ ?_ ?_ ?_ ?_ ?_ ?_ ?_
    all_goals simp only [hclient, hpcb, htoApp, hheld]
    all_goals assumption
  | closed hclosed hbuf hended =>
    refine .closed ?_ ?_ ?_
    · rwa [hclient]
    · rwa [hclient]
    · obtain ⟨hexact, hunacked, hclosed', hended⟩ | hended := hended
      · exact .inl ⟨htoApp.trans hexact, hpcb ▸ hunacked, hclient ▸ hclosed', hended.of_log hlog⟩
      · exact .inr (hended.of_log hlog)

/-- A message that says neither that SOCKS was closed nor that there was no buffer. -/
theorem Common.clientLog (h : Common s up dn) (msg : LogMsg) (hclosed : msg ≠ .socksClosed)
    (hbuffer : msg ≠ .noBuffer) : Common (s.clientLog msg) up dn := by
  refine ⟨h.fault, h.buf, h.fromApp, h.toApp, ?_, ?_⟩
  · intro hmem
    obtain hmem | hmem := List.mem_append.mp hmem
    · exact h.atEnd hmem
    · exact absurd (List.mem_singleton.mp hmem).symm hclosed
  · intro hmem
    obtain hmem | hmem := List.mem_append.mp hmem
    · exact h.noBuffer hmem
    · exact absurd (List.mem_singleton.mp hmem).symm hbuffer

/-! ## The end of a side -/

/-- The SOCKS client of a client can be freed. -/
theorem SocksSide.free (h : SocksSide p s up dn) (hclosed : s.client.socksClosed = false) :
    Freed s.socks.free := by
  cases h with
  | shaking _ _ hshaking => exact hshaking.free
  | up _ _ hup => exact hup.free
  | failed _ hclosed' | down _ hclosed' =>
    rw [hclosed] at hclosed'
    cases hclosed'

/-- During the handshake nothing else was written. -/
theorem OnlyHandshake.of_shaking {o : BSocksClient} {w r : List UInt8} (h : Shaking p o w r) :
    OnlyHandshake p w := by
  cases h with
  | connecting => exact .inl List.nil_prefix
  | sendingHello _ _ hx => exact .inl ⟨_, hx⟩
  | sentHello => exact .inl (List.prefix_refl _)
  | sendingPassword _ _ hauth hx =>
    exact .inr ⟨_, _, hauth, List.IsPrefix.trans ⟨_, hx⟩ (List.prefix_append _ _)⟩
  | sentPassword _ _ hauth => exact .inr ⟨_, _, hauth, List.prefix_append _ _⟩
  | sendingRequest _ _ hauth hx => exact .inr ⟨_, _, hauth, ⟨_, hx⟩⟩
  | sentRequest _ _ hauth | receivedReplyHeader _ _ hauth =>
    exact .inr ⟨_, _, hauth, List.prefix_refl _⟩

/-- Writing a part of a packet of the handshake writes nothing else. -/
theorem OnlyHandshake.of_write {o : BSocksClient} {w r : List UInt8} (h : Shaking p o w r)
    (n : Nat) : OnlyHandshake p (w ++ o.sending.take n) := by
  have hpre : w ++ o.sending.take n <+: w ++ o.sending := by
    conv_rhs => rw [← List.take_append_drop n o.sending, ← List.append_assoc]
    exact List.prefix_append _ _
  -- only the three states that send have something to write
  cases h with
  | connecting ho =>
    rw [ho]
    exact .inl (by simp)
  | sendingHello _ _ hx => exact .inl (hx ▸ hpre)
  | sentHello _ hr =>
    rw [hr.sending, List.take_nil, List.append_nil]
    exact .inl (List.prefix_refl _)
  | sendingPassword _ _ hauth hx =>
    exact .inr ⟨_, _, hauth, (hx ▸ hpre).trans (List.prefix_append _ _)⟩
  | sentPassword _ hr hauth =>
    rw [hr.sending, List.take_nil, List.append_nil]
    exact .inr ⟨_, _, hauth, List.prefix_append _ _⟩
  | sendingRequest _ _ hauth hx => exact .inr ⟨_, _, hauth, hx ▸ hpre⟩
  | sentRequest _ hr hauth | receivedReplyHeader _ hr hauth =>
    rw [hr.sending, List.take_nil, List.append_nil]
    exact .inr ⟨_, _, hauth, List.prefix_refl _⟩

/-- With SOCKS still open, the client cannot have ended because it had delivered everything. -/
theorem clientEnded_of_open (h : s.Delivered dn ∨ s.ClientEnded)
    (hopen : s.client.socksClosed = false) : s.ClientEnded := by
  obtain hdelivered | hended := h
  · exact absurd (hdelivered.socksClosed.symm.trans hopen) (by decide)
  · exact hended

/-- The client can have ended before SOCKS only for one of its own reasons. -/
theorem ClientSide.ended (h : ClientSide s dn) (hopen : s.client.socksClosed = false)
    (hclosed : s.client.clientClosed = true) : s.ClientEnded := by
  cases h with
  | opened hopen' => exact absurd (hclosed.symm.trans hopen') (by decide)
  | closed _ _ hended => exact clientEnded_of_open hended hopen

/-- SOCKS is freed: what it has carried stays as it is. -/
theorem SocksSide.of_freed (h : SocksSide p s up dn) (hopen : s.client.socksClosed = false)
    (hup : t.client.socksUp = s.client.socksUp) (hclosed : t.client.socksClosed = true)
    (hbuf : t.client.socksRecvBuf = s.client.socksRecvBuf) (hfreed : Freed t.socks)
    (htoServer : t.toServer = s.toServer) (hfromServer : t.fromServer = s.fromServer)
    (hended : t.client.buf = [] ∧ t.ClientEnded ∨ t.SocksEnded) : SocksSide p t up dn := by
  cases h with
  -- ended before it was up
  | shaking hup' _ hshaking hu hd hnone =>
    refine .failed (hup.trans hup') hclosed hfreed ?_ hu hd (hbuf.trans hnone) hended
    rw [htoServer]
    exact .of_shaking hshaking
  -- ended after that
  | up hup' _ _ _ _ _ _ _ hcarries =>
    exact .down (hup.trans hup') hclosed hfreed (hcarries.congr htoServer hfromServer) hended
  | failed _ hclosed' | down _ hclosed' =>
    exact absurd (hclosed'.symm.trans hopen) (by decide)

/-- The pcb is gone. -/
theorem Ok.of_freedClient (h : Common s up dn) (hfreed : FreedClient s t)
    (hsocks : SocksSide p s up dn) (hdealloc : s.dealloc = false)
    (hended : s.Delivered dn ∨ s.ClientEnded) : Ok p t up dn := by
  have hcommon : Common s.closeClient up dn :=
    ⟨h.fault, h.buf, h.fromApp, h.toApp, h.atEnd, h.noBuffer⟩
  -- SOCKS has still data to send, has nothing to wait for, or was closed before
  cases hfreed with
  -- SOCKS stays until the rest of the buffer is written
  | waits hbuf hopen =>
    have hended' : (s.closeClient.clientLog .waitingForSocks).ClientEnded :=
      (clientEnded_of_open hended hopen).of_log (log_subset_clientLog s.closeClient _)
    refine ⟨hcommon.clientLog _ (by decide) (by decide), ?_, .closed rfl (fun _ => hbuf)
      (.inr hended'), ?_⟩
    · exact hsocks.congr ⟨rfl, rfl, rfl, rfl, rfl, (fun hopen => by cases hopen), rfl, rfl,
        log_subset_clientLog s.closeClient _⟩
    · show s.dealloc = (true && s.client.socksClosed)
      rw [hdealloc, hopen]
      rfl
  | ends hbuf hopen =>
    have hended' := clientEnded_of_open hended hopen
    refine ⟨⟨h.fault, h.buf, h.fromApp, h.toApp, h.atEnd, h.noBuffer⟩, ?_,
      .closed rfl (fun hopen => by cases hopen) (.inr hended'), rfl⟩
    exact hsocks.of_freed hopen rfl rfl rfl (hsocks.free hopen) rfl rfl (.inl ⟨hbuf, hended'⟩)
  -- with both sides closed the client is deallocated
  | last hclosed =>
    refine ⟨⟨h.fault, h.buf, h.fromApp, h.toApp, h.atEnd, h.noBuffer⟩, ?_, ?_, ?_⟩
    · exact hsocks.congr ⟨rfl, rfl, rfl, rfl, rfl, (fun hopen => by cases hopen), rfl, rfl,
        List.Subset.refl _⟩
    · refine .closed rfl (fun hopen => absurd (hclosed.symm.trans hopen) (by decide)) ?_
      obtain ⟨htoApp, hunacked, hclosed', hended⟩ | hended := hended
      · exact .inl ⟨htoApp, hunacked, hclosed', hended⟩
      · exact .inr hended
    · show true = (true && s.client.socksClosed)
      rw [hclosed]
      rfl

/-- What `client_free_socks` does before it looks whether to wait for the client. -/
theorem endSocks_eq (s : Relay) : ∃ recv, s.endSocks = { s with
    pcb := { s.pcb with recv }, socks := s.socks.free,
    client := { s.client with socksClosed := true } } ∧
    (s.client.socksUp = true → s.client.clientClosed = false → recv = false) := by
  by_cases hcond : s.client.socksUp = true ∧ s.client.clientClosed = false
  · refine ⟨false, ?_, fun _ _ => rfl⟩
    simp [endSocks, closeSocks, hcond]
  · refine ⟨s.pcb.recv, ?_, fun hup hopen => absurd ⟨hup, hopen⟩ hcond⟩
    have hcond' : ¬(s.client.socksUp = true ∧ (!s.client.clientClosed) = true) := by
      simpa using hcond
    rw [endSocks, if_neg hcond']
    rfl

/-- SOCKS is freed. -/
theorem Ok.of_freedSocks (h : Common s up dn) (hfreed : FreedSocks s t)
    (hsocks : ∀ {t : Relay}, t.client.socksUp = s.client.socksUp → t.client.socksClosed = true →
      t.client.socksRecvBuf = s.client.socksRecvBuf → Freed t.socks → t.toServer = s.toServer →
      t.fromServer = s.fromServer → t.client.buf = [] ∧ t.ClientEnded ∨ t.SocksEnded →
      SocksSide p t up dn)
    (hfree : Freed s.socks.free) (hopened : s.client.clientClosed = false → ClientSide s dn)
    (hclosed : s.client.clientClosed = true → s.ClientEnded) (hdealloc : s.dealloc = false)
    (hended : s.client.buf = [] ∧ s.ClientEnded ∨ s.SocksEnded) : Ok p t up dn := by
  obtain ⟨recv, hend, hrecv⟩ := endSocks_eq s
  -- data is left for the application, there is none, or the client was closed before
  cases hfreed with
  | waits hup hopen hrest =>
    rw [hend]
    have hcommon : Common { s with
        pcb := { s.pcb with recv }, socks := s.socks.free,
        client := { s.client with socksClosed := true } } up dn :=
      ⟨h.fault, h.buf, h.fromApp, h.toApp, h.atEnd, h.noBuffer⟩
    refine ⟨hcommon.clientLog _ (by decide) (by decide), ?_, ?_, ?_⟩
    · exact hsocks rfl rfl rfl hfree rfl rfl
        (ended_of_log hended (List.subset_append_left s.log _))
    · cases hopened hopen with
      | closed hclosed' => exact absurd (hclosed'.symm.trans hopen) (by decide)
      | opened _ _ hsent herr _ hexact hnotUp hpending _ hwaits =>
        refine .opened hopen (hrecv hup hopen) hsent herr (fun hopen => by cases hopen) hexact
          hnotUp hpending (fun _ => ⟨hup, ?_⟩) hwaits
        -- what is held back waits for an acknowledgement, so that one is on its way
        obtain hsome | hpos := hrest
        · obtain ⟨data, hdata⟩ := Option.isSome_iff_exists.mp hsome
          exact (hwaits data hdata).2.2
        · exact hpos
    · show s.dealloc = (s.client.clientClosed && true)
      rw [hdealloc, hopen]
      rfl
  -- nothing was held back, so everything is delivered
  | ends hopen hrest =>
    rw [hend]
    refine ⟨⟨h.fault, h.buf, h.fromApp, h.toApp, h.atEnd, h.noBuffer⟩,
      hsocks rfl rfl rfl hfree rfl rfl hended, ?_, rfl⟩
    refine .closed rfl (fun hopen => by cases hopen) ?_
    obtain ⟨-, hended⟩ | hended := hended
    · exact .inr hended
    · cases hopened hopen with
      | closed hclosed' => exact absurd (hclosed'.symm.trans hopen) (by decide)
      | opened _ _ _ _ _ hexact hnotUp hpending _ hwaits =>
        refine .inl ⟨?_, ?_, rfl, hended⟩
        · -- nothing is held back for the application
          have hnone : s.client.socksRecvBuf = none := by
            cases hup : s.client.socksUp with
            | true => exact (hrest hup).1
            | false => exact (hnotUp hup).1
          have hheld : s.held = [] := by simp [held, hnone]
          rw [hheld, List.append_nil] at hexact
          exact hexact
        · show s.pcb.unacked = []
          cases hup : s.client.socksUp with
          | false => exact (hnotUp hup).2
          | true =>
            have hzero := (hrest hup).2
            rw [hpending hup] at hzero
            exact List.length_eq_zero_iff.mp hzero
  -- the client goes with SOCKS
  | last hclosed' =>
    rw [hend]
    have hended' : s.ClientEnded := hclosed hclosed'
    refine ⟨⟨h.fault, h.buf, h.fromApp, h.toApp, h.atEnd, h.noBuffer⟩,
      hsocks rfl rfl rfl hfree rfl rfl hended,
      .closed hclosed' (fun hopen => by cases hopen) (.inr hended'), ?_⟩
    show true = (s.client.clientClosed && true)
    rw [hclosed']
    rfl

end Relay

end OpenFlux
