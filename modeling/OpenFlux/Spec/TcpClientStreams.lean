import OpenFlux.Spec.TcpClientOk

/-!
# A TCP connection through tun2socks is carried unchanged

Every event keeps the invariant of `TcpClientOk`: each handler has its lemma about what it
makes of a client that satisfies it, and `Ok.step` puts them together.

## Key results

- `Ok.step`, `Ok.of_reachable`: the invariant holds in every run
-/

namespace OpenFlux

open BSocksClient (Event Params Authenticates Handshake Shaking Freed Outcome)

namespace Relay

variable {p : Params} {s t : Relay} {up dn : List UInt8}

/-- A client that was just accepted. -/
theorem Ok.init (p : Params) : Ok p {} [] [] where
  fault := rfl
  buf := Nat.zero_le _
  fromApp := rfl
  toApp := List.prefix_refl _
  atEnd h := by simp at h
  noBuffer := by simp
  socks := .shaking rfl rfl (.connecting rfl) rfl rfl rfl
  client := .opened rfl rfl rfl rfl (fun _ => rfl) rfl (fun _ => ⟨rfl, rfl⟩)
    (fun h => by cases h) (fun h => by cases h) (fun _ h => by cases h)
  dealloc := rfl

/-! ## SOCKS -/

/-- SOCKS reports its end. -/
theorem Ok.of_socksEnds {msg : LogMsg} (h : Common s up dn) (hclient : ClientSide s dn)
    (hsocks : ∀ {t : Relay}, t.client.socksUp = s.client.socksUp → t.client.socksClosed = true →
      t.client.socksRecvBuf = s.client.socksRecvBuf → Freed t.socks → t.toServer = s.toServer →
      t.fromServer = s.fromServer → t.client.buf = [] ∧ t.ClientEnded ∨ t.SocksEnded →
      SocksSide p t up dn)
    (hfree : Freed s.socks.free) (hopen : s.client.socksClosed = false)
    (hdealloc : s.dealloc = false)
    (hmsg : msg = .socksError ∨ msg = .socksClosed ∧ s.down.atEnd = true) :
    Ok p (s.clientLog msg).clientFreeSocks up dn := by
  -- a report that the stream has ended needs the pipe at its end
  have hcommon : Common (s.clientLog msg) up dn := by
    obtain rfl | ⟨rfl, hatEnd⟩ := hmsg
    · exact h.clientLog _ (by decide) (by decide)
    · refine ⟨h.fault, h.buf, h.fromApp, h.toApp, fun _ => hatEnd, ?_⟩
      intro hmem
      obtain hmem | hmem := List.mem_append.mp hmem
      · exact h.noBuffer hmem
      · simp at hmem
  have hended : (s.clientLog msg).SocksEnded := by
    obtain rfl | ⟨rfl, -⟩ := hmsg
    · exact .inl (by simp [clientLog])
    · exact .inr (.inl (by simp [clientLog]))
  refine Ok.of_freedSocks hcommon (clientFreeSocks_freed hopen hdealloc) hsocks hfree ?_ ?_
    hdealloc (.inr hended)
  · -- an open client stays as it was
    intro _
    exact hclient.congr rfl rfl rfl (log_subset_clientLog s msg)
  · -- a closed one has logged why
    intro hclosed
    exact (hclient.ended hopen hclosed).of_log (log_subset_clientLog s msg)

/-- A client with an open side is not deallocated. -/
theorem Ok.dealloc_of_open (h : Ok p s up dn)
    (hopen : s.client.clientClosed = false ∨ s.client.socksClosed = false) : s.dealloc = false := by
  rw [h.dealloc]
  obtain hopen | hopen := hopen <;> simp [hopen]

/-- What `client_socks_handler` does when SOCKS comes up. -/
theorem clientSocksHandler_up (hopen : s.client.socksClosed = false)
    (hup : s.client.socksUp = false) (hio : s.socks.io = .up) (hoffered : s.socks.offered = 0)
    (hwanted : s.socks.wanted = 0) :
    s.clientSocksHandler .up = { s with
      log := s.log ++ [.socksUp]
      client := { s.client with
        socksRecvBuf := none, socksRecvTcpPending := 0, socksUp := true }
      pcb := if s.client.clientClosed then s.pcb else { s.pcb with sent := true }
      socks := { s.socks with
        offered := s.client.buf.length
        wanted := if s.client.clientClosed then 0 else clientSocksRecvBufSize } } := by
  obtain ⟨client, ⟨state, buffer, con, io, sending, dest, len, total, wanted, offered, fault⟩⟩ := s
  dsimp only at hopen hup hio hoffered hwanted
  subst hio hoffered hwanted
  -- whether the client is closed and whether it has data decide what is started
  unfold clientSocksHandler
  cases hclosed : client.clientClosed <;> by_cases hbuf : client.buf = [] <;>
    simp [clientLog, clientSendToSocks, senderSend, clientSocksRecvInitiate, hopen, hup, hclosed,
      hbuf]

/-- The handshake is complete: the client starts to send and to receive. -/
theorem Ok.of_up (h : Common s [] []) (hclient : ClientSide s [])
    (hopen : s.client.socksClosed = false) (hup : s.client.socksUp = false)
    (hsocks : BSocksClient.Up s.socks) (hoffered : s.socks.offered = 0)
    (hwanted : s.socks.wanted = 0) (hnone : s.client.socksRecvBuf = none)
    (hhandshake : Handshake p s.toServer s.fromServer) (hdealloc : s.dealloc = false) :
    Ok p (s.clientSocksHandler .up) [] [] := by
  rw [clientSocksHandler_up hopen hup hsocks.io hoffered hwanted]
  have hcommon := h.clientLog .socksUp (by decide) (by decide)
  -- nothing was read yet
  have hheld : s.held = [] := by simp [held, hnone]
  refine ⟨⟨h.fault, h.buf, h.fromApp, ?_, hcommon.atEnd, hcommon.noBuffer⟩, ?_, ?_, ?_⟩
  · have htoApp := h.toApp
    rw [hheld, List.append_nil] at htoApp
    simpa [held] using htoApp
  · refine .up rfl hopen ⟨hsocks.state, hsocks.con, hsocks.io, hsocks.sending, hsocks.fault⟩
      List.length_eq_zero_iff.symm (Nat.le_refl _) ?_ (fun _ => rfl) ?_
      ⟨s.toServer, s.fromServer, hhandshake, (List.append_nil _).symm, (List.append_nil _).symm⟩
    · dsimp only
      split
      · exact Nat.zero_le _
      · exact Nat.le_refl _
    · intro hclosed _
      have hclosed' : s.client.clientClosed = false := hclosed
      simp [hclosed']
  · -- lwIP's callback for acknowledgements is set if the application is still there
    cases hclient with
    | opened hclosed hrecv _ herr hwindow hexact hnotUp _ _ _ =>
      have hunacked := (hnotUp hup).2
      rw [hheld, List.append_nil] at hexact
      refine .opened hclosed ?_ ?_ ?_ ?_ ?_ (fun h => by cases h) ?_ ?_ (fun _ h => by cases h)
      all_goals simp only [hclosed, Bool.false_eq_true, if_false]
      · exact hrecv
      · exact herr
      · exact hwindow
      · simpa [held] using hexact
      · intro _
        rw [hunacked]
        rfl
      · intro hclosed'
        exact absurd (hclosed'.symm.trans hopen) (by decide)
    | closed hclosed hbuf hended =>
      have hended' : s.ClientEnded := clientEnded_of_open hended hopen
      exact .closed hclosed hbuf (.inr (hended'.of_log (List.subset_append_left _ _)))
  · show s.dealloc = (s.client.clientClosed && s.client.socksClosed)
    rw [hdealloc, hopen, Bool.and_false]

/-- A handler of the handshake was called. -/
theorem Ok.of_outcome {result : BSocksClient × Option Event} (h : Common s [] [])
    (hclient : ClientSide s []) (hopen : s.client.socksClosed = false)
    (hup : s.client.socksUp = false) (hnone : s.client.socksRecvBuf = none)
    (honly : OnlyHandshake p s.toServer) (hdealloc : s.dealloc = false)
    (hout : Outcome p s.toServer s.fromServer result) : Ok p (s.socksHandled result) [] [] := by
  have hclient' : ∀ o, ClientSide { s with socks := o } [] := fun o =>
    hclient.congr rfl rfl rfl (List.Subset.refl _)
  have hcommon : ∀ o, Common { s with socks := o } [] [] := fun o =>
    ⟨h.fault, h.buf, h.fromApp, h.toApp, h.atEnd, h.noBuffer⟩
  -- the handshake goes on, fails, or is complete
  cases hout with
  | goesOn hshaking =>
    refine ⟨hcommon _, .shaking hup hopen hshaking rfl rfl hnone, hclient' _, ?_⟩
    show s.dealloc = (s.client.clientClosed && s.client.socksClosed)
    rw [hdealloc, hopen, Bool.and_false]
  | @error o hfreed =>
    have heq : s.socksHandled (o, some .error) =
        (({ s with socks := o }).clientLog .socksError).clientFreeSocks := by
      simp [socksHandled, clientSocksHandler, hopen]
    rw [heq]
    refine Ok.of_socksEnds (hcommon o) (hclient' o) ?_ hfreed hopen hdealloc (.inl rfl)
    intro t hup' hclosed hbuf hfreed' htoServer _ hended
    refine .failed (hup'.trans hup) hclosed hfreed' ?_ rfl rfl (hbuf.trans hnone) hended
    rw [htoServer]
    exact honly
  | up hsocks _ hwanted hoffered hhandshake =>
    exact Ok.of_up (hcommon _) (hclient' _) hopen hup hsocks hoffered hwanted hnone hhandshake
      hdealloc

/-- The connection fails or is closed. -/
theorem Ok.connectionHandler (h : Ok p s up dn) (hcon : s.socks.con = true) (recvClosed : Bool)
    (hatEnd : recvClosed = true → s.down.atEnd = true) :
    Ok p (s.socksHandled (s.socks.connectionHandler recvClosed)) up dn := by
  -- both reports end the SOCKS side in the same way
  have hends : ∀ {msg}, (msg = LogMsg.socksError ∨ msg = .socksClosed ∧ s.down.atEnd = true) →
      s.client.socksClosed = false → Ok p (s.clientLog msg).clientFreeSocks up dn := by
    intro msg hmsg hopen
    exact Ok.of_socksEnds h.toCommon h.client
      (fun hup hclosed hbuf hfreed hw hr hended =>
        h.socks.of_freed hopen hup hclosed hbuf hfreed hw hr hended)
      (h.socks.free hopen) hopen (h.dealloc_of_open (.inr hopen)) hmsg
  cases h.socks with
  | failed _ _ hfreed | down _ _ hfreed => exact absurd (hfreed.con.symm.trans hcon) (by decide)
  -- during the handshake the end of the stream is an error as well
  | shaking hup hopen hshaking =>
    have hstate := hshaking.state_ne hcon
    have heq : s.socks.connectionHandler recvClosed = (s.socks, some .error) := by
      simp [BSocksClient.connectionHandler, BSocksClient.assert, hstate,
        (hshaking.control hstate).2]
    rw [heq]
    have hhandled : s.socksHandled (s.socks, some .error) =
        (s.clientLog .socksError).clientFreeSocks := by
      simp [socksHandled, clientSocksHandler, hopen]
    rw [hhandled]
    exact hends (.inl rfl) hopen
  | up hup hopen hsocks =>
    -- an orderly end is reported as such only when the client is up
    cases recvClosed with
    | true =>
      have heq : s.socks.connectionHandler true = (s.socks, some .errorClosed) := by
        simp [BSocksClient.connectionHandler, BSocksClient.assert, hsocks.state]
      have hhandled : s.socksHandled (s.socks, some .errorClosed) =
          (s.clientLog .socksClosed).clientFreeSocks := by
        simp [socksHandled, clientSocksHandler, hopen, hup]
      rw [heq, hhandled]
      exact hends (.inr ⟨rfl, hatEnd rfl⟩) hopen
    | false =>
      have heq : s.socks.connectionHandler false = (s.socks, some .error) := by
        simp [BSocksClient.connectionHandler, BSocksClient.assert, hsocks.state]
      have hhandled : s.socksHandled (s.socks, some .error) =
          (s.clientLog .socksError).clientFreeSocks := by
        simp [socksHandled, clientSocksHandler, hopen]
      rw [heq, hhandled]
      exact hends (.inl rfl) hopen

/-! ## The application -/

/-- The window that lwIP offers is what the buffer has left, so that the data always fits. -/
theorem Ok.of_appSends {data : List UInt8} (h : Ok p s up dn)
    (hclosed : s.client.clientClosed = false) (hrecv : s.pcb.recv = true) (hne : data ≠ [])
    (hfits : data.length ≤ s.pcb.rcvWnd) :
    Ok p (clientRecvFunc data
      { s with pcb := { s.pcb with rcvWnd := s.pcb.rcvWnd - data.length } }) up dn := by
  cases h.client with
  | closed hclosed' => exact absurd (hclosed'.symm.trans hclosed) (by decide)
  | opened _ hrecv' hsent herr hwindow hexact hnotUp hpending _ hwaits =>
    -- lwIP delivers only while the callback is set, which SOCKS takes away with its end
    have hopen : s.client.socksClosed = false := by
      rw [hrecv] at hrecv'
      simpa using hrecv'.symm
    have hwindow' := hwindow hopen
    have hpos : 0 < data.length := List.length_pos_iff.mpr hne
    have hlen : (s.client.buf ++ data).length = s.client.buf.length + data.length := by simp
    -- SOCKS is told about the data only if nothing was in the buffer
    have heq : clientRecvFunc data
        { s with pcb := { s.pcb with rcvWnd := s.pcb.rcvWnd - data.length } } = { s with
          pcb := { s.pcb with rcvWnd := s.pcb.rcvWnd - data.length }
          client := { s.client with buf := s.client.buf ++ data }
          fromApp := s.fromApp ++ data
          socks := if s.client.buf = [] ∧ s.client.socksUp then
            { s.socks with offered := data.length } else s.socks } := by
      -- the window was no larger than the free part of the buffer
      have hroom : ¬ tcpWnd - s.client.buf.length < data.length := by omega
      by_cases hstart : s.client.buf = [] ∧ s.client.socksUp = true
      · obtain ⟨hbuf, hup⟩ := hstart
        have hidle : s.socks.io = .up ∧ s.socks.offered = 0 := by
          cases h.socks with
          | shaking hup' | failed hup' => exact absurd (hup'.symm.trans hup) (by decide)
          | down _ hclosed' => exact absurd (hclosed'.symm.trans hopen) (by decide)
          | up _ _ hsocks hoffered => exact ⟨hsocks.io, hoffered.mp hbuf⟩
        have hroom' : ¬ tcpWnd < data.length := by
          rw [hbuf, List.length_nil, Nat.sub_zero] at hroom
          exact hroom
        simp [clientRecvFunc, clientSendToSocks, senderSend, hclosed, hne, hroom', hbuf, hup,
          hopen, hidle]
      · -- the length of the buffer tells the callback that it was not empty
        have hstart' : ¬((s.client.buf ++ data).length = data.length ∧
            s.client.socksUp = true) := by
          rintro ⟨hlen', hup⟩
          exact hstart ⟨List.length_eq_zero_iff.mp (by omega), hup⟩
        simp only [clientRecvFunc, hclosed, hne, hroom, hstart', hstart, if_false, ne_eq,
          not_false_eq_true, decide_true, Bool.not_false, Bool.and_self, assert_true]
    rw [heq]
    refine ⟨⟨h.fault, ?_, ?_, h.toApp, h.atEnd, h.noBuffer⟩, ?_, ?_, h.dealloc⟩
    · show (s.client.buf ++ data).length ≤ tcpWnd
      omega
    · show s.fromApp ++ data = up ++ (s.client.buf ++ data)
      rw [h.fromApp, List.append_assoc]
    · cases h.socks with
      | failed _ hclosed' | down _ hclosed' =>
        exact absurd (hclosed'.symm.trans hopen) (by decide)
      | shaking hup _ hshaking hu hd hnone =>
        refine .shaking hup hopen ?_ hu hd hnone
        simpa [hup] using hshaking
      | up hup _ hsocks hoffered hle hwanted hwanted' hasks hcarries =>
        have hne' : ¬(s.client.buf ++ data = []) := by simp [hne]
        -- with an empty buffer nothing was offered
        by_cases hbuf : s.client.buf = []
        · rw [if_pos ⟨hbuf, hup⟩]
          refine .up hup hopen ⟨hsocks.state, hsocks.con, hsocks.io, hsocks.sending, hsocks.fault⟩
            (iff_of_false hne' (Nat.ne_of_gt hpos)) ?_ hwanted hwanted' hasks
            (hcarries.congr rfl rfl)
          show data.length ≤ (s.client.buf ++ data).length
          omega
        · rw [if_neg (fun hstart => hbuf hstart.1)]
          have hoffered' : s.socks.offered ≠ 0 := fun hzero => hbuf (hoffered.mpr hzero)
          refine .up hup hopen hsocks (iff_of_false hne' hoffered') ?_ hwanted hwanted' hasks
            (hcarries.congr rfl rfl)
          show s.socks.offered ≤ (s.client.buf ++ data).length
          omega
    · refine .opened hclosed hrecv' hsent herr ?_ hexact hnotUp hpending ?_ hwaits
      · intro _
        show s.pcb.rcvWnd - data.length + (s.client.buf ++ data).length = tcpWnd
        omega
      · intro hclosed'
        exact absurd (hclosed'.symm.trans hopen) (by decide)

/-- The application closes, lwIP drops the connection or `tcp_write` fails. -/
theorem Ok.of_clientEnds {msg : LogMsg} (h : Common s up dn) (hsocks : SocksSide p s up dn)
    (hdealloc : s.dealloc = false)
    (hmsg : msg ∈ [LogMsg.clientClosed, .clientError, .tcpWriteFailed, .tcpOutputFailed,
      .cantQueue])
    (hfreed : FreedClient (s.clientLog msg).removeCallbacks t) : Ok p t up dn := by
  have hne : msg ≠ .socksClosed ∧ msg ≠ .noBuffer := by
    constructor <;> rintro rfl <;> simp at hmsg
  have hlogged := h.clientLog msg hne.1 hne.2
  have hcommon : Common (s.clientLog msg).removeCallbacks up dn :=
    ⟨h.fault, h.buf, h.fromApp, h.toApp, hlogged.atEnd, hlogged.noBuffer⟩
  have hlog : s.log ⊆ (s.clientLog msg).removeCallbacks.log := log_subset_clientLog s msg
  -- the message says why the client ends
  have hended : (s.clientLog msg).removeCallbacks.ClientEnded := by
    refine ⟨msg, ?_, by simp [removeCallbacks, clientLog]⟩
    simp only [List.mem_cons, List.not_mem_nil, or_false] at hmsg ⊢
    tauto
  exact Ok.of_freedClient hcommon hfreed
    (hsocks.congr ⟨rfl, rfl, rfl, rfl, rfl, id, rfl, rfl, hlog⟩) hdealloc (.inr hended)

/-! ## To SOCKS -/

/-- The client behind `tcp_recved`. -/
def afterUpWrite (n : Nat) (s : Relay) : Relay :=
  { s with
    toServer := s.toServer ++ s.client.buf.take n
    client := { s.client with buf := s.client.buf.drop n }
    pcb := if s.client.clientClosed then s.pcb
      else { s.pcb with rcvWnd := min (s.pcb.rcvWnd + n) tcpWnd }
    socks := { s.socks with offered := 0 } }

/-- SOCKS has taken `n` bytes of the buffer. -/
theorem Ok.of_upWrite {n : Nat} (h : Ok p s up dn) (hn : 0 < n) (hle : n ≤ s.socks.offered) :
    Ok p (clientSocksSendHandlerDone n { s with
      toServer := s.toServer ++ s.client.buf.take n
      socks := { s.socks with offered := 0 } }) (up ++ s.client.buf.take n) dn := by
  cases hs : h.socks with
  | failed _ _ hfreed | down _ _ hfreed =>
    rw [hfreed.offered] at hle
    omega
  | shaking _ _ hshaking =>
    -- nothing is offered before the handshake is over
    have hzero : s.socks.offered = 0 := hshaking.offered
    omega
  | up hup hopen hsocks hoffered hoffered' hwanted hwanted' hasks hcarries =>
    have hlen : n ≤ s.client.buf.length := Nat.le_trans hle hoffered'
    have hbuf : s.client.buf ≠ [] := List.length_pos_iff.mp (by omega)
    obtain ⟨w, r, hhandshake, hw, hr⟩ := hcarries.handshake
    -- the three ways on: write the rest, free SOCKS, or wait for the application
    have hwrote : clientSocksSendHandlerDone n { s with
        toServer := s.toServer ++ s.client.buf.take n
        socks := { s.socks with offered := 0 } } =
        if s.client.buf.drop n ≠ [] then
          { s.afterUpWrite n with
            socks := { s.socks with offered := (s.client.buf.drop n).length } }
        else if s.client.clientClosed then
          ((s.afterUpWrite n).clientLog .removingAfterClient).clientFreeSocks
        else s.afterUpWrite n := by
      cases hclosed : s.client.clientClosed <;>
        simp [clientSocksSendHandlerDone, senderSend, afterUpWrite, tcpRecved, hclosed, hopen, hup,
          hbuf, hn, hlen, hsocks.io]
    -- what was taken from the buffer is now behind `up`
    have hcommon : Common (s.afterUpWrite n) (up ++ s.client.buf.take n) dn := by
      refine ⟨h.fault, ?_, ?_, h.toApp, h.atEnd, h.noBuffer⟩
      · show (s.client.buf.drop n).length ≤ tcpWnd
        rw [List.length_drop]
        exact Nat.le_trans (Nat.sub_le ..) h.buf
      · show s.fromApp = up ++ s.client.buf.take n ++ s.client.buf.drop n
        rw [List.append_assoc, List.take_append_drop, h.fromApp]
    have hcarries' : Carries p (s.afterUpWrite n) (up ++ s.client.buf.take n) dn := by
      refine ⟨w, r, hhandshake, ?_, hr⟩
      show s.toServer ++ s.client.buf.take n = w ++ (up ++ s.client.buf.take n)
      rw [hw, List.append_assoc]
    -- the window is opened by as much as the buffer has got free
    have hclient : s.client.clientClosed = false → ClientSide (s.afterUpWrite n) dn := by
      intro hclosed
      cases h.client with
      | closed hclosed' => exact absurd (hclosed'.symm.trans hclosed) (by decide)
      | opened _ hrecv hsent herr hwindow hexact hnotUp hpending hdrain hwaits =>
        refine .opened hclosed ?_ ?_ ?_ ?_ hexact (fun hup' => ?_) (fun hup' => ?_) hdrain hwaits
        all_goals simp only [afterUpWrite, hclosed, Bool.false_eq_true, if_false]
        · exact hrecv
        · exact hsent
        · exact herr
        · intro _
          have hwindow' := hwindow hopen
          rw [List.length_drop]
          omega
        · exact hnotUp hup'
        · exact hpending hup'
    have hdealloc := h.dealloc_of_open (.inr hopen)
    rw [hwrote]
    split
    · -- something is left in the buffer
      rename_i hrest
      refine ⟨⟨hcommon.fault, hcommon.buf, hcommon.fromApp, hcommon.toApp, hcommon.atEnd,
        hcommon.noBuffer⟩, ?_, ?_, h.dealloc⟩
      · refine .up hup hopen ⟨hsocks.state, hsocks.con, hsocks.io, hsocks.sending, hsocks.fault⟩
          List.length_eq_zero_iff.symm (Nat.le_refl _) hwanted hwanted' hasks
          (hcarries'.congr rfl rfl)
      · cases hclosed : s.client.clientClosed with
        | false =>
          exact (hclient hclosed).congr rfl rfl rfl (List.Subset.refl _)
        | true =>
          have hended : s.ClientEnded := h.client.ended hopen hclosed
          exact .closed hclosed (fun _ => hrest) (.inr hended)
    rename_i hrest
    have hempty : s.client.buf.drop n = [] := not_not.mp hrest
    split
    · -- the application has closed before, and this was the last of its data
      rename_i hclosed
      have hlog := log_subset_clientLog (s.afterUpWrite n) .removingAfterClient
      have hended : ((s.afterUpWrite n).clientLog .removingAfterClient).ClientEnded :=
        ClientEnded.of_log (s := s) (h.client.ended hopen hclosed) hlog
      have hup' : BSocksClient.Up (s.afterUpWrite n).socks :=
        ⟨hsocks.state, hsocks.con, hsocks.io, hsocks.sending, hsocks.fault⟩
      refine Ok.of_freedSocks (hcommon.clientLog _ (by decide) (by decide))
        (clientFreeSocks_freed hopen hdealloc) ?_ hup'.free
        (fun hopen' => absurd (hopen'.symm.trans hclosed) (by decide)) (fun _ => hended)
        hdealloc (.inl ⟨hempty, hended⟩)
      intro t hup'' hclosed' _ hfreed htoServer hfromServer hended'
      exact .down (hup''.trans hup) hclosed' hfreed (hcarries'.congr htoServer hfromServer)
        hended'
    · -- the buffer is empty, and the application may send again
      rename_i hclosed
      have hclosed' : s.client.clientClosed = false := by simpa using hclosed
      refine ⟨hcommon, ?_, hclient hclosed', h.dealloc⟩
      exact .up hup hopen ⟨hsocks.state, hsocks.con, hsocks.io, hsocks.sending, hsocks.fault⟩
        (iff_of_true hempty rfl) (Nat.zero_le _) hwanted hwanted' hasks hcarries'

/-! ## From SOCKS -/

/-- `tcp_write` takes from the front of what is held. -/
theorem toApp_tcpWrite {data : List UInt8} (hdata : s.client.socksRecvBuf = some data) (k : Nat) :
    (s.tcpWrite data k).toApp ++ (s.tcpWrite data k).held = s.toApp ++ s.held := by
  have hheld : s.held = data.drop s.client.socksRecvBufSent := by simp [held, hdata]
  have hheld' : (s.tcpWrite data k).held = (data.drop s.client.socksRecvBufSent).drop k := by
    simp [held, tcpWrite, hdata, List.drop_drop]
  rw [hheld, hheld']
  show s.toApp ++ (data.drop s.client.socksRecvBufSent).take k ++ _ = _
  rw [List.append_assoc, List.take_append_drop]

/-- A client that is about to queue `data` for the application. -/
structure Queuing (p : Params) (s : Relay) (data up dn : List UInt8) : Prop
    extends Common s up dn where
  socks : SocksSide p s up dn
  clientOpen : s.client.clientClosed = false
  socksUp : s.client.socksUp = true
  recvBuf : s.client.socksRecvBuf = some data
  sent : s.client.socksRecvBufSent < data.length
  waiting : s.client.socksRecvWaiting = false
  recv : s.pcb.recv = !s.client.socksClosed
  sentCallback : s.pcb.sent = true
  errCallback : s.pcb.err = true
  window : s.client.socksClosed = false → s.pcb.rcvWnd + s.client.buf.length = tcpWnd
  exact : s.toApp ++ s.held = dn
  pending : s.client.socksRecvTcpPending = s.pcb.unacked.length
  dealloc : s.dealloc = false

/-- Queuing a part of the data keeps what the two sides say. -/
theorem Queuing.tcpWrite {data : List UInt8} (h : Queuing p s data up dn) (k : Nat) :
    Common (s.tcpWrite data k) up dn ∧ SocksSide p (s.tcpWrite data k) up dn := by
  refine ⟨⟨h.fault, h.buf, h.fromApp, ?_, h.atEnd, h.noBuffer⟩, ?_⟩
  · rw [toApp_tcpWrite h.recvBuf]
    exact h.toApp
  · exact h.socks.congr ⟨rfl, rfl, rfl, rfl, rfl, id, rfl, rfl, List.Subset.refl _⟩

/-- What was queued is to be acknowledged. -/
theorem Queuing.unacked_tcpWrite {data : List UInt8} {k : Nat} (h : Queuing p s data up dn)
    (hk : s.client.socksRecvBufSent + k ≤ data.length) :
    (s.tcpWrite data k).client.socksRecvTcpPending = (s.tcpWrite data k).pcb.unacked.length := by
  show s.client.socksRecvTcpPending + k =
    (s.pcb.unacked ++ (data.drop s.client.socksRecvBufSent).take k).length
  rw [h.pending, List.length_append, List.length_take, List.length_drop]
  omega

/-- The client keeps what lwIP does not take, and receives again when it has taken
    everything. -/
theorem Queuing.sentOut {data : List UInt8} {result : Relay × Bool}
    (h : Queuing p s data up dn) (hout : SentOut s data result) :
    (result.2 = true ∧ Ok p result.1 up dn) ∨
    (result.2 = false ∧ 0 < result.1.client.socksRecvTcpPending ∧
      result.1.client.socksClosed = s.client.socksClosed ∧
      (result.1.client.socksRecvBuf ≠ none ∧ Ok p result.1 up dn ∨
        result.1.client.socksRecvBuf = none ∧
          (s.client.socksClosed = true → Ok p result.1 up dn) ∧
          (s.client.socksClosed = false → Ok p result.1.clientSocksRecvInitiate up dn))) := by
  cases hout with
  -- lwIP has failed: the client is gone
  | @aborted k msg _ hmsg =>
    obtain ⟨hcommon, hsocks⟩ := h.tcpWrite k
    refine .inl ⟨rfl, Ok.of_clientEnds hcommon hsocks h.dealloc ?_
      (clientFreeClient_freed h.clientOpen h.dealloc)⟩
    simp only [List.mem_cons, List.not_mem_nil, or_false] at hmsg ⊢
    tauto
  -- a part is left for the next acknowledgement, which has to come
  | @waits k hk hpos =>
    obtain ⟨hcommon, hsocks⟩ := h.tcpWrite k
    have hexact := (toApp_tcpWrite h.recvBuf k).trans h.exact
    refine .inr ⟨rfl, hpos, rfl, .inl ⟨?_, ?_⟩⟩
    · show s.client.socksRecvBuf ≠ none
      rw [h.recvBuf]
      simp
    refine ⟨⟨hcommon.fault, hcommon.buf, hcommon.fromApp, hcommon.toApp, hcommon.atEnd,
      hcommon.noBuffer⟩, ?_, ?_, ?_⟩
    · exact hsocks.congr ⟨rfl, rfl, rfl, rfl, rfl, id, rfl, rfl, List.Subset.refl _⟩
    · refine .opened h.clientOpen h.recv (h.sentCallback.trans h.socksUp.symm) h.errCallback
        h.window hexact (fun hup => absurd (hup.symm.trans h.socksUp) (by decide))
        (fun _ => h.unacked_tcpWrite (Nat.le_of_lt hk)) (fun _ => ⟨h.socksUp, hpos⟩) ?_
      intro data' hdata'
      have hdata : some data = some data' := h.recvBuf.symm.trans hdata'
      cases hdata
      exact ⟨rfl, hk, hpos⟩
    · show s.dealloc = (s.client.clientClosed && s.client.socksClosed)
      rw [h.dealloc, h.clientOpen, Bool.false_and]
  -- everything is with lwIP, and SOCKS receives again if it is still open
  | @queued k hk hall =>
    obtain ⟨hcommon, hsocks⟩ := h.tcpWrite k
    have hpos : 0 < s.client.socksRecvTcpPending + k := by omega
    -- nothing is held any more
    have hexact : (s.tcpWrite data k).toApp = dn := by
      have hheld : (s.tcpWrite data k).held = [] := by
        simp [held, OpenFlux.Relay.tcpWrite, h.recvBuf, hall]
      have hexact := (toApp_tcpWrite h.recvBuf k).trans h.exact
      rwa [hheld, List.append_nil] at hexact
    have hexact' : (s.tcpWrite data k).toApp ++ ([] : List UInt8).drop
        (s.tcpWrite data k).client.socksRecvBufSent = dn := by
      rw [List.drop_nil, List.append_nil, hexact]
    -- the rest does not depend on what SOCKS does next
    have hclient : ∀ o, ClientSide { s.tcpWrite data k with
        client := { (s.tcpWrite data k).client with socksRecvBuf := none }, socks := o } dn := by
      intro o
      exact .opened h.clientOpen h.recv (h.sentCallback.trans h.socksUp.symm) h.errCallback
        h.window hexact' (fun hup => absurd (hup.symm.trans h.socksUp) (by decide))
        (fun _ => h.unacked_tcpWrite (Nat.le_of_eq hall)) (fun _ => ⟨h.socksUp, hpos⟩)
        (fun _ hdata => by cases hdata)
    have hcommon' : ∀ o, Common { s.tcpWrite data k with
        client := { (s.tcpWrite data k).client with socksRecvBuf := none }, socks := o } up dn := by
      intro o
      refine ⟨hcommon.fault, hcommon.buf, hcommon.fromApp, ?_, hcommon.atEnd, hcommon.noBuffer⟩
      exact hexact' ▸ List.prefix_refl _
    have hdealloc : s.dealloc = (s.client.clientClosed && s.client.socksClosed) := by
      rw [h.dealloc, h.clientOpen, Bool.false_and]
    refine .inr ⟨rfl, hpos, rfl, .inr ⟨rfl, ?_, ?_⟩⟩
    · -- SOCKS has ended: its side stays as it was
      intro hclosed
      refine ⟨hcommon' _, ?_, hclient _, hdealloc⟩
      cases hsocks with
      | shaking _ hopen | up _ hopen => exact absurd (hopen.symm.trans hclosed) (by decide)
      | failed hup => exact absurd (hup.symm.trans h.socksUp) (by decide)
      | down hup hclosed' hfreed hcarries hended =>
        exact .down hup hclosed' hfreed (hcarries.congr rfl rfl) hended
    · intro hopen
      cases hsocks with
      | shaking hup | failed hup => exact absurd (hup.symm.trans h.socksUp) (by decide)
      | down _ hclosed => exact absurd (hclosed.symm.trans hopen) (by decide)
      | up hup _ hup' hoffered hoffered' _ hwanted _ hcarries =>
        -- SOCKS was asked for nothing while something was held
        have hidle : s.socks.wanted = 0 := by
          by_contra hne
          have hnone := hwanted hne
          rw [show (s.tcpWrite data k).client.socksRecvBuf = s.client.socksRecvBuf from rfl,
            h.recvBuf] at hnone
          cases hnone
        have heq : ({ s.tcpWrite data k with
            client := { (s.tcpWrite data k).client with socksRecvBuf := none } }
            ).clientSocksRecvInitiate = { s.tcpWrite data k with
              client := { (s.tcpWrite data k).client with socksRecvBuf := none },
              socks := { s.socks with wanted := clientSocksRecvBufSize } } := by
          have hio : s.socks.io = .up := hup'.io
          simp [clientSocksRecvInitiate, OpenFlux.Relay.tcpWrite, h.clientOpen, hopen, h.socksUp,
            hio, hidle]
        rw [heq]
        refine ⟨hcommon' _, ?_, hclient _, hdealloc⟩
        exact .up hup hopen ⟨hup'.state, hup'.con, hup'.io, hup'.sending, hup'.fault⟩ hoffered
          hoffered' (Nat.le_refl _) (fun _ => rfl) (fun _ _ => rfl) (hcarries.congr rfl rfl)

/-- SOCKS has read `data` for the client. -/
theorem Ok.of_upRead {data : List UInt8} {down : Pipe UInt8} (h : Ok p s up dn)
    (hio : s.socks.io = .up) (hne : data ≠ []) (hle : data.length ≤ s.socks.wanted)
    (hdown : LogMsg.socksClosed ∈ s.log → down.atEnd = true) (r : TcpResults) :
    Ok p (clientSocksRecvHandlerDone r data { s with
      down, fromServer := s.fromServer ++ data, socks := { s.socks with wanted := 0 } })
      up (dn ++ data) := by
  have hpos : 0 < data.length := List.length_pos_iff.mpr hne
  cases h.socks with
  -- only a client that is up has asked for data
  | failed _ _ hfreed | down _ _ hfreed => exact absurd (hfreed.io.symm.trans hio) (by decide)
  | shaking _ _ hshaking => exact absurd hio hshaking.io_ne
  | up hup hopen hsocks hoffered hoffered' hwanted hnone hasks hcarries =>
    have hrecvBuf : s.client.socksRecvBuf = none := hnone (by omega)
    have hsize : data.length ≤ clientSocksRecvBufSize := Nat.le_trans hle hwanted
    obtain ⟨w, r', hhandshake, hw, hr⟩ := hcarries.handshake
    -- what was read is behind the handshake and what was read before
    have hcarries' : s.fromServer ++ data = r' ++ (dn ++ data) := by rw [hr, List.append_assoc]
    have hup' : BSocksClient.Up { s.socks with wanted := 0 } :=
      ⟨hsocks.state, hsocks.con, hsocks.io, hsocks.sending, hsocks.fault⟩
    cases hclient : h.client with
    | closed hclosed hbuf hended =>
      -- the data is dropped, and nothing more is received
      have heq : clientSocksRecvHandlerDone r data { s with
          down, fromServer := s.fromServer ++ data, socks := { s.socks with wanted := 0 } } =
          { s with
            down, fromServer := s.fromServer ++ data, socks := { s.socks with wanted := 0 } } := by
        simp [clientSocksRecvHandlerDone, hne, hsize, hopen, hup, hrecvBuf, hclosed]
      rw [heq]
      refine ⟨⟨h.fault, h.buf, h.fromApp, h.toApp.trans (List.prefix_append _ _), hdown,
        h.noBuffer⟩, ?_, ?_, h.dealloc⟩
      · exact .up hup hopen hup' hoffered hoffered' (Nat.zero_le _)
          (fun hzero => absurd rfl hzero)
          (fun hopen' => absurd (hopen'.symm.trans hclosed) (by decide))
          ⟨w, r', hhandshake, hw, hcarries'⟩
      · have hended' : s.ClientEnded := clientEnded_of_open hended hopen
        exact .closed hclosed hbuf (.inr hended')
    | opened hclosed hrecv hsent herr hwindow hexact hnotUp hpending hdrain hwaits =>
      rw [clientSocksRecvHandlerDone_eq (s := { s with
        down, fromServer := s.fromServer ++ data, socks := { s.socks with wanted := 0 } })
        r hne hsize hopen hup hrecvBuf hclosed]
      -- nothing was held back, so the data comes right behind what the application has got
      have hheld : s.held = [] := by simp [held, hrecvBuf]
      have hall : s.toApp ++ data = dn ++ data := by
        rw [hheld, List.append_nil] at hexact
        rw [hexact]
      have hq : Queuing p { s with
          down, fromServer := s.fromServer ++ data, socks := { s.socks with wanted := 0 },
          client := { s.client with
            socksRecvBuf := some data, socksRecvBufSent := 0, socksRecvWaiting := false } }
          data up (dn ++ data) := by
        refine ⟨⟨h.fault, h.buf, h.fromApp, hall ▸ List.prefix_refl _, hdown, h.noBuffer⟩,
          ?_, hclosed, hup, rfl, hpos, rfl, hrecv, hsent.trans hup, herr, hwindow, hall,
          hpending hup, h.dealloc_of_open (.inr hopen)⟩
        exact .up hup hopen hup' hoffered hoffered' (Nat.zero_le _)
          (fun hzero => absurd rfl hzero) (fun _ hsome => by cases hsome)
          ⟨w, r', hhandshake, hw, hcarries'⟩
      -- the write fails, leaves a part, or takes everything
      have hout := hq.sentOut (clientSocksRecvSendOut_sentOut r hclosed hup rfl hpos rfl)
      obtain ⟨haborted, hok⟩ | ⟨haborted, -, -, ⟨hsome, hok⟩ | ⟨hnone', -, hok⟩⟩ := hout
      · rw [afterSendOut, if_pos haborted]
        exact hok
      · rw [afterSendOut, haborted, if_neg (by decide), if_neg hsome]
        exact hok
      · rw [afterSendOut, haborted, if_neg (by decide), if_pos hnone']
        exact hok hopen

/-- The application has acknowledged `n` bytes. -/
theorem Ok.of_appAck {n : Nat} (h : Ok p s up dn) (hclosed : s.client.clientClosed = false)
    (hsent : s.pcb.sent = true) (hn : 0 < n) (hle : n ≤ s.pcb.unacked.length) (r : TcpResults) :
    Ok p (clientSentFunc r n
      { s with pcb := { s.pcb with unacked := s.pcb.unacked.drop n } }) up dn := by
  cases hclient : h.client with
  | closed hclosed' => exact absurd (hclosed'.symm.trans hclosed) (by decide)
  | opened _ hrecv hsent' herr hwindow hexact hnotUp hpending hdrain hwaits =>
    have hup : s.client.socksUp = true := hsent'.symm.trans hsent
    have hpending' := hpending hup
    have hdealloc := h.dealloc_of_open (.inl hclosed)
    have hlen : n ≤ s.client.socksRecvTcpPending := by omega
    have hrest : s.client.socksRecvTcpPending - n = (s.pcb.unacked.drop n).length := by
      rw [List.length_drop, hpending']
    cases hdata : s.client.socksRecvBuf with
    -- data was held back, and there is room for it again
    | some data =>
      obtain ⟨hwaiting, hsent'', -⟩ := hwaits data hdata
      rw [clientSentFunc_some
        (s := { s with pcb := { s.pcb with unacked := s.pcb.unacked.drop n } })
        r hclosed hup hn hlen hdata hwaiting hsent'']
      -- the state in which `client_socks_recv_send_out` is called
      have hq : Queuing p { s with
          pcb := { s.pcb with unacked := s.pcb.unacked.drop n }
          client := { s.client with
            socksRecvTcpPending := s.client.socksRecvTcpPending - n
            socksRecvWaiting := false } } data up dn := by
        refine ⟨⟨h.fault, h.buf, h.fromApp, h.toApp, h.atEnd, h.noBuffer⟩, ?_, hclosed, hup,
          hdata, hsent'', rfl, hrecv, hsent, herr, hwindow, hexact, hrest, hdealloc⟩
        exact h.socks.congr ⟨rfl, rfl, rfl, rfl, rfl, id, rfl, rfl, List.Subset.refl _⟩
      have hout := hq.sentOut (clientSocksRecvSendOut_sentOut r hclosed hup hdata hsent'' rfl)
      unfold afterSent
      -- the write fails, takes a part, or takes everything
      obtain ⟨haborted, hok⟩ | ⟨haborted, hpos, hsame, ⟨hsome, hok⟩ | ⟨hnone, hdown, hup'⟩⟩ := hout
      · rw [if_pos haborted]
        exact hok
      · rw [haborted, if_neg (by decide), if_neg (fun hcond => hsome hcond.1),
          decide_eq_true hpos, assert_true]
        exact hok
      · rw [haborted, if_neg (by decide), decide_eq_true hpos, assert_true]
        -- everything was taken: SOCKS is asked for more unless it has ended
        cases hopen : s.client.socksClosed with
        | true =>
          rw [if_neg]
          · exact hdown hopen
          · rintro ⟨-, hopen'⟩
            rw [hsame] at hopen'
            simp [hopen] at hopen'
        | false =>
          rw [if_pos]
          · exact hup' hopen
          · refine ⟨hnone, ?_⟩
            rw [hsame]
            simp [hopen]
    -- nothing was held back
    | none =>
      rw [clientSentFunc_none
        (s := { s with pcb := { s.pcb with unacked := s.pcb.unacked.drop n } })
        r hclosed hup hn hlen hdata]
      have hheld : s.held = [] := by simp [held, hdata]
      have htoApp : s.toApp = dn := by rwa [hheld, List.append_nil] at hexact
      split
      · -- SOCKS has ended before, and this was the last of its data
        rename_i hlast
        obtain ⟨hclosed', hzero⟩ := hlast
        have hclosed' : s.client.socksClosed = true := hclosed'
        have hzero : s.client.socksRecvTcpPending - n = 0 := hzero
        have hunacked : s.pcb.unacked.drop n = [] := by
          rw [hrest] at hzero
          exact List.length_eq_zero_iff.mp hzero
        have hbase : Common { s with
            pcb := { s.pcb with unacked := s.pcb.unacked.drop n }
            client := { s.client with
              socksRecvTcpPending := s.client.socksRecvTcpPending - n } } up dn :=
          ⟨h.fault, h.buf, h.fromApp, h.toApp, h.atEnd, h.noBuffer⟩
        have hlogged := hbase.clientLog .removingAfterSocks (by decide) (by decide)
        have hcommon : Common (clientLog .removingAfterSocks { s with
            pcb := { s.pcb with unacked := s.pcb.unacked.drop n }
            client := { s.client with
              socksRecvTcpPending := s.client.socksRecvTcpPending - n } }).removeCallbacks up dn :=
          ⟨hlogged.fault, hlogged.buf, hlogged.fromApp, hlogged.toApp, hlogged.atEnd,
            hlogged.noBuffer⟩
        have hlog : s.log ⊆ s.log ++ [.removingAfterSocks] := List.subset_append_left ..
        cases h.socks with
        | shaking _ hopen | up _ hopen => exact absurd (hclosed'.symm.trans hopen) (by decide)
        | failed hup' => exact absurd (hup'.symm.trans hup) (by decide)
        | down _ _ _ _ hended =>
          refine Ok.of_freedClient hcommon (clientFreeClient_freed hclosed hdealloc)
            (h.socks.congr ⟨rfl, rfl, rfl, rfl, rfl, id, rfl, rfl, hlog⟩) hdealloc ?_
          obtain ⟨-, hended⟩ | hended := hended
          · exact .inr (hended.of_log hlog)
          · exact .inl ⟨htoApp, hunacked, hclosed', hended.of_log hlog⟩
      · -- either SOCKS is still open or more acknowledgements are to come
        rename_i hmore
        refine ⟨⟨h.fault, h.buf, h.fromApp, h.toApp, h.atEnd, h.noBuffer⟩, ?_, ?_, h.dealloc⟩
        · exact h.socks.congr ⟨rfl, rfl, rfl, rfl, rfl, id, rfl, rfl, List.Subset.refl _⟩
        · refine .opened hclosed hrecv hsent' herr hwindow hexact
            (fun hup' => absurd (hup'.symm.trans hup) (by decide)) (fun _ => hrest) ?_
            (fun data' hdata' => by
              have hsome : s.client.socksRecvBuf = some data' := hdata'
              rw [hdata] at hsome
              cases hsome)
          intro hclosed'
          refine ⟨hup, ?_⟩
          have hne : ¬(s.client.socksRecvTcpPending - n = 0) := fun hzero =>
            hmore ⟨hclosed', hzero⟩
          exact Nat.pos_of_ne_zero hne

/-! ## Every event -/

/-- tun2socks ends. -/
theorem Ok.clientMurder (h : Ok p s up dn) (hdealloc : s.dealloc = false) :
    Ok p s.clientMurder up dn := by
  -- each side is closed unless it was closed before
  have heq : s.clientMurder = { s with
      log := s.log ++ [.tearingDown]
      pcb := if s.client.clientClosed then s.pcb
        else { s.pcb with recv := false, sent := false, err := false }
      socks := if s.client.socksClosed then s.socks else s.socks.free
      client := { s.client with clientClosed := true, socksClosed := true }
      dealloc := true } := by
    obtain ⟨⟨clientClosed, _, _, socksClosed⟩⟩ := s
    dsimp only at hdealloc
    subst hdealloc
    cases clientClosed <;> cases socksClosed <;> rfl
  have hmem : LogMsg.tearingDown ∈ s.log ++ [.tearingDown] := by simp
  have hlogged := h.toCommon.clientLog .tearingDown (by decide) (by decide)
  rw [heq]
  refine ⟨⟨h.fault, h.buf, h.fromApp, h.toApp, hlogged.atEnd, hlogged.noBuffer⟩, ?_,
    .closed rfl (fun hopen => by cases hopen) (.inr ⟨.tearingDown, by simp, hmem⟩), rfl⟩
  -- the message that is logged explains the end of both sides
  cases hclosed : s.client.socksClosed with
  | false =>
    exact h.socks.of_freed hclosed rfl rfl rfl (h.socks.free hclosed) rfl rfl
      (.inr (.inr (.inr hmem)))
  | true =>
    cases h.socks with
    | shaking _ hopen | up _ hopen => exact absurd (hclosed.symm.trans hopen) (by decide)
    | failed hup _ hfreed honly hu hd hnone _ =>
      exact .failed hup rfl hfreed honly hu hd hnone (.inr (.inr (.inr hmem)))
    | down hup _ hfreed hcarries _ =>
      exact .down hup rfl hfreed (hcarries.congr rfl rfl) (.inr (.inr (.inr hmem)))

/-- The proxy sends or closes. -/
theorem Ok.of_down {down : Pipe UInt8} (h : Ok p s up dn)
    (hdown : LogMsg.socksClosed ∈ s.log → down.atEnd = true) : Ok p { s with down } up dn := by
  refine ⟨⟨h.fault, h.buf, h.fromApp, h.toApp, hdown, h.noBuffer⟩, ?_, ?_, h.dealloc⟩
  · exact h.socks.congr ⟨rfl, rfl, rfl, rfl, rfl, id, rfl, rfl, List.Subset.refl _⟩
  · exact h.client.congr rfl rfl rfl (List.Subset.refl _)

/-- Before SOCKS is up, the handshake goes on and nothing was carried. -/
theorem Ok.socks_of_control (h : Ok p s up dn) (hopen : s.client.socksClosed = false)
    (hup : s.client.socksUp = false) :
    Shaking p s.socks s.toServer s.fromServer ∧ up = [] ∧ dn = [] ∧
      s.client.socksRecvBuf = none := by
  cases h.socks with
  | shaking _ _ hshaking hu hd hnone => exact ⟨hshaking, hu, hd, hnone⟩
  | up hup' | down hup' => exact absurd (hup'.symm.trans hup) (by decide)
  | failed _ hclosed => exact absurd (hclosed.symm.trans hopen) (by decide)

/-- A handler of the handshake was called, after some bytes were written or read. -/
theorem Ok.of_handshake {w r : List UInt8} {down : Pipe UInt8}
    {result : BSocksClient × Option Event} (h : Ok p s up dn)
    (hopen : s.client.socksClosed = false) (hup : s.client.socksUp = false)
    (honly : OnlyHandshake p w) (hdown : LogMsg.socksClosed ∈ s.log → down.atEnd = true)
    (hout : Outcome p w r result) :
    Ok p (socksHandled { s with toServer := w, fromServer := r, down } result) [] [] := by
  obtain ⟨-, rfl, rfl, hnone⟩ := h.socks_of_control hopen hup
  have hcommon : Common { s with toServer := w, fromServer := r, down } [] [] :=
    ⟨h.fault, h.buf, h.fromApp, h.toApp, hdown, h.noBuffer⟩
  exact Ok.of_outcome hcommon (h.client.congr rfl rfl rfl (List.Subset.refl _)) hopen hup hnone
    honly (h.dealloc_of_open (.inr hopen)) hout

/-- Where SOCKS stands, by the interface of its connection that is used. -/
theorem Ok.shaking_of_control (h : Ok p s up dn)
    (hcontrol : s.socks.io = .control ∨ s.socks.sending ≠ []) :
    s.client.socksClosed = false ∧ s.client.socksUp = false := by
  cases h.socks with
  | shaking hup hopen => exact ⟨hopen, hup⟩
  | up _ _ hsocks =>
    obtain hio | hsending := hcontrol
    · exact absurd (hsocks.io.symm.trans hio) (by decide)
    · exact absurd hsocks.sending hsending
  | failed _ _ hfreed | down _ _ hfreed =>
    obtain hio | hsending := hcontrol
    · exact absurd (hfreed.io.symm.trans hio) (by decide)
    · exact absurd hfreed.sending hsending

/-- A read that returns something shows that the stream had not ended. -/
theorem Ok.read_atEnd {data : List UInt8} {down : Pipe UInt8} {n : Nat} (h : Ok p s up dn)
    (hread : s.down.read n = some (data, down)) (hmem : LogMsg.socksClosed ∈ s.log) :
    down.atEnd = true := by
  have hempty := (Pipe.atEnd_iff.mp (h.atEnd hmem)).1
  rw [Pipe.read_of_nil hempty] at hread
  cases hread

/-- Every event keeps the invariant. -/
theorem Ok.step {a : Action} (h : Ok p s up dn) (hstep : s.step p a = some t) :
    ∃ up dn, Ok p t up dn := by
  cases a with
  -- a connection can only be established before the handshake
  | connector isError conInit alloc =>
    rw [Relay.step, Option.ite_none_left_eq_some] at hstep
    obtain ⟨hcond, hstep⟩ := hstep
    cases hstep
    rw [not_or, not_not] at hcond
    have hopen : s.client.socksClosed = false := by simpa using hcond.1
    have hup : s.client.socksUp = false := by
      cases h.socks with
      | shaking hup | failed hup => exact hup
      | up _ _ hsocks => exact absurd (hsocks.state.symm.trans hcond.2) (by decide)
      | down _ hclosed => exact absurd (hclosed.symm.trans hopen) (by decide)
    have hshaking := (h.socks_of_control hopen hup).1
    exact ⟨[], [], h.of_handshake hopen hup (.of_shaking hshaking) h.atEnd
      (hshaking.connector hcond.2 isError conInit alloc)⟩
  -- while the control transfer is under way, the handshake is too
  | controlWrite n alloc =>
    rw [Relay.step, Option.ite_none_left_eq_some] at hstep
    obtain ⟨hcond, hstep⟩ := hstep
    cases hstep
    have hn : 0 < n ∧ n ≤ s.socks.sending.length := by omega
    have hne : s.socks.sending ≠ [] := List.length_pos_iff.mp (by omega)
    obtain ⟨hopen, hup⟩ := h.shaking_of_control (.inr hne)
    have hshaking := (h.socks_of_control hopen hup).1
    exact ⟨[], [], h.of_handshake hopen hup (.of_write hshaking n) h.atEnd
      (hshaking.controlWritten hn.1 hn.2 alloc)⟩
  | controlRead n alloc =>
    rw [Relay.step, Option.ite_none_left_eq_some] at hstep
    obtain ⟨hio, hstep⟩ := hstep
    obtain ⟨⟨data, down⟩, hread, rfl⟩ := Option.map_eq_some_iff.mp hstep
    obtain ⟨hopen, hup⟩ := h.shaking_of_control (.inl (not_not.mp hio))
    have hshaking := (h.socks_of_control hopen hup).1
    obtain ⟨-, hne, hlen, -⟩ := Pipe.read_eq_some hread
    exact ⟨[], [], h.of_handshake hopen hup (.of_shaking hshaking) (h.read_atEnd hread)
      (hshaking.recvHandlerDone hne (by omega) alloc)⟩
  -- from here on the handshake is over: only the side that is up has offered or asked for data
  | upWrite n =>
    rw [Relay.step, Option.ite_none_left_eq_some] at hstep
    obtain ⟨hcond, hstep⟩ := hstep
    cases hstep
    exact ⟨_, _, h.of_upWrite (by omega) (by omega)⟩
  | upRead n r =>
    rw [Relay.step, Option.ite_none_left_eq_some] at hstep
    obtain ⟨hio, hstep⟩ := hstep
    obtain ⟨⟨data, down⟩, hread, rfl⟩ := Option.map_eq_some_iff.mp hstep
    obtain ⟨-, hne, hlen, -⟩ := Pipe.read_eq_some hread
    exact ⟨_, _, h.of_upRead (not_not.mp hio) hne (by omega) (h.read_atEnd hread) r⟩
  -- a close is reported only with the pipe at its end, an error at any time
  | recvClosed =>
    rw [Relay.step, Option.ite_none_left_eq_some] at hstep
    obtain ⟨hcond, hstep⟩ := hstep
    cases hstep
    rw [not_or] at hcond
    have hcon : s.socks.con = true := by
      cases h.socks with
      | shaking _ _ hshaking => exact hshaking.con_of_wanted hcond.1
      | up _ _ hsocks => exact hsocks.con
      | failed _ _ hfreed | down _ _ hfreed => exact absurd hfreed.wanted hcond.1
    exact ⟨up, dn, h.connectionHandler hcon true (fun _ => by simpa using hcond.2)⟩
  | ioError =>
    rw [Relay.step, Option.ite_none_left_eq_some] at hstep
    obtain ⟨hcond, hstep⟩ := hstep
    cases hstep
    exact ⟨up, dn, h.connectionHandler (by simpa using hcond) false (fun hcond => by cases hcond)⟩
  -- a stream whose end was reported stays ended
  | serverSend bytes =>
    rw [Relay.step, Option.ite_none_left_eq_some] at hstep
    obtain ⟨hopen, hstep⟩ := hstep
    cases hstep
    refine ⟨up, dn, h.of_down ?_⟩
    intro hmem
    exact absurd (Pipe.atEnd_iff.mp (h.atEnd hmem)).2 hopen
  | serverClose =>
    rw [Relay.step, Option.ite_none_left_eq_some] at hstep
    obtain ⟨hopen, hstep⟩ := hstep
    cases hstep
    refine ⟨up, dn, h.of_down ?_⟩
    intro hmem
    exact absurd (Pipe.atEnd_iff.mp (h.atEnd hmem)).2 hopen
  -- without the callback lwIP drops the data
  | appSend bytes =>
    rw [Relay.step, Option.ite_none_left_eq_some] at hstep
    obtain ⟨hcond, hstep⟩ := hstep
    rw [not_or, not_or] at hcond
    obtain ⟨hclosed, hne, hlen⟩ := hcond
    split at hstep
    · rename_i hrecv
      cases hstep
      exact ⟨up, dn, h.of_appSends (by simpa using hclosed) hrecv hne (by omega)⟩
    · cases hstep
      exact ⟨up, dn, h⟩
  | appClose =>
    rw [Relay.step, Option.ite_none_left_eq_some] at hstep
    obtain ⟨hcond, hstep⟩ := hstep
    have hclosed : s.client.clientClosed = false := by simpa using hcond
    have hdealloc := h.dealloc_of_open (.inl hclosed)
    split at hstep
    · cases hstep
      have heq : s.clientRecvClosed = (s.clientLog .clientClosed).clientFreeClient := by
        simp [clientRecvClosed, hclosed]
      rw [heq]
      exact ⟨up, dn, Ok.of_clientEnds h.toCommon h.socks hdealloc (by simp)
        (clientFreeClient_freed hclosed hdealloc)⟩
    · cases hstep
      exact ⟨up, dn, h⟩
  | appError =>
    rw [Relay.step, Option.ite_none_left_eq_some] at hstep
    obtain ⟨hcond, hstep⟩ := hstep
    have hclosed : s.client.clientClosed = false := by simpa using hcond
    have hdealloc := h.dealloc_of_open (.inl hclosed)
    split at hstep
    · cases hstep
      have heq : s.clientErrFunc =
          (s.clientLog .clientError).removeCallbacks.clientHandleFreedClient := by
        simp [clientErrFunc, hclosed]
      rw [heq]
      exact ⟨up, dn, Ok.of_clientEnds h.toCommon h.socks hdealloc (by simp)
        (clientHandleFreedClient_freed hclosed hdealloc)⟩
    · cases hstep
      exact ⟨up, dn, h⟩
  -- the callback is set while anything is unacknowledged, so that no acknowledgement is lost
  | appAck n r =>
    rw [Relay.step, Option.ite_none_left_eq_some] at hstep
    obtain ⟨hcond, hstep⟩ := hstep
    rw [not_or, not_or] at hcond
    obtain ⟨hclosed, hn, hlen⟩ := hcond
    have hclosed : s.client.clientClosed = false := by simpa using hclosed
    have hsent : s.pcb.sent = true := by
      cases h.client with
      | closed hclosed' => exact absurd (hclosed'.symm.trans hclosed) (by decide)
      | opened _ _ hsent _ _ _ hnotUp =>
        rw [hsent]
        -- nothing was sent to the application before SOCKS came up
        by_contra hup
        have hunacked := (hnotUp (by simpa using hup)).2
        rw [hunacked, List.length_nil] at hlen
        omega
    dsimp only at hstep
    rw [if_pos hsent] at hstep
    cases hstep
    exact ⟨up, dn, h.of_appAck hclosed hsent (by omega) (by omega) r⟩
  | murder =>
    rw [Relay.step, Option.ite_none_left_eq_some] at hstep
    obtain ⟨hcond, hstep⟩ := hstep
    cases hstep
    exact ⟨up, dn, h.clientMurder (by simpa using hcond)⟩

/-- The invariant holds in every run. -/
theorem Ok.of_reachable {tr : List Empty} (h : (machine p).Reachable s tr) :
    ∃ up dn, Ok p s up dn := by
  refine h.inv (P := fun s _ => ∃ up dn, Ok p s up dn) ⟨[], [], Ok.init p⟩ ?_
  intro s tr a s' o hok _ hstep
  obtain ⟨up, dn, hok⟩ := hok
  obtain ⟨s'', hstep', heq⟩ := Option.map_eq_some_iff.mp hstep
  cases heq
  exact hok.step hstep'

end Relay

end OpenFlux
