import Mathlib.Order.Nat
import OpenFlux.Spec.TcpClientStreams

/-!
# What a TCP connection through tun2socks delivers

## Key results

- `never_faults`: no `ASSERT` fails, nothing is written outside a buffer, nothing is freed
  twice, and the buffer for the application's data is never too small
- `streams_unchanged`: both directions are carried byte for byte, behind exactly one handshake
- `upload_complete`, `download_complete`: what arrives when a connection ends
- `events_come_to_rest`: nothing is left waiting inside tun2socks
-/

namespace OpenFlux

open BSocksClient (Event Params Authenticates Handshake Shaking Freed Outcome)

namespace Relay

variable {p : Params} {s t : Relay} {up dn : List UInt8}

instance (s : Relay) : Decidable s.ClientEnded :=
  inferInstanceAs (Decidable (∃ msg ∈ _, msg ∈ s.log))

instance (s : Relay) : Decidable s.SocksEnded := inferInstanceAs (Decidable (_ ∨ _ ∨ _))

/-- A connection to port 80 of 1.2.3.4, with a proxy that asks for a password. -/
def demoParams : Params where
  authInfo := [.none, .password [117] [112, 119]]
  destAddr := .ipv4 #v[1, 2, 3, 4] #v[0, 80]

/-- The application sends three bytes and SOCKS comes up, with two bytes behind the reply. -/
def untilUp : List Action :=
  [.appSend [71, 69, 84], .connector false true true, .controlWrite 4 true,
    .serverSend [5, 2], .controlRead 1 true, .controlRead 1 true,
    .controlWrite 2 true, .controlWrite 4 true, .serverSend [1, 0], .controlRead 2 true,
    .controlWrite 10 true, .serverSend [5, 0, 0, 1, 127, 0, 0, 1, 31, 144, 79, 75],
    .controlRead 4 true, .controlRead 6 true]

/-! ## Safety -/

/-- The SOCKS client has not failed an assertion. -/
theorem SocksSide.fault (h : SocksSide p s up dn) : s.socks.fault = false := by
  cases h with
  | shaking _ _ hshaking => exact hshaking.fault
  | up _ _ hsocks => exact hsocks.fault
  | failed _ _ hfreed | down _ _ hfreed => exact hfreed.fault

/-- In every run of a client, with any proxy, application and lwIP, no `ASSERT` of
    `tun2socks.c` or `BSocksClient.c` fails, no write leaves its buffer, no resource is freed
    twice or left when the client is freed, and there is always room for the data that the
    window admits. -/
theorem never_faults {tr : List Empty} (h : (machine p).Reachable s tr) :
    s.fault = false ∧ s.socks.fault = false ∧ s.client.buf.length ≤ tcpWnd ∧
      LogMsg.noBuffer ∉ s.log ∧ (s.dealloc = true → Freed s.socks) := by
  obtain ⟨up, dn, hok⟩ := Ok.of_reachable h
  refine ⟨hok.fault, hok.socks.fault, hok.buf, hok.noBuffer, ?_⟩
  intro hdealloc
  rw [hok.dealloc, Bool.and_eq_true] at hdealloc
  cases hok.socks with
  | shaking _ hopen | up _ hopen => exact absurd (hdealloc.2.symm.trans hopen) (by decide)
  | failed _ _ hfreed | down _ _ hfreed => exact hfreed

/-- `never_faults` when SOCKS has just come up. -/
theorem never_faults_untilUp :
    ∃ s tr, (machine demoParams).Reachable s tr ∧ s.client.socksUp = true ∧
      s.fault = false ∧ s.socks.fault = false := by
  obtain ⟨s, tr, hrun, hpred⟩ := Machine.exists_reach (machine demoParams) (fun _ _ => True)
    (fun s _ => s.client.socksUp) untilUp (by decide +kernel)
  have hnever := never_faults hrun
  exact ⟨s, tr, hrun, hpred, hnever.1, hnever.2.1⟩

/-! ## Both directions -/

/-- Before SOCKS is up nothing but the handshake is written and nothing reaches the
    application.  Then the proxy has sent exactly one acceptable answer to the handshake; what
    is written behind the handshake and what is still in the buffer is what the application has
    sent, and the application is sent what the proxy has sent behind its answer. -/
theorem streams_unchanged {tr : List Empty} (h : (machine p).Reachable s tr) :
    (s.client.socksUp = false → OnlyHandshake p s.toServer ∧ s.toApp = []) ∧
    (s.client.socksUp = true → ∃ w r up dn, Handshake p w r ∧
      (∀ w' r', Handshake p w' r' → r' <+: s.fromServer ++ s.down.queue → r' = r) ∧
      s.toServer = w ++ up ∧ s.fromApp = up ++ s.client.buf ∧
      s.fromServer = r ++ dn ∧ s.toApp ++ s.held <+: dn ∧
      (s.client.clientClosed = false → s.toApp ++ s.held = dn)) := by
  obtain ⟨up, dn, hok⟩ := Ok.of_reachable h
  constructor
  · intro hup
    -- before the client is up nothing was read for it
    have hnil : s.toApp ++ s.held <+: [] → s.toApp = [] := by
      intro hpre
      exact (List.append_eq_nil_iff.mp (List.prefix_nil.mp hpre)).1
    have htoApp := hok.toApp
    cases hok.socks with
    | shaking _ _ hshaking _ hd =>
      subst hd
      exact ⟨.of_shaking hshaking, hnil htoApp⟩
    | failed _ _ _ honly _ hd =>
      subst hd
      exact ⟨honly, hnil htoApp⟩
    | up hup' | down hup' => exact absurd (hup'.symm.trans hup) (by decide)
  · intro hup
    -- a client that is or was up carries its streams behind a handshake
    have hcarries : Carries p s up dn := by
      cases hok.socks with
      | shaking hup' | failed hup' => exact absurd (hup'.symm.trans hup) (by decide)
      | up _ _ _ _ _ _ _ _ hcarries => exact hcarries
      | down _ _ _ hcarries => exact hcarries
    obtain ⟨w, r, hhandshake, hw, hr⟩ := hcarries.handshake
    refine ⟨w, r, up, dn, hhandshake, ?_, hw, hok.fromApp, hr, hok.toApp, ?_⟩
    · intro w' r' hhandshake' hpre
      -- two complete answers at the start of one stream are the same
      have hpre' : r <+: s.fromServer ++ s.down.queue := by
        rw [hr, List.append_assoc]
        exact List.prefix_append _ _
      exact hhandshake'.unique hhandshake hpre hpre'
    · -- only a closed client can have dropped something
      intro hclosed
      cases hok.client with
      | opened _ _ _ _ _ hexact => exact hexact
      | closed hclosed' => exact absurd (hclosed'.symm.trans hclosed) (by decide)

/-- Two of three bytes were written and one of two was read. -/
theorem streams_unchanged_untilUp :
    ∃ s tr, (machine demoParams).Reachable s tr ∧ s.fromApp = [71, 69, 84] ∧
      ∃ w r up dn, Handshake demoParams w r ∧ s.toServer = w ++ up ∧
        [71, 69, 84] = up ++ s.client.buf ∧ s.fromServer = r ++ dn ∧ s.toApp ++ s.held = dn := by
  obtain ⟨s, tr, hrun, hpred⟩ := Machine.exists_reach (machine demoParams) (fun _ _ => True)
    (fun s _ => decide (s.client.socksUp = true ∧ s.client.clientClosed = false ∧
      s.fromApp = [71, 69, 84]))
    (untilUp ++ [.upWrite 2, .upRead 1 {}]) (by decide +kernel)
  obtain ⟨hup, hopen, hfromApp⟩ := of_decide_eq_true hpred
  obtain ⟨w, r, up, dn, hhandshake, -, hw, happ, hr, -, hexact⟩ := (streams_unchanged hrun).2 hup
  exact ⟨s, tr, hrun, hfromApp, w, r, up, dn, hhandshake, hw, hfromApp ▸ happ, hr, hexact hopen⟩

/-! ## The end of a connection -/

/-- If SOCKS ends and has reported neither an error nor a close, then it was sent everything
    that the application has sent. -/
theorem upload_complete {tr : List Empty} (h : (machine p).Reachable s tr)
    (hup : s.client.socksUp = true) (hclosed : s.client.socksClosed = true)
    (hended : ¬ s.SocksEnded) : ∃ w r, Handshake p w r ∧ s.toServer = w ++ s.fromApp := by
  obtain ⟨up, dn, hok⟩ := Ok.of_reachable h
  cases hok.socks with
  | shaking hup' | failed hup' => exact absurd (hup'.symm.trans hup) (by decide)
  | up _ hopen => exact absurd (hclosed.symm.trans hopen) (by decide)
  | down _ _ _ hcarries hended' =>
    obtain ⟨w, r, hhandshake, hw, -⟩ := hcarries.handshake
    -- with an empty buffer everything was written
    obtain ⟨hbuf, -⟩ | hended' := hended'
    · have hfromApp := hok.fromApp
      rw [hbuf, List.append_nil] at hfromApp
      exact ⟨w, r, hhandshake, hfromApp ▸ hw⟩
    · exact absurd hended' hended

/-- The application closes before everything was written. -/
theorem upload_complete_appClose :
    ∃ s tr, (machine demoParams).Reachable s tr ∧ s.client.clientClosed = true ∧
      ∃ w r, Handshake demoParams w r ∧ s.toServer = w ++ [71, 69, 84] := by
  obtain ⟨s, tr, hrun, hpred⟩ := Machine.exists_reach (machine demoParams) (fun _ _ => True)
    (fun s _ => decide (s.client.socksUp = true ∧ s.client.socksClosed = true ∧ ¬ s.SocksEnded ∧
      s.client.clientClosed = true ∧ s.fromApp = [71, 69, 84]))
    (untilUp ++ [.upWrite 2, .appClose, .upWrite 1]) (by decide +kernel)
  obtain ⟨hup, hclosed, hended, hclient, hfromApp⟩ := of_decide_eq_true hpred
  have hcomplete := upload_complete hrun hup hclosed hended
  rw [hfromApp] at hcomplete
  exact ⟨s, tr, hrun, hclient, hcomplete⟩

/-- If the connection to the application ends and neither the application, nor lwIP, nor an
    error of SOCKS has ended it, then the proxy has closed its stream, and the application has
    acknowledged all of it behind the handshake. -/
theorem download_complete {tr : List Empty} (h : (machine p).Reachable s tr)
    (hup : s.client.socksUp = true) (hclosed : s.client.clientClosed = true)
    (hended : ¬ s.ClientEnded) (herror : LogMsg.socksError ∉ s.log) :
    ∃ w r, Handshake p w r ∧ s.fromServer = r ++ s.toApp ∧ s.pcb.unacked = [] ∧
      s.down.atEnd = true := by
  obtain ⟨up, dn, hok⟩ := Ok.of_reachable h
  cases hok.client with
  | opened hopen => exact absurd (hclosed.symm.trans hopen) (by decide)
  | closed _ _ hended' =>
    obtain hdelivered | hended' := hended'
    · -- the client was closed because everything was delivered, so SOCKS has ended before
      have hcarries : Carries p s up dn := by
        cases hok.socks with
        | shaking hup' | failed hup' => exact absurd (hup'.symm.trans hup) (by decide)
        | up _ hopen => exact absurd (hdelivered.socksClosed.symm.trans hopen) (by decide)
        | down _ _ _ hcarries => exact hcarries
      obtain ⟨w, r, hhandshake, -, hr⟩ := hcarries.handshake
      refine ⟨w, r, hhandshake, by rw [hdelivered.toApp, hr], hdelivered.unacked, ?_⟩
      -- of the ends of SOCKS only the orderly one is left
      obtain hmem | hmem | hmem := hdelivered.socksEnded
      · exact absurd hmem herror
      · exact hok.atEnd hmem
      · exact absurd ⟨.tearingDown, by simp, hmem⟩ hended
    · exact absurd hended' hended

/-- The proxy closes before everything was acknowledged. -/
theorem download_complete_serverClose :
    ∃ s tr, (machine demoParams).Reachable s tr ∧ s.toApp = [79, 75] ∧
      ∃ w r, Handshake demoParams w r ∧ s.fromServer = r ++ [79, 75] ∧ s.pcb.unacked = [] := by
  obtain ⟨s, tr, hrun, hpred⟩ := Machine.exists_reach (machine demoParams) (fun _ _ => True)
    (fun s _ => decide (s.client.socksUp = true ∧ s.client.clientClosed = true ∧
      ¬ s.ClientEnded ∧ LogMsg.socksError ∉ s.log ∧ s.toApp = [79, 75]))
    (untilUp ++ [.upWrite 3, .upRead 2 {}, .serverClose, .appAck 1 {}, .recvClosed, .appAck 1 {}])
    (by decide +kernel)
  obtain ⟨hup, hclosed, hended, herror, htoApp⟩ := of_decide_eq_true hpred
  obtain ⟨w, r, hhandshake, hr, hunacked, -⟩ := download_complete hrun hup hclosed hended herror
  exact ⟨s, tr, hrun, htoApp, w, r, hhandshake, htoApp ▸ hr, hunacked⟩

/-! ## What the handlers leave alone -/

/-- Nothing was written to or read from the proxy, nothing taken from the application and
    nothing acknowledged by it, and SOCKS was not opened again. -/
structure Kept (s t : Relay) : Prop where
  down : t.down = s.down
  fromApp : t.fromApp = s.fromApp
  toServer : t.toServer = s.toServer
  fromServer : t.fromServer = s.fromServer
  acked : t.toApp.length + s.pcb.unacked.length = s.toApp.length + t.pcb.unacked.length
  socksClosed : s.client.socksClosed = true → t.client.socksClosed = true

/-- Nothing changes if nothing is done. -/
theorem Kept.refl (s : Relay) : Kept s s := ⟨rfl, rfl, rfl, rfl, rfl, id⟩

/-- Two handlers in a row. -/
theorem Kept.trans {s₁ s₂ s₃ : Relay} (h : Kept s₁ s₂) (h' : Kept s₂ s₃) : Kept s₁ s₃ := by
  refine ⟨h'.down.trans h.down, h'.fromApp.trans h.fromApp, h'.toServer.trans h.toServer,
    h'.fromServer.trans h.fromServer, ?_, fun hclosed => h'.socksClosed (h.socksClosed hclosed)⟩
  have hacked := h.acked
  have hacked' := h'.acked
  omega

/-- Either branch of a handler. -/
theorem Kept.ite {c : Prop} [Decidable c] {s₁ s₂ s₃ : Relay} (h : Kept s₁ s₂) (h' : Kept s₁ s₃) :
    Kept s₁ (if c then s₂ else s₃) := by
  split
  · exact h
  · exact h'

/-- An assertion moves no byte. -/
theorem kept_assert (s : Relay) (c : Bool) : Kept s (s.assert c) := by
  unfold assert
  exact .ite (.refl s) ⟨rfl, rfl, rfl, rfl, rfl, id⟩

/-- A message moves no byte. -/
theorem kept_clientLog (s : Relay) (msg : LogMsg) : Kept s (s.clientLog msg) :=
  ⟨rfl, rfl, rfl, rfl, rfl, id⟩

/-- `client_dealloc` moves no byte. -/
theorem kept_clientDealloc (s : Relay) : Kept s s.clientDealloc :=
  (kept_assert s _).trans ⟨rfl, rfl, rfl, rfl, rfl, id⟩

/-- The end of SOCKS moves no byte. -/
theorem kept_closeSocks (s : Relay) : Kept s s.closeSocks :=
  ⟨rfl, rfl, rfl, rfl, rfl, fun _ => rfl⟩

/-- `client_handle_freed_client`, `client_free_client` and `client_free_socks` call each
    other, so they are done together. -/
theorem kept_aux (depth : Nat) (s : Relay) : Kept s (handleFreedClientAux depth s) ∧
    Kept s (freeClientAux depth s) ∧ Kept s (freeSocksAux depth s) := by
  induction depth generalizing s with
  | zero =>
    refine ⟨?_, ?_, ?_⟩ <;>
    · simp only [handleFreedClientAux, freeClientAux, freeSocksAux]
      exact ⟨rfl, rfl, rfl, rfl, rfl, id⟩
  | succ depth ih =>
    refine ⟨?_, ?_, ?_⟩
    · -- `client_handle_freed_client`
      rw [handleFreedClientAux]
      refine (kept_assert s (!s.client.clientClosed)).trans ?_
      generalize s.assert (!s.client.clientClosed) = s₁
      have hclosed : Kept s₁ s₁.closeClient := ⟨rfl, rfl, rfl, rfl, rfl, id⟩
      refine hclosed.trans ?_
      exact .ite (kept_clientLog _ _) (.ite (ih _).2.2 (kept_clientDealloc _))
    · -- `client_free_client`
      rw [freeClientAux]
      have hremove : ∀ s : Relay, Kept s s.removeCallbacks :=
        fun _ => ⟨rfl, rfl, rfl, rfl, rfl, id⟩
      exact ((kept_assert s _).trans (hremove _)).trans (ih _).1
    · -- `client_free_socks`
      rw [freeSocksAux]
      refine (kept_assert s (!s.client.socksClosed)).trans ?_
      generalize s.assert (!s.client.socksClosed) = s₁
      have hrecv : Kept s₁ (if s₁.client.socksUp ∧ !s₁.client.clientClosed then
          { s₁ with pcb := { s₁.pcb with recv := false } } else s₁) :=
        .ite ⟨rfl, rfl, rfl, rfl, rfl, id⟩ (.refl s₁)
      have hend : Kept s₁ s₁.endSocks := hrecv.trans (kept_closeSocks _)
      refine hend.trans ?_
      exact .ite (kept_clientLog _ _) (.ite (ih _).2.1 (kept_clientDealloc _))

/-- `client_free_socks` moves no byte. -/
theorem kept_clientFreeSocks (s : Relay) : Kept s s.clientFreeSocks := (kept_aux 3 s).2.2

/-- `client_free_client` moves no byte. -/
theorem kept_clientFreeClient (s : Relay) : Kept s s.clientFreeClient := (kept_aux 3 s).2.1

/-- What is offered to SOCKS is not written yet. -/
theorem kept_senderSend (s : Relay) : Kept s s.senderSend :=
  (kept_assert s _).trans ⟨rfl, rfl, rfl, rfl, rfl, id⟩

/-- The same for `client_send_to_socks`. -/
theorem kept_clientSendToSocks (s : Relay) : Kept s s.clientSendToSocks :=
  (kept_assert s _).trans (kept_senderSend _)

/-- A buffer that is offered for reading has got nothing yet. -/
theorem kept_clientSocksRecvInitiate (s : Relay) : Kept s s.clientSocksRecvInitiate :=
  ((kept_assert s _).trans (kept_assert _ _)).trans ⟨rfl, rfl, rfl, rfl, rfl, id⟩

/-- `client_socks_handler`, for any event -/
theorem kept_clientSocksHandler (s : Relay) (event : Event) :
    Kept s (s.clientSocksHandler event) := by
  unfold clientSocksHandler
  refine (kept_assert s (!s.client.socksClosed)).trans ?_
  generalize s.assert (!s.client.socksClosed) = s₁
  cases event with
  | error => exact (kept_clientLog s₁ _).trans (kept_clientFreeSocks _)
  | errorClosed =>
    exact ((kept_assert s₁ _).trans (kept_clientLog _ _)).trans (kept_clientFreeSocks _)
  -- the assignments of the `up` branch, one after the other
  | up =>
    have hlog := (kept_assert s₁ (!s₁.client.socksUp)).trans (kept_clientLog _ .socksUp)
    have hup : ∀ s : Relay, Kept s { s with client := { s.client with
        socksRecvBuf := none, socksRecvTcpPending := 0, socksUp := true } } :=
      fun _ => ⟨rfl, rfl, rfl, rfl, rfl, id⟩
    have hsent : ∀ s : Relay, Kept s
        (if !s.client.clientClosed then { s with pcb := { s.pcb with sent := true } } else s) :=
      fun s => .ite ⟨rfl, rfl, rfl, rfl, rfl, id⟩ (.refl s)
    have hsend : ∀ s : Relay, Kept s (if s.client.buf ≠ [] then s.clientSendToSocks else s) :=
      fun s => .ite (kept_clientSendToSocks s) (.refl s)
    have hrecv : ∀ s : Relay, Kept s
        (if !s.client.clientClosed then s.clientSocksRecvInitiate else s) :=
      fun s => .ite (kept_clientSocksRecvInitiate s) (.refl s)
    exact (((hlog.trans (hup _)).trans (hsent _)).trans (hsend _)).trans (hrecv _)

/-- A handler of the SOCKS client, with the event that it reports. -/
theorem kept_socksHandled (s : Relay) (result : BSocksClient × Option Event) :
    Kept s (s.socksHandled result) := by
  obtain ⟨o, event⟩ := result
  have hsocks : Kept s { s with socks := o } := ⟨rfl, rfl, rfl, rfl, rfl, id⟩
  cases event with
  | none => exact hsocks
  | some event => exact hsocks.trans (kept_clientSocksHandler _ event)

/-- `client_free_socks` closes SOCKS, whatever it does behind that. -/
theorem socksClosed_clientFreeSocks (s : Relay) : s.clientFreeSocks.client.socksClosed = true := by
  have hkept : Kept (s.assert (!s.client.socksClosed)).endSocks s.clientFreeSocks := by
    rw [clientFreeSocks, freeSocksAux]
    exact .ite (kept_clientLog _ _) (.ite (kept_aux 2 _).2.1 (kept_clientDealloc _))
  exact hkept.socksClosed rfl

/-- An error or the end of the connection closes SOCKS, too. -/
theorem socksClosed_connectionHandler (s : Relay) (recvClosed : Bool) :
    (s.socksHandled (s.socks.connectionHandler recvClosed)).client.socksClosed = true := by
  unfold BSocksClient.connectionHandler
  dsimp only
  split <;> exact socksClosed_clientFreeSocks _

/-- `client_socks_send_handler_done` runs after the bytes were written. -/
theorem kept_clientSocksSendHandlerDone (s : Relay) (n : Nat) :
    Kept s (s.clientSocksSendHandlerDone n) := by
  unfold clientSocksSendHandlerDone
  -- one fact for each statement of the handler
  have hdrop : ∀ s : Relay,
      Kept s { s with client := { s.client with buf := s.client.buf.drop n } } :=
    fun _ => ⟨rfl, rfl, rfl, rfl, rfl, id⟩
  have hrecved : ∀ s : Relay, Kept s (if !s.client.clientClosed then s.tcpRecved n else s) :=
    fun s => .ite ⟨rfl, rfl, rfl, rfl, rfl, id⟩ (.refl s)
  have hdone : ∀ s : Relay, Kept s (if s.client.buf ≠ [] then s.senderSend
      else if s.client.clientClosed then (s.clientLog .removingAfterClient).clientFreeSocks
      else s) :=
    fun s => .ite (kept_senderSend s)
      (.ite ((kept_clientLog s _).trans (kept_clientFreeSocks _)) (.refl s))
  exact (((kept_assert s _).trans (hdrop _)).trans (hrecved _)).trans (hdone _)

/-- What is queued for the application is not acknowledged. -/
theorem kept_tcpWrite (s : Relay) (data : List UInt8) (n : Nat) : Kept s (s.tcpWrite data n) := by
  refine ⟨rfl, rfl, rfl, rfl, ?_, id⟩
  simp only [tcpWrite, List.length_append]
  omega

/-- The loop of `client_socks_recv_send_out`, by induction on its rounds. -/
theorem kept_writeLoop (s : Relay) (data : List UInt8) (fuel : Nat) (writes : List Err) :
    Kept s (writeLoop data fuel writes s).1 := by
  induction fuel generalizing s writes with
  | zero => exact .refl s
  | succ fuel ih =>
    rw [writeLoop]
    -- all is written, lwIP has no room, it fails, or it takes a part and the loop goes on
    split
    · exact .refl s
    split
    · exact .refl s
    · exact (kept_clientLog s _).trans (kept_clientFreeClient _)
    · dsimp only
      split
      · exact (kept_tcpWrite s data _).trans (ih _ _)
      · exact kept_tcpWrite s data _

/-- `client_socks_recv_send_out` -/
theorem kept_clientSocksRecvSendOut (s : Relay) (r : TcpResults) :
    Kept s (s.clientSocksRecvSendOut r).1 := by
  unfold clientSocksRecvSendOut
  extract_lets data s₁
  have hassert : Kept s s₁ := kept_assert s _
  refine hassert.trans ?_
  have hloop := kept_writeLoop s₁ data data.length r.writes
  -- every failure aborts the client
  have habort : ∀ (s : Relay) (msg : LogMsg), Kept s (s.clientLog msg).clientAbortClient :=
    fun s msg => (kept_clientLog s msg).trans (kept_clientFreeClient _)
  dsimp only
  split
  · exact hloop
  split
  · exact hloop.trans (habort _ _)
  split
  · split
    · exact hloop.trans (habort _ _)
    · exact hloop.trans ⟨rfl, rfl, rfl, rfl, rfl, id⟩
  · exact hloop.trans ⟨rfl, rfl, rfl, rfl, rfl, id⟩

/-- `client_socks_recv_handler_done` runs after the bytes were read. -/
theorem kept_clientSocksRecvHandlerDone (s : Relay) (r : TcpResults) (data : List UInt8) :
    Kept s (s.clientSocksRecvHandlerDone r data) := by
  unfold clientSocksRecvHandlerDone
  have hstore : ∀ s : Relay, Kept s { s with client := { s.client with
      socksRecvBuf := some data, socksRecvBufSent := 0, socksRecvWaiting := false } } :=
    fun _ => ⟨rfl, rfl, rfl, rfl, rfl, id⟩
  have hrecv : ∀ s : Relay, Kept s
      (if s.client.socksRecvBuf = none then s.clientSocksRecvInitiate else s) :=
    fun s => .ite (kept_clientSocksRecvInitiate s) (.refl s)
  extract_lets s₁ _ s₂
  have hassert : Kept s s₁ := kept_assert s _
  have hout := kept_clientSocksRecvSendOut s₂ r
  have hstored : Kept s₁ s₂ := hstore s₁
  exact hassert.trans (.ite (.refl _) (hstored.trans (.ite hout (hout.trans (hrecv _)))))

/-- `client_sent_func` runs after the bytes were acknowledged. -/
theorem kept_clientSentFunc (s : Relay) (r : TcpResults) (len : Nat) :
    Kept s (s.clientSentFunc r len) := by
  -- the assignments to the client do not concern the streams
  have hpending : ∀ s : Relay, Kept s { s with client := { s.client with
      socksRecvTcpPending := s.client.socksRecvTcpPending - len } } :=
    fun _ => ⟨rfl, rfl, rfl, rfl, rfl, id⟩
  have hwaiting : ∀ s : Relay, Kept s { s with client := { s.client with
      socksRecvWaiting := false } } :=
    fun _ => ⟨rfl, rfl, rfl, rfl, rfl, id⟩
  have hrecv : ∀ s : Relay, Kept s (if s.client.socksRecvBuf = none ∧ !s.client.socksClosed then
      s.clientSocksRecvInitiate else s) :=
    fun s => .ite (kept_clientSocksRecvInitiate s) (.refl s)
  unfold clientSentFunc
  -- one name for the state after each `ASSERT` and each assignment
  extract_lets s₁ _ s₂
  have hassert : Kept s s₁ := kept_assert s _
  have hsent : Kept s s₂ := hassert.trans (hpending s₁)
  refine hsent.trans ?_
  split
  · extract_lets s₃ _ s₄
    have hassert' : Kept s₂ s₃ := kept_assert s₂ _
    have hdata : Kept s₂ s₄ := hassert'.trans (hwaiting s₃)
    have hout := kept_clientSocksRecvSendOut s₄ r
    exact hdata.trans (.ite hout (hout.trans ((kept_assert _ _).trans (hrecv _))))
  · exact .ite ((kept_clientLog _ _).trans (kept_clientFreeClient _)) (.refl _)

/-! ## Coming to rest -/

/-- What happens without the proxy or the application doing anything new: the connection
    writes what it was given and reads what there is, and the application acknowledges what it
    has got. -/
def Action.internal : Action → Bool
  | .controlWrite _ _ | .controlRead _ _ | .upWrite _ | .upRead _ _ | .recvClosed
  | .appAck _ _ => true
  | _ => false

/-- None of that can happen. -/
def AtRest (p : Params) (s : Relay) : Prop :=
  ∀ a : Action, a.internal = true → s.step p a = none

/-- The longest handshake. -/
def handshakeSize (p : Params) : Nat := (BSocksClient.hello p).length + 513 + 22

/-- How many bytes can still be written, read and acknowledged, and one for the end. -/
def toGo (p : Params) (s : Relay) : Nat :=
  (handshakeSize p + s.fromApp.length - s.toServer.length) + s.down.queue.length +
    (s.fromServer.length + s.down.queue.length + s.pcb.unacked.length - s.toApp.length) +
    (!s.client.socksClosed).toNat

/-- The longest password packet has two parts of 255 bytes. -/
theorem length_of_authenticates {a b : List UInt8} (h : Authenticates p a b) :
    a.length ≤ 513 := by
  cases h with
  | none => exact Nat.zero_le _
  | password =>
    simp only [BSocksClient.passwordPacket, List.length_append, List.length_cons, List.length_nil]
    omega

/-- The longest request has an IPv6 address. -/
theorem length_of_request (dest : NetAddr) : (BSocksClient.request dest).length ≤ 22 := by
  rw [BSocksClient.length_request]
  cases dest <;> simp [BSocksClient.requestSize]

/-- No more than the longest handshake is written before SOCKS is up. -/
theorem OnlyHandshake.length {w : List UInt8} (h : OnlyHandshake p w) :
    w.length ≤ handshakeSize p := by
  unfold handshakeSize
  obtain hpre | ⟨a, b, hauth, hpre⟩ := h
  · have hle := hpre.length_le
    omega
  · have hle := hpre.length_le
    have ha := length_of_authenticates hauth
    have hreq := length_of_request p.destAddr
    simp only [List.length_append] at hle
    omega

/-- What is written is at most the longest handshake and what was taken from the application, and
    what is passed on was read. -/
theorem Carries.length (h : Carries p s up dn) : s.toServer.length ≤ handshakeSize p + up.length ∧
    dn.length ≤ s.fromServer.length := by
  obtain ⟨w, r, ⟨hauth, hreply⟩, hw, hr⟩ := h.handshake
  have ha := length_of_authenticates hauth
  have hreq := length_of_request p.destAddr
  unfold handshakeSize
  rw [hw, hr]
  simp only [List.length_append]
  omega

/-- Nothing is written, read or acknowledged that was not there before. -/
theorem Ok.bounds (h : Ok p s up dn) : s.toServer.length ≤ handshakeSize p + s.fromApp.length ∧
    s.toApp.length ≤ s.fromServer.length := by
  have hfromApp := congrArg List.length h.fromApp
  have htoApp := h.toApp.length_le
  simp only [List.length_append] at hfromApp htoApp
  cases h.socks with
  -- before SOCKS is up nothing was passed on
  | shaking _ _ hshaking _ hd =>
    have hle := (OnlyHandshake.of_shaking hshaking).length
    rw [hd, List.length_nil] at htoApp
    omega
  | failed _ _ _ honly _ hd =>
    have hle := honly.length
    rw [hd, List.length_nil] at htoApp
    omega
  | up _ _ _ _ _ _ _ _ hcarries =>
    have hle := hcarries.length
    omega
  | down _ _ _ hcarries =>
    have hle := hcarries.length
    omega

/-- The same after one more event. -/
theorem Ok.bounds_of_step {a : Action} (h : Ok p s up dn) (hstep : s.step p a = some t) :
    t.toServer.length ≤ handshakeSize p + t.fromApp.length ∧
      t.toApp.length ≤ t.fromServer.length := by
  obtain ⟨up', dn', hok⟩ := h.step hstep
  exact hok.bounds

/-- A step that writes, reads or has acknowledged something, and then runs its handler. -/
theorem Kept.toGo_lt {s₁ : Relay} (h : Kept s₁ t) (hfromApp : s₁.fromApp = s.fromApp)
    (htoApp : s₁.toApp = s.toApp) (hclosed : s₁.client.socksClosed = s.client.socksClosed)
    (htotal : s₁.fromServer.length + s₁.down.queue.length =
      s.fromServer.length + s.down.queue.length)
    (ht : t.toServer.length ≤ handshakeSize p + t.fromApp.length ∧
      t.toApp.length ≤ t.fromServer.length)
    (htoServer : s.toServer.length ≤ s₁.toServer.length)
    (hdown : s₁.down.queue.length ≤ s.down.queue.length)
    (hunacked : s₁.pcb.unacked.length ≤ s.pcb.unacked.length)
    (hless : s.toServer.length < s₁.toServer.length ∨
      s₁.down.queue.length < s.down.queue.length ∨
      s₁.pcb.unacked.length < s.pcb.unacked.length ∨
      s.client.socksClosed = false ∧ t.client.socksClosed = true) : toGo p t < toGo p s := by
  -- SOCKS is not opened again
  have hbit : (!t.client.socksClosed).toNat ≤ (!s.client.socksClosed).toNat := by
    cases hopen : s.client.socksClosed with
    | false => cases t.client.socksClosed <;> decide
    | true => exact (congrArg (fun c => (!c).toNat) (h.socksClosed (hclosed.trans hopen))).le
  have hacked := h.acked
  unfold toGo
  rw [h.fromApp, h.toServer, h.fromServer, hfromApp] at ht
  rw [h.fromApp, h.toServer, h.fromServer, h.down, hfromApp]
  rw [htoApp] at hacked
  -- the handler keeps the sum, and the step before it has made one part smaller
  obtain hless | hless | hless | ⟨hopen, hclosed'⟩ := hless
  · omega
  · omega
  · omega
  · rw [hopen, hclosed']
    simp only [Bool.not_true, Bool.not_false, Bool.toNat_true, Bool.toNat_false]
    omega

/-- Every event that needs nobody brings the connection closer to its rest. -/
theorem Ok.toGo_lt {a : Action} (h : Ok p s up dn) (ha : a.internal = true)
    (hstep : s.step p a = some t) : toGo p t < toGo p s := by
  have ht := h.bounds_of_step hstep
  cases a with
  -- these are not internal
  | connector | ioError | serverSend | serverClose | appSend | appClose | appError | murder =>
    cases ha
  | controlWrite n alloc =>
    rw [Relay.step, Option.ite_none_left_eq_some] at hstep
    obtain ⟨hcond, hstep⟩ := hstep
    cases hstep
    -- a write makes what the proxy has longer
    have hlt : s.toServer.length < (s.toServer ++ s.socks.sending.take n).length := by
      rw [List.length_append, List.length_take]
      omega
    exact (kept_socksHandled _ _).toGo_lt rfl rfl rfl rfl ht hlt.le le_rfl le_rfl
      (.inl hlt)
  | controlRead n alloc =>
    rw [Relay.step, Option.ite_none_left_eq_some] at hstep
    obtain ⟨hio, hstep⟩ := hstep
    obtain ⟨⟨data, down⟩, hread, rfl⟩ := Option.map_eq_some_iff.mp hstep
    obtain ⟨hqueue, hne, -⟩ := Pipe.read_eq_some hread
    -- a read moves at least one byte out of the pipe
    have hlen := congrArg List.length hqueue
    have hpos := List.length_pos_iff.mpr hne
    rw [List.length_append] at hlen
    have hlt : down.queue.length < s.down.queue.length := by omega
    refine (kept_socksHandled _ _).toGo_lt rfl rfl rfl ?_ ht le_rfl hlt.le le_rfl
      (.inr (.inl hlt))
    simp only [List.length_append]
    omega
  | upWrite n =>
    rw [Relay.step, Option.ite_none_left_eq_some] at hstep
    obtain ⟨hcond, hstep⟩ := hstep
    cases hstep
    -- what is offered is in the buffer
    have hoffered : s.socks.offered ≤ s.client.buf.length := by
      cases h.socks with
      | up _ _ _ _ hle => exact hle
      | shaking _ _ hshaking => exact hshaking.offered ▸ Nat.zero_le _
      | failed _ _ hfreed | down _ _ hfreed => exact hfreed.offered ▸ Nat.zero_le _
    have hlt : s.toServer.length < (s.toServer ++ s.client.buf.take n).length := by
      rw [List.length_append, List.length_take]
      omega
    exact (kept_clientSocksSendHandlerDone _ _).toGo_lt rfl rfl rfl rfl ht hlt.le le_rfl le_rfl
      (.inl hlt)
  | upRead n r =>
    rw [Relay.step, Option.ite_none_left_eq_some] at hstep
    obtain ⟨hio, hstep⟩ := hstep
    obtain ⟨⟨data, down⟩, hread, rfl⟩ := Option.map_eq_some_iff.mp hstep
    obtain ⟨hqueue, hne, -⟩ := Pipe.read_eq_some hread
    have hlen := congrArg List.length hqueue
    have hpos := List.length_pos_iff.mpr hne
    rw [List.length_append] at hlen
    have hlt : down.queue.length < s.down.queue.length := by omega
    refine (kept_clientSocksRecvHandlerDone _ _ _).toGo_lt rfl rfl rfl ?_ ht le_rfl hlt.le
      le_rfl (.inr (.inl hlt))
    simp only [List.length_append]
    omega
  -- the report ends SOCKS, which was open: it had asked for data
  | recvClosed =>
    rw [Relay.step, Option.ite_none_left_eq_some] at hstep
    obtain ⟨hcond, hstep⟩ := hstep
    cases hstep
    rw [not_or] at hcond
    have hopen : s.client.socksClosed = false := by
      cases h.socks with
      | shaking _ hopen | up _ hopen => exact hopen
      | failed _ _ hfreed | down _ _ hfreed => exact absurd hfreed.wanted hcond.1
    exact (kept_socksHandled s _).toGo_lt rfl rfl rfl rfl ht le_rfl le_rfl le_rfl
      (.inr (.inr (.inr ⟨hopen, socksClosed_connectionHandler s true⟩)))
  -- an acknowledgement shortens what is unacknowledged, whether or not the callback is set
  | appAck n r =>
    rw [Relay.step, Option.ite_none_left_eq_some] at hstep
    obtain ⟨hcond, hstep⟩ := hstep
    have hlt : (s.pcb.unacked.drop n).length < s.pcb.unacked.length := by
      rw [List.length_drop]
      omega
    have hkept : Kept { s with pcb := { s.pcb with unacked := s.pcb.unacked.drop n } } t := by
      dsimp only at hstep
      split at hstep
      · cases hstep
        exact kept_clientSentFunc _ r n
      · cases hstep
        exact .refl _
    exact hkept.toGo_lt rfl rfl rfl rfl ht le_rfl le_rfl hlt.le (.inr (.inr (.inl hlt)))

/-- The connection to the proxy is being made, or the proxy has not sent a complete answer and
    can still do so. -/
structure AwaitsProxy (p : Params) (s : Relay) : Prop where
  socksUp : s.client.socksUp = false
  socksClosed : s.client.socksClosed = false
  awaits : s.socks.state = .connecting ∨ s.down.queue = [] ∧ s.down.closed = false ∧
    ∀ w r, Handshake p w r → ¬ r <+: s.fromServer

/-- Both sides have got all that the other one has sent so far, and both are open. -/
structure PassedOn (p : Params) (s : Relay) : Prop where
  handshake : ∃ w r, Handshake p w r ∧ s.toServer = w ++ s.fromApp ∧ s.fromServer = r ++ s.toApp
  unacked : s.pcb.unacked = []
  queue : s.down.queue = []
  socksOpen : s.client.socksClosed = false ∧ s.down.closed = false
  clientOpen : s.client.clientClosed = false

/-- While something is not acknowledged, the application can do so. -/
theorem AtRest.unacked (h : AtRest p s) (hclient : s.client.clientClosed = false) :
    s.pcb.unacked = [] := by
  by_contra hne
  have hpos := List.length_pos_iff.mpr hne
  have hstep := h (.appAck 1 {}) rfl
  rw [step, if_neg (by simp [hclient]; omega)] at hstep
  dsimp only at hstep
  split at hstep <;> cases hstep

/-- A client that wants to read finds nothing, and the proxy has not closed. -/
theorem AtRest.down (h : AtRest p s) (hwanted : s.socks.wanted ≠ 0)
    (hio : s.socks.io = .control ∨ s.socks.io = .up) :
    s.down.queue = [] ∧ s.down.closed = false := by
  have hqueue : s.down.queue = [] := by
    -- there would be something to read
    by_contra hne
    obtain ⟨⟨data, down⟩, hread⟩ := Option.isSome_iff_exists.mp (Pipe.read_isSome hwanted hne)
    rw [← Nat.min_self s.socks.wanted] at hread
    obtain hio | hio := hio
    · have hstep := h (.controlRead s.socks.wanted true) rfl
      rw [step, if_neg (not_not.mpr hio), hread] at hstep
      cases hstep
    · have hstep := h (.upRead s.socks.wanted {}) rfl
      rw [step, if_neg (not_not.mpr hio), hread] at hstep
      cases hstep
  refine ⟨hqueue, ?_⟩
  -- its end would be reported
  by_contra hclosed
  have hatEnd : s.down.atEnd = true := Pipe.atEnd_iff.mpr ⟨hqueue, by simpa using hclosed⟩
  have hstep := h .recvClosed rfl
  rw [step, if_neg (by simp [hwanted, hatEnd])] at hstep
  cases hstep

/-- A handshake at rest waits for the connection, or for the proxy to send. -/
theorem AtRest.awaits {w r : List UInt8} (h : AtRest p s) (hshaking : Shaking p s.socks w r) :
    s.socks.state = .connecting ∨ s.down.queue = [] ∧ s.down.closed = false := by
  have hsending : s.socks.sending = [] := by
    -- there would be something to write
    by_contra hne
    have hpos := List.length_pos_iff.mpr hne
    have hstep := h (.controlWrite 1 true) rfl
    rw [step, if_neg (by omega)] at hstep
    cases hstep
  cases hshaking with
  | connecting ho => exact .inl (by rw [ho])
  | sendingHello _ hs | sendingPassword _ hs | sendingRequest _ hs =>
    exact absurd hsending hs.sending
  | sentHello _ hr | sentPassword _ hr | sentRequest _ hr | receivedReplyHeader _ hr =>
    have hwanted := hr.wanted
    have hmore := hr.more
    exact .inr (h.down (by omega) (.inl hr.io))

/-- Where a connection can be at rest. -/
theorem Ok.of_atRest (h : Ok p s up dn) (hrest : AtRest p s) :
    s.dealloc = true ∨ AwaitsProxy p s ∨ PassedOn p s := by
  cases h.socks with
  | shaking hup hopen hshaking =>
    refine .inr (.inl ⟨hup, hopen, ?_⟩)
    obtain hconnecting | ⟨hqueue, hclosed⟩ := hrest.awaits hshaking
    · exact .inl hconnecting
    · exact .inr ⟨hqueue, hclosed, fun _ _ hhandshake => hshaking.not_isPrefix hhandshake⟩
  | failed _ hclosed | down _ hclosed =>
    left
    rw [h.dealloc, hclosed, Bool.and_true]
    cases h.client with
    | closed hclosed' => exact hclosed'
    | opened hopen _ _ _ _ _ _ hpending hlast =>
      -- the application still has to acknowledge something
      obtain ⟨hup, hpos⟩ := hlast hclosed
      rw [hpending hup, hrest.unacked hopen] at hpos
      exact absurd hpos (by decide)
  | up hup hopen hsocks hbuf _ _ _ hwanted hcarries =>
    -- there would be something to write
    have hnil : s.client.buf = [] := by
      by_contra hne
      have hoffered : s.socks.offered ≠ 0 := fun hzero => hne (hbuf.mpr hzero)
      have hstep := hrest (.upWrite 1) rfl
      rw [Relay.step, if_neg (by omega)] at hstep
      cases hstep
    cases h.client with
    | closed _ hne => exact absurd hnil (hne hopen)
    | opened hclient _ _ _ _ htoApp _ hpending _ hheld =>
      have hunacked := hrest.unacked hclient
      -- the application would have something to acknowledge
      have hnone : s.client.socksRecvBuf = none := by
        by_contra hsome
        obtain ⟨data, hdata⟩ := Option.ne_none_iff_exists'.mp hsome
        have hpos := (hheld data hdata).2.2
        rw [hpending hup, hunacked] at hpos
        exact absurd hpos (by decide)
      have hdown := hrest.down (by rw [hwanted hclient hnone]; decide) (.inr hsocks.io)
      have hfromApp := h.fromApp
      rw [hnil, List.append_nil] at hfromApp
      rw [held, hnone, Option.getD_none, List.drop_nil, List.append_nil] at htoApp
      obtain ⟨w, r, hhandshake, hw, hr⟩ := hcarries.handshake
      exact .inr (.inr ⟨⟨w, r, hhandshake, hfromApp ▸ hw, htoApp ▸ hr⟩, hunacked, hdown.1,
        ⟨hopen, hdown.2⟩, hclient⟩)

/-- Without new events from outside, the connection comes to rest, and then it has ended, or
    it waits for the proxy, or everything was passed on: nothing is stuck inside tun2socks. -/
theorem events_come_to_rest {tr : List Empty} (h : (machine p).Reachable s tr) :
    (∀ a t, a.internal = true → s.step p a = some t → toGo p t < toGo p s) ∧
      (AtRest p s → s.dealloc = true ∨ AwaitsProxy p s ∨ PassedOn p s) := by
  obtain ⟨up, dn, hok⟩ := Ok.of_reachable h
  exact ⟨fun a t ha hstep => hok.toGo_lt ha hstep, hok.of_atRest⟩

/-- An acknowledgement brings a connection closer to its rest. -/
theorem events_come_to_rest_appAck :
    ∃ s tr, (machine demoParams).Reachable s tr ∧
      ∃ t, s.step demoParams (.appAck 1 {}) = some t ∧ toGo demoParams t < toGo demoParams s := by
  obtain ⟨s, tr, hrun, hpred⟩ := Machine.exists_reach (machine demoParams) (fun _ _ => True)
    (fun s _ => (s.step demoParams (.appAck 1 {})).isSome)
    (untilUp ++ [.upWrite 3, .upRead 2 {}]) (by decide +kernel)
  obtain ⟨t, hstep⟩ := Option.isSome_iff_exists.mp hpred
  exact ⟨s, tr, hrun, t, hstep, (events_come_to_rest hrun).1 _ t rfl hstep⟩

end Relay

end OpenFlux
