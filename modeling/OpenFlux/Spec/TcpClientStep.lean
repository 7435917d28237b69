import OpenFlux.Model.TcpClient
import OpenFlux.Spec.BSocksClientHandshake

/-!
# What the handlers of a TCP client do

`client_free_client`, `client_free_socks` and `client_handle_freed_client` call each other, and
the loop of `client_socks_recv_send_out` can end in five ways.  These are their results, once,
for everything that follows.

## Key results

- `clientHandleFreedClient_freed`, `clientFreeSocks_freed`: how a client ends
- `clientSocksRecvSendOut_sentOut`: how data for the application is queued
-/

namespace OpenFlux

open BSocksClient (Event Params)

namespace Relay

variable {s : Relay}

@[simp]
theorem assert_true (s : Relay) : s.assert true = s := rfl

/-! ## The end of a client -/

/-- `client_closed = 1` -/
def closeClient (s : Relay) : Relay :=
  { s with client := { s.client with clientClosed := true } }

/-- What `client_handle_freed_client` can result in, for a client that was open. -/
inductive FreedClient (s : Relay) : Relay → Prop
  /-- SOCKS has to get the rest of the buffer first -/
  | waits : s.client.buf ≠ [] → s.client.socksClosed = false →
      FreedClient s (s.closeClient.clientLog .waitingForSocks)
  | ends : s.client.buf = [] → s.client.socksClosed = false →
      FreedClient s { s.closeClient.closeSocks with dealloc := true }
  /-- SOCKS has ended before -/
  | last : s.client.socksClosed = true → FreedClient s { s.closeClient with dealloc := true }

/-- `client_handle_freed_client` on an open client; the calls nest at most two deep. -/
theorem handleFreedClientAux_freed (depth : Nat) (hclient : s.client.clientClosed = false)
    (hdealloc : s.dealloc = false) : FreedClient s (handleFreedClientAux (depth + 2) s) := by
  -- the body, with `client_closed = 1` done
  have heq : handleFreedClientAux (depth + 2) s =
      if s.client.buf ≠ [] ∧ !s.client.socksClosed then
        s.closeClient.clientLog .waitingForSocks
      else if !s.client.socksClosed then freeSocksAux (depth + 1) s.closeClient
      else s.closeClient.clientDealloc := by
    rw [handleFreedClientAux, hclient]
    rfl
  rw [heq]
  cases hsocks : s.client.socksClosed with
  | true =>
    -- both sides have ended
    have hlast : s.closeClient.clientDealloc = { s.closeClient with dealloc := true } := by
      simp [clientDealloc, closeClient, hsocks, hdealloc]
    simpa [hlast] using FreedClient.last hsocks
  | false =>
    by_cases hbuf : s.client.buf = []
    · -- nothing is left for SOCKS, so it is freed in the same call
      have hends : freeSocksAux (depth + 1) s.closeClient =
          { s.closeClient.closeSocks with dealloc := true } := by
        simp [freeSocksAux, clientDealloc, closeSocks, closeClient, hsocks, hdealloc]
      simpa [hbuf, hends] using FreedClient.ends hbuf hsocks
    · simpa [hbuf] using FreedClient.waits hbuf hsocks

/-- The call by `client_err_func`. -/
theorem clientHandleFreedClient_freed (hclient : s.client.clientClosed = false)
    (hdealloc : s.dealloc = false) : FreedClient s s.clientHandleFreedClient :=
  handleFreedClientAux_freed 1 hclient hdealloc

/-- `client_free_client` removes the callbacks of the pcb first. -/
theorem clientFreeClient_freed (hclient : s.client.clientClosed = false)
    (hdealloc : s.dealloc = false) : FreedClient s.removeCallbacks s.clientFreeClient := by
  have heq : s.clientFreeClient = handleFreedClientAux 2 s.removeCallbacks := by
    rw [clientFreeClient, freeClientAux, hclient]
    rfl
  rw [heq]
  exact handleFreedClientAux_freed 0 hclient hdealloc

/-- The pcb of a client that is up stops to call `client_recv_func`, and SOCKS is freed. -/
def endSocks (s : Relay) : Relay :=
  (if s.client.socksUp ∧ !s.client.clientClosed then
    { s with pcb := { s.pcb with recv := false } } else s).closeSocks

/-- What `client_free_socks` can result in, for a client whose SOCKS side was open. -/
inductive FreedSocks (s : Relay) : Relay → Prop
  /-- the application has to get the rest first -/
  | waits : s.client.socksUp = true → s.client.clientClosed = false →
      s.client.socksRecvBuf.isSome ∨ 0 < s.client.socksRecvTcpPending →
      FreedSocks s (s.endSocks.clientLog .waitingForClient)
  | ends : s.client.clientClosed = false →
      (s.client.socksUp = true → s.client.socksRecvBuf = none ∧ s.client.socksRecvTcpPending = 0) →
      FreedSocks s { s.endSocks.removeCallbacks.closeClient with dealloc := true }
  /-- the client has ended before -/
  | last : s.client.clientClosed = true → FreedSocks s { s.endSocks with dealloc := true }

/-- `client_free_socks` on an open SOCKS side. -/
theorem clientFreeSocks_freed (hsocks : s.client.socksClosed = false)
    (hdealloc : s.dealloc = false) : FreedSocks s s.clientFreeSocks := by
  -- whether or not the pcb loses a callback, the rest is the same
  have hfields : s.endSocks.client = { s.client with socksClosed := true } ∧
      s.endSocks.dealloc = false := by
    unfold endSocks
    split <;> exact ⟨rfl, hdealloc⟩
  obtain ⟨hend, hend'⟩ := hfields
  -- the body, by the fields of `s` and not of what is made of it
  have heq : s.clientFreeSocks =
      if s.client.socksUp ∧ (s.client.socksRecvBuf.isSome ∨ 0 < s.client.socksRecvTcpPending) ∧
          !s.client.clientClosed then s.endSocks.clientLog .waitingForClient
      else if !s.client.clientClosed then freeClientAux 2 s.endSocks
      else s.endSocks.clientDealloc := by
    have hunfold : s.clientFreeSocks =
        if s.endSocks.client.socksUp ∧ (s.endSocks.client.socksRecvBuf.isSome ∨
            0 < s.endSocks.client.socksRecvTcpPending) ∧ !s.endSocks.client.clientClosed then
          s.endSocks.clientLog .waitingForClient
        else if !s.endSocks.client.clientClosed then freeClientAux 2 s.endSocks
        else s.endSocks.clientDealloc := by
      rw [clientFreeSocks, freeSocksAux, hsocks]
      rfl
    rw [hunfold, hend]
  rw [heq]
  cases hclient : s.client.clientClosed with
  | true =>
    -- the client has ended before
    have hlast : s.endSocks.clientDealloc = { s.endSocks with dealloc := true } := by
      simp [clientDealloc, hend, hend', hclient]
    simpa [hlast] using FreedSocks.last hclient
  | false =>
    -- the client is freed in the same call
    have hends : freeClientAux 2 s.endSocks =
        { s.endSocks.removeCallbacks.closeClient with dealloc := true } := by
      simp [freeClientAux, handleFreedClientAux, clientDealloc, removeCallbacks, closeClient,
        hend, hend', hclient]
    -- the client waits only if SOCKS was up and something is left for the application
    by_cases hwaits : s.client.socksUp = true ∧
        (s.client.socksRecvBuf.isSome ∨ 0 < s.client.socksRecvTcpPending)
    · simpa [hwaits] using FreedSocks.waits hwaits.1 hclient hwaits.2
    · have hdone : s.client.socksUp = true →
          s.client.socksRecvBuf = none ∧ s.client.socksRecvTcpPending = 0 := by
        intro hup
        simpa [hup] using hwaits
      have hcond : ¬(s.client.socksUp = true ∧ (s.client.socksRecvBuf.isSome = true ∨
          0 < s.client.socksRecvTcpPending) ∧ (!false) = true) := by
        simpa using hwaits
      rw [if_neg hcond, Bool.not_false, if_pos rfl, hends]
      exact .ends hclient hdone

/-! ## Data for the application -/

variable {data : List UInt8}

/-- A call with no bytes does nothing. -/
theorem tcpWrite_zero (s : Relay) (data : List UInt8) : s.tcpWrite data 0 = s := by
  simp [tcpWrite]

/-- Two calls of `tcp_write` are one. -/
theorem tcpWrite_tcpWrite (s : Relay) (data : List UInt8) (j k : Nat) :
    (s.tcpWrite data j).tcpWrite data k = s.tcpWrite data (j + k) := by
  simp [tcpWrite, List.take_add, List.drop_drop, Nat.add_assoc]

/-- The ways out of the loop of `client_socks_recv_send_out`, after `k` bytes. -/
inductive Wrote (s : Relay) (data : List UInt8) (k : Nat) : Relay × Bool → Prop
  | some : Wrote s data k (s.tcpWrite data k, false)
  | failed : Wrote s data k
      (((s.tcpWrite data k).clientLog .tcpWriteFailed).clientAbortClient, true)

/-- The loop can end before it has written anything. -/
theorem wrote_nothing (s : Relay) (data : List UInt8) : Wrote s data 0 (s, false) := by
  have hsome : Wrote s data 0 (s.tcpWrite data 0, false) := .some
  rwa [tcpWrite_zero] at hsome

/-- Something written before the rest of the loop. -/
theorem Wrote.of_tcpWrite {result : Relay × Bool} {j k : Nat}
    (h : Wrote (s.tcpWrite data j) data k result) : Wrote s data (j + k) result := by
  cases h with
  | some =>
    rw [tcpWrite_tcpWrite]
    exact .some
  | failed =>
    rw [tcpWrite_tcpWrite]
    exact .failed

/-- The loop writes some bytes from the front and ends, or fails. -/
theorem writeLoop_wrote (fuel : Nat) (writes : List Err)
    (hsent : s.client.socksRecvBufSent ≤ data.length) :
    ∃ k, s.client.socksRecvBufSent + k ≤ data.length ∧
      Wrote s data k (writeLoop data fuel writes s) := by
  induction fuel generalizing s writes with
  | zero => exact ⟨0, hsent, wrote_nothing s data⟩
  | succ fuel ih =>
    rw [writeLoop]
    split
    · -- each round either ends the loop or is one call of `tcp_write`
      exact ⟨0, hsent, wrote_nothing s data⟩
    split
    · exact ⟨0, hsent, wrote_nothing s data⟩
    · -- `tcp_write` returned an error other than `ERR_MEM`
      have hfailed : Wrote s data 0
          (((s.tcpWrite data 0).clientLog .tcpWriteFailed).clientAbortClient, true) := .failed
      rw [tcpWrite_zero] at hfailed
      exact ⟨0, hsent, hfailed⟩
    · -- one call of `tcp_write`, and the rest of the loop from there
      generalize hn : min (data.length - s.client.socksRecvBufSent) s.sndBuf = n
      have hle : (s.tcpWrite data n).client.socksRecvBufSent ≤ data.length := by
        show s.client.socksRecvBufSent + n ≤ data.length
        omega
      dsimp only
      split
      · obtain ⟨k, hk, hwrote⟩ := ih writes.tail hle
        refine ⟨n + k, ?_, hwrote.of_tcpWrite⟩
        rw [← Nat.add_assoc]
        exact hk
      · exact ⟨n, hle, .some⟩

/-- What `client_socks_recv_send_out` can result in. -/
inductive SentOut (s : Relay) (data : List UInt8) : Relay × Bool → Prop
  | aborted {k : Nat} {msg : LogMsg} : s.client.socksRecvBufSent + k ≤ data.length →
      msg ∈ [LogMsg.tcpWriteFailed, .tcpOutputFailed, .cantQueue] →
      SentOut s data (((s.tcpWrite data k).clientLog msg).clientAbortClient, true)
  | waits {k : Nat} : s.client.socksRecvBufSent + k < data.length →
      0 < s.client.socksRecvTcpPending + k →
      SentOut s data ({ s.tcpWrite data k with
        client := { (s.tcpWrite data k).client with socksRecvWaiting := true } }, false)
  | queued {k : Nat} : 0 < k → s.client.socksRecvBufSent + k = data.length →
      SentOut s data ({ s.tcpWrite data k with
        client := { (s.tcpWrite data k).client with socksRecvBuf := none } }, false)

/-- `client_socks_recv_send_out` on data that is not queued yet: the client is aborted, waits for
    `client_sent_func`, or has queued everything. -/
theorem clientSocksRecvSendOut_sentOut (r : TcpResults) (hclient : s.client.clientClosed = false)
    (hup : s.client.socksUp = true) (hdata : s.client.socksRecvBuf = some data)
    (hsent : s.client.socksRecvBufSent < data.length)
    (hwaiting : s.client.socksRecvWaiting = false) :
    SentOut s data (s.clientSocksRecvSendOut r) := by
  obtain ⟨k, hk, hwrote⟩ := writeLoop_wrote data.length r.writes (Nat.le_of_lt hsent)
  unfold clientSocksRecvSendOut
  simp only [hdata, Option.getD_some, hclient, hup, hsent, hwaiting, decide_true, Bool.not_false,
    Bool.and_self, assert_true]
  -- how the loop has ended
  cases hloop : writeLoop data data.length r.writes s with
  | mk s' aborted =>
    rw [hloop] at hwrote
    cases hwrote with
    | failed => exact .aborted hk (by simp)
    | some =>
      simp only [Bool.false_eq_true, if_false]
      split
      · -- `tcp_output` failed
        exact .aborted hk (by simp)
      split
      · rename_i hmore
        split
        · -- something is left and nothing is under way, so that nothing would call back
          exact .aborted hk (by simp)
        · rename_i hpending
          exact .waits hmore (Nat.pos_of_ne_zero hpending)
      · rename_i hmore
        have hall : ¬ s.client.socksRecvBufSent + k < data.length := hmore
        exact .queued (by omega) (by omega)

/-- What `client_socks_recv_handler_done` does behind `client_socks_recv_send_out`. -/
def afterSendOut (out : Relay × Bool) : Relay :=
  if out.2 then out.1
  else if out.1.client.socksRecvBuf = none then out.1.clientSocksRecvInitiate
  else out.1

/-- `client_socks_recv_handler_done` with the client open: its assertions hold, and the data is sent
    out. -/
theorem clientSocksRecvHandlerDone_eq (r : TcpResults) (hne : data ≠ [])
    (hsize : data.length ≤ clientSocksRecvBufSize) (hopen : s.client.socksClosed = false)
    (hup : s.client.socksUp = true) (hnone : s.client.socksRecvBuf = none)
    (hclient : s.client.clientClosed = false) :
    s.clientSocksRecvHandlerDone r data =
      afterSendOut (clientSocksRecvSendOut r { s with client := { s.client with
        socksRecvBuf := some data, socksRecvBufSent := 0, socksRecvWaiting := false } }) := by
  have hassert : s.assert (data ≠ [] && data.length ≤ clientSocksRecvBufSize &&
      !s.client.socksClosed && s.client.socksUp && s.client.socksRecvBuf = none) = s := by
    simp [assert, hne, hsize, hopen, hup, hnone]
  rw [clientSocksRecvHandlerDone, hassert]
  simp only [hclient, Bool.false_eq_true, if_false, afterSendOut]

/-- `client_sent_func` behind its bookkeeping, when something is left for the application. -/
def afterSent (out : Relay × Bool) : Relay :=
  if out.2 then out.1
  else if out.1.client.socksRecvBuf = none ∧ !out.1.client.socksClosed then
    (out.1.assert (0 < out.1.client.socksRecvTcpPending)).clientSocksRecvInitiate
  else out.1.assert (0 < out.1.client.socksRecvTcpPending)

/-- An assertion does not touch the client. -/
theorem assert_client (s : Relay) (c : Bool) : (s.assert c).client = s.client := by
  unfold assert
  split <;> rfl

/-- `client_sent_func` when the client waits with a part of the data. -/
theorem clientSentFunc_some (r : TcpResults) {len : Nat} (hclient : s.client.clientClosed = false)
    (hup : s.client.socksUp = true) (hpos : 0 < len) (hlen : len ≤ s.client.socksRecvTcpPending)
    (hdata : s.client.socksRecvBuf = some data) (hwaiting : s.client.socksRecvWaiting = true)
    (hsent : s.client.socksRecvBufSent < data.length) :
    s.clientSentFunc r len =
      afterSent (clientSocksRecvSendOut r { s with client := { s.client with
        socksRecvTcpPending := s.client.socksRecvTcpPending - len,
        socksRecvWaiting := false } }) := by
  -- the assertion of the handler holds
  have hassert : s.assert (!s.client.clientClosed && s.client.socksUp && 0 < len &&
      len ≤ s.client.socksRecvTcpPending) = s := by
    simp [assert, hclient, hup, hpos, hlen]
  rw [clientSentFunc, hassert]
  simp only [hdata, hwaiting, hsent, decide_true, Bool.and_self, assert_true, assert_client,
    afterSent]

/-- `client_sent_func` when everything is queued: the last acknowledgement ends a client whose SOCKS
    side has ended. -/
theorem clientSentFunc_none (r : TcpResults) {len : Nat} (hclient : s.client.clientClosed = false)
    (hup : s.client.socksUp = true) (hpos : 0 < len) (hlen : len ≤ s.client.socksRecvTcpPending)
    (hnone : s.client.socksRecvBuf = none) :
    s.clientSentFunc r len =
      if s.client.socksClosed ∧ s.client.socksRecvTcpPending - len = 0 then
        (clientLog .removingAfterSocks { s with client := { s.client with
          socksRecvTcpPending := s.client.socksRecvTcpPending - len } }).clientFreeClient
      else { s with client := { s.client with
        socksRecvTcpPending := s.client.socksRecvTcpPending - len } } := by
  have hassert : s.assert (!s.client.clientClosed && s.client.socksUp && 0 < len &&
      len ≤ s.client.socksRecvTcpPending) = s := by
    simp [assert, hclient, hup, hpos, hlen]
  rw [clientSentFunc, hassert]
  simp only [hnone]

end Relay

end OpenFlux
