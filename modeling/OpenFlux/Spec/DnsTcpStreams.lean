import OpenFlux.ForStd.List
import OpenFlux.Model.DnsTcpSession
import OpenFlux.Spec.Socks5Handshake

/-!
# The two streams of a served client

During the handshake the client's bytes wait.  Behind it both pumps keep what is in transit in
order: what one end has received and what is under way is what the other end has sent.  A
target is given up only for a reason, and its resolver gets nothing.

## Key results

- `Faithful.step`: every step keeps the streams intact, where a reply that accepts has ten bytes
- `faithful_of_reach`: and so does every run
-/

namespace OpenFlux

open Socks5

namespace DnsTcpSession

/-! ## The invariant -/

/-- A target that was given up: its resolver has got nothing, and a call has failed, it is not
    IPv4, or the proxy has refused it. -/
structure GivenUp (a : Attempt) : Prop where
  idle : ∀ conn, a.conn = some conn → Idle conn
  reason : a.ioFailed = true ∨ (∃ text, a.target = .other text) ∨
    ∃ conn, a.conn = some conn ∧ Refused conn

/-- The client waits for the upstream. -/
structure Waiting (client : Client) : Prop where
  sent : client.sent = client.output.queue
  received : client.received = []
  input : client.input.queue = []

/-- Nothing is lost between the client and the resolver. -/
structure Flow (client : Client) (conn : Conn) (up down : Pump UInt8) : Prop where
  proxy : conn.proxy = .connected conn.target
  toResolver : client.sent = conn.received ++ (conn.up.queue ++ up.buffer ++ client.output.queue)
  toClient : conn.sent = client.received ++ (client.input.queue ++ down.buffer ++ conn.down.queue)
  upDone : up = .done → client.output.atEnd
  downDone : down = .done → conn.down.atEnd

/-- What holds of the client, for each place of `serve`. -/
def Streams (client : Client) : Pc → Prop
  | .connect _ | .failed => Waiting client
  | .handshake stage conn _ _ => Waiting client ∧ Shaking stage conn
  | .relay conn _ up down => Flow client conn up down
  | .ended conn _ => Flow client conn .done .done

/-- The targets that are left. -/
def Left : Pc → List Target → Prop
  | .connect targets, left => left = targets
  | .handshake _ conn text targets, left => left = .ipv4 conn.target text :: targets
  | .relay conn text _ _, left | .ended conn text, left =>
    left.head? = some (.ipv4 conn.target text)
  | .failed, left => left = []

/-- The invariant: the targets are tried in their order, one after the other, and no byte is
    lost. -/
structure Faithful (upstreams : List Target) (s : DnsTcpSession) : Prop where
  attempts : ∀ a ∈ s.attempts, GivenUp a
  order : ∃ left, upstreams = s.attempts.map (·.target) ++ left ∧ Left s.pc left
  streams : Streams s.client s.pc

/-- `serve` has just begun. -/
theorem faithful_init (upstreams : List Target) :
    Faithful upstreams { pc := .connect upstreams } where
  attempts := by simp
  order := ⟨upstreams, rfl, rfl⟩
  streams := ⟨rfl, rfl, rfl⟩

/-- A reply that accepts a CONNECT has ten bytes. -/
def exactReplies : Action → Bool
  | .proxy a => exactReply a
  | _ => true

section Step

variable {upstreams : List Target} {s s' : DnsTcpSession} {o : List String}

/-! ## The client -/

/-- A step of the client touches neither the connections nor `serve`. -/
theorem Faithful.client {client : Client} (hi : Faithful upstreams s)
    (hwaiting : Waiting s.client → Waiting client)
    (hflow : ∀ conn up down, Flow s.client conn up down → Flow client conn up down) :
    Faithful upstreams { s with client } := by
  refine ⟨hi.attempts, hi.order, ?_⟩
  have hstreams := hi.streams
  show Streams client s.pc
  generalize s.pc = pc at hstreams
  cases pc with
  | connect targets | failed => exact hwaiting hstreams
  | handshake stage conn text targets => exact ⟨hwaiting hstreams.1, hstreams.2⟩
  | relay conn text up down | ended conn text => exact hflow _ _ _ hstreams

/-- The client sends. -/
theorem Faithful.clientSend {bytes : List UInt8} (hi : Faithful upstreams s)
    (h : s.step (.clientSend bytes) = some (s', o)) : Faithful upstreams s' := by
  obtain ⟨client, hsend, heq⟩ := Option.map_eq_some_iff.mp h
  obtain ⟨rfl, -⟩ := Prod.mk.inj heq
  simp only [Client.send, Option.ite_none_left_eq_some, Bool.not_eq_true] at hsend
  obtain ⟨hopen, hsend⟩ := hsend
  obtain rfl := Option.some.inj hsend
  refine hi.client ?_ ?_
  · intro hw
    exact ⟨by simp [hw.sent], hw.received, hw.input⟩
  · intro conn up down hf
    refine ⟨hf.proxy, by simp [hf.toResolver], hf.toClient, ?_, hf.downDone⟩
    -- the pump has not seen the end of an open stream
    intro hdone
    rw [(Pipe.atEnd_iff.mp (hf.upDone hdone)).2] at hopen
    cases hopen

/-- The client closes its output. -/
theorem Faithful.clientClose (hi : Faithful upstreams s)
    (h : s.step .clientClose = some (s', o)) : Faithful upstreams s' := by
  obtain ⟨rfl, -⟩ := Prod.mk.inj (Option.some.inj h)
  refine hi.client ?_ ?_
  · intro hw
    exact ⟨hw.sent, hw.received, hw.input⟩
  · intro conn up down hf
    refine ⟨hf.proxy, hf.toResolver, hf.toClient, ?_, hf.downDone⟩
    intro hdone
    exact Pipe.atEnd_iff.mpr ⟨(Pipe.atEnd_iff.mp (hf.upDone hdone)).1, rfl⟩

/-- The client reads. -/
theorem Faithful.clientReceive {n : Nat} (hi : Faithful upstreams s)
    (h : s.step (.clientReceive n) = some (s', o)) : Faithful upstreams s' := by
  obtain ⟨client, hreceive, heq⟩ := Option.map_eq_some_iff.mp h
  obtain ⟨rfl, -⟩ := Prod.mk.inj heq
  obtain ⟨⟨chunk, input⟩, hread, rfl⟩ := Option.map_eq_some_iff.mp hreceive
  refine hi.client ?_ ?_
  · intro hw
    -- a client that waits has nothing to read
    rw [Pipe.read_of_nil hw.input] at hread
    cases hread
  · intro conn up down hf
    refine ⟨hf.proxy, hf.toResolver, ?_, hf.upDone, hf.downDone⟩
    rw [hf.toClient, (Pipe.read_eq_some hread).1]
    simp only [List.append_assoc]

/-! ## The proxies -/

/-- Behind the handshake the proxy moves bytes of either stream. -/
theorem Flow.proxyStep {client : Client} {conn conn' : Conn} {up down : Pump UInt8}
    {a : ProxyAction} (hf : Flow client conn up down) (h : conn.proxyStep a = some conn') :
    Flow client conn' up down ∧ conn'.target = conn.target := by
  obtain ⟨n, chunk, queue, -, hread, rfl⟩ | ⟨bytes, -, hopen, rfl⟩ | ⟨-, rfl⟩ :=
    proxyStep_connected hf.proxy h
  · -- the resolver takes bytes
    refine ⟨⟨hf.proxy, ?_, hf.toClient, hf.upDone, hf.downDone⟩, rfl⟩
    rw [hf.toResolver, (Pipe.read_eq_some hread).1]
    simp only [List.append_assoc]
  · -- the resolver sends, so it has not closed its stream
    refine ⟨⟨hf.proxy, hf.toResolver, ?_, hf.upDone, ?_⟩, rfl⟩
    · simp [hf.toClient]
    · intro hdone
      rw [(Pipe.atEnd_iff.mp (hf.downDone hdone)).2] at hopen
      cases hopen
  · -- the resolver closes its stream
    refine ⟨⟨hf.proxy, hf.toResolver, hf.toClient, hf.upDone, ?_⟩, rfl⟩
    intro hdone
    exact Pipe.atEnd_iff.mpr ⟨(Pipe.atEnd_iff.mp (hf.downDone hdone)).1, rfl⟩

/-- A step of the proxy does not change the target. -/
theorem Left.setConn {pc : Pc} {left : List Target} {conn conn' : Conn} (h : Left pc left)
    (hconn : pc.conn? = some conn) (htarget : conn'.target = conn.target) :
    Left (pc.setConn conn') left := by
  cases pc with
  | connect targets | failed => cases hconn
  | handshake stage conn₀ text targets | relay conn₀ text up down | ended conn₀ text =>
    obtain rfl := Option.some.inj hconn
    rw [Left] at h
    rw [Pc.setConn, Left, htarget, h]

/-- A step of the proxy keeps what holds at the place of `serve`. -/
theorem Streams.setConn {client : Client} {pc : Pc} {conn conn' : Conn} {a : ProxyAction}
    (h : Streams client pc) (hconn : pc.conn? = some conn) (hok : exactReply a)
    (hstep : conn.proxyStep a = some conn') :
    Streams client (pc.setConn conn') ∧ conn'.target = conn.target := by
  cases pc with
  | connect targets | failed => cases hconn
  | handshake stage conn₀ text targets =>
    obtain rfl := Option.some.inj hconn
    obtain ⟨hs, htarget⟩ := h.2.proxyStep hok hstep
    exact ⟨⟨h.1, hs⟩, htarget⟩
  | relay conn₀ text up down | ended conn₀ text =>
    obtain rfl := Option.some.inj hconn
    exact Flow.proxyStep h hstep

/-- The proxy of the connection in use. -/
theorem Faithful.proxy {a : ProxyAction} (hi : Faithful upstreams s) (hok : exactReply a)
    (h : s.step (.proxy a) = some (s', o)) : Faithful upstreams s' := by
  obtain ⟨hattempts, ⟨left, htried, hleft⟩, hstreams⟩ := hi
  simp only [DnsTcpSession.step] at h
  split at h
  · cases h
  · rename_i conn hconn
    obtain ⟨conn', hstep, heq⟩ := Option.map_eq_some_iff.mp h
    obtain ⟨rfl, -⟩ := Prod.mk.inj heq
    obtain ⟨hstreams', htarget⟩ := hstreams.setConn hconn hok hstep
    exact ⟨hattempts, ⟨left, htried, hleft.setConn hconn htarget⟩, hstreams'⟩

/-- The proxy of a connection that was given up. -/
theorem Faithful.oldProxy {k : Nat} {a : ProxyAction} (hi : Faithful upstreams s)
    (h : s.step (.oldProxy k a) = some (s', o)) : Faithful upstreams s' := by
  obtain ⟨hattempts, ⟨left, htried, hleft⟩, hstreams⟩ := hi
  simp only [DnsTcpSession.step] at h
  split at h
  · rename_i target conn ioFailed hget
    obtain ⟨conn', hstep, heq⟩ := Option.map_eq_some_iff.mp h
    obtain ⟨rfl, -⟩ := Prod.mk.inj heq
    have hgiven := hattempts _ (List.mem_of_getElem? hget)
    refine ⟨?_, ⟨left, ?_, hleft⟩, hstreams⟩
    · intro attempt hmem
      obtain hmem | rfl := List.mem_or_eq_of_mem_set hmem
      · exact hattempts attempt hmem
      · constructor
        · intro c hc
          obtain rfl := Option.some.inj hc
          exact ((hgiven.idle conn rfl).proxyStep hstep).1
        · obtain hio | hother | ⟨c, hc, hrefused⟩ := hgiven.reason
          · exact .inl hio
          · exact .inr (.inl hother)
          · obtain rfl := Option.some.inj hc
            exact .inr (.inr ⟨conn', rfl, hrefused.proxyStep hstep⟩)
    · -- nor does the order of the targets change
      have htargets : (s.attempts.set k ⟨target, some conn', ioFailed⟩).map (·.target) =
          s.attempts.map (·.target) := List.map_set_of_eq hget rfl
      rw [htried, htargets]
  · cases h

/-! ## `serve` -/

/-- What a step of `serve` can do. -/
inductive ServeStep (s : DnsTcpSession) (n : Nat) : DnsTcpSession × List String → Prop
  | failed (hpc : s.pc = .connect []) : ServeStep s n ({ s with pc := .failed }, [])
  | other {text message : String} {targets : List Target}
      (hpc : s.pc = .connect (.other text :: targets)) :
      ServeStep s n (s.giveUp ⟨.other text, none, false⟩ text message targets)
  | connect {target : Ipv4Target} {text : String} {targets : List Target}
      (hpc : s.pc = .connect (.ipv4 target text :: targets)) :
      ServeStep s n ({ s with pc := .handshake .greet { target } text targets }, [])
  | next {stage stage' : Stage} {conn conn' : Conn} {text : String} {targets : List Target}
      (hpc : s.pc = .handshake stage conn text targets)
      (hstep : stage.step text n conn = some (.next stage' conn')) :
      ServeStep s n ({ s with pc := .handshake stage' conn' text targets }, [])
  | connected {stage : Stage} {conn conn' : Conn} {text : String} {targets : List Target}
      (hpc : s.pc = .handshake stage conn text targets)
      (hstep : stage.step text n conn = some (.connected conn')) :
      ServeStep s n ({ s with pc := .relay conn' text (.copying []) (.copying []) }, [])
  | throws {stage : Stage} {conn : Conn} {text message : String} {targets : List Target}
      (hpc : s.pc = .handshake stage conn text targets)
      (hstep : stage.step text n conn = some (.throws message)) :
      ServeStep s n (s.giveUp ⟨.ipv4 conn.target text, some (closed conn), false⟩ text message
        targets)
  | ended {conn : Conn} {text : String} (hpc : s.pc = .relay conn text .done .done) :
      ServeStep s n ({ s with pc := .ended conn text }, [])

/-- A step of `serve` is one of these. -/
theorem serveStep_cases {n : Nat} {r : DnsTcpSession × List String}
    (h : s.serveStep n = some r) : ServeStep s n r := by
  unfold serveStep at h
  split at h
  · -- no target is left
    rename_i hpc
    cases h
    exact .failed hpc
  · -- a target that is not an IPv4 address
    rename_i hpc
    cases h
    exact .other hpc
  · -- `socket.connect`
    rename_i hpc
    cases h
    exact .connect hpc
  · rename_i hpc
    -- what a step of the handshake can end in
    split at h
    · cases h
    · rename_i hstep
      cases h
      exact .next hpc hstep
    · rename_i hstep
      cases h
      exact .connected hpc hstep
    · rename_i hstep
      cases h
      exact .throws hpc hstep
  · rename_i hpc
    cases h
    exact .ended hpc
  · cases h
  · cases h
  · cases h

/-- Closing our end sends nothing to the resolver. -/
theorem idle_closed {conn : Conn} (hi : Idle conn) : Idle (closed conn) :=
  ⟨hi.received, hi.before, hi.queue⟩

/-- Giving up a target. -/
theorem Faithful.giveUp {attempt : Attempt} {targets : List Target} (text message : String)
    (hi : Faithful upstreams s) (hleft : ∀ left, Left s.pc left → left = attempt.target :: targets)
    (hwaiting : Waiting s.client) (hgiven : GivenUp attempt) :
    Faithful upstreams (s.giveUp attempt text message targets).1 := by
  obtain ⟨hattempts, ⟨left, htried, hpc⟩, -⟩ := hi
  refine ⟨?_, ⟨targets, ?_, rfl⟩, hwaiting⟩
  · -- the attempts before and this one
    intro a ha
    obtain ha | ha := List.mem_append.mp ha
    · exact hattempts a ha
    · obtain rfl := List.mem_singleton.mp ha
      exact hgiven
  · show upstreams = (s.attempts ++ [attempt]).map (·.target) ++ targets
    rw [htried, hleft left hpc, List.map_append, List.append_assoc]
    rfl

/-- The target of a connection is given up, whether a call has failed or the proxy has refused. -/
theorem Faithful.giveUpConn {stage : Stage} {conn : Conn} {text : String}
    {targets : List Target} {ioFailed : Bool} (message : String) (hi : Faithful upstreams s)
    (hpc : s.pc = .handshake stage conn text targets)
    (hreason : ioFailed = true ∨ Refused conn) :
    Faithful upstreams
      (s.giveUp ⟨.ipv4 conn.target text, some (closed conn), ioFailed⟩ text message targets).1 := by
  have hstreams := hi.streams
  rw [hpc] at hstreams
  refine hi.giveUp text message ?_ hstreams.1 ⟨?_, ?_⟩
  · intro left hleft
    rw [hpc] at hleft
    exact hleft
  · intro c hc
    obtain rfl := Option.some.inj hc
    exact idle_closed hstreams.2.idle
  · -- closing our end does not change what the proxy has said
    obtain hio | hrefused := hreason
    · exact .inl hio
    · exact .inr (.inr ⟨closed conn, rfl, hrefused⟩)

/-- A call on the socket fails. -/
theorem Faithful.ioFailure {message : String} (hi : Faithful upstreams s)
    (h : s.step (.ioFailure message) = some (s', o)) : Faithful upstreams s' := by
  have h : s.ioFailure message = some (s', o) := h
  unfold DnsTcpSession.ioFailure at h
  split at h
  · -- `socket.connect` has failed, and no connection was there
    rename_i target text targets hpc
    have hstreams := hi.streams
    rw [hpc] at hstreams
    obtain ⟨rfl, -⟩ := Prod.mk.inj (Option.some.inj h)
    refine hi.giveUp text message ?_ hstreams ⟨by simp, .inl rfl⟩
    intro left hleft
    rw [hpc] at hleft
    exact hleft
  · -- the connection of the attempt is given up
    rename_i stage conn text targets hpc
    obtain ⟨rfl, -⟩ := Prod.mk.inj (Option.some.inj h)
    exact hi.giveUpConn message hpc (.inl rfl)
  · cases h

/-- A new connection to the proxy. -/
theorem shaking_init (target : Ipv4Target) : Shaking .greet { target } where
  idle := ⟨rfl, fun _ => ⟨rfl, rfl⟩, .inl rfl⟩
  position := ⟨rfl, rfl, rfl⟩

/-- `connect` returns, and both streams start where the pumps begin. -/
theorem flow_connected {client : Client} {conn : Conn} (hw : Waiting client) (hi : Idle conn)
    (hproxy : conn.proxy = .connected conn.target) (hup : conn.up.queue = [])
    (hdown : conn.down.queue = conn.sent) :
    Flow client conn (.copying []) (.copying []) where
  proxy := hproxy
  toResolver := by simp [hi.received, hup, hw.sent, Pump.buffer]
  toClient := by simp [hw.received, hw.input, hdown, Pump.buffer]
  upDone hdone := by cases hdone
  downDone hdone := by cases hdone

/-- `serve` makes a step. -/
theorem Faithful.serve {n : Nat} (hi : Faithful upstreams s)
    (h : s.step (.serve n) = some (s', o)) : Faithful upstreams s' := by
  have hattempts := hi.attempts
  obtain ⟨left, htried, hleft⟩ := hi.order
  have hstreams := hi.streams
  have h : ServeStep s n (s', o) := serveStep_cases h
  cases h with
  | failed hpc =>
    rw [hpc] at hleft hstreams
    exact ⟨hattempts, ⟨left, htried, hleft⟩, hstreams⟩
  | @other text message targets hpc =>
    rw [hpc] at hstreams
    -- the target is no IPv4 address
    refine hi.giveUp text message ?_ hstreams ⟨by simp, .inr (.inl ⟨_, rfl⟩)⟩
    intro left hleft
    rw [hpc] at hleft
    exact hleft
  | connect hpc =>
    rw [hpc] at hleft hstreams
    -- a new connection
    exact ⟨hattempts, ⟨left, htried, hleft⟩, hstreams, shaking_init _⟩
  | next hpc hstep =>
    rw [hpc] at hleft hstreams
    obtain ⟨hs, htarget⟩ := hstreams.2.step hstep
    refine ⟨hattempts, ⟨left, htried, ?_⟩, hstreams.1, hs⟩
    rw [Left, htarget]
    exact hleft
  | connected hpc hstep =>
    -- the target stays at the head of those that are left
    rw [hpc, Left] at hleft
    rw [hpc] at hstreams
    obtain ⟨rfl, hproxy, hup, hdown⟩ := hstreams.2.step hstep
    refine ⟨hattempts, ⟨left, htried, ?_⟩, ?_⟩
    · rw [hleft]
      rfl
    · exact flow_connected hstreams.1 hstreams.2.idle hproxy hup hdown
  | @throws stage conn text message targets hpc hstep =>
    rw [hpc] at hstreams
    -- the proxy has refused
    exact hi.giveUpConn message hpc (.inr (hstreams.2.step hstep))
  | ended hpc =>
    rw [hpc] at hleft hstreams
    exact ⟨hattempts, ⟨left, htried, hleft⟩, hstreams⟩

/-! ## The pumps -/

/-- The pump towards the resolver makes a step. -/
theorem Faithful.pumpUp {n : Nat} (hi : Faithful upstreams s)
    (h : s.step (.pumpUp n) = some (s', o)) : Faithful upstreams s' := by
  obtain ⟨hattempts, ⟨left, htried, hleft⟩, hstreams⟩ := hi
  simp only [DnsTcpSession.step] at h
  split at h
  · rename_i conn text up down hpc
    rw [hpc] at hleft hstreams
    obtain ⟨⟨up', output, queue⟩, hstep, heq⟩ := Option.map_eq_some_iff.mp h
    obtain ⟨rfl, -⟩ := Prod.mk.inj heq
    refine ⟨hattempts, ⟨left, htried, hleft⟩, ?_⟩
    have hf : Flow s.client conn up down := hstreams
    -- the pump owns both pipes of its direction and touches nothing of the other one
    refine ⟨hf.proxy, ?_, hf.toClient, ?_, hf.downDone⟩
    · show s.client.sent = conn.received ++ (queue.queue ++ up'.buffer ++ output.queue)
      rw [Pump.step_conserves hstep]
      exact hf.toResolver
    · rintro rfl
      exact Pump.step_done hstep
  · cases h

/-- The pump towards the client makes a step. -/
theorem Faithful.pumpDown {n : Nat} (hi : Faithful upstreams s)
    (h : s.step (.pumpDown n) = some (s', o)) : Faithful upstreams s' := by
  obtain ⟨hattempts, ⟨left, htried, hleft⟩, hstreams⟩ := hi
  simp only [DnsTcpSession.step] at h
  split at h
  · rename_i conn text up down hpc
    rw [hpc] at hleft hstreams
    obtain ⟨⟨down', queue, input⟩, hstep, heq⟩ := Option.map_eq_some_iff.mp h
    obtain ⟨rfl, -⟩ := Prod.mk.inj heq
    refine ⟨hattempts, ⟨left, htried, hleft⟩, ?_⟩
    -- a pump moves bytes on without changing their order
    have hf : Flow s.client conn up down := hstreams
    refine ⟨hf.proxy, hf.toResolver, ?_, hf.upDone, ?_⟩
    · show conn.sent = s.client.received ++ (input.queue ++ down'.buffer ++ queue.queue)
      rw [Pump.step_conserves hstep]
      exact hf.toClient
    · rintro rfl
      exact Pump.step_done hstep
  · cases h

/-! ## Runs -/

/-- Every step keeps the invariant. -/
theorem Faithful.step {a : Action} (hi : Faithful upstreams s) (hok : exactReplies a)
    (h : s.step a = some (s', o)) : Faithful upstreams s' := by
  cases a with
  | clientSend bytes => exact hi.clientSend h
  | clientClose => exact hi.clientClose h
  | clientReceive n => exact hi.clientReceive h
  | proxy a => exact hi.proxy hok h
  | oldProxy k a => exact hi.oldProxy h
  | serve n => exact hi.serve h
  | ioFailure message => exact hi.ioFailure h
  | pumpUp n => exact hi.pumpUp h
  | pumpDown n => exact hi.pumpDown h

/-- The invariant holds in every run with exact replies. -/
theorem faithful_of_reach {tr : List String}
    (h : (machine upstreams).Reach (fun _ a => exactReplies a) s tr) : Faithful upstreams s :=
  h.inv (P := fun s _ => Faithful upstreams s) (faithful_init upstreams)
    (fun hi hok hstep => hi.step hok hstep)

end Step

end DnsTcpSession

end OpenFlux
