import OpenFlux.Spec.DnsTcpStreams

/-!
# Does the client get exactly the resolver's bytes?

`Socks5.connect` reads ten bytes of reply, whatever the type of the bound address in it.  A
reply with an IPv6 address is longer, and its rest comes to the client as if the resolver had
sent it; behind a reply with a short domain name the first bytes of the resolver are missing.
Where every reply that accepts has ten bytes, `connect` returns at the first byte of the
resolver.

What is under way arrives: while the relay, the proxy or a reader can still do something, each
of its steps lowers `cost`, and where none of them can, everything was delivered.

## Key results

- `Faithful.step_cost`, `Faithful.settled`: the relay comes to rest, and then nothing is left
- `delivers_exactly`: the client's bytes go to the first resolver that the proxy connects to,
  and the client gets that resolver's bytes
- `reply_with_ipv6`: a client receives twelve bytes that no resolver has sent
-/

namespace OpenFlux

open Socks5

namespace DnsTcpSession

/-- The connection to the resolver, once `connectUpstream` has returned it. -/
def Pc.upstream? : Pc → Option Conn
  | .relay conn _ _ _ | .ended conn _ => some conn
  | .connect _ | .handshake .. | .failed => none

/-! ## The relay comes to rest -/

/-- A step of the relay, an answer of the proxy, or a read of what has arrived. -/
def Action.isInternal : Action → Bool
  | .serve _ | .pumpUp _ | .pumpDown _ | .clientReceive _ => true
  | .proxy a => a.isAnswer
  | .clientSend _ | .clientClose | .oldProxy .. | .ioFailure _ => false

/-- A byte that the client has sent is still to be read by the pump, written by it and taken by the
    resolver; one that has come back is still to be read. -/
def Client.cost (client : Client) : Nat :=
  3 * client.output.queue.length + client.input.queue.length

/-- A bound on the internal steps that are left. -/
def cost (s : DnsTcpSession) : Nat :=
  match s.pc with
  | .connect targets => 25 * targets.length + 4 + s.client.cost
  | .handshake stage conn _ targets =>
    25 * targets.length + 4 + (stage.cost + conn.cost) + s.client.cost
  | .relay conn _ up down =>
    Pump.cost s.client.output conn.up up + Pump.cost conn.down s.client.input down + 1
  | .ended conn _ =>
    Pump.cost s.client.output conn.up .done + Pump.cost conn.down s.client.input .done
  | .failed => s.client.cost

section Rest

variable {upstreams : List Target} {s s' : DnsTcpSession} {o : List String}

/-- The client reads a byte or more. -/
theorem step_cost_clientReceive {n : Nat} (h : s.step (.clientReceive n) = some (s', o)) :
    s'.cost < s.cost := by
  obtain ⟨client, hreceive, heq⟩ := Option.map_eq_some_iff.mp h
  obtain ⟨rfl, -⟩ := Prod.mk.inj heq
  obtain ⟨⟨chunk, input⟩, hread, rfl⟩ := Option.map_eq_some_iff.mp hreceive
  obtain ⟨hqueue, hne, -⟩ := Pipe.read_eq_some hread
  have hpos := List.length_pos_iff.mpr hne
  have hlength := congrArg List.length hqueue
  rw [List.length_append] at hlength
  -- a byte in the client's input counts once, wherever `serve` is
  cases hpc : s.pc <;> simp only [cost, hpc, Client.cost, Pump.cost] <;> omega

/-- The pump towards the resolver moves bytes on, or comes to its end. -/
theorem step_cost_pumpUp {n : Nat} (h : s.step (.pumpUp n) = some (s', o)) :
    s'.cost < s.cost := by
  simp only [DnsTcpSession.step] at h
  split at h
  · rename_i conn text up down hpc
    obtain ⟨⟨up', output, queue⟩, hstep, heq⟩ := Option.map_eq_some_iff.mp h
    obtain ⟨rfl, -⟩ := Prod.mk.inj heq
    have hlt := Pump.step_cost hstep
    simp only [cost, hpc]
    omega
  · cases h

/-- The pump towards the client moves a byte or more, or ends. -/
theorem step_cost_pumpDown {n : Nat} (h : s.step (.pumpDown n) = some (s', o)) :
    s'.cost < s.cost := by
  simp only [DnsTcpSession.step] at h
  split at h
  · rename_i conn text up down hpc
    obtain ⟨⟨down', queue, input⟩, hstep, heq⟩ := Option.map_eq_some_iff.mp h
    obtain ⟨rfl, -⟩ := Prod.mk.inj heq
    have hlt := Pump.step_cost hstep
    simp only [cost, hpc]
    omega
  · cases h

/-- Behind the handshake the proxy only takes what the relay has written. -/
theorem Flow.proxyStep_answer {client : Client} {conn conn' : Conn} {up down : Pump UInt8}
    {a : ProxyAction} (hf : Flow client conn up down) (ha : a.isAnswer)
    (h : conn.proxyStep a = some conn') :
    conn'.up.queue.length < conn.up.queue.length ∧ conn'.down = conn.down := by
  obtain ⟨n, chunk, queue, -, hread, rfl⟩ | ⟨bytes, rfl, -, -⟩ | ⟨rfl, -⟩ :=
    proxyStep_connected hf.proxy h
  · obtain ⟨hqueue, hne, -⟩ := Pipe.read_eq_some hread
    have hpos := List.length_pos_iff.mpr hne
    refine ⟨?_, rfl⟩
    show queue.queue.length < conn.up.queue.length
    rw [hqueue, List.length_append]
    omega
  · cases ha
  · cases ha

/-- The proxy answers a message, or takes bytes for the resolver. -/
theorem Faithful.step_cost_proxy {a : ProxyAction} (hi : Faithful upstreams s)
    (ha : a.isAnswer) (h : s.step (.proxy a) = some (s', o)) : s'.cost < s.cost := by
  have hstreams := hi.streams
  simp only [DnsTcpSession.step] at h
  split at h
  · cases h
  · rename_i conn hconn
    obtain ⟨conn', hstep, heq⟩ := Option.map_eq_some_iff.mp h
    obtain ⟨rfl, -⟩ := Prod.mk.inj heq
    cases hpc : s.pc with
    | connect targets | failed => simp [hpc, Pc.conn?] at hconn
    | handshake stage conn₀ text targets =>
      rw [hpc] at hconn hstreams
      obtain rfl := Option.some.inj hconn
      -- in the handshake an answer is worth less than what it answers
      have hlt := hstreams.2.idle.proxyStep_cost ha hstep
      simp only [cost, hpc, Pc.setConn]
      omega
    | relay conn₀ text up down | ended conn₀ text =>
      rw [hpc] at hconn hstreams
      obtain rfl := Option.some.inj hconn
      obtain ⟨hlt, hdown⟩ := Flow.proxyStep_answer hstreams ha hstep
      simp only [cost, hpc, Pc.setConn, Pump.cost, hdown]
      omega

/-- In the handshake there is always something left to do. -/
theorem stage_cost_pos (stage : Stage) : 0 < stage.cost := by
  cases stage <;> simp only [Stage.cost] <;> omega

/-- `serve` goes on to its next place. -/
theorem Faithful.step_cost_serve {n : Nat} (hi : Faithful upstreams s)
    (h : s.step (.serve n) = some (s', o)) : s'.cost < s.cost := by
  have hstreams := hi.streams
  have h : ServeStep s n (s', o) := serveStep_cases h
  cases h with
  | failed hpc =>
    simp only [cost, hpc]
    omega
  | other hpc =>
    simp only [cost, hpc, List.length_cons]
    omega
  | @connect target text targets hpc =>
    -- a whole handshake costs less than the 25 of its target
    have hfirst : Stage.greet.cost + ({ target } : Conn).cost = 19 := rfl
    simp only [cost, hpc, List.length_cons, hfirst]
    omega
  | next hpc hstep =>
    have hlt := Stage.step_cost hstep
    simp only [cost, hpc]
    omega
  | @connected stage conn conn' text targets hpc hstep =>
    rw [hpc] at hstreams
    obtain ⟨rfl, -, hup, hdown⟩ := hstreams.2.step hstep
    have hpos := stage_cost_pos stage
    -- what the resolver has sent already is now for the pump to copy
    simp only [cost, hpc, Pump.cost, Pump.buffer, Pump.isDone, hup, hdown, Conn.cost,
      Client.cost, List.length_nil, Bool.false_eq_true, if_false]
    omega
  | @throws stage conn text message targets hpc hstep =>
    -- the target is already taken off the list
    have hpos := stage_cost_pos stage
    simp only [cost, hpc]
    omega
  | ended hpc =>
    simp only [cost, hpc]
    omega

/-- Each internal step brings the relay closer to rest. -/
theorem Faithful.step_cost {a : Action} (hi : Faithful upstreams s) (ha : a.isInternal)
    (h : s.step a = some (s', o)) : s'.cost < s.cost := by
  cases a with
  | serve n => exact hi.step_cost_serve h
  | pumpUp n => exact step_cost_pumpUp h
  | pumpDown n => exact step_cost_pumpDown h
  | clientReceive n => exact step_cost_clientReceive h
  | proxy a => exact hi.step_cost_proxy ha h
  | clientSend bytes | clientClose | oldProxy k a | ioFailure message => cases ha

/-! ## At rest -/

/-- No internal step is possible. -/
def AtRest (s : DnsTcpSession) : Prop := ∀ a : Action, a.isInternal → s.step a = none

/-- At rest the session has read everything that the client has sent. -/
theorem AtRest.input (hrest : AtRest s) : s.client.input.queue = [] := by
  by_contra hne
  have hsome : (s.step (.clientReceive 1)).isSome := by
    simp only [DnsTcpSession.step, Client.receive, Option.isSome_map]
    exact Pipe.read_isSome Nat.one_ne_zero hne
  rw [hrest (.clientReceive 1) rfl] at hsome
  cases hsome

/-- At rest the resolver has taken everything. -/
theorem AtRest.up (hrest : AtRest s) {conn : Conn} (hconn : s.pc.conn? = some conn)
    {resolver : Ipv4Target} (hproxy : conn.proxy = .connected resolver) :
    conn.up.queue = [] := by
  by_contra hne
  have hsome : (s.step (.proxy (.resolverReceive 1))).isSome := by
    simp only [DnsTcpSession.step, hconn, Conn.proxyStep, hproxy, Option.isSome_map]
    exact Pipe.read_isSome Nat.one_ne_zero hne
  rw [hrest (.proxy (.resolverReceive 1)) rfl] at hsome
  cases hsome

/-- Everything that was sent on either side has arrived. -/
theorem Flow.delivered {conn : Conn} {up down : Pump UInt8}
    (hf : Flow s.client conn up down) (hrest : AtRest s) (hconn : s.pc.conn? = some conn)
    (hup : up.buffer = [] ∧ s.client.output.queue = [])
    (hdown : down.buffer = [] ∧ conn.down.queue = []) :
    conn.received = s.client.sent ∧ s.client.received = conn.sent := by
  constructor
  · rw [hf.toResolver, hrest.up hconn hf.proxy, hup.1, hup.2]
    simp
  · rw [hf.toClient, hrest.input, hdown.1, hdown.2]
    simp

/-- Every target was given up, or both streams are complete. -/
def Settled (upstreams : List Target) (s : DnsTcpSession) : Prop :=
  (s.pc = .failed ∧ upstreams = s.attempts.map (·.target)) ∨
    ∃ conn, s.pc.upstream? = some conn ∧ conn.received = s.client.sent ∧
      s.client.received = conn.sent

/-- `serve` and the proxy do not both wait during the handshake. -/
theorem AtRest.not_handshake {stage : Stage} {conn : Conn} {text : String}
    {targets : List Target} (hrest : AtRest s) (hs : Shaking stage conn) :
    s.pc ≠ .handshake stage conn text targets := by
  intro hpc
  obtain hserve | ⟨a, ha, hproxy⟩ := hs.goesOn text
  · have hnone := hrest (.serve 1) rfl
    obtain ⟨out, hstep⟩ := Option.isSome_iff_exists.mp hserve
    simp only [DnsTcpSession.step, serveStep, hpc, hstep] at hnone
    cases out <;> cases hnone
  · have hnone := hrest (.proxy a) ha
    simp only [DnsTcpSession.step, hpc, Pc.conn?, Option.map_eq_none_iff] at hnone
    rw [hnone] at hproxy
    cases hproxy

/-- A relay at rest has served its client, or has tried all the targets. -/
theorem Faithful.settled (hi : Faithful upstreams s) (hrest : AtRest s) :
    Settled upstreams s := by
  obtain ⟨-, ⟨left, htried, hleft⟩, hstreams⟩ := hi
  cases hpc : s.pc with
  | connect targets =>
    -- `connectUpstream` never waits
    have hnone := hrest (.serve 1) rfl
    cases targets with
    | nil => simp [DnsTcpSession.step, serveStep, hpc] at hnone
    | cons target targets => cases target <;> simp [DnsTcpSession.step, serveStep, hpc] at hnone
  | handshake stage conn text targets =>
    rw [hpc] at hstreams
    exact absurd hpc (hrest.not_handshake hstreams.2)
  | relay conn text up down =>
    have hf : Flow s.client conn up down := by rwa [hpc] at hstreams
    -- both pumps wait for bytes or are done, so there are none
    have hup := hrest (.pumpUp 1) rfl
    have hdown := hrest (.pumpDown 1) rfl
    simp only [DnsTcpSession.step, hpc, Option.map_eq_none_iff] at hup hdown
    refine .inr ⟨conn, by rw [hpc]; rfl, ?_⟩
    exact hf.delivered hrest (by rw [hpc]; rfl) (Pump.empty_of_step_eq_none hup hf.upDone)
      (Pump.empty_of_step_eq_none hdown hf.downDone)
  | ended conn text =>
    have hf : Flow s.client conn .done .done := by rwa [hpc] at hstreams
    refine .inr ⟨conn, by rw [hpc]; rfl, ?_⟩
    exact hf.delivered hrest (by rw [hpc]; rfl)
      ⟨rfl, (Pipe.atEnd_iff.mp (hf.upDone rfl)).1⟩ ⟨rfl, (Pipe.atEnd_iff.mp (hf.downDone rfl)).1⟩
  | failed =>
    rw [hpc] at hleft
    have hnil : left = [] := hleft
    -- no target is left
    refine .inl ⟨hpc, ?_⟩
    rw [htried, hnil, List.append_nil]

end Rest

/-! ## The result -/

/-- The client's bytes go to one resolver, the first that the proxy connects to, and that
    resolver's bytes come back. -/
structure Delivers (upstreams : List Target) (s : DnsTcpSession) : Prop where
  /-- the upstream is the resolver behind the targets that were given up -/
  first : ∀ conn, s.pc.upstream? = some conn → conn.proxy = .connected conn.target ∧
    ∃ text rest, upstreams = s.attempts.map (·.target) ++ .ipv4 conn.target text :: rest
  /-- those targets did not succeed -/
  unsuccessful : ∀ a ∈ s.attempts, a.ioFailed = true ∨ (∃ text, a.target = .other text) ∨
    ∃ conn, a.conn = some conn ∧ Refused conn
  /-- no other resolver has got anything -/
  noOther : ∀ a ∈ s.attempts, ∀ conn, a.conn = some conn → conn.received = []
  /-- before there is an upstream, nobody has got anything -/
  before : s.pc.upstream? = none →
    s.client.received = [] ∧ ∀ conn, s.pc.conn? = some conn → conn.received = []
  /-- what has arrived is what was sent, from the first byte on -/
  toResolver : ∀ conn, s.pc.upstream? = some conn → conn.received <+: s.client.sent
  toClient : ∀ conn, s.pc.upstream? = some conn → s.client.received <+: conn.sent
  /-- the relay comes to rest -/
  progress : ∀ a : Action, a.isInternal → ∀ s' o, s.step a = some (s', o) → s'.cost < s.cost
  /-- and then everything has arrived -/
  settled : AtRest s → Settled upstreams s

section Result

variable {upstreams : List Target} {s : DnsTcpSession}

/-- Behind the handshake both streams flow. -/
theorem Faithful.flow {conn : Conn} (hi : Faithful upstreams s)
    (hconn : s.pc.upstream? = some conn) :
    (∃ up down, Flow s.client conn up down) ∧
      ∃ text rest, upstreams = s.attempts.map (·.target) ++ .ipv4 conn.target text :: rest := by
  obtain ⟨-, ⟨left, htried, hleft⟩, hstreams⟩ := hi
  cases hpc : s.pc with
  -- no upstream yet
  | connect targets | handshake stage conn₀ text targets | failed =>
    simp [hpc, Pc.upstream?] at hconn
  | relay conn₀ text up down =>
    rw [hpc] at hconn hleft hstreams
    obtain rfl := Option.some.inj hconn
    obtain ⟨rest, rfl⟩ := List.head?_eq_some_iff.mp hleft
    exact ⟨⟨up, down, hstreams⟩, text, rest, htried⟩
  | ended conn₀ text =>
    rw [hpc] at hconn hleft hstreams
    obtain rfl := Option.some.inj hconn
    obtain ⟨rest, rfl⟩ := List.head?_eq_some_iff.mp hleft
    exact ⟨⟨.done, .done, hstreams⟩, text, rest, htried⟩

/-- Before that nothing has arrived anywhere. -/
theorem Faithful.before (hi : Faithful upstreams s) (hnone : s.pc.upstream? = none) :
    s.client.received = [] ∧ ∀ conn, s.pc.conn? = some conn → conn.received = [] := by
  have hstreams := hi.streams
  cases hpc : s.pc with
  | connect targets | failed =>
    rw [hpc] at hstreams
    exact ⟨hstreams.received, by simp [Pc.conn?]⟩
  | handshake stage conn text targets =>
    rw [hpc] at hstreams
    exact ⟨hstreams.1.received, by simpa [Pc.conn?] using hstreams.2.idle.received⟩
  | relay conn text up down | ended conn text => simp [hpc, Pc.upstream?] at hnone

/-- The invariant has all of this in it. -/
theorem Faithful.delivers (hi : Faithful upstreams s) : Delivers upstreams s where
  first conn hconn := by
    obtain ⟨⟨up, down, hf⟩, hfirst⟩ := hi.flow hconn
    exact ⟨hf.proxy, hfirst⟩
  unsuccessful a ha := (hi.attempts a ha).reason
  noOther a ha conn hconn := ((hi.attempts a ha).idle conn hconn).received
  before := hi.before
  toResolver conn hconn := by
    obtain ⟨⟨up, down, hf⟩, -⟩ := hi.flow hconn
    exact ⟨_, hf.toResolver.symm⟩
  toClient conn hconn := by
    obtain ⟨⟨up, down, hf⟩, -⟩ := hi.flow hconn
    exact ⟨_, hf.toClient.symm⟩
  progress a ha s' o h := hi.step_cost ha h
  settled := hi.settled

/-- **The client gets exactly the resolver's bytes**, if every reply that accepts a CONNECT has
    ten bytes. -/
theorem delivers_exactly {tr : List String}
    (h : (machine upstreams).Reach (fun _ a => exactReplies a) s tr) : Delivers upstreams s :=
  (faithful_of_reach h).delivers

end Result

/-- The proxy refuses the first resolver, with a long reply, and connects to the second. -/
theorem delivers_exactly_second : ∃ s tr,
    (machine defaultUpstreams).Reach (fun _ a => exactReplies a) s tr ∧
      (s.attempts.length = 1 ∧ s.client.received = [1, 2] ∧
        s.pc.upstream?.map (·.received) = some [7, 8, 9]) ∧
      Delivers defaultUpstreams s := by
  obtain ⟨s, tr, hreach, hpred⟩ :=
    (machine defaultUpstreams).exists_reach (fun _ a => exactReplies a)
      (fun s _ => s.attempts.length = 1 && (s.client.received = [1, 2] &&
        s.pc.upstream?.map (·.received) = some [7, 8, 9]))
      [.clientSend [7, 8, 9], .serve 1, .serve 1, .proxy (.method true), .serve 1, .serve 1,
        .serve 1, .serve 1, .proxy (.reply 5 (.ipv6 (.replicate 16 0)) 0), .serve 99, .serve 1,
        .serve 1, .serve 1, .proxy (.method true), .serve 99, .serve 1, .serve 1,
        .proxy (.reply 0 (.ipv4 127 0 0 1) 9050), .proxy (.resolverSend [1, 2]), .serve 4,
        .serve 99, .serve 1, .pumpDown 1, .pumpUp 2, .pumpUp 2, .pumpUp 2, .pumpUp 2, .pumpDown 1,
        .pumpDown 1, .pumpDown 1, .clientReceive 9, .proxy (.resolverReceive 9)]
      (by decide +kernel)
  simp only [Bool.and_eq_true, decide_eq_true_eq] at hpred
  exact ⟨s, tr, hreach, hpred, delivers_exactly hreach⟩

/-- The client has got something that the resolver has not sent. -/
theorem not_delivers {upstreams : List Target} {s : DnsTcpSession} {sent : List UInt8}
    (hsent : s.pc.upstream?.map (·.sent) = some sent) (hnot : ¬ s.client.received <+: sent) :
    ¬ Delivers upstreams s := by
  intro hdelivers
  obtain ⟨conn, hconn, rfl⟩ := Option.map_eq_some_iff.mp hsent
  exact hnot (hdelivers.toClient conn hconn)

/-- A reply with an IPv6 address is twelve bytes longer than what `connect` reads: the client
    receives the rest of it, while the resolver has sent nothing.  A reply with a domain name of
    one character is two bytes shorter: the first two bytes of the resolver are missing. -/
theorem reply_with_ipv6 :
    (∃ s tr, (machine defaultUpstreams).Reachable s tr ∧
      s.pc.upstream?.map (·.sent) = some [] ∧ s.client.received = List.replicate 12 0 ∧
      ¬ Delivers defaultUpstreams s) ∧
    (∃ s tr, (machine defaultUpstreams).Reachable s tr ∧
      s.pc.upstream?.map (·.sent) = some [1, 2, 3] ∧ s.client.received = [3] ∧
      ¬ Delivers defaultUpstreams s) := by
  constructor
  · -- an IPv6 reply is twelve bytes longer than what is read of it
    obtain ⟨s, tr, hreach, hpred⟩ :=
      (machine defaultUpstreams).exists_reach (fun _ _ => True)
        (fun s _ => s.pc.upstream?.map (·.sent) = some [] &&
          s.client.received = List.replicate 12 0)
        [.serve 1, .serve 1, .proxy (.method true), .serve 2, .serve 1, .serve 1,
          .proxy (.reply 0 (.ipv6 (.replicate 16 0)) 0), .serve 10, .serve 1, .pumpDown 99,
          .pumpDown 1, .clientReceive 99] (by decide +kernel)
    simp only [Bool.and_eq_true, decide_eq_true_eq] at hpred
    refine ⟨s, tr, hreach, hpred.1, hpred.2, not_delivers hpred.1 ?_⟩
    -- what the client has got is no prefix of what was sent
    rw [hpred.2]
    decide
  · -- a short domain makes the reply shorter: the first bytes of the answer are taken for it
    obtain ⟨s, tr, hreach, hpred⟩ :=
      (machine defaultUpstreams).exists_reach (fun _ _ => True)
        (fun s _ => s.pc.upstream?.map (·.sent) = some [1, 2, 3] && s.client.received = [3])
        [.serve 1, .serve 1, .proxy (.method true), .serve 2, .serve 1, .serve 1,
          .proxy (.reply 0 (.domain ⟨[97], by decide⟩) 0), .proxy (.resolverSend [1, 2, 3]),
          .serve 10, .serve 1, .pumpDown 99, .pumpDown 1, .clientReceive 99] (by decide +kernel)
    simp only [Bool.and_eq_true, decide_eq_true_eq] at hpred
    refine ⟨s, tr, hreach, hpred.1, hpred.2, not_delivers hpred.1 ?_⟩
    rw [hpred.2]
    decide

end DnsTcpSession

end OpenFlux
