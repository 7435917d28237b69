import OpenFlux.Model.Socks5

/-!
# The SOCKS5 handshake, byte for byte

Where the proxy stands and what is in both directions of the connection determine each other
during the handshake, however the reads are split.  `connect` takes exactly ten bytes of
reply, so it ends at the first byte of the resolver only where the reply has ten bytes.

## Key results

- `proxyStep_greeting`, `proxyStep_request`, `proxyStep_refusing`, `proxyStep_connected`: what
  the proxy can do
- `Shaking.proxyStep`, `Shaking.step`: the handshake stays in step with the proxy; `connect`
  returns at the first byte of the resolver, and throws only if the proxy has refused
- `Shaking.goesOn`: `connect` and the proxy do not wait for each other
-/

namespace OpenFlux

open BigEndian

namespace Socks5

/-! ## What the proxy can do -/

section Proxy

variable {c c' : Conn} {a : ProxyAction} {target : Ipv4Target}

/-- The proxy answers a greeting. -/
theorem proxyStep_greeting (hproxy : c.proxy = .greeting) (hqueue : c.up.queue = greeting)
    (h : c.proxyStep a = some c') :
    ∃ accept : Bool, c' = { c with
      up := { c.up with queue := [] }
      down := c.down.write [5, if accept then 0 else 0xFF]
      proxy := if accept then .request else .noMethod } := by
  cases a with
  | method accept =>
    simp only [Conn.proxyStep, hproxy, hqueue, greeting] at h
    rw [Option.ite_none_left_eq_some] at h
    exact ⟨accept, (Option.some.inj h.2).symm⟩
  | reply => simp [Conn.proxyStep, hproxy] at h
  | _ => simp [Conn.proxyStep, hproxy] at h

/-- The proxy answers a request, and connects to the target that the request names. -/
theorem proxyStep_request (hproxy : c.proxy = .request)
    (hqueue : c.up.queue = requestBytes target) (h : c.proxyStep a = some c') :
    ∃ rep bound port, a = .reply rep bound port ∧ c' = { c with
      up := { c.up with queue := [] }
      down := c.down.write (replyBytes rep bound port)
      proxy := if rep = 0 then .connected target else .refused } := by
  cases a with
  | reply rep bound port =>
    simp only [Conn.proxyStep, hproxy, hqueue, requestBytes, write16, List.cons_append,
      List.nil_append, read16_write16, Option.some.injEq] at h
    exact ⟨rep, bound, port, rfl, h.symm⟩
  | method => simp [Conn.proxyStep, hproxy] at h
  | _ => simp [Conn.proxyStep, hproxy] at h

/-- The proxy waits for bytes. -/
theorem proxyStep_waiting (hproxy : c.proxy = .greeting ∨ c.proxy = .request)
    (hqueue : c.up.queue = []) : c.proxyStep a = none := by
  obtain hproxy | hproxy := hproxy <;> cases a <;> simp [Conn.proxyStep, hproxy, hqueue]

/-- The proxy closes a connection that it has refused. -/
theorem proxyStep_refusing (hproxy : c.proxy = .noMethod ∨ c.proxy = .refused)
    (h : c.proxyStep a = some c') :
    a = .close ∧ c.down.closed = false ∧ c' = { c with down := c.down.close } := by
  obtain hproxy | hproxy := hproxy <;> cases a <;>
    simp [Conn.proxyStep, hproxy] at h <;> exact ⟨rfl, h.1, by rw [hproxy, ← h.2]⟩

/-- Once connected the proxy carries bytes. -/
theorem proxyStep_connected {resolver : Ipv4Target} (hproxy : c.proxy = .connected resolver)
    (h : c.proxyStep a = some c') :
    (∃ n chunk up, a = .resolverReceive n ∧ c.up.read n = some (chunk, up) ∧
      c' = { c with up, received := c.received ++ chunk }) ∨
    (∃ bytes, a = .resolverSend bytes ∧ c.down.closed = false ∧
      c' = { c with down := c.down.write bytes, sent := c.sent ++ bytes }) ∨
    (a = .resolverClose ∧ c' = { c with down := c.down.close }) := by
  cases a with
  | method => simp [Conn.proxyStep, hproxy] at h
  | reply => simp [Conn.proxyStep, hproxy] at h
  | close => simp [Conn.proxyStep, hproxy] at h
  | resolverReceive n =>
    -- it only carries bytes from now on
    simp only [Conn.proxyStep, hproxy] at h
    obtain ⟨⟨chunk, up⟩, hread, rfl⟩ := Option.map_eq_some_iff.mp h
    exact .inl ⟨n, chunk, up, rfl, hread, by simp [hproxy]⟩
  | resolverSend bytes =>
    simp only [Conn.proxyStep, hproxy, Option.ite_none_left_eq_some, Bool.not_eq_true] at h
    obtain ⟨hclosed, h⟩ := h
    exact .inr (.inl ⟨bytes, rfl, hclosed, by simpa [hproxy] using (Option.some.inj h).symm⟩)
  | resolverClose =>
    simp only [Conn.proxyStep, hproxy] at h
    exact .inr (.inr ⟨rfl, by simpa [hproxy] using (Option.some.inj h).symm⟩)

end Proxy

/-! ## A connection that is not used -/

/-- Nothing has reached the resolver, and nothing but the handshake is on its way. -/
structure Idle (c : Conn) : Prop where
  received : c.received = []
  /-- before the reply nothing comes from the resolver, and the stream does not end -/
  before : c.proxy = .greeting ∨ c.proxy = .request → c.sent = [] ∧ c.down.closed = false
  queue : c.up.queue = [] ∨ (c.proxy = .greeting ∧ c.up.queue = greeting) ∨
    (c.proxy = .request ∧ c.up.queue = requestBytes c.target)

/-- The proxy has turned the connection down. -/
def Refused (c : Conn) : Prop := c.proxy = .noMethod ∨ c.proxy = .refused

/-- What the proxy can do with a connection that is not used: answer, close what it has
    refused, or pass on what its resolver does. -/
theorem Idle.proxyStep_cases {c c' : Conn} {a : ProxyAction} (hi : Idle c)
    (h : c.proxyStep a = some c') :
    (c.proxy = .greeting ∧ ∃ accept : Bool, c' = { c with
      up := { c.up with queue := [] }
      down := c.down.write [5, if accept then 0 else 0xFF]
      proxy := if accept then .request else .noMethod }) ∨
    (c.proxy = .request ∧ ∃ rep bound port, c' = { c with
      up := { c.up with queue := [] }
      down := c.down.write (replyBytes rep bound port)
      proxy := if rep = 0 then .connected c.target else .refused }) ∨
    (Refused c ∧ c.down.closed = false ∧ c' = { c with down := c.down.close }) ∨
    (∃ resolver, c.proxy = .connected resolver ∧
      ((∃ bytes, a = .resolverSend bytes ∧
        c' = { c with down := c.down.write bytes, sent := c.sent ++ bytes }) ∨
      (a = .resolverClose ∧ c' = { c with down := c.down.close }))) := by
  obtain hqueue | ⟨hproxy, hqueue⟩ | ⟨hproxy, hqueue⟩ := hi.queue
  · cases hproxy : c.proxy with
    | greeting =>
      -- it waits for a greeting or a request that was not sent
      rw [proxyStep_waiting (.inl hproxy) hqueue] at h
      cases h
    | request =>
      rw [proxyStep_waiting (.inr hproxy) hqueue] at h
      cases h
    | noMethod =>
      obtain ⟨-, hopen, hclose⟩ := proxyStep_refusing (.inl hproxy) h
      exact .inr (.inr (.inl ⟨.inl hproxy, hopen, by rw [hclose, hproxy]⟩))
    | refused =>
      obtain ⟨-, hopen, hclose⟩ := proxyStep_refusing (.inr hproxy) h
      exact .inr (.inr (.inl ⟨.inr hproxy, hopen, by rw [hclose, hproxy]⟩))
    | connected resolver =>
      obtain ⟨n, chunk, up, -, hread, -⟩ | ⟨bytes, ha, -, hsend⟩ | ⟨ha, hclose⟩ :=
        proxyStep_connected hproxy h
      · -- there is nothing to receive
        rw [Pipe.read_of_nil hqueue] at hread
        cases hread
      · exact .inr (.inr (.inr ⟨resolver, rfl, .inl ⟨bytes, ha, by rw [hsend, hproxy]⟩⟩))
      · exact .inr (.inr (.inr ⟨resolver, rfl, .inr ⟨ha, by rw [hclose, hproxy]⟩⟩))
  · exact .inl ⟨hproxy, proxyStep_greeting hproxy hqueue h⟩
  · obtain ⟨rep, bound, port, -, hreply⟩ := proxyStep_request hproxy hqueue h
    exact .inr (.inl ⟨hproxy, rep, bound, port, hreply⟩)

/-- A connection that was turned down stays so. -/
theorem Refused.proxyStep {c c' : Conn} {a : ProxyAction} (hr : Refused c)
    (h : c.proxyStep a = some c') : Refused c' := by
  rw [(proxyStep_refusing hr h).2.2]
  exact hr

/-- A connection stays unused, whatever the proxy does. -/
theorem Idle.proxyStep {c c' : Conn} {a : ProxyAction} (hi : Idle c)
    (h : c.proxyStep a = some c') : Idle c' ∧ c'.target = c.target := by
  obtain ⟨hproxy, accept, rfl⟩ | ⟨hproxy, rep, bound, port, rfl⟩ | ⟨hrefused, -, rfl⟩ |
    ⟨resolver, hproxy, ⟨bytes, -, rfl⟩ | ⟨-, rfl⟩⟩ := hi.proxyStep_cases h
  · exact ⟨⟨hi.received, fun _ => hi.before (.inl hproxy), .inl rfl⟩, rfl⟩
  · refine ⟨⟨hi.received, ?_, .inl rfl⟩, rfl⟩
    -- the reply is given, so nothing is before it any more
    intro hproxy'
    by_cases hrep : rep = 0 <;> simp [hrep] at hproxy'
  · refine ⟨⟨hi.received, ?_, hi.queue⟩, rfl⟩
    intro hproxy
    obtain hrefused | hrefused := hrefused <;> simp [hrefused] at hproxy
  · exact ⟨⟨hi.received, by simp [hproxy], hi.queue⟩, rfl⟩
  · exact ⟨⟨hi.received, by simp [hproxy], hi.queue⟩, rfl⟩

/-! ## The handshake -/

/-- A reply that accepts a CONNECT has ten bytes. -/
def exactReply : ProxyAction → Bool
  | .reply rep bound port => rep ≠ 0 || (replyBytes rep bound port).length = 10
  | _ => true

/-- What both directions hold, for each place of `connect` and of the proxy. -/
def Position (c : Conn) : Stage → Prop
  | .greet => c.proxy = .greeting ∧ c.up.queue = [] ∧ c.down.queue = []
  | .method got =>
    (c.proxy = .greeting ∧ c.up.queue = greeting ∧ got ++ c.down.queue = []) ∨
    (c.proxy = .request ∧ c.up.queue = [] ∧ got ++ c.down.queue = [5, 0]) ∨
    (c.proxy = .noMethod ∧ c.up.queue = [] ∧ got ++ c.down.queue = [5, 0xFF])
  | .request => c.proxy = .request ∧ c.up.queue = [] ∧ c.down.queue = []
  | .reply got => got.length ≤ 10 ∧
    ((c.proxy = .request ∧ c.up.queue = requestBytes c.target ∧ got ++ c.down.queue = []) ∨
    (c.proxy = .refused ∧ c.up.queue = [] ∧ ∃ rep bound port, rep ≠ 0 ∧
      got ++ c.down.queue = replyBytes rep bound port) ∨
    (c.proxy = .connected c.target ∧ c.up.queue = [] ∧ ∃ bound port,
      (replyBytes 0 bound port).length = 10 ∧
      got ++ c.down.queue = replyBytes 0 bound port ++ c.sent))

/-- The handshake is at `stage`. -/
structure Shaking (stage : Stage) (c : Conn) : Prop where
  idle : Idle c
  position : Position c stage

section Shaking

variable {stage stage' : Stage} {c c' : Conn}

/-- Whatever the proxy does, it stays in step. -/
theorem Shaking.proxyStep {a : ProxyAction} (hs : Shaking stage c) (hok : exactReply a)
    (h : c.proxyStep a = some c') : Shaking stage c' ∧ c'.target = c.target := by
  obtain ⟨hidle, htarget⟩ := hs.idle.proxyStep h
  refine ⟨⟨hidle, ?_⟩, htarget⟩
  have hpos := hs.position
  cases stage with
  | greet =>
    -- the proxy waits for the greeting
    obtain ⟨hproxy, hup, -⟩ := hpos
    rw [proxyStep_waiting (.inl hproxy) hup] at h
    cases h
  | request =>
    -- and here for the request
    obtain ⟨hproxy, hup, -⟩ := hpos
    rw [proxyStep_waiting (.inr hproxy) hup] at h
    cases h
  | method got =>
    obtain ⟨hproxy, hup, hdown⟩ | ⟨hproxy, hup, -⟩ | ⟨hproxy, hup, hdown⟩ := hpos
    · obtain ⟨accept, rfl⟩ := proxyStep_greeting hproxy hup h
      have hgot : got ++ (c.down.queue ++ [5, if accept then 0 else 0xFF]) =
          [5, if accept then 0 else 0xFF] := by
        rw [← List.append_assoc, hdown, List.nil_append]
      cases accept
      · exact .inr (.inr ⟨rfl, rfl, hgot⟩)
      · exact .inr (.inl ⟨rfl, rfl, hgot⟩)
    · rw [proxyStep_waiting (.inr hproxy) hup] at h
      cases h
    · rw [(proxyStep_refusing (.inl hproxy) h).2.2]
      exact .inr (.inr ⟨hproxy, hup, hdown⟩)
  | reply got =>
    obtain ⟨hlen, hpos⟩ := hpos
    refine ⟨hlen, ?_⟩
    obtain ⟨hproxy, hup, hdown⟩ | ⟨hproxy, hup, hdown⟩ | ⟨hproxy, hup, bound, port, hten, hdown⟩ :=
      hpos
    · obtain ⟨rep, bound, port, rfl, rfl⟩ := proxyStep_request hproxy hup h
      have hgot : got ++ (c.down.queue ++ replyBytes rep bound port) =
          replyBytes rep bound port := by
        rw [← List.append_assoc, hdown, List.nil_append]
      by_cases hrep : rep = 0
      · subst hrep
        -- what the resolver sends from now on follows the reply
        have hsent := (hs.idle.before (.inr hproxy)).1
        refine .inr (.inr ⟨rfl, rfl, bound, port, by simpa [exactReply] using hok, ?_⟩)
        rw [hsent, List.append_nil]
        exact hgot
      · exact .inr (.inl ⟨by simp [hrep], rfl, rep, bound, port, hrep, hgot⟩)
    · rw [(proxyStep_refusing (.inr hproxy) h).2.2]
      exact .inr (.inl ⟨hproxy, hup, hdown⟩)
    · obtain ⟨n, chunk, up, -, hread, -⟩ | ⟨bytes, -, -, rfl⟩ | ⟨-, rfl⟩ :=
        proxyStep_connected hproxy h
      · rw [Pipe.read_of_nil hup] at hread
        cases hread
      · refine .inr (.inr ⟨hproxy, hup, bound, port, hten, ?_⟩)
        show got ++ (c.down.queue ++ bytes) = _ ++ (c.sent ++ bytes)
        rw [← List.append_assoc, hdown, List.append_assoc]
      · exact .inr (.inr ⟨hproxy, hup, bound, port, hten, hdown⟩)

end Shaking

/-! ## The steps of `connect` -/

/-- One read of `readFully` throws at the end of the stream, or moves bytes to the array. -/
theorem readMore_cases {c : Conn} {n want : Nat} {got : List UInt8}
    {stage : List UInt8 → Stage} {out : Outcome} (h : readMore c n want got stage = some out) :
    (c.down.queue = [] ∧ c.down.closed = true ∧ out = .throws "null") ∨
    ∃ chunk down, out = .next (stage (got ++ chunk)) { c with down } ∧ chunk ≠ [] ∧
      got ++ chunk ++ down.queue = got ++ c.down.queue ∧ down.closed = c.down.closed ∧
      (got ++ chunk).length ≤ max got.length want := by
  rw [readMore] at h
  split at h
  · -- `readFully` throws an `EOFException`, whose message is null
    rename_i hend
    obtain ⟨hqueue, hclosed⟩ := Pipe.atEnd_iff.mp hend
    exact .inl ⟨hqueue, hclosed, (Option.some.inj h).symm⟩
  · obtain ⟨⟨chunk, down⟩, hread, rfl⟩ := Option.map_eq_some_iff.mp h
    obtain ⟨hqueue, hne, hlen, hclosed⟩ := Pipe.read_eq_some hread
    refine .inr ⟨chunk, down, rfl, hne, ?_, hclosed, ?_⟩
    · rw [hqueue, List.append_assoc]
    · rw [List.length_append]
      omega

/-- What holds when a step of `connect` is done. -/
def After (c : Conn) : Outcome → Prop
  | .next stage c' => Shaking stage c' ∧ c'.target = c.target
  -- at the first byte of the resolver
  | .connected c' => c' = c ∧ c.proxy = .connected c.target ∧ c.up.queue = [] ∧
      c.down.queue = c.sent
  | .throws _ => Refused c

section Steps

variable {c : Conn} {got : List UInt8} {text : String} {n : Nat} {out : Outcome}

/-- Bytes that were read count as before. -/
theorem Idle.read {down : Pipe UInt8} (hi : Idle c) (hclosed : down.closed = c.down.closed) :
    Idle { c with down } :=
  ⟨hi.received, fun hproxy => ⟨(hi.before hproxy).1, hclosed.trans (hi.before hproxy).2⟩, hi.queue⟩

/-- `connect` reads the answer to its greeting. -/
theorem Shaking.method (hs : Shaking (.method got) c)
    (h : (Stage.method got).step text n c = some out) : After c out := by
  have hpos := hs.position
  rw [Stage.step] at h
  split at h
  · obtain ⟨-, hclosed, rfl⟩ | ⟨chunk, down, rfl, -, hbytes, hclosed, -⟩ := readMore_cases h
    · -- only a proxy that refuses closes the stream here
      obtain ⟨hproxy, -⟩ | ⟨hproxy, -⟩ | ⟨hproxy, -⟩ := hpos
      · rw [(hs.idle.before (.inl hproxy)).2] at hclosed
        cases hclosed
      · rw [(hs.idle.before (.inr hproxy)).2] at hclosed
        cases hclosed
      · exact .inl hproxy
    · refine ⟨⟨hs.idle.read hclosed, ?_⟩, rfl⟩
      simp only [Position, hbytes]
      exact hpos
  · rename_i hlen
    split at h
    · rename_i hgot
      obtain rfl := Option.some.inj h
      subst hgot
      obtain ⟨-, -, hbytes⟩ | ⟨hproxy, hup, hbytes⟩ | ⟨-, -, hbytes⟩ := hpos
      · simp at hbytes
      · exact ⟨⟨hs.idle, hproxy, hup, by simpa using hbytes⟩, rfl⟩
      · simp at hbytes
    · rename_i hgot
      obtain rfl := Option.some.inj h
      -- two bytes other than 5 and 0 come from a proxy that refuses
      obtain ⟨-, -, hbytes⟩ | ⟨-, -, hbytes⟩ | ⟨hproxy, -, -⟩ := hpos
      · simp [(List.append_eq_nil_iff.mp hbytes).1] at hlen
      · exfalso
        apply hgot
        have hlength := congrArg List.length hbytes
        simp only [List.length_append, List.length_cons, List.length_nil] at hlength
        have hdown : c.down.queue = [] := List.eq_nil_of_length_eq_zero (by omega)
        simpa [hdown] using hbytes
      · exact .inl hproxy

/-- The second byte of a reply that has arrived. -/
theorem getD_one_of_append {rest tail : List UInt8} {b rep : UInt8} (hlen : 2 ≤ got.length)
    (h : got ++ rest = b :: rep :: tail) : got.getD 1 0 = rep := by
  cases got with
  | nil => simp at hlen
  | cons x got =>
    cases got with
    | nil => simp at hlen
    | cons y got =>
      simp only [List.cons_append, List.cons.injEq] at h
      simp [h.2.1]

/-- `connect` reads the reply to its request. -/
theorem Shaking.reply (hs : Shaking (.reply got) c)
    (h : (Stage.reply got).step text n c = some out) : After c out := by
  obtain ⟨hle, hpos⟩ := hs.position
  rw [Stage.step] at h
  split at h
  · rename_i hlen
    obtain ⟨hqueue, hclosed, rfl⟩ | ⟨chunk, down, rfl, -, hbytes, hclosed, hlen'⟩ :=
      readMore_cases h
    · obtain ⟨hproxy, -⟩ | ⟨hproxy, -⟩ | ⟨-, -, bound, port, hten, hbytes⟩ := hpos
      · rw [(hs.idle.before (.inr hproxy)).2] at hclosed
        cases hclosed
      · exact .inr hproxy
      · -- the whole reply is there
        have hlength := congrArg List.length hbytes
        simp only [hqueue, List.length_append, List.length_nil, hten] at hlength
        omega
    · refine ⟨⟨hs.idle.read hclosed, ?_, ?_⟩, rfl⟩
      · omega
      · simp only [hbytes]
        exact hpos
  · rename_i hlen
    have htwo : 2 ≤ got.length := by omega
    split at h
    · rename_i hrep
      obtain rfl := Option.some.inj h
      obtain ⟨-, -, hbytes⟩ | ⟨hproxy, -⟩ | ⟨-, -, bound, port, -, hbytes⟩ := hpos
      · simp [(List.append_eq_nil_iff.mp hbytes).1] at hlen
      · exact .inr hproxy
      · exact absurd (getD_one_of_append htwo hbytes) hrep
    · rename_i hrep
      obtain rfl := Option.some.inj h
      obtain ⟨-, -, hbytes⟩ | ⟨-, -, rep, bound, port, hne, hbytes⟩ |
        ⟨hproxy, hup, bound, port, hten, hbytes⟩ := hpos
      · simp [(List.append_eq_nil_iff.mp hbytes).1] at hlen
      · rw [getD_one_of_append htwo hbytes] at hrep
        exact absurd hne hrep
      · -- ten bytes were read and the reply has ten, so the rest comes from the resolver
        have hsplit := List.append_inj hbytes (by omega)
        exact ⟨rfl, hproxy, hup, hsplit.2⟩

/-- Whatever `connect` does, it stays in step with the proxy. -/
theorem Shaking.step {stage : Stage} (hs : Shaking stage c)
    (h : stage.step text n c = some out) : After c out := by
  cases stage with
  -- the pipe was empty, so that the proxy gets just these bytes
  | greet =>
    obtain rfl := Option.some.inj h
    obtain ⟨hproxy, hup, hdown⟩ := hs.position
    have hqueue : (c.up.write greeting).queue = greeting := by simp [hup]
    exact ⟨⟨⟨hs.idle.received, hs.idle.before, .inr (.inl ⟨hproxy, hqueue⟩)⟩,
      .inl ⟨hproxy, hqueue, hdown⟩⟩, rfl⟩
  | method got => exact hs.method h
  | request =>
    obtain rfl := Option.some.inj h
    obtain ⟨hproxy, hup, hdown⟩ := hs.position
    have hqueue : (c.up.write (requestBytes c.target)).queue = requestBytes c.target := by
      simp [hup]
    exact ⟨⟨⟨hs.idle.received, hs.idle.before, .inr (.inr ⟨hproxy, hqueue⟩)⟩,
      Nat.zero_le _, .inl ⟨hproxy, hqueue, hdown⟩⟩, rfl⟩
  | reply got => exact hs.reply h

end Steps

/-! ## The handshake comes to its end -/

/-- An answer that the proxy has to give, or a read of what has arrived. -/
def ProxyAction.isAnswer : ProxyAction → Bool
  | .method _ | .reply .. | .close | .resolverReceive _ => true
  | .resolverSend _ | .resolverClose => false

/-- How much is left of `connect`. -/
def Stage.cost : Stage → Nat
  | .greet => 16
  | .method got => 13 + (2 - got.length)
  | .request => 12
  | .reply got => 1 + (10 - got.length)

/-- How many answers the proxy can still give. -/
def ProxyPc.cost : ProxyPc → Nat
  | .greeting => 2
  | .request => 1
  | .noMethod | .refused | .connected _ => 0

/-- What the handshake leaves to be done on a connection. -/
def Conn.cost (c : Conn) : Nat :=
  c.proxy.cost + (!c.down.closed).toNat + 3 * c.sent.length

section Progress

variable {stage stage' : Stage} {c c' : Conn} {text : String} {n : Nat}

/-- A read makes the array longer. -/
theorem readMore_cost {want : Nat} {got : List UInt8} {f : List UInt8 → Stage}
    (h : readMore c n want got f = some (.next stage' c')) :
    (∃ got', stage' = f got' ∧ got.length < got'.length) ∧ c'.cost = c.cost := by
  obtain ⟨-, -, heq⟩ | ⟨chunk, down, heq, hne, -, hclosed, -⟩ := readMore_cases h
  · cases heq
  · cases heq
    refine ⟨⟨got ++ chunk, rfl, ?_⟩, ?_⟩
    · have hpos := List.length_pos_iff.mpr hne
      rw [List.length_append]
      omega
    · simp only [Conn.cost, hclosed]

/-- Every step of `connect` leaves less to be done. -/
theorem Stage.step_cost (h : stage.step text n c = some (.next stage' c')) :
    stage'.cost + c'.cost < stage.cost + c.cost := by
  cases stage with
  | greet =>
    -- writing costs no read
    cases h
    simp [Stage.cost, Conn.cost]
  | request =>
    cases h
    simp [Stage.cost, Conn.cost]
  | method got =>
    -- a read, or the method is accepted and the request follows
    rw [Stage.step] at h
    split at h
    · obtain ⟨⟨got', rfl, hlt⟩, hcost⟩ := readMore_cost h
      simp only [Stage.cost, hcost]
      omega
    · split at h
      · cases h
        simp only [Stage.cost]
        omega
      · cases h
  | reply got =>
    -- a read, as the last byte leads out of the handshake
    rw [Stage.step] at h
    split at h
    · obtain ⟨⟨got', rfl, hlt⟩, hcost⟩ := readMore_cost h
      simp only [Stage.cost, hcost]
      omega
    · split at h
      · cases h
      · cases h

/-- Each answer is given once. -/
theorem Idle.proxyStep_cost {a : ProxyAction} (hi : Idle c) (ha : a.isAnswer)
    (h : c.proxyStep a = some c') : c'.cost < c.cost := by
  obtain ⟨hproxy, accept, rfl⟩ | ⟨hproxy, rep, bound, port, rfl⟩ | ⟨-, hopen, rfl⟩ |
    ⟨resolver, -, ⟨bytes, rfl, -⟩ | ⟨rfl, -⟩⟩ := hi.proxyStep_cases h
  · cases accept <;> simp [Conn.cost, hproxy, ProxyPc.cost]
  · have hlast : (if rep = 0 then ProxyPc.connected c.target else .refused).cost = 0 := by
      split <;> rfl
    have hfirst : ProxyPc.request.cost = 1 := rfl
    simp only [Conn.cost, hlast, hproxy, hfirst, Pipe.closed_write]
    omega
  · simp [Conn.cost, hopen]
  · cases ha
  · cases ha

/-- A read does not wait where there are bytes or an end. -/
theorem readMore_isSome {want : Nat} {got : List UInt8} {f : List UInt8 → Stage}
    (hlen : got.length < want) (hdown : c.down.queue ≠ [] ∨ c.down.closed = true) :
    (readMore c 1 want got f).isSome := by
  rw [readMore]
  split
  · rfl
  · rename_i hend
    have hqueue : c.down.queue ≠ [] := by
      intro hnil
      obtain hne | hclosed := hdown
      · exact hne hnil
      · exact hend (Pipe.atEnd_iff.mpr ⟨hnil, hclosed⟩)
    rw [Option.isSome_map]
    exact Pipe.read_isSome (by omega) hqueue

/-- During the handshake `connect` goes on, or the proxy has an answer to give. -/
theorem Shaking.goesOn (hs : Shaking stage c) (text : String) :
    (stage.step text 1 c).isSome ∨ ∃ a : ProxyAction, a.isAnswer ∧ (c.proxyStep a).isSome := by
  have hpos := hs.position
  cases stage with
  | greet => exact .inl rfl
  | request => exact .inl rfl
  | method got =>
    by_cases hlen : got.length < 2
    · by_cases hqueue : c.down.queue = []
      · obtain ⟨hproxy, hup, -⟩ | ⟨-, -, hbytes⟩ | ⟨-, -, hbytes⟩ := hpos
        · -- the proxy has the greeting and has to answer it
          refine .inr ⟨.method true, rfl, ?_⟩
          simp [Conn.proxyStep, hproxy, hup, greeting]
        · simp [hqueue] at hbytes
          simp [hbytes] at hlen
        · simp [hqueue] at hbytes
          simp [hbytes] at hlen
      · rw [Stage.step, if_pos hlen]
        exact .inl (readMore_isSome hlen (.inl hqueue))
    · rw [Stage.step, if_neg hlen]
      exact .inl (by split <;> rfl)
  | reply got =>
    by_cases hlen : got.length < 10
    · by_cases hqueue : c.down.queue = []
      · obtain ⟨-, ⟨hproxy, hup, -⟩ | ⟨hproxy, -, -⟩ | ⟨-, -, bound, port, hten, hbytes⟩⟩ := hpos
        · -- the proxy has the request and has to answer it
          refine .inr ⟨.reply 0 (.ipv4 0 0 0 0) 0, rfl, ?_⟩
          simp [Conn.proxyStep, hproxy, hup, requestBytes, write16]
        · -- the reply may be too short, but then the stream ends
          cases hclosed : c.down.closed with
          | true =>
            rw [Stage.step, if_pos hlen]
            exact .inl (readMore_isSome hlen (.inr hclosed))
          | false =>
            refine .inr ⟨.close, rfl, ?_⟩
            simp [Conn.proxyStep, hproxy, hclosed]
        · have hlength := congrArg List.length hbytes
          simp only [hqueue, List.length_append, List.length_nil, hten] at hlength
          omega
      · rw [Stage.step, if_pos hlen]
        exact .inl (readMore_isSome hlen (.inl hqueue))
    · rw [Stage.step, if_neg hlen]
      exact .inl (by split <;> rfl)

end Progress

end Socks5

end OpenFlux
