import OpenFlux.Spec.DnsAnswers

/-!
# The connection table counts the outstanding queries

A ledger runs beside the table and counts, for each port, the queries from it that were
redirected and the replies to it that were rewritten.  Any packets are read in any order;
the only condition is that the counter of an entry, a 32-bit `int`, does not overflow.

## Key results

- `processDeviceDnsPacket_cases`: what one packet does to the table
- `DnsLedger.Exact.step`: the entry of each port stays the difference of the two counts
- `outstanding_exact`: in every run, and what follows for the next packet
-/

namespace OpenFlux

open DnsRedirect

/-- What `process_device_dns_packet` takes a packet for. -/
inductive DnsKind where
  /-- a packet to port 53, from `port` -/
  | query (port : UInt16)
  /-- a packet from the gateway's port, to `port` -/
  | reply (port : UInt16)
  deriving DecidableEq, Repr

/-- `to_dns` and `from_dns` of a packet that passes the checks. -/
def dnsKind (cfg : Config) (data : List UInt8) : Option DnsKind :=
  match cfg.dnsgw, acceptUdp data with
  | some dnsgw, some (_, udp, _) =>
    if udp.destPort = dnsPort then some (.query udp.sourcePort)
    else if udp.sourcePort = dnsgw.port then some (.reply udp.destPort)
    else none
  | _, _ => none

/-- One packet: it is refused and the table stays, or it is a query and is counted, or it is
    a reply to a port with an entry and is counted there. -/
theorem DnsRedirect.processDeviceDnsPacket_cases (cfg : Config) (dns : DnsRedirect)
    (data : List UInt8) :
    processDeviceDnsPacket cfg dns data = (dns, none) ∨
    (∃ port localAddr remoteAddr out, dnsKind cfg data = some (.query port) ∧
      processDeviceDnsPacket cfg dns data =
        (({ dns with init := true } : DnsRedirect).insertConnection localAddr remoteAddr port,
          some out)) ∨
    ∃ port con out, dnsKind cfg data = some (.reply port) ∧
      dns.findConnection port = some con ∧
      processDeviceDnsPacket cfg dns data = (dns.removeConnection con, some out) := by
  obtain ⟨gateway, netifIpaddr⟩ := cfg
  cases gateway with
  | none => exact .inl rfl
  | some dnsgw =>
    cases haccept : acceptUdp data with
    | none => simp [processDeviceDnsPacket, haccept]
    | some accepted =>
      obtain ⟨ipv4, udp, payload⟩ := accepted
      by_cases hto : udp.destPort = dnsPort
      · rw [processDeviceDnsPacket_query haccept hto]
        exact .inr (.inl ⟨_, _, _, _, by simp [dnsKind, haccept, hto], rfl⟩)
      · by_cases hfrom : udp.sourcePort = dnsgw.port ∧ dns.init
        · obtain ⟨hfrom, hinit⟩ := hfrom
          -- a reply from the gateway, to a port with an entry or without one
          cases hcon : dns.findConnection udp.destPort with
          | none =>
            left
            simp only [processDeviceDnsPacket, haccept, redirect, hto, hfrom, hinit, hcon,
              if_true, if_false, Bool.not_true, Bool.false_eq_true]
          | some con =>
            rw [processDeviceDnsPacket_reply haccept hto hfrom hinit hcon]
            exact .inr (.inr ⟨_, con, _, by simp [dnsKind, haccept, hto, hfrom], hcon, rfl⟩)
        · -- neither a query nor a reply, or a reply before the first query
          left
          by_cases hfrom' : udp.sourcePort = dnsgw.port
          · have hinit : dns.init = false := by simpa [hfrom'] using hfrom
            simp [processDeviceDnsPacket, haccept, redirect, hto, hfrom', hinit]
          · simp [processDeviceDnsPacket, haccept, redirect, hto, hfrom']

/-- The table, and what was sent for each port so far. -/
structure DnsLedger where
  dns : DnsRedirect := {}
  /-- queries from the port that were redirected to the gateway -/
  redirected : UInt16 → Nat := fun _ => 0
  /-- replies of the gateway that were rewritten towards the port -/
  rewritten : UInt16 → Nat := fun _ => 0

namespace DnsLedger

/-- Process a packet and count it if it was sent on. -/
def step (cfg : Config) (s : DnsLedger) (data : List UInt8) :
    Option (DnsLedger × List (List UInt8)) :=
  let (dns, out) := processDeviceDnsPacket cfg s.dns data
  let counted (kind : DnsKind) : Nat :=
    if out.isSome && dnsKind cfg data = some kind then 1 else 0
  some ({ dns
          redirected := fun port => s.redirected port + counted (.query port)
          rewritten := fun port => s.rewritten port + counted (.reply port) }, out.toList)

/-- The state of `tun2socks` from its start on. -/
def machine (cfg : Config) : Machine DnsLedger (List UInt8) (List UInt8) where
  init := {}
  step := step cfg

/-- After a query, fewer than `2^31` queries of its port are outstanding. -/
def fewOutstanding (cfg : Config) (s : DnsLedger) (data : List UInt8) : Bool :=
  match dnsKind cfg data with
  | some (.query port) => s.redirected port - s.rewritten port + 1 < 2147483648
  | _ => true

/-! ## The invariant -/

/-- The entry of a port for which `q` queries were redirected and `r` replies rewritten. -/
def Counts (port : UInt16) (q r : Nat) : Option Connection → Prop
  | none => q = r
  | some con => con.port = port ∧ con.count = (q : Int) - r ∧ r < q ∧ q - r < 2147483648

/-- Every port has the right entry.  The tree was initialised before the first one, so that
    `BAVL_Init` drops none. -/
structure Exact (s : DnsLedger) : Prop where
  counts : ∀ port, Counts port (s.redirected port) (s.rewritten port)
    (s.dns.findConnection port)
  init : ∀ port con, s.dns.findConnection port = some con → s.dns.init

/-- At first there are no entries, and nothing was sent. -/
theorem exact_init : Exact {} where
  counts _ := rfl
  init _ _ h := by cases h

section Port

variable {port : UInt16} {q r : Nat}

/-- No more replies are rewritten than queries were redirected. -/
theorem Counts.le {entry : Option Connection} (h : Counts port q r entry) : r ≤ q := by
  cases entry with
  | none => exact Nat.le_of_eq (Eq.symm h)
  | some con => exact Nat.le_of_lt h.2.2.1

/-- One more query. -/
theorem Counts.query (dns : DnsRedirect) (h : Counts port q r (dns.findConnection port))
    (hfew : q - r + 1 < 2147483648) (localAddr remoteAddr : BAddr) :
    Counts port (q + 1) r
      ((dns.insertConnection localAddr remoteAddr port).findConnection port) := by
  rw [findConnection_insertConnection, if_pos rfl]
  cases hcon : dns.findConnection port with
  -- the first query of the port makes an entry
  | none =>
    rw [hcon] at h
    have hzero : q = r := h
    refine ⟨rfl, ?_⟩
    show (1 : Int) = ((q + 1 : Nat) : Int) - r ∧ r < q + 1 ∧ q + 1 - r < 2147483648
    omega
  | some con =>
    rw [hcon] at h
    obtain ⟨hport, hcount, hlt, -⟩ := h
    -- the bound keeps the counter from overflowing
    have hwrap : wrapInt (con.count + 1) = con.count + 1 := wrapInt_of_lt (by omega) (by omega)
    refine ⟨hport, ?_⟩
    show wrapInt (con.count + 1) = ((q + 1 : Nat) : Int) - r ∧ r < q + 1 ∧
      q + 1 - r < 2147483648
    omega

/-- One query less. -/
theorem Counts.reply (dns : DnsRedirect) {con : Connection} (h : Counts port q r (some con)) :
    Counts port q (r + 1) ((dns.removeConnection con).findConnection port) := by
  obtain ⟨rfl, hcount, hlt, hfew⟩ := h
  have hwrap : wrapInt (con.count - 1) = con.count - 1 := wrapInt_of_lt (by omega) (by omega)
  rw [findConnection_removeConnection, if_pos rfl, hwrap]
  split
  · -- it was the last one
    show q = r + 1
    omega
  · refine ⟨rfl, ?_⟩
    show con.count - 1 = (q : Int) - (r + 1 : Nat) ∧ r + 1 < q ∧ q - (r + 1) < 2147483648
    omega

end Port

/-! ## Runs -/

variable {cfg : Config} {s s' : DnsLedger} {o : List (List UInt8)} {data : List UInt8}

/-- Every packet keeps the table exact. -/
theorem Exact.step (hi : Exact s) (hfew : fewOutstanding cfg s data)
    (h : step cfg s data = some (s', o)) : Exact s' := by
  obtain hnone | ⟨port, localAddr, remoteAddr, out, hkind, hsome⟩ |
    ⟨port, con, out, hkind, hcon, hsome⟩ := processDeviceDnsPacket_cases cfg s.dns data
  · simp only [DnsLedger.step, hnone, Option.isSome_none, Bool.false_and, Bool.false_eq_true,
      if_false, Nat.add_zero, Option.some.injEq, Prod.mk.injEq] at h
    exact h.1 ▸ hi
  · -- a query of `port` is counted
    simp only [DnsLedger.step, hsome, hkind, Option.isSome_some, Bool.true_and,
      decide_eq_true_eq, Option.some.injEq, Prod.mk.injEq, reduceCtorEq, if_false,
      DnsKind.query.injEq, Nat.add_zero] at h
    obtain ⟨rfl, -⟩ := h
    simp only [fewOutstanding, hkind, decide_eq_true_eq] at hfew
    constructor
    · intro p
      by_cases hp : port = p
      · subst hp
        have hnext := Counts.query { s.dns with init := true } (hi.counts port) hfew
          localAddr remoteAddr
        simpa using hnext
      · -- the entries of other ports stay
        have hfind : ({ s.dns with init := true } : DnsRedirect).findConnection p =
            s.dns.findConnection p := rfl
        have hsame := hi.counts p
        simpa [findConnection_insertConnection, hfind, hp, Ne.symm hp] using hsame
    · intro p con _
      exact insertConnection_init _ _ _ _
  · -- a reply to `port` is counted
    simp only [DnsLedger.step, hsome, hkind, Option.isSome_some, Bool.true_and,
      decide_eq_true_eq, Option.some.injEq, Prod.mk.injEq, reduceCtorEq, if_false,
      DnsKind.reply.injEq, Nat.add_zero] at h
    obtain ⟨rfl, -⟩ := h
    have hentry := hi.counts port
    rw [hcon] at hentry
    constructor
    · intro p
      by_cases hp : port = p
      · subst hp
        have hnext := Counts.reply s.dns hentry
        simpa using hnext
      · have hsame := hi.counts p
        have hne : p ≠ con.port := by
          rw [hentry.1]
          exact Ne.symm hp
        simpa [findConnection_removeConnection, hne, hp] using hsame
    · intro p _ _
      exact hi.init port con hcon

/-- The table is exact in every run. -/
theorem exact_of_reach {tr : List (List UInt8)}
    (h : (machine cfg).Reach (fun s data => fewOutstanding cfg s data) s tr) : Exact s :=
  Machine.Reach.inv (P := fun s _ => Exact s) exact_init
    (fun hi hfew hstep => hi.step hfew hstep) h

/-- The table has an entry for a port while more queries were redirected than replies
    rewritten, and it holds the difference.  A packet that is refused leaves the table as it
    is, and a reply to a port without outstanding queries is refused. -/
theorem outstanding_exact (cfg : Config) {s : DnsLedger} {tr : List (List UInt8)}
    (h : (machine cfg).Reach (fun s data => fewOutstanding cfg s data) s tr) :
    (∀ port, s.rewritten port ≤ s.redirected port ∧
      ((∃ con, s.dns.findConnection port = some con) ↔
        s.rewritten port < s.redirected port) ∧
      ∀ con, s.dns.findConnection port = some con →
        con.port = port ∧ con.count = (s.redirected port : Int) - s.rewritten port) ∧
    ∀ data,
      ((processDeviceDnsPacket cfg s.dns data).2 = none →
        (processDeviceDnsPacket cfg s.dns data).1 = s.dns) ∧
      ∀ port, dnsKind cfg data = some (.reply port) →
        s.redirected port = s.rewritten port →
        (processDeviceDnsPacket cfg s.dns data).2 = none := by
  have hi := exact_of_reach h
  constructor
  · intro port
    have hcounts := hi.counts port
    refine ⟨hcounts.le, ?_, ?_⟩
    · -- no entry means that all queries are answered
      cases hcon : s.dns.findConnection port with
      | none =>
        rw [hcon] at hcounts
        have hzero : s.redirected port = s.rewritten port := hcounts
        simp [hzero]
      | some con =>
        rw [hcon] at hcounts
        simp [hcounts.2.2.1]
    · intro con hcon
      rw [hcon] at hcounts
      exact ⟨hcounts.1, hcounts.2.1⟩
  · intro data
    obtain hnone | ⟨port, _, _, out, hkind, hsome⟩ | ⟨port, con, out, hkind, hcon, hsome⟩ :=
      processDeviceDnsPacket_cases cfg s.dns data
    · -- a packet that is refused changes nothing
      simp [hnone]
    · simp [hsome, hkind]
    · constructor
      · simp [hsome]
      · intro port' hkind' hzero
        -- the entry of the port says that a query is outstanding
        obtain rfl : port = port' := by simpa [hkind] using hkind'
        have hcounts := hi.counts port
        rw [hcon] at hcounts
        have hlt := hcounts.2.2.1
        omega

/-- Two queries from one port and one reply: one is outstanding. -/
theorem outstanding_exact_two :
    ∃ s tr, (machine demoConfig).Reach (fun s data => fewOutstanding demoConfig s data) s tr ∧
      tr.length = 3 ∧
      ∃ con, s.dns.findConnection 40000 = some con ∧ con.count = 1 := by
  obtain ⟨s, tr, hrun, hs⟩ := Machine.exists_reach (machine demoConfig)
    (fun s data => fewOutstanding demoConfig s data)
    (fun s tr => tr.length = 3 && s.redirected 40000 = 2 && s.rewritten 40000 = 1)
    [demoPacket ⟨0x0A000002, 40000⟩ ⟨0x08080808, 53⟩,
      demoPacket ⟨0x0A000002, 40000⟩ ⟨0x08080808, 53⟩,
      demoPacket ⟨0x0A000001, 8153⟩ ⟨0x0A000009, 40000⟩] (by decide +kernel)
  simp only [Bool.and_eq_true, decide_eq_true_eq] at hs
  obtain ⟨⟨hlength, hredirected⟩, hrewritten⟩ := hs
  obtain ⟨-, hiff, hcount⟩ := (outstanding_exact demoConfig hrun).1 40000
  obtain ⟨con, hcon⟩ := hiff.mpr (by omega)
  have hcount := (hcount con hcon).2
  exact ⟨s, tr, hrun, hlength, con, hcon, by omega⟩

end DnsLedger

end OpenFlux
