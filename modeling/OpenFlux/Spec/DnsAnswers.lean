import OpenFlux.ForStd.List
import OpenFlux.Model.DnsExchange
import OpenFlux.Spec.DnsWellFormed

/-!
# Do DNS answers come back from the resolver that was asked?

The table keeps one pair of addresses for each source port, those of the first query that
is not answered, and counts the queries behind it.  A query from the same port with other
addresses is only counted: its answer comes back with the addresses of the first one.  And
a reply to a query that was sent from port 53 is itself taken for a query.

`keepsAddresses` excludes both, and the overflow of the counter.  Then the table counts the
outstanding queries of each port, and all of them have the addresses of its entry.

## Key results

- `answers_come_back`: then the reply to every query is emitted, from the resolver that was
  asked to the client that asked
- `answer_from_wrong_resolver`: one socket asks two resolvers
-/

namespace OpenFlux

open DnsRedirect

namespace DnsRedirect

/-! ## The connection table -/

/-- An `int` in its range does not wrap. -/
theorem wrapInt_of_lt {n : Int} (hlo : -2147483648 ≤ n) (hhi : n < 2147483648) :
    wrapInt n = n := by
  apply Int.bmod_eq_of_le
  · omega
  · omega

/-- The entry of `port` after a query from it. -/
theorem findConnection_insertConnection (dns : DnsRedirect) (localAddr remoteAddr : BAddr)
    (port p : UInt16) :
    (dns.insertConnection localAddr remoteAddr port).findConnection p =
      if p = port then
        match dns.findConnection port with
        -- either way one port is written
        | some con => some { con with count := wrapInt (con.count + 1) }
        | none => some { localAddr, remoteAddr, port, count := 1 }
      else dns.findConnection p := by
  cases hcon : dns.findConnection port with
  | some con =>
    rw [insertConnection, hcon]
    exact Function.update_apply dns.connectionsTree port _ p
  | none =>
    rw [insertConnection, hcon]
    exact Function.update_apply dns.connectionsTree port _ p

/-- The entry of a port after a reply. -/
theorem findConnection_removeConnection (dns : DnsRedirect) (con : Connection)
    (p : UInt16) :
    (dns.removeConnection con).findConnection p =
      if p = con.port then
        if wrapInt (con.count - 1) ≤ 0 then none
        else some { con with count := wrapInt (con.count - 1) }
      else dns.findConnection p := by
  exact Function.update_apply dns.connectionsTree con.port _ p

/-- Inserting does not initialise the table. -/
theorem insertConnection_init (dns : DnsRedirect) (localAddr remoteAddr : BAddr)
    (port : UInt16) : (dns.insertConnection localAddr remoteAddr port).init = dns.init := by
  rw [insertConnection]
  split <;> rfl

/-! ## Queries and replies -/

variable {dns : DnsRedirect} {dnsgw : BAddr} {netifIpaddr : UInt32} {data : List UInt8}
  {ipv4 : Ipv4Header} {udp : UdpHeader} {payload : List UInt8}

/-- A query is counted and sent to the gateway. -/
theorem processDeviceDnsPacket_query (haccept : acceptUdp data = some (ipv4, udp, payload))
    (hport : udp.destPort = dnsPort) :
    processDeviceDnsPacket { dnsgw := some dnsgw, netifIpaddr } dns data =
      (({ dns with init := true } : DnsRedirect).insertConnection
          { ip := ipv4.sourceAddress, port := udp.sourcePort }
          { ip := ipv4.destinationAddress, port := udp.destPort } udp.sourcePort,
        some (writePacket
          { ipv4 with destinationAddress := dnsgw.ip, sourceAddress := netifIpaddr }
          { udp with destPort := dnsgw.port } payload)) := by
  simp only [processDeviceDnsPacket, haccept, redirect, hport, if_true]

/-- A reply to a port with an entry is sent to the addresses of the entry. -/
theorem processDeviceDnsPacket_reply (haccept : acceptUdp data = some (ipv4, udp, payload))
    (hport : udp.destPort ≠ dnsPort) (hsource : udp.sourcePort = dnsgw.port)
    (hinit : dns.init) {con : Connection} (hcon : dns.findConnection udp.destPort = some con) :
    processDeviceDnsPacket { dnsgw := some dnsgw, netifIpaddr } dns data =
      (dns.removeConnection con,
        some (writePacket
          { ipv4 with
            sourceAddress := con.remoteAddr.ip
            destinationAddress := con.localAddr.ip }
          { udp with sourcePort := con.remoteAddr.port } payload)) := by
  simp only [processDeviceDnsPacket, haccept, redirect, hport, hsource, hinit, hcon, if_true,
    if_false, Bool.not_true, Bool.false_eq_true]

end DnsRedirect

/-- The query is not answered and was sent from `port`. -/
def DnsQuery.isOutstanding (query : DnsQuery) (port : UInt16) : Bool :=
  !query.answered && query.client.port = port

namespace DnsExchange

/-! ## The property -/

/-- Source and destination in the headers of an emitted packet. -/
def endpoints (packet : List UInt8) : Option (BAddr × BAddr) :=
  match Ipv4Header.ofBytes packet, UdpHeader.ofBytes (packet.drop Ipv4Header.size) with
  | some ipv4, some (udp, _) => some (source ipv4 udp, destination ipv4 udp)
  | _, _ => none

/-- What is written has the addresses and ports of its headers. -/
theorem endpoints_writePacket (ipv4 : Ipv4Header) (udp : UdpHeader) (payload : List UInt8) :
    endpoints (writePacket ipv4 udp payload) = some (source ipv4 udp, destination ipv4 udp) := by
  have hdrop : (writePacket ipv4 udp payload).drop Ipv4Header.size =
      ({ udp with
        checksum := udpChecksum { udp with checksum := 0 } payload ipv4.sourceAddress
          ipv4.destinationAddress } : UdpHeader).toBytes ++ payload := by
    rw [writePacket, List.append_assoc]
    exact List.drop_left' (Ipv4Header.length_toBytes _)
  rw [endpoints, ofBytes_writePacket, hdrop, UdpHeader.ofBytes_toBytes]
  rfl

/-- Every reply was emitted from the resolver that was asked to the client that asked. -/
def Answered (sys : DnsExchange) (tr : List Obs) : Prop :=
  ∀ q out, (q, out) ∈ tr → ∃ query packet, sys.queries[q]? = some query ∧ out = some packet ∧
    endpoints packet = some (query.resolver, query.client)

/-! ## The condition on queries -/

/-- A query is not sent from port 53, and where its port has an entry, the entry has the
    addresses of the query and its counter does not overflow. -/
def keepsAddresses (sys : DnsExchange) : Action → Bool
  | .query data =>
    match acceptUdp data with
    | none => true
    | some (ipv4, udp, _) =>
      udp.sourcePort ≠ dnsPort &&
        match sys.dns.findConnection udp.sourcePort with
        | none => true
        | some con => con.localAddr = source ipv4 udp &&
            con.remoteAddr = destination ipv4 udp && con.count < 2147483647
  | .reply _ _ => true

/-! ## The invariant -/

/-- The number of queries from `port` that are not answered. -/
def outstanding (sys : DnsExchange) (port : UInt16) : Nat :=
  sys.queries.countP (·.isOutstanding port)

/-- What the table says about the queries from `port`. -/
structure Entry (sys : DnsExchange) (port : UInt16) (con : Connection) : Prop where
  key : con.port = port
  count : con.count = sys.outstanding port
  pos : 0 < con.count
  lt : con.count < 2147483648
  addresses : ∀ query ∈ sys.queries, query.isOutstanding port →
    query.client = con.localAddr ∧ query.resolver = con.remoteAddr

/-- The table agrees with the queries that are outstanding. -/
structure Tracks (sys : DnsExchange) : Prop where
  init : sys.queries ≠ [] → sys.dns.init
  ports : ∀ query ∈ sys.queries, query.client.port ≠ dnsPort
  absent : ∀ {port}, sys.dns.findConnection port = none → sys.outstanding port = 0
  entry : ∀ {port con}, sys.dns.findConnection port = some con → sys.Entry port con

/-- At first there are no queries. -/
theorem tracks_init : Tracks {} where
  init h := (h rfl).elim
  ports := by simp
  absent _ := rfl
  entry h := by cases h

/-! ## Inversion -/

section Step

variable {dnsgw : BAddr} {netifIpaddr : UInt32} {sys sys' : DnsExchange} {o : List Obs}

/-- A query that is read is new among the queries, and counted in the table. -/
theorem step_query {data : List UInt8}
    (h : step dnsgw netifIpaddr sys (.query data) = some (sys', o)) :
    ∃ ipv4 udp payload, acceptUdp data = some (ipv4, udp, payload) ∧ o = [] ∧
      sys' =
        { dns := ({ sys.dns with init := true } : DnsRedirect).insertConnection
            (source ipv4 udp) (destination ipv4 udp) udp.sourcePort
          queries := sys.queries ++
            [{ client := source ipv4 udp, resolver := destination ipv4 udp }] } := by
  simp only [step] at h
  split at h
  · cases h
  · rename_i ipv4 udp payload haccept
    split at h
    · -- to port 53: the packet is redirected
      rename_i hport
      rw [processDeviceDnsPacket_query haccept hport] at h
      obtain ⟨rfl, rfl⟩ := Prod.mk.inj (Option.some.inj h)
      exact ⟨ipv4, udp, payload, haccept, rfl, rfl⟩
    · cases h

/-- A reply that is read answers a query that was not answered, and comes from the gateway
    to the port of that query. -/
theorem step_reply {q : Nat} {data : List UInt8}
    (h : step dnsgw netifIpaddr sys (.reply q data) = some (sys', o)) :
    ∃ query ipv4 udp payload, sys.queries[q]? = some query ∧ query.answered = false ∧
      acceptUdp data = some (ipv4, udp, payload) ∧ udp.sourcePort = dnsgw.port ∧
      udp.destPort = query.client.port ∧
      sys' =
        { dns := (processDeviceDnsPacket { dnsgw := some dnsgw, netifIpaddr } sys.dns data).1
          queries := sys.queries.set q { query with answered := true } } ∧
      o = [(q, (processDeviceDnsPacket { dnsgw := some dnsgw, netifIpaddr } sys.dns
        data).2)] := by
  simp only [step] at h
  split at h
  · rename_i query ipv4 udp payload hquery haccept
    split at h
    · rename_i hcond
      obtain ⟨hanswered, hsource, hdest⟩ := hcond
      obtain ⟨rfl, rfl⟩ := Prod.mk.inj (Option.some.inj h)
      exact ⟨query, ipv4, udp, payload, hquery, by simpa using hanswered, haccept,
        congrArg BAddr.port hsource, congrArg BAddr.port hdest, rfl, rfl⟩
    · cases h
  · cases h

/-! ## Outstanding queries -/

/-- A query that is not answered is outstanding for its own port. -/
theorem isOutstanding_iff {query : DnsQuery} (hanswered : query.answered = false)
    (port : UInt16) : query.isOutstanding port ↔ query.client.port = port := by
  rw [DnsQuery.isOutstanding, hanswered]
  exact decide_eq_true_iff

/-- A query that is read counts for its port. -/
theorem outstanding_concat (queries : List DnsQuery) (query : DnsQuery)
    (dns : DnsRedirect) (port : UInt16) :
    outstanding { dns, queries := queries ++ [query] } port =
      queries.countP (·.isOutstanding port) + if query.isOutstanding port then 1 else 0 := by
  rw [outstanding, List.countP_append, List.countP_singleton]

/-- A query that is answered no longer counts. -/
theorem outstanding_set {dns : DnsRedirect} {queries : List DnsQuery} {q : Nat}
    {query : DnsQuery} (hquery : queries[q]? = some query) (hanswered : query.answered = false)
    (port : UInt16) :
    outstanding { dns, queries := queries.set q { query with answered := true } } port =
      queries.countP (·.isOutstanding port) - if query.client.port = port then 1 else 0 := by
  obtain ⟨hlt, hget⟩ := List.getElem?_eq_some_iff.mp hquery
  have hnew : ({ query with answered := true } : DnsQuery).isOutstanding port = false := rfl
  rw [outstanding, List.countP_set hlt, hget, hnew]
  simp only [isOutstanding_iff hanswered, Bool.false_eq_true, if_false, Nat.add_zero]

/-- The query that is answered is no longer outstanding; all others are as before. -/
theorem mem_set_isOutstanding {queries : List DnsQuery} {q : Nat} {query query' : DnsQuery}
    {port : UInt16} (hmem : query' ∈ queries.set q { query with answered := true })
    (hout : query'.isOutstanding port) : query' ∈ queries := by
  obtain hmem | rfl := List.mem_or_eq_of_mem_set hmem
  · exact hmem
  · simp [DnsQuery.isOutstanding] at hout

/-! ## Entries -/

section Entry

variable {port : UInt16} {con : Connection} {dns : DnsRedirect} {query : DnsQuery}

/-- An entry stays right where its port has the same outstanding queries. -/
theorem Entry.congr (he : sys.Entry port con)
    (hcount : sys'.outstanding port = sys.outstanding port)
    (hmem : ∀ query ∈ sys'.queries, query.isOutstanding port → query ∈ sys.queries) :
    sys'.Entry port con where
  key := he.key
  count := by rw [hcount, he.count]
  pos := he.pos
  lt := he.lt
  addresses query hquery hout := he.addresses query (hmem query hquery hout) hout

/-- One more query with the addresses of the entry. -/
theorem Entry.more (he : sys.Entry port con) (hlt : con.count < 2147483647)
    (hout : query.isOutstanding port) (hlocal : query.client = con.localAddr)
    (hremote : query.resolver = con.remoteAddr) :
    Entry { dns, queries := sys.queries ++ [query] } port
      { con with count := wrapInt (con.count + 1) } := by
  have hpos := he.pos
  have hcount := he.count
  rw [outstanding] at hcount
  -- the counter is far from its largest value
  have hwrap : wrapInt (con.count + 1) = con.count + 1 := wrapInt_of_lt (by omega) (by omega)
  rw [hwrap]
  constructor
  · exact he.key
  · show con.count + 1 = _
    rw [outstanding_concat, if_pos hout]
    omega
  · show 0 < con.count + 1
    omega
  · show con.count + 1 < 2147483648
    omega
  · intro query' hquery' hout'
    obtain hquery' | hquery' := List.mem_append.mp hquery'
    · exact he.addresses query' hquery' hout'
    · obtain rfl := List.mem_singleton.mp hquery'
      exact ⟨hlocal, hremote⟩

/-- The first outstanding query of a port. -/
theorem Entry.first (hzero : sys.outstanding port = 0) (hout : query.isOutstanding port) :
    Entry { dns, queries := sys.queries ++ [query] } port
      { localAddr := query.client, remoteAddr := query.resolver, port, count := 1 } := by
  rw [outstanding] at hzero
  constructor
  · rfl
  · show (1 : Int) = _
    rw [outstanding_concat, if_pos hout]
    omega
  · show (0 : Int) < 1
    omega
  · show (1 : Int) < 2147483648
    omega
  · intro query' hquery' hout'
    obtain hquery' | hquery' := List.mem_append.mp hquery'
    · -- no other query of this port is outstanding
      exact (List.countP_eq_zero.mp hzero query' hquery' hout').elim
    · obtain rfl := List.mem_singleton.mp hquery'
      exact ⟨rfl, rfl⟩

/-- One query less, and not the last one. -/
theorem Entry.fewer (he : sys.Entry port con) {q : Nat} (hquery : sys.queries[q]? = some query)
    (hanswered : query.answered = false) (hport : query.client.port = port)
    (hmore : 0 < con.count - 1) :
    Entry { dns, queries := sys.queries.set q { query with answered := true } } port
      { con with count := con.count - 1 } := by
  have hlt := he.lt
  have hcount := he.count
  rw [outstanding] at hcount
  constructor
  · exact he.key
  · show con.count - 1 = _
    rw [outstanding_set hquery hanswered, if_pos hport]
    omega
  · exact hmore
  · show con.count - 1 < 2147483648
    omega
  · -- the queries that are still outstanding are among those before
    intro query' hquery' hout'
    exact he.addresses query' (mem_set_isOutstanding hquery' hout') hout'

end Entry

/-! ## A query -/

/-- What the condition says where a query is accepted. -/
theorem keepsAddresses_query {data payload : List UInt8} {ipv4 : Ipv4Header} {udp : UdpHeader}
    (haccept : acceptUdp data = some (ipv4, udp, payload))
    (hok : sys.keepsAddresses (.query data)) :
    udp.sourcePort ≠ dnsPort ∧ ∀ con, sys.dns.findConnection udp.sourcePort = some con →
      con.localAddr = source ipv4 udp ∧ con.remoteAddr = destination ipv4 udp ∧
        con.count < 2147483647 := by
  simp only [keepsAddresses, haccept, Bool.and_eq_true, decide_eq_true_eq] at hok
  refine ⟨hok.1, ?_⟩
  intro con hcon
  simpa [hcon, and_assoc] using hok.2

/-- A query keeps the table in agreement. -/
theorem Tracks.query (hi : Tracks sys) {data : List UInt8}
    (hok : sys.keepsAddresses (.query data))
    (h : step dnsgw netifIpaddr sys (.query data) = some (sys', o)) : Tracks sys' := by
  obtain ⟨ipv4, udp, payload, haccept, -, rfl⟩ := step_query h
  obtain ⟨hport, hsame⟩ := keepsAddresses_query haccept hok
  have hout (port : UInt16) :
      ({ client := source ipv4 udp, resolver := destination ipv4 udp } : DnsQuery).isOutstanding
        port ↔ udp.sourcePort = port := isOutstanding_iff rfl port
  have hfind : ({ sys.dns with init := true } : DnsRedirect).findConnection =
      sys.dns.findConnection := rfl
  -- the queries of another port stay as they are
  have hother {port : UInt16} (hne : port ≠ udp.sourcePort) :
      ¬ ({ client := source ipv4 udp, resolver := destination ipv4 udp } :
        DnsQuery).isOutstanding port := by
    rw [hout]
    exact Ne.symm hne
  constructor
  · intro _
    exact insertConnection_init _ _ _ _
  · intro query hquery
    obtain hquery | hquery := List.mem_append.mp hquery
    · exact hi.ports query hquery
    · obtain rfl := List.mem_singleton.mp hquery
      exact hport
  · intro port hnone
    rw [findConnection_insertConnection, hfind] at hnone
    by_cases heq : port = udp.sourcePort
    · -- this port has an entry now
      rw [if_pos heq] at hnone
      split at hnone <;> cases hnone
    · rw [if_neg heq] at hnone
      rw [outstanding_concat, if_neg (hother heq)]
      exact hi.absent hnone
  · intro port con hcon
    rw [findConnection_insertConnection, hfind] at hcon
    by_cases heq : port = udp.sourcePort
    · subst heq
      rw [if_pos rfl] at hcon
      split at hcon
      · -- the entry is there already: the condition says it has the same addresses
        rename_i con₀ hcon₀
        obtain rfl := Option.some.inj hcon
        obtain ⟨hlocal, hremote, hlt⟩ := hsame con₀ hcon₀
        exact (hi.entry hcon₀).more hlt ((hout _).mpr rfl) hlocal.symm hremote.symm
      · rename_i hnone
        obtain rfl := Option.some.inj hcon
        exact Entry.first (hi.absent hnone) ((hout _).mpr rfl)
    · rw [if_neg heq] at hcon
      refine (hi.entry hcon).congr ?_ ?_
      · rw [outstanding_concat, if_neg (hother heq), outstanding, Nat.add_zero]
      · intro query hquery hquery'
        obtain hquery | hquery := List.mem_append.mp hquery
        · exact hquery
        · obtain rfl := List.mem_singleton.mp hquery
          exact (hother heq hquery').elim

/-! ## A reply -/

/-- A query that is not answered has an entry. -/
theorem Tracks.exists_entry (hi : Tracks sys) {q : Nat} {query : DnsQuery}
    (hquery : sys.queries[q]? = some query) (hanswered : query.answered = false) :
    ∃ con, sys.dns.findConnection query.client.port = some con := by
  cases hcon : sys.dns.findConnection query.client.port with
  | some con => exact ⟨con, rfl⟩
  | none =>
    have hzero := List.countP_eq_zero.mp (hi.absent hcon) query (List.mem_of_getElem? hquery)
    exact (hzero ((isOutstanding_iff hanswered _).mpr rfl)).elim

variable (netifIpaddr) in
/-- What is emitted for a reply, and what becomes of the table. -/
theorem Tracks.process_reply (hi : Tracks sys) {q : Nat} {data payload : List UInt8}
    {query : DnsQuery} {ipv4 : Ipv4Header} {udp : UdpHeader}
    (hquery : sys.queries[q]? = some query) (hanswered : query.answered = false)
    (haccept : acceptUdp data = some (ipv4, udp, payload))
    (hsource : udp.sourcePort = dnsgw.port) (hdest : udp.destPort = query.client.port) :
    ∃ con packet, sys.dns.findConnection query.client.port = some con ∧
      processDeviceDnsPacket { dnsgw := some dnsgw, netifIpaddr } sys.dns data =
        (sys.dns.removeConnection con, some packet) ∧
      endpoints packet = some (query.resolver, query.client) := by
  have hmem := List.mem_of_getElem? hquery
  obtain ⟨con, hcon⟩ := hi.exists_entry hquery hanswered
  -- a reply to port 53 would be taken for a query
  have hport : udp.destPort ≠ dnsPort := hdest ▸ hi.ports query hmem
  have hinit := hi.init (List.ne_nil_of_mem hmem)
  refine ⟨con, _, hcon,
    processDeviceDnsPacket_reply haccept hport hsource hinit (hdest ▸ hcon), ?_⟩
  obtain ⟨hlocal, hremote⟩ := (hi.entry hcon).addresses query hmem
    ((isOutstanding_iff hanswered _).mpr rfl)
  have hclient : { ip := con.localAddr.ip, port := udp.destPort } = query.client := by
    rw [hdest, ← hlocal]
  rw [endpoints_writePacket]
  show some (con.remoteAddr, ({ ip := con.localAddr.ip, port := udp.destPort } : BAddr)) = _
  rw [hclient, hremote]

/-- A reply keeps the table in step with the queries. -/
theorem Tracks.reply (hi : Tracks sys) {q : Nat} {data : List UInt8}
    (h : step dnsgw netifIpaddr sys (.reply q data) = some (sys', o)) : Tracks sys' := by
  obtain ⟨query, ipv4, udp, payload, hquery, hanswered, haccept, hsource, hdest, rfl, -⟩ :=
    step_reply h
  obtain ⟨con, packet, hcon, hprocess, -⟩ :=
    hi.process_reply netifIpaddr hquery hanswered haccept hsource hdest
  have he := hi.entry hcon
  have hpos := he.pos
  have hlt := he.lt
  -- the count is positive, so it does not wrap
  have hwrap : wrapInt (con.count - 1) = con.count - 1 := wrapInt_of_lt (by omega) (by omega)
  rw [hprocess]
  constructor
  · intro _
    exact hi.init (List.ne_nil_of_mem (List.mem_of_getElem? hquery))
  · intro query' hquery'
    -- a reply changes no address
    obtain hmem | rfl := List.mem_or_eq_of_mem_set hquery'
    · exact hi.ports query' hmem
    · exact hi.ports query (List.mem_of_getElem? hquery)
  · intro port hnone
    rw [findConnection_removeConnection, hwrap] at hnone
    rw [outstanding_set hquery hanswered]
    by_cases heq : port = con.port
    · -- the entry goes with the last outstanding query
      have hport : query.client.port = port := he.key.symm.trans heq.symm
      have hcount := he.count
      rw [if_pos heq] at hnone
      split at hnone
      · rw [if_pos hport]
        rw [hport, outstanding] at hcount
        omega
      · cases hnone
    · rw [if_neg heq] at hnone
      rw [if_neg (fun hport => heq (hport.symm.trans he.key.symm))]
      exact hi.absent hnone
  · intro port con' hcon'
    rw [findConnection_removeConnection, hwrap] at hcon'
    by_cases heq : port = con.port
    · -- the entry stays, with one query less
      have hport : query.client.port = port := he.key.symm.trans heq.symm
      rw [if_pos heq] at hcon'
      split at hcon'
      · cases hcon'
      · obtain rfl := Option.some.inj hcon'
        rw [hport] at he
        exact he.fewer hquery hanswered hport (by omega)
    · rw [if_neg heq] at hcon'
      refine (hi.entry hcon').congr ?_ ?_
      · rw [outstanding_set hquery hanswered,
          if_neg (fun hport => heq (hport.symm.trans he.key.symm)), outstanding, Nat.sub_zero]
      · intro query' hquery' hout
        exact mem_set_isOutstanding hquery' hout

/-! ## Runs -/

/-- Every step keeps it. -/
theorem tracks_step {a : Action} (hi : Tracks sys) (hok : sys.keepsAddresses a)
    (h : step dnsgw netifIpaddr sys a = some (sys', o)) : Tracks sys' := by
  cases a with
  | query data => exact hi.query hok h
  | reply q data => exact hi.reply h

/-- Queries keep their place and their addresses. -/
theorem step_queries {a : Action} (h : step dnsgw netifIpaddr sys a = some (sys', o)) {q : Nat}
    {query : DnsQuery} (hquery : sys.queries[q]? = some query) :
    ∃ query', sys'.queries[q]? = some query' ∧ query'.client = query.client ∧
      query'.resolver = query.resolver := by
  cases a with
  | query data =>
    obtain ⟨_, _, _, -, -, rfl⟩ := step_query h
    exact ⟨query, List.getElem?_append_of_eq_some hquery, rfl, rfl⟩
  -- the reply marks its query, which keeps its addresses
  | reply i data =>
    obtain ⟨query₀, _, _, _, hquery₀, -, -, -, -, rfl, -⟩ := step_reply h
    have hlt := (List.getElem?_eq_some_iff.mp hquery₀).1
    by_cases heq : q = i
    · subst heq
      obtain rfl := Option.some.inj (hquery₀.symm.trans hquery)
      exact ⟨_, (List.getElem?_set_eq_some hlt).mpr (.inl ⟨rfl, rfl⟩), rfl, rfl⟩
    · exact ⟨query, (List.getElem?_set_eq_some hlt).mpr (.inr ⟨heq, hquery⟩), rfl, rfl⟩

/-- A reply that is emitted goes from the resolver to the client of its query. -/
theorem answered_step {a : Action} {tr : List Obs} (hi : Tracks sys) (hans : Answered sys tr)
    (h : step dnsgw netifIpaddr sys a = some (sys', o)) : Answered sys' (tr ++ o) := by
  intro q out hmem
  obtain hmem | hmem := List.mem_append.mp hmem
  · -- an earlier reply: its query has kept its addresses
    obtain ⟨query, packet, hquery, hout, hends⟩ := hans q out hmem
    obtain ⟨query', hquery', hclient, hresolver⟩ := step_queries h hquery
    exact ⟨query', packet, hquery', hout, by rw [hclient, hresolver, hends]⟩
  · cases a with
    | query data =>
      obtain ⟨_, _, _, -, rfl, -⟩ := step_query h
      cases hmem
    | reply i data =>
      obtain ⟨query, ipv4, udp, payload, hquery, hanswered, haccept, hsource, hdest, -, rfl⟩ :=
        step_reply h
      obtain ⟨con, packet, -, hprocess, hends⟩ :=
        hi.process_reply netifIpaddr hquery hanswered haccept hsource hdest
      obtain ⟨rfl, rfl⟩ := Prod.mk.inj (List.mem_singleton.mp hmem)
      obtain ⟨query', hquery', hclient, hresolver⟩ := step_queries h hquery
      exact ⟨query', packet, hquery', by rw [hprocess], by rw [hclient, hresolver, hends]⟩

end Step

/-- For every gateway and every interface address, in every run in which no query is sent
    from port 53, or from a port whose outstanding queries have other addresses or number
    `INT_MAX`: the reply to each query is emitted, from the resolver that was asked to the
    client that asked. -/
theorem answers_come_back (dnsgw : BAddr) (netifIpaddr : UInt32) (sys : DnsExchange)
    (tr : List Obs)
    (h : (machine dnsgw netifIpaddr).Reach (fun sys a => sys.keepsAddresses a) sys tr) :
    Answered sys tr := by
  have hinv : Tracks sys ∧ Answered sys tr := by
    refine Machine.Reach.inv (P := fun sys tr => Tracks sys ∧ Answered sys tr) ?_ ?_ h
    · exact ⟨tracks_init, by simp [Answered]⟩
    · intro sys tr a sys' o ⟨htracks, hans⟩ hok hstep
      exact ⟨tracks_step htracks hok hstep, answered_step htracks hans hstep⟩
  exact hinv.2

/-- A client that asks two resolvers from different ports is answered in the other order. -/
theorem answers_come_back_crossed :
    ∃ sys tr, (machine ⟨0x0A000001, 8153⟩ 0x0A000009).Reach
        (fun sys a => sys.keepsAddresses a) sys tr ∧ tr.length = 2 ∧ Answered sys tr := by
  obtain ⟨sys, tr, hrun, hlen⟩ := Machine.exists_reach (machine ⟨0x0A000001, 8153⟩ 0x0A000009)
    (fun sys a => sys.keepsAddresses a) (fun _ tr => decide (tr.length = 2))
    [.query (demoPacket ⟨0x0A000002, 40000⟩ ⟨0x08080808, 53⟩),
      .query (demoPacket ⟨0x0A000002, 40001⟩ ⟨0x01010101, 53⟩),
      .reply 1 (demoPacket ⟨0x0A000001, 8153⟩ ⟨0x0A000009, 40001⟩),
      .reply 0 (demoPacket ⟨0x0A000001, 8153⟩ ⟨0x0A000009, 40000⟩)] (by decide +kernel)
  exact ⟨sys, tr, hrun, of_decide_eq_true hlen, answers_come_back _ _ sys tr hrun⟩

/-- One socket asks 8.8.8.8 and 1.1.1.1: the answer of the second one is emitted with the
    address of the first one. -/
theorem answer_from_wrong_resolver :
    ∃ sys tr query packet, (machine ⟨0x0A000001, 8153⟩ 0x0A000009).Reachable sys tr ∧
      (1, some packet) ∈ tr ∧ sys.queries[1]? = some query ∧
      query.resolver = ⟨0x01010101, 53⟩ ∧
      (endpoints packet).map Prod.fst = some ⟨0x08080808, 53⟩ ∧ ¬ Answered sys tr := by
  obtain ⟨sys, tr, hrun, hsys⟩ := Machine.exists_reach (machine ⟨0x0A000001, 8153⟩ 0x0A000009)
    (fun _ _ => True)
    (fun sys tr => (sys.queries[1]?).any (fun query => query.resolver = ⟨0x01010101, 53⟩) &&
      tr.any fun x => x.1 = 1 && x.2.any fun packet =>
        (endpoints packet).map Prod.fst = some ⟨0x08080808, 53⟩)
    -- two queries from one port to two resolvers, and the answer to the second
    [.query (demoPacket ⟨0x0A000002, 40000⟩ ⟨0x08080808, 53⟩),
      .query (demoPacket ⟨0x0A000002, 40000⟩ ⟨0x01010101, 53⟩),
      .reply 1 (demoPacket ⟨0x0A000001, 8153⟩ ⟨0x0A000009, 40000⟩)] (by decide +kernel)
  obtain ⟨hquery, htr⟩ := Bool.and_eq_true_iff.mp hsys
  obtain ⟨query, hquery, hresolver⟩ := (Option.any_eq_true _ _).mp hquery
  obtain ⟨⟨q, out⟩, hmem, hx⟩ := List.any_eq_true.mp htr
  obtain ⟨hq, hout⟩ := Bool.and_eq_true_iff.mp hx
  obtain ⟨packet, rfl, hsource⟩ := (Option.any_eq_true _ _).mp hout
  obtain rfl := of_decide_eq_true hq
  have hresolver := of_decide_eq_true hresolver
  have hsource := of_decide_eq_true hsource
  refine ⟨sys, tr, query, packet, hrun, hmem, hquery, hresolver, hsource, ?_⟩
  -- the source of the packet cannot be both resolvers
  intro hans
  obtain ⟨query', packet', hquery', hpacket, hends⟩ := hans 1 _ hmem
  obtain rfl := Option.some.inj hpacket
  obtain rfl := Option.some.inj (hquery.symm.trans hquery')
  rw [hends, Option.map_some, hresolver] at hsource
  have hsame : (⟨0x01010101, 53⟩ : BAddr) = ⟨0x08080808, 53⟩ := Option.some.inj hsource
  exact absurd hsame (by decide)

end DnsExchange

end OpenFlux
