import OpenFlux.Model.DnsConnections
import OpenFlux.Spec.BAVLRuns
import OpenFlux.Spec.DnsWellFormed

/-!
# The connection table in memory is a function from ports

Both models of the DNS redirection read the same packets.  The one with the tree in memory
never touches memory that is not allocated, ends every loop in 32 rounds, and writes the
packets that the one with a function writes.

## Key results

- `Refines.findConnection`, `Refines.insertConnection`, `Refines.removeConnection`,
  `Refines.freeConnections`: the operations on the two tables correspond
- `lockstep_agrees`: so do whole runs
-/

namespace OpenFlux

namespace DnsConnections

open DnsRedirect (wrapInt Config acceptUdp dnsPort demoConfig demoPacket)
open BAVL (Contains levels)

/-- The comparator is the order of the ports. -/
theorem conaddrComparator_eq_compare : conaddrComparator = compare := by
  funext v1 v2
  show _ = compareOfLessAndEq v1 v2
  unfold conaddrComparator compareOfLessAndEq
  grind

instance : Std.TransCmp conaddrComparator := by
  rw [conaddrComparator_eq_compare]
  infer_instance

/-- The comparator tells equal ports from others. -/
theorem conaddrComparator_eq {v1 v2 : UInt16} : conaddrComparator v1 v2 = .eq ↔ v1 = v2 := by
  unfold conaddrComparator
  split
  · simp [*]
  · split <;> simp [*]

/-! ## Entries and where they lie -/

section Rows

variable {P R κ : Type*}

/-- The records at the addresses `nodes` are the entries of `table`. -/
def Rows (memory : P → Option R) (key : R → κ) (nodes : List P) (table : κ → Option R) : Prop :=
  ∀ k r, table k = some r ↔ ∃ p ∈ nodes, memory p = some r ∧ key r = k

variable [DecidableEq κ] {memory memory' : P → Option R} {key : R → κ} {nodes nodes' : List P}
  {table : κ → Option R} {p : P} {r : R}

/-- The record at `p` is written; no other record may have its key. -/
theorem Rows.write (h : Rows memory key nodes table)
    (hkey : ∀ q ∈ nodes, ∀ d, memory q = some d → (key d = key r ↔ q = p))
    (hself : memory' p = some r) (hother : ∀ q ≠ p, memory' q = memory q)
    (hnodes : ∀ q, q ∈ nodes' ↔ q ∈ nodes ∨ q = p) :
    Rows memory' key nodes' (Function.update table (key r) (some r)) := by
  intro k d
  -- the row that was written, or one of the others
  by_cases hk : k = key r
  · rw [hk, Function.update_self, Option.some.injEq]
    constructor
    · rintro rfl
      exact ⟨p, (hnodes p).mpr (.inr rfl), hself, rfl⟩
    · rintro ⟨q, hq, hmem, hd⟩
      by_cases hqp : q = p
      · rw [hqp, hself] at hmem
        exact Option.some.inj hmem
      · rw [hother q hqp] at hmem
        have hq := ((hnodes q).mp hq).resolve_right hqp
        exact absurd ((hkey q hq d hmem).mp hd) hqp
  · rw [Function.update_of_ne hk, h k d]
    constructor
    · rintro ⟨q, hq, hmem, rfl⟩
      -- it is not the record that was written, which has another key
      have hqp : q ≠ p := fun hqp => hk ((hkey q hq d hmem).mpr hqp)
      exact ⟨q, (hnodes q).mpr (.inl hq), (hother q hqp).trans hmem, rfl⟩
    · rintro ⟨q, hq, hmem, rfl⟩
      have hqp : q ≠ p := by
        rintro rfl
        rw [hself, Option.some.injEq] at hmem
        exact hk (congrArg key hmem).symm
      exact ⟨q, ((hnodes q).mp hq).resolve_right hqp, (hother q hqp).symm.trans hmem, rfl⟩

/-- The record at `p` is taken out of the table. -/
theorem Rows.erase (h : Rows memory key nodes table)
    (hkey : ∀ q ∈ nodes, ∀ d, memory q = some d → (key d = key r ↔ q = p))
    (hother : ∀ q ≠ p, memory' q = memory q) (hnodes : ∀ q, q ∈ nodes' ↔ q ∈ nodes ∧ q ≠ p) :
    Rows memory' key nodes' (Function.update table (key r) none) := by
  intro k d
  -- the row that was erased, or one of the others
  by_cases hk : k = key r
  · rw [hk, Function.update_self]
    refine ⟨fun hnone => (by cases hnone), ?_⟩
    rintro ⟨q, hq, hmem, hd⟩
    obtain ⟨hq, hqp⟩ := (hnodes q).mp hq
    rw [hother q hqp] at hmem
    exact absurd ((hkey q hq d hmem).mp hd) hqp
  · rw [Function.update_of_ne hk, h k d]
    constructor
    · rintro ⟨q, hq, hmem, rfl⟩
      have hqp : q ≠ p := fun hqp => hk ((hkey q hq d hmem).mpr hqp)
      exact ⟨q, (hnodes q).mpr ⟨hq, hqp⟩, (hother q hqp).trans hmem, rfl⟩
    · rintro ⟨q, hq, hmem, rfl⟩
      obtain ⟨hq, hqp⟩ := (hnodes q).mp hq
      exact ⟨q, hq, (hother q hqp).symm.trans hmem, rfl⟩

end Rows

/-! ## The operations -/

variable {P : Type*} {o : DnsConnections P} {nodes : List P} {dns : DnsRedirect} {p tmp : P}
  {c : Connection}

/-- The tree in memory has the nodes `nodes`, and these are the entries of the table.  More
    connections may be allocated, since `free_connections` does not free them. -/
structure Refines (o : DnsConnections P) (nodes : List P) (dns : DnsRedirect) : Prop where
  init : o.init = dns.init
  uninit : o.init = false → nodes = []
  contains : Contains conaddrComparator o.port o.connectionsTree nodes
  allocated : ∀ p ∈ nodes, (o.memory p).isSome
  rows : Rows o.memory Connection.port nodes dns.connectionsTree

/-- The port of a node, by the record in memory. -/
theorem port_eq (h : o.memory p = some c) : o.port p = c.port := by
  rw [port, h]
  rfl

/-- No two connections of the table have a port in common. -/
theorem Refines.port_eq_iff {q : P} {d : Connection} (h : Refines o nodes dns) (hp : p ∈ nodes)
    (hc : o.memory p = some c) (hq : q ∈ nodes) (hd : o.memory q = some d) :
    d.port = c.port ↔ q = p := by
  constructor
  · intro heq
    rw [← port_eq hc, ← port_eq hd] at heq
    exact h.contains.eq_of_values hq hp (conaddrComparator_eq.mpr heq)
  · rintro rfl
    rw [hc, Option.some.injEq] at hd
    rw [hd]

/-- The tree never needs more rounds than it is given. -/
theorem Refines.levels_le (h : Refines o nodes dns) : levels nodes.length ≤ treeRounds :=
  BAVL.levels_le_of_length h.contains.length_le_uint16

/-- An empty tree is an empty table. -/
theorem Refines.cleared (h : Refines o [] dns) :
    Refines o [] { dns with connectionsTree := fun _ => none } := by
  refine ⟨h.init, h.uninit, h.contains, h.allocated, ?_⟩
  intro k r
  simp

/-- `BAVL_Init` touches no connection. -/
theorem initTree_memory : o.initTree.memory = o.memory := by
  unfold initTree
  split <;> rfl

/-- After `BAVL_Init` the flag is set, so that it is done once. -/
theorem initTree_init : o.initTree.init = true := by
  unfold initTree
  split
  · assumption
  · rfl

/-- `BAVL_Init`, before the first connection. -/
theorem Refines.initTree (h : Refines o nodes dns) :
    Refines o.initTree nodes { dns with init := true } := by
  unfold DnsConnections.initTree
  split
  · rename_i hinit
    exact ⟨hinit, h.uninit, h.contains, h.allocated, h.rows⟩
  · rename_i hinit
    have hrows := h.rows
    rw [h.uninit (by simpa using hinit)] at hrows ⊢
    exact ⟨rfl, fun _ => rfl, .empty rfl, by simp, hrows⟩

/-- Both find the same connection, or none. -/
theorem Refines.findConnection (h : Refines o nodes dns) (port : UInt16) :
    (∃ p ∈ nodes, ∃ c, o.memory p = some c ∧ c.port = port ∧
      dns.findConnection port = some c ∧ o.findConnection port = some (some p)) ∨
    (dns.findConnection port = none ∧ o.findConnection port = some none) := by
  have hfind := h.contains.lookupExact h.levels_le port
  cases hnode : nodes.find? fun p => conaddrComparator port (o.port p) = .eq with
  | none =>
    right
    rw [hnode] at hfind
    refine ⟨Option.eq_none_iff_forall_ne_some.mpr ?_, hfind⟩
    intro c hc
    -- a row of the table would be a node that compares equal
    obtain ⟨p, hp, hmem, rfl⟩ := (h.rows port c).mp hc
    have hne := List.find?_eq_none.mp hnode p hp
    rw [port_eq hmem] at hne
    exact hne (by simp [conaddrComparator_eq])
  | some p =>
    left
    rw [hnode] at hfind
    have hp := List.mem_of_find?_eq_some hnode
    have hport : port = o.port p := by simpa [conaddrComparator_eq] using List.find?_some hnode
    obtain ⟨c, hc⟩ := Option.isSome_iff_exists.mp (h.allocated p hp)
    rw [port_eq hc] at hport
    exact ⟨p, hp, c, hc, hport.symm, (h.rows port c).mpr ⟨p, hp, hc, hport.symm⟩, hfind⟩

variable [DecidableEq P]

theorem write_self (c : Option Connection) : (o.write p c).memory p = c := Function.update_self ..

theorem write_other {q : P} (c : Option Connection) (hq : q ≠ p) :
    (o.write p c).memory q = o.memory q := Function.update_of_ne hq ..

/-- Writing a connection does not change the ports of the others. -/
theorem port_write {q : P} (c : Option Connection) (hq : q ≠ p) :
    (o.write p c).port q = o.port q := by
  rw [port, write_other c hq, port]

/-- A connection of the table is changed, but not its port. -/
theorem Refines.write {d : Connection} (h : Refines o nodes dns) (hp : p ∈ nodes)
    (hc : o.memory p = some c) (hport : d.port = c.port) :
    Refines (o.write p (some d)) nodes
      { dns with connectionsTree := Function.update dns.connectionsTree d.port (some d) } := by
  refine ⟨h.init, h.uninit, h.contains.congr ?_, ?_, ?_⟩
  · -- the tree does not see the change, as the port stays
    intro q hq
    by_cases hqp : q = p
    · rw [hqp, port_eq (write_self _), port_eq hc, hport]
    · exact port_write _ hqp
  · intro q hq
    by_cases hqp : q = p
    · rw [hqp, write_self]
      rfl
    · rw [write_other _ hqp]
      exact h.allocated q hq
  · refine h.rows.write ?_ (write_self _) (fun q hq => write_other _ hq) ?_
    · intro q hq e he
      rw [hport]
      exact h.port_eq_iff hp hc hq he
    · intro q
      refine ⟨.inl, fun hq => hq.elim id ?_⟩
      rintro rfl
      exact hp

/-- A connection is allocated and put into the tree. -/
theorem Refines.insertNew (h : Refines o nodes dns) (htmp : o.memory tmp = none)
    (hinit : o.init = true) (hnone : dns.findConnection c.port = none) :
    ∃ tree ref, o.connectionsTree.insert conaddrComparator (o.write tmp (some c)).port treeRounds
        tmp = some (tree, ref, true) ∧
      Refines { o.write tmp (some c) with connectionsTree := tree } (tmp :: nodes)
        { dns with connectionsTree := Function.update dns.connectionsTree c.port (some c) } := by
  -- the new address is none of those in the tree
  have hne : ∀ q ∈ nodes, q ≠ tmp := by
    rintro q hq rfl
    have hallocated := h.allocated q hq
    simp [htmp] at hallocated
  -- and the port is none of theirs
  have hport : ∀ q ∈ nodes, ∀ d, o.memory q = some d → d.port ≠ c.port := by
    intro q hq d hd heq
    have hrow : dns.findConnection c.port = some d := (h.rows c.port d).mpr ⟨q, hq, hd, heq⟩
    rw [hnone] at hrow
    cases hrow
  have hcontains : Contains conaddrComparator (o.write tmp (some c)).port o.connectionsTree nodes :=
    h.contains.congr fun q hq => port_write _ (hne q hq)
  obtain ⟨q, hq, heq, -⟩ | ⟨-, tree, ref, hinsert, hcontains'⟩ :=
    hcontains.insert (fun hmem => hne tmp hmem rfl) h.levels_le
  · -- the tree would refuse a port that it has
    obtain ⟨d, hd⟩ := Option.isSome_iff_exists.mp (h.allocated q hq)
    rw [conaddrComparator_eq, port_eq (write_self _), port_write _ (hne q hq), port_eq hd] at heq
    exact absurd heq.symm (hport q hq d hd)
  · refine ⟨tree, ref, hinsert, h.init, fun hinit' => ?_, hcontains', ?_, ?_⟩
    · exact absurd (hinit.symm.trans hinit') (by simp)
    · intro q hq
      show ((o.write tmp (some c)).memory q).isSome = true
      obtain rfl | hq := List.mem_cons.mp hq
      · rw [write_self]
        rfl
      · rw [write_other _ (hne q hq)]
        exact h.allocated q hq
    · refine h.rows.write ?_ (write_self _) (fun q hq => write_other _ hq) ?_
      · intro q hq d hd
        exact iff_of_false (hport q hq d hd) (hne q hq)
      · intro q
        rw [List.mem_cons, or_comm]

/-- A connection is taken out of the tree, and maybe freed. -/
theorem Refines.erase (h : Refines o nodes dns) (hp : p ∈ nodes) (hc : o.memory p = some c) :
    ∃ connectionsTree, o.connectionsTree.remove treeRounds p = some connectionsTree ∧
      ∀ memory, (∀ q ≠ p, memory q = o.memory q) →
        Refines { o with connectionsTree, memory } (nodes.erase p)
          { dns with connectionsTree := Function.update dns.connectionsTree c.port none } := by
  have hmem : ∀ q, q ∈ nodes.erase p ↔ q ∈ nodes ∧ q ≠ p := by
    intro q
    rw [h.contains.nodup.mem_erase_iff, and_comm]
  obtain ⟨tree, hremove, hcontains⟩ := h.contains.remove hp h.levels_le
  refine ⟨tree, hremove, fun memory hmemory =>
    ⟨h.init, fun hinit => ?_, hcontains.congr ?_, ?_, ?_⟩⟩
  · -- a tree with a node was initialised
    rw [h.uninit hinit] at hp
    cases hp
  · intro q hq
    show ((memory q).map Connection.port).getD 0 = o.port q
    rw [hmemory q ((hmem q).mp hq).2, port]
  · intro q hq
    obtain ⟨hq, hqp⟩ := (hmem q).mp hq
    show (memory q).isSome = true
    rw [hmemory q hqp]
    exact h.allocated q hq
  · exact h.rows.erase (fun q hq d hd => h.port_eq_iff hp hc hq hd) hmemory hmem

/-- The count goes down in both, and at 0 the entry goes. -/
theorem Refines.removeConnection (h : Refines o nodes dns) (hp : p ∈ nodes)
    (hc : o.memory p = some c) :
    ∃ o' nodes', o.removeConnection p = some o' ∧ Refines o' nodes' (dns.removeConnection c) := by
  rw [DnsConnections.removeConnection, hc, Option.bind_some, DnsRedirect.removeConnection]
  dsimp only
  have hwritten := h.write (d := { c with count := wrapInt (c.count - 1) }) hp hc rfl
  split
  · obtain ⟨tree, hremove, herased⟩ := hwritten.erase hp (write_self _)
    rw [Function.update_idem] at herased
    exact ⟨_, _, by rw [hremove]; rfl, herased _ fun q hq => write_other _ hq⟩
  · exact ⟨_, _, rfl, hwritten⟩

/-- The count goes up in both, or there is a new entry. -/
theorem Refines.insertConnection (h : Refines o nodes dns) (htmp : o.memory tmp = none)
    (hinit : o.init = true) (localAddr remoteAddr : BAddr) (port : UInt16) :
    ∃ o' nodes', o.insertConnection tmp localAddr remoteAddr port = some o' ∧
      Refines o' nodes' (dns.insertConnection localAddr remoteAddr port) := by
  rw [DnsConnections.insertConnection, DnsRedirect.insertConnection]
  -- a connection of the port is counted up, or a new one goes into the tree
  obtain ⟨p, hp, c, hc, rfl, hdns, hfind⟩ | ⟨hdns, hfind⟩ := h.findConnection port
  · rw [hfind, hdns, Option.bind_some]
    dsimp only
    rw [hc]
    exact ⟨_, _, rfl, h.write (d := { c with count := wrapInt (c.count + 1) }) hp hc rfl⟩
  · rw [hfind, hdns, Option.bind_some]
    obtain ⟨tree, ref, hinsert, hnew⟩ :=
      h.insertNew (c := { localAddr, remoteAddr, port, count := 1 }) htmp hinit hdns
    exact ⟨_, _, congrArg (Option.map _) hinsert, hnew⟩

/-- `free_connections` ends and leaves an empty table. -/
theorem Refines.freeConnections {rounds : Nat} (h : Refines o nodes dns)
    (hrounds : nodes.length ≤ rounds) :
    ∃ o', o.freeConnections rounds = some o' ∧
      Refines o' [] { dns with connectionsTree := fun _ => none } := by
  induction rounds generalizing o nodes dns with
  | zero =>
    obtain rfl := List.eq_nil_of_length_eq_zero (Nat.le_zero.mp hrounds)
    rw [DnsConnections.freeConnections, h.contains.isEmpty]
    exact ⟨o, rfl, h.cleared⟩
  | succ rounds ih =>
    rw [DnsConnections.freeConnections, h.contains.isEmpty]
    by_cases hne : nodes = []
    · subst hne
      exact ⟨o, rfl, h.cleared⟩
    · -- the last node is taken out, and there is one node less for the next round
      obtain ⟨p, hp, hlast⟩ := h.contains.getLast hne h.levels_le
      obtain ⟨c, hc⟩ := Option.isSome_iff_exists.mp (h.allocated p hp)
      obtain ⟨tree, hremove, herased⟩ := h.erase hp hc
      obtain ⟨o', hfree, hempty⟩ := ih (herased o.memory fun _ _ => rfl) (by
        rw [List.length_erase_of_mem hp]
        omega)
      refine ⟨o', ?_, hempty⟩
      rw [if_neg (by simpa using hne), hlast, Option.bind_some, Option.bind_some, hremove]
      exact hfree

/-- The same decision about a packet, with the same effect on both tables. -/
theorem Refines.redirect (h : Refines o nodes dns) (htmp : o.memory tmp = none) (dnsgw : BAddr)
    (netifIpaddr : UInt32) (ipv4 : Ipv4Header) (udp : UdpHeader) :
    ∃ o' nodes', o.redirect tmp dnsgw netifIpaddr ipv4 udp =
        some (o', (dns.redirect dnsgw netifIpaddr ipv4 udp).2) ∧
      Refines o' nodes' (dns.redirect dnsgw netifIpaddr ipv4 udp).1 := by
  unfold DnsConnections.redirect DnsRedirect.redirect
  by_cases hto : udp.destPort = dnsPort
  · -- a query
    rw [if_pos hto, if_pos hto]
    rw [← initTree_memory] at htmp
    obtain ⟨o', nodes', hinsert, h'⟩ := h.initTree.insertConnection htmp initTree_init
      { ip := ipv4.sourceAddress, port := udp.sourcePort }
      { ip := ipv4.destinationAddress, port := udp.destPort } udp.sourcePort
    exact ⟨o', nodes', congrArg (Option.map _) hinsert, h'⟩
  · rw [if_neg hto, if_neg hto, h.init]
    by_cases hfrom : udp.sourcePort = dnsgw.port
    · -- a reply, which may be to no query at all
      rw [if_pos hfrom, if_pos hfrom]
      cases hinit : dns.init with
      | false => exact ⟨o, nodes, rfl, h⟩
      | true =>
        obtain ⟨p, hp, c, hc, -, hdns, hfind⟩ | ⟨hdns, hfind⟩ := h.findConnection udp.destPort
        · obtain ⟨o', nodes', hremove, h'⟩ := h.removeConnection hp hc
          rw [hfind, hdns]
          refine ⟨o', nodes', ?_, h'⟩
          rw [if_neg (by simp), Option.bind_some]
          dsimp only
          rw [hc, Option.bind_some, hremove]
          rfl
        · rw [hfind, hdns]
          exact ⟨o, nodes, rfl, h⟩
    · rw [if_neg hfrom, if_neg hfrom]
      exact ⟨o, nodes, rfl, h⟩

/-- The same packet is submitted to the device, if any. -/
theorem Refines.processDeviceDnsPacket (cfg : Config) (h : Refines o nodes dns)
    (htmp : o.memory tmp = none) (data : List UInt8) :
    ∃ o' nodes', o.processDeviceDnsPacket cfg tmp data =
        some (o', (dns.processDeviceDnsPacket cfg data).2) ∧
      Refines o' nodes' (dns.processDeviceDnsPacket cfg data).1 := by
  unfold DnsConnections.processDeviceDnsPacket DnsRedirect.processDeviceDnsPacket
  cases cfg.dnsgw with
  | none => exact ⟨o, nodes, rfl, h⟩
  | some dnsgw =>
    cases acceptUdp data with
    | none => exact ⟨o, nodes, rfl, h⟩
    -- the table is touched behind the checks only
    | some accepted =>
      obtain ⟨ipv4, udp, payload⟩ := accepted
      obtain ⟨o', nodes', hredirect, h'⟩ := h.redirect htmp dnsgw cfg.netifIpaddr ipv4 udp
      dsimp only
      rw [hredirect]
      generalize dns.redirect dnsgw cfg.netifIpaddr ipv4 udp = r at h' ⊢
      obtain ⟨dns', out⟩ := r
      cases out with
      | none => exact ⟨o', nodes', rfl, h'⟩
      | some headers => exact ⟨o', nodes', rfl, h'⟩

/-! ## Runs -/

/-- Both tables after the same events, and whether the one in memory failed. -/
structure Lockstep (P : Type*) where
  memory : DnsConnections P := {}
  dns : DnsRedirect := {}
  fault : Bool := false

/-- What happens to the table. -/
inductive Event (P : Type*) where
  /-- a packet is read from the device; `malloc` would return `tmp` -/
  | packet (tmp : P) (data : List UInt8)
  /-- `tun2socks_main` returns -/
  | terminate
  deriving DecidableEq, Repr

/-- Packets come in any order, and tun2socks may be started again in the same process, where
    its static variables keep their values.  A step emits what the two models submit to the
    device. -/
def lockstep (P : Type*) [DecidableEq P] (cfg : Config) :
    Machine (Lockstep P) (Event P) (Option (List UInt8) × Option (List UInt8)) where
  init := {}
  step s e :=
    if s.fault then none
    else
      match e with
      | .packet tmp data =>
        -- `malloc` returns memory that is not in use
        if (s.memory.memory tmp).isSome then none
        else
          let (dns, out) := s.dns.processDeviceDnsPacket cfg data
          match s.memory.processDeviceDnsPacket cfg tmp data with
          | some (memory, outMemory) => some ({ s with memory, dns }, [(outMemory, out)])
          | none => some ({ s with fault := true }, [])
      | .terminate =>
        match s.memory.freeConnections 65536 with
        | some memory =>
          some ({ s with memory, dns := { s.dns with connectionsTree := fun _ => none } }, [])
        | none => some ({ s with fault := true }, [])

variable {cfg : Config} {s s' : Lockstep P}
  {tr out : List (Option (List UInt8) × Option (List UInt8))} {e : Event P}

/-- The table in memory has not failed, is the other one, and has submitted the same packets. -/
structure Agrees (s : Lockstep P) (tr : List (Option (List UInt8) × Option (List UInt8))) :
    Prop where
  fault : s.fault = false
  refines : ∃ nodes, Refines s.memory nodes s.dns
  outputs : ∀ r ∈ tr, r.1 = r.2

/-- Any event keeps the two in agreement. -/
theorem Agrees.step (h : Agrees s tr) (hstep : (lockstep P cfg).step s e = some (s', out)) :
    Agrees s' (tr ++ out) := by
  obtain ⟨nodes, hrefines⟩ := h.refines
  simp only [lockstep, h.fault, Bool.false_eq_true, if_false] at hstep
  cases e with
  | packet tmp data =>
    dsimp only at hstep
    split at hstep
    · cases hstep
    · rename_i htmp
      obtain ⟨o', nodes', hpacket, hrefines'⟩ :=
        hrefines.processDeviceDnsPacket cfg (by simpa using htmp) data
      rw [hpacket] at hstep
      cases hstep
      exact ⟨rfl, ⟨nodes', hrefines'⟩, List.forall_mem_append.mpr ⟨h.outputs, by simp⟩⟩
  | terminate =>
    dsimp only at hstep
    -- a table of ports has at most 65536 entries, so the loop ends
    obtain ⟨o', hfree, hrefines'⟩ :=
      hrefines.freeConnections hrefines.contains.length_le_uint16
    rw [hfree] at hstep
    cases hstep
    exact ⟨rfl, ⟨[], hrefines'⟩, by simpa using h.outputs⟩

omit [DecidableEq P] in
/-- Both start empty. -/
theorem Agrees.init : Agrees ({} : Lockstep P) [] where
  fault := rfl
  refines := ⟨[], rfl, fun _ => rfl, .empty rfl, by simp, fun k r => by simp⟩
  outputs := by simp

/-- Along every run, also over several starts, the table in memory works as the function from
    ports does: it never fails, and the same packets are submitted. -/
theorem lockstep_agrees (h : (lockstep P cfg).Reachable s tr) :
    s.fault = false ∧ (∀ r ∈ tr, r.1 = r.2) ∧
      ∀ port, ∃ con, s.memory.findConnection port = some con ∧
        con.bind s.memory.memory = s.dns.findConnection port := by
  have hagrees : Agrees s tr :=
    h.inv (P := fun s tr => Agrees s tr) .init fun h _ hs => h.step hs
  obtain ⟨nodes, hrefines⟩ := hagrees.refines
  refine ⟨hagrees.fault, hagrees.outputs, fun port => ?_⟩
  obtain ⟨p, -, c, hc, -, hdns, hfind⟩ | ⟨hdns, hfind⟩ := hrefines.findConnection port
  · exact ⟨some p, hfind, by rw [Option.bind_some, hc, hdns]⟩
  · exact ⟨none, hfind, by rw [Option.bind_none, hdns]⟩

/-- Three queries, one of them repeated, a reply, and a restart. -/
theorem lockstep_agrees_restart : ∃ s tr,
    (lockstep Nat demoConfig).Reachable s tr ∧ tr.length = 6 ∧ (tr.filterMap Prod.fst).length = 5 ∧
      s.fault = false ∧ ∀ r ∈ tr, r.1 = r.2 := by
  obtain ⟨s, tr, hreach, htr⟩ := (lockstep Nat demoConfig).exists_reach (fun _ _ => True)
    (fun _ tr => decide (tr.length = 6 ∧ (tr.filterMap Prod.fst).length = 5))
    -- queries from two ports and an answer; after the termination an answer that comes too
    -- late, and a query
    [.packet 0 (demoPacket ⟨0x0A000002, 40000⟩ ⟨0x08080808, 53⟩),
      .packet 1 (demoPacket ⟨0x0A000002, 40001⟩ ⟨0x01010101, 53⟩),
      .packet 2 (demoPacket ⟨0x0A000002, 40000⟩ ⟨0x08080808, 53⟩),
      .packet 2 (demoPacket ⟨0x0A000001, 8153⟩ ⟨0x0A000009, 40001⟩),
      .terminate,
      .packet 1 (demoPacket ⟨0x0A000001, 8153⟩ ⟨0x0A000009, 40000⟩),
      .packet 1 (demoPacket ⟨0x0A000002, 40000⟩ ⟨0x01010101, 53⟩)] (by decide +kernel)
  obtain ⟨hlength, houtputs⟩ := of_decide_eq_true htr
  obtain ⟨hfault, hagree, -⟩ := lockstep_agrees hreach
  exact ⟨s, tr, hreach, hlength, houtputs, hfault, hagree⟩

end DnsConnections

end OpenFlux
