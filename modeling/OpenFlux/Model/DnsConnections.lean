import OpenFlux.Model.BAVL
import OpenFlux.Model.DnsRedirect

/-!
# The DNS redirection, with its connection table in memory

`DnsRedirect` takes the table for a function from ports.  Here it is what the code has: a tree
whose nodes lie in allocated `Connection`s.  A function returns `none` where the code
dereferences a pointer to memory that is not allocated, or where a function of the tree does.
`malloc` always succeeds, since the code does not look at its result; the address it returns
is an argument.
-/

namespace OpenFlux

/-- `connections_tree`, the allocated connections, and whether the tree was initialised. -/
structure DnsConnections (P : Type*) where
  connectionsTree : BAVL P := {}
  memory : P → Option Connection := fun _ => none
  init : Bool := false

namespace DnsConnections

open DnsRedirect (wrapInt Config acceptUdp dnsPort writePacket)

/-- No tree with distinct ports has more levels. -/
def treeRounds : Nat := 32

/-- `conaddr_comparator` of tun2socks.c.  It compares the ports as they lie in memory, in network
    order, where this compares their values: the tree may have another shape for that, with the
    same nodes in it. -/
def conaddrComparator (v1 v2 : UInt16) : Ordering :=
  if v1 = v2 then .eq else if v1 > v2 then .gt else .lt

variable {P : Type*}

/-- The value of a node of the tree. -/
def port (o : DnsConnections P) (con : P) : UInt16 := ((o.memory con).map Connection.port).getD 0

/-- `if (!init)`, in `process_device_dns_packet`; `BAVL_Init` sets the root. -/
def initTree (o : DnsConnections P) : DnsConnections P :=
  if o.init then o
  else { o with init := true, connectionsTree := { o.connectionsTree with root := none } }

variable [DecidableEq P]

/-- The structure at `con` is written, or freed. -/
def write (o : DnsConnections P) (con : P) (c : Option Connection) : DnsConnections P :=
  { o with memory := Function.update o.memory con c }

/-- `find_connection` -/
def findConnection (o : DnsConnections P) (port : UInt16) : Option (Option P) :=
  o.connectionsTree.lookupExact conaddrComparator o.port treeRounds port

/-- `remove_connection` -/
def removeConnection (o : DnsConnections P) (con : P) : Option (DnsConnections P) :=
  (o.memory con).bind fun c =>
  let c := { c with count := wrapInt (c.count - 1) }
  let o := o.write con (some c)
  -- the last query of this port was answered
  if c.count ≤ 0 then
    (o.connectionsTree.remove treeRounds con).map fun connectionsTree =>
    { o with connectionsTree }.write con none
  else some o

/-- `insert_connection`, where `malloc` would return `tmp` -/
def insertConnection (o : DnsConnections P) (tmp : P) (localAddr remoteAddr : BAddr)
    (port : UInt16) : Option (DnsConnections P) :=
  (o.findConnection port).bind fun con =>
  match con with
  -- another query from the same port
  | some con =>
    (o.memory con).map fun c => o.write con (some { c with count := wrapInt (c.count + 1) })
  | none =>
    let o := o.write tmp (some { localAddr, remoteAddr, port, count := 1 })
    (o.connectionsTree.insert conaddrComparator o.port treeRounds tmp).map fun r =>
    { o with connectionsTree := r.1 }

/-- `free_connections`, which does not free the memory; for at most `rounds` connections. -/
def freeConnections (o : DnsConnections P) : Nat → Option (DnsConnections P)
  | 0 => if o.connectionsTree.isEmpty then some o else none
  | rounds + 1 =>
    if o.connectionsTree.isEmpty then some o
    else
      (o.connectionsTree.getLast treeRounds).bind fun con =>
      con.bind fun con =>
      (o.connectionsTree.remove treeRounds con).bind fun connectionsTree =>
      freeConnections { o with connectionsTree } rounds

/-- The headers of the packet that is sent instead, before their checksums are updated, and
    the table. -/
def redirect (o : DnsConnections P) (tmp : P) (dnsgw : BAddr) (netifIpaddr : UInt32)
    (ipv4 : Ipv4Header) (udp : UdpHeader) :
    Option (DnsConnections P × Option (Ipv4Header × UdpHeader)) :=
  -- a query goes to the gateway, from the address of the interface
  if udp.destPort = dnsPort then
    let o := o.initTree
    let localAddr := { ip := ipv4.sourceAddress, port := udp.sourcePort }
    let remoteAddr := { ip := ipv4.destinationAddress, port := udp.destPort }
    (o.insertConnection tmp localAddr remoteAddr udp.sourcePort).map fun o =>
    (o, some ({ ipv4 with destinationAddress := dnsgw.ip, sourceAddress := netifIpaddr },
      { udp with destPort := dnsgw.port }))
  -- a reply of the gateway goes back to the client, from the resolver it had asked
  else if udp.sourcePort = dnsgw.port then
    if !o.init then some (o, none)
    else
      (o.findConnection udp.destPort).bind fun con =>
      match con with
      | some con =>
        (o.memory con).bind fun c =>
        (o.removeConnection con).map fun o =>
        (o, some ({ ipv4 with
                    sourceAddress := c.remoteAddr.ip
                    destinationAddress := c.localAddr.ip },
          { udp with sourcePort := c.remoteAddr.port }))
      | none => some (o, none)
  else some (o, none)

/-- `process_device_dns_packet` -/
def processDeviceDnsPacket (cfg : Config) (o : DnsConnections P) (tmp : P) (data : List UInt8) :
    Option (DnsConnections P × Option (List UInt8)) :=
  match cfg.dnsgw, acceptUdp data with
  | some dnsgw, some (ipv4, udp, payload) =>
    (o.redirect tmp dnsgw cfg.netifIpaddr ipv4 udp).map fun r =>
    (r.1, r.2.map fun (ipv4, udp) => writePacket ipv4 udp payload)
  | _, _ => some (o, none)

end DnsConnections

end OpenFlux
