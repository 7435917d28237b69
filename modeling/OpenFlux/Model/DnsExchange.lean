import OpenFlux.ForStd.Machine
import OpenFlux.Model.DnsRedirect

/-!
# Clients, the DNS redirection and the gateway

tun2socks reads two kinds of DNS packets from the TUN device: queries of clients to port 53
of any resolver, and replies of the gateway to queries that it has received.  The gateway
sees a query come from the interface's address and the client's port, and sends its reply
there.  It answers a query at most once, in any order, or never.
-/

namespace OpenFlux

open DnsRedirect

/-- A query that the gateway has received, as it was sent. -/
structure DnsQuery where
  client : BAddr
  resolver : BAddr
  answered : Bool := false
  deriving DecidableEq, Repr

/-- The table of tun2socks, and the queries that the gateway has received. -/
structure DnsExchange where
  dns : DnsRedirect := {}
  queries : List DnsQuery := []

namespace DnsExchange

/-- What is read from the device. -/
inductive Action where
  /-- a checked packet to port 53 is read -/
  | query (data : List UInt8)
  /-- the gateway's reply to query `q` is read -/
  | reply (q : Nat) (data : List UInt8)
  deriving DecidableEq, Repr

/-- A query and the packet that was emitted for the reply to it. -/
abbrev Obs := Nat × Option (List UInt8)

/-- The source of a packet that passed its checks. -/
def source (ipv4 : Ipv4Header) (udp : UdpHeader) : BAddr :=
  { ip := ipv4.sourceAddress, port := udp.sourcePort }

/-- The destination of a packet that passed its checks. -/
def destination (ipv4 : Ipv4Header) (udp : UdpHeader) : BAddr :=
  { ip := ipv4.destinationAddress, port := udp.destPort }

/-- A query reaches the gateway if it is passed on, and each query is answered at most once. -/
def step (dnsgw : BAddr) (netifIpaddr : UInt32) (sys : DnsExchange) :
    Action → Option (DnsExchange × List Obs)
  | .query data =>
    match acceptUdp data with
    | none => none
    | some (ipv4, udp, _) =>
      if udp.destPort = dnsPort then
        let (dns, out) :=
          processDeviceDnsPacket { dnsgw := some dnsgw, netifIpaddr } sys.dns data
        let query := { client := source ipv4 udp, resolver := destination ipv4 udp }
        some ({ dns, queries := if out.isSome then sys.queries ++ [query] else sys.queries },
          [])
      else none
  | .reply q data =>
    match sys.queries[q]?, acceptUdp data with
    | some query, some (ipv4, udp, _) =>
      -- the gateway answers to where the query came from
      if !query.answered ∧ source ipv4 udp = dnsgw ∧
          destination ipv4 udp = { ip := netifIpaddr, port := query.client.port } then
        let (dns, out) :=
          processDeviceDnsPacket { dnsgw := some dnsgw, netifIpaddr } sys.dns data
        some ({ dns, queries := sys.queries.set q { query with answered := true } },
          [(q, out)])
      else none
    | _, _ => none

/-- The state of `tun2socks` from its start on, with `--dnsgw`. -/
def machine (dnsgw : BAddr) (netifIpaddr : UInt32) : Machine DnsExchange Action Obs where
  init := {}
  step := step dnsgw netifIpaddr

end DnsExchange

end OpenFlux
