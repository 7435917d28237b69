import Mathlib.Logic.Function.Basic
import OpenFlux.Model.Packet

/-!
# The DNS redirection of tun2socks

`process_device_dns_packet` sees every packet that tun2socks reads from the TUN device.  A
UDP packet to port 53 is sent on to the DNS gateway, with the address of the network
interface as its source, and its addresses are remembered under its source port.  A packet
from the gateway's port is sent back to the addresses remembered for its destination port.

The AVL tree of connections is a function from ports.  Its `int` counters wrap around as
32-bit integers.
-/

namespace OpenFlux

/-- An IPv4 `BAddr`. -/
structure BAddr where
  ip : UInt32
  port : UInt16
  deriving DecidableEq, Repr

/-- `struct Connection` -/
structure Connection where
  localAddr : BAddr
  remoteAddr : BAddr
  port : UInt16
  count : Int
  deriving DecidableEq, Repr

/-- `connections_tree`, and whether it was initialised. -/
structure DnsRedirect where
  connectionsTree : UInt16 → Option Connection := fun _ => none
  init : Bool := false

namespace DnsRedirect

/-- The options that matter here. -/
structure Config where
  /-- `--dnsgw` -/
  dnsgw : Option BAddr
  netifIpaddr : UInt32
  deriving DecidableEq, Repr

/-! ## The connection table -/

/-- The value of an `int` after an addition. -/
def wrapInt (n : Int) : Int := n.bmod 4294967296

/-- `find_connection` -/
def findConnection (dns : DnsRedirect) (port : UInt16) : Option Connection :=
  dns.connectionsTree port

/-- `remove_connection` -/
def removeConnection (dns : DnsRedirect) (con : Connection) : DnsRedirect :=
  let count := wrapInt (con.count - 1)
  { dns with
    connectionsTree := Function.update dns.connectionsTree con.port
      (if count ≤ 0 then none else some { con with count }) }

/-- `insert_connection` -/
def insertConnection (dns : DnsRedirect) (localAddr remoteAddr : BAddr) (port : UInt16) :
    DnsRedirect :=
  match dns.findConnection port with
  -- the addresses of the first query from a port stay
  | some con =>
    { dns with
      connectionsTree := Function.update dns.connectionsTree port
        (some { con with count := wrapInt (con.count + 1) }) }
  | none =>
    { dns with
      connectionsTree := Function.update dns.connectionsTree port
        (some { localAddr, remoteAddr, port, count := 1 }) }

/-! ## Packets -/

/-- The headers and the payload of a packet that is UDP over IPv4, passes `ipv4_check` and
    `udp_check` and has a UDP checksum that verifies. -/
def acceptUdp (data : List UInt8) : Option (Ipv4Header × UdpHeader × List UInt8) :=
  -- IPv4 only
  if (data.headD 0).toNat / 16 ≠ 4 then none
  else if data.length < Ipv4Header.size ∨ data[9]? ≠ some ipv4ProtocolUdp then none
  else
    match ipv4Check data with
    | none => none
    | some (ipv4, segment) =>
      match udpCheck segment with
      | none => none
      | some (udp, payload) => if udpVerifies ipv4 udp payload then some (ipv4, udp, payload)
        else none

/-- `hton16(53)`. -/
def dnsPort : UInt16 := 53

/-- The headers of the packet that is sent instead, before their checksums are updated, and
    the table. -/
def redirect (dns : DnsRedirect) (dnsgw : BAddr) (netifIpaddr : UInt32) (ipv4 : Ipv4Header)
    (udp : UdpHeader) : DnsRedirect × Option (Ipv4Header × UdpHeader) :=
  -- a query goes to the gateway, from the address of the interface
  if udp.destPort = dnsPort then
    let dns := { dns with init := true }
    let localAddr := { ip := ipv4.sourceAddress, port := udp.sourcePort }
    let remoteAddr := { ip := ipv4.destinationAddress, port := udp.destPort }
    (dns.insertConnection localAddr remoteAddr udp.sourcePort,
      some ({ ipv4 with destinationAddress := dnsgw.ip, sourceAddress := netifIpaddr },
        { udp with destPort := dnsgw.port }))
  -- a reply of the gateway goes back to the client, from the resolver it had asked
  else if udp.sourcePort = dnsgw.port then
    if !dns.init then (dns, none)
    else
      match dns.findConnection udp.destPort with
      | some con =>
        (dns.removeConnection con,
          some ({ ipv4 with
                  sourceAddress := con.remoteAddr.ip
                  destinationAddress := con.localAddr.ip },
            { udp with sourcePort := con.remoteAddr.port }))
      | none => (dns, none)
  else (dns, none)

/-- The bytes written to the device: both headers with new checksums, and the payload. -/
def writePacket (ipv4 : Ipv4Header) (udp : UdpHeader) (payload : List UInt8) : List UInt8 :=
  let ipv4 := { ipv4 with checksum := ipv4Checksum { ipv4 with checksum := 0 } [] }
  let udp := { udp with
    checksum := udpChecksum { udp with checksum := 0 } payload ipv4.sourceAddress
      ipv4.destinationAddress }
  ipv4.toBytes ++ udp.toBytes ++ payload

/-- `process_device_dns_packet`: the table and the packet that was submitted, `none` where
    the function returns 0. -/
def processDeviceDnsPacket (cfg : Config) (dns : DnsRedirect) (data : List UInt8) :
    DnsRedirect × Option (List UInt8) :=
  match cfg.dnsgw, acceptUdp data with
  | some dnsgw, some (ipv4, udp, payload) =>
    match dns.redirect dnsgw cfg.netifIpaddr ipv4 udp with
    | (dns, some (ipv4, udp)) => (dns, some (writePacket ipv4 udp payload))
    | (dns, none) => (dns, none)
  | _, _ => (dns, none)

end DnsRedirect

end OpenFlux
