import OpenFlux.Model.DnsRedirect

/-!
# What tun2socks does with a packet from the TUN device

`device_read_handler_send` offers each packet to the DNS redirection and then to the UDP
handler; what both refuse goes to the TCP/IP stack.  tun2socks runs without
`--udpgw-remote-server-addr` here: then the UDP handler forwards nothing and answers an IPv4
UDP packet with an ICMP error, so that its sender gives up at once.
-/

namespace OpenFlux

open BigEndian

/-- Protocol number of ICMP. -/
def ipv4ProtocolIcmp : UInt8 := 1

/-- `IPV4_MAKE_VERSION_IHL`. -/
def ipv4MakeVersionIhl (size : Nat) : UInt8 := UInt8.ofNat (size / 4 + 4 * 16)

/-- `inet_checksum`; a last odd byte is left out. -/
def inetChecksum (data : List UInt8) : UInt16 := ~~~ UInt16.ofNat (foldCarries 2 (wordSum data))

/-- An ICMP message "destination unreachable, port unreachable" with a quoted packet. -/
def portUnreachable (checksum : UInt16) (quote : List UInt8) : List UInt8 :=
  [3, 3] ++ write16 checksum ++ [0, 0, 0, 0] ++ quote

/-- The IPv4 header of the ICMP error that answers a packet with header `orig`. -/
def replyHeader (orig : Ipv4Header) (totalLen : Nat) : Ipv4Header :=
  let reply : Ipv4Header :=
    { version4Ihl4 := ipv4MakeVersionIhl Ipv4Header.size
      ds := 0
      totalLength := UInt16.ofNat totalLen
      identification := 0
      flags3FragmentOffset13 := 0
      ttl := 64
      protocol := ipv4ProtocolIcmp
      checksum := 0
      sourceAddress := orig.destinationAddress
      destinationAddress := orig.sourceAddress }
  { reply with checksum := ipv4Checksum reply [] }

/-- `reject_device_udp_packet`: whether the packet was consumed, and the packet that was
    sent. -/
def rejectDeviceUdpPacket (mtu : Nat) (data : List UInt8) : Bool × Option (List UInt8) :=
  if data.length < Ipv4Header.size ∨ (data.headD 0).toNat / 16 ≠ 4 ∨
      data[9]? ≠ some ipv4ProtocolUdp then (false, none)
  else
    match ipv4Check data with
    | none => (false, none)
    | some (orig, payload) =>
      if payload.length < UdpHeader.size then (false, none)
      else
        -- the original header and the first eight bytes behind it
        let quoteLen := orig.ihl * 4 + UdpHeader.size
        let icmpLen := 8 + quoteLen
        let totalLen := Ipv4Header.size + icmpLen
        -- a packet whose answer would be too long is dropped without one
        if totalLen > mtu then (true, none)
        else
          let quote := data.take quoteLen
          -- the checksum is taken over the message with a zero in its place
          let icmpSum := inetChecksum (portUnreachable 0 quote)
          (true, some ((replyHeader orig totalLen).toBytes ++ portUnreachable icmpSum quote))

/-- Where a packet that was read ended up. -/
inductive DeviceRead where
  /-- sent on by the DNS redirection as `packet` -/
  | redirected (packet : List UInt8)
  /-- consumed by the UDP handler, which may have sent an answer -/
  | rejected (answer : Option (List UInt8))
  /-- left to the TCP/IP stack -/
  | stack
  deriving DecidableEq, Repr

/-- `device_read_handler_send`. -/
def deviceReadHandlerSend (cfg : DnsRedirect.Config) (mtu : Nat) (dns : DnsRedirect)
    (data : List UInt8) : DnsRedirect × DeviceRead :=
  match dns.processDeviceDnsPacket cfg data with
  | (dns, some packet) => (dns, .redirected packet)
  | (dns, none) =>
    match rejectDeviceUdpPacket mtu data with
    | (true, answer) => (dns, .rejected answer)
    | (false, _) => (dns, .stack)

end OpenFlux
