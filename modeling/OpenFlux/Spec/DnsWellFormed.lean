import OpenFlux.Spec.PacketCheck

/-!
# Are redirected packets well formed?

The packet that the redirection emits has a 20 byte IP header, the UDP header and the UDP
payload, but it keeps the header length and the total length of the packet that was read.
These fit only if that packet had no IP options and no bytes behind its UDP length:
otherwise the total length is larger than the packet.

## Key results

- `length_le_of_redirected`: the emitted packet is never longer than the one read
- `redirected_wellFormed_iff`: it is well formed exactly where the lengths fit
- `redirected_not_wellFormed`: a query with IP options, and one with a byte behind its UDP
  length
-/

namespace OpenFlux

open BigEndian

namespace DnsRedirect

/-! ## The property -/

/-- The UDP payload that the checks extract from a packet. -/
def udpPayload (data : List UInt8) : Option (List UInt8) :=
  (ipv4Check data).bind fun (_, segment) => (udpCheck segment).map fun (_, payload) => payload

/-- `out` passes the checks on its own bytes, its UDP checksum verifies and it has the UDP
    payload of `data`. -/
def WellFormed (data out : List UInt8) : Prop :=
  ∃ ipv4 segment udp payload, ipv4Check out = some (ipv4, segment) ∧
    udpCheck segment = some (udp, payload) ∧ udpVerifies ipv4 udp payload ∧
    udpPayload data = some payload

/-- The IP packet consists of a header without options, the UDP header and the payload. -/
def lengthsFit (data : List UInt8) : Bool :=
  match acceptUdp data with
  | some (ipv4, udp, _) =>
    ipv4.totalLength.toNat = Ipv4Header.size + udp.length.toNat
  | none => false

/-! ## The emitted packet -/

/-- What the redirection leaves alone in the headers. -/
structure SameLengths (ipv4 ipv4' : Ipv4Header) (udp udp' : UdpHeader) : Prop where
  version4Ihl4 : ipv4'.version4Ihl4 = ipv4.version4Ihl4
  totalLength : ipv4'.totalLength = ipv4.totalLength
  length : udp'.length = udp.length

/-- Both directions change addresses and ports only. -/
theorem redirect_sameLengths {dns dns' : DnsRedirect} {dnsgw : BAddr} {netifIpaddr : UInt32}
    {ipv4 ipv4' : Ipv4Header} {udp udp' : UdpHeader}
    (h : dns.redirect dnsgw netifIpaddr ipv4 udp = (dns', some (ipv4', udp'))) :
    SameLengths ipv4 ipv4' udp udp' := by
  rw [redirect] at h
  split at h
  · -- a query
    obtain ⟨-, hsome⟩ := Prod.mk.inj h
    obtain ⟨rfl, rfl⟩ := Prod.mk.inj (Option.some.inj hsome)
    exact ⟨rfl, rfl, rfl⟩
  · split at h
    · split at h
      · cases (Prod.mk.inj h).2
      · split at h
        · -- a reply
          obtain ⟨-, hsome⟩ := Prod.mk.inj h
          obtain ⟨rfl, rfl⟩ := Prod.mk.inj (Option.some.inj hsome)
          exact ⟨rfl, rfl, rfl⟩
        · cases (Prod.mk.inj h).2
    · cases (Prod.mk.inj h).2

/-- A packet is emitted only for an accepted one that is redirected. -/
theorem processDeviceDnsPacket_eq_some {cfg : Config} {dns dns' : DnsRedirect}
    {data out : List UInt8} (h : processDeviceDnsPacket cfg dns data = (dns', some out)) :
    ∃ dnsgw ipv4 udp payload ipv4' udp', cfg.dnsgw = some dnsgw ∧
      acceptUdp data = some (ipv4, udp, payload) ∧
      dns.redirect dnsgw cfg.netifIpaddr ipv4 udp = (dns', some (ipv4', udp')) ∧
      out = writePacket ipv4' udp' payload := by
  rw [processDeviceDnsPacket] at h
  split at h
  · rename_i dnsgw ipv4 udp payload hdnsgw haccept
    split at h
    · rename_i dns'' ipv4' udp' hredirect
      obtain ⟨rfl, hout⟩ := Prod.mk.inj h
      exact ⟨dnsgw, ipv4, udp, payload, ipv4', udp', hdnsgw, haccept, hredirect,
        (Option.some.inj hout).symm⟩
    · cases (Prod.mk.inj h).2
  · cases (Prod.mk.inj h).2

/-- A header of 20 bytes, a header of 8 and the payload. -/
@[simp]
theorem length_writePacket (ipv4 : Ipv4Header) (udp : UdpHeader) (payload : List UInt8) :
    (writePacket ipv4 udp payload).length = 28 + payload.length := by
  simp only [writePacket, List.length_append, Ipv4Header.length_toBytes,
    UdpHeader.length_toBytes]

/-- The header of a written packet, with its checksum. -/
theorem ofBytes_writePacket (ipv4 : Ipv4Header) (udp : UdpHeader) (payload : List UInt8) :
    Ipv4Header.ofBytes (writePacket ipv4 udp payload) =
      some { ipv4 with checksum := ipv4Checksum { ipv4 with checksum := 0 } [] } := by
  rw [writePacket, List.append_assoc]
  exact Ipv4Header.ofBytes_toBytes _ _

/-- A written packet whose lengths fit passes both checks, and its checksum verifies. -/
theorem check_writePacket {ipv4 : Ipv4Header} {udp : UdpHeader} {payload : List UInt8}
    (hversion : ipv4.version = 4) (hihl : ipv4.ihl = 5)
    (htotal : ipv4.totalLength.toNat = 28 + payload.length)
    (hlength : udp.length.toNat = 8 + payload.length) :
    ∃ ipv4' segment udp', ipv4Check (writePacket ipv4 udp payload) = some (ipv4', segment) ∧
      udpCheck segment = some (udp', payload) ∧ udpVerifies ipv4' udp' payload := by
  -- the header as it was written
  let ipv4' := { ipv4 with checksum := ipv4Checksum { ipv4 with checksum := 0 } [] }
  let udp' := { udp with
    checksum := udpChecksum { udp with checksum := 0 } payload ipv4.sourceAddress
      ipv4.destinationAddress }
  refine ⟨ipv4', udp'.toBytes ++ payload, udp', ?_, ?_, ?_⟩
  · have htotal' : ipv4'.totalLength.toNat = 20 + (udp'.toBytes ++ payload).length := by
      rw [List.length_append, UdpHeader.length_toBytes]
      show ipv4.totalLength.toNat = _
      omega
    rw [writePacket, List.append_assoc]
    exact ipv4Check_toBytes hversion hihl htotal' rfl
  · have hlength' : udp'.length.toNat = 8 + payload.length := hlength
    refine udpCheck_eq_some_iff.mpr ⟨payload, UdpHeader.ofBytes_toBytes _ _, ?_, ?_, ?_⟩
    · omega
    · omega
    · rw [List.take_of_length_le]
      omega
  · exact decide_eq_true rfl

/-- The emitted packet is not longer than the packet that was read. -/
theorem length_le_of_redirected {data payload : List UInt8} {ipv4 ipv4' : Ipv4Header}
    {udp udp' : UdpHeader} (haccept : acceptUdp data = some (ipv4, udp, payload)) :
    (writePacket ipv4' udp' payload).length ≤ data.length := by
  obtain ⟨hlength, hihl, htotal, hdata⟩ := lengths_of_acceptUdp haccept
  rw [length_writePacket]
  omega

/-- A packet that is accepted has its payload. -/
theorem udpPayload_of_acceptUdp {data payload : List UInt8} {ipv4 : Ipv4Header}
    {udp : UdpHeader} (h : acceptUdp data = some (ipv4, udp, payload)) :
    udpPayload data = some payload := by
  obtain ⟨-, segment, hipv4, hudp, -⟩ := acceptUdp_eq_some_iff.mp h
  simp only [udpPayload, hipv4, hudp, Option.bind_some, Option.map_some]

/-! ## Main result -/

/-- For every packet of at most MTU bytes, every table and every configuration: a packet
    that is emitted is no longer than the MTU, and it is well formed if and only if the IP
    packet that was read had no options and no bytes behind its UDP length. -/
theorem redirected_wellFormed_iff (cfg : Config) (dns dns' : DnsRedirect) (mtu : Nat)
    (data out : List UInt8) (hmtu : data.length ≤ mtu)
    (h : processDeviceDnsPacket cfg dns data = (dns', some out)) :
    out.length ≤ mtu ∧ (WellFormed data out ↔ lengthsFit data) := by
  obtain ⟨dnsgw, ipv4, udp, payload, ipv4', udp', -, haccept, hredirect, rfl⟩ :=
    processDeviceDnsPacket_eq_some h
  have hsame := redirect_sameLengths hredirect
  obtain ⟨hlength, hihl, htotal, hdata⟩ := lengths_of_acceptUdp haccept
  refine ⟨Nat.le_trans (length_le_of_redirected haccept) hmtu, ?_⟩
  have hfit : lengthsFit data ↔ ipv4.totalLength.toNat = 20 + udp.length.toNat := by
    simp only [lengthsFit, haccept]
    exact decide_eq_true_iff
  rw [hfit]
  constructor
  · -- the total length has to lie within the emitted packet
    rintro ⟨_, _, _, _, hipv4, -⟩
    obtain ⟨hparse, -, -, -, hle, -⟩ := ipv4Check_eq_some_iff.mp hipv4
    rw [ofBytes_writePacket] at hparse
    obtain rfl := Option.some.inj hparse
    rw [length_writePacket] at hle
    have hle' : ipv4.totalLength.toNat ≤ 28 + payload.length := hsame.totalLength ▸ hle
    omega
  · -- the lengths leave no room for options, and `redirect` changes none of them
    intro htight
    obtain ⟨-, _, hipv4, -⟩ := acceptUdp_eq_some_iff.mp haccept
    obtain ⟨-, hversion, -⟩ := ipv4Check_eq_some_iff.mp hipv4
    have hversion' : ipv4'.version = 4 := by
      rw [Ipv4Header.version, hsame.version4Ihl4]
      exact hversion
    have hihl' : ipv4'.ihl = 5 := by
      rw [Ipv4Header.ihl, hsame.version4Ihl4]
      have : ipv4.ihl = 5 := by omega
      exact this
    have htotal' : ipv4'.totalLength.toNat = 28 + payload.length := by
      rw [hsame.totalLength]
      omega
    have hlength' : udp'.length.toNat = 8 + payload.length := by
      rw [hsame.length]
      exact hlength
    obtain ⟨ipv4'', segment, udp'', hcheck, hudp, hsum⟩ :=
      check_writePacket hversion' hihl' htotal' hlength'
    exact ⟨ipv4'', segment, udp'', payload, hcheck, hudp, hsum,
      udpPayload_of_acceptUdp haccept⟩

/-- A configuration with a gateway. -/
def demoConfig : Config :=
  { dnsgw := some { ip := 0x0A000001, port := 8153 }, netifIpaddr := 0x0A000009 }

/-- A packet from `source` to `dest` with three bytes of payload, correct in every respect. -/
def demoPacket (source dest : BAddr) : List UInt8 :=
  writePacket
    { version4Ihl4 := 0x45
      ds := 0
      totalLength := 31
      identification := 1
      flags3FragmentOffset13 := 0
      ttl := 64
      protocol := ipv4ProtocolUdp
      checksum := 0
      sourceAddress := source.ip
      destinationAddress := dest.ip }
    { sourcePort := source.port, destPort := dest.port, length := 11, checksum := 0 } [1, 2, 3]

/-- A query whose lengths fit. -/
theorem redirected_wellFormed_query :
    ∃ data out, (processDeviceDnsPacket demoConfig {} data).2 = some out ∧
      out.length ≤ 1500 ∧ WellFormed data out := by
  let data := demoPacket ⟨0x0A000002, 40000⟩ ⟨0x08080808, 53⟩
  have hsome : ((processDeviceDnsPacket demoConfig {} data).2).isSome := by decide +kernel
  obtain ⟨out, hout⟩ := Option.isSome_iff_exists.mp hsome
  obtain ⟨hlen, hiff⟩ := redirected_wellFormed_iff demoConfig {} _ 1500 data out
    (by decide +kernel) (Prod.ext rfl hout)
  exact ⟨data, out, hout, hlen, hiff.mpr (by decide +kernel)⟩

/-- A query to port 53 with four bytes of IP options. -/
def optionsQuery : List UInt8 :=
  [70, 0, 0, 35, 0, 1, 0, 0, 64, 17, 93, 183, 10, 0, 0, 2, 8, 8, 8, 8, 1, 1, 1, 0,
    156, 64, 0, 53, 0, 11, 69, 79, 1, 2, 3]

/-- The same query without options, with one byte behind its UDP length. -/
def strayQuery : List UInt8 :=
  [69, 0, 0, 32, 0, 1, 0, 0, 64, 17, 96, 187, 10, 0, 0, 2, 8, 8, 8, 8,
    156, 64, 0, 53, 0, 11, 69, 79, 1, 2, 3, 0]

/-- Both queries are redirected to packets whose total length is larger than the packet. -/
theorem redirected_not_wellFormed :
    (∃ out, (processDeviceDnsPacket demoConfig {} optionsQuery).2 = some out ∧
      ¬ WellFormed optionsQuery out) ∧
    ∃ out, (processDeviceDnsPacket demoConfig {} strayQuery).2 = some out ∧
      ¬ WellFormed strayQuery out := by
  -- a packet that the IPv4 check refuses is not well formed
  have hfails (data : List UInt8)
      (h : (processDeviceDnsPacket demoConfig {} data).2.any (ipv4Check · = none)) :
      ∃ out, (processDeviceDnsPacket demoConfig {} data).2 = some out ∧
        ¬ WellFormed data out := by
    obtain ⟨out, hout, hnone⟩ := (Option.any_eq_true _ _).mp h
    refine ⟨out, hout, ?_⟩
    rintro ⟨_, _, _, _, hcheck, -⟩
    rw [of_decide_eq_true hnone] at hcheck
    cases hcheck
  exact ⟨hfails _ (by decide +kernel), hfails _ (by decide +kernel)⟩

end DnsRedirect

end OpenFlux
