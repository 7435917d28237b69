import OpenFlux.Spec.DeviceReject
import OpenFlux.Spec.DnsAnswers

/-!
# Which valid DNS queries are redirected

RFC 768 knows two special values of the checksum field: 0 says that there is no checksum,
and 65535 stands for a checksum that was computed as zero.  `process_device_dns_packet`
compares the field with the checksum that it computes itself.  That one is 0 where the
sender has to write 65535, and for a packet without a checksum it is some other number, so
both kinds of packets are refused and end in an ICMP error.

## Key results

- `udpVerifies_iff`: the comparison as an equation between sums
- `valid_query_redirected_iff`: which valid queries are sent to the gateway
- `valid_query_rejected`: a query of each kind that is answered with an ICMP error
-/

namespace OpenFlux

open BigEndian OnesComplement DnsRedirect

/-! ## Checksums of RFC 768 -/

/-- The bytes that a UDP checksum covers. -/
def udpCovered (ipv4 : Ipv4Header) (udp : UdpHeader) (payload : List UInt8) : List UInt8 :=
  write32 ipv4.sourceAddress ++ write32 ipv4.destinationAddress ++ [0, ipv4ProtocolUdp] ++
    write16 udp.length ++ udp.toBytes ++ payload

/-- The field is 0, or all covered bytes add up to all ones. -/
def ValidUdpChecksum (ipv4 : Ipv4Header) (udp : UdpHeader) (payload : List UInt8) : Prop :=
  udp.checksum = 0 ∨ OnesComplement.sum (udpCovered ipv4 udp payload) = allOnes

/-- The sum in `udp_checksum` over the header with a zero field. -/
def zeroFieldSum (ipv4 : Ipv4Header) (udp : UdpHeader) (payload : List UInt8) : Nat :=
  udpSum { udp with checksum := 0 } payload ipv4.sourceAddress ipv4.destinationAddress

section Sum

variable {ipv4 : Ipv4Header} {udp : UdpHeader} {payload : List UInt8}

/-- The two branches for even and odd payloads are one sum with padding. -/
theorem paddedSum_payload (payload : List UInt8) :
    (if payload.length % 2 = 0 then wordSum payload
      else wordSum (payload.take (payload.length - 1)) + wordSum [payload.getLastD 0, 0]) =
      paddedSum payload := by
  split
  · rename_i heven
    exact (paddedSum_eq_wordSum heven).symm
  · rename_i hodd
    -- an odd payload has a last byte, and an even number before it
    obtain rfl | ⟨front, last, rfl⟩ := List.eq_nil_or_concat' payload
    · simp at hodd
    · have heven : front.length % 2 = 0 := by
        simp only [List.length_append, List.length_singleton] at hodd
        omega
      rw [paddedSum_append heven, paddedSum_eq_wordSum heven]
      simp [wordSum, paddedSum]

/-- The covered bytes add up to the sum of the code and the field. -/
theorem paddedSum_udpCovered (hlength : udp.length.toNat = 8 + payload.length) :
    paddedSum (udpCovered ipv4 udp payload) =
      zeroFieldSum ipv4 udp payload + udp.checksum.toNat := by
  -- the length in the pseudo-header is the field of the header
  have hfield : UInt16.ofNat (UdpHeader.size + payload.length) = udp.length := by
    rw [UdpHeader.size, ← hlength, UInt16.ofNat_toNat]
  have hprotocol : write16 ipv4ProtocolUdp.toUInt16 = [0, ipv4ProtocolUdp] := by decide
  rw [zeroFieldSum, udpSum, paddedSum_payload, hfield, hprotocol]
  simp only [udpCovered, UdpHeader.toBytes, write16, write32, List.cons_append, List.nil_append,
    paddedSum, wordSum, read16_write16]
  rw [UInt16.toNat_zero]
  omega

/-- The sum fits into the 32 bits of the code. -/
theorem zeroFieldSum_lt (hlength : udp.length.toNat = 8 + payload.length) :
    zeroFieldSum ipv4 udp payload < 4294967296 := by
  have hlt := udp.length.toNat_lt
  exact udpSum_lt _ _ _ (by omega)

/-- The protocol number is one of the summands. -/
theorem zeroFieldSum_pos (ipv4 : Ipv4Header) (udp : UdpHeader) (payload : List UInt8) :
    0 < zeroFieldSum ipv4 udp payload := by
  have hprotocol : wordSum (write16 ipv4ProtocolUdp.toUInt16) = 17 := by decide
  rw [zeroFieldSum, udpSum, hprotocol]
  omega

/-- The checksum that the code computes is the complement of the sum. -/
theorem toNat_udpChecksum (hlength : udp.length.toNat = 8 + payload.length) :
    (udpChecksum { udp with checksum := 0 } payload ipv4.sourceAddress
      ipv4.destinationAddress).toNat = 65535 - reduce (zeroFieldSum ipv4 udp payload) := by
  have hfold : foldCarries 2 (zeroFieldSum ipv4 udp payload) =
      reduce (zeroFieldSum ipv4 udp payload) := foldCarries_eq_reduce (zeroFieldSum_lt hlength)
  have hne : reduce (zeroFieldSum ipv4 udp payload) ≠ 0 :=
    Nat.ne_of_gt (reduce_pos (zeroFieldSum_pos ipv4 udp payload))
  rw [zeroFieldSum] at hfold hne
  rw [zeroFieldSum, udpChecksum, hfold]
  -- a sum of words that are not all zero is not zero, so the special case is never taken
  simp only [hne, if_false]
  exact toNat_complement (reduce_le _)

/-- The code accepts one value of the field. -/
theorem udpVerifies_iff (hlength : udp.length.toNat = 8 + payload.length) :
    udpVerifies ipv4 udp payload ↔
      udp.checksum.toNat = 65535 - reduce (zeroFieldSum ipv4 udp payload) := by
  rw [udpVerifies, decide_eq_true_iff, ← UInt16.toNat_inj, toNat_udpChecksum hlength]

/-- Of the valid checksums the code accepts those that are neither 0 nor 65535, and 0 where
    it computes 0 itself. -/
theorem udpVerifies_of_valid (hlength : udp.length.toNat = 8 + payload.length)
    (hvalid : ValidUdpChecksum ipv4 udp payload) :
    udpVerifies ipv4 udp payload ↔
      (udp.checksum ≠ 0 ∧ udp.checksum ≠ 65535) ∨
      (udp.checksum = 0 ∧ udpChecksum { udp with checksum := 0 } payload ipv4.sourceAddress
        ipv4.destinationAddress = 0) := by
  have hpos := zeroFieldSum_pos ipv4 udp payload
  have hfield := udp.checksum.toNat_lt
  rw [ValidUdpChecksum, sum_eq_reduce, paddedSum_udpCovered hlength] at hvalid
  rw [udpVerifies_iff hlength]
  have hones : (65535 : UInt16).toNat = 65535 := by decide
  simp only [ne_eq, ← UInt16.toNat_inj, toNat_udpChecksum hlength, UInt16.toNat_zero, hones]
    at hvalid ⊢
  by_cases hall : udp.checksum.toNat = 65535
  · -- the computed one is 0
    have hsum := reduce_pos hpos
    omega
  · -- below 65535 only the complement of the sum adds up to all ones
    have hiff := reduce_add_eq_allOnes_iff (c := udp.checksum.toNat) hpos (by omega)
    rw [hiff] at hvalid
    omega

end Sum

/-! ## Queries -/

/-- An unfragmented UDP query to port 53 of at most `mtu` bytes that passes both checks and
    has a valid checksum. -/
structure ValidQuery (mtu : Nat) (data : List UInt8) (ipv4 : Ipv4Header) (udp : UdpHeader)
    (payload : List UInt8) : Prop where
  fits : data.length ≤ mtu
  protocol : ipv4.protocol = ipv4ProtocolUdp
  checked : ∃ segment, ipv4Check data = some (ipv4, segment) ∧
    udpCheck segment = some (udp, payload)
  /-- neither more fragments nor an offset -/
  unfragmented : ipv4.flags3FragmentOffset13.toNat % 16384 = 0
  toDns : udp.destPort = dnsPort
  checksum : ValidUdpChecksum ipv4 udp payload

/-- The field is neither of the special values, or it is 0 where the computed one is 0. -/
def OrdinaryChecksum (ipv4 : Ipv4Header) (udp : UdpHeader) (payload : List UInt8) : Prop :=
  (udp.checksum ≠ 0 ∧ udp.checksum ≠ 65535) ∨
    (udp.checksum = 0 ∧ udpChecksum { udp with checksum := 0 } payload ipv4.sourceAddress
      ipv4.destinationAddress = 0)

section Query

variable {mtu : Nat} {data payload : List UInt8} {ipv4 : Ipv4Header} {udp : UdpHeader}

/-- The UDP length is that of the header and the payload. -/
theorem ValidQuery.length (h : ValidQuery mtu data ipv4 udp payload) :
    udp.length.toNat = 8 + payload.length := by
  obtain ⟨segment, -, hudp⟩ := h.checked
  obtain ⟨rest, -, hmin, hlen, rfl⟩ := udpCheck_eq_some_iff.mp hudp
  rw [List.length_take]
  omega

/-- Whether a valid query is accepted is decided by its checksum alone. -/
theorem ValidQuery.acceptUdp_iff (h : ValidQuery mtu data ipv4 udp payload) :
    acceptUdp data = some (ipv4, udp, payload) ↔ OrdinaryChecksum ipv4 udp payload := by
  obtain ⟨segment, hipv4, hudp⟩ := h.checked
  rw [acceptUdp_eq_some_iff, OrdinaryChecksum, ← udpVerifies_of_valid h.length h.checksum]
  constructor
  · rintro ⟨-, -, -, -, hverifies⟩
    exact hverifies
  · intro hverifies
    exact ⟨h.protocol, segment, hipv4, hudp, hverifies⟩

/-- A packet that both checks take apart as a query is accepted as that query or not at
    all. -/
theorem ValidQuery.acceptUdp_none (h : ValidQuery mtu data ipv4 udp payload)
    (hnot : ¬ OrdinaryChecksum ipv4 udp payload) : acceptUdp data = none := by
  rw [← h.acceptUdp_iff] at hnot
  cases haccept : acceptUdp data with
  | none => rfl
  | some accepted =>
    obtain ⟨ipv4', udp', payload'⟩ := accepted
    obtain ⟨-, segment', hipv4', hudp', -⟩ := acceptUdp_eq_some_iff.mp haccept
    obtain ⟨segment, hipv4, hudp⟩ := h.checked
    obtain ⟨rfl, rfl⟩ := Prod.mk.inj (Option.some.inj (hipv4.symm.trans hipv4'))
    obtain ⟨rfl, rfl⟩ := Prod.mk.inj (Option.some.inj (hudp.symm.trans hudp'))
    exact absurd haccept hnot

/-- A valid query is one of the packets that the UDP handler consumes. -/
theorem ValidQuery.udpPacket (h : ValidQuery mtu data ipv4 udp payload) :
    ∃ segment, UdpPacket data ipv4 segment := by
  obtain ⟨segment, hipv4, hudp⟩ := h.checked
  obtain ⟨rest, hparse, -⟩ := udpCheck_eq_some_iff.mp hudp
  have hlen := UdpHeader.length_of_ofBytes hparse
  exact ⟨segment, hipv4, h.protocol, by omega⟩

end Query

/-- For every table: a valid query with an ordinary checksum is sent to the gateway with its
    payload, and every other valid query is handed to the UDP handler, which consumes it. -/
theorem valid_query_redirected_iff (cfg : Config) (dnsgw : BAddr) (hgw : cfg.dnsgw = some dnsgw)
    (mtu : Nat) (dns : DnsRedirect) (data payload : List UInt8) (ipv4 : Ipv4Header)
    (udp : UdpHeader) (hquery : ValidQuery mtu data ipv4 udp payload) :
    (OrdinaryChecksum ipv4 udp payload →
      ∃ out, (processDeviceDnsPacket cfg dns data).2 = some out ∧
        DnsExchange.endpoints out =
          some ({ ip := cfg.netifIpaddr, port := udp.sourcePort }, dnsgw) ∧
        out.drop 28 = payload ∧
        (deviceReadHandlerSend cfg mtu dns data).2 = .redirected out) ∧
    (¬ OrdinaryChecksum ipv4 udp payload →
      processDeviceDnsPacket cfg dns data = (dns, none) ∧
      ∃ answer, (deviceReadHandlerSend cfg mtu dns data).2 = .rejected answer) := by
  obtain ⟨gateway, netifIpaddr⟩ := cfg
  obtain rfl : gateway = some dnsgw := hgw
  constructor
  · intro hordinary
    -- the packet passes every check and is rewritten
    have haccept := hquery.acceptUdp_iff.mpr hordinary
    -- the redirection refuses the checksum
    have hprocess : processDeviceDnsPacket { dnsgw := some dnsgw, netifIpaddr } dns data = _ :=
      processDeviceDnsPacket_query haccept hquery.toDns
    refine ⟨_, congrArg Prod.snd hprocess, ?_, ?_, ?_⟩
    · rw [DnsExchange.endpoints_writePacket]
      rfl
    · rw [writePacket]
      exact List.drop_left' rfl
    · rw [deviceReadHandlerSend, hprocess]
  · intro hnot
    have hprocess : processDeviceDnsPacket { dnsgw := some dnsgw, netifIpaddr } dns data =
        (dns, none) := by
      rw [processDeviceDnsPacket, hquery.acceptUdp_none hnot]
    -- what is not redirected is still a UDP packet, and is answered as unreachable
    obtain ⟨segment, hudp⟩ := hquery.udpPacket
    refine ⟨hprocess, ?_⟩
    rw [deviceReadHandlerSend, hprocess, rejectDeviceUdpPacket_of_check hudp]
    exact ⟨_, rfl⟩

/-- The IPv4 header of the queries below. -/
def queryHeader (totalLength checksum : UInt16) : Ipv4Header :=
  { version4Ihl4 := 0x45
    ds := 0
    totalLength
    identification := 1
    flags3FragmentOffset13 := 0
    ttl := 64
    protocol := ipv4ProtocolUdp
    checksum
    sourceAddress := 0x0A000002
    destinationAddress := 0x08080808 }

/-- A query with an ordinary checksum. -/
theorem valid_query_redirected_ordinary :
    ∃ out, (processDeviceDnsPacket demoConfig {}
        (demoPacket ⟨0x0A000002, 40000⟩ ⟨0x08080808, 53⟩)).2 = some out ∧
      DnsExchange.endpoints out =
        some ({ ip := 0x0A000009, port := 40000 }, { ip := 0x0A000001, port := 8153 }) := by
  let data := demoPacket ⟨0x0A000002, 40000⟩ ⟨0x08080808, 53⟩
  let udp : UdpHeader := { sourcePort := 40000, destPort := 53, length := 11, checksum := 17743 }
  have hquery : ValidQuery 1500 data (queryHeader 31 24764) udp [1, 2, 3] :=
    { fits := by decide
      protocol := rfl
      checked := ⟨data.drop 20, by decide +kernel, by decide +kernel⟩
      unfragmented := rfl
      toDns := rfl
      checksum := .inr (by decide +kernel) }
  obtain ⟨hredirected, -⟩ := valid_query_redirected_iff demoConfig _ rfl 1500 {} data [1, 2, 3]
    (queryHeader 31 24764) udp hquery
  obtain ⟨out, hout, hends, -⟩ := hredirected (.inl (by decide))
  exact ⟨out, hout, hends⟩

/-- A query without a checksum. -/
def noChecksumQuery : List UInt8 :=
  [69, 0, 0, 31, 0, 1, 0, 0, 64, 17, 96, 188, 10, 0, 0, 2, 8, 8, 8, 8,
    156, 64, 0, 53, 0, 11, 0, 0, 1, 2, 3]

/-- A query whose checksum was computed as zero. -/
def zeroChecksumQuery : List UInt8 :=
  [69, 0, 0, 30, 0, 1, 0, 0, 64, 17, 96, 189, 10, 0, 0, 2, 8, 8, 8, 8,
    156, 64, 0, 53, 0, 10, 255, 255, 73, 83]

/-- Both queries are valid, and both are answered with an ICMP error. -/
theorem valid_query_rejected :
    (∃ ipv4 udp payload, ValidQuery 1500 noChecksumQuery ipv4 udp payload ∧
      (processDeviceDnsPacket demoConfig {} noChecksumQuery).2 = none ∧
      (deviceReadHandlerSend demoConfig 1500 {} noChecksumQuery).2 =
        .rejected (some (answerTo ipv4 noChecksumQuery))) ∧
    ∃ ipv4 udp payload, ValidQuery 1500 zeroChecksumQuery ipv4 udp payload ∧
      OnesComplement.sum (udpCovered ipv4 udp payload) = allOnes ∧
      (processDeviceDnsPacket demoConfig {} zeroChecksumQuery).2 = none ∧
      (deviceReadHandlerSend demoConfig 1500 {} zeroChecksumQuery).2 =
        .rejected (some (answerTo ipv4 zeroChecksumQuery)) := by
  constructor
  · -- a query without a checksum
    refine ⟨queryHeader 31 24764,
      { sourcePort := 40000, destPort := 53, length := 11, checksum := 0 }, [1, 2, 3],
      ?_, by decide +kernel, by decide +kernel⟩
    exact
      { fits := by decide
        protocol := rfl
        checked := ⟨noChecksumQuery.drop 20, by decide +kernel, by decide +kernel⟩
        unfragmented := rfl
        toDns := rfl
        checksum := .inl rfl }
  · -- a query whose sum is all ones, so that its checksum is sent as all ones
    refine ⟨queryHeader 30 24765,
      { sourcePort := 40000, destPort := 53, length := 10, checksum := 65535 }, [73, 83],
      ?_, by decide +kernel, by decide +kernel, by decide +kernel⟩
    exact
      { fits := by decide
        protocol := rfl
        checked := ⟨zeroChecksumQuery.drop 20, by decide +kernel, by decide +kernel⟩
        unfragmented := rfl
        toDns := rfl
        checksum := .inr (by decide +kernel) }

end OpenFlux
