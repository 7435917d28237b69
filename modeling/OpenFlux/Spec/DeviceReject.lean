import OpenFlux.ForStd.OnesComplement
import OpenFlux.Model.DeviceRead
import OpenFlux.Spec.DnsWellFormed

/-!
# The ICMP error for a rejected UDP packet

## Key results

- `sum_portUnreachable`: the ICMP checksum is right
- `rejectDeviceUdpPacket_of_check`, `rejectDeviceUdpPacket_of_not`: what is consumed
- `rejected_with_icmp_error`: every answer is a correct ICMP error that quotes the packet
-/

namespace OpenFlux

open BigEndian OnesComplement

/-- The packet passes `ipv4_check`, is UDP and has room for a UDP header. -/
def UdpPacket (data : List UInt8) (orig : Ipv4Header) (payload : List UInt8) : Prop :=
  ipv4Check data = some (orig, payload) ∧ orig.protocol = ipv4ProtocolUdp ∧ 8 ≤ payload.length

/-! ## Checksums -/

@[simp]
theorem length_portUnreachable (checksum : UInt16) (quote : List UInt8) :
    (portUnreachable checksum quote).length = 8 + quote.length := by
  simp only [portUnreachable, List.length_append, List.length_cons, List.length_nil,
    length_write16]

/-- The sum of the message: its type and code, the checksum and the quote. -/
theorem wordSum_portUnreachable (checksum : UInt16) (quote : List UInt8) :
    wordSum (portUnreachable checksum quote) = 771 + checksum.toNat + wordSum quote := by
  have hword : (read16 3 3).toNat = 771 := by decide
  have hzero : (read16 0 0).toNat = 0 := by decide
  simp only [portUnreachable, write16, List.cons_append, List.nil_append, wordSum,
    read16_write16, hword, hzero]
  omega

/-- The message with its checksum adds up to all ones. -/
theorem sum_portUnreachable {quote : List UInt8} (heven : quote.length % 2 = 0)
    (hlen : quote.length ≤ 68) :
    OnesComplement.sum (portUnreachable (inetChecksum (portUnreachable 0 quote)) quote) =
      allOnes := by
  have hquote := wordSum_le quote
  have hzero : wordSum (portUnreachable 0 quote) = 771 + wordSum quote := by
    rw [wordSum_portUnreachable]
    rfl
  -- the checksum is the complement of the sum of the rest
  have hsum : (inetChecksum (portUnreachable 0 quote)).toNat =
      65535 - reduce (771 + wordSum quote) := by
    rw [inetChecksum, hzero, foldCarries_eq_reduce (by omega), toNat_complement (reduce_le _)]
  rw [sum_eq_reduce, paddedSum_eq_wordSum, wordSum_portUnreachable, hsum]
  · rw [← reduce_add_complement (771 + wordSum quote)]
    congr 1
    omega
  · rw [length_portUnreachable]
    omega

/-! ## What is consumed -/

section Reject

variable {mtu : Nat} {data payload : List UInt8} {orig : Ipv4Header}

/-- The answer to a UDP packet. -/
def answerTo (orig : Ipv4Header) (data : List UInt8) : List UInt8 :=
  let quote := data.take (orig.ihl * 4 + 8)
  (replyHeader orig (36 + orig.ihl * 4)).toBytes ++
    portUnreachable (inetChecksum (portUnreachable 0 quote)) quote

/-- A UDP packet is consumed, and answered if the answer fits. -/
theorem rejectDeviceUdpPacket_of_check (h : UdpPacket data orig payload) :
    rejectDeviceUdpPacket mtu data =
      (true, if 36 + orig.ihl * 4 > mtu then none else some (answerTo orig data)) := by
  obtain ⟨hcheck, hprotocol, hlen⟩ := h
  obtain ⟨hparse, hversion, -⟩ := ipv4Check_eq_some_iff.mp hcheck
  have hdata := Ipv4Header.length_of_ofBytes hparse
  obtain ⟨hfirst, hbyte⟩ := Ipv4Header.bytes_of_ofBytes hparse
  have htotal : Ipv4Header.size + (8 + (orig.ihl * 4 + UdpHeader.size)) =
      36 + orig.ihl * 4 := by
    rw [Ipv4Header.size, UdpHeader.size]
    omega
  rw [rejectDeviceUdpPacket, if_neg]
  · have hroom : ¬ payload.length < UdpHeader.size := Nat.not_lt.mpr hlen
    simp only [hcheck, htotal, hroom, if_false]
    split <;> rfl
  · -- the first tests only repeat what `ipv4_check` finds
    rw [hfirst, hbyte, hprotocol, not_or, not_or]
    exact ⟨Nat.not_lt.mpr hdata, not_not.mpr hversion, by simp⟩

/-- Every other packet is left alone. -/
theorem rejectDeviceUdpPacket_of_not (h : ∀ orig payload, ¬ UdpPacket data orig payload) :
    rejectDeviceUdpPacket mtu data = (false, none) := by
  rw [rejectDeviceUdpPacket]
  split
  · rfl
  · rename_i hcond
    cases hcheck : ipv4Check data with
    | none => rfl
    | some checked =>
      obtain ⟨orig, payload⟩ := checked
      obtain ⟨hparse, -⟩ := ipv4Check_eq_some_iff.mp hcheck
      obtain ⟨-, hbyte⟩ := Ipv4Header.bytes_of_ofBytes hparse
      have hprotocol : orig.protocol = ipv4ProtocolUdp := by
        rw [hbyte] at hcond
        simpa using (not_or.mp (not_or.mp hcond).2).2
      -- it is UDP, so it can only be too short
      have hshort : payload.length < UdpHeader.size := by
        by_contra hlen
        exact h orig payload ⟨hcheck, hprotocol, Nat.not_lt.mp hlen⟩
      simp only [hshort, if_true]

/-! ## The answer -/

/-- The quoted bytes all lie in the packet that was read: its header with the options, and
    eight bytes behind it. -/
theorem quote_of_udpPacket (h : UdpPacket data orig payload) :
    orig.ihl * 4 + 8 ≤ data.length ∧
      data.take (orig.ihl * 4 + 8) = data.take (orig.ihl * 4) ++ payload.take 8 := by
  obtain ⟨hcheck, -, hlen⟩ := h
  obtain ⟨-, -, -, htotal, hdata, -, rfl⟩ := ipv4Check_eq_some_iff.mp hcheck
  rw [List.length_take, List.length_drop] at hlen
  constructor
  · omega
  · rw [List.take_take, Nat.min_eq_left (by omega), List.take_add]

/-- The header length has four bits. -/
theorem ihl_lt (header : Ipv4Header) : header.ihl < 16 := Nat.mod_lt _ (by decide)

/-- The answer passes `ipv4_check`. -/
theorem check_answerTo (h : UdpPacket data orig payload) :
    ipv4Check (answerTo orig data) =
      some (replyHeader orig (36 + orig.ihl * 4),
        portUnreachable (inetChecksum (portUnreachable 0 (data.take (orig.ihl * 4 + 8))))
          (data.take (orig.ihl * 4 + 8))) := by
  obtain ⟨hlen, -⟩ := quote_of_udpPacket h
  have hihl := ihl_lt orig
  -- the length fits into its 16 bits, as a header has at most 60 bytes
  have htotal : (replyHeader orig (36 + orig.ihl * 4)).totalLength.toNat =
      36 + orig.ihl * 4 := by
    show (UInt16.ofNat (36 + orig.ihl * 4)).toNat = _
    rw [UInt16.toNat_ofNat']
    omega
  apply ipv4Check_toBytes
  · show (ipv4MakeVersionIhl Ipv4Header.size).toNat / 16 = 4
    decide
  · show (ipv4MakeVersionIhl Ipv4Header.size).toNat % 16 = 5
    decide
  · rw [htotal, length_portUnreachable, List.length_take]
    omega
  · rfl

/-- What a correct ICMP error for `data` is. -/
structure IcmpError (mtu : Nat) (data out : List UInt8) (orig : Ipv4Header)
    (payload : List UInt8) : Prop where
  fits : out.length ≤ mtu
  inside : orig.ihl * 4 + 8 ≤ data.length
  packet : ∃ reply icmp, ipv4Check out = some (reply, icmp) ∧
    reply.protocol = ipv4ProtocolIcmp ∧
    reply.sourceAddress = orig.destinationAddress ∧
    reply.destinationAddress = orig.sourceAddress ∧
    icmp[0]? = some 3 ∧ icmp[1]? = some 3 ∧
    OnesComplement.sum icmp = allOnes ∧
    icmp.drop 8 = data.take (orig.ihl * 4) ++ payload.take 8 ∧
    icmp.drop 8 = data.take (orig.ihl * 4 + 8)

/-- The answer is a correct ICMP error, if it fits. -/
theorem icmpError_answerTo (h : UdpPacket data orig payload) (hmtu : 36 + orig.ihl * 4 ≤ mtu) :
    IcmpError mtu data (answerTo orig data) orig payload := by
  obtain ⟨hlen, hquote⟩ := quote_of_udpPacket h
  have hihl := ihl_lt orig
  have hquoteLen : (data.take (orig.ihl * 4 + 8)).length = orig.ihl * 4 + 8 := by
    rw [List.length_take]
    omega
  constructor
  · rw [answerTo, List.length_append, Ipv4Header.length_toBytes, length_portUnreachable,
      hquoteLen]
    omega
  · exact hlen
  · refine ⟨_, _, check_answerTo h, rfl, rfl, rfl, rfl, rfl, ?_, ?_, rfl⟩
    · apply sum_portUnreachable
      · omega
      · omega
    · exact hquote

end Reject

/-- A packet that is sent for a UDP packet is a correct ICMP error, and exactly the packets
    that pass `ipv4_check`, are UDP and have at least 8 bytes of payload are consumed. -/
theorem rejected_with_icmp_error (mtu : Nat) (data : List UInt8) :
    (∀ out, (rejectDeviceUdpPacket mtu data).2 = some out →
      ∃ orig payload, UdpPacket data orig payload ∧ IcmpError mtu data out orig payload) ∧
    ((rejectDeviceUdpPacket mtu data).1 = false ↔
      ¬ ∃ orig payload, UdpPacket data orig payload) := by
  by_cases h : ∃ orig payload, UdpPacket data orig payload
  · obtain ⟨orig, payload, hudp⟩ := h
    rw [rejectDeviceUdpPacket_of_check hudp]
    constructor
    · intro out hout
      simp only [Option.ite_none_left_eq_some, Option.some.injEq] at hout
      obtain ⟨hmtu, rfl⟩ := hout
      exact ⟨orig, payload, hudp, icmpError_answerTo hudp (Nat.not_lt.mp hmtu)⟩
    · simp only [Bool.true_eq_false, false_iff, not_not]
      exact ⟨orig, payload, hudp⟩
  · rw [rejectDeviceUdpPacket_of_not (fun orig payload hudp => h ⟨orig, payload, hudp⟩)]
    simp [h]

/-- A packet with options is answered, and its options are quoted. -/
theorem rejected_with_icmp_error_options :
    ∃ out orig payload, (rejectDeviceUdpPacket 1500 DnsRedirect.optionsQuery).2 = some out ∧
      orig.ihl = 6 ∧ IcmpError 1500 DnsRedirect.optionsQuery out orig payload := by
  have hsome : (rejectDeviceUdpPacket 1500 DnsRedirect.optionsQuery).2.isSome := by
    decide +kernel
  obtain ⟨out, hout⟩ := Option.isSome_iff_exists.mp hsome
  obtain ⟨orig, payload, hudp, herror⟩ :=
    (rejected_with_icmp_error 1500 DnsRedirect.optionsQuery).1 out hout
  obtain ⟨hparse, -⟩ := ipv4Check_eq_some_iff.mp hudp.1
  have hihl : (Ipv4Header.ofBytes DnsRedirect.optionsQuery).map Ipv4Header.ihl = some 6 := by
    decide
  rw [hparse] at hihl
  exact ⟨out, orig, payload, hout, Option.some.inj hihl, herror⟩

end OpenFlux
