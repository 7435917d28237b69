import OpenFlux.Model.DnsRedirect

/-!
# What the packet checks accept

Headers that were written are read back, and each check is described by what holds of the
packets that it accepts.

## Key results

- `Ipv4Header.ofBytes_toBytes`, `UdpHeader.ofBytes_toBytes`: round trips
- `ipv4Check_eq_some_iff`, `udpCheck_eq_some_iff`, `acceptUdp_eq_some_iff`: the checks
- `foldCarries_ipv4Sum_lt`, `foldCarries_udpSum_lt`: the sums fit into 32 bits, and the
  loops that fold their carries end
-/

namespace OpenFlux

open BigEndian

/-! ## Headers -/

namespace Ipv4Header

@[simp]
theorem length_toBytes (header : Ipv4Header) : header.toBytes.length = 20 := rfl

/-- A header that was written is read back, whatever follows it. -/
@[simp]
theorem ofBytes_toBytes (header : Ipv4Header) (rest : List UInt8) :
    ofBytes (header.toBytes ++ rest) = some header := by
  simp [toBytes, ofBytes, write16, write32]

/-- Twenty bytes are needed to read a header. -/
theorem length_of_ofBytes {data : List UInt8} {header : Ipv4Header}
    (h : ofBytes data = some header) : 20 ≤ data.length := by
  unfold ofBytes at h
  split at h
  · simp only [List.length_cons]
    omega
  · cases h

/-- The version and the protocol are where the packet is looked at before it is parsed. -/
theorem bytes_of_ofBytes {data : List UInt8} {header : Ipv4Header}
    (h : ofBytes data = some header) :
    data.headD 0 = header.version4Ihl4 ∧ data[9]? = some header.protocol := by
  unfold ofBytes at h
  split at h
  · obtain rfl := Option.some.inj h
    exact ⟨rfl, rfl⟩
  · cases h

end Ipv4Header

namespace UdpHeader

@[simp]
theorem length_toBytes (header : UdpHeader) : header.toBytes.length = 8 := rfl

/-- A header that was written is read back. -/
@[simp]
theorem ofBytes_toBytes (header : UdpHeader) (rest : List UInt8) :
    ofBytes (header.toBytes ++ rest) = some (header, rest) := by
  simp [toBytes, ofBytes, write16]

/-- Eight bytes are read. -/
theorem length_of_ofBytes {data rest : List UInt8} {header : UdpHeader}
    (h : ofBytes data = some (header, rest)) : data.length = 8 + rest.length := by
  unfold ofBytes at h
  split at h
  · obtain ⟨-, rfl⟩ := Prod.mk.inj (Option.some.inj h)
    simp only [List.length_cons]
    omega
  · cases h

end UdpHeader

/-! ## Sums -/

/-- The sum of a header with all its options folds into 16 bits. -/
theorem foldCarries_ipv4Sum_lt (header : Ipv4Header) {extra : List UInt8}
    (h : extra.length ≤ 40) : foldCarries 2 (ipv4Sum header extra) < 65536 := by
  apply foldCarries_lt
  -- at most 30 words
  have hheader := wordSum_le header.toBytes
  have hextra := wordSum_le extra
  rw [header.length_toBytes] at hheader
  rw [ipv4Sum]
  omega

/-- The sum of a datagram fits into 32 bits. -/
theorem udpSum_lt (header : UdpHeader) {payload : List UInt8} (source dest : UInt32)
    (h : payload.length ≤ 65527) : udpSum header payload source dest < 4294967296 := by
  have hheader := wordSum_le header.toBytes
  have hsource := wordSum_le (write32 source)
  have hdest := wordSum_le (write32 dest)
  have hprotocol := wordSum_le (write16 ipv4ProtocolUdp.toUInt16)
  have hlength := wordSum_le (write16 (UInt16.ofNat (UdpHeader.size + payload.length)))
  simp only [UdpHeader.length_toBytes, length_write16, length_write32] at *
  rw [udpSum]
  -- an odd payload is padded with a zero byte
  split
  · have hpayload := wordSum_le payload
    omega
  · have hpayload := wordSum_le (payload.take (payload.length - 1))
    have hlast := wordSum_le [payload.getLastD 0, 0]
    simp only [List.length_take, List.length_cons, List.length_nil] at hpayload hlast
    omega

/-- The sum of a datagram folds into 16 bits. -/
theorem foldCarries_udpSum_lt (header : UdpHeader) {payload : List UInt8}
    (source dest : UInt32) (h : payload.length ≤ 65527) :
    foldCarries 2 (udpSum header payload source dest) < 65536 :=
  foldCarries_lt (udpSum_lt header source dest h)

/-! ## Checks -/

/-- What `ipv4_check` accepts, and what it returns. -/
theorem ipv4Check_eq_some_iff {data segment : List UInt8} {header : Ipv4Header} :
    ipv4Check data = some (header, segment) ↔
      Ipv4Header.ofBytes data = some header ∧ header.version = 4 ∧ 20 ≤ header.ihl * 4 ∧
      header.ihl * 4 ≤ header.totalLength.toNat ∧ header.totalLength.toNat ≤ data.length ∧
      header.checksum = ipv4Checksum { header with checksum := 0 }
        ((data.drop 20).take (header.ihl * 4 - 20)) ∧
      segment = (data.drop (header.ihl * 4)).take
        (header.totalLength.toNat - header.ihl * 4) := by
  rw [ipv4Check]
  cases Ipv4Header.ofBytes data with
  | none => simp
  | some header' =>
    simp only [Option.ite_none_left_eq_some, Option.some.injEq, Prod.mk.injEq, not_not,
      Nat.not_lt]
    constructor
    · rintro ⟨hversion, hmin, -, htotal, hlen, hsum, rfl, rfl⟩
      exact ⟨rfl, hversion, hmin, htotal, hlen, hsum, rfl⟩
    · -- that the header fits into the data follows from the other lengths
      rintro ⟨rfl, hversion, hmin, htotal, hlen, hsum, rfl⟩
      exact ⟨hversion, hmin, by omega, htotal, hlen, hsum, rfl, rfl⟩

/-- A header without options that was written with its checksum passes the check. -/
theorem ipv4Check_toBytes {header : Ipv4Header} {rest : List UInt8}
    (hversion : header.version = 4) (hihl : header.ihl = 5)
    (htotal : header.totalLength.toNat = 20 + rest.length)
    (hsum : header.checksum = ipv4Checksum { header with checksum := 0 } []) :
    ipv4Check (header.toBytes ++ rest) = some (header, rest) := by
  have hrest : (header.toBytes ++ rest).drop 20 = rest :=
    List.drop_left' (Ipv4Header.length_toBytes _)
  refine ipv4Check_eq_some_iff.mpr
    ⟨Ipv4Header.ofBytes_toBytes header rest, hversion, ?_, ?_, ?_, ?_, ?_⟩
  · omega
  · omega
  · rw [List.length_append, Ipv4Header.length_toBytes]
    omega
  · -- without options the sum is over the header alone
    rw [hihl]
    exact hsum
  · rw [hihl, hrest, List.take_of_length_le]
    omega

/-- What `udp_check` accepts, and what it returns. -/
theorem udpCheck_eq_some_iff {data payload : List UInt8} {header : UdpHeader} :
    udpCheck data = some (header, payload) ↔
      ∃ rest, UdpHeader.ofBytes data = some (header, rest) ∧ 8 ≤ header.length.toNat ∧
        header.length.toNat ≤ 8 + rest.length ∧
        payload = rest.take (header.length.toNat - 8) := by
  rw [udpCheck]
  cases UdpHeader.ofBytes data with
  | none => simp
  | some parsed =>
    obtain ⟨header', rest'⟩ := parsed
    simp only [Option.ite_none_left_eq_some, Option.some.injEq, Prod.mk.injEq, Nat.not_lt]
    constructor
    · rintro ⟨hmin, hlen, rfl, rfl⟩
      exact ⟨rest', ⟨rfl, rfl⟩, hmin, hlen, rfl⟩
    · rintro ⟨rest, ⟨rfl, rfl⟩, hmin, hlen, rfl⟩
      exact ⟨hmin, hlen, rfl, rfl⟩

namespace DnsRedirect

/-- What passes all the checks that come before a packet is looked at as a query or a reply. -/
theorem acceptUdp_eq_some_iff {data payload : List UInt8} {ipv4 : Ipv4Header}
    {udp : UdpHeader} :
    acceptUdp data = some (ipv4, udp, payload) ↔
      ipv4.protocol = ipv4ProtocolUdp ∧ ∃ segment, ipv4Check data = some (ipv4, segment) ∧
        udpCheck segment = some (udp, payload) ∧ udpVerifies ipv4 udp payload := by
  rw [acceptUdp, Option.ite_none_left_eq_some, Option.ite_none_left_eq_some]
  constructor
  · rintro ⟨-, hprotocol, h⟩
    split at h
    · cases h
    · rename_i ipv4' segment hipv4
      split at h
      · cases h
      · rename_i udp' payload' hudp
        rw [Option.ite_none_right_eq_some] at h
        obtain ⟨hsum, h⟩ := h
        obtain ⟨rfl, rfl, rfl⟩ : ipv4' = ipv4 ∧ udp' = udp ∧ payload' = payload := by
          simpa using h
        obtain ⟨hparse, -⟩ := ipv4Check_eq_some_iff.mp hipv4
        obtain ⟨-, hbyte⟩ := Ipv4Header.bytes_of_ofBytes hparse
        refine ⟨?_, segment, hipv4, hudp, hsum⟩
        -- the byte that was looked at first is the protocol field
        rw [hbyte] at hprotocol
        simpa using (not_or.mp hprotocol).2
  · rintro ⟨hprotocol, segment, hipv4, hudp, hsum⟩
    obtain ⟨hparse, hversion, -⟩ := ipv4Check_eq_some_iff.mp hipv4
    have hlen := Ipv4Header.length_of_ofBytes hparse
    obtain ⟨hfirst, hbyte⟩ := Ipv4Header.bytes_of_ofBytes hparse
    rw [hfirst, hbyte, hprotocol]
    -- the first two tests only repeat what `ipv4_check` finds
    refine ⟨not_not.mpr hversion, not_or.mpr ⟨Nat.not_lt.mpr hlen, by simp⟩, ?_⟩
    simp only [hipv4, hudp, hsum, if_true]

/-- The lengths of an accepted packet: the UDP length covers header and payload, and lies
    within the IP payload. -/
theorem lengths_of_acceptUdp {data payload : List UInt8} {ipv4 : Ipv4Header}
    {udp : UdpHeader} (h : acceptUdp data = some (ipv4, udp, payload)) :
    udp.length.toNat = 8 + payload.length ∧ 20 ≤ ipv4.ihl * 4 ∧
      ipv4.ihl * 4 + udp.length.toNat ≤ ipv4.totalLength.toNat ∧
      ipv4.totalLength.toNat ≤ data.length := by
  obtain ⟨-, segment, hipv4, hudp, -⟩ := acceptUdp_eq_some_iff.mp h
  obtain ⟨-, -, hmin, htotal, hlen, -, rfl⟩ := ipv4Check_eq_some_iff.mp hipv4
  obtain ⟨rest, hparse, hudpMin, hudpLen, rfl⟩ := udpCheck_eq_some_iff.mp hudp
  have hsegment := UdpHeader.length_of_ofBytes hparse
  simp only [List.length_take, List.length_drop] at hsegment ⊢
  omega

end DnsRedirect

end OpenFlux
