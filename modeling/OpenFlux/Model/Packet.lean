import OpenFlux.ForStd.BigEndian

/-!
# IPv4 and UDP headers of badvpn

`misc/ipv4_proto.h` and `misc/udp_proto.h`: the two packed headers, their checksums and the
checks that take a packet apart.  A packet is the list of its bytes.  Header fields are
numbers; `hton16` and `ntoh16` are in `ofBytes` and `toBytes`.

The sums are 32 bits wide in the source.  They stay below `2 ^ 32` for every packet, so they
are natural numbers here.
-/

namespace OpenFlux

open BigEndian

/-! ## IPv4 -/

/-- `struct ipv4_header`. -/
structure Ipv4Header where
  version4Ihl4 : UInt8
  ds : UInt8
  totalLength : UInt16
  identification : UInt16
  flags3FragmentOffset13 : UInt16
  ttl : UInt8
  protocol : UInt8
  checksum : UInt16
  sourceAddress : UInt32
  destinationAddress : UInt32
  deriving DecidableEq, Repr

namespace Ipv4Header

/-- `sizeof(struct ipv4_header)`. -/
def size : Nat := 20

/-- The first 20 bytes of a packet as a header; `none` for a shorter packet. -/
def ofBytes : List UInt8 → Option Ipv4Header
  | b₀ :: b₁ :: b₂ :: b₃ :: b₄ :: b₅ :: b₆ :: b₇ :: b₈ :: b₉ :: b₁₀ :: b₁₁ :: b₁₂ :: b₁₃ ::
      b₁₄ :: b₁₅ :: b₁₆ :: b₁₇ :: b₁₈ :: b₁₉ :: _ =>
    some
      { version4Ihl4 := b₀
        ds := b₁
        totalLength := read16 b₂ b₃
        identification := read16 b₄ b₅
        flags3FragmentOffset13 := read16 b₆ b₇
        ttl := b₈
        protocol := b₉
        checksum := read16 b₁₀ b₁₁
        sourceAddress := read32 b₁₂ b₁₃ b₁₄ b₁₅
        destinationAddress := read32 b₁₆ b₁₇ b₁₈ b₁₉ }
  | _ => none

/-- The header as it lies in a packet. -/
def toBytes (header : Ipv4Header) : List UInt8 :=
  [header.version4Ihl4, header.ds] ++ write16 header.totalLength ++
    write16 header.identification ++ write16 header.flags3FragmentOffset13 ++
    [header.ttl, header.protocol] ++ write16 header.checksum ++
    write32 header.sourceAddress ++ write32 header.destinationAddress

/-- `IPV4_GET_VERSION`. -/
def version (header : Ipv4Header) : Nat := header.version4Ihl4.toNat / 16

/-- `IPV4_GET_IHL`, in units of four bytes. -/
def ihl (header : Ipv4Header) : Nat := header.version4Ihl4.toNat % 16

end Ipv4Header

/-- `IPV4_PROTOCOL_UDP`. -/
def ipv4ProtocolUdp : UInt8 := 17

/-- The sum in `ipv4_checksum`, before its carries are folded. -/
def ipv4Sum (header : Ipv4Header) (extra : List UInt8) : Nat :=
  wordSum header.toBytes + wordSum extra

/-- `ipv4_checksum` -/
def ipv4Checksum (header : Ipv4Header) (extra : List UInt8) : UInt16 :=
  ~~~ UInt16.ofNat (foldCarries 2 (ipv4Sum header extra))

/-- The header and the payload of a packet that passes `ipv4_check`. -/
def ipv4Check (data : List UInt8) : Option (Ipv4Header × List UInt8) :=
  match Ipv4Header.ofBytes data with
  | none => none
  | some header =>
    if header.version ≠ 4 then none
    else
      -- the header with its options
      let headerLen := header.ihl * 4
      if headerLen < Ipv4Header.size then none
      else if data.length < headerLen then none
      else
        -- what the header says about the length decides, not how much was read
        let totalLength := header.totalLength.toNat
        if totalLength < headerLen then none
        else if data.length < totalLength then none
        else if header.checksum ≠ ipv4Checksum { header with checksum := 0 }
            ((data.drop Ipv4Header.size).take (headerLen - Ipv4Header.size)) then none
        else some (header, (data.drop headerLen).take (totalLength - headerLen))

/-! ## UDP -/

/-- `struct udp_header`. -/
structure UdpHeader where
  sourcePort : UInt16
  destPort : UInt16
  length : UInt16
  checksum : UInt16
  deriving DecidableEq, Repr

namespace UdpHeader

/-- `sizeof(struct udp_header)`. -/
def size : Nat := 8

/-- The first 8 bytes as a header, and the bytes behind it. -/
def ofBytes : List UInt8 → Option (UdpHeader × List UInt8)
  | b₀ :: b₁ :: b₂ :: b₃ :: b₄ :: b₅ :: b₆ :: b₇ :: rest =>
    some
      ({ sourcePort := read16 b₀ b₁
         destPort := read16 b₂ b₃
         length := read16 b₄ b₅
         checksum := read16 b₆ b₇ }, rest)
  | _ => none

/-- The header as it lies in a packet. -/
def toBytes (header : UdpHeader) : List UInt8 :=
  write16 header.sourcePort ++ write16 header.destPort ++ write16 header.length ++
    write16 header.checksum

end UdpHeader

/-- The sum in `udp_checksum` over pseudo header, header and payload; a last odd byte is the
    high byte of a word. -/
def udpSum (header : UdpHeader) (payload : List UInt8) (source dest : UInt32) : Nat :=
  wordSum (write32 source) + wordSum (write32 dest) +
    wordSum (write16 ipv4ProtocolUdp.toUInt16) +
    wordSum (write16 (UInt16.ofNat (UdpHeader.size + payload.length))) +
    wordSum header.toBytes +
    if payload.length % 2 = 0 then wordSum payload
    else wordSum (payload.take (payload.length - 1)) + wordSum [payload.getLastD 0, 0]

/-- `udp_checksum`, where a sum of 0 counts as 65535. -/
def udpChecksum (header : UdpHeader) (payload : List UInt8) (source dest : UInt32) : UInt16 :=
  let t := foldCarries 2 (udpSum header payload source dest)
  ~~~ UInt16.ofNat (if t = 0 then 65535 else t)

/-- The header and the payload of a segment that passes `udp_check`; bytes behind the UDP
    length are ignored. -/
def udpCheck (data : List UInt8) : Option (UdpHeader × List UInt8) :=
  match UdpHeader.ofBytes data with
  | none => none
  | some (header, rest) =>
    let udpLength := header.length.toNat
    if udpLength < UdpHeader.size then none
    else if UdpHeader.size + rest.length < udpLength then none
    else some (header, rest.take (udpLength - UdpHeader.size))

/-- The UDP checksum of the headers and the payload verifies. -/
def udpVerifies (ipv4 : Ipv4Header) (udp : UdpHeader) (payload : List UInt8) : Bool :=
  udp.checksum = udpChecksum { udp with checksum := 0 } payload ipv4.sourceAddress
    ipv4.destinationAddress

end OpenFlux
