import NetworkLantern.Packet.Headers
import NetworkLantern.Packet.Safety

/-!
# TCP responses, bare and behind a header

Raw IPv4 sockets deliver a segment behind its header, raw IPv6 sockets deliver
it bare.  The parser tells them apart by the first four bits.
-/

namespace NetworkLantern.Packet

open NetworkLantern Path Checked

/-- A segment of at least 20 bytes. -/
structure TcpSegment where
  sourcePort : UInt16
  destinationPort : UInt16
  sequence : UInt32
  acknowledgment : UInt32
  dataOffset : UInt8
  flags : UInt8
  /-- Window, checksum, urgent pointer, and whatever follows. -/
  rest : Bytes
  length_rest : 6 ≤ rest.length

namespace TcpSegment

def bytes (s : TcpSegment) : Bytes :=
  u16ToBe s.sourcePort ++ u16ToBe s.destinationPort ++ u32ToBe s.sequence ++
    u32ToBe s.acknowledgment ++ [s.dataOffset, s.flags] ++ s.rest

/-- The fields of the segment, as a response from `source`. -/
def parsed (s : TcpSegment) (family : AddressFamily) (source : Option IpAddr) : ParsedTcp where
  family
  source
  sourcePort := s.sourcePort
  destinationPort := s.destinationPort
  sequence := s.sequence
  acknowledgment := s.acknowledgment
  syn := s.flags &&& 2 != 0
  rst := s.flags &&& 4 != 0
  ack := s.flags &&& 16 != 0

theorem length_bytes (s : TcpSegment) : 20 ≤ s.bytes.length := by
  have h := s.length_rest
  simp only [bytes, List.length_append, List.length_cons, List.length_nil, length_u16ToBe,
    length_u32ToBe]
  omega

theorem parseTcpSegment_bytes (s : TcpSegment) (family : AddressFamily) (source : Option IpAddr) :
    parseTcpSegment family source s.bytes = .ok (s.parsed family source) := by
  have hflags : s.bytes[13]? = some s.flags := rfl
  unfold parseTcpSegment
  rw [need_ok s.length_bytes, except_ok_bind, field16_at rfl rfl, field16_at rfl rfl,
    field32_at rfl rfl, field32_at rfl rfl,
    index_ok hflags, u16OfBe_toBe, u16OfBe_toBe, u32OfBe_toBe, u32OfBe_toBe]
  rfl

theorem getElem?_first (s : TcpSegment) :
    s.bytes[0]? = some (UInt8.ofNat (s.sourcePort.toNat / 256)) := rfl

/-- The four bits the parser looks at are the top of the source port. -/
theorem high_first (s : TcpSegment) :
    high (UInt8.ofNat (s.sourcePort.toNat / 256)) = s.sourcePort.toNat / 4096 := by
  have hp := s.sourcePort.toNat_lt
  unfold high
  rw [UInt8.toNat_ofNat']
  omega

end TcpSegment

/-- Behind an IPv4 header. -/
theorem parseTcpResponse_ipv4 (h : Ipv4Header) (hp : h.protocol = 6) (s : TcpSegment)
    (expected : AddressFamily) :
    parseTcpResponse (h.bytes ++ s.bytes) expected = .ok (s.parsed .ipv4 (some (.v4 h.source))) := by
  have hlen := h.length_bytes
  have hs := s.length_bytes
  have htotal : (h.bytes ++ s.bytes).length = h.bytes.length + s.bytes.length := List.length_append
  have hprotocol : (h.bytes ++ s.bytes)[9]? = some 6 := hp ▸ h.getElem?_protocol s.bytes
  unfold parseTcpResponse
  rw [need_ok (by omega), except_ok_bind, index_ok (h.getElem?_first s.bytes), except_ok_bind,
    if_pos h.high_first]
  show (if low _ * 4 < 20 then _ else _) = _
  rw [h.low_first, if_neg (by omega), need_ok (by omega), except_ok_bind, index_ok hprotocol,
    except_ok_bind, if_neg (by decide), h.ipv4Source_bytes, except_ok_bind,
    sliceFrom_ok (by omega), except_ok_bind, List.drop_left]
  exact s.parseTcpSegment_bytes .ipv4 _

/-- Behind an IPv6 header and its extension headers. -/
theorem parseTcpResponse_ipv6 (h : Ipv6Header) (hp : h.transport = 6) (s : TcpSegment)
    (expected : AddressFamily) :
    parseTcpResponse (h.bytes ++ s.bytes) expected = .ok (s.parsed .ipv6 (some (.v6 h.source))) := by
  have hlen := h.length_bytes
  have hs := s.length_bytes
  have htotal : (h.bytes ++ s.bytes).length = h.bytes.length + s.bytes.length := List.length_append
  have hhigh := h.high_first
  unfold parseTcpResponse
  rw [need_ok (by omega), except_ok_bind, index_ok (h.getElem?_first s.bytes), except_ok_bind,
    if_neg (by omega), if_pos hhigh, need_ok (by omega), except_ok_bind, h.ipv6Transport_bytes,
    except_ok_bind]
  show (if h.transport ≠ 6 then _ else _) = _
  rw [if_neg (not_not_intro hp), need_ok (by omega), except_ok_bind, h.ipv6Source_bytes,
    except_ok_bind, sliceFrom_ok (by omega), except_ok_bind, List.drop_left]
  exact s.parseTcpSegment_bytes .ipv6 _

/-- A bare segment is read as such only when its first bits do not look like an
IP version. -/
theorem parseTcpResponse_bare (s : TcpSegment) (expected : AddressFamily)
    (h : s.sourcePort.toNat / 4096 ≠ 4 ∧ s.sourcePort.toNat / 4096 ≠ 6) :
    parseTcpResponse s.bytes expected = .ok (s.parsed expected none) := by
  have hs := s.length_bytes
  have hhigh := s.high_first
  unfold parseTcpResponse
  rw [need_ok hs, except_ok_bind, index_ok s.getElem?_first, except_ok_bind, if_neg (by omega),
    if_neg (by omega)]
  exact s.parseTcpSegment_bytes expected none

/-- The response does not depend on the framing exactly when the source port of
the segment does not begin like an IPv4 or an IPv6 header. -/
theorem tcp_framing_iff (s : TcpSegment) (expected : AddressFamily) :
    (parseTcpResponse s.bytes expected = .ok (s.parsed expected none) ∧
      (∀ h : Ipv4Header, h.protocol = 6 → parseTcpResponse (h.bytes ++ s.bytes) expected =
        .ok (s.parsed .ipv4 (some (.v4 h.source)))) ∧
      ∀ h : Ipv6Header, h.transport = 6 → parseTcpResponse (h.bytes ++ s.bytes) expected =
        .ok (s.parsed .ipv6 (some (.v6 h.source)))) ↔
    s.sourcePort.toNat / 4096 ≠ 4 ∧ s.sourcePort.toNat / 4096 ≠ 6 := by
  constructor
  · rintro ⟨hbare, -, -⟩
    have hmeets := (meets_parseTcpResponse s.bytes expected).of_ok hbare
    obtain ⟨first, hfirst, h4, h6⟩ := hmeets rfl
    rw [s.getElem?_first] at hfirst
    cases hfirst
    rw [s.high_first] at h4 h6
    exact ⟨h4, h6⟩
  · intro h
    exact ⟨parseTcpResponse_bare s expected h,
      fun header hp => parseTcpResponse_ipv4 header hp s expected,
      fun header hp => parseTcpResponse_ipv6 header hp s expected⟩

/-- A SYN-ACK from port 24576, as a raw IPv6 socket delivers it. -/
def synAckFrom24576 : TcpSegment where
  sourcePort := 24576
  destinationPort := 50000
  sequence := 9
  acknowledgment := 8
  dataOffset := 80
  flags := 18
  rest := [250, 240, 0, 0, 0, 0]
  length_rest := by decide

/-- It is taken for the start of an IPv6 header. -/
theorem synAckFrom24576_misread :
    ¬ ∃ source, parseTcpResponse synAckFrom24576.bytes .ipv6 =
      .ok (synAckFrom24576.parsed .ipv6 source) := by
  have hfails : parseTcpResponse synAckFrom24576.bytes .ipv6 = fail (.truncated 40 20) := by decide
  rintro ⟨source, h⟩
  rw [hfails] at h
  cases h

end NetworkLantern.Packet
