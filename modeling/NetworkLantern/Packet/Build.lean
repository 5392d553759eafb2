import NetworkLantern.Packet.Headers

/-!
# Building probes

The packets as the builders write them, byte by byte into a buffer, and the
headers that these bytes are.
-/

namespace NetworkLantern.Packet

open NetworkLantern Path

/-- `packet[start..start + part.len()].copy_from_slice(part)`, within the packet. -/
def put (packet : Bytes) (start : Nat) (part : Bytes) : Bytes :=
  packet.take start ++ part ++ packet.drop (start + part.length)

/-! ## ICMP echo requests -/

def buildIcmpv4Echo (identifier sequence : UInt16) (payload : Bytes) : Bytes :=
  let packet := [8, 0, 0, 0] ++ u16ToBe identifier ++ u16ToBe sequence ++ payload
  put packet 2 (u16ToBe (internetChecksum packet))

def buildIcmpv6Echo (source destination : Octets 16) (identifier sequence : UInt16)
    (payload : Bytes) : Bytes :=
  let packet := [128, 0, 0, 0] ++ u16ToBe identifier ++ u16ToBe sequence ++ payload
  let checksumInput := source.val ++ destination.val ++ u32ToBe (UInt32.ofNat packet.length) ++
    [0, 0, 0, 58] ++ packet
  put packet 2 (u16ToBe (internetChecksum checksumInput))

/-! ## TCP SYN -/

def transportChecksumIpv4 (source destination : Octets 4) (protocol : UInt8) (segment : Bytes) :
    UInt16 :=
  internetChecksum (source.val ++ destination.val ++ [0, protocol] ++
    u16ToBe (UInt16.ofNat segment.length) ++ segment)

def transportChecksumIpv6 (source destination : Octets 16) (protocol : UInt8) (segment : Bytes) :
    UInt16 :=
  internetChecksum (source.val ++ destination.val ++ u32ToBe (UInt32.ofNat segment.length) ++
    [0, 0, 0, protocol] ++ segment)

structure TcpSynSpec where
  sourcePort : UInt16
  destinationPort : UInt16
  sequence : UInt32
  hopLimit : UInt8
  trafficClass : UInt8
  dontFragment : Bool

/-- The packet before its checksums are filled in. -/
def synBufferIpv4 (source destination : Octets 4) (spec : TcpSynSpec) : Bytes :=
  let packet : Bytes := List.replicate 40 0
  let packet := packet.set 0 0x45
  let packet := packet.set 1 spec.trafficClass
  let packet := put packet 2 (u16ToBe 40)
  let packet := put packet 4 (u16ToBe spec.sequence.toUInt16)
  let packet := if spec.dontFragment then put packet 6 (u16ToBe 0x4000) else packet
  let packet := packet.set 8 spec.hopLimit
  let packet := packet.set 9 6
  let packet := put packet 12 source.val
  let packet := put packet 16 destination.val
  let packet := put packet 20 (u16ToBe spec.sourcePort)
  let packet := put packet 22 (u16ToBe spec.destinationPort)
  let packet := put packet 24 (u32ToBe spec.sequence)
  let packet := packet.set 32 ((5 : UInt8) <<< 4)
  let packet := packet.set 33 0x02
  put packet 34 (u16ToBe 64240)

def buildTcpSynIpv4 (source destination : Octets 4) (spec : TcpSynSpec) : Bytes :=
  let packet := synBufferIpv4 source destination spec
  let packet := put packet 36 (u16ToBe (transportChecksumIpv4 source destination 6 (packet.drop 20)))
  put packet 10 (u16ToBe (internetChecksum (packet.take 20)))

def synBufferIpv6 (source destination : Octets 16) (spec : TcpSynSpec) : Bytes :=
  let packet : Bytes := List.replicate 60 0
  let packet := packet.set 0 ((0x60 : UInt8) ||| (spec.trafficClass >>> 4))
  let packet := packet.set 1 (spec.trafficClass <<< 4)
  let packet := put packet 4 (u16ToBe 20)
  let packet := packet.set 6 6
  let packet := packet.set 7 spec.hopLimit
  let packet := put packet 8 source.val
  let packet := put packet 24 destination.val
  let packet := put packet 40 (u16ToBe spec.sourcePort)
  let packet := put packet 42 (u16ToBe spec.destinationPort)
  let packet := put packet 44 (u32ToBe spec.sequence)
  let packet := packet.set 52 ((5 : UInt8) <<< 4)
  let packet := packet.set 53 0x02
  put packet 54 (u16ToBe 64240)

def buildTcpSynIpv6 (source destination : Octets 16) (spec : TcpSynSpec) : Bytes :=
  let packet := synBufferIpv6 source destination spec
  put packet 56 (u16ToBe (transportChecksumIpv6 source destination 6 (packet.drop 40)))

/-! ## What the builders write -/

/-- The first bytes of a segment, before `rest`. -/
def segmentStart (spec : TcpSynSpec) (rest : Bytes) : Bytes :=
  u16ToBe spec.sourcePort ++ u16ToBe spec.destinationPort ++ u32ToBe spec.sequence ++ rest

/-- The rest of a SYN segment. -/
def synTail (checksum : UInt16) : Bytes :=
  [0, 0, 0, 0, 80, 2] ++ u16ToBe 64240 ++ u16ToBe checksum ++ [0, 0]

/-- A segment up to its checksum. -/
def segmentHead (spec : TcpSynSpec) : Bytes :=
  segmentStart spec ([0, 0, 0, 0, 80, 2] ++ u16ToBe 64240)

theorem segmentStart_synTail (spec : TcpSynSpec) (checksum : UInt16) :
    segmentStart spec (synTail checksum) = segmentHead spec ++ (u16ToBe checksum ++ [0, 0]) := rfl

theorem length_segmentHead (spec : TcpSynSpec) : (segmentHead spec).length = 16 := rfl

theorem put_append {before old part : Bytes} {start : Nat} (hstart : start = before.length)
    (hpart : part.length = old.length) (after : Bytes) :
    put (before ++ (old ++ after)) start part = before ++ (part ++ after) := by
  subst hstart
  have hdrop : (before ++ (old ++ after)).drop (before.length + part.length) = after := by
    rw [hpart, ← List.append_assoc]
    exact List.drop_left' (by rw [List.length_append])
  unfold put
  rw [hdrop, List.take_left, List.append_assoc]

/-- The header of a SYN over IPv4. -/
def synHeaderIpv4 (source destination : Octets 4) (spec : TcpSynSpec) (checksum : UInt16) :
    Ipv4Header where
  tos := spec.trafficClass
  totalLength := 40
  identification := spec.sequence.toUInt16
  fragment := if spec.dontFragment then 0x4000 else 0
  ttl := spec.hopLimit
  protocol := 6
  checksum
  source
  destination
  options := []
  words := 0
  words_le := Nat.zero_le 10
  length_options := rfl

/-- The header of a SYN over IPv4 around its checksum. -/
theorem synHeaderIpv4_bytes (source destination : Octets 4) (spec : TcpSynSpec) (ip : UInt16) :
    (synHeaderIpv4 source destination spec ip).bytes =
      ([0x45, spec.trafficClass] ++ u16ToBe 40 ++ u16ToBe spec.sequence.toUInt16 ++
        u16ToBe (if spec.dontFragment then 0x4000 else 0) ++ [spec.hopLimit, 6]) ++
        (u16ToBe ip ++ (source.val ++ destination.val)) := by
  show _ ++ u16ToBe ip ++ source.val ++ destination.val ++ [] = _
  rw [List.append_nil, List.append_assoc, List.append_assoc]
  rfl

/-- The buffer is the packet with both checksums zero. -/
theorem synBufferIpv4_eq (source destination : Octets 4) (spec : TcpSynSpec) :
    synBufferIpv4 source destination spec =
      (synHeaderIpv4 source destination spec 0).bytes ++ segmentStart spec (synTail 0) := by
  obtain ⟨a, b, c, d, hs⟩ := source.four
  obtain ⟨e, f, g, h, hd⟩ := destination.four
  cases hdf : spec.dontFragment
  all_goals
    simp only [synBufferIpv4, hs, hd, hdf, put, u16ToBe, u32ToBe, List.replicate, List.set,
      List.take, List.drop, List.length, List.cons_append, List.nil_append, synHeaderIpv4,
      Ipv4Header.bytes, segmentStart, synTail, Nat.zero_add, Nat.reduceAdd, if_false, if_true,
      Bool.false_eq_true, List.append_nil]
    rfl

/-- The transport checksum written into the buffer, whatever it is. -/
theorem put_tcp_synBufferIpv4 (source destination : Octets 4) (spec : TcpSynSpec) (tcp : UInt16) :
    put (synBufferIpv4 source destination spec) 36 (u16ToBe tcp) =
      (synHeaderIpv4 source destination spec 0).bytes ++ segmentStart spec (synTail tcp) := by
  have hsegment : 36 =
      ((synHeaderIpv4 source destination spec 0).bytes ++ segmentHead spec).length := by
    rw [List.length_append, Ipv4Header.length_bytes, length_segmentHead]
    rfl
  rw [synBufferIpv4_eq, segmentStart_synTail, segmentStart_synTail, ← List.append_assoc,
    @put_append _ (u16ToBe 0) (u16ToBe tcp) 36 hsegment rfl, List.append_assoc]

/-- Both checksums written. -/
theorem put_synBufferIpv4 (source destination : Octets 4) (spec : TcpSynSpec) (tcp ip : UInt16) :
    put (put (synBufferIpv4 source destination spec) 36 (u16ToBe tcp)) 10 (u16ToBe ip) =
      (synHeaderIpv4 source destination spec ip).bytes ++ segmentStart spec (synTail tcp) := by
  rw [put_tcp_synBufferIpv4, synHeaderIpv4_bytes, synHeaderIpv4_bytes, List.append_assoc,
    List.append_assoc (u16ToBe 0), @put_append _ (u16ToBe 0) (u16ToBe ip) 10 rfl rfl]
  simp only [List.append_assoc]

theorem buildTcpSynIpv4_eq (source destination : Octets 4) (spec : TcpSynSpec) :
    ∃ tcp ip, buildTcpSynIpv4 source destination spec =
      (synHeaderIpv4 source destination spec ip).bytes ++ segmentStart spec (synTail tcp) :=
  ⟨_, _, put_synBufferIpv4 source destination spec _ _⟩

/-- The header of a SYN over IPv6. -/
def synHeaderIpv6 (source destination : Octets 16) (spec : TcpSynSpec) : Ipv6Header where
  trafficHigh := ⟨spec.trafficClass.toNat / 16, by have := spec.trafficClass.toNat_lt; omega⟩
  trafficLow := spec.trafficClass <<< 4
  flow := 0
  payloadLength := 20
  hopLimit := spec.hopLimit
  source
  destination
  chain := []
  transport := 6
  wellFormed := nofun
  length_chain := Nat.zero_le 15
  isTransport := by unfold IsTransport; decide

theorem version_trafficClass (tc : UInt8) :
    (0x60 : UInt8) ||| (tc >>> 4) = UInt8.ofNat (96 + tc.toNat / 16) := by
  have hall : ∀ n < 256, (0x60 : UInt8) ||| (UInt8.ofNat n >>> 4) =
      UInt8.ofNat (96 + (UInt8.ofNat n).toNat / 16) := by decide +kernel
  have htc := hall tc.toNat tc.toNat_lt
  rw [UInt8.ofNat_toNat] at htc
  exact htc

theorem synBufferIpv6_eq (source destination : Octets 16) (spec : TcpSynSpec) :
    synBufferIpv6 source destination spec =
      (synHeaderIpv6 source destination spec).bytes ++ segmentStart spec (synTail 0) := by
  obtain ⟨a, b, c, d, e, f, g, h, i, j, k, l, m, n, p, q, hs⟩ := source.sixteen
  obtain ⟨a', b', c', d', e', f', g', h', i', j', k', l', m', n', p', q', hd⟩ :=
    destination.sixteen
  simp only [synBufferIpv6, version_trafficClass, hs, hd, put, u16ToBe, u32ToBe, List.replicate,
    List.set, List.take, List.drop, List.length, List.cons_append, List.nil_append, synHeaderIpv6,
    Ipv6Header.bytes, Ipv6Header.fixed, chainBytes, segmentStart, synTail, Nat.zero_add,
    Nat.reduceAdd, List.append_nil]
  rfl

theorem put_synBufferIpv6 (source destination : Octets 16) (spec : TcpSynSpec) (tcp : UInt16) :
    put (synBufferIpv6 source destination spec) 56 (u16ToBe tcp) =
      (synHeaderIpv6 source destination spec).bytes ++ segmentStart spec (synTail tcp) := by
  have hsegment : 56 = ((synHeaderIpv6 source destination spec).bytes ++ segmentHead spec).length := by
    rw [List.length_append, Ipv6Header.length_bytes, length_segmentHead]
    rfl
  rw [synBufferIpv6_eq, segmentStart_synTail, ← List.append_assoc,
    @put_append _ (u16ToBe 0) (u16ToBe tcp) 56 hsegment rfl, segmentStart_synTail,
    List.append_assoc]

theorem buildTcpSynIpv6_eq (source destination : Octets 16) (spec : TcpSynSpec) :
    ∃ tcp, buildTcpSynIpv6 source destination spec =
      (synHeaderIpv6 source destination spec).bytes ++ segmentStart spec (synTail tcp) :=
  ⟨_, put_synBufferIpv6 source destination spec _⟩

/-- An echo request after its checksum. -/
theorem buildIcmpv4Echo_eq (identifier sequence : UInt16) (payload : Bytes) :
    ∃ c, buildIcmpv4Echo identifier sequence payload =
      [8, 0] ++ u16ToBe c ++ u16ToBe identifier ++ u16ToBe sequence ++ payload :=
  ⟨_, rfl⟩

theorem buildIcmpv6Echo_eq (source destination : Octets 16) (identifier sequence : UInt16)
    (payload : Bytes) :
    ∃ c, buildIcmpv6Echo source destination identifier sequence payload =
      [128, 0] ++ u16ToBe c ++ u16ToBe identifier ++ u16ToBe sequence ++ payload :=
  ⟨_, rfl⟩

end NetworkLantern.Packet
