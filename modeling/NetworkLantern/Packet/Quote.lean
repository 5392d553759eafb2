import NetworkLantern.Packet.Build
import NetworkLantern.Packet.Safety

/-!
# Probes quoted by routers

A router quotes the start of a probe inside an error message.  What the parser
reads back from it is the key of the probe (`parseIcmpResponse_quote`).
-/

namespace NetworkLantern.Packet

open NetworkLantern Path Checked

/-! ## The transport of a quote -/

/-- The protocol number of ICMP in a header. -/
def icmpProtocol : AddressFamily → UInt8
  | .ipv4 => 1
  | .ipv6 => 58

inductive IpHeader
  | v4 (header : Ipv4Header)
  | v6 (header : Ipv6Header)

namespace IpHeader

def family : IpHeader → AddressFamily
  | v4 _ => .ipv4
  | v6 _ => .ipv6

def protocol : IpHeader → UInt8
  | v4 h => h.protocol
  | v6 h => h.transport

def bytes : IpHeader → Bytes
  | v4 h => h.bytes
  | v6 h => h.bytes

theorem parseQuotedProbe_bytes (h : IpHeader) {rest : Bytes} (hrest : 8 ≤ rest.length) :
    parseQuotedProbe (h.bytes ++ rest) =
      parseTransport h.family h.protocol (h.bytes ++ rest) h.bytes.length := by
  cases h with
  | v4 h =>
    have hlen := h.length_bytes
    have htotal : (h.bytes ++ rest).length = h.bytes.length + rest.length := List.length_append
    show parseQuotedProbe (h.bytes ++ rest) = _
    unfold parseQuotedProbe
    rw [need_ok (by omega), except_ok_bind, index_ok (h.getElem?_first rest), except_ok_bind,
      if_pos h.high_first, need_ok (by omega), except_ok_bind]
    show (if low _ * 4 < 20 then _ else _) = _
    rw [h.low_first, if_neg (by omega), index_ok (h.getElem?_protocol rest), except_ok_bind]
    rfl
  | v6 h =>
    have hlen := h.length_bytes
    have htotal : (h.bytes ++ rest).length = h.bytes.length + rest.length := List.length_append
    have hhigh := h.high_first
    show parseQuotedProbe (h.bytes ++ rest) = _
    unfold parseQuotedProbe
    rw [need_ok (by omega), except_ok_bind, index_ok (h.getElem?_first rest), except_ok_bind,
      if_neg (by omega), if_pos hhigh, need_ok (by omega), except_ok_bind, h.ipv6Transport_bytes,
      except_ok_bind]
    rfl

def source : IpHeader → IpAddr
  | v4 h => .v4 h.source
  | v6 h => .v6 h.source

/-- A header of an ICMP message comes off, whatever family was expected. -/
theorem stripOuterIp_bytes (h : IpHeader) (isIcmp : h.protocol = icmpProtocol h.family)
    {icmp : Bytes} (hlen : 8 ≤ icmp.length) (expected : AddressFamily) :
    stripOuterIp (h.bytes ++ icmp) expected = .ok (h.family, some h.source, icmp) := by
  unfold stripOuterIp
  cases h with
  | v4 h =>
    have hheader := h.length_bytes
    have htotal : (h.bytes ++ icmp).length = h.bytes.length + icmp.length := List.length_append
    have hprotocol : (h.bytes ++ icmp)[9]? = some 1 :=
      (h.getElem?_protocol icmp).trans (congrArg some isIcmp)
    have hbytes : (v4 h).bytes = h.bytes := rfl
    rw [hbytes, need_ok (by omega), except_ok_bind, index_ok (h.getElem?_first icmp), except_ok_bind,
      if_pos h.high_first, need_ok (by omega), except_ok_bind]
    show (if low _ * 4 < 20 then _ else _) = _
    rw [h.low_first, if_neg (by omega), need_ok (by omega), except_ok_bind, index_ok hprotocol,
      except_ok_bind, if_neg (by decide), h.ipv4Source_bytes, except_ok_bind,
      sliceFrom_ok (by omega), except_ok_bind, List.drop_left]
    rfl
  | v6 h =>
    have hheader := h.length_bytes
    have htotal : (h.bytes ++ icmp).length = h.bytes.length + icmp.length := List.length_append
    have hversion := h.high_first
    have htransport : h.transport = 58 := isIcmp
    have hbytes : (v6 h).bytes = h.bytes := rfl
    rw [hbytes, need_ok (by omega), except_ok_bind, index_ok (h.getElem?_first icmp), except_ok_bind,
      if_neg (by omega), if_pos hversion, need_ok (by omega), except_ok_bind, h.ipv6Transport_bytes,
      except_ok_bind]
    show (if h.transport ≠ 58 then _ else _) = _
    rw [if_neg (not_not_intro htransport), need_ok (by omega), except_ok_bind, h.ipv6Source_bytes,
      except_ok_bind, sliceFrom_ok (by omega), except_ok_bind, List.drop_left]
    rfl

end IpHeader

/-- A message that does not begin like an IP header is taken as it is. -/
theorem stripOuterIp_bare {family : AddressFamily} {icmp : Bytes} (hlen : 8 ≤ icmp.length)
    {first : UInt8} (hfirst : icmp[0]? = some first) (h4 : high first ≠ 4) (h6 : high first ≠ 6) :
    stripOuterIp icmp family = .ok (family, none, icmp) := by
  unfold stripOuterIp
  rw [need_ok (by omega), except_ok_bind, index_ok hfirst, except_ok_bind, if_neg h4, if_neg h6,
    if_pos hlen]
  rfl

section

variable (family : AddressFamily) (before more : Bytes)

theorem parseTransport_icmp {protocol : UInt8} (hp : protocol = 1 ∨ protocol = 58)
    (type code : UInt8) (checksum identifier sequence : UInt16) :
    parseTransport family protocol (before ++ ([type, code] ++ u16ToBe checksum ++
        u16ToBe identifier ++ u16ToBe sequence ++ more)) before.length =
      .ok (ProbeKey.icmp family identifier sequence) := by
  unfold parseTransport
  rw [need_ok (by simp only [List.length_append, List.length_cons, length_u16ToBe]; omega),
    except_ok_bind, if_pos hp, field16_after before rfl rfl, field16_after before rfl rfl,
    u16OfBe_toBe, u16OfBe_toBe]
  rfl

theorem parseTransport_udp (source destination : UInt16) (rest : Octets 4) :
    parseTransport family 17 (before ++ (u16ToBe source ++ u16ToBe destination ++ rest.val ++ more))
        before.length =
      .ok (ProbeKey.ports family .udp source destination) := by
  have hrest := rest.property
  have hread := fun f => @field16_after ProbeKey before
    (u16ToBe source ++ u16ToBe destination ++ rest.val ++ more) 0 2 _ _ rfl rfl f
  rw [Nat.add_zero] at hread
  have hicmp : ¬ ((17 : UInt8) = 1 ∨ (17 : UInt8) = 58) := by decide
  unfold parseTransport
  rw [need_ok (by simp only [List.length_append, length_u16ToBe]; omega), except_ok_bind,
    if_neg hicmp, if_pos rfl, hread, field16_after before rfl rfl, u16OfBe_toBe, u16OfBe_toBe]
  rfl

theorem parseTransport_tcp (spec : TcpSynSpec) :
    parseTransport family 6 (before ++ segmentStart spec more) before.length =
      .ok (ProbeKey.tcp family spec.sourcePort spec.destinationPort (some spec.sequence)) := by
  have hread := fun f => @field16_after ProbeKey before (segmentStart spec more) 0 2 _ _ rfl rfl f
  rw [Nat.add_zero] at hread
  have hicmp : ¬ ((6 : UInt8) = 1 ∨ (6 : UInt8) = 58) := by decide
  have hudp : ¬ (6 : UInt8) = 17 := by decide
  unfold parseTransport
  have hlen : before.length + 8 ≤ (before ++ segmentStart spec more).length := by
    simp only [segmentStart, List.length_append, length_u16ToBe, length_u32ToBe]
    omega
  rw [need_ok hlen, except_ok_bind, if_neg hicmp, if_neg hudp, if_pos rfl, hread, field16_after before rfl rfl,
    field32_after before rfl rfl, u16OfBe_toBe, u16OfBe_toBe, u32OfBe_toBe]
  rfl

end

/-! ## Probes -/

/-- A probe as it leaves: a SYN packet, or an echo request or a datagram behind
a header. -/
inductive Probe
  | synIpv4 (source destination : Octets 4) (spec : TcpSynSpec)
  | synIpv6 (source destination : Octets 16) (spec : TcpSynSpec)
  | echoIpv4 (header : Ipv4Header) (isIcmp : header.protocol = 1) (identifier sequence : UInt16)
    (payload : Bytes)
  | echoIpv6 (header : Ipv6Header) (isIcmp : header.transport = 58)
    (source destination : Octets 16) (identifier sequence : UInt16) (payload : Bytes)
  /-- The length and the checksum are `rest`. -/
  | udp (header : IpHeader) (isUdp : header.protocol = 17) (source destination : UInt16)
    (rest : Octets 4) (payload : Bytes)

namespace Probe

def family : Probe → AddressFamily
  | synIpv4 .. | echoIpv4 .. => .ipv4
  | synIpv6 .. | echoIpv6 .. => .ipv6
  | udp header .. => header.family

def packet : Probe → Bytes
  | synIpv4 source destination spec => buildTcpSynIpv4 source destination spec
  | synIpv6 source destination spec => buildTcpSynIpv6 source destination spec
  | echoIpv4 header _ identifier sequence payload =>
    header.bytes ++ buildIcmpv4Echo identifier sequence payload
  | echoIpv6 header _ source destination identifier sequence payload =>
    header.bytes ++ buildIcmpv6Echo source destination identifier sequence payload
  | udp header _ source destination rest payload =>
    header.bytes ++ (u16ToBe source ++ u16ToBe destination ++ rest.val ++ payload)

/-- The bytes before the transport. -/
def headerLength : Probe → Nat
  | synIpv4 .. => 20
  | synIpv6 .. => 40
  | echoIpv4 header .. => header.bytes.length
  | echoIpv6 header .. => header.bytes.length
  | udp header .. => header.bytes.length

/-- The key that the sender keeps. -/
def key (p : Probe) : ProbeKey :=
  match p with
  | synIpv4 _ _ spec | synIpv6 _ _ spec =>
    ProbeKey.tcp p.family spec.sourcePort spec.destinationPort (some spec.sequence)
  | echoIpv4 _ _ identifier sequence _ | echoIpv6 _ _ _ _ identifier sequence _ =>
    ProbeKey.icmp p.family identifier sequence
  | udp _ _ source destination _ _ => ProbeKey.ports p.family .udp source destination

theorem key_family (p : Probe) : p.key.family = p.family := by
  cases p <;> rfl

theorem key_sequence (p : Probe) :
    p.key.protocol = .tcp → p.key.transportSequence.isSome = true := by
  cases p with
  | synIpv4 | synIpv6 => exact fun _ => rfl
  | echoIpv4 | echoIpv6 | udp => nofun

/-- A header, eight bytes from which the key can be read, and a payload. -/
structure Parts (p : Probe) where
  header : IpHeader
  start : Octets 8
  payload : Bytes
  packet_eq : p.packet = header.bytes ++ (start.val ++ payload)
  length_header : header.bytes.length = p.headerLength
  parse : ∀ more, parseTransport header.family header.protocol
    (header.bytes ++ (start.val ++ more)) header.bytes.length = .ok p.key

theorem parts (p : Probe) : Nonempty p.Parts := by
  cases p with
  | synIpv4 source destination spec =>
    obtain ⟨tcp, ip, h⟩ := buildTcpSynIpv4_eq source destination spec
    exact ⟨⟨.v4 (synHeaderIpv4 source destination spec ip), ⟨segmentStart spec [], rfl⟩,
      synTail tcp, h, Ipv4Header.length_bytes _, fun more => parseTransport_tcp .ipv4 _ more spec⟩⟩
  | synIpv6 source destination spec =>
    obtain ⟨tcp, h⟩ := buildTcpSynIpv6_eq source destination spec
    exact ⟨⟨.v6 (synHeaderIpv6 source destination spec), ⟨segmentStart spec [], rfl⟩,
      synTail tcp, h, Ipv6Header.length_bytes _, fun more => parseTransport_tcp .ipv6 _ more spec⟩⟩
  | echoIpv4 header isIcmp identifier sequence payload =>
    obtain ⟨c, h⟩ := buildIcmpv4Echo_eq identifier sequence payload
    exact ⟨⟨.v4 header, ⟨[8, 0] ++ u16ToBe c ++ u16ToBe identifier ++ u16ToBe sequence, rfl⟩,
      payload, congrArg (header.bytes ++ ·) h, rfl,
      fun more => parseTransport_icmp .ipv4 _ more (.inl isIcmp) 8 0 c identifier sequence⟩⟩
  | echoIpv6 header isIcmp source destination identifier sequence payload =>
    obtain ⟨c, h⟩ := buildIcmpv6Echo_eq source destination identifier sequence payload
    exact ⟨⟨.v6 header, ⟨[128, 0] ++ u16ToBe c ++ u16ToBe identifier ++ u16ToBe sequence, rfl⟩,
      payload, congrArg (header.bytes ++ ·) h, rfl,
      fun more => parseTransport_icmp .ipv6 _ more (.inr isIcmp) 128 0 c identifier sequence⟩⟩
  | udp header isUdp source destination rest payload =>
    have hlen : (u16ToBe source ++ u16ToBe destination ++ rest.val).length = 8 := by
      rw [List.length_append, rest.property]
      rfl
    refine ⟨⟨header, ⟨u16ToBe source ++ u16ToBe destination ++ rest.val, hlen⟩, payload, rfl, rfl,
      fun more => ?_⟩⟩
    rw [isUdp]
    exact parseTransport_udp header.family _ more source destination rest

/-- Any start of the packet with eight bytes of the transport identifies the
probe, whatever comes after it. -/
theorem parseQuotedProbe_take (p : Probe) (n : Nat) (trailer : Bytes) :
    parseQuotedProbe (p.packet.take (p.headerLength + 8 + n) ++ trailer) = .ok p.key := by
  obtain ⟨parts⟩ := p.parts
  have hstart := parts.start.property
  have htake : (parts.start.val ++ parts.payload).take (8 + n) =
      parts.start.val ++ parts.payload.take n := by
    have h := @List.take_length_add_append _ parts.start.val parts.payload n
    rw [hstart] at h
    exact h
  have hquote : p.packet.take (p.headerLength + 8 + n) ++ trailer =
      parts.header.bytes ++ (parts.start.val ++ (parts.payload.take n ++ trailer)) := by
    rw [parts.packet_eq, ← parts.length_header, Nat.add_assoc, List.take_length_add_append, htake,
      List.append_assoc, List.append_assoc]
  rw [hquote, IpHeader.parseQuotedProbe_bytes _ (by rw [List.length_append]; omega)]
  exact parts.parse _

end Probe

/-! ## Error messages -/

/-- Time exceeded, unreachable, parameter problem; for IPv6, packet too big. -/
def errorTypes : AddressFamily → List UInt8
  | .ipv4 => [11, 3, 12]
  | .ipv6 => [3, 1, 2, 4]

structure IcmpError (family : AddressFamily) where
  type : UInt8
  isError : type ∈ errorTypes family
  code : UInt8
  checksum : UInt16
  /-- The four bytes whose use depends on the type. -/
  word : Octets 4

namespace IcmpError

variable {family : AddressFamily}

def bytes (m : IcmpError family) (quote : Bytes) : Bytes :=
  [m.type, m.code] ++ u16ToBe m.checksum ++ m.word.val ++ quote

theorem error_type (family : AddressFamily) :
    ∀ type ∈ errorTypes family, (icmpKind family type).quotes = true ∧ high type = 0 := by
  cases family
  · decide +kernel
  · decide +kernel

theorem getElem?_type (m : IcmpError family) (quote : Bytes) :
    (m.bytes quote)[0]? = some m.type := rfl

theorem length_bytes (m : IcmpError family) (quote : Bytes) :
    (m.bytes quote).length = 8 + quote.length := by
  have hw := m.word.property
  simp only [bytes, List.length_append, List.length_cons, List.length_nil, length_u16ToBe]
  omega

theorem drop_bytes (m : IcmpError family) (quote : Bytes) : (m.bytes quote).drop 8 = quote := by
  obtain ⟨a, b, c, d, h⟩ := m.word.four
  unfold bytes
  rw [h]
  rfl

theorem nextHopMtu_bytes (m : IcmpError family) (quote : Bytes) :
    ∃ mtu, nextHopMtu family m.type m.code (m.bytes quote) = .ok mtu := by
  obtain ⟨a, b, c, d, h⟩ := m.word.four
  unfold bytes
  rw [h]
  refine ite_ok (fun _ => ?_) fun _ => ite_ok (fun _ => ?_) fun _ => ⟨_, rfl⟩
  · rw [field16_at rfl rfl]
    exact ⟨_, rfl⟩
  · rw [field32_at rfl rfl]
    exact ⟨_, rfl⟩

/-- An error message that quotes a probe is read with its key. -/
theorem parseIcmpMessage_bytes (m : IcmpError family) (source : Option IpAddr) {quote : Bytes}
    {key : ProbeKey} (hquote : parseQuotedProbe quote = .ok key) :
    ∃ r, parseIcmpMessage family source (m.bytes quote) = .ok r ∧ r.family = family ∧
      r.quotedProbe = some key := by
  have hlen := m.length_bytes quote
  have hkind := (error_type family m.type m.isError).1
  have hcode : (m.bytes quote)[1]? = some m.code := rfl
  have hquoted : quoted (icmpKind family m.type) (m.bytes quote) = .ok (some key) := by
    unfold quoted
    rw [if_pos hkind, sliceFrom_ok (by omega), except_ok_bind, m.drop_bytes, hquote]
    rfl
  have hechoed : echoed (icmpKind family m.type) (m.bytes quote) = .ok (none, none) := by
    refine if_neg fun h => ?_
    rw [h] at hkind
    cases hkind
  obtain ⟨mtu, hmtu⟩ := m.nextHopMtu_bytes quote
  obtain ⟨labels, hlabels⟩ := findMplsExtension_ok family (icmpKind family m.type) (m.bytes quote)
  unfold parseIcmpMessage
  rw [need_ok (by omega), except_ok_bind, index_ok (m.getElem?_type quote), except_ok_bind,
    index_ok hcode, except_ok_bind]
  dsimp only
  rw [hechoed, except_ok_bind, hmtu, except_ok_bind, hquoted, except_ok_bind, hlabels]
  exact ⟨_, rfl, rfl, rfl⟩

end IcmpError

/-! ## Outer headers -/

/-- What the socket leaves in front of the message. -/
inductive Outer : AddressFamily → Type
  | bare (family : AddressFamily) : Outer family
  | ipv4 (header : Ipv4Header) (isIcmp : header.protocol = 1) : Outer .ipv4
  | ipv6 (header : Ipv6Header) (isIcmp : header.transport = 58) : Outer .ipv6

namespace Outer

variable {family : AddressFamily}

def bytes : Outer family → Bytes
  | bare _ => []
  | ipv4 header _ => header.bytes
  | ipv6 header _ => header.bytes

def source : Outer family → Option IpAddr
  | bare _ => none
  | ipv4 header _ => some (.v4 header.source)
  | ipv6 header _ => some (.v6 header.source)

/-- The header in front of a message comes off. -/
theorem stripOuterIp_bytes (o : Outer family) {icmp : Bytes} (hlen : 8 ≤ icmp.length) {first : UInt8}
    (hfirst : icmp[0]? = some first) (hhigh : high first = 0) :
    stripOuterIp (o.bytes ++ icmp) family = .ok (family, o.source, icmp) := by
  cases o with
  | bare => exact stripOuterIp_bare hlen hfirst (by omega) (by omega)
  | ipv4 h isIcmp => exact (IpHeader.v4 h).stripOuterIp_bytes isIcmp hlen .ipv4
  | ipv6 h isIcmp => exact (IpHeader.v6 h).stripOuterIp_bytes isIcmp hlen .ipv6

end Outer

/-! ## Correlation -/

/-- A response to the quoted start of a probe carries its key. -/
theorem parseIcmpResponse_quote (p : Probe) (m : IcmpError p.family) (o : Outer p.family) (n : Nat)
    (trailer : Bytes) :
    ∃ r, parseIcmpResponse
        (o.bytes ++ m.bytes (p.packet.take (p.headerLength + 8 + n) ++ trailer)) p.family = .ok r ∧
      r.family = p.family ∧ r.quotedProbe = some p.key := by
  have hlen := m.length_bytes (p.packet.take (p.headerLength + 8 + n) ++ trailer)
  unfold parseIcmpResponse
  rw [o.stripOuterIp_bytes (by omega) (m.getElem?_type _)
    (IcmpError.error_type p.family m.type m.isError).2, except_ok_bind]
  exact m.parseIcmpMessage_bytes o.source (p.parseQuotedProbe_take n trailer)

/-- The keys differ in a field that identifies a probe of their protocol. -/
def ProbeKey.Differs (own key : ProbeKey) : Prop :=
  match own.protocol with
  | .icmp | .udp => key ≠ own
  | .tcp => key.sourcePort ≠ own.sourcePort ∨ key.destinationPort ≠ own.destinationPort ∨
      key.transportSequence ≠ own.transportSequence

theorem correlates_own {r : ParsedIcmp} {key : ProbeKey} (hfamily : r.family = key.family)
    (hquoted : r.quotedProbe = some key)
    (hsequence : key.protocol = .tcp → key.transportSequence.isSome) :
    r.correlates key = true := by
  unfold ParsedIcmp.correlates
  rw [if_neg (not_not_intro hfamily), hquoted]
  match h : key.protocol with
  | .icmp => exact beq_self_eq_true key
  | .udp => exact beq_self_eq_true key
  | .tcp =>
    obtain ⟨sequence, hs⟩ := Option.isSome_iff_exists.mp (hsequence h)
    simp only [Option.any_some, hs, h, Option.all_some, beq_self_eq_true, Bool.and_self]

theorem correlates_other {r : ParsedIcmp} {own key : ProbeKey}
    (hquoted : r.quotedProbe = some own) (hprotocol : key.protocol = own.protocol)
    (hsequence : key.protocol = .tcp → key.transportSequence.isSome) (h : own.Differs key) :
    ¬ r.correlates key = true := by
  unfold ProbeKey.Differs at h
  unfold ParsedIcmp.correlates
  rw [← hprotocol] at h
  by_cases hfamily : r.family = key.family
  · rw [if_neg (not_not_intro hfamily), hquoted]
    match hp : key.protocol with
    | .icmp =>
      rw [hp] at h
      intro heq
      exact h (eq_of_beq heq).symm
    | .udp =>
      rw [hp] at h
      intro heq
      exact h (eq_of_beq heq).symm
    | .tcp =>
      rw [hp] at h
      obtain ⟨sequence, hs⟩ := Option.isSome_iff_exists.mp (hsequence hp)
      simp only [Option.any_some, hs, Option.all_some, Bool.and_eq_true, beq_iff_eq]
      rintro ⟨⟨⟨-, hsource⟩, hdestination⟩, hseq⟩
      rcases h with h | h | h
      · exact h hsource.symm
      · exact h hdestination.symm
      · exact h (hs.trans hseq.symm)
  · rw [if_pos hfamily]
    exact Bool.false_ne_true

/-- A quoted probe answers its own key, and no other key of its protocol that
differs in a field of this protocol. -/
theorem quote_correlates (p : Probe) (m : IcmpError p.family) (o : Outer p.family) (n : Nat)
    (trailer : Bytes) :
    ∃ r, parseIcmpResponse
        (o.bytes ++ m.bytes (p.packet.take (p.headerLength + 8 + n) ++ trailer)) p.family = .ok r ∧
      r.correlates p.key = true ∧
      ∀ key : ProbeKey, key.family = p.key.family → key.protocol = p.key.protocol →
        (key.protocol = .tcp → key.transportSequence.isSome) → p.key.Differs key →
        ¬ r.correlates key = true := by
  obtain ⟨r, hr, hfamily, hquoted⟩ := parseIcmpResponse_quote p m o n trailer
  refine ⟨r, hr, correlates_own (hfamily.trans p.key_family.symm) hquoted p.key_sequence, ?_⟩
  intro key _ hprotocol hsequence hdiffers
  exact correlates_other hquoted hprotocol hsequence hdiffers

/-- A SYN over IPv4. -/
def synTo443 : Probe :=
  .synIpv4 ⟨[10, 0, 0, 1], rfl⟩ ⟨[10, 0, 0, 2], rfl⟩
    { sourcePort := 50000, destinationPort := 443, sequence := 7, hopLimit := 1, trafficClass := 0,
      dontFragment := true }

def exceededInTransit : IcmpError .ipv4 where
  type := 11
  isError := by decide
  code := 0
  checksum := 0
  word := ⟨[0, 0, 0, 0], rfl⟩

/-- The identifier of a TCP key is not compared. -/
theorem synTo443_answers_identifier :
    ∃ (r : ParsedIcmp) (key : ProbeKey),
      parseIcmpResponse (exceededInTransit.bytes (synTo443.packet.take 28)) .ipv4 = .ok r ∧
      key.family = synTo443.key.family ∧ key.protocol = synTo443.key.protocol ∧
      key.transportSequence = synTo443.key.transportSequence ∧
      key ≠ synTo443.key ∧ r.correlates key = true := by
  obtain ⟨r, hr, hfamily, hquoted⟩ :=
    parseIcmpResponse_quote synTo443 exceededInTransit (.bare .ipv4) 0 []
  rw [List.append_nil] at hr
  refine ⟨r, { synTo443.key with identifier := some 5 }, hr, rfl, rfl, rfl, by decide, ?_⟩
  unfold ParsedIcmp.correlates
  rw [hfamily, hquoted]
  rfl

end NetworkLantern.Packet
