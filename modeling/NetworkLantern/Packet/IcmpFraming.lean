import NetworkLantern.Packet.QuoteSound

/-!
# ICMP responses, bare and behind a header

Behind a header of its family every message is read.  Bare, it is taken for what it is
unless its type begins with the four bits of an IP version (`icmp_framing_iff`), as the
types 64 to 79 and 96 to 111 of ICMPv6 error messages do.
-/

namespace NetworkLantern.Packet

open NetworkLantern Path Checked

/-- A type that the parser has a kind for begins with four bits that are no IP version. -/
theorem high_of_kind {family : AddressFamily} {type : UInt8} (h : icmpKind family type ≠ .other) :
    high type ≠ 4 ∧ high type ≠ 6 := by
  have hall : ∀ n < 256, icmpKind family (UInt8.ofNat n) ≠ .other →
      high (UInt8.ofNat n) ≠ 4 ∧ high (UInt8.ofNat n) ≠ 6 := by
    cases family <;> decide +kernel
  have htype := hall type.toNat type.toNat_lt
  rw [UInt8.ofNat_toNat] at htype
  exact htype h

/-! ## The message -/

theorem echoed_ok {icmp : Bytes} (hlen : 8 ≤ icmp.length) (kind : IcmpKind) :
    ∃ pair, echoed kind icmp = .ok pair := by
  refine ite_ok (fun _ => ?_) fun _ => ⟨_, rfl⟩
  rw [field16_word (by omega) (by omega), field16_word (by omega) (by omega)]
  exact ⟨_, rfl⟩

theorem nextHopMtu_ok {icmp : Bytes} (hlen : 8 ≤ icmp.length) (family : AddressFamily)
    (type code : UInt8) : ∃ mtu, nextHopMtu family type code icmp = .ok mtu := by
  refine ite_ok (fun _ => ?_) fun _ => ite_ok (fun _ => ?_) fun _ => ⟨_, rfl⟩
  · rw [field16_word (by omega) (by omega)]
    exact ⟨_, rfl⟩
  · rw [field32_word (by omega) (by omega)]
    exact ⟨_, rfl⟩

theorem quoted_ok {icmp : Bytes} (hlen : 8 ≤ icmp.length) (kind : IcmpKind) :
    ∃ probe, quoted kind icmp = .ok probe := by
  refine ite_ok (fun _ => ?_) fun _ => ⟨_, rfl⟩
  rw [sliceFrom_ok hlen, except_ok_bind]
  exact (safe_parseQuotedProbe _).attempt_ok

/-- A message of eight bytes is read; its source is only passed on. -/
theorem parseIcmpMessage_ok {icmp : Bytes} (hlen : 8 ≤ icmp.length) (family : AddressFamily) :
    ∃ r : ParsedIcmp, ∀ source,
      parseIcmpMessage family source icmp = .ok { r with family := family, source := source } := by
  obtain ⟨pair, hechoed⟩ := echoed_ok hlen (icmpKind family (byteAt icmp 0))
  obtain ⟨mtu, hmtu⟩ := nextHopMtu_ok hlen family (byteAt icmp 0) (byteAt icmp 1)
  obtain ⟨probe, hquoted⟩ := quoted_ok hlen (icmpKind family (byteAt icmp 0))
  obtain ⟨labels, hlabels⟩ := findMplsExtension_ok family (icmpKind family (byteAt icmp 0)) icmp
  refine ⟨⟨family, none, icmpKind family (byteAt icmp 0), byteAt icmp 1, pair.1, pair.2, probe, mtu,
    labels⟩, fun source => ?_⟩
  unfold parseIcmpMessage
  rw [need_ok hlen, except_ok_bind, index_byteAt (by omega), except_ok_bind,
    index_byteAt (by omega), except_ok_bind]
  dsimp only
  rw [hechoed, except_ok_bind, hmtu, except_ok_bind, hquoted, except_ok_bind, hlabels]
  rfl

/-! ## Both framings -/

/-- Behind a header of its family a message is read, whatever its type. -/
theorem parseIcmpResponse_framed (h : IpHeader) (isIcmp : h.protocol = icmpProtocol h.family)
    {icmp : Bytes} (hlen : 8 ≤ icmp.length) (expected : AddressFamily) :
    parseIcmpResponse (h.bytes ++ icmp) expected =
      parseIcmpMessage h.family (some h.source) icmp := by
  unfold parseIcmpResponse
  rw [h.stripOuterIp_bytes isIcmp hlen]
  rfl

theorem parseIcmpResponse_bare {family : AddressFamily} {icmp : Bytes} (hlen : 8 ≤ icmp.length)
    {type : UInt8} (htype : icmp[0]? = some type) (hhigh : high type ≠ 4 ∧ high type ≠ 6) :
    parseIcmpResponse icmp family = parseIcmpMessage family none icmp := by
  unfold parseIcmpResponse
  rw [stripOuterIp_bare hlen htype hhigh.1 hhigh.2]
  rfl

/-- A message is read alike with and without a header of its family, apart from the source,
exactly when its type does not begin like an IPv4 or an IPv6 header. -/
theorem icmp_framing_iff (family : AddressFamily) {icmp : Bytes} (hlen : 8 ≤ icmp.length)
    {type : UInt8} (htype : icmp[0]? = some type) :
    (∃ r, parseIcmpResponse icmp family = .ok r ∧ r.family = family ∧ r.source = none ∧
      ∀ h : IpHeader, h.family = family → h.protocol = icmpProtocol h.family → ∀ expected,
        parseIcmpResponse (h.bytes ++ icmp) expected = .ok { r with source := some h.source }) ↔
    high type ≠ 4 ∧ high type ≠ 6 := by
  constructor
  · rintro ⟨r, hbare, -, hsource, -⟩
    have hmeets := (meets_parseIcmpResponse icmp family).of_ok hbare
    obtain ⟨first, hfirst, hhigh⟩ := hmeets.2 hsource
    rw [htype] at hfirst
    cases hfirst
    exact hhigh
  · intro hhigh
    obtain ⟨r, hr⟩ := parseIcmpMessage_ok hlen family
    refine ⟨{ r with family := family, source := none }, ?_, rfl, rfl, ?_⟩
    · rw [parseIcmpResponse_bare hlen htype hhigh]
      exact hr none
    · rintro h rfl isIcmp expected
      rw [parseIcmpResponse_framed h isIcmp hlen]
      exact hr (some h.source)

def routerAddress (host : UInt8) : Octets 4 := ⟨[10, 0, 0, host], rfl⟩

theorem routerOptions_words : 1 ≤ 10 := by decide

theorem routerOptions_length : ([1, 1, 1, 0] : Bytes).length = 4 * 1 := rfl

/-- Behind the header of a router at 10.0.0.1. -/
def routerHeader : Ipv4Header where
  tos := 0
  totalLength := 28
  identification := 0
  fragment := 0
  ttl := 64
  protocol := 1
  checksum := 0
  source := routerAddress 1
  destination := routerAddress 2
  options := [1, 1, 1, 0]
  words := 1
  words_le := routerOptions_words
  length_options := routerOptions_length

theorem icmp_framing_router :
    ∃ r, parseIcmpResponse [11, 0, 0, 0, 0, 0, 0, 0] .ipv4 = .ok r ∧ r.source = none ∧
      parseIcmpResponse (routerHeader.bytes ++ [11, 0, 0, 0, 0, 0, 0, 0]) .ipv6 =
        .ok { r with source := some (.v4 routerHeader.source) } := by
  have h := (@icmp_framing_iff .ipv4 [11, 0, 0, 0, 0, 0, 0, 0] (by decide) 11 rfl).mpr
    (by decide)
  obtain ⟨r, hbare, -, hsource, hframed⟩ := h
  exact ⟨r, hbare, hsource, hframed (.v4 routerHeader) rfl rfl .ipv6⟩

/-- An error message of type 100, one of the two for private experiments. -/
def experimentalError : Bytes := [100, 0, 0, 0, 0, 0, 0, 0]

/-- Behind a header it is read; bare, it is taken for the start of an IPv6 header. -/
theorem experimentalError_misread :
    parseIcmpResponse experimentalError .ipv6 = fail (.truncated 40 8) ∧
      ∀ h : Ipv6Header, h.transport = 58 → ∀ expected,
        ∃ r, parseIcmpResponse (h.bytes ++ experimentalError) expected = .ok r := by
  refine ⟨by decide, fun h isIcmp expected => ?_⟩
  obtain ⟨r, hr⟩ := @parseIcmpMessage_ok experimentalError (by decide) .ipv6
  exact ⟨_, (parseIcmpResponse_framed (.v6 h) isIcmp (by decide) expected).trans (hr _)⟩

end NetworkLantern.Packet
