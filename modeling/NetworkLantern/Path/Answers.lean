import NetworkLantern.Packet.IcmpFraming
import NetworkLantern.Path.Probing

/-!
# Answers to a probe

Routers quote a probe in an error message, targets echo it.  Read back, an answer tells the
key of its probe and who sent it (`Answer.read`), so that no other probe takes it.
-/

namespace NetworkLantern.Path.Native

open NetworkLantern Packet Checked

/-! ## What is sent back -/

def replyType : AddressFamily → UInt8
  | .ipv4 => 0
  | .ipv6 => 129

structure EchoReply where
  code : UInt8
  checksum : UInt16
  identifier : UInt16
  sequence : UInt16
  payload : Bytes

def EchoReply.bytes (family : AddressFamily) (r : EchoReply) : Bytes :=
  [replyType family, r.code] ++ u16ToBe r.checksum ++ u16ToBe r.identifier ++ u16ToBe r.sequence ++
    r.payload

structure Response where
  who : IpAddr
  kind : IcmpKind
  code : UInt8

/-- A message that carries a response to a probe.  Its source is in the header that the socket
leaves in front of it, or is told by the socket. -/
inductive Answer (p : Probe) : Response → Bytes → Option IpAddr → Prop
  | error (m : IcmpError p.family) (o : Outer p.family) (n : Nat) (trailer : Bytes) {who : IpAddr}
      {source : Option IpAddr} (hsource : o.source.or source = some who) :
      Answer p ⟨who, icmpKind p.family m.type, m.code⟩
        (o.bytes ++ m.bytes (p.packet.take (p.headerLength + 8 + n) ++ trailer)) source
  | reply (r : EchoReply) (hkey : p.key = ProbeKey.icmp p.family r.identifier r.sequence)
      (o : Outer p.family) {who : IpAddr} {source : Option IpAddr}
      (hsource : o.source.or source = some who) :
      Answer p ⟨who, .echoReply, r.code⟩ (o.bytes ++ r.bytes p.family) source

/-- The keys that the senders of echo requests and datagrams keep. -/
inductive Asks : ProbeKey → Prop
  | echo (family : AddressFamily) (identifier sequence : UInt16) :
      Asks (ProbeKey.icmp family identifier sequence)
  | udp (family : AddressFamily) (source destination : UInt16) :
      Asks (ProbeKey.ports family .udp source destination)

/-! ## Reading it -/

/-- What a message that is read has in its fields. -/
theorem parseIcmpMessage_fields {family : AddressFamily} {source : Option IpAddr} {icmp : Bytes}
    {r : ParsedIcmp} {type code : UInt8} (htype : icmp[0]? = some type) (hcode : icmp[1]? = some code)
    (h : parseIcmpMessage family source icmp = .ok r) :
    r.family = family ∧ r.source = source ∧ r.kind = icmpKind family type ∧ r.code = code ∧
      echoed (icmpKind family type) icmp = .ok (r.echoedIdentifier, r.echoedSequence) ∧
      quoted (icmpKind family type) icmp = .ok r.quotedProbe := by
  unfold parseIcmpMessage at h
  obtain ⟨-, -, h⟩ := except_bind_ok.mp h
  rw [index_ok htype, except_ok_bind, index_ok hcode, except_ok_bind] at h
  obtain ⟨⟨identifier, sequence⟩, hechoed, h⟩ := except_bind_ok.mp h
  obtain ⟨mtu, -, h⟩ := except_bind_ok.mp h
  obtain ⟨probe, hquoted, h⟩ := except_bind_ok.mp h
  obtain ⟨labels, -, h⟩ := except_bind_ok.mp h
  cases h
  exact ⟨rfl, rfl, rfl, rfl, hechoed, hquoted⟩

/-- The parser takes off what is in front of a message that it has a kind for. -/
theorem parseIcmpResponse_outer {family : AddressFamily} (o : Outer family) {icmp : Bytes}
    (hlen : 8 ≤ icmp.length) {type : UInt8} (htype : icmp[0]? = some type)
    (hkind : icmpKind family type ≠ .other) :
    parseIcmpResponse (o.bytes ++ icmp) family = parseIcmpMessage family o.source icmp := by
  cases o with
  | bare => exact parseIcmpResponse_bare hlen htype (high_of_kind hkind)
  | ipv4 h isIcmp => exact parseIcmpResponse_framed (.v4 h) isIcmp hlen .ipv4
  | ipv6 h isIcmp => exact parseIcmpResponse_framed (.v6 h) isIcmp hlen .ipv6

namespace EchoReply

variable (family : AddressFamily) (r : EchoReply)

theorem length_bytes : 8 ≤ (r.bytes family).length := by
  simp only [bytes, List.length_append, List.length_cons, List.length_nil, length_u16ToBe]
  omega

theorem kind_type : icmpKind family (replyType family) = .echoReply := by
  cases family <;> rfl

theorem echoed_bytes :
    echoed .echoReply (r.bytes family) = .ok (some r.identifier, some r.sequence) := by
  unfold echoed bytes
  rw [if_pos rfl, field16_at rfl rfl, field16_at rfl rfl, u16OfBe_toBe, u16OfBe_toBe]
  rfl

end EchoReply

theorem error_kind {family : AddressFamily} {type : UInt8} (h : type ∈ errorTypes family) :
    icmpKind family type ≠ .other := by
  intro hother
  have hquotes := (IcmpError.error_type family type h).1
  rw [hother] at hquotes
  cases hquotes

/-- A quoted key is compared as a whole. -/
theorem correlates_quoted {r : ParsedIcmp} {own key : ProbeKey} (hkey : Asks key)
    (hfamily : r.family = key.family) (h : r.quotedProbe = some own) :
    r.correlates key = true ↔ key = own := by
  unfold ParsedIcmp.correlates
  rw [if_neg (not_not_intro hfamily), h]
  cases hkey with
  | echo family i s =>
    show (own == ProbeKey.icmp family i s) = true ↔ _
    rw [beq_iff_eq, eq_comm]
  | udp family a b =>
    show (own == ProbeKey.ports family .udp a b) = true ↔ _
    rw [beq_iff_eq, eq_comm]

/-- An echo reply is compared by its two fields. -/
theorem correlates_echoed {r : ParsedIcmp} {key : ProbeKey} {i s : UInt16} (hkey : Asks key)
    (hfamily : r.family = key.family) (hquoted : r.quotedProbe = none)
    (hi : r.echoedIdentifier = some i) (hs : r.echoedSequence = some s) :
    r.correlates key = true ↔ key = ProbeKey.icmp key.family i s := by
  unfold ParsedIcmp.correlates
  rw [if_neg (not_not_intro hfamily), hquoted, hi, hs]
  cases hkey with
  | echo family i' s' =>
    show (some i == some i' && some s == some s' && true) = true ↔ _
    simp only [Bool.and_true, Bool.and_eq_true, beq_iff_eq, Option.some.injEq, ProbeKey.icmp,
      ProbeKey.mk.injEq, true_and, and_true]
    rw [eq_comm (a := i), eq_comm (a := s)]
  | udp family a b =>
    refine iff_of_false Bool.false_ne_true ?_
    intro h
    cases congrArg ProbeKey.protocol h

/-- Read back, an answer tells who sent it and for which probe. -/
theorem Answer.read {p : Probe} {response : Response} {bytes : Bytes} {source : Option IpAddr}
    (h : Answer p response bytes source) :
    ∃ r, parseIcmpResponse bytes p.family = .ok r ∧ r.kind = response.kind ∧
      r.code = response.code ∧ r.source.or source = some response.who ∧
      ∀ key, Asks key → key.family = p.family → (r.correlates key = true ↔ key = p.key) := by
  cases h with
  | error m o n trailer hsource =>
    have hlen := m.length_bytes (p.packet.take (p.headerLength + 8 + n) ++ trailer)
    obtain ⟨r, hr, hfamily, hquoted⟩ :=
      m.parseIcmpMessage_bytes o.source (p.parseQuotedProbe_take n trailer)
    obtain ⟨-, hsrc, hkind, hcode, -⟩ := parseIcmpMessage_fields (m.getElem?_type _) rfl hr
    refine ⟨r, ?_, hkind, hcode, ?_, ?_⟩
    · rw [parseIcmpResponse_outer o (by omega) (m.getElem?_type _) (error_kind m.isError)]
      exact hr
    · rw [hsrc]
      exact hsource
    · intro key hkey hf
      exact correlates_quoted hkey (hfamily.trans hf.symm) hquoted
  | reply reply hkey o hsource =>
    have hlen := reply.length_bytes p.family
    obtain ⟨r, hr⟩ := parseIcmpMessage_ok hlen p.family
    have hr := hr o.source
    obtain ⟨hfamily, hsrc, hkind, hcode, hechoed, hquoted⟩ :=
      parseIcmpMessage_fields
        (show (reply.bytes p.family)[0]? = some (replyType p.family) from rfl)
        (show (reply.bytes p.family)[1]? = some reply.code from rfl) hr
    rw [EchoReply.kind_type] at hkind hechoed hquoted
    rw [EchoReply.echoed_bytes] at hechoed
    obtain ⟨hi, hs⟩ := Prod.mk.inj (Except.ok.inj hechoed)
    refine ⟨_, ?_, hkind, hcode, ?_, ?_⟩
    · have hreply : icmpKind p.family (replyType p.family) ≠ .other := by
        rw [EchoReply.kind_type]
        decide
      rw [parseIcmpResponse_outer o hlen rfl hreply]
      exact hr
    · rw [hsrc]
      exact hsource
    · intro key hasks hf
      rw [correlates_echoed hasks (hfamily.trans hf.symm) (Except.ok.inj hquoted).symm hi.symm hs.symm,
        hf, hkey]

/-! ## What reaches a socket -/

/-- Nothing in it tells a probe. -/
def Nameless (family : AddressFamily) (bytes : Bytes) : Prop :=
  ∀ r, parseIcmpResponse bytes family = .ok r → r.quotedProbe = none ∧ r.echoedIdentifier = none

/-- Noise, or an answer that somebody sent: `sent` is what was sent for a key. -/
inductive Heard (family : AddressFamily) (sent : ProbeKey → Response → Prop) (bytes : Bytes)
    (source : Option IpAddr) : Prop
  | noise (h : Nameless family bytes)
  | answer (p : Probe) (response : Response) (hfamily : p.family = family)
      (hanswer : Answer p response bytes source) (hsent : sent p.key response)

theorem readResponse_nameless {key : ProbeKey} {bytes : Bytes} (source : Option IpAddr)
    (hkey : Asks key) (h : Nameless key.family bytes) : readResponse key bytes source = none := by
  unfold readResponse
  cases hparse : parseIcmpResponse bytes key.family with
  | error e => rfl
  | ok r =>
    obtain ⟨hquoted, hechoed⟩ := h r hparse
    have hcorrelates : ¬ r.correlates key = true := by
      unfold ParsedIcmp.correlates
      rw [hquoted, hechoed]
      by_cases hfamily : r.family = key.family
      · rw [if_neg (not_not_intro hfamily)]
        cases hkey with
        | echo family i s => exact Bool.false_ne_true
        | udp family a b => exact Bool.false_ne_true
      · rw [if_pos hfamily]
        exact Bool.false_ne_true
    exact if_neg hcorrelates

/-- A probe takes the answers to its key, and these only. -/
theorem readResponse_answer {p : Probe} {response : Response} {bytes : Bytes}
    {source : Option IpAddr} (h : Answer p response bytes source) {key : ProbeKey}
    (hkey : Asks key) (hfamily : p.family = key.family) :
    (key = p.key → ∃ r, readResponse key bytes source = some r ∧ r.kind = response.kind ∧
      r.code = response.code ∧ r.source = some response.who) ∧
    (key ≠ p.key → readResponse key bytes source = none) := by
  obtain ⟨r, hparse, hkind, hcode, hsource, hcorrelates⟩ := h.read
  have hiff := hcorrelates key hkey hfamily.symm
  unfold readResponse
  rw [← hfamily, hparse]
  constructor
  · intro heq
    exact ⟨_, if_pos (hiff.mpr heq), hkind, hcode, hsource⟩
  · intro hne
    exact if_neg fun hc => hne (hiff.mp hc)

/-- What a probe takes of what reaches its socket was sent for its key. -/
theorem readResponse_heard {sent : ProbeKey → Response → Prop} {key : ProbeKey} {bytes : Bytes}
    {source : Option IpAddr} {r : ParsedIcmp} (hkey : Asks key)
    (hheard : Heard key.family sent bytes source) (h : readResponse key bytes source = some r) :
    ∃ response, sent key response ∧ r.kind = response.kind ∧ r.code = response.code ∧
      r.source = some response.who := by
  cases hheard with
  | noise hnoise =>
    rw [readResponse_nameless source hkey hnoise] at h
    cases h
  | answer p response hfamily hanswer hsent =>
    obtain ⟨hown, hother⟩ := readResponse_answer hanswer hkey hfamily
    by_cases heq : key = p.key
    · obtain ⟨r', hr', hkind, hcode, hsource⟩ := hown heq
      rw [hr'] at h
      cases h
      rw [← heq] at hsent
      exact ⟨response, hsent, hkind, hcode, hsource⟩
    · rw [hother heq] at h
      cases h

end NetworkLantern.Path.Native
