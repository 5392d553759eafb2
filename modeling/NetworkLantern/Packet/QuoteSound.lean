import NetworkLantern.Packet.Quote
import Mathlib.Logic.Relation

/-!
# What a quoted probe is read from

The transport of a quote, located by a reference walk over its headers
(`TransportAt`), and the key that its first eight bytes hold (`keyAt`).  A key that
the parser returns is the one there, except for a later fragment of an IPv4 packet:
`parseQuotedProbe` does not look at the fragment offset of that family
(`quotedProbe_sound_iff`).
-/

namespace NetworkLantern.Packet

open NetworkLantern Path Checked Relation

/-! ## Bytes in place -/

def byteAt (bytes : Bytes) (i : Nat) : UInt8 := bytes.getD i 0

def word16 (bytes : Bytes) (i : Nat) : UInt16 := u16OfBe (byteAt bytes i) (byteAt bytes (i + 1))

def word32 (bytes : Bytes) (i : Nat) : UInt32 :=
  u32OfBe (byteAt bytes i) (byteAt bytes (i + 1)) (byteAt bytes (i + 2)) (byteAt bytes (i + 3))

theorem getElem?_byteAt {bytes : Bytes} {i : Nat} (h : i < bytes.length) :
    bytes[i]? = some (byteAt bytes i) := by
  unfold byteAt
  rw [List.getD_eq_getElem?_getD, List.getElem?_eq_getElem h]
  rfl

theorem index_byteAt {bytes : Bytes} {i : Nat} (h : i < bytes.length) :
    (index bytes i : Parse UInt8) = .ok (byteAt bytes i) := index_ok (getElem?_byteAt h)

theorem drop_byteAt {bytes : Bytes} {i : Nat} (h : i < bytes.length) :
    bytes.drop i = byteAt bytes i :: bytes.drop (i + 1) := by
  rw [List.drop_eq_getElem_cons h]
  congr 1
  exact Option.some.inj ((List.getElem?_eq_getElem h).symm.trans (getElem?_byteAt h))

section

variable {α : Type} {bytes : Bytes} {i j : Nat}

theorem field16_word (hj : j = i + 2) (h : j ≤ bytes.length) (f : UInt16 → Parse α) :
    (do let n ← beU16 (← slice bytes i j); f n) = f (word16 bytes i) := by
  refine field16_at ?_ hj f
  rw [drop_byteAt (by omega), drop_byteAt (by omega)]
  rfl

theorem field32_word (hj : j = i + 4) (h : j ≤ bytes.length) (f : UInt32 → Parse α) :
    (do let n ← beU32 (← slice bytes i j); f n) = f (word32 bytes i) := by
  refine field32_at ?_ hj f
  rw [drop_byteAt (by omega), drop_byteAt (by omega), drop_byteAt (by omega),
    drop_byteAt (by omega)]
  rfl

end

/-! ## Where the transport starts -/

/-- From an extension header, as its kind and its place, to the header after it.  A
fragment header leads on in a first fragment only. -/
inductive HeaderStep (bytes : Bytes) : UInt8 × Nat → UInt8 × Nat → Prop
  | options {kind : UInt8} {offset : Nat} (isOptions : kind = 0 ∨ kind = 43 ∨ kind = 60)
      (fits : offset + ((byteAt bytes (offset + 1)).toNat + 1) * 8 ≤ bytes.length) :
      HeaderStep bytes (kind, offset)
        (byteAt bytes offset, offset + ((byteAt bytes (offset + 1)).toNat + 1) * 8)
  | fragment {offset : Nat} (fits : offset + 8 ≤ bytes.length)
      (isFirst : (word16 bytes (offset + 2)).toNat < 8) :
      HeaderStep bytes (44, offset) (byteAt bytes offset, offset + 8)
  | authentication {offset : Nat}
      (fits : offset + ((byteAt bytes (offset + 1)).toNat + 2) * 4 ≤ bytes.length) :
      HeaderStep bytes (51, offset)
        (byteAt bytes offset, offset + ((byteAt bytes (offset + 1)).toNat + 2) * 4)

/-- The 13 bits of an IPv4 header that say where in the packet a fragment belongs. -/
def fragmentOffset (bytes : Bytes) : Nat := (word16 bytes 6).toNat % 8192

/-- The packet is of a family and a first fragment, and its transport is of this protocol
and starts there. -/
inductive TransportAt (bytes : Bytes) : AddressFamily → UInt8 → Nat → Prop
  | ipv4 (version : high (byteAt bytes 0) = 4) (header : 5 ≤ low (byteAt bytes 0))
      (fits : low (byteAt bytes 0) * 4 ≤ bytes.length) (isFirst : fragmentOffset bytes = 0) :
      TransportAt bytes .ipv4 (byteAt bytes 9) (low (byteAt bytes 0) * 4)
  | ipv6 {protocol : UInt8} {offset : Nat} (version : high (byteAt bytes 0) = 6)
      (header : 40 ≤ bytes.length)
      (chain : ReflTransGen (HeaderStep bytes) (byteAt bytes 6, 40) (protocol, offset))
      (isTransport : IsTransport protocol) : TransportAt bytes .ipv6 protocol offset

/-- The key in the first eight bytes of a transport. -/
def keyAt (bytes : Bytes) (family : AddressFamily) (protocol : UInt8) (offset : Nat) :
    Option ProbeKey :=
  if protocol = 1 ∨ protocol = 58 then
    some (ProbeKey.icmp family (word16 bytes (offset + 4)) (word16 bytes (offset + 6)))
  else if protocol = 17 then
    some (ProbeKey.ports family .udp (word16 bytes offset) (word16 bytes (offset + 2)))
  else if protocol = 6 then
    some (ProbeKey.tcp family (word16 bytes offset) (word16 bytes (offset + 2))
      (some (word32 bytes (offset + 4))))
  else none

/-- The bytes quote a probe with this key. -/
def Quotes (bytes : Bytes) (key : ProbeKey) : Prop :=
  ∃ family protocol offset, TransportAt bytes family protocol offset ∧
    offset + 8 ≤ bytes.length ∧ keyAt bytes family protocol offset = some key

/-- A fragment of either family that is not the first of its packet. -/
def LaterFragment (bytes : Bytes) : Prop :=
  (high (byteAt bytes 0) = 4 ∧ 20 ≤ bytes.length ∧ fragmentOffset bytes ≠ 0) ∨
  (high (byteAt bytes 0) = 6 ∧ 40 ≤ bytes.length ∧
    ∃ offset, ReflTransGen (HeaderStep bytes) (byteAt bytes 6, 40) (44, offset) ∧
      offset + 8 ≤ bytes.length ∧ 8 ≤ (word16 bytes (offset + 2)).toNat)

/-! ## The walk -/

theorem headerStep_rightUnique (bytes : Bytes) : Relator.RightUnique (HeaderStep bytes) := by
  intro s t u ht hu
  cases ht with
  | options isOptions _ =>
    cases hu with
    | options _ _ => rfl
    | fragment _ _ => exact absurd isOptions (by decide)
    | authentication _ => exact absurd isOptions (by decide)
  | fragment _ _ =>
    cases hu with
    | options isOptions _ => exact absurd isOptions (by decide)
    | fragment _ _ => rfl
  | authentication _ =>
    cases hu with
    | options isOptions _ => exact absurd isOptions (by decide)
    | authentication _ => rfl

theorem not_headerStep_transport {bytes : Bytes} {kind : UInt8} (h : IsTransport kind)
    (offset : Nat) (s : UInt8 × Nat) : ¬ HeaderStep bytes (kind, offset) s := by
  intro hstep
  cases hstep with
  | options isOptions _ => exact h.1 isOptions
  | fragment _ _ => exact h.2.1 rfl
  | authentication _ => exact h.2.2 rfl

theorem not_headerStep_later {bytes : Bytes} {offset : Nat}
    (h : 8 ≤ (word16 bytes (offset + 2)).toNat) (s : UInt8 × Nat) :
    ¬ HeaderStep bytes (44, offset) s := by
  intro hstep
  cases hstep with
  | options isOptions _ => exact absurd isOptions (by decide)
  | fragment _ isFirst => omega

/-- Two walks from one place that cannot go on end in the same place. -/
theorem walks_agree {bytes : Bytes} {s t u : UInt8 × Nat} (ht : ReflTransGen (HeaderStep bytes) s t)
    (hu : ReflTransGen (HeaderStep bytes) s u) (hends : ∀ v, ¬ HeaderStep bytes t v)
    (hends' : ∀ v, ¬ HeaderStep bytes u v) : t = u := by
  rcases ReflTransGen.total_of_right_unique (headerStep_rightUnique bytes) ht hu with h | h
  · rcases ReflTransGen.cases_head h with h | ⟨v, hv, -⟩
    · exact h
    · exact absurd hv (hends v)
  · rcases ReflTransGen.cases_head h with h | ⟨v, hv, -⟩
    · exact h.symm
    · exact absurd hv (hends' v)

theorem need_eq_ok {bytes : Bytes} {needed : Nat} {u : Unit} :
    need bytes needed = .ok u ↔ needed ≤ bytes.length := by
  constructor
  · intro h
    by_contra hlt
    rw [need, if_pos (by omega)] at h
    cases h
  · exact fun h => need_ok h

theorem extension_none {bytes : Bytes} {kind : UInt8} {offset : Nat}
    (h : extension bytes kind offset = .ok none) : IsTransport kind := by
  unfold extension at h
  by_cases hoptions : kind = 0 ∨ kind = 43 ∨ kind = 60
  · rw [if_pos hoptions] at h
    obtain ⟨-, -, h⟩ := except_bind_ok.mp h
    obtain ⟨units, -, h⟩ := except_bind_ok.mp h
    obtain ⟨following, -, h⟩ := except_bind_ok.mp h
    cases h
  · rw [if_neg hoptions] at h
    by_cases hfragment : kind = 44
    · rw [if_pos hfragment] at h
      obtain ⟨_, hneed, h⟩ := except_bind_ok.mp h
      have hlen := need_eq_ok.mp hneed
      rw [field16_word rfl (by omega)] at h
      split at h
      · cases h
      · obtain ⟨following, -, h⟩ := except_bind_ok.mp h
        cases h
    · rw [if_neg hfragment] at h
      by_cases hauth : kind = 51
      · rw [if_pos hauth] at h
        obtain ⟨-, -, h⟩ := except_bind_ok.mp h
        obtain ⟨units, -, h⟩ := except_bind_ok.mp h
        obtain ⟨following, -, h⟩ := except_bind_ok.mp h
        cases h
      · exact ⟨hoptions, hfragment, hauth⟩

/-- The parser goes on to the header that the reference walk goes on to. -/
theorem extension_step {bytes : Bytes} {kind following : UInt8} {offset length : Nat}
    (h : extension bytes kind offset = .ok (some (length, following)))
    (hfits : offset + length ≤ bytes.length) :
    HeaderStep bytes (kind, offset) (following, offset + length) := by
  unfold extension at h
  by_cases hoptions : kind = 0 ∨ kind = 43 ∨ kind = 60
  · rw [if_pos hoptions] at h
    obtain ⟨_, hneed, h⟩ := except_bind_ok.mp h
    have hlen := need_eq_ok.mp hneed
    rw [index_byteAt (by omega), except_ok_bind, index_byteAt (by omega), except_ok_bind] at h
    cases h
    exact .options hoptions hfits
  · rw [if_neg hoptions] at h
    by_cases hfragment : kind = 44
    · subst hfragment
      rw [if_pos rfl] at h
      obtain ⟨_, hneed, h⟩ := except_bind_ok.mp h
      have hlen := need_eq_ok.mp hneed
      rw [field16_word rfl (by omega)] at h
      split at h
      · cases h
      · next hfirst =>
        rw [index_byteAt (by omega), except_ok_bind] at h
        cases h
        exact .fragment hfits (by omega)
    · rw [if_neg hfragment] at h
      by_cases hauth : kind = 51
      · subst hauth
        rw [if_pos rfl] at h
        obtain ⟨_, hneed, h⟩ := except_bind_ok.mp h
        have hlen := need_eq_ok.mp hneed
        rw [index_byteAt (by omega), except_ok_bind, index_byteAt (by omega), except_ok_bind] at h
        cases h
        exact .authentication hfits
      · rw [if_neg hauth] at h
        cases h

theorem walkExtensions_reaches {bytes : Bytes} {kind : UInt8} {offset turns : Nat}
    {r : UInt8 × Nat} (h : walkExtensions bytes kind offset turns = .ok r) :
    ReflTransGen (HeaderStep bytes) (kind, offset) r ∧ IsTransport r.1 := by
  induction turns generalizing kind offset with
  | zero => cases h
  | succ turns ih =>
    rw [walkExtensions] at h
    obtain ⟨found, hfound, h⟩ := except_bind_ok.mp h
    rcases found with _ | ⟨length, following⟩
    · cases h
      exact ⟨.refl, extension_none hfound⟩
    · dsimp only at h
      by_cases hzero : length = 0
      · rw [if_pos hzero] at h
        cases h
      · rw [if_neg hzero] at h
        cases hadd : checkedAdd offset length with
        | none =>
          rw [hadd] at h
          cases h
        | some sum =>
          rw [hadd] at h
          obtain ⟨_, hneed, h⟩ := except_bind_ok.mp h
          obtain rfl : sum = offset + length := checkedAdd_eq hadd
          obtain ⟨hreach, ht⟩ := ih h
          exact ⟨.head (extension_step hfound (need_eq_ok.mp hneed)) hreach, ht⟩

/-! ## The key -/

theorem parseTransport_eq_ok {bytes : Bytes} {family : AddressFamily} {protocol : UInt8}
    {offset : Nat} {key : ProbeKey} :
    parseTransport family protocol bytes offset = .ok key ↔
      offset + 8 ≤ bytes.length ∧ keyAt bytes family protocol offset = some key := by
  by_cases hlen : offset + 8 ≤ bytes.length
  · unfold parseTransport keyAt
    rw [need_ok hlen, except_ok_bind]
    split
    · rw [field16_word (by omega) (by omega), field16_word (by omega) (by omega)]
      simp [hlen, pure, Except.pure]
    · split
      · rw [field16_word (by omega) (by omega), field16_word (by omega) (by omega)]
        simp [hlen, pure, Except.pure]
      · split
        · rw [field16_word (by omega) (by omega), field16_word (by omega) (by omega),
            field32_word (by omega) (by omega)]
          simp [hlen, pure, Except.pure]
        · simp [malformed, fail]
  · constructor
    · intro h
      obtain ⟨_, hneed, -⟩ := except_bind_ok.mp h
      exact absurd (need_eq_ok.mp hneed) hlen
    · exact fun h => absurd h.1 hlen

theorem keyAt_isSome {bytes : Bytes} {family : AddressFamily} {protocol : UInt8} {offset : Nat} :
    (keyAt bytes family protocol offset).isSome = true ↔
      protocol = 1 ∨ protocol = 58 ∨ protocol = 17 ∨ protocol = 6 := by
  unfold keyAt
  split
  · simp; tauto
  · split
    · simp; tauto
    · split
      · simp; tauto
      · simp; tauto

theorem parseQuotedProbe_ipv4 {bytes : Bytes} {key : ProbeKey} (hlen : 20 ≤ bytes.length)
    (hversion : high (byteAt bytes 0) = 4) :
    parseQuotedProbe bytes = .ok key ↔
      5 ≤ low (byteAt bytes 0) ∧ low (byteAt bytes 0) * 4 + 8 ≤ bytes.length ∧
        keyAt bytes .ipv4 (byteAt bytes 9) (low (byteAt bytes 0) * 4) = some key := by
  unfold parseQuotedProbe
  rw [need_ok (by omega), except_ok_bind, index_byteAt (by omega), except_ok_bind,
    if_pos hversion, need_ok hlen, except_ok_bind]
  show (if low _ * 4 < 20 then _ else _) = _ ↔ _
  by_cases hheader : 5 ≤ low (byteAt bytes 0)
  · rw [if_neg (by omega), index_byteAt (by omega), except_ok_bind, parseTransport_eq_ok]
    simp [hheader]
  · rw [if_pos (by omega)]
    simp [hheader, malformed, fail]

theorem parseQuotedProbe_ipv6 {bytes : Bytes} {key : ProbeKey} (hlen : 1 ≤ bytes.length)
    (hversion : high (byteAt bytes 0) = 6) (h : parseQuotedProbe bytes = .ok key) :
    ∃ protocol offset, TransportAt bytes .ipv6 protocol offset ∧ offset + 8 ≤ bytes.length ∧
      keyAt bytes .ipv6 protocol offset = some key := by
  unfold parseQuotedProbe at h
  rw [need_ok hlen, except_ok_bind, index_byteAt (by omega), except_ok_bind,
    if_neg (by omega), if_pos hversion] at h
  obtain ⟨_, hneed, h⟩ := except_bind_ok.mp h
  obtain ⟨⟨protocol, offset⟩, htransport, h⟩ := except_bind_ok.mp h
  dsimp only at h
  have hheader := need_eq_ok.mp hneed
  unfold ipv6Transport at htransport
  rw [need_ok hheader, except_ok_bind, index_byteAt (by omega), except_ok_bind] at htransport
  obtain ⟨hreach, ht⟩ := walkExtensions_reaches htransport
  obtain ⟨hfits, hkey⟩ := parseTransport_eq_ok.mp h
  exact ⟨protocol, offset, .ipv6 hversion hheader hreach ht, hfits, hkey⟩

/-- A later fragment of an IPv4 packet that looks like the first: a whole header, eight
bytes behind it, and a protocol that has a key. -/
def OverlookedFragment (bytes : Bytes) : Prop :=
  high (byteAt bytes 0) = 4 ∧ 5 ≤ low (byteAt bytes 0) ∧
    low (byteAt bytes 0) * 4 + 8 ≤ bytes.length ∧
    (byteAt bytes 9 = 1 ∨ byteAt bytes 9 = 58 ∨ byteAt bytes 9 = 17 ∨ byteAt bytes 9 = 6) ∧
    fragmentOffset bytes ≠ 0

/-- Every key that the parser returns is quoted in a first fragment, exactly when the bytes
are no such fragment. -/
theorem quotedProbe_sound_iff (bytes : Bytes) :
    (∀ key, parseQuotedProbe bytes = .ok key → Quotes bytes key ∧ ¬ LaterFragment bytes) ↔
      ¬ OverlookedFragment bytes := by
  constructor
  · rintro h ⟨hversion, hheader, hfits, hprotocol, hlater⟩
    obtain ⟨key, hkey⟩ := Option.isSome_iff_exists.mp
      ((@keyAt_isSome bytes .ipv4 _ (low (byteAt bytes 0) * 4)).mpr hprotocol)
    have hparse := (parseQuotedProbe_ipv4 (by omega) hversion).mpr ⟨hheader, hfits, hkey⟩
    exact (h key hparse).2 (.inl ⟨hversion, by omega, hlater⟩)
  · intro h key hparse
    have hlen : 1 ≤ bytes.length := by
      obtain ⟨_, hneed, -⟩ := except_bind_ok.mp hparse
      exact need_eq_ok.mp hneed
    by_cases hv4 : high (byteAt bytes 0) = 4
    · have hlen : 20 ≤ bytes.length := by
        unfold parseQuotedProbe at hparse
        rw [need_ok hlen, except_ok_bind, index_byteAt (by omega), except_ok_bind,
          if_pos hv4] at hparse
        obtain ⟨_, hneed, -⟩ := except_bind_ok.mp hparse
        exact need_eq_ok.mp hneed
      obtain ⟨hheader, hfits, hkey⟩ := (parseQuotedProbe_ipv4 hlen hv4).mp hparse
      have hprotocol := keyAt_isSome.mp (Option.isSome_iff_exists.mpr ⟨key, hkey⟩)
      have hfirst : fragmentOffset bytes = 0 := by
        by_contra hlater
        exact h ⟨hv4, hheader, hfits, hprotocol, hlater⟩
      refine ⟨⟨.ipv4, _, _, .ipv4 hv4 hheader (by omega) hfirst, hfits, hkey⟩, ?_⟩
      rintro (⟨-, -, hlater⟩ | ⟨hv6, -⟩)
      · exact hlater hfirst
      · omega
    · by_cases hv6 : high (byteAt bytes 0) = 6
      · obtain ⟨protocol, offset, htransport, hfits, hkey⟩ := parseQuotedProbe_ipv6 hlen hv6 hparse
        refine ⟨⟨.ipv6, protocol, offset, htransport, hfits, hkey⟩, ?_⟩
        rintro (⟨hversion, -⟩ | ⟨-, -, later, hreach, -, hlater⟩)
        · exact hv4 hversion
        · cases htransport with
          | ipv6 _ _ chain isTransport =>
            have hsame := walks_agree chain hreach (not_headerStep_transport isTransport offset)
              (not_headerStep_later hlater)
            cases hsame
            exact isTransport.2.1 rfl
      · unfold parseQuotedProbe at hparse
        rw [need_ok hlen, except_ok_bind, index_byteAt (by omega), except_ok_bind, if_neg hv4,
          if_neg hv6] at hparse
        cases hparse

/-- The second fragment of a datagram: what it carries is no UDP header. -/
def secondFragment : Bytes :=
  [0x45, 0, 0, 28, 0, 1, 0x00, 0x01, 64, 17, 0, 0, 10, 0, 0, 1, 10, 0, 0, 2] ++
    [0xc3, 0x50, 0x82, 0x9a, 1, 2, 3, 4]

/-- A key is read from it all the same. -/
theorem secondFragment_read :
    LaterFragment secondFragment ∧
      parseQuotedProbe secondFragment = .ok (ProbeKey.ports .ipv4 .udp 50000 33434) := by
  refine ⟨.inl ⟨by decide, by decide, by decide⟩, by decide⟩

end NetworkLantern.Packet
