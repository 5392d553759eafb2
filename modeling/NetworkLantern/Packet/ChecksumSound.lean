import NetworkLantern.Lib.OnesComplement
import NetworkLantern.Packet.Build

/-!
# Checksums verify

`internetChecksum` is the complement of the ones'-complement sum of the 16-bit words.
What the builders write therefore verifies to zero (`checksums_verify`).
-/

namespace NetworkLantern.Packet

open NetworkLantern Path

/-- The 16-bit words; an odd last byte is followed by a zero. -/
def words16 : Bytes → List Nat
  | a :: b :: rest => (a.toNat * 256 + b.toNat) :: words16 rest
  | [a] => [a.toNat * 256]
  | [] => []

theorem words16_le : ∀ (bytes : Bytes), ∀ w ∈ words16 bytes, w ≤ 65535
  | [], w, h => by cases h
  | [a], w, h => by
    have ha := a.toNat_lt
    rw [words16, List.mem_singleton] at h
    omega
  | a :: b :: rest, w, h => by
    have ha := a.toNat_lt
    have hb := b.toNat_lt
    rw [words16] at h
    rcases List.mem_cons.mp h with h | h
    · omega
    · exact words16_le rest w h

theorem words16_append : ∀ {before : Bytes}, before.length % 2 = 0 → ∀ after : Bytes,
    words16 (before ++ after) = words16 before ++ words16 after
  | [], _, _ => rfl
  | [a], h, _ => by simp at h
  | a :: b :: before, h, after => by
    have heven : before.length % 2 = 0 := by
      rw [List.length_cons, List.length_cons] at h
      omega
    rw [List.cons_append, List.cons_append, words16, words16_append heven after, words16,
      List.cons_append]

theorem words16_u16ToBe (n : UInt16) (rest : Bytes) :
    words16 (u16ToBe n ++ rest) = n.toNat :: words16 rest := by
  have hn := n.toNat_lt
  show ((UInt8.ofNat (n.toNat / 256)).toNat * 256 + (UInt8.ofNat n.toNat).toNat) :: _ = _
  rw [UInt8.toNat_ofNat', UInt8.toNat_ofNat']
  congr 1
  omega

/-! ## The checksum -/

theorem foldCarry_eq {n : Nat} (h : n ≤ 131070) :
    foldCarry n = if 65535 < n then n - 65535 else n := by
  rw [foldCarry]
  split
  · rw [foldCarry, if_neg (by omega)]
    omega
  · rfl

theorem foldCarry_add {a b : Nat} (ha : a ≤ 65535) (hb : b ≤ 65535) :
    foldCarry (a + b) = onesAdd a b := foldCarry_eq (by omega)

theorem onesSum_eq : ∀ (bytes : Bytes) {sum : Nat}, sum ≤ 65535 →
    onesSum sum bytes = (words16 bytes).foldl onesAdd sum
  | [], _, _ => by rw [onesSum]; rfl
  | [a], sum, h => by
    have ha := a.toNat_lt
    rw [onesSum, foldCarry_add h (by omega), words16]
    rfl
  | a :: b :: rest, sum, h => by
    have ha := a.toNat_lt
    have hb := b.toNat_lt
    have hword : a.toNat * 256 + b.toNat ≤ 65535 := by omega
    rw [onesSum, foldCarry_add h hword, onesSum_eq rest (onesAdd_le h hword), words16,
      List.foldl_cons]

theorem toNat_internetChecksum (bytes : Bytes) :
    (internetChecksum bytes).toNat = 65535 - onesComplementSum (words16 bytes) := by
  have hsum : onesSum 0 bytes = onesComplementSum (words16 bytes) := onesSum_eq bytes (Nat.zero_le _)
  unfold internetChecksum
  rw [hsum, UInt16.toNat_ofNat']
  omega

/-- The checksum is the complement of the sum. -/
theorem internetChecksum_eq (bytes : Bytes) :
    internetChecksum bytes = ~~~ UInt16.ofNat (onesComplementSum (words16 bytes)) := by
  have hle : onesComplementSum (words16 bytes) ≤ 65535 := by
    rw [onesComplementSum_eq (words16_le bytes)]
    exact wrapped_le _
  apply UInt16.toNat_inj.mp
  rw [toNat_internetChecksum, UInt16.toNat_not, UInt16.toNat_ofNat']
  have hsize : UInt16.size = 65536 := rfl
  omega

/-- Bytes with their checksum in place of a zero verify. -/
theorem internetChecksum_filled {before : Bytes} (heven : before.length % 2 = 0) (after : Bytes) :
    internetChecksum
      (before ++ (u16ToBe (internetChecksum (before ++ (u16ToBe 0 ++ after))) ++ after)) = 0 := by
  apply UInt16.toNat_inj.mp
  rw [toNat_internetChecksum, words16_append heven, words16_u16ToBe, toNat_internetChecksum,
    words16_append heven, words16_u16ToBe]
  have hfilled := onesComplementSum_filled (words16_le before) (words16_le after)
  show 65535 - onesComplementSum (words16 before ++
    (65535 - onesComplementSum (words16 before ++ 0 :: words16 after)) :: words16 after) = 0
  rw [hfilled]

/-! ## What the builders write -/

theorem icmpv4Echo_verifies (identifier sequence : UInt16) (payload : Bytes) :
    internetChecksum (buildIcmpv4Echo identifier sequence payload) = 0 :=
  @internetChecksum_filled [8, 0] rfl (u16ToBe identifier ++ u16ToBe sequence ++ payload)

/-- The pseudo-header of an IPv4 transport. -/
def pseudoIpv4 (source destination : Octets 4) (protocol : UInt8) (length : Nat) : Bytes :=
  source.val ++ destination.val ++ [0, protocol] ++ u16ToBe (UInt16.ofNat length)

theorem length_pseudoIpv4 (source destination : Octets 4) (protocol : UInt8) (length : Nat) :
    (pseudoIpv4 source destination protocol length).length = 12 := by
  have hs := source.property
  have hd := destination.property
  unfold pseudoIpv4
  simp only [List.length_append, List.length_cons, List.length_nil, length_u16ToBe]
  omega

/-- The pseudo-header of an IPv6 transport. -/
def pseudoIpv6 (source destination : Octets 16) (protocol : UInt8) (length : Nat) : Bytes :=
  source.val ++ destination.val ++ u32ToBe (UInt32.ofNat length) ++ [0, 0, 0, protocol]

theorem length_pseudoIpv6 (source destination : Octets 16) (protocol : UInt8) (length : Nat) :
    (pseudoIpv6 source destination protocol length).length = 40 := by
  have hs := source.property
  have hd := destination.property
  unfold pseudoIpv6
  simp only [List.length_append, List.length_cons, List.length_nil, length_u32ToBe]
  omega

/-- The checksum of a segment, in its place there, verifies with the pseudo-header, which
depends on the length alone. -/
theorem pseudoChecksum_filled {checksum : Bytes → UInt16} {pseudo : Nat → Bytes}
    (hsum : ∀ segment, checksum segment = internetChecksum (pseudo segment.length ++ segment))
    (hpseudo : ∀ n, (pseudo n).length % 2 = 0) {before : Bytes} (heven : before.length % 2 = 0)
    (after : Bytes) :
    checksum (before ++ (u16ToBe (checksum (before ++ (u16ToBe 0 ++ after))) ++ after)) = 0 := by
  have hlength : ∀ n : UInt16, (before ++ (u16ToBe n ++ after)).length =
      before.length + 2 + after.length := by
    intro n
    rw [List.length_append, List.length_append, length_u16ToBe, Nat.add_assoc]
  rw [hsum, hsum, hlength, hlength, ← List.append_assoc (pseudo _), ← List.append_assoc (pseudo _)]
  refine internetChecksum_filled ?_ after
  have heven' := hpseudo (before.length + 2 + after.length)
  rw [List.length_append]
  omega

theorem transportChecksumIpv6_filled (source destination : Octets 16) (protocol : UInt8)
    {before : Bytes} (heven : before.length % 2 = 0) (after : Bytes) :
    transportChecksumIpv6 source destination protocol (before ++ (u16ToBe
      (transportChecksumIpv6 source destination protocol (before ++ (u16ToBe 0 ++ after))) ++
        after)) = 0 :=
  pseudoChecksum_filled (fun _ => rfl)
    (fun n => congrArg (· % 2) (length_pseudoIpv6 source destination protocol n)) heven after

theorem transportChecksumIpv4_filled (source destination : Octets 4) (protocol : UInt8)
    {before : Bytes} (heven : before.length % 2 = 0) (after : Bytes) :
    transportChecksumIpv4 source destination protocol (before ++ (u16ToBe
      (transportChecksumIpv4 source destination protocol (before ++ (u16ToBe 0 ++ after))) ++
        after)) = 0 :=
  pseudoChecksum_filled (fun _ => rfl)
    (fun n => congrArg (· % 2) (length_pseudoIpv4 source destination protocol n)) heven after

theorem icmpv6Echo_verifies (source destination : Octets 16) (identifier sequence : UInt16)
    (payload : Bytes) :
    transportChecksumIpv6 source destination 58
      (buildIcmpv6Echo source destination identifier sequence payload) = 0 :=
  @transportChecksumIpv6_filled source destination 58 [128, 0] rfl
    (u16ToBe identifier ++ u16ToBe sequence ++ payload)

theorem tcpSynIpv4_verifies (source destination : Octets 4) (spec : TcpSynSpec) :
    transportChecksumIpv4 source destination 6 ((buildTcpSynIpv4 source destination spec).drop 20) = 0 ∧
      internetChecksum ((buildTcpSynIpv4 source destination spec).take 20) = 0 := by
  have hlen : ∀ ip, (synHeaderIpv4 source destination spec ip).bytes.length = 20 := fun ip =>
    (synHeaderIpv4 source destination spec ip).length_bytes
  have heven : (segmentHead spec).length % 2 = 0 := congrArg (· % 2) (length_segmentHead spec)
  have hbuild : buildTcpSynIpv4 source destination spec =
      (synHeaderIpv4 source destination spec
        (internetChecksum (synHeaderIpv4 source destination spec 0).bytes)).bytes ++
      segmentStart spec (synTail (transportChecksumIpv4 source destination 6
        (segmentStart spec (synTail 0)))) := by
    have hdrop : (synBufferIpv4 source destination spec).drop 20 = segmentStart spec (synTail 0) := by
      rw [synBufferIpv4_eq]
      exact List.drop_left' (hlen 0)
    have htake : ∀ tcp : UInt16, (put (synBufferIpv4 source destination spec) 36 (u16ToBe tcp)).take 20 =
        (synHeaderIpv4 source destination spec 0).bytes := by
      intro tcp
      rw [put_tcp_synBufferIpv4]
      exact List.take_left' (hlen 0)
    unfold buildTcpSynIpv4
    dsimp only
    rw [hdrop, htake, put_synBufferIpv4]
  rw [hbuild]
  constructor
  · rw [List.drop_left' (hlen _), segmentStart_synTail, segmentStart_synTail]
    exact transportChecksumIpv4_filled source destination 6 heven [0, 0]
  · rw [List.take_left' (hlen _), synHeaderIpv4_bytes, synHeaderIpv4_bytes]
    refine internetChecksum_filled ?_ _
    simp only [List.length_append, List.length_cons, List.length_nil, length_u16ToBe]

theorem tcpSynIpv6_verifies (source destination : Octets 16) (spec : TcpSynSpec) :
    transportChecksumIpv6 source destination 6
      ((buildTcpSynIpv6 source destination spec).drop 40) = 0 := by
  have hlen : (synHeaderIpv6 source destination spec).bytes.length = 40 :=
    (synHeaderIpv6 source destination spec).length_bytes
  have hdrop : (synBufferIpv6 source destination spec).drop 40 = segmentStart spec (synTail 0) := by
    rw [synBufferIpv6_eq]
    exact List.drop_left' hlen
  have heven : (segmentHead spec).length % 2 = 0 := congrArg (· % 2) (length_segmentHead spec)
  unfold buildTcpSynIpv6
  dsimp only
  rw [hdrop, put_synBufferIpv6, List.drop_left' hlen, segmentStart_synTail, segmentStart_synTail]
  exact transportChecksumIpv6_filled source destination 6 heven [0, 0]

/-- The checksum is the complement of the ones'-complement sum of the words, and every
packet of the builders verifies to zero: its transport with the pseudo-header, and the
IPv4 header by itself. -/
theorem checksums_verify :
    (∀ bytes, internetChecksum bytes = ~~~ UInt16.ofNat (onesComplementSum (words16 bytes))) ∧
    (∀ identifier sequence payload,
      internetChecksum (buildIcmpv4Echo identifier sequence payload) = 0) ∧
    (∀ source destination identifier sequence payload,
      transportChecksumIpv6 source destination 58
        (buildIcmpv6Echo source destination identifier sequence payload) = 0) ∧
    (∀ source destination spec,
      transportChecksumIpv4 source destination 6
        ((buildTcpSynIpv4 source destination spec).drop 20) = 0 ∧
      internetChecksum ((buildTcpSynIpv4 source destination spec).take 20) = 0) ∧
    ∀ source destination spec,
      transportChecksumIpv6 source destination 6
        ((buildTcpSynIpv6 source destination spec).drop 40) = 0 :=
  ⟨internetChecksum_eq, icmpv4Echo_verifies, icmpv6Echo_verifies, tcpSynIpv4_verifies,
    tcpSynIpv6_verifies⟩

end NetworkLantern.Packet
