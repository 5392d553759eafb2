import NetworkLantern.Packet.Parse

/-!
# No read out of range

`Meets` for each parser: whatever the bytes, it returns a value or an error.
-/

namespace NetworkLantern.Packet

open NetworkLantern Path Checked

theorem meets_need (bytes : Bytes) (needed : Nat) :
    Meets (fun _ => needed ≤ bytes.length) (need bytes needed) := by
  refine meets_ite (fun _ => meets_fail _) fun h => ?_
  rw [meets_ok]
  omega

theorem safe_beU16 {bytes : Bytes} (h : 2 ≤ bytes.length) : Safe (beU16 bytes) :=
  (meets_index (by omega)).bind fun _ _ => (meets_index (by omega)).bind fun _ _ => trivial

theorem safe_beU32 {bytes : Bytes} (h : 4 ≤ bytes.length) : Safe (beU32 bytes) :=
  (meets_index (by omega)).bind fun _ _ => (meets_index (by omega)).bind fun _ _ =>
    (meets_index (by omega)).bind fun _ _ => (meets_index (by omega)).bind fun _ _ => trivial

/-- A 16-bit field that lies within the bytes. -/
theorem Meets.field16 {α : Type} {P : α → Prop} {bytes : Bytes} {lo hi : Nat}
    (hlo : lo + 2 = hi) (hhi : hi ≤ bytes.length) {f : UInt16 → Parse α}
    (hf : ∀ n, Meets P (f n)) :
    Meets P (do let n ← beU16 (← slice bytes lo hi); f n) :=
  (meets_slice (by omega) hhi).bind fun b hb =>
    (safe_beU16 (by omega)).bind fun n _ => hf n

theorem Meets.field32 {α : Type} {P : α → Prop} {bytes : Bytes} {lo hi : Nat}
    (hlo : lo + 4 = hi) (hhi : hi ≤ bytes.length) {f : UInt32 → Parse α}
    (hf : ∀ n, Meets P (f n)) :
    Meets P (do let n ← beU32 (← slice bytes lo hi); f n) :=
  (meets_slice (by omega) hhi).bind fun b hb =>
    (safe_beU32 (by omega)).bind fun n _ => hf n

theorem safe_extension (bytes : Bytes) (next : UInt8) (offset : Nat) :
    Safe (extension bytes next offset) := by
  unfold extension
  refine meets_ite (fun _ => ?_) fun _ => meets_ite (fun _ => ?_) fun _ =>
    meets_ite (fun _ => ?_) fun _ => trivial
  · refine (meets_need bytes _).bind fun _ h => ?_
    exact (meets_index (by omega)).bind fun _ _ => (meets_index (by omega)).bind fun _ _ => trivial
  · refine (meets_need bytes _).bind fun _ h => Meets.field16 (by omega) (by omega) fun fragment => ?_
    refine meets_ite (fun _ => trivial) fun _ => ?_
    exact (meets_index (by omega)).bind fun _ _ => trivial
  · refine (meets_need bytes _).bind fun _ h => ?_
    exact (meets_index (by omega)).bind fun _ _ => (meets_index (by omega)).bind fun _ _ => trivial

/-- The walk stays within the packet. -/
theorem meets_walkExtensions {bytes : Bytes} {offset : Nat} (h : offset ≤ bytes.length)
    (next : UInt8) (turns : Nat) :
    Meets (fun r => r.2 ≤ bytes.length) (walkExtensions bytes next offset turns) := by
  induction turns generalizing next offset with
  | zero => trivial
  | succ turns ih =>
    refine (safe_extension bytes next offset).bind fun found _ => ?_
    match found with
    | none => exact h
    | some (length, following) =>
      refine meets_ite (fun _ => trivial) fun _ => ?_
      cases checkedAdd offset length with
      | none => trivial
      | some offset => exact (meets_need bytes offset).bind fun _ hle => ih hle following

theorem meets_ipv6Transport (bytes : Bytes) :
    Meets (fun r => r.2 ≤ bytes.length) (ipv6Transport bytes) := by
  refine (meets_need bytes 40).bind fun _ h => ?_
  exact (meets_index (by omega)).bind fun next _ => meets_walkExtensions h next 16

theorem safe_parseTransport (family : AddressFamily) (protocol : UInt8) (bytes : Bytes)
    (offset : Nat) : Safe (parseTransport family protocol bytes offset) := by
  refine (meets_need bytes (offset + 8)).bind fun _ h => ?_
  refine meets_ite (fun _ => ?_) fun _ => meets_ite (fun _ => ?_) fun _ =>
    meets_ite (fun _ => ?_) fun _ => trivial
  · exact Meets.field16 (by omega) (by omega) fun _ =>
      Meets.field16 (by omega) (by omega) fun _ => trivial
  · exact Meets.field16 (by omega) (by omega) fun _ =>
      Meets.field16 (by omega) (by omega) fun _ => trivial
  · exact Meets.field16 (by omega) (by omega) fun _ =>
      Meets.field16 (by omega) (by omega) fun _ =>
        Meets.field32 (by omega) (by omega) fun _ => trivial

theorem safe_parseQuotedProbe (bytes : Bytes) : Safe (parseQuotedProbe bytes) := by
  refine (meets_need bytes 1).bind fun _ h => (meets_index (by omega)).bind fun first _ => ?_
  refine meets_ite (fun _ => ?_) fun _ => meets_ite (fun _ => ?_) fun _ => trivial
  · refine (meets_need bytes 20).bind fun _ h => meets_ite (fun _ => trivial) fun _ => ?_
    exact (meets_index (by omega)).bind fun _ _ => safe_parseTransport _ _ _ _
  · refine (meets_need bytes 40).bind fun _ _ => (meets_ipv6Transport bytes).bind fun r _ => ?_
    exact safe_parseTransport _ _ _ _

/-! ## MPLS labels -/

theorem length_pushLabels (labels : List MplsLabel) (entries : List UInt32)
    (h : labels.length ≤ MAX_MPLS_LABELS_PER_RESPONSE) :
    (pushLabels labels entries).1.length ≤ MAX_MPLS_LABELS_PER_RESPONSE := by
  induction entries generalizing labels with
  | nil => exact h
  | cons word rest ih =>
    unfold pushLabels
    split
    · exact h
    · next hne =>
      apply ih
      rw [List.length_append, List.length_singleton]
      omega

/-- Each turn moves on by at least four bytes, so the turns are enough. -/
theorem meets_mplsObjects {bytes : Bytes} {labels : List MplsLabel} {offset : Nat} (turns : Nat)
    (hl : labels.length ≤ MAX_MPLS_LABELS_PER_RESPONSE) (ho : offset ≤ bytes.length)
    (ht : bytes.length < offset + turns) :
    Meets (fun ls => ls.length ≤ MAX_MPLS_LABELS_PER_RESPONSE)
      (mplsObjects bytes labels offset turns) := by
  induction turns generalizing labels offset with
  | zero => omega
  | succ turns ih =>
    unfold mplsObjects
    rw [sub_ok ho]
    refine meets_ite (fun hrem => ?_) fun _ => hl
    refine Meets.field16 (by omega) (by omega) fun length => ?_
    refine meets_ite (fun _ => trivial) fun hlen => ?_
    rw [not_or, not_lt, not_lt] at hlen
    refine (meets_index (by omega)).bind fun classNum _ => ?_
    refine (meets_index (by omega)).bind fun cType _ => ?_
    refine meets_ite (fun _ => ?_) fun _ => ih hl (by omega) (by omega)
    refine (meets_slice (by omega) (by omega)).bind fun entries _ => ?_
    have hpushed := length_pushLabels labels (words entries) hl
    generalize pushLabels labels (words entries) = pushed at hpushed
    match pushed with
    | (labels, true) => exact hpushed
    | (labels, false) => exact ih hpushed (by omega) (by omega)

theorem meets_parseMplsExtensions (bytes : Bytes) :
    Meets (fun ls => ls.length ≤ MAX_MPLS_LABELS_PER_RESPONSE) (parseMplsExtensions bytes) := by
  refine (meets_need bytes 4).bind fun _ h => ?_
  refine (meets_index (by omega)).bind fun first _ => ?_
  refine (meets_index (by omega)).bind fun second _ => ?_
  refine meets_ite (fun _ => trivial) fun _ => Meets.field16 (by omega) (by omega) fun checksum => ?_
  refine meets_ite (fun _ => trivial) fun _ => ?_
  exact meets_mplsObjects _ (Nat.zero_le _) h (by omega)

theorem meets_findMplsExtension (family : AddressFamily) (kind : IcmpKind) (icmp : Bytes) :
    Meets (fun ls => ls.length ≤ MAX_MPLS_LABELS_PER_RESPONSE)
      (findMplsExtension family kind icmp) := by
  refine meets_ite (fun _ => Nat.zero_le _) fun _ => ?_
  refine meets_ite (fun _ => Nat.zero_le _) fun _ => meets_ite (fun _ => Nat.zero_le _) fun _ => ?_
  refine (meets_parseMplsExtensions _).attempt.bind fun found hfound => ?_
  cases found with
  | none => exact Nat.zero_le _
  | some labels => exact hfound labels rfl

/-- Extensions that cannot be read are no labels. -/
theorem findMplsExtension_ok (family : AddressFamily) (kind : IcmpKind) (icmp : Bytes) :
    ∃ labels, findMplsExtension family kind icmp = .ok labels := by
  refine ite_ok (fun _ => ⟨_, rfl⟩) fun _ => ite_ok (fun _ => ⟨_, rfl⟩) fun _ =>
    ite_ok (fun _ => ⟨_, rfl⟩) fun _ => ?_
  obtain ⟨found, h⟩ := (meets_parseMplsExtensions _).safe.attempt_ok
  rw [h]
  exact ⟨_, rfl⟩

/-! ## Responses -/

theorem safe_ipv4Source {bytes : Bytes} (h : 16 ≤ bytes.length) : Safe (ipv4Source bytes) :=
  (meets_index (by omega)).bind fun _ _ => (meets_index (by omega)).bind fun _ _ =>
    (meets_index (by omega)).bind fun _ _ => (meets_index (by omega)).bind fun _ _ => trivial

theorem safe_ipv6Source {bytes : Bytes} (h : 24 ≤ bytes.length) : Safe (ipv6Source bytes) :=
  (meets_slice (by omega) h).bind fun _ hlen => (meets_exactly hlen).bind fun _ _ => trivial

theorem meets_parseTcpSegment (family : AddressFamily) (source : Option IpAddr) (segment : Bytes) :
    Meets (fun r => r.source = source) (parseTcpSegment family source segment) := by
  refine (meets_need segment 20).bind fun _ h => ?_
  refine Meets.field16 (by omega) (by omega) fun _ => Meets.field16 (by omega) (by omega) fun _ => ?_
  refine Meets.field32 (by omega) (by omega) fun _ => Meets.field32 (by omega) (by omega) fun _ => ?_
  exact (meets_index (by omega)).bind fun _ _ => rfl

/-- A response that looks like an IP packet gets a source from its bytes. -/
theorem meets_parseTcpResponse (bytes : Bytes) (expected : AddressFamily) :
    Meets (fun r => r.source = none → ∃ first, bytes[0]? = some first ∧ high first ≠ 4 ∧ high first ≠ 6)
      (parseTcpResponse bytes expected) := by
  refine (meets_need bytes 20).bind fun _ h => (meets_index (by omega)).bind fun first hfirst => ?_
  refine meets_ite (fun _ => ?_) fun h4 => meets_ite (fun _ => ?_) fun h6 => ?_
  · refine meets_ite (fun _ => trivial) fun _ => (meets_need bytes _).bind fun _ hlen => ?_
    refine (meets_index (by omega)).bind fun protocol _ => meets_ite (fun _ => trivial) fun _ => ?_
    refine (safe_ipv4Source (by omega)).bind fun source _ => ?_
    refine (meets_sliceFrom (by omega)).bind fun _ _ => (meets_parseTcpSegment _ _ _).mono ?_
    intro r hr hnone
    rw [hnone] at hr
    cases hr
  · refine (meets_need bytes 40).bind fun _ _ => (meets_ipv6Transport bytes).bind fun r _ => ?_
    refine meets_ite (fun _ => trivial) fun _ => (meets_need bytes _).bind fun _ hlen => ?_
    refine (safe_ipv6Source (by omega)).bind fun source _ => ?_
    refine (meets_sliceFrom (by omega)).bind fun _ _ => (meets_parseTcpSegment _ _ _).mono ?_
    intro r hr hnone
    rw [hnone] at hr
    cases hr
  · exact (meets_parseTcpSegment _ _ _).mono fun _ _ _ => ⟨first, hfirst, h4, h6⟩

/-- Bytes that begin like an IP packet are never taken as they are. -/
theorem meets_stripOuterIp (bytes : Bytes) (expected : AddressFamily) :
    Meets (fun r => r.2.1 = none →
        ∃ first, bytes[0]? = some first ∧ high first ≠ 4 ∧ high first ≠ 6)
      (stripOuterIp bytes expected) := by
  refine (meets_need bytes 1).bind fun _ h => (meets_index (by omega)).bind fun first hfirst => ?_
  refine meets_ite (fun _ => ?_) fun h4 => meets_ite (fun _ => ?_) fun h6 =>
    meets_ite (fun _ _ => ⟨first, hfirst, h4, h6⟩) fun _ => trivial
  · refine (meets_need bytes 20).bind fun _ h => meets_ite (fun _ => trivial) fun _ => ?_
    refine (meets_need bytes _).bind fun _ hlen => (meets_index (by omega)).bind fun protocol _ => ?_
    refine meets_ite (fun _ => trivial) fun _ => ?_
    refine (safe_ipv4Source (by omega)).bind fun source _ => ?_
    refine (meets_sliceFrom (by omega)).bind fun _ _ hnone => ?_
    cases hnone
  · refine (meets_need bytes 40).bind fun _ _ => (meets_ipv6Transport bytes).bind fun r _ => ?_
    refine meets_ite (fun _ => trivial) fun _ => (meets_need bytes _).bind fun _ hlen => ?_
    refine (safe_ipv6Source (by omega)).bind fun source _ => ?_
    refine (meets_sliceFrom (by omega)).bind fun _ _ hnone => ?_
    cases hnone

theorem meets_parseIcmpMessage (family : AddressFamily) (source : Option IpAddr) (icmp : Bytes) :
    Meets (fun r => r.mplsLabels.length ≤ MAX_MPLS_LABELS_PER_RESPONSE ∧ r.source = source)
      (parseIcmpMessage family source icmp) := by
  refine (meets_need icmp 8).bind fun _ h => ?_
  refine (meets_index (by omega)).bind fun type _ => (meets_index (by omega)).bind fun code _ => ?_
  have hechoed : Safe (echoed (icmpKind family type) icmp) := by
    refine meets_ite (fun _ => ?_) fun _ => trivial
    exact Meets.field16 (by omega) (by omega) fun _ =>
      Meets.field16 (by omega) (by omega) fun _ => trivial
  have hmtu : Safe (nextHopMtu family type code icmp) := by
    refine meets_ite (fun _ => ?_) fun _ => meets_ite (fun _ => ?_) fun _ => trivial
    · exact Meets.field16 (by omega) (by omega) fun _ => trivial
    · exact Meets.field32 (by omega) (by omega) fun _ => trivial
  have hquoted : Safe (quoted (icmpKind family type) icmp) := by
    refine meets_ite (fun _ => ?_) fun _ => trivial
    exact (meets_sliceFrom h).bind fun _ _ => (safe_parseQuotedProbe _).attempt.safe
  refine hechoed.bind fun pair _ => hmtu.bind fun mtu _ => hquoted.bind fun probe _ => ?_
  exact (meets_findMplsExtension family _ icmp).bind fun labels hlabels => ⟨hlabels, rfl⟩

theorem meets_parseIcmpResponse (bytes : Bytes) (expected : AddressFamily) :
    Meets (fun r => r.mplsLabels.length ≤ MAX_MPLS_LABELS_PER_RESPONSE ∧
        (r.source = none → ∃ first, bytes[0]? = some first ∧ high first ≠ 4 ∧ high first ≠ 6))
      (parseIcmpResponse bytes expected) := by
  refine (meets_stripOuterIp bytes expected).bind fun stripped hbare => ?_
  refine (meets_parseIcmpMessage _ _ _).mono ?_
  rintro r ⟨hlabels, hsource⟩
  exact ⟨hlabels, fun hnone => hbare (hsource.symm.trans hnone)⟩

/-- On any bytes every parser returns a value or an error; a transport offset
lies within the packet, and no response keeps more than 64 labels. -/
theorem parsers_safe (bytes : Bytes) (expected : AddressFamily) :
    Meets (fun r => r.mplsLabels.length ≤ 64) (parseIcmpResponse bytes expected) ∧
    Safe (parseTcpResponse bytes expected) ∧
    Safe (parseQuotedProbe bytes) ∧
    Meets (fun r => r.2 ≤ bytes.length) (ipv6Transport bytes) ∧
    Meets (fun labels => labels.length ≤ 64) (parseMplsExtensions bytes) :=
  ⟨(meets_parseIcmpResponse bytes expected).mono fun _ => And.left, (meets_parseTcpResponse bytes expected).safe,
    safe_parseQuotedProbe bytes, meets_ipv6Transport bytes, meets_parseMplsExtensions bytes⟩

end NetworkLantern.Packet
