import NetworkLantern.Path.Settings

/-!
# Probe identities

Every probe of a run has an ordinal, made of its cycle and its TTL.  ICMP probes
carry parts of it in their two 16-bit fields; UDP probes add it to the base port.
-/

namespace NetworkLantern.Path

open NetworkLantern

structure ProbeIdentity where
  nonce : UInt32
  ordinal : UInt32
deriving DecidableEq

namespace TraceSettings

/-- A probe that a run may send. -/
structure Planned (s : TraceSettings) (cycle : UInt16) (ttl : UInt8) : Prop where
  cycle_lt : cycle.toNat < s.cycles.toNat
  first_le : s.firstTtl.toNat ≤ ttl.toNat
  le_max : ttl.toNat ≤ s.maxHops.toNat

/-- The identity in `trace_probe`. -/
def identity (s : TraceSettings) (nonce : UInt32) (cycle : UInt16) (ttl : UInt8) : ProbeIdentity where
  nonce
  ordinal := cycle.toUInt32 * (s.maxHops.toUInt32 + 1) + ttl.toUInt32

/-- Hops and the zero below them. -/
def span (s : TraceSettings) : Nat := s.maxHops.toNat + 1

variable {s : TraceSettings}

/-- The ordinal is computed without wrapping around. -/
theorem toNat_ordinal (hs : s.Valid) {cycle : UInt16} {ttl : UInt8} (hp : s.Planned cycle ttl)
    (nonce : UInt32) :
    (s.identity nonce cycle ttl).ordinal.toNat = cycle.toNat * s.span + ttl.toNat := by
  have hc := hp.cycle_lt
  have hcycles := hs.cycles_le
  have hm := s.maxHops.toNat_lt
  have ht := ttl.toNat_lt
  have hmul : cycle.toNat * (s.maxHops.toNat + 1) ≤ 9999 * 256 :=
    Nat.mul_le_mul (by omega) (by omega)
  show (cycle.toUInt32 * (s.maxHops.toUInt32 + 1) + ttl.toUInt32).toNat = _
  unfold span
  rw [UInt32.toNat_add, UInt32.toNat_mul, UInt32.toNat_add, UInt16.toNat_toUInt32,
    UInt8.toNat_toUInt32, UInt8.toNat_toUInt32, UInt32.toNat_one,
    Nat.mod_eq_of_lt (by omega : s.maxHops.toNat + 1 < 2 ^ 32)]
  rw [Nat.mod_eq_of_lt (by omega : cycle.toNat * (s.maxHops.toNat + 1) < 2 ^ 32)]
  exact Nat.mod_eq_of_lt (by omega)

/-- A number below the span is the remainder. -/
theorem cycle_ttl_unique {span c t c' t' : Nat} (ht : t < span) (ht' : t' < span)
    (h : c * span + t = c' * span + t') : c = c' ∧ t = t' := by
  have hdiv := congrArg (· / span) h
  have hmod := congrArg (· % span) h
  have hpos : 0 < span := by omega
  simp only [Nat.mul_comm _ span, Nat.mul_add_div hpos, Nat.div_eq_of_lt ht, Nat.div_eq_of_lt ht',
    Nat.mul_add_mod, Nat.mod_eq_of_lt ht, Nat.mod_eq_of_lt ht', Nat.add_zero] at hdiv hmod
  exact ⟨hdiv, hmod⟩

/-- Probes with one ordinal are one probe. -/
theorem planned_unique {cycle cycle' : UInt16} {ttl ttl' : UInt8} (hp : s.Planned cycle ttl)
    (hp' : s.Planned cycle' ttl')
    (h : cycle.toNat * s.span + ttl.toNat = cycle'.toNat * s.span + ttl'.toNat) :
    cycle = cycle' ∧ ttl = ttl' := by
  have hle := hp.le_max
  have hle' := hp'.le_max
  obtain ⟨hc, ht⟩ := cycle_ttl_unique (by unfold span; omega) (by unfold span; omega) h
  exact ⟨UInt16.toNat_inj.mp hc, UInt8.toNat_inj.mp ht⟩

end TraceSettings

/-! ## ICMP -/

/-- `x.rotate_left(n)`. -/
def rotateLeft (x : UInt32) (n : Nat) : UInt32 :=
  UInt32.ofNat (x.toNat * 2 ^ n + x.toNat / 2 ^ (32 - n))

/-- The identifier and the sequence number in `trace_probe_scoped`. -/
def ProbeIdentity.icmp (i : ProbeIdentity) : UInt16 × UInt16 :=
  ((i.nonce ^^^ rotateLeft i.ordinal 13).toUInt16, i.ordinal.toUInt16)

theorem xor_right_inj {a b c : UInt16} : a ^^^ b = a ^^^ c ↔ b = c := by
  constructor
  · intro h
    have hxor := congrArg (a ^^^ ·) h
    simpa only [← UInt16.xor_assoc, UInt16.xor_self, UInt16.zero_xor] using hxor
  · intro h
    rw [h]

theorem toNat_rotateLeft (x : UInt32) :
    (rotateLeft x 13).toUInt16.toNat = x.toNat % 8 * 8192 + x.toNat / 524288 := by
  have hx := x.toNat_lt
  unfold rotateLeft
  rw [UInt32.toNat_toUInt16, UInt32.toNat_ofNat']
  omega

/-- The two fields keep the low 16 bits and those from the 19th on: bits 16 to
18 of the ordinal are in neither. -/
theorem icmp_eq_iff (nonce x y : UInt32) :
    ProbeIdentity.icmp ⟨nonce, x⟩ = ProbeIdentity.icmp ⟨nonce, y⟩ ↔
      x.toNat % 65536 = y.toNat % 65536 ∧ x.toNat / 524288 = y.toNat / 524288 := by
  have hx := x.toNat_lt
  have hy := y.toNat_lt
  dsimp only [ProbeIdentity.icmp]
  rw [Prod.mk.injEq, UInt32.toUInt16_xor, UInt32.toUInt16_xor, xor_right_inj, ← UInt16.toNat_inj,
    ← UInt16.toNat_inj, UInt32.toNat_toUInt16 x, UInt32.toNat_toUInt16 y, toNat_rotateLeft,
    toNat_rotateLeft]
  omega

namespace TraceSettings

variable {s : TraceSettings}

/-- No planned ordinal lies `65536 * k` above that of a first-cycle probe, where
only the lost bits differ. -/
def IcmpFits (s : TraceSettings) : Prop :=
  ∀ k ∈ [1, 2, 3, 4, 5, 6, 7],
    (65536 * k % s.span + s.firstTtl.toNat ≤ s.maxHops.toNat →
      s.cycles.toNat ≤ 65536 * k / s.span) ∧
    (s.firstTtl.toNat < 65536 * k % s.span → s.cycles.toNat ≤ 65536 * k / s.span + 1)

instance (s : TraceSettings) : Decidable s.IcmpFits :=
  inferInstanceAs (Decidable (∀ k ∈ _, _ ∧ _))

/-- Different planned probes have different identifiers or sequence numbers. -/
def IcmpInjective (s : TraceSettings) (nonce : UInt32) : Prop :=
  ∀ cycle ttl cycle' ttl', s.Planned cycle ttl → s.Planned cycle' ttl' →
    (s.identity nonce cycle ttl).icmp = (s.identity nonce cycle' ttl').icmp →
    cycle = cycle' ∧ ttl = ttl'

/-- The probes of a later cycle against those of the first: what a multiple of
65536 leaves when it is divided by the span. -/
theorem shifted {span k d t t' : Nat} (ht : t < span) (ht' : t' < span)
    (h : d * span + t' = 65536 * k + t) :
    (d = 65536 * k / span ∧ t' = 65536 * k % span + t) ∨
      (d = 65536 * k / span + 1 ∧ t' + span = 65536 * k % span + t) := by
  have hdiv := Nat.div_add_mod (65536 * k) span
  have hr := Nat.mod_lt (65536 * k) (by omega : 0 < span)
  rw [Nat.mul_comm] at hdiv
  by_cases hfit : 65536 * k % span + t < span
  · exact .inl (cycle_ttl_unique ht' hfit (by omega))
  · have hnext : (65536 * k / span + 1) * span = 65536 * k / span * span + span :=
      Nat.succ_mul _ _
    obtain ⟨hd, htt⟩ := cycle_ttl_unique ht'
      (by omega : 65536 * k % span + t - span < span) (by omega :
        d * span + t' = (65536 * k / span + 1) * span + (65536 * k % span + t - span))
    exact .inr ⟨hd, by omega⟩

/-- No two planned probes have one identity, the first of them the smaller ordinal. -/
theorem fits_excludes (hfits : s.IcmpFits) {c t c' t' : Nat} (ht : s.firstTtl.toNat ≤ t)
    (ht' : s.firstTtl.toNat ≤ t') (hm : t < s.span) (hm' : t' < s.span) (hc' : c' < s.cycles.toNat)
    (hlt : c * s.span + t < c' * s.span + t')
    (hmod : (c * s.span + t) % 65536 = (c' * s.span + t') % 65536)
    (hdiv : (c * s.span + t) / 524288 = (c' * s.span + t') / 524288) : False := by
  have hle : c ≤ c' := by
    by_contra hgt
    have hmul : (c' + 1) * s.span ≤ c * s.span := Nat.mul_le_mul_right _ (by omega)
    rw [Nat.succ_mul] at hmul
    omega
  obtain ⟨d, rfl⟩ := Nat.exists_eq_add_of_le hle
  rw [Nat.add_mul] at hlt hmod hdiv
  obtain ⟨k, hk⟩ : ∃ k, d * s.span + t' = 65536 * k + t :=
    ⟨(c * s.span + d * s.span + t') / 65536 - (c * s.span + t) / 65536, by omega⟩
  have hmem : k ∈ [1, 2, 3, 4, 5, 6, 7] := by
    have hpos : 1 ≤ k ∧ k ≤ 7 := by omega
    simp only [List.mem_cons, List.not_mem_nil, or_false]
    omega
  obtain ⟨hsame, hnext⟩ := hfits k hmem
  have hspan : s.span = s.maxHops.toNat + 1 := rfl
  rcases shifted hm hm' hk with ⟨hd, htt⟩ | ⟨hd, htt⟩
  · have hcycles := hsame (by omega)
    omega
  · have hcycles := hnext (by omega)
    omega

/-- A collision with the first cycle: the ordinals differ in the lost bits only. -/
theorem collides {k c t t' : Nat} (hk : k ∈ [1, 2, 3, 4, 5, 6, 7]) (ht : t < 256)
    (h : c * s.span + t' = 65536 * k + t) :
    (0 * s.span + t) % 65536 = (c * s.span + t') % 65536 ∧
      (0 * s.span + t) / 524288 = (c * s.span + t') / 524288 := by
  have hbounds : 1 ≤ k ∧ k ≤ 7 := by
    simp only [List.mem_cons, List.not_mem_nil, or_false] at hk
    omega
  omega

/-- A probe of the first cycle and a later one with the same identity. -/
theorem not_injective (hs : s.Valid) {nonce : UInt32} {k c t t' : Nat}
    (hk : k ∈ [1, 2, 3, 4, 5, 6, 7]) (hc : c < s.cycles.toNat)
    (ht : s.firstTtl.toNat ≤ t) (hm : t ≤ s.maxHops.toNat) (ht' : s.firstTtl.toNat ≤ t')
    (hm' : t' ≤ s.maxHops.toNat) (h : c * s.span + t' = 65536 * k + t) :
    ¬ s.IcmpInjective nonce := by
  have hcycles := hs.cycles_le
  have hcpos := hs.cycles_pos
  have hmax := s.maxHops.toNat_lt
  have hzero : (0 : UInt16).toNat = 0 := rfl
  have hcn : (UInt16.ofNat c).toNat = c := UInt16.toNat_ofNat_of_lt (by omega : c < 65536)
  have htn : (UInt8.ofNat t).toNat = t := UInt8.toNat_ofNat_of_lt (by omega : t < 256)
  have htn' : (UInt8.ofNat t').toNat = t' := UInt8.toNat_ofNat_of_lt (by omega : t' < 256)
  have hfirst : s.Planned 0 (UInt8.ofNat t) := ⟨by omega, by omega, by omega⟩
  have hlater : s.Planned (UInt16.ofNat c) (UInt8.ofNat t') := ⟨by omega, by omega, by omega⟩
  have hicmp : (s.identity nonce 0 (UInt8.ofNat t)).icmp =
      (s.identity nonce (UInt16.ofNat c) (UInt8.ofNat t')).icmp := by
    refine (icmp_eq_iff nonce (s.identity nonce 0 (UInt8.ofNat t)).ordinal
      (s.identity nonce (UInt16.ofNat c) (UInt8.ofNat t')).ordinal).mpr ?_
    rw [toNat_ordinal hs hfirst nonce, toNat_ordinal hs hlater nonce, hcn, htn, htn']
    exact collides hk (by omega) h
  intro hinj
  have hsame := hinj _ _ _ _ hfirst hlater hicmp
  have hbounds : 1 ≤ k := by
    simp only [List.mem_cons, List.not_mem_nil, or_false] at hk
    omega
  have hc0 : c = 0 := by rw [← hcn, ← hsame.1]; rfl
  rw [hc0] at h
  omega

/-- The identities are injective exactly when the lost bits do not matter. -/
theorem icmpInjective_iff_fits (hs : s.Valid) (nonce : UInt32) :
    s.IcmpInjective nonce ↔ s.IcmpFits := by
  have hfirst := hs.first_le_max
  have hspan : s.span = s.maxHops.toNat + 1 := rfl
  constructor
  · intro hinj k hk
    have hdiv := Nat.div_add_mod (65536 * k) s.span
    have hr := Nat.mod_lt (65536 * k) (by omega : 0 < s.span)
    rw [Nat.mul_comm] at hdiv
    constructor
    · intro hfit
      by_contra hcycles
      exact not_injective hs hk (Nat.not_le.mp hcycles) (le_refl _) hfirst (Nat.le_add_left _ _)
        hfit (by omega) hinj
    · intro hfit
      by_contra hcycles
      have hnext : (65536 * k / s.span + 1) * s.span = 65536 * k / s.span * s.span + s.span :=
        Nat.succ_mul _ _
      exact not_injective hs hk (Nat.not_le.mp hcycles) hfirst (le_refl _)
        (by omega : s.firstTtl.toNat ≤ 65536 * k % s.span - 1) (by omega) (by omega) hinj
  · intro hfits cycle ttl cycle' ttl' hp hp' h
    have hm := hp.le_max
    have hm' := hp'.le_max
    obtain ⟨hmod, hdiv⟩ := (icmp_eq_iff nonce (s.identity nonce cycle ttl).ordinal
      (s.identity nonce cycle' ttl').ordinal).mp h
    rw [toNat_ordinal hs hp nonce, toNat_ordinal hs hp' nonce] at hmod hdiv
    rcases Nat.lt_trichotomy (cycle.toNat * s.span + ttl.toNat)
      (cycle'.toNat * s.span + ttl'.toNat) with hlt | heq | hlt
    · exact (fits_excludes hfits hp.first_le hp'.first_le (by omega) (by omega) hp'.cycle_lt hlt
        hmod hdiv).elim
    · exact planned_unique hp hp' heq
    · exact (fits_excludes hfits hp'.first_le hp.first_le (by omega) (by omega) hp.cycle_lt hlt
        hmod.symm hdiv.symm).elim

/-- So it is when all ordinals fit into 16 bits. -/
theorem icmpFits_of_le (h : s.cycles.toNat * s.span ≤ 65536) : s.IcmpFits := by
  intro k hk
  have hbounds : 1 ≤ k := by
    simp only [List.mem_cons, List.not_mem_nil, or_false] at hk
    omega
  have hcycles : s.cycles.toNat ≤ 65536 * k / s.span :=
    (Nat.le_div_iff_mul_le (show 0 < s.span from Nat.succ_pos _)).mpr (by omega)
  exact ⟨fun _ => hcycles, fun _ => Nat.le_succ_of_le hcycles⟩

/-- For every accepted settings value and every nonce. -/
theorem icmpInjective_iff (h : s.validate = .ok ()) (nonce : UInt32) :
    s.IcmpInjective nonce ↔ s.IcmpFits := icmpInjective_iff_fits (validate_eq_ok.mp h) nonce

theorem icmpInjective_default : default.IcmpInjective 0 :=
  (icmpInjective_iff (by decide) 0).mpr (icmpFits_of_le (by decide))

/-- 300 cycles of 255 hops. -/
def wide : TraceSettings := { default with maxHops := 255 }

/-- The first probes of cycles 0 and 256 are the same to a reply. -/
theorem wide_collides :
    wide.validate = .ok () ∧ wide.Planned 0 1 ∧ wide.Planned 256 1 ∧
      (wide.identity 0 0 1).icmp = (wide.identity 0 256 1).icmp :=
  ⟨by decide, ⟨by decide, by decide, by decide⟩, ⟨by decide, by decide, by decide⟩, by decide⟩

end TraceSettings

/-! ## UDP -/

/-- `u16::checked_add`. -/
def checkedAddU16 (a b : UInt16) : Option UInt16 :=
  if a.toNat + b.toNat < 65536 then some (a + b) else none

/-- The sockets of `udp_trace_scoped`: how they open, whether the run is
cancelled before a TTL, what precedes its port, and the probe itself, whose
result says whether it ends the loop. -/
structure UdpSockets (Hop : Type) where
  bind : Except ProbeError Unit
  cancelled : UInt8 → Bool
  prepare : UInt8 → Except ProbeError Unit
  probe : UInt8 → UInt16 → Except ProbeError (Hop × Bool)

section

variable {Hop : Type}

/-- The turns of the loop over TTLs. -/
def udpTraceLoop (sockets : UdpSockets Hop) (basePort : UInt16) (hops : List Hop) :
    List UInt8 → Except ProbeError (List Hop)
  | [] => .ok hops
  | ttl :: ttls =>
    if sockets.cancelled ttl then
      if hops.isEmpty then .error .cancelled else .ok hops
    else do
      sockets.prepare ttl
      match checkedAddU16 basePort ttl.toUInt16 with
      | none => .error (.invalidPlan "UDP destination port range overflows")
      | some port => do
        let (hop, last) ← sockets.probe ttl port
        if last then return hops ++ [hop] else udpTraceLoop sockets basePort (hops ++ [hop]) ttls

/-- `first..=last`. -/
def ttlRange (first last : UInt8) : List UInt8 :=
  (List.range' first.toNat (last.toNat + 1 - first.toNat)).map UInt8.ofNat

def udpTraceScoped (sockets : UdpSockets Hop) (firstTtl maxHops : UInt8) (basePort : UInt16) :
    Except ProbeError (List Hop) := do
  refuse (firstTtl == 0 || decide (maxHops < firstTtl))
    (.invalidPlan "first TTL must be between 1 and max hops")
  sockets.bind
  udpTraceLoop sockets basePort [] (ttlRange firstTtl maxHops)

/-- The destination port of a probe, before it is cut to 16 bits. -/
def udpDestinationPort (basePort : UInt16) (identity : ProbeIdentity) : UInt32 :=
  let available := (65535 - basePort).toUInt32 + 1
  basePort.toUInt32 + identity.ordinal % available

def adjustedBase (basePort : UInt16) (ttl : UInt8) (identity : ProbeIdentity) : UInt16 :=
  (udpDestinationPort basePort identity - ttl.toUInt32).toUInt16

def udpTraceProbeScoped (sockets : UdpSockets Hop) (ttl : UInt8) (basePort : UInt16)
    (identity : ProbeIdentity) : Except ProbeError Hop :=
  if udpDestinationPort basePort identity ≤ ttl.toUInt32 then
    .error (.invalidPlan "UDP base port cannot encode the probe identity")
  else do
    let hops ← udpTraceScoped sockets ttl ttl (adjustedBase basePort ttl identity)
    match hops.getLast? with
    | some hop => .ok hop
    | none => .error (.io "UDP trace probe" "probe produced no hop result")

/-- One probe at a known port. -/
def UdpSockets.probeAt (sockets : UdpSockets Hop) (ttl : UInt8) (port : UInt16) :
    Except ProbeError Hop := do
  sockets.bind
  refuse (sockets.cancelled ttl) .cancelled
  sockets.prepare ttl
  let (hop, _) ← sockets.probe ttl port
  return hop

theorem ttlRange_self (ttl : UInt8) : ttlRange ttl ttl = [ttl] := by
  unfold ttlRange
  rw [Nat.add_sub_cancel_left]
  show [UInt8.ofNat ttl.toNat] = [ttl]
  rw [UInt8.ofNat_toNat]

/-- One TTL whose port can be added up is one probe at that port. -/
theorem udpTraceScoped_self (sockets : UdpSockets Hop) {ttl : UInt8} {basePort port : UInt16}
    (ht : ttl ≠ 0) (hport : checkedAddU16 basePort ttl.toUInt16 = some port) :
    udpTraceScoped sockets ttl ttl basePort =
      sockets.probeAt ttl port >>= fun hop => .ok [hop] := by
  have hchecks : (ttl == 0 || decide (ttl < ttl)) = false := by
    rw [Bool.or_eq_false_iff, beq_eq_false_iff_ne, decide_eq_false_iff_not]
    exact ⟨ht, UInt8.lt_irrefl ttl⟩
  unfold udpTraceScoped UdpSockets.probeAt
  rw [hchecks, refuse_false, except_ok_bind, ttlRange_self]
  cases sockets.bind with
  | error e => rfl
  | ok =>
    rw [except_ok_bind, except_ok_bind, udpTraceLoop]
    cases sockets.cancelled ttl with
    | true => rfl
    | false =>
      rw [if_neg Bool.false_ne_true, refuse_false, except_ok_bind]
      cases sockets.prepare ttl with
      | error e => rfl
      | ok =>
        rw [except_ok_bind, except_ok_bind, hport]
        show (sockets.probe ttl port >>= _) = _
        cases sockets.probe ttl port with
        | error e => rfl
        | ok r =>
          obtain ⟨hop, last⟩ := r
          cases last
          · rfl
          · rfl

end

namespace TraceSettings

variable {s : TraceSettings} {cycle : UInt16} {ttl : UInt8}

/-- The number of a planned probe. -/
def number (s : TraceSettings) (cycle : UInt16) (ttl : UInt8) : Nat :=
  cycle.toNat * s.span + ttl.toNat

theorem number_le_last (hp : s.Planned cycle ttl) :
    s.number cycle ttl ≤ s.lastOrdinal := by
  have hc := hp.cycle_lt
  have ht := hp.le_max
  have hmul : cycle.toNat * s.span ≤ (s.cycles.toNat - 1) * s.span :=
    Nat.mul_le_mul_right _ (by omega)
  show cycle.toNat * s.span + ttl.toNat ≤ (s.cycles.toNat - 1) * s.span + s.maxHops.toNat
  omega

/-- A planned probe has a port of its own above the base. -/
theorem base_add_number_le (hfit : s.PortsFit) (hp : s.Planned cycle ttl) :
    s.udpBasePort.toNat + s.number cycle ttl ≤ 65535 := by
  have hlast := number_le_last hp
  have hbase := s.udpBasePort.toNat_lt
  unfold PortsFit availablePorts at hfit
  omega

theorem toNat_udpDestinationPort (hs : s.Valid) (hfit : s.PortsFit) (hp : s.Planned cycle ttl)
    (nonce : UInt32) :
    (udpDestinationPort s.udpBasePort (s.identity nonce cycle ttl)).toNat =
      s.udpBasePort.toNat + s.number cycle ttl := by
  have hle := base_add_number_le hfit hp
  have hbase := s.udpBasePort.toNat_lt
  have hmax : (65535 : UInt16).toNat = 65535 := rfl
  have hordinal : (s.identity nonce cycle ttl).ordinal.toNat = s.number cycle ttl :=
    toNat_ordinal hs hp nonce
  have havailable : ((65535 - s.udpBasePort).toUInt32 + 1).toNat = 65535 - s.udpBasePort.toNat + 1 := by
    rw [UInt32.toNat_add, UInt16.toNat_toUInt32, UInt16.toNat_sub, UInt32.toNat_one, hmax]
    omega
  unfold udpDestinationPort
  dsimp only
  rw [UInt32.toNat_add, UInt32.toNat_mod, havailable, hordinal, UInt16.toNat_toUInt32,
    Nat.mod_eq_of_lt (by omega : s.number cycle ttl < 65535 - s.udpBasePort.toNat + 1)]
  exact Nat.mod_eq_of_lt (by omega)

/-- What is sent to: the destination port in 16 bits. -/
def udpPort (s : TraceSettings) (nonce : UInt32) (cycle : UInt16) (ttl : UInt8) : UInt16 :=
  (udpDestinationPort s.udpBasePort (s.identity nonce cycle ttl)).toUInt16

theorem toNat_udpPort (hs : s.Valid) (hfit : s.PortsFit) (hp : s.Planned cycle ttl)
    (nonce : UInt32) :
    (s.udpPort nonce cycle ttl).toNat = s.udpBasePort.toNat + s.number cycle ttl := by
  have hle := base_add_number_le hfit hp
  unfold udpPort
  rw [UInt32.toNat_toUInt16, toNat_udpDestinationPort hs hfit hp]
  exact Nat.mod_eq_of_lt (by omega)

/-- The adjusted base and the TTL add up to the port. -/
theorem checkedAddU16_adjustedBase (hs : s.Valid) (hfit : s.PortsFit) (hp : s.Planned cycle ttl)
    (nonce : UInt32) :
    checkedAddU16 (adjustedBase s.udpBasePort ttl (s.identity nonce cycle ttl)) ttl.toUInt16 =
      some (s.udpPort nonce cycle ttl) := by
  have hle := base_add_number_le hfit hp
  have hport := toNat_udpDestinationPort hs hfit hp nonce
  have hnumber : ttl.toNat ≤ s.number cycle ttl := Nat.le_add_left _ _
  have ht := ttl.toNat_lt
  have hbase : (adjustedBase s.udpBasePort ttl (s.identity nonce cycle ttl)).toNat =
      s.udpBasePort.toNat + s.number cycle ttl - ttl.toNat := by
    unfold adjustedBase
    rw [UInt32.toNat_toUInt16, UInt32.toNat_sub, hport, UInt8.toNat_toUInt32]
    omega
  have hadd : (adjustedBase s.udpBasePort ttl (s.identity nonce cycle ttl) + ttl.toUInt16).toNat =
      s.udpBasePort.toNat + s.number cycle ttl := by
    rw [UInt16.toNat_add, hbase, UInt8.toNat_toUInt16]
    omega
  unfold checkedAddU16
  rw [hbase, UInt8.toNat_toUInt16, if_pos (by omega)]
  exact congrArg some (UInt16.toNat_inj.mp (hadd.trans (toNat_udpPort hs hfit hp nonce).symm))

/-- A planned probe is one probe at its port: neither check of the port fails. -/
theorem udpTraceProbeScoped_planned (hs : s.Valid) (hfit : s.PortsFit) (hp : s.Planned cycle ttl)
    (nonce : UInt32) {Hop : Type} (sockets : UdpSockets Hop) :
    udpTraceProbeScoped sockets ttl s.udpBasePort (s.identity nonce cycle ttl) =
      sockets.probeAt ttl (s.udpPort nonce cycle ttl) := by
  have hport := toNat_udpDestinationPort hs hfit hp nonce
  have hpos := hs.udpBasePort_pos
  have hfirst := hs.firstTtl_pos
  have hle := hp.first_le
  have hnumber : ttl.toNat ≤ s.number cycle ttl := Nat.le_add_left _ _
  have hzero : ttl ≠ 0 := by
    intro h
    rw [h] at hle
    exact absurd hle (Nat.not_le.mpr hfirst)
  have hsend : ¬ udpDestinationPort s.udpBasePort (s.identity nonce cycle ttl) ≤ ttl.toUInt32 := by
    rw [UInt32.le_iff_toNat_le, hport, UInt8.toNat_toUInt32]
    omega
  unfold udpTraceProbeScoped
  rw [if_neg hsend,
    udpTraceScoped_self sockets hzero (checkedAddU16_adjustedBase hs hfit hp nonce)]
  cases sockets.probeAt ttl (s.udpPort nonce cycle ttl) with
  | error e => rfl
  | ok hop => rfl

/-- For settings accepted for UDP: the ordinal and the port do not wrap around,
both computations of the port agree, and no two planned probes share a port. -/
theorem udp_identity {probeType : TraceType} (h : s.validateForType probeType = .ok ())
    (hudp : probeType.IsUdp) (nonce : UInt32) :
    (∀ cycle ttl, s.Planned cycle ttl →
      (s.identity nonce cycle ttl).ordinal.toNat =
        cycle.toNat * (s.maxHops.toNat + 1) + ttl.toNat ∧
      (s.udpPort nonce cycle ttl).toNat =
        s.udpBasePort.toNat + (s.identity nonce cycle ttl).ordinal.toNat ∧
      checkedAddU16 (adjustedBase s.udpBasePort ttl (s.identity nonce cycle ttl)) ttl.toUInt16 =
        some (s.udpPort nonce cycle ttl) ∧
      ∀ {Hop : Type} (sockets : UdpSockets Hop),
        udpTraceProbeScoped sockets ttl s.udpBasePort (s.identity nonce cycle ttl) =
          sockets.probeAt ttl (s.udpPort nonce cycle ttl)) ∧
    ∀ cycle ttl cycle' ttl', s.Planned cycle ttl → s.Planned cycle' ttl' →
      s.udpPort nonce cycle ttl = s.udpPort nonce cycle' ttl' → cycle = cycle' ∧ ttl = ttl' := by
  obtain ⟨hs, hfit⟩ := validateForType_eq_ok.mp h
  have hfit := hfit hudp
  constructor
  · intro cycle ttl hp
    refine ⟨toNat_ordinal hs hp nonce, ?_, checkedAddU16_adjustedBase hs hfit hp nonce,
      udpTraceProbeScoped_planned hs hfit hp nonce⟩
    rw [toNat_udpPort hs hfit hp, toNat_ordinal hs hp]
    rfl
  · intro cycle ttl cycle' ttl' hp hp' heq
    have hnumbers := congrArg UInt16.toNat heq
    rw [toNat_udpPort hs hfit hp, toNat_udpPort hs hfit hp'] at hnumbers
    exact planned_unique hp hp' (Nat.add_left_cancel hnumbers)

/-- The last probe of the default settings. -/
theorem udp_identity_default :
    checkedAddU16 (adjustedBase default.udpBasePort 30 (default.identity 0 299 30)) 30 =
      some (default.udpPort 0 299 30) :=
  ((udp_identity (show default.validateForType .udp4 = .ok () by decide) (.inl rfl) 0).1 299 30
    ⟨by decide, by decide, by decide⟩).2.2.1

end TraceSettings

end NetworkLantern.Path
