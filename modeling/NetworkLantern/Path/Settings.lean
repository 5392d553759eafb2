import NetworkLantern.Path.Trace

/-!
# Accepted trace settings

What a settings value satisfies when its check accepts it, for any probe type
and for the types that send UDP.
-/

namespace NetworkLantern.Path

open NetworkLantern

namespace TraceSettings

/-- What `validate` accepts. -/
structure Valid (s : TraceSettings) : Prop where
  cycles_pos : 0 < s.cycles.toNat
  cycles_le : s.cycles.toNat ≤ 10000
  firstTtl_pos : 0 < s.firstTtl.toNat
  first_le_max : s.firstTtl.toNat ≤ s.maxHops.toNat
  interval : 0 < s.interval ∧ s.interval ≤ fromSecs 60
  runTimeout : 0 < s.runTimeout ∧ s.runTimeout ≤ fromSecs 86400
  probeTimeout : 0 < s.probeTimeout ∧ s.probeTimeout ≤ fromSecs 300
  dnsTimeout : 0 < s.dnsTimeout ∧ s.dnsTimeout ≤ fromSecs 300
  packetSize : 64 ≤ s.packetSize.toNat ∧ s.packetSize.toNat ≤ 65535
  tcpPort_pos : 0 < s.tcpPort.toNat
  udpBasePort_pos : 0 < s.udpBasePort.toNat

theorem validate_eq_ok {s : TraceSettings} : s.validate = .ok () ↔ s.Valid := by
  unfold validate
  simp only [refuse_bind_ok, refuse_eq_ok, Bool.or_eq_false_iff, decide_eq_false_iff_not,
    beq_eq_false_iff_ne, ne_eq, UInt16.lt_iff_toNat_lt, UInt8.lt_iff_toNat_lt,
    UInt64.lt_iff_toNat_lt, ← UInt16.toNat_inj, ← UInt8.toNat_inj, UInt16.toNat_ofNat,
    UInt8.toNat_ofNat, UInt64.toNat_ofNat, Nat.not_lt]
  constructor
  · rintro ⟨⟨⟨⟨⟨⟨h1, h2⟩, h3⟩, h4⟩, h5⟩, h6⟩, ⟨⟨h7, h8⟩, h9⟩, h10, ⟨⟨⟨h11, h12⟩, h13⟩, h14⟩,
      ⟨h15, h16⟩, h17⟩
    exact ⟨by omega, by omega, by omega, h10, ⟨Nat.pos_of_ne_zero h11, h2⟩,
      ⟨Nat.pos_of_ne_zero h12, h3⟩, ⟨Nat.pos_of_ne_zero h13, h4⟩, ⟨Nat.pos_of_ne_zero h14, h5⟩,
      ⟨by omega, by omega⟩, by omega, by omega⟩
  · intro h
    have hc := h.cycles_pos
    have hc' := h.cycles_le
    have hf := h.firstTtl_pos
    have hm := h.first_le_max
    have hp := h.packetSize
    have ht := h.tcpPort_pos
    have hu := h.udpBasePort_pos
    exact ⟨⟨⟨⟨⟨⟨by omega, h.interval.2⟩, h.runTimeout.2⟩, h.probeTimeout.2⟩, h.dnsTimeout.2⟩,
        by omega⟩, ⟨⟨by omega, by omega⟩, by omega⟩, hm,
      ⟨⟨⟨Nat.ne_of_gt h.interval.1, Nat.ne_of_gt h.runTimeout.1⟩, Nat.ne_of_gt h.probeTimeout.1⟩,
        Nat.ne_of_gt h.dnsTimeout.1⟩, ⟨by omega, by omega⟩, by omega⟩

/-- The number of the last planned probe. -/
def lastOrdinal (s : TraceSettings) : Nat :=
  (s.cycles.toNat - 1) * (s.maxHops.toNat + 1) + s.maxHops.toNat

/-- Every planned probe has a destination port of its own. -/
def PortsFit (s : TraceSettings) : Prop := s.lastOrdinal < s.availablePorts

instance (s : TraceSettings) : Decidable s.PortsFit := inferInstanceAs (Decidable (_ < _))

end TraceSettings

def TraceType.IsUdp (probeType : TraceType) : Prop := probeType = .udp4 ∨ probeType = .udp6

instance (probeType : TraceType) : Decidable probeType.IsUdp := inferInstanceAs (Decidable (_ ∨ _))

namespace TraceSettings

theorem validateForType_eq_ok {s : TraceSettings} {probeType : TraceType} :
    s.validateForType probeType = .ok () ↔ s.Valid ∧ (probeType.IsUdp → s.PortsFit) := by
  have hports : s.availablePorts ≤ 65536 := by
    unfold availablePorts
    omega
  unfold validateForType
  rw [except_bind_ok]
  by_cases hudp : probeType = .udp4 ∨ probeType = .udp6
  · by_cases hlast : s.lastOrdinal < 2 ^ 32
    · have hident : s.lastIdentity = some s.lastOrdinal := if_pos hlast
      have hcheck : ∀ e : ProbeError,
          refuse (decide (s.availablePorts ≤ s.lastOrdinal)) e = .ok () ↔ s.PortsFit := by
        intro e
        rw [refuse_eq_ok, decide_eq_false_iff_not, Nat.not_le]
        rfl
      constructor
      · rintro ⟨_, hvalid, h⟩
        rw [if_pos hudp, hident] at h
        exact ⟨validate_eq_ok.mp hvalid, fun _ => (hcheck _).mp h⟩
      · rintro ⟨hvalid, h⟩
        refine ⟨(), validate_eq_ok.mpr hvalid, ?_⟩
        rw [if_pos hudp, hident]
        exact (hcheck _).mpr (h hudp)
    · have hident : s.lastIdentity = none := if_neg hlast
      constructor
      · rintro ⟨_, -, h⟩
        rw [if_pos hudp, hident] at h
        cases h
      · rintro ⟨-, h⟩
        have hfit : s.lastOrdinal < s.availablePorts := h hudp
        omega
  · constructor
    · rintro ⟨_, hvalid, -⟩
      exact ⟨validate_eq_ok.mp hvalid, fun h => absurd h hudp⟩
    · rintro ⟨hvalid, -⟩
      refine ⟨(), validate_eq_ok.mpr hvalid, ?_⟩
      rw [if_neg hudp]

end TraceSettings

/-! ## What a run checks -/

/-- The checks at the start of `execute_run`: the settings as they are, then
with the values of the round. -/
def configure (item : TracePlanItem) (settings : TraceSettings) (cancelled : Bool) :
    Except ProbeError TraceSettings := do
  settings.validateForType item.probeType
  refuse cancelled .cancelled
  let configured := item.round.apply settings
  configured.validateForType item.probeType
  return configured

/-- The value that the round replaces is within its bounds as well. -/
def TraceRound.BaseFits (round : TraceRound) (s : TraceSettings) (probeType : TraceType) : Prop :=
  match round with
  | .standard | .tosCs5 | .tosAf11 => True
  | .mtu1400 => 64 ≤ s.packetSize.toNat ∧ s.packetSize.toNat ≤ 65535
  | .ttl10 | .ttl64 => s.firstTtl.toNat ≤ s.maxHops.toNat ∧ (probeType.IsUdp → s.PortsFit)
  | .firstTtl3 => 0 < s.firstTtl.toNat ∧ s.firstTtl.toNat ≤ s.maxHops.toNat
  | .timeout5 => 0 < s.probeTimeout ∧ s.probeTimeout ≤ fromSecs 300

/-- Once the round's own values pass, the settings pass just when the value that
was replaced does. -/
theorem TraceRound.validateForType_base_iff {round : TraceRound} {s : TraceSettings}
    {probeType : TraceType} (h : (round.apply s).validateForType probeType = .ok ()) :
    s.validateForType probeType = .ok () ↔ round.BaseFits s probeType := by
  rw [TraceSettings.validateForType_eq_ok] at h ⊢
  obtain ⟨hv, hp⟩ := h
  cases round with
  | standard | tosCs5 | tosAf11 => exact ⟨fun _ => trivial, fun _ => ⟨hv, hp⟩⟩
  | mtu1400 => exact ⟨fun h => h.1.packetSize, fun h => ⟨{ hv with packetSize := h }, hp⟩⟩
  | ttl10 | ttl64 =>
    exact ⟨fun h => ⟨h.1.first_le_max, h.2⟩, fun h => ⟨{ hv with first_le_max := h.1 }, h.2⟩⟩
  | firstTtl3 =>
    exact ⟨fun h => ⟨h.1.firstTtl_pos, h.1.first_le_max⟩,
      fun h => ⟨{ hv with firstTtl_pos := h.1, first_le_max := h.2 }, hp⟩⟩
  | timeout5 => exact ⟨fun h => h.1.probeTimeout, fun h => ⟨{ hv with probeTimeout := h }, hp⟩⟩

/-- Every refusal of the settings is an `InvalidPlan`. -/
theorem TraceSettings.validate_error {s : TraceSettings} {e : ProbeError}
    (h : s.validate = .error e) : ∃ message, e = .invalidPlan message := by
  unfold validate at h
  rcases refuse_bind_error h with rfl | h
  · exact ⟨_, rfl⟩
  · rcases refuse_bind_error h with rfl | h
    · exact ⟨_, rfl⟩
    · rcases refuse_bind_error h with rfl | h
      · exact ⟨_, rfl⟩
      · rcases refuse_bind_error h with rfl | h
        · exact ⟨_, rfl⟩
        · exact ⟨_, refuse_error h⟩

theorem TraceSettings.validateForType_error {s : TraceSettings} {probeType : TraceType}
    {e : ProbeError} (h : s.validateForType probeType = .error e) :
    ∃ message, e = .invalidPlan message := by
  unfold validateForType at h
  match hv : s.validate with
  | .error e' =>
    rw [hv] at h
    cases h
    exact validate_error hv
  | .ok () =>
    rw [hv, except_ok_bind] at h
    by_cases hudp : probeType = .udp4 ∨ probeType = .udp6
    · rw [if_pos hudp] at h
      cases hlast : s.lastIdentity with
      | none =>
        rw [hlast] at h
        exact ⟨_, (Except.error.inj h).symm⟩
      | some last =>
        rw [hlast] at h
        exact ⟨_, refuse_error h⟩
    · rw [if_neg hudp] at h
      cases h

/-- No `InvalidPlan` from the settings. -/
def SettingsPass (item : TracePlanItem) (settings : TraceSettings) : Prop :=
  ∀ cancelled message, configure item settings cancelled ≠ .error (.invalidPlan message)

theorem settingsPass_iff {item : TracePlanItem} {settings : TraceSettings} :
    SettingsPass item settings ↔
      settings.validateForType item.probeType = .ok () ∧
        (item.round.apply settings).validateForType item.probeType = .ok () := by
  constructor
  · intro h
    cases hbase : settings.validateForType item.probeType with
    | error e =>
      obtain ⟨message, rfl⟩ := TraceSettings.validateForType_error hbase
      refine absurd ?_ (h false message)
      unfold configure
      rw [hbase]
      rfl
    | ok =>
      refine ⟨rfl, ?_⟩
      cases hround : (item.round.apply settings).validateForType item.probeType with
      | error e =>
        obtain ⟨message, rfl⟩ := TraceSettings.validateForType_error hround
        refine absurd ?_ (h false message)
        unfold configure
        rw [hbase]
        show ((item.round.apply settings).validateForType item.probeType >>= _) = _
        rw [hround]
        rfl
      | ok => rfl
  · rintro ⟨hbase, hround⟩ cancelled message h
    unfold configure at h
    rw [hbase, except_ok_bind] at h
    rcases refuse_bind_error h with h | h
    · cases h
    · dsimp only at h
      rw [hround] at h
      cases h

end NetworkLantern.Path
