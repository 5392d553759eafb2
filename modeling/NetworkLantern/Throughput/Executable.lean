import NetworkLantern.Throughput.Enumeration

/-!
# Every planned test can be run

`validate` bounds a configuration, `TestSpec.validate` bounds one test, and the
planner derives the second from the first.  What each kind of case gets from the
configuration is `CaseSound`; a numbered case of that kind passes (`spec_valid`).
-/

namespace NetworkLantern.Throughput

open NetworkLantern

/-- What an accepted configuration is known to meet. -/
structure Accepted (config : SuiteConfig) : Prop where
  target : validTarget config.target = true
  port : config.port ≠ 0
  durationSecs : 1 ≤ config.durationSecs ∧ config.durationSecs ≤ 3600
  omitSecs : config.omitSecs ≤ 60
  streams : ∀ n ∈ config.tcpStreams, 1 ≤ n ∧ n ≤ 128
  udpStartBps : config.udpStartBps ≠ 0 ∧ config.udpStartBps ≤ MAX_UDP_RATE_BPS
  udpMaxBps : config.udpMaxBps ≤ MAX_UDP_RATE_BPS
  limits : checkLimits config.connectTimeoutMs config.controlTimeoutMs config.maxControlJsonBytes =
    .ok ()

theorem validate_accepted {config : SuiteConfig} (h : validate config = .ok ()) :
    Accepted config := by
  obtain ⟨htarget, h⟩ := refuse_bind_ok.mp h
  obtain ⟨hport, h⟩ := refuse_bind_ok.mp h
  obtain ⟨hduration, h⟩ := refuse_bind_ok.mp h
  obtain ⟨-, h⟩ := refuse_bind_ok.mp h
  obtain ⟨homit, h⟩ := refuse_bind_ok.mp h
  iterate 2 obtain ⟨-, h⟩ := refuse_bind_ok.mp h
  obtain ⟨hstreams, h⟩ := refuse_bind_ok.mp h
  obtain ⟨-, h⟩ := refuse_bind_ok.mp h
  obtain ⟨hzero, h⟩ := refuse_bind_ok.mp h
  obtain ⟨hrates, h⟩ := refuse_bind_ok.mp h
  iterate 3 obtain ⟨-, h⟩ := refuse_bind_ok.mp h
  rw [refuse_eq_ok] at h
  have hrange : ∀ n ∈ config.tcpStreams, 1 ≤ n ∧ n ≤ 128 := by
    have hany := (Bool.or_eq_false_iff.mp hstreams).2
    intro n hn
    have hin := List.any_eq_false.mp hany n hn
    rw [Bool.not_eq_true, Bool.not_eq_false', Bool.and_eq_true, decide_eq_true_eq,
      decide_eq_true_eq] at hin
    exact hin
  exact
    { target := by simpa using htarget
      port := by simpa using hport
      durationSecs := by simpa using hduration
      omitSecs := by simpa using homit
      streams := hrange
      udpStartBps := by
        simp only [Bool.or_eq_false_iff, beq_eq_false_iff_ne, decide_eq_false_iff_not,
          UInt64.not_lt] at hzero hrates
        exact ⟨hzero.1, hrates.1.1⟩
      udpMaxBps := by
        simp only [Bool.or_eq_false_iff, decide_eq_false_iff_not, UInt64.not_lt] at hrates
        exact hrates.1.2
      limits := (refuse_eq_ok _ _).mpr h }

/-- The target of a test is not blank. -/
theorem not_blank_of_validTarget {target : Str} (h : validTarget target = true) :
    Str.isBlank target = false := by
  unfold validTarget at h
  simp only [Bool.and_eq_true, Bool.not_eq_true'] at h
  obtain ⟨⟨hne, -⟩, hany⟩ := h
  obtain ⟨c, rest, rfl⟩ := List.exists_cons_of_ne_nil (List.isEmpty_eq_false_iff.mp hne)
  have hc := List.any_eq_false.mp hany c List.mem_cons_self
  simp only [Bool.or_eq_true, not_or] at hc
  exact Str.isBlank_eq_false_of_mem List.mem_cons_self (Bool.eq_false_iff.mpr hc.1.1)

/-! ## Cases -/

/-- What a case takes from its configuration. -/
structure CaseSound (config : SuiteConfig) (c : PlanCase) : Prop where
  concrete : c.protocol ≠ .both
  streams : 1 ≤ c.streams ∧ c.streams ≤ 128
  rate : c.protocol = .udp → ∃ rate, c.udpRate = some rate ∧ rate ≠ 0 ∧ rate ≤ MAX_UDP_RATE_BPS
  saturation : c.phase = .udpSaturation →
    ∃ rate, c.udpRate = some rate ∧ config.udpStartBps ≤ rate ∧ rate ≤ config.udpMaxBps

section
variable {config : SuiteConfig} {capabilities : ServerCapabilities} {dscp : DscpClass}

theorem oneStream : (1 : UInt16) ≤ 1 ∧ (1 : UInt16) ≤ 128 := by decide

theorem matrixCase_sound (h : Accepted config) {c : PlanCase}
    (hc : c ∈ tcpMatrix config capabilities dscp) : CaseSound config c := by
  unfold tcpMatrix at hc
  simp only [List.mem_flatMap, List.mem_map] at hc
  obtain ⟨direction, -, streams, hs, window, -, rfl⟩ := hc
  exact
    { concrete := nofun
      streams := h.streams streams hs
      rate := nofun
      saturation := nofun }

theorem fixedCase_sound (h : Accepted config) {c : PlanCase} (hc : c ∈ udpFixed config dscp) :
    CaseSound config c := by
  obtain ⟨direction, -, rfl⟩ := List.mem_map.mp hc
  exact
    { concrete := nofun
      streams := oneStream
      rate := fun _ => ⟨_, rfl, h.udpStartBps⟩
      saturation := nofun }

theorem stepRate_between {step : Nat} (h : step < saturationSteps config) :
    config.udpStartBps ≤ stepRate config step ∧ stepRate config step ≤ config.udpMaxBps := by
  have hle := stepRate_le h
  rw [UInt64.le_iff_toNat_le, UInt64.le_iff_toNat_le, toNat_stepRate h]
  omega

theorem saturationCase_sound (h : Accepted config) {c : PlanCase}
    (hc : c ∈ udpSaturation config dscp) : CaseSound config c := by
  unfold udpSaturation at hc
  simp only [List.mem_flatMap, List.mem_map, List.mem_range] at hc
  obtain ⟨step, hstep, direction, -, rfl⟩ := hc
  obtain ⟨hlow, hhigh⟩ := stepRate_between hstep
  have hnonzero : stepRate config step ≠ 0 := by
    intro hzero
    rw [hzero] at hlow
    exact h.udpStartBps.1 (UInt64.le_zero_iff.mp hlow)
  exact
    { concrete := nofun
      streams := oneStream
      rate := fun _ => ⟨_, rfl, hnonzero, UInt64.le_trans hhigh h.udpMaxBps⟩
      saturation := fun _ => ⟨_, rfl, hlow, hhigh⟩ }

theorem singleCase_sound (h : Accepted config) : CaseSound config (singleCase config) := by
  unfold singleCase
  by_cases hudp : config.protocol = .udp
  · rw [if_pos hudp, if_pos hudp]
    exact
      { concrete := nofun
        streams := oneStream
        rate := fun _ => ⟨_, rfl, h.udpStartBps⟩
        saturation := nofun }
  · rw [if_neg hudp, if_neg hudp]
    exact
      { concrete := nofun
        streams := oneStream
        rate := nofun
        saturation := nofun }

theorem planCases_sound (h : Accepted config) {c : PlanCase}
    (hc : c ∈ planCases config capabilities) : CaseSound config c := by
  unfold planCases at hc
  by_cases hsingle : config.singleTest = true
  · rw [if_pos hsingle] at hc
    rw [List.mem_singleton.mp hc]
    exact singleCase_sound h
  · rw [if_neg hsingle] at hc
    obtain ⟨dscp, -, hc⟩ := List.mem_flatMap.mp hc
    unfold classCases udpCases at hc
    rcases List.mem_append.mp hc with hc | hc
    · split at hc
      · cases hc
      · exact matrixCase_sound h hc
    rcases List.mem_append.mp hc with hc | hc
    · split at hc
      · cases hc
      · exact fixedCase_sound h hc
    · exact saturationCase_sound h hc

end

/-! ## Tests -/

/-- A numbered test is one of the cases under a number of the range. -/
theorem mem_numbered {config : SuiteConfig} {id : Nat} {cases : List PlanCase} {spec : TestSpec}
    (h : spec ∈ numbered config id cases) :
    ∃ i c, c ∈ cases ∧ id ≤ i ∧ i < id + cases.length ∧ spec = specOf config i c := by
  induction cases generalizing id with
  | nil => cases h
  | cons c cases ih =>
    rcases List.mem_cons.mp h with rfl | h
    · exact ⟨id, c, List.mem_cons_self, Nat.le_refl _, by simp, rfl⟩
    · obtain ⟨i, c', hc, hlow, hhigh, rfl⟩ := ih h
      refine ⟨i, c', List.mem_cons_of_mem c hc, by omega, ?_, rfl⟩
      rw [List.length_cons]
      omega

theorem spec_valid {config : SuiteConfig} {c : PlanCase} {id : Nat} (h : Accepted config)
    (hc : CaseSound config c) (hid : UInt64.ofNat id ≠ 0) :
    (specOf config id c).validate = .ok () := by
  refine refuse_bind_ok.mpr ⟨?_, refuse_bind_ok.mpr ⟨?_, (refuse_eq_ok _ _).mpr ?_⟩⟩
  · have hstreams : c.streams ≠ 0 := by
      intro hzero
      have hlow := hc.streams.1
      rw [hzero] at hlow
      exact absurd hlow (by decide)
    have hduration : (decide (1 ≤ config.durationSecs) && decide (config.durationSecs ≤ 3600)) =
        true := by
      rw [decide_eq_true h.durationSecs.1, decide_eq_true h.durationSecs.2]
      rfl
    have homit : decide (60 < config.omitSecs) = false :=
      decide_eq_false (UInt64.not_lt.mpr h.omitSecs)
    have hmany : decide (128 < c.streams) = false :=
      decide_eq_false (UInt16.not_lt.mpr hc.streams.2)
    show (UInt64.ofNat id == 0 || Str.isBlank config.target || !validTarget config.target ||
      config.port == 0 || !(decide (1 ≤ config.durationSecs) && decide (config.durationSecs ≤ 3600)) ||
      decide (60 < config.omitSecs) || c.streams == 0 || decide (128 < c.streams) ||
      c.dscp.tos != c.dscp.tos) = false
    rw [hduration, homit, hmany, h.target, not_blank_of_validTarget h.target,
      beq_eq_false_iff_ne.mpr hid, beq_eq_false_iff_ne.mpr h.port,
      beq_eq_false_iff_ne.mpr hstreams, bne_self_eq_false]
    rfl
  · exact decide_eq_false hc.concrete
  · by_cases hudp : c.protocol = .udp
    · obtain ⟨rate, hrate, hne, hle⟩ := hc.rate hudp
      show (decide (c.protocol = .udp) && (c.udpRate.getD 0 == 0 ||
        decide (MAX_UDP_RATE_BPS < c.udpRate.getD 0))) = false
      rw [hrate, Option.getD_some, beq_eq_false_iff_ne.mpr hne,
        decide_eq_false (UInt64.not_lt.mpr hle)]
      simp
    · show (decide (c.protocol = .udp) && _) = false
      rw [decide_eq_false hudp, Bool.false_and]

/-- What holds of every test a plan lists. -/
theorem tests_sound_spec {config : SuiteConfig} {capabilities : ServerCapabilities}
    {p : ThroughputPlan} (h : plan config capabilities = .ok p) {n : Nat} {spec : TestSpec}
    (hs : spec ∈ p.tests.take n) :
    spec.validate = .ok () ∧ (spec.phase = .udpSaturation → ∃ rate, spec.udpRateBps = some rate ∧
      config.udpStartBps ≤ rate ∧ rate ≤ config.udpMaxBps) := by
  obtain ⟨hvalid, hconfig, hcapabilities⟩ := plan_ok h
  have haccepted := validate_accepted hvalid
  have hbound := totalTests_bound hvalid capabilities
  rw [TestPlanIter.take_eq (tests_walking h), tests_queue, hconfig, hcapabilities] at hs
  obtain ⟨id, c, hc, hlow, hhigh, rfl⟩ := mem_numbered hs
  have hcase := planCases_sound haccepted (List.mem_of_mem_take hc)
  have hcount := length_planCases config capabilities
  have hlow : 1 ≤ id := hlow
  have hhigh : id < 1 + ((planCases config capabilities).take n).length := hhigh
  rw [List.length_take] at hhigh
  refine ⟨?_, hcase.saturation⟩
  have hid : UInt64.ofNat id ≠ 0 := by
    intro hzero
    have hnat := congrArg UInt64.toNat hzero
    rw [UInt64.toNat_ofNat_of_lt' (by show _ < 2 ^ 64; omega)] at hnat
    have hnat : id = 0 := hnat
    omega
  show (specOf p.tests.plan.config id c).validate = .ok ()
  rw [show p.tests.plan.config = config from hconfig]
  exact spec_valid haccepted hcase hid

end NetworkLantern.Throughput
