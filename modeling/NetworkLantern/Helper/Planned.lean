import NetworkLantern.Helper.Request
import NetworkLantern.Throughput.Executable

/-!
# The operations of a plan

What the planners produce passes the checks of the helper: every test of a
throughput plan as a measurement (`planned_measurements`), and every tuning plan
as the only one with its configuration (`canonical_plan`).
-/

namespace NetworkLantern.Helper

open NetworkLantern

/-- `From<&SuiteConfig>`. -/
def ThroughputLimits.ofConfig (config : Throughput.SuiteConfig) : ThroughputLimits where
  connectTimeoutMs := config.connectTimeoutMs
  controlTimeoutMs := config.controlTimeoutMs
  maxControlJsonBytes := config.maxControlJsonBytes

/-- **Measurements.**  Every test that a plan lists passes its own check and, with the limits
of its configuration, the helper's; a saturation rate is between the configured rates. -/
theorem planned_measurements {config : Throughput.SuiteConfig}
    {capabilities : Throughput.ServerCapabilities} {p : Throughput.ThroughputPlan}
    (h : Throughput.plan config capabilities = .ok p) :
    ∀ n, ∀ spec ∈ p.tests.take n, spec.validate = .ok () ∧
      (HelperOperation.throughputMeasurement spec (.ofConfig config)).check = .ok () ∧
      (spec.phase = .udpSaturation → ∃ rate, spec.udpRateBps = some rate ∧
        config.udpStartBps ≤ rate ∧ rate ≤ config.udpMaxBps) := by
  intro n spec hs
  obtain ⟨hvalid, hrate⟩ := Throughput.tests_sound_spec h hs
  obtain ⟨haccepted, -, -⟩ := Throughput.plan_ok h
  have hlimits := (Throughput.validate_accepted haccepted).limits
  refine ⟨hvalid, ?_, hrate⟩
  exact except_bind_ok.mpr ⟨(), mapError_eq_ok.mpr hlimits, mapError_eq_ok.mpr hvalid⟩

theorem planned_measurements_local :
    ∃ p, Throughput.plan Throughput.localSuite ⟨true⟩ = .ok p ∧ ∀ n, ∀ spec ∈ p.tests.take n,
      (HelperOperation.throughputMeasurement spec (.ofConfig Throughput.localSuite)).check =
        .ok () := by
  have hvalid : Throughput.validate Throughput.localSuite = .ok () := by decide +kernel
  obtain ⟨p, hp⟩ : ∃ p, Throughput.plan Throughput.localSuite ⟨true⟩ = .ok p := by
    unfold Throughput.plan
    rw [hvalid, except_ok_bind, show Throughput.budget Throughput.localSuite = none from rfl]
    exact ⟨_, rfl⟩
  exact ⟨p, hp, fun n spec hs => (planned_measurements hp n spec hs).2.1⟩

/-- **Tuning plans.**  A plan is the plan of its own configuration, so the helper takes it
and no other plan with that configuration. -/
theorem canonical_plan {config : Tuning.TuningConfig} {p : Tuning.TuningPlan}
    (h : Tuning.plan config = .ok p) :
    Tuning.plan p.config = .ok p ∧ (HelperOperation.executeTuning p).check = .ok () ∧
      ∀ q : Tuning.TuningPlan, q.config = p.config → q ≠ p →
        (HelperOperation.executeTuning q).check = .error (.scope "tuning plan is not canonical") := by
  have hagain := Tuning.plan_canonical h
  refine ⟨hagain, ?_, fun q hq hne => ?_⟩
  · refine except_bind_ok.mpr ⟨p, mapError_eq_ok.mpr hagain, (refuse_eq_ok _ _).mpr ?_⟩
    exact decide_eq_false fun hne => hne rfl
  · show ((Tuning.plan q.config).mapError ofTuningError >>= _) = _
    rw [hq, hagain]
    show refuse (decide (p ≠ q)) _ = _
    rw [decide_eq_true (Ne.symm hne)]
    rfl

/-- An Apply with a repeated port, and with another step. -/
theorem canonical_plan_ports :
    let config := { Tuning.TuningConfig.default with udpPorts := [5201, 5201, 80] }
    ∃ p, Tuning.plan config = .ok p ∧ p.config.udpPorts = [80, 5201] ∧
      (HelperOperation.executeTuning p).check = .ok () ∧
      (HelperOperation.executeTuning { p with steps := [] }).check =
        .error (.scope "tuning plan is not canonical") := by
  obtain ⟨p, hp, hports, hsteps⟩ :
      ∃ p, Tuning.plan { Tuning.TuningConfig.default with udpPorts := [5201, 5201, 80] } = .ok p ∧
        p.config.udpPorts = [80, 5201] ∧ p.steps ≠ [] := ⟨_, rfl, by decide +kernel, nofun⟩
  obtain ⟨-, hcheck, haltered⟩ := canonical_plan hp
  refine ⟨p, hp, hports, hcheck, haltered _ rfl fun heq => hsteps ?_⟩
  exact (congrArg Tuning.TuningPlan.steps heq).symm

end NetworkLantern.Helper
