import NetworkLantern.Runtime.Replan
import NetworkLantern.Throughput.Retarget

/-!
# What execution plans again

A run plans its request a second time, and each stage of a workflow as a strict
request of its own.  What it finds is what the review showed.
-/

namespace NetworkLantern.Runtime

open NetworkLantern

/-- The work of one stage: what `run` hands to an engine. -/
inductive Stage
  | throughput (plan : Throughput.ThroughputPlan) (thresholds : Thresholds)
  | pathBasic (plan : Path.BasicPlan) (settings : Path.BasicSettings)
  | pathTrace (plan : Path.TracePlan) (settings : Path.TraceSettings)
  | tuning (plan : Tuning.TuningPlan) (reviewedOperationHash : Str)

/-- The tests of a throughput stage once its target is resolved, at most `n` of them. -/
def Stage.tests (resolved : Throughput.SuiteConfig → Throughput.Resolved) (n : Nat) :
    Stage → List Throughput.TestSpec
  | .throughput plan _ => (plan.retarget (resolved plan.config)).tests.take n
  | _ => []

/-- The measurements a stage counts as. -/
def Stage.count : Stage → Nat
  | .throughput plan _ => plan.totalTests
  | .pathBasic plan _ => plan.totalItems
  | .pathTrace plan _ => plan.totalItems
  | .tuning .. => 1

/-- The request that `run` makes of one step of a workflow. -/
def stageRequest (step : StepPreview) : Request where
  capability := step.capability
  layers := [.object step.parameters]
  strict := true
  workflow := none
  expectedOperationHash := none

section
variable [Refusals] [Helper.Crates]

/-- The planning at the start of `run`, for a capability that runs alone. -/
def replan (req : Request) : Except Error Stage :=
  match req.capability with
  | .throughput => do
    let (plan, _, thresholds) ← throughput req.layers req.strict
    return .throughput plan thresholds
  | .pathBasic => do
    let (config, _) ← resolve req.layers req.strict false
    let (plan, settings) ← config.basic
    return .pathBasic plan settings
  | .pathTrace => do
    let (config, _) ← resolve req.layers req.strict true
    let (plan, settings) ← config.trace
    return .pathTrace plan settings
  | .tuning => do
    let (plan, _, hash) ← tuning req.layers req.strict
    return .tuning plan hash
  | .workflow => .error (.validation "Unknown workflow capability")

/-- The stages of `run`, in their order. -/
def executedStages (req : Request) : Preview → Except Error (List Stage)
  | .workflow preview => preview.steps.mapM fun step => replan (stageRequest step)
  | .single _ => do return [← replan req]

/-- What a reviewed plan lists for a step. -/
def StepPreview.stage : StepPreview → Stage
  | .throughput plan _ thresholds => .throughput plan thresholds
  | .pathBasic plan settings _ => .pathBasic plan settings.basicSettings
  | .pathTrace plan settings _ => .pathTrace plan settings.traceSettings
  | .tuning plan _ hash => .tuning plan hash

def Preview.stages : Preview → List Stage
  | .single p => [p.stage]
  | .workflow w => w.steps.map StepPreview.stage

/-- The tests a reviewed stage lists, with the resolved address in place of the target. -/
def Stage.reviewedTests (resolved : Throughput.SuiteConfig → Throughput.Resolved) (n : Nat) :
    Stage → List Throughput.TestSpec
  | .throughput plan _ => (plan.tests.take n).map (·.retarget (resolved plan.config))
  | _ => []

omit [Refusals] [Helper.Crates] in
theorem Stage.tests_eq_reviewedTests (resolved : Throughput.SuiteConfig → Throughput.Resolved)
    (n : Nat) (s : Stage) : s.tests resolved n = s.reviewedTests resolved n := by
  cases s with
  | throughput plan t => exact Throughput.TestPlanIter.take_retarget plan.tests _ n
  | _ => rfl

/-! ## One request -/

variable [Host]

omit [Helper.Crates] [Refusals] [Host] in
theorem basic_settings {c : PathConfig} {plan : Path.BasicPlan} {s : Path.BasicSettings}
    (h : c.basic = .ok (plan, s)) : s = c.basicSettings ∧ c.protocols ≠ [] := by
  obtain ⟨_, -, h⟩ := except_bind_ok.mp h
  obtain ⟨rounds, -, h⟩ := except_bind_ok.mp h
  obtain ⟨families, hfamilies, h⟩ := except_bind_ok.mp h
  obtain ⟨p, hplan, h⟩ := except_bind_ok.mp h
  obtain ⟨_, -, h⟩ := except_bind_ok.mp h
  cases h
  refine ⟨rfl, fun hnone => ?_⟩
  rw [hnone] at hfamilies
  cases hfamilies
  obtain ⟨hempty, -⟩ := refuse_bind_ok.mp (mapError_eq_ok.mp hplan)
  simp at hempty

omit [Helper.Crates] [Refusals] [Host] in
theorem trace_settings {c : PathConfig} {plan : Path.TracePlan} {s : Path.TraceSettings}
    (h : c.trace = .ok (plan, s)) : s = c.traceSettings := by
  obtain ⟨_, -, h⟩ := except_bind_ok.mp h
  obtain ⟨rounds, -, h⟩ := except_bind_ok.mp h
  obtain ⟨types, -, h⟩ := except_bind_ok.mp h
  obtain ⟨p, -, h⟩ := except_bind_ok.mp h
  obtain ⟨_, -, h⟩ := except_bind_ok.mp h
  cases h
  rfl

/-- A request plans again to what its preview lists. -/
theorem replan_of_planStep {req : Request} {p : StepPreview} (h : planStep req = .ok p) :
    replan req = .ok p.stage := by
  unfold planStep at h
  unfold replan
  cases hc : req.capability with
  | throughput =>
    rw [hc] at h
    obtain ⟨⟨plan, warnings, t⟩, hplan, h⟩ := except_bind_ok.mp h
    cases h
    exact except_bind_ok.mpr ⟨_, hplan, rfl⟩
  | pathBasic =>
    rw [hc] at h
    obtain ⟨⟨config, warnings⟩, hconfig, h⟩ := except_bind_ok.mp h
    obtain ⟨⟨plan, settings⟩, hplan, h⟩ := except_bind_ok.mp h
    cases h
    refine except_bind_ok.mpr ⟨_, hconfig, except_bind_ok.mpr ⟨_, hplan, ?_⟩⟩
    rw [(basic_settings hplan).1]
    rfl
  | pathTrace =>
    rw [hc] at h
    obtain ⟨⟨config, warnings⟩, hconfig, h⟩ := except_bind_ok.mp h
    obtain ⟨⟨plan, settings⟩, hplan, h⟩ := except_bind_ok.mp h
    cases h
    refine except_bind_ok.mpr ⟨_, hconfig, except_bind_ok.mpr ⟨_, hplan, ?_⟩⟩
    rw [trace_settings hplan]
    rfl
  | tuning =>
    rw [hc] at h
    obtain ⟨⟨plan, warnings, hash⟩, hplan, h⟩ := except_bind_ok.mp h
    cases h
    exact except_bind_ok.mpr ⟨_, hplan, rfl⟩
  | workflow =>
    rw [hc] at h
    cases h

/-- The request that execution makes of a step plans to what the step lists.
Only a trace has settings that may not stand as a layer, and no workflow has one. -/
theorem replan_stageRequest {req : Request} {p : StepPreview} (h : planStep req = .ok p)
    (hc : req.capability ≠ .pathTrace) : replan (stageRequest p) = .ok p.stage := by
  unfold planStep at h
  cases hcap : req.capability with
  | throughput =>
    rw [hcap] at h
    obtain ⟨⟨plan, warnings, t⟩, hplan, h⟩ := except_bind_ok.mp h
    cases h
    exact except_bind_ok.mpr ⟨_, throughput_again hplan, rfl⟩
  | pathBasic =>
    rw [hcap] at h
    obtain ⟨⟨config, warnings⟩, -, h⟩ := except_bind_ok.mp h
    obtain ⟨⟨plan, settings⟩, hplan, h⟩ := except_bind_ok.mp h
    cases h
    obtain ⟨hsettings, hprotocols⟩ := basic_settings hplan
    refine except_bind_ok.mpr ⟨_, resolve_again false hprotocols, except_bind_ok.mpr ⟨_, hplan, ?_⟩⟩
    rw [hsettings]
    rfl
  | pathTrace => exact absurd hcap hc
  | tuning =>
    rw [hcap] at h
    obtain ⟨⟨plan, warnings, hash⟩, hplan, h⟩ := except_bind_ok.mp h
    cases h
    exact except_bind_ok.mpr ⟨_, tuning_again hplan, rfl⟩
  | workflow =>
    rw [hcap] at h
    cases h

/-! ## Whole previews -/

omit [Host] in
theorem request_layerRequest {capability : Capability} {layer : Json} {strict : Bool}
    {req : Request} (h : request (layerRequest capability layer strict) = .ok req) :
    req.capability = capability := by
  have hraw : RawRequest.ofJson (layerRequest capability layer strict) =
      some ⟨capability.asStr, [layer], strict, none, none⟩ := by
    cases capability <;> rfl
  obtain ⟨_, h⟩ := refuse_bind_ok.mp h
  obtain ⟨raw, hdecoded, h⟩ := except_bind_ok.mp h
  rw [decoded_eq_ok, hraw] at hdecoded
  cases hdecoded
  obtain ⟨⟨workflow, layers⟩, -, h⟩ := except_bind_ok.mp h
  obtain ⟨c, hparse, h⟩ := except_bind_ok.mp h
  cases h
  rw [Capability.parse_asStr] at hparse
  cases hparse
  rfl

theorem planStepRequest_stage {step : Step} {strict : Bool} {p : StepPreview}
    (h : planStepRequest (stepRequest step strict) = .ok p) :
    replan (stageRequest p) = .ok p.stage := by
  obtain ⟨req, hreq, h⟩ := except_bind_ok.mp h
  refine replan_stageRequest h ?_
  cases step with
  | path v => rw [request_layerRequest hreq]; decide
  | throughput v => rw [request_layerRequest hreq]; decide
  | windowsTuning v => rw [request_layerRequest hreq]; decide

omit [Refusals] [Helper.Crates] [Host] in
theorem StepPreview.count_eq (p : StepPreview) : p.count = p.stage.count := by
  cases p <;> rfl

omit [Refusals] [Helper.Crates] [Host] in
theorem Preview.count_eq (preview : Preview) :
    preview.count = (preview.stages.map Stage.count).sum := by
  cases preview with
  | single p =>
    rw [show (Preview.single p).count = p.count from rfl, p.count_eq]
    simp [Preview.stages]
  | workflow w =>
    show (w.steps.map StepPreview.count).sum = ((w.steps.map StepPreview.stage).map Stage.count).sum
    rw [List.map_map, List.map_congr_left fun p _ => p.count_eq]
    rfl

/-- What a run plans again is what was planned. -/
theorem executedStages_of_planParsed {req : Request} {preview : Preview}
    (h : planParsed req = .ok preview) : executedStages req preview = .ok preview.stages := by
  cases preview with
  | single p =>
    have hstep : planStep req = .ok p := by
      unfold planParsed at h
      split at h
      · obtain ⟨_, -, hw⟩ := except_map_ok.mp h
        cases hw
      · obtain ⟨q, hq, hp⟩ := except_map_ok.mp h
        cases hp
        exact hq
    exact except_bind_ok.mpr ⟨_, replan_of_planStep hstep, rfl⟩
  | workflow w =>
    have hflow : planWorkflowRequest req = .ok w := by
      unfold planParsed at h
      split at h
      · obtain ⟨q, hq, hp⟩ := except_map_ok.mp h
        cases hp
        exact hq
      · obtain ⟨_, -, hp⟩ := except_map_ok.mp h
        cases hp
    obtain ⟨⟨profile, explicit⟩, -, hflow⟩ := except_bind_ok.mp hflow
    obtain ⟨plan, -, hflow⟩ := except_bind_ok.mp hflow
    obtain ⟨steps, hsteps, hflow⟩ := except_bind_ok.mp hflow
    obtain ⟨_, hflow⟩ := refuse_bind_ok.mp hflow
    cases hflow
    have hstages : ∀ (planned : List Step) (previews : List StepPreview),
        List.Forall₂ (fun step p => planStepRequest (stepRequest step req.strict) = .ok p)
          planned previews →
        List.Forall₂ (fun p s => replan (stageRequest p) = .ok s) previews
          (previews.map StepPreview.stage) := by
      intro planned previews hall
      induction hall with
      | nil => exact .nil
      | cons hp _ ih => exact .cons (planStepRequest_stage hp) ih
    exact mapM_eq_ok.mpr (hstages _ _ (mapM_eq_ok.mp hsteps))

end

/-! ## On one request -/

abbrev sampleRefusals : Refusals := ⟨fun _ _ => "invalid value"⟩

/-- Writes the one float of the default suite; a path workflow hashes nothing. -/
abbrev sampleCrates : Helper.Crates where
  text := fun _ => "5.0"
  text_le := fun _ => by decide
  sha256 := fun _ => Vector.replicate 32 0

abbrev sampleHost : Host := ⟨false, "linux"⟩

/-- `{"capability":"workflow","workflow":"baseline","layers":[{"path":{"target":"h"},
"throughput":{"target":"h","max_loss_pct":5}}]}`. -/
def sampleBaseline : Json :=
  .ofFields
    [("capability", .string "workflow"), ("workflow", .string "baseline"),
     ("layers", .array [.ofFields
       [("path", .ofFields [("target", .string "h")]),
        ("throughput", .ofFields [("target", .string "h"), ("max_loss_pct", .ofNat 5)])]])]

/-- The thresholds of a throughput stage. -/
def Stage.limits : Stage → Option Thresholds
  | .throughput _ thresholds => some thresholds
  | _ => none

theorem sampleBaseline_planned :
    ∃ preview, @planRequest sampleRefusals sampleCrates sampleHost sampleBaseline = .ok preview ∧
      preview.stages.map Stage.limits = [none, some ⟨none, some 5.0, none⟩] := by
  have hlimits : (@planRequest sampleRefusals sampleCrates sampleHost sampleBaseline).toOption.map
      (fun preview => preview.stages.map Stage.limits) =
        some [none, some ⟨none, some 5.0, none⟩] := by
    decide +kernel
  cases hplan : @planRequest sampleRefusals sampleCrates sampleHost sampleBaseline with
  | error e => rw [hplan] at hlimits; cases hlimits
  | ok preview => rw [hplan] at hlimits; exact ⟨preview, rfl, Option.some.inj hlimits⟩

end NetworkLantern.Runtime
