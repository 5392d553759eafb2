import NetworkLantern.Helper.Request
import NetworkLantern.Runtime.Workflow

/-!
# Planning

Each capability turns its layers into a plan.  A workflow plans its steps as
requests of their own.
-/

namespace NetworkLantern.Runtime

open NetworkLantern

/-- The system the program runs on. -/
class Host where
  windows : Bool
  os : Str

/-! ## Thresholds -/

structure Thresholds where
  minThroughputMbps : Option Float
  maxLossPct : Option Float
  maxJitterMs : Option Float
deriving DecidableEq

namespace Thresholds

/-- `!v.is_finite() || v < 0.0 || v > max`, of a value that is set. -/
def outside (max : Float) (value : Option Float) : Bool :=
  value.any fun v => !v.isFinite || decide (v < 0.0) || decide (max < v)

def validate (t : Thresholds) : Except Error Unit := do
  refuse (outside 1000000.0 t.minThroughputMbps)
    (.validation "min_throughput_mbps must be between 0 and 1000000")
  refuse (outside 100.0 t.maxLossPct) (.validation "max_loss_pct must be between 0 and 100")
  refuse (outside 1000000.0 t.maxJitterMs)
    (.validation "max_jitter_ms must be between 0 and 1000000")

/-- `serde_json::to_value`, field by field. -/
def fields (t : Thresholds) : List (Str × Json) :=
  [("min_throughput_mbps", .ofOption .ofFloat t.minThroughputMbps),
   ("max_loss_pct", .ofOption .ofFloat t.maxLossPct),
   ("max_jitter_ms", .ofOption .ofFloat t.maxJitterMs)]

end Thresholds

/-! ## Throughput -/

def throughputError (e : Throughput.ThroughputError) : Error := .validation e.display

/-- `value["max_total_tests"] == 0` stands for no budget. -/
def dropZeroBudget (value : Entries Json) : Entries Json :=
  if ((Json.object value).field "max_total_tests").asU64 = some 0 then
    Entries.insert "max_total_tests" .null value
  else value

/-- What is left of the merged value once the keys beside the suite are taken out. -/
def suiteEntries (value : Entries Json) : Entries Json :=
  throughputExtras.foldl (fun es f => Entries.remove f.1 es) (dropZeroBudget value)

variable [Refusals]

def readThreshold (value : Entries Json) (name : Str) : Except Error (Option Float) :=
  let v := (Json.object value).field name
  decoded "f64" v (Json.toOption Json.toFloat v)

/-- The merged value, taken apart. -/
def readSuite (value : Entries Json) :
    Except Error (Throughput.SuiteConfig × Throughput.ServerCapabilities × Thresholds) := do
  match ((Json.object value).field "bidirectional").asBool with
  | none => .error (.validation "bidirectional must be true or false")
  | some bidirectional =>
    let minThroughputMbps ← readThreshold value "min_throughput_mbps"
    let maxLossPct ← readThreshold value "max_loss_pct"
    let maxJitterMs ← readThreshold value "max_jitter_ms"
    let thresholds : Thresholds := { minThroughputMbps, maxLossPct, maxJitterMs }
    thresholds.validate
    let config ← decoded "SuiteConfig" (.object (suiteEntries value))
      (Throughput.SuiteConfig.ofEntries (suiteEntries value))
    return (config, ⟨bidirectional⟩, thresholds)

/-- What the parts of a merged value are when it is accepted. -/
theorem readSuite_ok {value : Entries Json} {c : Throughput.SuiteConfig}
    {capabilities : Throughput.ServerCapabilities} {t : Thresholds} :
    readSuite value = .ok (c, capabilities, t) ↔
      ((Json.object value).field "bidirectional").asBool = some capabilities.bidirectional ∧
      readThreshold value "min_throughput_mbps" = .ok t.minThroughputMbps ∧
      readThreshold value "max_loss_pct" = .ok t.maxLossPct ∧
      readThreshold value "max_jitter_ms" = .ok t.maxJitterMs ∧
      t.validate = .ok () ∧
      Throughput.SuiteConfig.ofEntries (suiteEntries value) = some c := by
  unfold readSuite
  constructor
  · intro h
    split at h
    · cases h
    · next b hb =>
      obtain ⟨x, hmin, h⟩ := except_bind_ok.mp h
      obtain ⟨y, hloss, h⟩ := except_bind_ok.mp h
      obtain ⟨z, hjitter, h⟩ := except_bind_ok.mp h
      obtain ⟨_, hvalid, h⟩ := except_bind_ok.mp h
      obtain ⟨config, hconfig, h⟩ := except_bind_ok.mp h
      cases h
      exact ⟨hb, hmin, hloss, hjitter, hvalid, decoded_eq_ok.mp hconfig⟩
  · rintro ⟨hb, hmin, hloss, hjitter, hvalid, hconfig⟩
    rw [hb]
    refine except_bind_ok.mpr ⟨_, hmin, except_bind_ok.mpr ⟨_, hloss, except_bind_ok.mpr
      ⟨_, hjitter, except_bind_ok.mpr ⟨(), hvalid, except_bind_ok.mpr
        ⟨c, decoded_eq_ok.mpr hconfig, rfl⟩⟩⟩⟩⟩

def throughput (layers : List Json) (strict : Bool) :
    Except Error (Throughput.ThroughputPlan × List Str × Thresholds) := do
  let translated ← layers.mapM legacyThroughput
  let (value, warnings) ← mergeLayers throughputDefaults translated strict
  let (config, capabilities, thresholds) ← readSuite value
  let plan ← (Throughput.plan config capabilities).mapError throughputError
  return (plan, warnings, thresholds)

/-! ## Tuning -/

/-- `tuning_error`, for the errors that planning returns. -/
def tuningError (e : Tuning.TuningError) : Error :=
  match e with
  | .validation _ => .validation e.display
  | .authorization _ => .new .permission e.display
  | .cancelled => .new .cancelled e.display
  | _ => .new .prerequisite e.display

variable [Helper.Crates]

def tuning (layers : List Json) (strict : Bool) :
    Except Error (Tuning.TuningPlan × List Str × Str) := do
  let (value, warnings) ← mergeLayers Tuning.TuningConfig.default.toEntries layers strict
  let config ← decoded "TuningConfig" (.object value) (Tuning.TuningConfig.ofEntries value)
  let plan ← (Tuning.plan config).mapError tuningError
  return (plan, warnings, Helper.reviewedHash (.executeTuning plan))

/-! ## Previews -/

/-- The plan of one capability. -/
inductive StepPreview
  | throughput (plan : Throughput.ThroughputPlan) (warnings : List Str) (thresholds : Thresholds)
  | pathBasic (plan : Path.BasicPlan) (settings : PathConfig) (warnings : List Str)
  | pathTrace (plan : Path.TracePlan) (settings : PathConfig) (warnings : List Str)
  | tuning (plan : Tuning.TuningPlan) (warnings : List Str) (reviewedOperationHash : Str)

structure WorkflowPreview where
  workflow : Workflow
  steps : List StepPreview
  warnings : List Str
  /-- The reviewed operation of the tuning step, when there is one. -/
  authorization : Option Str

inductive Preview
  | single (preview : StepPreview)
  | workflow (preview : WorkflowPreview)

namespace StepPreview

def capability : StepPreview → Capability
  | .throughput .. => .throughput
  | .pathBasic .. => .pathBasic
  | .pathTrace .. => .pathTrace
  | .tuning .. => .tuning

def warnings : StepPreview → List Str
  | .throughput _ warnings _ => warnings
  | .pathBasic _ _ warnings => warnings
  | .pathTrace _ _ warnings => warnings
  | .tuning _ warnings _ => warnings

def authorization : StepPreview → Option Str
  | .tuning _ _ hash => some hash
  | _ => none

/-- `count`. -/
def count : StepPreview → Nat
  | .throughput plan _ _ => plan.totalTests
  | .pathBasic plan _ _ => plan.totalItems
  | .pathTrace plan _ _ => plan.totalItems
  | .tuning .. => 1

end StepPreview

def Preview.count : Preview → Nat
  | .single p => p.count
  | .workflow w => (w.steps.map StepPreview.count).sum

/-! ## Requests -/

variable [Host]

def hostWarnings : List Str :=
  if Host.windows then []
  else ["Windows tuning cannot run on ".toList ++ Host.os ++
    "; this plan is for review only".toList]

/-- `build_plan`, for a capability that plans alone.  The request of a step
never asks for a workflow. -/
def planStep (req : Request) : Except Error StepPreview :=
  match req.capability with
  | .throughput => do
    let (plan, warnings, thresholds) ← throughput req.layers req.strict
    return .throughput plan warnings thresholds
  | .pathBasic => do
    let (config, warnings) ← resolve req.layers req.strict false
    let (plan, _) ← config.basic
    return .pathBasic plan config warnings
  | .pathTrace => do
    let (config, warnings) ← resolve req.layers req.strict true
    let (plan, _) ← config.trace
    return .pathTrace plan config (warnings ++ plan.warnings)
  | .tuning => do
    let (plan, warnings, hash) ← tuning req.layers req.strict
    return .tuning plan (warnings ++ hostWarnings) hash
  | .workflow => .error (.validation "Unknown workflow capability")

/-- `plan_request`, of the request of a step. -/
def planStepRequest (value : Json) : Except Error StepPreview := do
  let req ← request value
  planStep req

def checkWorkflowThroughput (layer : Json) : Except Error Unit := do
  let _ ← planStepRequest (layerRequest .throughput layer true)

/-! ## Workflow layers -/

mutual

/-- `deep_merge`: what `target` becomes.  A nested object merges into what its
key holds, unless that is not an object. -/
def deepMerge (target : Json) : Json → Json
  | .object source =>
    match target with
    | .object entries => .object (mergeFields entries source)
    | other => other
  | _ => target

def mergeFields (target : Entries Json) : List (Str × Json) → Entries Json
  | [] => target
  | (k, .object v) :: rest =>
    mergeFields (Entries.insert k
      (deepMerge ((Entries.get? target k).getD (.object [])) (.object v)) target) rest
  | (k, v) :: rest => mergeFields (Entries.insert k v target) rest

end

/-- The overrides that may stand beside the sections, and their names within. -/
def flatOverrides : List (Str × Str) :=
  [("target", "target"),
   ("port", "port"),
   ("protocol", "protocol"),
   ("max_total_tests", "maxTotalTests"),
   ("duration_secs", "duration_secs"),
   ("omit_secs", "omit_secs"),
   ("single_test", "single_test"),
   ("bidirectional", "bidirectional")]

/-- One override moves into the section. -/
def moveOverride (object : Entries Json) (names : Str × Str) : Except Error (Entries Json) :=
  match Entries.get? object names.1 with
  | none => .ok object
  | some v =>
    match (Entries.get? object "throughput").getD (.object []) with
    | .object throughput =>
      .ok (Entries.insert "throughput" (.object (Entries.insert names.2 v throughput))
        (Entries.remove names.1 object))
    | _ =>
      .error (.validation
        "Workflow section 'throughput' must be an object when applying overrides")

def workflowLayer (layer : Json) : Except Error (Entries Json) :=
  match layer.asObject with
  | none => .error (.validation "Workflow settings must be an object")
  | some object => flatOverrides.foldlM moveOverride object

/-- The layers so far: all but the last merged into one, and the last. -/
abbrev ProfileLayers := Entries Json × Entries Json

/-- One more layer; the one before it joins the profile. -/
def pushLayer (acc : ProfileLayers) (layer : Json) : Except Error ProfileLayers := do
  let normalized ← workflowLayer layer
  return (if acc.2.isEmpty then acc.1 else mergeFields acc.1 acc.2, normalized)

def stepRequest (step : Step) (strict : Bool) : Json :=
  match step with
  | .path v => layerRequest .pathBasic v strict
  | .throughput v => layerRequest .throughput v strict
  | .windowsTuning v => layerRequest .tuning v strict

def addWarning (known : List Str) (text : Str) : List Str :=
  if known.contains text then known else known ++ [text]

def planWorkflowRequest (req : Request) : Except Error WorkflowPreview := do
  let (profile, explicit) ← req.layers.foldlM pushLayer ([], [])
  let plan ← planWorkflow (req.workflow.getD .triage) (.object profile) (.object explicit) req.strict
    checkWorkflowThroughput
  let steps ← plan.steps.mapM fun step => planStepRequest (stepRequest step req.strict)
  let authorizations := steps.filterMap StepPreview.authorization
  refuse (decide (1 < authorizations.length))
    (.validation "A workflow may contain at most one tuning step")
  return { workflow := plan.workflow
           steps
           warnings := (steps.flatMap StepPreview.warnings).foldl addWarning plan.warnings
           authorization := authorizations.head? }

/-- `build_plan`. -/
def planParsed (req : Request) : Except Error Preview :=
  match req.capability with
  | .workflow => Preview.workflow <$> planWorkflowRequest req
  | _ => Preview.single <$> planStep req

/-- `plan_request`. -/
def planRequest (value : Json) : Except Error Preview := do
  let req ← request value
  planParsed req

end NetworkLantern.Runtime
