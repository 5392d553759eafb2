import NetworkLantern.Helper.Protocol
import NetworkLantern.Path.Trace
import NetworkLantern.Throughput.Plan
import NetworkLantern.Tuning.Canonical

/-!
# Requests to the helper

The operations the helper runs, and the checks that bind a request to the plan
the user reviewed.
-/

namespace NetworkLantern.Helper

open NetworkLantern

/-- SHA-256, and the writer of floats. -/
class Crates extends Json.FloatText where
  sha256 : Bytes → Block

structure ThroughputLimits where
  connectTimeoutMs : UInt64
  controlTimeoutMs : UInt64
  maxControlJsonBytes : UInt64
deriving DecidableEq

inductive HelperOperation
  | executeTuning (plan : Tuning.TuningPlan)
  | basicPath (item : Path.BasicPlanItem) (settings : Path.BasicSettings)
  | tracePath (item : Path.TracePlanItem) (settings : Path.TraceSettings)
  | throughputPreflight (config : Throughput.SuiteConfig)
  | throughputMeasurement (spec : Throughput.TestSpec) (limits : ThroughputLimits)
deriving DecidableEq

structure AuthorizedRequest where
  runId : Uuid
  reviewedPlanHash : Str
  operation : HelperOperation
deriving DecidableEq

/-! ## JSON -/

def ThroughputLimits.toJson (l : ThroughputLimits) : Json :=
  .object
    [("connect_timeout_ms", .ofNat l.connectTimeoutMs),
     ("control_timeout_ms", .ofNat l.controlTimeoutMs),
     ("max_control_json_bytes", .ofNat l.maxControlJsonBytes)]

def HelperOperation.toJson : HelperOperation → Json
  | .executeTuning plan => .object [("kind", .string "execute_tuning"), ("plan", plan.toJson)]
  | .basicPath item settings =>
    .object [("kind", .string "basic_path"), ("item", item.toJson), ("settings", settings.toJson)]
  | .tracePath item settings =>
    .object [("kind", .string "trace_path"), ("item", item.toJson), ("settings", settings.toJson)]
  | .throughputPreflight config =>
    .object [("kind", .string "throughput_preflight"), ("config", .object config.fields)]
  | .throughputMeasurement spec limits =>
    .object
      [("kind", .string "throughput_measurement"), ("spec", spec.toJson), ("limits", limits.toJson)]

/-- The hyphenated form, in lower case. -/
def uuidText (id : Uuid) : Str :=
  let digits := hexFixed 32 id.toNat
  digits.take 8 ++ '-' :: (digits.drop 8).take 4 ++ '-' :: (digits.drop 12).take 4 ++
    '-' :: (digits.drop 16).take 4 ++ '-' :: digits.drop 20

def AuthorizedRequest.toJson (r : AuthorizedRequest) : Json :=
  .object
    [("runId", .string (uuidText r.runId)),
     ("reviewedPlanHash", .string r.reviewedPlanHash),
     ("operation", r.operation.toJson)]

/-! ## Checks -/

variable [Crates]

/-- `format!("{byte:02X}")` for each byte. -/
def hexUpper (bytes : Bytes) : Str :=
  bytes.flatMap fun b => (hexFixed 2 b.toNat).map Char.toUpper

def reviewedHash (operation : HelperOperation) : Str :=
  hexUpper (Crates.sha256 operation.toJson.render.bytes).toList

def validHash (value : Str) : Bool :=
  value.byteLen == 64 && value.all fun c => c.isDigit || ('A' ≤ c && c ≤ 'F')

/-- `From<TuningError>`, for the errors that planning returns. -/
def ofTuningError (e : Tuning.TuningError) : HelperError :=
  match e with
  | .validation message => .validation message
  | .authorization message => .authorization message
  | .cancelled => .cancelled
  | other => .tuning other.display

def probeValidation (e : Path.ProbeError) : HelperError := .validation e.display

def throughputValidation (e : Throughput.ThroughputError) : HelperError := .validation e.display

/-- The checks of each kind of operation. -/
def HelperOperation.check : HelperOperation → Except HelperError Unit
  | .executeTuning plan => do
    let canonical ← (Tuning.plan plan.config).mapError ofTuningError
    refuse (decide (canonical ≠ plan)) (.scope "tuning plan is not canonical")
  | .basicPath item settings => do
    (Path.validateHost item.host).mapError probeValidation
    settings.validate.mapError probeValidation
  | .tracePath item settings => do
    (Path.validateHost item.host).mapError probeValidation
    ((item.round.apply settings).validateForType item.probeType).mapError probeValidation
  | .throughputPreflight config =>
    (Throughput.plan config .default).mapError throughputValidation >>= fun _ => .ok ()
  | .throughputMeasurement spec limits => do
    (Throughput.checkLimits limits.connectTimeoutMs limits.controlTimeoutMs
      limits.maxControlJsonBytes).mapError throughputValidation
    spec.validate.mapError throughputValidation

def AuthorizedRequest.validate (r : AuthorizedRequest) : Except HelperError Unit := do
  refuse (!validHash r.reviewedPlanHash)
    (.validation "reviewedPlanHash must be 64 uppercase hexadecimal characters")
  r.operation.check
  refuse (decide (reviewedHash r.operation ≠ r.reviewedPlanHash))
    (.scope "operation does not match reviewedPlanHash")

end NetworkLantern.Helper
