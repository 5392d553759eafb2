import NetworkLantern.Lib.Spends
import NetworkLantern.Path.Cycles
import NetworkLantern.Runtime.Execution
import NetworkLantern.Throughput.PlanCount

/-!
# The measurements of a run

`run` measures stage after stage and records every measurement it completes.
The engines, the clock and the disk are a world that answers each call; a call
takes time, in which the run may be cancelled.  Every state of the counters is
kept, so that a property of each moment can be stated.
-/

namespace NetworkLantern.Runtime

open NetworkLantern

/-! ## Results

Of each result, what the run reads of it, and its serialized form. -/

structure TestResult where
  txMbps : Option Float
  rxMbps : Option Float
  lossPct : Option Float
  jitterMs : Option Float
  value : Json

inductive SampleStatus
  | reply | timeExceeded | unreachable | timeout | cancelled
deriving DecidableEq

inductive BasicRunStatus
  | completed | partialFailure | cancelled
deriving DecidableEq

structure BasicRunResult where
  ping : List SampleStatus
  /-- `reached_destination` of every hop. -/
  trace : List Bool
  tcp443Ok : Bool
  failedStages : List Str
  status : BasicRunStatus
  value : Json

/-- Whether any stage reached the target itself; a router answering a trace hop does not count. -/
def basicReachedTarget (r : BasicRunResult) : Bool :=
  (r.ping.any fun status => status = .reply) || r.trace.any id || r.tcp443Ok

structure TraceRunResult where
  /-- `statistics.received` of every hop. -/
  hops : List UInt64
  status : Path.TraceRunStatus
  value : Json

structure TuningResult where
  success : Bool
  value : Json

/-- How `f64` is displayed. -/
class FloatDisplay where
  display : Float → Str

section
variable [FloatDisplay]
open FloatDisplay

def Thresholds.breaches (t : Thresholds) (r : TestResult) : List Str :=
  let slow := match t.minThroughputMbps with
    | none => []
    | some min => [("TX".toList, r.txMbps), ("RX".toList, r.rxMbps)].filterMap fun (direction, rate) =>
      (rate.filter fun rate => rate < min).map fun rate =>
        direction ++ " throughput ".toList ++ display rate ++ " < ".toList ++ display min ++
          " Mbps".toList
  let lossy := match t.maxLossPct, r.lossPct with
    | some max, some actual =>
      if max < actual then
        ["Loss ".toList ++ display actual ++ "% > ".toList ++ display max ++ "%".toList]
      else []
    | _, _ => []
  let uneven := match t.maxJitterMs, r.jitterMs with
    | some max, some actual =>
      if max < actual then
        ["Jitter ".toList ++ display actual ++ " ms > ".toList ++ display max ++ " ms".toList]
      else []
    | _, _ => []
  slow ++ lossy ++ uneven

end

/-! ## Failures -/

section
variable [Json.FloatText]

/-- The host or test a measurement is about. -/
def measurementLabel (value : Json) : Str :=
  (((value.field "host").asStr.or ((value.field "item").field "host").asStr).or
    (((value.field "spec").field "target").asStr.map fun target =>
      target ++ " test ".toList ++ ((value.field "spec").field "id").render)).getD "measurement"

/-- Failure reasons from the serialized shapes of failed measurements, labelled by host or test. -/
def failureMessages (value : Json) : List Str :=
  let label := measurementLabel value ++ ": ".toList
  let stages := ((value.field "stage_errors").asArray.getD []).filterMap fun stage =>
    (stage.field "message").asStr.map fun message =>
      label ++ (stage.field "stage").asStr.getD "stage" ++ ": ".toList ++ message
  let errors := ((value.field "errors").asArray.getD []).filterMap fun error =>
    error.asStr.map fun message => label ++ message
  let error := match value.field "error" with
    | .string message => [label ++ message]
    | .object error => ((Entries.get? error "message").bind Json.asStr).toList.map (label ++ ·)
    | _ => []
  let messages := stages ++ errors ++ error
  if messages.isEmpty then [label ++ "measurement failed without a recorded reason".toList]
  else messages

end

def WARNING_CAP : Nat := 20

/-- The counters and warnings of a run. -/
structure Execution where
  completed : Nat
  failed : Nat
  skipped : Nat
  thresholdBreaches : Nat
  /-- Measurements with failed stages that still produced reachability data. -/
  degraded : Nat
  warnings : List Str
  omittedWarnings : Nat
  seenWarnings : List Str

def Execution.new : Execution where
  completed := 0
  failed := 0
  skipped := 0
  thresholdBreaches := 0
  degraded := 0
  warnings := []
  omittedWarnings := 0
  seenWarnings := []

/-- Adds a deduplicated warning; entries past the cap are counted for a final summary line. -/
def Execution.warn (e : Execution) (message : Str) : Execution :=
  if message ∈ e.seenWarnings then e
  else if WARNING_CAP ≤ e.warnings.length then
    { e with seenWarnings := message :: e.seenWarnings, omittedWarnings := e.omittedWarnings + 1 }
  else
    { e with seenWarnings := message :: e.seenWarnings, warnings := e.warnings ++ [message] }

/-! ## Calls -/

/-- What a call answers, whether the run was cancelled by then, and the world after it. -/
structure Reply (W α : Type) where
  value : α
  cancelled : Bool
  world : W

/-- The engines and the disk. -/
structure Engines (W : Type) where
  preflight : Throughput.SuiteConfig → W → Reply W (Except Error (Throughput.Resolved × Json))
  throughput : Throughput.TestSpec → Throughput.SuiteConfig → W → Reply W (Except Error TestResult)
  basic : Path.BasicPlanItem → Path.BasicSettings → W → Reply W (Except Error BasicRunResult)
  trace : Path.TracePlanItem → Path.TraceSettings → W → Reply W (Except Error TraceRunResult)
  /-- With the helper or without it, as the plan requires. -/
  tuning : Tuning.TuningPlan → Str → W → Reply W (Except Error TuningResult)
  /-- `atomic_json`, under the folder of the run. -/
  atomicJson : Str → Json → W → Reply W (Except Error Unit)
  progress : Nat → Option Str → W → Reply W Unit

structure Running (W : Type) where
  execution : Execution
  /-- What the counters were before, the latest first. -/
  past : List Execution
  cancelled : Bool
  world : W

def Running.start {W : Type} (cancelled : Bool) (world : W) : Running W :=
  ⟨Execution.new, [], cancelled, world⟩

/-- Every state of the counters so far. -/
def Running.moments {W : Type} (r : Running W) : List Execution := r.execution :: r.past

abbrev Run (W α : Type) := Act (Running W) Error α

section
variable {W α : Type}

def change (f : Execution → Execution) : Run W Unit :=
  Act.modify fun r => { r with execution := f r.execution, past := r.execution :: r.past }

/-- A cancelled run stays cancelled. -/
def call (op : W → Reply W α) : Run W α := fun r =>
  let reply := op r.world
  (.ok reply.value, { r with cancelled := r.cancelled || reply.cancelled, world := reply.world })

/-- `call(..)?`. -/
def callOk (op : W → Reply W (Except Error α)) : Run W α := do
  Act.lift (← call op)

/-- The same call next to a log, which it leaves as it is. -/
def beside {L : Type} (op : W → Reply W α) (s : W × L) : Reply (W × L) α :=
  let reply := op s.1
  ⟨reply.value, reply.cancelled, (reply.world, s.2)⟩

/-- `self.cancel.is_cancelled()`. -/
def isCancelled : Run W Bool := fun r => (.ok r.cancelled, r)

def completed : Run W Nat := fun r => (.ok r.execution.completed, r)

end

/-! ## Records -/

def RECORD_VERSION : UInt32 := 1

def ErrorCategory.name : ErrorCategory → Str
  | .validation => "validation"
  | .prerequisite => "prerequisite"
  | .connectivity => "connectivity"
  | .partialFailure => "partial_failure"
  | .totalFailure => "total_failure"
  | .internal => "internal"
  | .permission => "permission"
  | .cancelled => "cancelled"
  | .busy => "busy"

def Error.toValue (e : Error) : Json :=
  .ofFields [("category", .string e.category.name), ("message", .string e.message)]

/-- A flat structure as a `Value`, whose keys are sorted. -/
def toValue : Json → Json
  | .object fields => .ofFields fields
  | v => v

/-- The version of the package. -/
class Package where
  version : Str

def provenance [Package] [Host] : Json :=
  .ofFields
    [("engine", .string "network-lantern-rust"), ("version", .string Package.version),
     ("os", .string Host.os)]

/-- `{:08}`. -/
def eightDigits (n : Nat) : Str := List.replicate (8 - (decimal n).length) '0' ++ decimal n

section
variable {W : Type} [Json.FloatText] [Package] [Host] (engines : Engines W)

/-- `self.completed += 1`, and `self.failed += 1` where the measurement failed. -/
def countMeasurement (failed : Bool) : Run W Unit := do
  change fun e => { e with completed := e.completed + 1 }
  Act.when failed (change fun e => { e with failed := e.failed + 1 })

def warnAll (value : Json) : Run W Unit :=
  Act.forEach (failureMessages value) fun message => change fun e => e.warn message

/-- Counts a partly failed measurement and surfaces its stage errors. -/
def degrade (value : Json) : Run W Unit := do
  change fun e => { e with degraded := e.degraded + 1 }
  warnAll value

def record (value : Json) (failed : Bool) : Run W Unit := do
  countMeasurement failed
  Act.when failed (warnAll value)
  let n ← completed
  callOk (engines.atomicJson ("measurement-".toList ++ eightDigits n ++ ".json".toList)
    (.ofFields
      [("schema_version", .ofU32 RECORD_VERSION), ("provenance", provenance),
       ("measurement", value)]))
  let n ← completed
  call (engines.progress n
    (some (if failed then "Measurement failed" else "Measurement complete")))

end

/-! ## Stages -/

/-- The classes and directions that are saturated. -/
abbrev Saturated := List (Throughput.DscpClass × Throughput.Direction)

section
variable {W : Type} [FloatDisplay] [Json.FloatText] [Package] [Host] (engines : Engines W)

/-- What is saturated after a result. -/
def saturate (config : Throughput.SuiteConfig) (spec : Throughput.TestSpec) (result : TestResult)
    (saturated : Saturated) : Saturated :=
  if spec.phase = .udpSaturation ∧ result.lossPct.any (fun loss => config.udpLossThresholdPct ≤ loss)
  then (spec.dscp, spec.direction) :: saturated
  else saturated

/-- One turn of the loop over the tests. -/
def measureTest (config : Throughput.SuiteConfig) (thresholds : Thresholds)
    (spec : Throughput.TestSpec) (saturated : Saturated) : Run W Saturated := do
  if spec.phase = .udpSaturation ∧ (spec.dscp, spec.direction) ∈ saturated then do
    change fun e => { e with skipped := e.skipped + 1 }
    return saturated
  else
    match ← call (engines.throughput spec config) with
    | .ok result => do
      let breaches := thresholds.breaches result
      Act.when (!breaches.isEmpty)
        (change fun e => { e with thresholdBreaches := e.thresholdBreaches + 1 })
      record engines
        (.ofFields
          [("result", result.value), ("threshold_breaches", .array (breaches.map .string))]) false
      return saturate config spec result saturated
    | .error error =>
      if error.category = .cancelled then Act.fail error
      else do
        record engines
          (.ofFields [("spec", toValue spec.toJson), ("error", error.toValue)]) true
        return saturated

/-- The tests, until the run is cancelled. -/
def eachTest (config : Throughput.SuiteConfig) (thresholds : Thresholds) :
    List Throughput.TestSpec → Saturated → Run W Unit
  | [], _ => pure ()
  | spec :: tests, saturated => do
    if ← isCancelled then pure ()
    else do
      let saturated ← measureTest engines config thresholds spec saturated
      eachTest config thresholds tests saturated

def runThroughput (plan : Throughput.ThroughputPlan) (thresholds : Thresholds) : Run W Unit := do
  let n ← completed
  call (engines.progress n (some "Checking native reachability, TCP port and MTU"))
  let (resolved, preflight) ← callOk (engines.preflight plan.config)
  let n ← completed
  callOk (engines.atomicJson ("preflight-".toList ++ eightDigits n ++ ".json".toList) preflight)
  let plan := plan.retarget resolved
  Act.lift ((Throughput.checkLimits plan.config.connectTimeoutMs plan.config.controlTimeoutMs
    plan.config.maxControlJsonBytes).mapError throughputError)
  eachTest engines plan.config thresholds plan.testList []

def measureBasic (settings : Path.BasicSettings) (item : Path.BasicPlanItem) : Run W Unit := do
  match ← call (engines.basic item settings) with
  | .ok result => do
    let degraded := decide (result.status ≠ .completed) || !result.failedStages.isEmpty
    -- Failed only when no stage reached the target at all.
    let reachable := basicReachedTarget result
    Act.when (degraded && reachable) (degrade result.value)
    record engines result.value (degraded && !reachable)
  | .error error =>
    record engines
      (.ofFields [("item", toValue item.toJson), ("error", .string error.message)]) true

def measureTrace (settings : Path.TraceSettings) (item : Path.TracePlanItem) : Run W Unit := do
  match ← call (engines.trace item settings) with
  | .ok result => do
    let failed := result.hops.isEmpty || result.hops.all (· == 0)
    Act.when (!failed && decide (result.status ≠ .completed)) (degrade result.value)
    record engines result.value failed
  | .error error =>
    record engines
      (.ofFields [("item", toValue item.toJson), ("error", .string error.message)]) true

/-- The items, until the run is cancelled. -/
def eachItem {Item : Type} (measure : Item → Run W Unit) : List Item → Run W Unit
  | [] => pure ()
  | item :: items => do
    if ← isCancelled then pure ()
    else do
      measure item
      eachItem measure items

def runStage : Stage → Run W Unit
  | .throughput plan thresholds => runThroughput engines plan thresholds
  | .pathBasic plan settings => eachItem (measureBasic engines settings) plan.items
  | .pathTrace plan settings => eachItem (measureTrace engines settings) plan.items
  | .tuning plan hash => do
    let result ← callOk (engines.tuning plan hash)
    record engines result.value (!result.success)

end

section
variable {W : Type} [FloatDisplay] [Package] [Host] [Refusals] [Helper.Crates]
  (engines : Engines W)

def unlessCancelled (x : Run W Unit) : Run W Unit := do
  if ← isCancelled then Act.fail (.new .cancelled "Run cancelled") else x

/-- `run`, of a capability that runs alone. -/
def runSingle (req : Request) : Run W Unit :=
  unlessCancelled do
    let stage ← Act.lift (replan req)
    runStage engines stage

def run (req : Request) : Preview → Run W Unit
  | .single _ => runSingle engines req
  | .workflow preview =>
    unlessCancelled (Act.forEach preview.steps fun step => runSingle engines (stageRequest step))

end

end NetworkLantern.Runtime
