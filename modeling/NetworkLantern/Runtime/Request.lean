import NetworkLantern.Lib.Serde
import NetworkLantern.Runtime.Layers

/-!
# Requests

The envelope of a request, and the capabilities it may ask for.  A layer may be
a stored profile; its parameters take its place.
-/

namespace NetworkLantern.Runtime

open NetworkLantern

def PROFILE_LIMIT : Nat := 1024 * 1024

inductive Capability
  | throughput | pathBasic | pathTrace | workflow | tuning
deriving DecidableEq, Repr

namespace Capability

def asStr : Capability → Str
  | .throughput => "throughput"
  | .pathBasic => "path_basic"
  | .pathTrace => "path_trace"
  | .workflow => "workflow"
  | .tuning => "tuning"

def all : List Capability := [.throughput, .pathBasic, .pathTrace, .workflow, .tuning]

def parse (name : Str) : Except Error Capability :=
  match all.find? fun c => c.asStr == name with
  | some c => .ok c
  | none => .error (.validation "Unknown capability")

theorem parse_asStr (c : Capability) : parse c.asStr = .ok c := by
  cases c <;> rfl

end Capability

inductive Workflow
  | triage | path | throughput | baseline | windowsTuning
deriving DecidableEq, Repr

def Workflow.name : Workflow → Str
  | .triage => "triage"
  | .path => "path"
  | .throughput => "throughput"
  | .baseline => "baseline"
  | .windowsTuning => "windows_tuning"

def Workflow.names : List (Str × Workflow) :=
  [.triage, .path, .throughput, .baseline, .windowsTuning].map fun w => (w.name, w)

structure RawRequest where
  capability : Str
  layers : List Json
  strict : Bool
  workflow : Option Workflow
  expectedOperationHash : Option Str

namespace RawRequest

def fieldNames : List Str :=
  ["capability", "layers", "strict", "workflow", "expected_operation_hash"]

/-- A field that has a default. -/
def optional {α : Type} (read : Json → Option α) (fallback : α) : Option Json → Option α
  | none => some fallback
  | some v => read v

/-- `serde_json::from_value`: an object without other fields, or a sequence of
all the fields. -/
def ofJson : Json → Option RawRequest
  | .object e =>
    if e.all fun x => fieldNames.contains x.1 then do
      let capability ← Json.required Json.asStr e "capability"
      let layers ← optional Json.asArray [] (Entries.get? e "layers")
      let strict ← optional Json.asBool false (Entries.get? e "strict")
      let workflow ← optional (Json.toOption (Json.toVariant Workflow.names)) none
        (Entries.get? e "workflow")
      let hash ← optional (Json.toOption Json.asStr) none
        (Entries.get? e "expected_operation_hash")
      return ⟨capability, layers, strict, workflow, hash⟩
    else none
  | .array [capability, layers, strict, workflow, hash] => do
    return ⟨← capability.asStr, ← layers.asArray, ← strict.asBool,
      ← Json.toOption (Json.toVariant Workflow.names) workflow, ← Json.toOption Json.asStr hash⟩
  | _ => none

end RawRequest

structure Request where
  capability : Capability
  layers : List Json
  strict : Bool
  workflow : Option Workflow
  expectedOperationHash : Option Str

variable [Refusals]

def envelopeKeys : List Str := ["schema_version", "capability", "parameters", "workflow"]

def isEnvelope (layer : Json) : Bool :=
  (layer.get? "schema_version").isSome || (layer.get? "capability").isSome

def validEnvelope (layer : Json) : Bool :=
  (layer.get? "schema_version").bind Json.asU64 == some 1 &&
    ((layer.get? "parameters").any fun v => v.asObject.isSome) &&
    (layer.asObject.any fun e => e.all fun x => envelopeKeys.contains x.1)

/-- The workflow that a saved profile selects, against the one selected so far. -/
def savedWorkflow (capability : Str) (selected : Option Workflow) (layer : Json) :
    Except Error (Option Workflow) :=
  match layer.get? "workflow" with
  | none => .ok selected
  | some flow =>
    if capability = "workflow".toList then do
      let saved ← decoded "Workflow" flow (Json.toVariant Workflow.names flow)
      refuse (selected.any (· ≠ saved))
        (.validation "Saved workflow does not match the selected workflow")
      return some saved
    else .ok selected

/-- One layer: the parameters of a profile, or the layer itself. -/
def unwrapLayer (capability : Str) (acc : Option Workflow × List Json) (layer : Json) :
    Except Error (Option Workflow × List Json) :=
  if isEnvelope layer then do
    refuse (!validEnvelope layer) (.validation "Invalid or unsupported profile envelope")
    refuse (decide ((layer.field "capability").asStr ≠ some capability))
      (.validation "Profile capability does not match requested capability")
    let selected ← savedWorkflow capability acc.1 layer
    match layer.get? "parameters" with
    | none => .error (.validation "Profile parameters missing")
    | some parameters => .ok (selected, acc.2 ++ [parameters])
  else .ok (acc.1, acc.2 ++ [layer])

variable [Json.FloatText]

/-- `request`. -/
def request (value : Json) : Except Error Request := do
  refuse (decide (PROFILE_LIMIT < value.size)) (.validation "Request exceeds 1 MiB")
  let raw ← decoded "RawRequest" value (RawRequest.ofJson value)
  let (workflow, layers) ← raw.layers.foldlM (unwrapLayer raw.capability) (raw.workflow, [])
  let capability ← Capability.parse raw.capability
  return { capability, layers, strict := raw.strict, workflow
           expectedOperationHash := raw.expectedOperationHash }

/-- `json!({"capability": .., "layers": [layer], "strict": ..})`. -/
def layerRequest (capability : Capability) (layer : Json) (strict : Bool) : Json :=
  .ofFields
    [("capability", .string capability.asStr), ("layers", .array [layer]), ("strict", .bool strict)]

end NetworkLantern.Runtime
