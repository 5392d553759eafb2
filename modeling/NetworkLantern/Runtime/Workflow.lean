import NetworkLantern.Runtime.PathConfig
import NetworkLantern.Runtime.Request
import NetworkLantern.Throughput.Plan
import NetworkLantern.Tuning.Canonical

/-!
# Workflows

The sections of a workflow profile, resolved over their defaults and checked,
and the steps that a workflow makes of them.
-/

namespace NetworkLantern.Runtime

open NetworkLantern

/-- A step and its parameters. -/
inductive Step
  | path (parameters : Json)
  | throughput (parameters : Json)
  | windowsTuning (parameters : Json)

structure WorkflowPlan where
  workflow : Workflow
  steps : List Step
  warnings : List Str

inductive Section
  | path | throughput | windowsTuning
deriving DecidableEq, Repr

def Section.name : Section → Str
  | .path => "path"
  | .throughput => "throughput"
  | .windowsTuning => "windowsTuning"

def Section.all : List Section := [.path, .throughput, .windowsTuning]

/-- The resolved value of each section. -/
structure Sections where
  path : Entries Json
  throughput : Entries Json
  windowsTuning : Entries Json

namespace Sections

def get (s : Sections) : Section → Entries Json
  | .path => s.path
  | .throughput => s.throughput
  | .windowsTuning => s.windowsTuning

def set (s : Sections) (name : Section) (v : Entries Json) : Sections :=
  match name with
  | .path => { s with path := v }
  | .throughput => { s with throughput := v }
  | .windowsTuning => { s with windowsTuning := v }

@[simp] theorem get_set_self (s : Sections) (name : Section) (v : Entries Json) :
    (s.set name v).get name = v := by
  cases name <;> rfl

end Sections

/-- The keys a throughput section has beside those of the suite. -/
def throughputExtras : List (Str × Json) :=
  [("bidirectional", .bool true), ("min_throughput_mbps", .null), ("max_loss_pct", .null),
   ("max_jitter_ms", .null)]

/-- The defaults of the throughput capability. -/
def throughputDefaults : Entries Json :=
  throughputExtras.foldl (fun es f => Entries.insert f.1 f.2 es)
    Throughput.SuiteConfig.default.toEntries

/-- The defaults of a throughput section: no target yet, and no budget. -/
def sectionThroughputDefaults : Entries Json :=
  Entries.insert "target" .null (Entries.insert "max_total_tests" (.ofNat 0) throughputDefaults)

def Sections.defaults : Sections where
  path := PathConfig.default.toEntries
  throughput := sectionThroughputDefaults
  windowsTuning := Tuning.TuningConfig.default.toEntries

/-! ## Resolution -/

/-- `warn`. -/
def warn (strict : Bool) (warnings : List Str) (message : Str) : Except Error (List Str) :=
  if strict then .error (.validation message) else .ok (warnings ++ [message])

def findSection (name : Str) : Option Section :=
  Section.all.find? fun s => Str.eqCI s.name name

/-- The native form of the values of a section. -/
def translateSection (name : Section) (values : Json) : Except Error Json :=
  match name with
  | .path => translate values
  | .throughput => legacyThroughput values
  | .windowsTuning => .ok values

abbrev Resolved := Sections × List Str

/-- One entry of a workflow layer. -/
def resolveSection (strict : Bool) (acc : Resolved) (e : Str × Json) : Except Error Resolved :=
  match findSection e.1 with
  | none => do
    let warnings ← warn strict acc.2
      ("Unknown workflow profile section '".toList ++ e.1 ++ "' ignored".toList)
    return (acc.1, warnings)
  | some name =>
    if e.2.asObject.isNone then do
      let warnings ← warn strict acc.2
        ("Workflow section '".toList ++ e.1 ++ "' is not an object and was ignored".toList)
      return (acc.1, warnings)
    else do
      let translated ← translateSection name e.2
      let (merged, notes) ← mergeLayers (acc.1.get name) [translated] strict
      return (acc.1.set name merged, acc.2 ++ notes.map fun note => e.1 ++ ": ".toList ++ note)

def resolveLayer (strict : Bool) (acc : Resolved) (layer : Json) : Except Error Resolved :=
  if layer.isNull then .ok acc
  else
    match layer.asObject with
    | none => .error (.validation "Workflow configuration must be an object")
    | some entries => entries.foldlM (resolveSection strict) acc

/-! ## Checks -/

def strings (v : Json) (name : Str) : Except Error (List Str) :=
  match v.asStr, v.asArray with
  | some text, _ => .ok [text]
  | none, none => .error (.validation (name ++ " must be a string or array".toList))
  | none, some values => values.mapM fun v =>
    match v.asStr with
    | some s => .ok s
    | none => .error (.validation (name ++ " must contain strings".toList))

def integer (v : Json) (name : Str) (min max : Nat) : Except Error Unit :=
  match v.asU64 with
  | some n =>
    if min ≤ n.toNat ∧ n.toNat ≤ max then .ok ()
    else .error (.validation (name ++ " must be an integer between ".toList ++ decimal min ++
      " and ".toList ++ decimal max))
  | none => .error (.validation (name ++ " must be an integer between ".toList ++ decimal min ++
      " and ".toList ++ decimal max))

def choice (v : Json) (name : Str) (allowed : List Str) : Except Error Unit :=
  refuse (!v.asStr.any fun s => allowed.contains (Str.lower s))
    (.validation ("Invalid ".toList ++ name))

variable [Refusals]

/-- The checks on the path section. -/
def checkPath (path : Entries Json) : Except Error Unit := do
  let named := fun key => (Json.object path).field key
  ["hosts_ipv4".toList, "hosts_ipv6".toList, "protocols".toList, "rounds".toList].forM fun key => do
    let _ ← strings (named key) ("path.".toList ++ key)
  let protocols ← strings (named "protocols") "path.protocols"
  protocols.forM fun protocol =>
    refuse (!(["ipv4".toList, "ipv6".toList].contains (Str.lower protocol)))
      (.validation "path.protocols supports IPv4 and IPv6")

/-- The checks on the other sections that come before the path plan. -/
def checkShapes (throughput tuning : Entries Json) : Except Error Unit := do
  let rate := fun key => (Json.object throughput).field key
  let tune := fun key => (Json.object tuning).field key
  integer (rate "port") "throughput.port" 1 65535
  integer (rate "max_total_tests") "throughput.maxTotalTests" 0 1000000
  choice (rate "protocol") "throughput.protocol" ["tcp", "udp", "both"]
  choice (tune "action") "windowsTuning.action" ["apply", "backup", "restore", "verify"]
  choice (tune "profile") "windowsTuning.profile" ["safe", "measured"]
  let _ ← strings (tune "appPaths") "windowsTuning.appPaths"
  match (tune "udpPorts").asArray with
  | none => .error (.validation "udpPorts must be an array")
  | some ports => ports.forM fun port => integer port "udpPorts" 0 65535
  refuse (!(rate "target").isNull && (rate "target").asStr.isNone)
    (.validation "throughput.target must be a string")

/-- The section as `check_throughput` sees it: with some target, without a budget. -/
def checkedThroughput (throughput : Entries Json) : Entries Json :=
  let named :=
    if ((Json.object throughput).field "target").isNull then
      Entries.insert "target" (.string "profile-validation.invalid") throughput
    else throughput
  Entries.insert "max_total_tests" (.ofNat 0) named

def checkSections (s : Sections) (checkThroughput : Json → Except Error Unit) :
    Except Error Unit := do
  checkPath s.path
  checkShapes s.throughput s.windowsTuning
  let (config, _) ← resolve [.object s.path] true false
  let _ ← config.basic
  refuse ((Json.object s.windowsTuning).field "includeAppPolicies").asBool.isNone
    (.validation "windowsTuning.includeAppPolicies must be true or false")
  checkThroughput (.object (checkedThroughput s.throughput))

/-! ## Steps -/

def hasTarget (throughput : Entries Json) : Bool :=
  ((Json.object throughput).field "target").asStr.any fun s => !Str.isBlank s

def pathSteps (workflow : Workflow) (s : Sections) : List Step :=
  if workflow = .triage ∨ workflow = .path ∨ workflow = .baseline then [.path (.object s.path)]
  else []

/-- Whether a throughput step is planned. -/
def plansThroughput (workflow : Workflow) (throughput : Entries Json) : Bool :=
  workflow = .throughput || workflow = .baseline || workflow = .triage && hasTarget throughput

/-- A baseline makes a single test. -/
def throughputParameters (workflow : Workflow) (throughput : Entries Json) : Entries Json :=
  if workflow = .baseline then Entries.insert "single_test" (.bool true) throughput else throughput

def throughputSteps (workflow : Workflow) (s : Sections) : List Step :=
  if plansThroughput workflow s.throughput then
    [.throughput (.object (throughputParameters workflow s.throughput))]
  else []

def tuningSteps (workflow : Workflow) (s : Sections) : List Step :=
  if workflow = .windowsTuning then [.windowsTuning (.object s.windowsTuning)] else []

def skippedWarning : Str := "Throughput skipped: no target provided for Triage workflow"

/-- The steps of a workflow over resolved sections. -/
def workflowSteps (workflow : Workflow) (s : Sections) : List Step :=
  pathSteps workflow s ++ throughputSteps workflow s ++ tuningSteps workflow s

/-- `workflow::plan`. -/
def planWorkflow (workflow : Workflow) (profile explicit : Json) (strict : Bool)
    (checkThroughput : Json → Except Error Unit) : Except Error WorkflowPlan := do
  let (s, warnings) ← [profile, explicit].foldlM (resolveLayer strict) (Sections.defaults, [])
  checkSections s checkThroughput
  refuse ((workflow = .throughput || workflow = .baseline) && !hasTarget s.throughput)
    (.validation "A throughput target is required")
  return { workflow
           steps := workflowSteps workflow s
           warnings :=
             if workflow = .triage ∧ !hasTarget s.throughput then warnings ++ [skippedWarning]
             else warnings }

end NetworkLantern.Runtime
