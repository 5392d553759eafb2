import NetworkLantern.Lib.JsonPretty
import NetworkLantern.Lib.JsonReread
import NetworkLantern.Lib.SharedFile
import NetworkLantern.Runtime.Application

/-!
# The profile store

One file holds the profiles of a user by name.  The command line and the desktop read
and rewrite it at the same time: a change is made under the lock of the store, from the
document that is read behind it.
-/

namespace NetworkLantern.Runtime

open NetworkLantern

/-! ## What may be stored -/

/-- `validate_name`. -/
def validateName (name : Str) : Except Error Unit :=
  refuse (Str.isBlank name || decide (128 < name.length) ||
      name.any fun c => Str.isControl c || "/\\:*?\"<>|".toList.contains c)
    (.validation "Profile name must be 1–128 characters without control or path characters")

/-- A budget that no plan may have. -/
def invalidBudget (e : Str × Json) : Bool :=
  (Str.eqCI e.1 "max_total_tests" || Str.eqCI e.1 "MaxTotalTests") && !e.2.isNull &&
    !(e.2.asU64.any fun n => n ≤ 1000000)

section
variable [Refusals] [Helper.Crates] [Host]

/-- `resolve_workflow`. -/
def resolveWorkflow (workflow : Workflow) (profile explicit : Json) (strict : Bool) :
    Except Error WorkflowPlan :=
  planWorkflow workflow profile explicit strict checkWorkflowThroughput

/-- `validate_parameters`, of the entries of a throughput profile without an envelope. -/
def validateThroughput (entries : Entries Json) : Except Error Unit := do
  let candidate :=
    if entries.any fun e => Str.eqCI e.1 "target" then entries
    else entries.insert "target" (.string "profile-validation.invalid")
  refuse (candidate.any invalidBudget)
    (.validation "max_total_tests must be a nonnegative integer or null")
  let _ ← planRequest
    (layerRequest .throughput (.object (candidate.insert "max_total_tests" (.ofNat 0))) true)

/-- `validate_parameters`. -/
def validateParameters (parameters : Json) : Except Error Unit := do
  refuse (decide (PROFILE_LIMIT < parameters.size)) (.validation "Profile exceeds 1 MiB")
  match parameters with
  | .object entries =>
    if isEnvelope parameters then do
      let _ ← planRequest (.ofFields [("capability", parameters.field "capability"),
        ("layers", .array [parameters]), ("strict", .bool true)])
    else if ["path", "throughput", "windowsTuning"].any fun (key : String) =>
        (parameters.get? key).isSome then do
      let _ ← resolveWorkflow .triage parameters (.object []) true
    else validateThroughput entries
  | _ => .error (.validation "Profile must be a JSON object")

end

/-! ## The file -/

/-- A file of another program, and what `from_slice` makes of it behind a byte order
mark.  The maps of the crate are sorted, and it goes down to a limit. -/
structure Foreign where
  bytes : Bytes
  parsed : Except Str Json
  sorted : ∀ v entries, parsed = .ok v → v.get? "profiles" = some (.object entries) →
    Entries.Sorted entries
  shallow : ∀ v, parsed = .ok v → v.depth ≤ Json.RECURSION_LIMIT

inductive Content
  | foreign (file : Foreign)
  /-- A document that `atomic_json` moved into its place. -/
  | record (v : Json)

section
variable [Json.FloatText] [Refusals] [Json.FloatReread]

def Content.size : Content → Nat
  | .foreign file => file.bytes.length
  | .record v => v.pretty.byteLen

/-- `from_slice`, behind a byte order mark. -/
def Content.parsed : Content → Except Str Json
  | .foreign file => file.parsed
  | .record v =>
    match v.readBack with
    | some w => .ok w
    | none => .error (Refusals.text "Value" v)

/-- `read_json`. -/
def readJson (content : Content) (limit : Nat) : Except Error Json := do
  refuse (decide (limit < content.size))
    (.validation ("File exceeds ".toList ++ decimal limit ++ " bytes".toList))
  match content.parsed with
  | .ok v => return v
  | .error e => .error (.validation ("Invalid JSON: ".toList ++ e))

/-- `atomic_json`, up to the calls on the disk: the file that it is to publish. -/
def recordJson (v : Json) (limit : Nat) : Except Error Content := do
  refuse (decide (limit < v.pretty.byteLen))
    (.validation ("Record exceeds ".toList ++ decimal limit ++ " bytes".toList))
  return .record v

/-! ## The store -/

/-- The store as every process of a run opens it; processes of mixed elevation are not
modelled. -/
structure ProfileStore where
  /-- `self.path.is_absolute()`. -/
  absolute : Bool
  /-- `is_elevated()`, of the process that opens the store. -/
  elevated : Except Error Bool

namespace ProfileStore

variable (store : ProfileStore)

def validateProvenance : Except Error Unit :=
  if store.absolute then .ok () else do
    refuse (← store.elevated)
      (.validation "Elevated profile access requires an explicit absolute path")

def read (file : Option Content) : Except Error Json := do
  store.validateProvenance
  match file with
  | none => return .ofFields [("version", .ofNat 2), ("profiles", .object [])]
  | some content => do
    let value ← readJson content PROFILE_LIMIT
    refuse (!((value.get? "profiles").any fun v => v.asObject.isSome))
      (.validation "Profile store must contain a profiles object")
    return value

/-- `self.read()?["profiles"].as_object().unwrap()`. -/
def profiles (value : Json) : Entries Json := ((value.field "profiles").asObject).getD []

def list (file : Option Content) : Except Error (List Str) := do
  let value ← store.read file
  return (profiles value).keys

def get (name : Str) (file : Option Content) : Except Error Json := do
  validateName name
  let value ← store.read file
  match (value.field "profiles").get? name with
  | some v => return v
  | none => .error (.validation ("Profile '".toList ++ name ++ "' does not exist".toList))

/-- `save`, with the lock held: the file that it publishes. -/
def save (name : Str) (parameters : Json) (now : Str) (file : Option Content) :
    Except Error Content := do
  let value ← store.read file
  let value := value.setField "profiles" ((value.field "profiles").setField name parameters)
  let value := value.setField "version" (.ofNat 2)
  recordJson (value.setField "updatedUtc" (.string now)) PROFILE_LIMIT

/-- `delete`, with the lock held: the file that it publishes, if there is such a profile. -/
def delete (name : Str) (now : Str) (file : Option Content) : Except Error (Option Content) := do
  let value ← store.read file
  if ((profiles value).get? name).isSome then do
    let value := value.setField "profiles" (.object ((profiles value).remove name))
    let content ← recordJson (value.setField "updatedUtc" (.string now)) PROFILE_LIMIT
    return some content
  else return none

end ProfileStore

end

inductive ProfileRequest
  | list
  | get (name : Str)
  | save (name : Str) (parameters : Json)
  | delete (name : Str)

inductive ProfileAnswer
  | names (ns : List Str)
  | profile (v : Json)
  | saved
  | deleted (removed : Bool)

section
variable [Refusals] [Helper.Crates] [Host] [Json.FloatReread]

/-- What a change answers, and the file that it leaves in place. -/
def published (result : Except Error (Option Content × ProfileAnswer)) :
    Option (Option Content) × Except Error ProfileAnswer :=
  match result with
  | .ok (some content, answer) => (some (some content), .ok answer)
  | .ok (none, answer) => (none, .ok answer)
  | .error e => (none, .error e)

/-- The checks of a change before the lock, and the change behind it. -/
def locking (checks : Except Error Unit)
    (write : Str → Option Content → Option (Option Content) × Except Error ProfileAnswer) :
    FileCall Str (Option Content) (Except Error ProfileAnswer) :=
  match checks with
  | .ok () => .edit write
  | .error e => .view fun _ _ => .error e

/-- What each request does with the file.  The lock checks where the store is, like
every read. -/
def ProfileStore.call (store : ProfileStore) :
    ProfileRequest → FileCall Str (Option Content) (Except Error ProfileAnswer)
  | .list => .view fun _ file => .names <$> store.list file
  | .get name => .view fun _ file => .profile <$> store.get name file
  | .save name parameters =>
    locking (do validateName name; validateParameters parameters; store.validateProvenance)
      fun now file => published ((fun c => (some c, .saved)) <$> store.save name parameters now file)
  | .delete name =>
    locking (do validateName name; store.validateProvenance)
      fun now file => published ((fun c => (c, .deleted c.isSome)) <$> store.delete name now file)

end

end NetworkLantern.Runtime
