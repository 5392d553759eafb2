import NetworkLantern.Lib.Act
import NetworkLantern.Lib.Csv
import NetworkLantern.Lib.Digits
import NetworkLantern.Lib.Xml
import NetworkLantern.Tuning.Manifest
import NetworkLantern.Tuning.Wmi

/-!
# The machine and its calls

A run works on a `World`: the settings of the machine, the backup folders, and a
script that says which of the coming calls fail.  Every call to Windows goes
through `external`: it takes the next entry of the script, and a call that fails
changes nothing.

What a run has changed is kept in `log`, newest first; no program reads it.
-/

namespace NetworkLantern.Tuning

open NetworkLantern

/-! ## Settings -/

structure Guid where
  data1 : UInt32
  data2 : UInt16
  data3 : UInt16
  data4 : Vector UInt8 8
deriving DecidableEq, Repr

/-- The lower-case hyphenated form. -/
def Guid.format (guid : Guid) : Str :=
  hexFixed 8 guid.data1.toNat ++ '-' :: hexFixed 4 guid.data2.toNat ++ '-' ::
    hexFixed 4 guid.data3.toNat ++ '-' ::
    (guid.data4.toList.take 2).flatMap (fun b => hexFixed 2 b.toNat) ++ '-' ::
    (guid.data4.toList.drop 2).flatMap (fun b => hexFixed 2 b.toNat)

/-- The type and the bytes of a registry value. -/
structure RegistryData where
  kind : Nat
  bytes : Bytes
deriving DecidableEq, Repr

/-- The name that identifies a policy instance, in lower case. -/
def policyKey (policy : Fields) : Option Str :=
  match policy "Name" with
  | some (.string name) => some name.lower
  | _ => none

/-- The policies of the machine: no two have one name. -/
structure QosStore where
  rows : List Fields
  distinct : (rows.filterMap policyKey).Nodup

namespace QosStore

/-- The names of a store, in lower case. -/
def keys (store : QosStore) : List Str := store.rows.filterMap policyKey

/-- A new policy; a policy of that name must not exist. -/
def create (store : QosStore) (policy : Fields) : Option QosStore :=
  if h : ∃ key, policyKey policy = some key ∧ key ∉ store.keys then
    some
      { rows := store.rows ++ [policy]
        distinct := by
          obtain ⟨key, hk, hnew⟩ := h
          rw [List.filterMap_append, List.filterMap_cons, hk, List.filterMap_nil,
            List.nodup_append]
          refine ⟨store.distinct, List.nodup_singleton _, fun a ha b hb => ?_⟩
          rw [List.mem_singleton.mp hb]
          rintro rfl
          exact hnew ha }
  else none

/-- The store without the policy of a name. -/
def delete (store : QosStore) (key : Str) : QosStore where
  rows := store.rows.filter fun policy => policyKey policy ≠ some key
  distinct := store.distinct.sublist (List.filter_sublist.filterMap _)

end QosStore

/-- The provider classes. -/
inductive CimClass
  | netQosPolicy | netAdapter | advancedProperty | rscSetting
deriving DecidableEq, Repr

/-- Which name a new policy has to be free. -/
theorem QosStore.create_eq_some {store store' : QosStore} {policy : Fields} {key : Str}
    (hk : policyKey policy = some key) :
    store.create policy = some store' ↔ key ∉ store.keys ∧ store'.rows = store.rows ++ [policy] := by
  have hfree : (∃ key, policyKey policy = some key ∧ key ∉ store.keys) ↔ key ∉ store.keys := by
    rw [hk]
    simp
  unfold QosStore.create
  by_cases hnew : key ∉ store.keys
  · rw [dif_pos (hfree.mpr hnew)]
    constructor
    · intro h
      cases h
      exact ⟨hnew, rfl⟩
    · rintro ⟨-, hr⟩
      cases store'
      subst hr
      rfl
  · rw [dif_neg fun h => hnew (hfree.mp h)]
    exact ⟨fun h => (by cases h), fun h => absurd h.1 hnew⟩

@[ext] structure Machine where
  registry : Str → Str → Option RegistryData
  qos : QosStore
  adapters : List Fields
  nic : List Fields
  rsc : List Fields
  power : Guid

def Machine.instances (machine : Machine) : CimClass → List Fields
  | .netQosPolicy => machine.qos.rows
  | .netAdapter => machine.adapters
  | .advancedProperty => machine.nic
  | .rscSetting => machine.rsc

/-! ## The world of a run -/

/-- A backup folder: which directory it is, its decoded manifest and its artifact files. -/
structure Tree where
  identity : Nat
  manifest : Except TuningError BackupManifest
  artifacts : ArtifactKind → Option Bytes

/-- What a failing call reports.  `ERROR_FILE_NOT_FOUND` is not among them: it is the answer
that a value is absent. -/
structure Failure where
  code : Int
  message : Str
  found : code ≠ 2

/-- What a call has changed. -/
inductive Mutation
  | registry (key name : Str)
  | policyDeleted (name : Str)
  | policyCreated (name : Str)
  | nicProperty (adapter keyword : Option Str)
  | rsc (adapter : Option Str)
  | powerPlan
  | folderRemoved (path : Path) (folders : Path → Option Tree)

structure World where
  machine : Machine
  folders : Path → Option Tree
  script : List (Option Failure)
  fresh : Nat
  log : List Mutation

/-- Libraries and surroundings of the program. -/
structure Env where
  xml : XmlReader
  csv : CsvFormat
  sha256 : Bytes → Str
  parseUuid : Str → Option Guid
  timestamp : Nat → Str
  programData : Str

/-- What the program relies on. -/
structure Env.Lawful (env : Env) : Prop where
  xml : env.xml.Lawful
  csv : env.csv.Lossless
  parseUuid : ∀ guid : Guid, env.parseUuid guid.format = some guid

abbrev Run := Act World TuningError

namespace World

/-- Whether the next call fails. -/
def nextFailure (w : World) : Option Failure := w.script.head?.join

def advance (w : World) : World := { w with script := w.script.tail }

def record (w : World) (m : Mutation) : World := { w with log := m :: w.log }

def setQos (w : World) (qos : QosStore) : World := { w with machine := { w.machine with qos } }

def setRegistry (w : World) (key name : Str) (data : Option RegistryData) : World :=
  { w with machine := { w.machine with
    registry := fun k n => if k = key ∧ n = name then data else w.machine.registry k n } }

def setNic (w : World) (nic : List Fields) : World := { w with machine := { w.machine with nic } }

def setRsc (w : World) (rsc : List Fields) : World := { w with machine := { w.machine with rsc } }

def setPower (w : World) (power : Guid) : World := { w with machine := { w.machine with power } }

def setFolder (w : World) (path : Path) (tree : Option Tree) : World :=
  { w with folders := fun p => if p = path then tree else w.folders p }

@[simp] theorem advance_machine (w : World) : w.advance.machine = w.machine := rfl
@[simp] theorem advance_folders (w : World) : w.advance.folders = w.folders := rfl
@[simp] theorem advance_log (w : World) : w.advance.log = w.log := rfl
@[simp] theorem advance_fresh (w : World) : w.advance.fresh = w.fresh := rfl
@[simp] theorem record_machine (w : World) (m : Mutation) : (w.record m).machine = w.machine := rfl
@[simp] theorem record_folders (w : World) (m : Mutation) : (w.record m).folders = w.folders := rfl
@[simp] theorem record_log (w : World) (m : Mutation) : (w.record m).log = m :: w.log := rfl
@[simp] theorem setFolder_machine (w : World) (p : Path) (t : Option Tree) :
    (w.setFolder p t).machine = w.machine := rfl
@[simp] theorem setFolder_log (w : World) (p : Path) (t : Option Tree) :
    (w.setFolder p t).log = w.log := rfl

/-- The next calls, so many of them, do not fail. -/
def Passes (w : World) (n : Nat) : Prop := ∀ f ∈ w.script.take n, f = none

instance (w : World) (n : Nat) : Decidable (w.Passes n) :=
  decidable_of_iff ((w.script.take n).all Option.isNone = true) <| by
    simp only [Passes, List.all_eq_true, Option.isNone_iff_eq_none]

theorem passes_succ {w : World} {n : Nat} :
    w.Passes (n + 1) ↔ w.nextFailure = none ∧ w.advance.Passes n := by
  unfold Passes nextFailure advance
  cases w.script with
  | nil => simp
  | cons f fs =>
    cases f with
    | none => simp
    | some f => simp

end World

/-! ## Calls -/

/-- A call to Windows: it fails as the script says, or does what `perform` says. -/
def external {α : Type} (failure : Failure → TuningError)
    (perform : World → Except TuningError (α × World)) : Run α := fun w =>
  match w.nextFailure with
  | some f => (.error (failure f), w.advance)
  | none =>
    match perform w.advance with
    | .ok (a, w') => (.ok a, w')
    | .error e => (.error e, w.advance)

theorem external_ok {α : Type} {failure : Failure → TuningError}
    {perform : World → Except TuningError (α × World)} {w w' : World} {a : α} :
    external failure perform w = (.ok a, w') ↔
      w.nextFailure = none ∧ perform w.advance = .ok (a, w') := by
  unfold external
  cases w.nextFailure with
  | some f => simp
  | none => rcases hp : perform w.advance with e | ⟨b, v⟩ <;> simp

/-- A failed call changes nothing. -/
theorem external_error {α : Type} {failure : Failure → TuningError}
    {perform : World → Except TuningError (α × World)} {w w' : World} {e : TuningError}
    (h : external failure perform w = (.error e, w')) : w' = w.advance := by
  unfold external at h
  cases hf : w.nextFailure with
  | some f => rw [hf] at h; cases h; rfl
  | none =>
    rw [hf] at h
    rcases hp : perform w.advance with e' | ⟨b, v⟩
    · rw [hp] at h; cases h; rfl
    · rw [hp] at h; cases h

theorem external_keeps {α : Type} {R : World → World → Prop} {failure : Failure → TuningError}
    {perform : World → Except TuningError (α × World)} (hr : ∀ w, R w w.advance)
    (hp : ∀ w a w', perform w.advance = .ok (a, w') → R w w') :
    Act.Keeps R (external failure perform) := by
  intro w
  rcases he : external failure perform w with ⟨r, w'⟩
  cases r with
  | ok a => exact hp w a w' (external_ok.mp he).2
  | error e => rw [external_error he]; exact hr w

/-- A call that only reads. -/
def inspect {α : Type} (failure : Failure → TuningError) (read : World → Except TuningError α) :
    Run α :=
  external failure fun w => (read w).map (·, w)

theorem inspect_ok {α : Type} {failure : Failure → TuningError} {read : World → Except TuningError α}
    {w w' : World} {a : α} :
    inspect failure read w = (.ok a, w') ↔
      w.nextFailure = none ∧ w' = w.advance ∧ read w.advance = .ok a := by
  unfold inspect
  rw [external_ok]
  cases read w.advance <;> simp [Except.map, and_comm, eq_comm]

/-- A call that reads leaves everything as it is, but for the script. -/
theorem inspect_snd {α : Type} (failure : Failure → TuningError) (read : World → Except TuningError α)
    (w : World) : (inspect failure read w).2 = w.advance := by
  rcases he : inspect failure read w with ⟨r, w'⟩
  cases r with
  | ok a => exact (inspect_ok.mp he).2.1
  | error e => exact external_error he

theorem inspect_keeps {α : Type} {R : World → World → Prop} {failure : Failure → TuningError}
    {read : World → Except TuningError α} (hr : ∀ w, R w w.advance) :
    Act.Keeps R (inspect failure read) := by
  intro w
  rw [inspect_snd]
  exact hr w

/-- A call that changes the world. -/
def change (failure : Failure → TuningError) (update : World → Except TuningError World) : Run Unit :=
  external failure fun w => (update w).map ((), ·)

theorem change_ok {failure : Failure → TuningError} {update : World → Except TuningError World}
    {w w' : World} :
    change failure update w = (.ok (), w') ↔
      w.nextFailure = none ∧ update w.advance = .ok w' := by
  unfold change
  rw [external_ok]
  cases update w.advance <;> simp [Except.map]

theorem change_error {failure : Failure → TuningError} {update : World → Except TuningError World}
    {w w' : World} {e : TuningError} (h : change failure update w = (.error e, w')) :
    w' = w.advance := external_error h

theorem change_keeps {R : World → World → Prop} {failure : Failure → TuningError}
    {update : World → Except TuningError World} (hr : ∀ w, R w w.advance)
    (hu : ∀ w w', update w.advance = .ok w' → R w w') : Act.Keeps R (change failure update) := by
  refine external_keeps hr fun w a w' h => hu w w' ?_
  cases hup : update w.advance with
  | error e => rw [hup] at h; cases h
  | ok v => rw [hup] at h; cases h; rfl

/-- `check_cancel` on a token that may be cancelled at any time. -/
def checkCancel : Run Unit := inspect (fun _ => .cancelled) fun _ => .ok ()

/-- A number no call has drawn before. -/
def freshNumber : Run Nat := fun w => (.ok w.fresh, { w with fresh := w.fresh + 1 })

/-! ## Provider session -/

def nativeFailure (operation : Str) (f : Failure) : TuningError := .native operation f.code f.message

def providerError (operation message : Str) : TuningError := .native operation (-1) message

/-- The properties a query asks for. -/
def Fields.select (fields : List String) (instance_ : Fields) : Fields :=
  fun k => if k ∈ fields then instance_ k else none

theorem Fields.select_of_mem {fields : List String} {k : String} (h : k ∈ fields)
    (instance_ : Fields) : instance_.select fields k = instance_ k := if_pos h

/-- The object path of a policy that the provider made. -/
def objectPath (name : Str) : Str := "MSFT_NetQosPolicySettingData.Name=\"".toList ++ name ++ ['"']

namespace Session

def maxRows : Nat := 4096

/-- The rows of the instances that meet a condition. -/
def rows (instances : List Fields) (fields : List String) (condition : Fields → Bool) : List Row :=
  ((instances.mapIdx fun index f => (index, f)).filter fun entry => condition entry.2).map
    fun entry => ⟨entry.1, entry.2.select fields⟩

def queryWhere (cls : CimClass) (fields : List String) (condition : Fields → Bool) : Run (List Row) :=
  inspect (nativeFailure "query native CIM provider") fun w =>
    let result := rows (w.machine.instances cls) fields condition
    if maxRows < result.length then
      .error (providerError "enumerate native CIM provider" "provider row limit exceeded")
    else .ok result

def query (cls : CimClass) (fields : List String) : Run (List Row) :=
  queryWhere cls fields fun _ => true

def createIn (policy : Fields) (name : Str) (w : World) : Except TuningError World :=
  match w.machine.qos.create policy with
  | some qos => .ok ((w.setQos qos).record (.policyCreated name))
  | none => .error (providerError "create provider instance" "already exists")

/-- Creates a policy; the provider gives it an object path. -/
def create (values : List (String × Value)) : Run Unit :=
  match (Fields.ofList values) "Name" with
  | some (.string name) =>
    change (nativeFailure "create provider instance")
      (createIn ((Fields.ofList values).put "__PATH" (.string (objectPath name))) name)
  | _ =>
    change (nativeFailure "create provider instance") fun _ =>
      .error (providerError "create provider instance" "invalid parameter")

def deleteIn (name : Str) (w : World) : Except TuningError World :=
  if name.lower ∈ w.machine.qos.keys then
    .ok ((w.setQos (w.machine.qos.delete name.lower)).record (.policyDeleted name))
  else .error (providerError "delete provider instance" "not found")

/-- Deletes the policy of a row by its object path. -/
def delete (row : Row) : Run Unit :=
  match row.string "__PATH", row.string "Name" with
  | none, _ => Act.fail (providerError "delete provider instance" "provider did not return __PATH")
  | some _, none =>
    change (nativeFailure "delete provider instance") fun _ =>
      .error (providerError "delete provider instance" "not found")
  | some _, some name => change (nativeFailure "delete provider instance") (deleteIn name)

/-- Writes properties of the instance at a position. -/
def putAt (instances : List Fields) (index : Nat) (values : List (String × Value)) : List Fields :=
  instances.modify index fun f => values.foldl (fun f value => f.put value.1 value.2) f

/-- Updates an advanced property. -/
def update (row : Row) (values : List (String × Value)) : Run Unit :=
  change (nativeFailure "update provider instance") fun w =>
    if row.object < w.machine.nic.length then
      .ok ((w.setNic (putAt w.machine.nic row.object values)).record
        (.nicProperty (row.string "Name") (row.string "RegistryKeyword")))
    else .error (providerError "update provider instance" "not found")

/-- Invokes `Enable` or `Disable` on an RSC setting: the flags that are set become `value`. -/
def invoke (row : Row) (value ipv4 ipv6 : Bool) : Run Unit :=
  match row.string "__PATH" with
  | none => Act.fail (providerError "invoke provider method" "provider did not return __PATH")
  | some _ =>
    change (nativeFailure "invoke provider method") fun w =>
      if row.object < w.machine.rsc.length then
        let values := (if ipv4 then [("IPv4Enabled", Value.bool value)] else []) ++
          (if ipv6 then [("IPv6Enabled", Value.bool value)] else [])
        .ok ((w.setRsc (putAt w.machine.rsc row.object values)).record (.rsc (row.string "Name")))
      else .error (providerError "invoke provider method" "not found")

end Session

end NetworkLantern.Tuning
