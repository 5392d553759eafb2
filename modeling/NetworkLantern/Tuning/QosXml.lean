import NetworkLantern.Lib.Digits
import NetworkLantern.Lib.Xml
import NetworkLantern.Tuning.QosPolicy

/-!
# The QoS artifact of a backup

`qosXml` writes policies by hand as CLIXML, `parseQosClixml` reads the events of
an XML reader back into policies.  The writer escapes five characters; the reader
refuses the entity references they become and receives every text trimmed, so

    parseQosClixml (qosXml policies) = .ok policies
      ↔ no name and no path has one of the five characters or a space at an end
-/

namespace NetworkLantern.Tuning

open NetworkLantern

/-! ## Writing -/

/-- The entity that `xml_field` writes for a character. -/
def escapeEntity (c : Char) : Option Str :=
  if c = '&' then some "amp"
  else if c = '<' then some "lt"
  else if c = '>' then some "gt"
  else if c = '"' then some "quot"
  else if c = '\'' then some "apos"
  else none

def escapeChar (c : Char) : Str :=
  match escapeEntity c with
  | some entity => '&' :: entity ++ [';']
  | none => [c]

def xmlField (name value : Str) : Str :=
  "<S N=\"".toList ++ name ++ "\">".toList ++ value.flatMap escapeChar ++ "</S>".toList

/-- The properties of a policy in the order they are written. -/
def policyFields : QosPolicySpec → List (Str × Str)
  | .port name protocol port dscp =>
    [("Name".toList, name), ("Type".toList, "Port".toList), ("Protocol".toList, protocol),
      ("Port".toList, decimal port.toNat), ("Dscp".toList, decimal dscp.toNat)]
  | .app name appPath dscp =>
    [("Name".toList, name), ("Type".toList, "App".toList), ("AppPath".toList, appPath),
      ("Dscp".toList, decimal dscp.toNat)]

def qosXml (policies : List QosPolicySpec) : Str :=
  "<Objs><LST>".toList ++
  policies.flatMap (fun policy =>
    "<Obj><MS>".toList ++ (policyFields policy).flatMap (fun (name, value) => xmlField name value) ++
      "</MS></Obj>".toList) ++
  "</LST></Objs>".toList

/-! ## Reading -/

def maxQosBytes : Nat := 4 * 1024 * 1024
def maxPropertyBytes : Nat := 32 * 1024
def maxXmlDepth : Nat := 32
def maxQosPolicies : Nat := 512

def allowedXmlTag (name : Str) : Bool :=
  ["Objs", "Obj", "TN", "T", "TNRef", "LST", "MS", "S", "I32", "I64", "U32", "U64", "B"].any
    (·.toList == name)

def scalarTag (name : Str) : Bool :=
  ["S", "I32", "I64", "U32", "U64", "B"].any (·.toList == name)

/-- The properties of one item, by name. -/
abbrev PropertyBag := List (Str × Str)

/-- What the event loop has read: the open elements (innermost first), the item and the
property it is in, and the finished items. -/
structure ClixmlState where
  stack : List Str
  item : Option PropertyBag
  property : Option (Str × Str)
  items : List PropertyBag
deriving DecidableEq, Repr

namespace ClixmlState

def initial : ClixmlState where
  stack := []
  item := none
  property := none
  items := []

/-- The `N` attribute of a scalar element; the last one counts. -/
def propName : List XmlAttribute → Option Str → Except TuningError (Option Str)
  | [], found => .ok found
  | .malformed :: _, _ => invalid "invalid QoS CLIXML attribute"
  | .pair key value :: attributes, found =>
    if key = "N".toList then
      match value with
      | none => invalid "invalid QoS property name"
      | some value => propName attributes (some value)
    else propName attributes found

/-- A start tag that opens a scalar element with a name begins a property. -/
def startScalar (st : ClixmlState) (tag : Str) (attributes : List XmlAttribute) :
    Except TuningError ClixmlState :=
  if scalarTag tag then do
    match ← propName attributes none with
    | none => return st
    | some name =>
      refuse (st.item.isNone || st.property.isSome)
        (.backupInvalid "QoS CLIXML property is outside an item")
      return { st with property := some (name, []) }
  else .ok st

def onStart (st : ClixmlState) (tag : Str) (attributes : List XmlAttribute) :
    Except TuningError ClixmlState := do
  refuse (maxXmlDepth ≤ st.stack.length || !allowedXmlTag tag)
    (.backupInvalid "QoS CLIXML has an unsupported element or depth")
  refuse (tag = "MS".toList && st.item.isSome)
    (.backupInvalid "QoS CLIXML has nested property bags")
  let st := if tag = "MS".toList then { st with item := some [] } else st
  let st ← startScalar st tag attributes
  return { st with stack := tag :: st.stack }

def onText (st : ClixmlState) (value : Option Str) : Except TuningError ClixmlState :=
  match st.property with
  | none => .ok st
  | some (name, text) =>
    match value with
    | none => invalid "invalid QoS CLIXML text"
    | some value =>
      if maxPropertyBytes < text.byteLen + value.byteLen then
        invalid "QoS CLIXML property is too long"
      else .ok { st with property := some (name, text ++ value) }

/-- The end of a scalar element stores its property. -/
def endScalar (st : ClixmlState) (tag : Str) : Except TuningError ClixmlState :=
  match scalarTag tag, st.property, st.item with
  | true, some (name, value), some item =>
    if (item.lookup name).isSome then invalid "QoS CLIXML has duplicate fields"
    else .ok { st with property := none, item := some (item ++ [(name, value)]) }
  | _, _, _ => .ok st

/-- The end of a property bag finishes an item. -/
def endItem (st : ClixmlState) (tag : Str) : Except TuningError ClixmlState :=
  match st.item with
  | some item =>
    if tag = "MS".toList then
      if maxQosPolicies < st.items.length + 1 then
        invalid "QoS CLIXML has more than 512 policies"
      else .ok { st with item := none, items := st.items ++ [item] }
    else .ok st
  | none => .ok st

def onEnd (st : ClixmlState) (tag : Str) : Except TuningError ClixmlState :=
  match st.stack with
  | [] => invalid "unbalanced QoS CLIXML"
  | top :: stack =>
    if top ≠ tag then invalid "unbalanced QoS CLIXML"
    else do
      let st ← endScalar { st with stack } tag
      endItem st tag

def step (st : ClixmlState) : XmlEvent → Except TuningError ClixmlState
  | .start tag attributes => onStart st tag attributes
  | .empty tag =>
    if allowedXmlTag tag then .ok st else invalid "QoS CLIXML has an unsupported empty element"
  | .text value => onText st value
  | .close tag => onEnd st tag
  | .decl => .ok st
  | .comment => .ok st
  | .generalRef _ => invalid "QoS CLIXML contains unsupported XML content"
  | .other => invalid "QoS CLIXML contains unsupported XML content"
  | .error => invalid "QoS CLIXML could not be parsed"

/-- The event loop. -/
def run (st : ClixmlState) (stream : List XmlEvent) : Except TuningError ClixmlState :=
  stream.foldlM step st

theorem run_cons {st st' : ClixmlState} {event : XmlEvent} (h : st.step event = .ok st')
    (stream : List XmlEvent) : st.run (event :: stream) = st'.run stream := by
  unfold run
  rw [List.foldlM_cons, h, except_ok_bind]

theorem run_append {st st' : ClixmlState} {front stream : List XmlEvent} :
    st.run (front ++ stream) = .ok st' ↔ ∃ mid, st.run front = .ok mid ∧ mid.run stream = .ok st' := by
  unfold run
  rw [List.foldlM_append, except_bind_ok]

theorem run_nil {st st' : ClixmlState} : st.run [] = .ok st' ↔ st' = st := by
  unfold run
  rw [List.foldlM_nil]
  exact ⟨fun h => by cases h; rfl, fun h => by rw [h]; rfl⟩

end ClixmlState

/-! ## From properties to policies -/

namespace PropertyBag

def remove (values : PropertyBag) (key : String) : Option Str × PropertyBag :=
  (values.lookup key.toList, values.filter fun entry => entry.1 ≠ key.toList)

/-- The first name, or the second when the first is absent. -/
def removeEither (values : PropertyBag) (first second : String) : Option Str × PropertyBag :=
  match values.remove first with
  | (some value, rest) => (some value, rest)
  | (none, rest) => PropertyBag.remove rest second

end PropertyBag

/-- Prefixes a backup may name: the owned and the generic legacy ones. -/
def backupQosPrefixes : List Str :=
  ["NETWORK_LANTERN_QOS_PORT_", "NETWORK_LANTERN_QOS_APP_", "NDS_QOS_PORT_", "NDS_QOS_APP_",
    "QoS_UDP_TS_", "QoS_UDP_CS2_", "QoS_APP_"].map String.toList

def managedName (name : Str) : Bool := backupQosPrefixes.any name.hasPrefixCI

/-- The backup validator's check of an application path. -/
def backupValidWindowsExe (path : Str) : Bool := exePath (fun _ => true) [92] path

def takeRepresentation : List String → PropertyBag → Option Str →
    Except TuningError (Option Str × PropertyBag)
  | [], values, found => .ok (found, values)
  | name :: names, values, found =>
    match values.remove name with
    | (none, values) => takeRepresentation names values found
    | (some value, values) =>
      if found.isSome then invalid "QoS policy has duplicate DSCP representations"
      else takeRepresentation names values (some value)

def takeNumber (values : PropertyBag) (names : List String) :
    Except TuningError (UInt8 × PropertyBag) := do
  let (found, values) ← takeRepresentation names values none
  match found with
  | none => invalid "QoS DSCP is missing"
  | some value =>
    match parseDecimal 255 value with
    | none => invalid "invalid QoS DSCP"
    | some n => .ok (n.toUInt8, values)

/-- The match conditions of an item. -/
def normalizeMatch (name : Str) (dscp : UInt8) (kind port app : Option Str) (values : PropertyBag) :
    Except TuningError (QosPolicySpec × PropertyBag) :=
  if kind = some "Port".toList || (kind.isNone && port.isSome) then
    match values.removeEither "Protocol" "IPProtocolMatchCondition" with
    | (none, _) => invalid "QoS protocol is missing"
    | (some protocol, values) =>
      if protocol ≠ "TCP".toList ∧ protocol ≠ "UDP".toList then
        invalid "QoS protocol must be TCP or UDP"
      else
        match port with
        | none => invalid "QoS port is missing"
        | some port =>
          match parseDecimal 65535 port with
          | none => invalid "QoS port is invalid"
          | some port =>
            if port = 0 then invalid "QoS port must be in 1..=65535"
            else .ok (.port name protocol port.toUInt16 dscp, values)
  else if kind = some "App".toList || (kind.isNone && app.isSome) then
    match app with
    | none => invalid "QoS app path is missing"
    | some appPath =>
      if backupValidWindowsExe appPath then .ok (.app name appPath dscp, values)
      else invalid "QoS app path must be an absolute local .exe path"
  else invalid "QoS policy has no supported match condition"

def normalizeQos (values : PropertyBag) : Except TuningError QosPolicySpec :=
  match values.remove "Name" with
  | (name, values) =>
    match name.filter managedName with
    | none => invalid "QoS policy has an unapproved name"
    | some name => do
      let (dscp, values) ← takeNumber values ["Dscp", "DSCPAction", "DSCPValue"]
      refuse (decide (63 < dscp)) (.backupInvalid "QoS DSCP must be in 0..=63")
      let (kind, values) := values.remove "Type"
      let (port, values) := values.removeEither "Port" "IPPortMatchCondition"
      let (app, values) := values.removeEither "AppPath" "AppPathNameMatchCondition"
      let (policy, values) ← normalizeMatch name dscp kind port app values
      refuse (!values.isEmpty) (.backupInvalid "QoS policy has unknown fields")
      return policy

/-- The policies of the items; `seen` are the names before, in lower case. -/
def collectPolicies (seen : List Str) : List PropertyBag → Except TuningError (List QosPolicySpec)
  | [] => .ok []
  | item :: items => do
    let policy ← normalizeQos item
    refuse (seen.contains policy.name.lower)
      (.backupInvalid "QoS CLIXML has duplicate policy names")
    let policies ← collectPolicies (policy.name.lower :: seen) items
    return policy :: policies

def parseQosClixml (reader : XmlReader) (bytes : Bytes) : Except TuningError (List QosPolicySpec) :=
  if maxQosBytes < bytes.length then invalid "QoS CLIXML exceeds 4 MiB"
  else
    match Str.fromUtf8 bytes with
    | none => invalid "QoS CLIXML must be UTF-8"
    | some text => do
      let st ← ClixmlState.initial.run (reader (text.dropWhile (· = '\ufeff')))
      refuse (!st.stack.isEmpty || st.item.isSome || st.property.isSome)
        (.backupInvalid "QoS CLIXML is incomplete")
      collectPolicies [] st.items

/-! ## Which items are policies -/

/-- The match conditions that the validator accepts. -/
def NormalMatch : QosPolicySpec → Prop
  | .port _ protocol port dscp =>
    (protocol = "TCP".toList ∨ protocol = "UDP".toList) ∧ port ≠ 0 ∧ dscp.toNat ≤ 63
  | .app _ appPath dscp => backupValidWindowsExe appPath = true ∧ dscp.toNat ≤ 63

theorem managedName_of_managedQosName {name : Str} {restoreNames : List Str}
    (h : managedQosName name restoreNames = true) : managedName name = true := by
  have hall : backupQosPrefixes = ownedQosPrefixes ++ legacyGenericQosPrefixes := rfl
  unfold managedName
  rw [hall, List.any_append, Bool.or_eq_true]
  unfold managedQosName at h
  rcases (Bool.or_eq_true _ _).mp h with h | h
  · exact Or.inl h
  · exact Or.inr ((Bool.and_eq_true _ _).mp h).1

/-- What the inventory can return satisfies the validator's conditions. -/
theorem normalMatch_of_readable {policy : QosPolicySpec} {restoreNames : List Str}
    (h : Readable restoreNames policy) : managedName policy.name = true ∧ NormalMatch policy :=
  ⟨managedName_of_managedQosName h.1, by cases policy <;> exact h.2.2⟩

theorem decide_dscp (dscp : UInt8) : decide (63 < dscp) = false ↔ dscp.toNat ≤ 63 := by
  rw [decide_eq_false_iff_not, UInt8.lt_iff_toNat_lt, not_lt]
  rfl

theorem takeNumber_dscp (dscp : UInt8) {values rest : PropertyBag}
    (h : values.remove "Dscp" = (some (decimal dscp.toNat), rest))
    (h1 : PropertyBag.remove rest "DSCPAction" = (none, rest))
    (h2 : PropertyBag.remove rest "DSCPValue" = (none, rest)) :
    takeNumber values ["Dscp", "DSCPAction", "DSCPValue"] = .ok (dscp, rest) := by
  have hlt := dscp.toNat_lt
  simp only [takeNumber, takeRepresentation, h, h1, h2, Option.isSome_none, Bool.false_eq_true,
    if_false, except_ok_bind, parseDecimal_decimal (show dscp.toNat ≤ 255 by omega)]
  simp

theorem normalizeMatch_port {name protocol : Str} {port : UInt16} {dscp : UInt8}
    {result : QosPolicySpec} {rest : PropertyBag} :
    normalizeMatch name dscp (some "Port".toList) (some (decimal port.toNat)) none
        [("Protocol".toList, protocol)] = .ok (result, rest) ↔
      result = .port name protocol port dscp ∧ rest = [] ∧
        (protocol = "TCP".toList ∨ protocol = "UDP".toList) ∧ port ≠ 0 := by
  have hlt := port.toNat_lt
  have hremove : PropertyBag.removeEither [("Protocol".toList, protocol)] "Protocol"
      "IPProtocolMatchCondition" = (some protocol, []) := rfl
  have hzero : port.toNat = 0 ↔ port = 0 := by
    constructor
    · intro h; exact UInt16.toNat.inj (by simpa using h)
    · rintro rfl; rfl
  unfold normalizeMatch
  rw [if_pos (by simp), hremove]
  simp only [parseDecimal_decimal (show port.toNat ≤ 65535 by omega), hzero]
  by_cases hp : protocol = "TCP".toList ∨ protocol = "UDP".toList
  · rw [if_neg (by tauto)]
    by_cases h0 : port = 0
    · rw [if_pos h0]
      exact ⟨(by intro h; cases h), fun h => absurd h0 h.2.2.2⟩
    · rw [if_neg h0]
      constructor
      · intro h
        cases h
        exact ⟨by simp, rfl, hp, h0⟩
      · rintro ⟨rfl, rfl, -, -⟩
        simp
  · rw [if_pos (by tauto)]
    exact ⟨(by intro h; cases h), fun h => absurd h.2.2.1 hp⟩

theorem normalizeMatch_app {name appPath : Str} {dscp : UInt8}
    {result : QosPolicySpec} {rest : PropertyBag} :
    normalizeMatch name dscp (some "App".toList) none (some appPath) [] = .ok (result, rest) ↔
      result = .app name appPath dscp ∧ rest = [] ∧ backupValidWindowsExe appPath = true := by
  unfold normalizeMatch
  rw [if_neg (by decide), if_pos (Bool.or_eq_true_iff.mpr (Or.inl (by decide)))]
  by_cases h : backupValidWindowsExe appPath = true
  · simp [h, eq_comm]
  · simp [h, invalid]

/-- The written properties of a policy are accepted exactly when its conditions hold, and
give back the policy. -/
theorem normalizeQos_fields {policy result : QosPolicySpec} :
    normalizeQos (policyFields policy) = .ok result ↔
      result = policy ∧ managedName policy.name = true ∧ NormalMatch policy := by
  cases policy with
  | port name protocol port dscp =>
    have hname : PropertyBag.remove (policyFields (.port name protocol port dscp)) "Name" =
      (some name, [("Type".toList, "Port".toList), ("Protocol".toList, protocol),
        ("Port".toList, decimal port.toNat), ("Dscp".toList, decimal dscp.toNat)]) := rfl
    unfold normalizeQos
    rw [hname]
    by_cases hm : managedName name = true
    · simp only [Option.filter_some, hm, if_true]
      rw [takeNumber_dscp dscp rfl rfl rfl, except_ok_bind, refuse_bind_ok,
        decide_dscp]
      show _ ∧ (normalizeMatch name dscp (some "Port".toList) (some (decimal port.toNat)) none
        [("Protocol".toList, protocol)] >>= _) = _ ↔ _
      simp only [except_bind_ok, Prod.exists, normalizeMatch_port]
      constructor
      · rintro ⟨hd, _, _, ⟨rfl, rfl, hp, h0⟩, _, -, h⟩
        cases h
        exact ⟨rfl, hm, hp, h0, hd⟩
      · rintro ⟨rfl, -, hp, h0, hd⟩
        exact ⟨hd, _, _, ⟨rfl, rfl, hp, h0⟩, (), rfl, rfl⟩
    · simp only [Option.filter_some, hm, Bool.false_eq_true, if_false]
      exact ⟨(by intro h; cases h), fun h => absurd h.2.1 hm⟩
  | app name appPath dscp =>
    have hname : PropertyBag.remove (policyFields (.app name appPath dscp)) "Name" =
      (some name, [("Type".toList, "App".toList), ("AppPath".toList, appPath),
        ("Dscp".toList, decimal dscp.toNat)]) := rfl
    unfold normalizeQos
    rw [hname]
    by_cases hm : managedName name = true
    · simp only [Option.filter_some, hm, if_true]
      rw [takeNumber_dscp dscp rfl rfl rfl, except_ok_bind, refuse_bind_ok,
        decide_dscp]
      show _ ∧ (normalizeMatch name dscp (some "App".toList) none (some appPath) [] >>= _) = _ ↔ _
      simp only [except_bind_ok, Prod.exists, normalizeMatch_app]
      constructor
      · rintro ⟨hd, _, _, ⟨rfl, rfl, hv⟩, _, -, h⟩
        cases h
        exact ⟨rfl, hm, hv, hd⟩
      · rintro ⟨rfl, -, hv, hd⟩
        exact ⟨hd, _, _, ⟨rfl, rfl, hv⟩, (), rfl, rfl⟩
    · simp only [Option.filter_some, hm, Bool.false_eq_true, if_false]
      exact ⟨(by intro h; cases h), fun h => absurd h.2.1 hm⟩

end NetworkLantern.Tuning
