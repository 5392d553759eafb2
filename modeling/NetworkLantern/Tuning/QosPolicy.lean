import NetworkLantern.Tuning.ExePath
import NetworkLantern.Tuning.Wmi
import NetworkLantern.Lib.Checks

/-!
# QoS policies

A `NetQosPolicy` as the program knows it (`QosPolicySpec`), which names it owns
(`managedQosName`), how it reads one from a provider row (`parseQosRow`) and
which properties it writes to create one (`createValues`).

`Readable names p` says what `parseQosRow` can return.  The two directions agree:

    parseQosRow row names = .ok (some p) → Readable names p     (parseQosRow_readable)
    Readable names p → the row of createValues p reads as p      (parseQosRow_created)
-/

namespace NetworkLantern.Tuning

open NetworkLantern

inductive QosPolicySpec
  | port (name protocol : Str) (port : UInt16) (dscp : UInt8)
  | app (name appPath : Str) (dscp : UInt8)
deriving DecidableEq, Repr

namespace QosPolicySpec

def name : QosPolicySpec → Str
  | .port name .. => name
  | .app name .. => name

end QosPolicySpec

def qosNames (policies : List QosPolicySpec) : List Str := policies.map QosPolicySpec.name

/-! ## Owned names -/

/-- Prefixes this tool owns; Apply, Backup and Verify touch only these. -/
def ownedQosPrefixes : List Str :=
  ["NETWORK_LANTERN_QOS_PORT_", "NETWORK_LANTERN_QOS_APP_", "NDS_QOS_PORT_", "NDS_QOS_APP_"].map
    String.toList

/-- Legacy prefixes that unrelated policies may share. -/
def legacyGenericQosPrefixes : List Str :=
  ["QoS_UDP_TS_", "QoS_UDP_CS2_", "QoS_APP_"].map String.toList

/-- A policy of this name is ours to read and delete.  Outside Restore `restoreNames` is
empty; there a generic legacy name counts only when the backup names it. -/
def managedQosName (name : Str) (restoreNames : List Str) : Bool :=
  ownedQosPrefixes.any name.hasPrefixCI ||
  (legacyGenericQosPrefixes.any name.hasPrefixCI &&
    restoreNames.any fun restore => restore.eqCI name)

/-- Ownership does not depend on the case of the name. -/
theorem managedQosName_congr {a b : Str} (h : a.lower = b.lower) (restoreNames : List Str) :
    managedQosName a restoreNames = managedQosName b restoreNames := by
  have hp : ∀ l : List Str, l.any a.hasPrefixCI = l.any b.hasPrefixCI := fun l =>
    congrArg l.any (funext fun p => Str.hasPrefixCI_congr h p)
  have hr : ∀ restore : Str, restore.eqCI a = restore.eqCI b := by
    intro restore
    unfold Str.eqCI
    rw [h]
  unfold managedQosName
  simp only [hp, hr]

theorem managedQosName_of_owned {p s : Str} (hp : p ∈ ownedQosPrefixes) (restoreNames : List Str) :
    managedQosName (p ++ s) restoreNames = true := by
  unfold managedQosName
  rw [Bool.or_eq_true]
  left
  rw [List.any_eq_true]
  exact ⟨p, hp, Str.hasPrefixCI_append p s⟩

/-- An owned name stays managed whatever is being restored. -/
theorem managedQosName_of_nil {name : Str} (h : managedQosName name [] = true)
    (restoreNames : List Str) : managedQosName name restoreNames = true := by
  unfold managedQosName at h ⊢
  simp only [List.any_nil, Bool.and_false, Bool.or_false] at h
  rw [h, Bool.true_or]

/-- A name that is not owned is managed only when the restore names contain it. -/
theorem mem_of_managedQosName {name : Str} {restoreNames : List Str}
    (h : managedQosName name restoreNames = true) (hn : managedQosName name [] = false) :
    ∃ restore ∈ restoreNames, restore.lower = name.lower := by
  unfold managedQosName at h hn
  simp only [List.any_nil, Bool.and_false, Bool.or_false] at hn
  rw [hn, Bool.false_or] at h
  simp only [Bool.and_eq_true, List.any_eq_true] at h
  obtain ⟨-, restore, hm, he⟩ := h
  exact ⟨restore, hm, (Str.eqCI_iff _ _).mp he⟩

/-! ## Reading a policy row -/

/-- The properties that a query for policies asks for. -/
def qosFields : List String :=
  ["__PATH", "Name", "IPProtocolMatchCondition", "IPPortMatchCondition",
    "AppPathNameMatchCondition", "DSCPAction"]

def providerInventory (message : Str) : TuningError :=
  .native "read QoS inventory" (-1) message

/-- The inventory's check of an application path. -/
def validWindowsExe (path : Str) : Bool := exePath (fun _ => true) [92] path

/-- `row.number(name)` as an unsigned integer of at most `max`. -/
def boundedNumber (row : Row) (name : String) (max : Nat) : Option Nat :=
  (row.number name).bind fun value =>
    if 0 ≤ value ∧ value.toNat ≤ max then some value.toNat else none

/-- The match conditions of a managed row. -/
def parseMatch (name : Str) (dscp : UInt8) (app : Option Str) (port protocol : Option Int) :
    Except TuningError QosPolicySpec :=
  match app, port, protocol with
  | some path, none, none =>
    if validWindowsExe path then .ok (.app name path dscp)
    else .error (providerInventory ("managed application QoS policy has an invalid path ".toList ++
      "or conflicting match conditions".toList))
  | some _, _, _ =>
    .error (providerInventory ("managed application QoS policy has an invalid path ".toList ++
      "or conflicting match conditions".toList))
  | none, some port, some protocol =>
    if 0 < port ∧ port ≤ 65535 then
      if protocol = 1 then .ok (.port name "TCP" port.toNat.toUInt16 dscp)
      else if protocol = 2 then .ok (.port name "UDP" port.toNat.toUInt16 dscp)
      else .error (providerInventory "managed QoS policy protocol must be TCP or UDP")
    else .error (providerInventory "managed QoS policy has invalid port")
  | _, _, _ => .error (providerInventory "managed QoS policy has incomplete match conditions")

/-- Reads one provider row: `none` when the policy is not ours. -/
def parseQosRow (row : Row) (restoreNames : List Str) :
    Except TuningError (Option QosPolicySpec) :=
  match (row.string "Name").filter (!·.isBlank) with
  | none => .error (providerInventory "QoS provider row is missing Name")
  | some name =>
    if !managedQosName name restoreNames then .ok none
    else if ((row.string "__PATH").filter (!·.isBlank)).isNone then
      .error (providerInventory "managed QoS provider row is missing __PATH")
    else
      match boundedNumber row "DSCPAction" 63 with
      | none => .error (providerInventory "managed QoS policy has invalid or missing DSCPAction")
      | some dscp =>
        some <$> parseMatch name dscp.toUInt8
          ((row.string "AppPathNameMatchCondition").filter (!·.isEmpty))
          (row.number "IPPortMatchCondition") (row.number "IPProtocolMatchCondition")

/-! ## Creating a policy -/

/-- The match conditions and the DSCP value that `create_qos` writes. -/
def matchValues : QosPolicySpec → List (String × Value)
  | .port _ protocol port dscp =>
    [("IPProtocolMatchCondition", .number (if protocol = "TCP".toList then 1 else 2)),
      ("IPPortMatchCondition", .number port.toNat),
      ("DSCPAction", .number dscp.toNat)]
  | .app _ appPath dscp =>
    [("AppPathNameMatchCondition", .string appPath), ("DSCPAction", .number dscp.toNat)]

/-- The properties `create_qos` writes. -/
def createValues (policy : QosPolicySpec) : List (String × Value) :=
  [("Name", .string policy.name), ("NetworkProfile", .number 0)] ++ matchValues policy

/-! ## What the inventory can return -/

/-- The match conditions of a policy the inventory can return. -/
def ReadableMatch : QosPolicySpec → Prop
  | .port _ protocol port dscp =>
    (protocol = "TCP".toList ∨ protocol = "UDP".toList) ∧ port ≠ 0 ∧ dscp.toNat ≤ 63
  | .app _ appPath dscp => validWindowsExe appPath = true ∧ dscp.toNat ≤ 63

/-- A policy that `parse_qos_row` can return. -/
def Readable (restoreNames : List Str) (policy : QosPolicySpec) : Prop :=
  managedQosName policy.name restoreNames = true ∧ policy.name.isBlank = false ∧
    ReadableMatch policy

instance : DecidablePred ReadableMatch
  | .port .. => inferInstanceAs (Decidable (_ ∧ _))
  | .app .. => inferInstanceAs (Decidable (_ ∧ _))

instance (restoreNames : List Str) : DecidablePred (Readable restoreNames) := fun _ =>
  inferInstanceAs (Decidable (_ ∧ _))

theorem boundedNumber_le {row : Row} {name : String} {max n : Nat}
    (h : boundedNumber row name max = some n) : n ≤ max := by
  unfold boundedNumber at h
  obtain ⟨v, -, hv⟩ := Option.bind_eq_some_iff.mp h
  split at hv
  · next hc => cases hv; exact hc.2
  · cases hv

theorem parseMatch_readable {name : Str} {dscp : UInt8} {app : Option Str}
    {port protocol : Option Int} {policy : QosPolicySpec} (hd : dscp.toNat ≤ 63)
    (h : parseMatch name dscp app port protocol = .ok policy) :
    policy.name = name ∧ ReadableMatch policy := by
  have hport : ∀ p : Int, 0 < p ∧ p ≤ 65535 → p.toNat.toUInt16 ≠ 0 := by
    intro p hp h0
    have := congrArg UInt16.toNat h0
    simp at this
    omega
  unfold parseMatch at h
  split at h
  · split at h
    · next hv => cases h; exact ⟨rfl, hv, hd⟩
    · cases h
  · cases h
  · split at h
    · next hp =>
      split at h
      · cases h; exact ⟨rfl, Or.inl rfl, hport _ hp, hd⟩
      · split at h
        · cases h; exact ⟨rfl, Or.inr rfl, hport _ hp, hd⟩
        · cases h
    · cases h
  · cases h

/-- What a managed row looks like to the reader. -/
theorem parseQosRow_some {row : Row} {restoreNames : List Str} {policy : QosPolicySpec}
    (h : parseQosRow row restoreNames = .ok (some policy)) :
    row.string "Name" = some policy.name ∧
      ((row.string "__PATH").filter (!·.isBlank)).isSome ∧ Readable restoreNames policy := by
  unfold parseQosRow at h
  split at h
  · cases h
  · next name hname =>
    obtain ⟨hrow, hblank⟩ := Option.filter_eq_some_iff.mp hname
    split at h
    · cases h
    · next hm =>
      split at h
      · cases h
      · next hpath =>
        split at h
        · cases h
        · next dscp hdscp =>
          obtain ⟨p, hp, he⟩ := except_map_ok.mp h
          cases he
          have hle := boundedNumber_le hdscp
          obtain ⟨rfl, hr⟩ := parseMatch_readable (by simp; omega) hp
          refine ⟨hrow, Option.isSome_iff_ne_none.mpr (by rintro hn; exact hpath (by rw [hn]; rfl)),
            ?_, ?_, hr⟩
          · simpa using hm
          · simpa using hblank

/-! ## A created policy reads back -/

/-- The properties of a policy that `create_qos` made. -/
def createdFields (policy : QosPolicySpec) : Fields := Fields.ofList (createValues policy)

theorem exePath_ne_nil {drive : UInt8 → Bool} {separators : List UInt8} {path : Str}
    (h : exePath drive separators path = true) : path.isEmpty = false := by
  cases path with
  | nil => simp [exePath] at h
  | cons c s => rfl

theorem boundedNumber_of {row : Row} {name : String} {max n : Nat}
    (h : row.number name = some (n : Int)) (hle : n ≤ max) :
    boundedNumber row name max = some n := by
  unfold boundedNumber
  rw [h, Option.bind_some, if_pos ⟨Int.natCast_nonneg n, by simpa using hle⟩]
  simp

theorem parseMatch_port {name protocol : Str} {port : UInt16} {dscp : UInt8}
    (hp : protocol = "TCP".toList ∨ protocol = "UDP".toList) (hport : port ≠ 0) :
    parseMatch name dscp none (some (port.toNat : Int))
      (some (if protocol = "TCP".toList then 1 else 2)) = .ok (.port name protocol port dscp) := by
  have hne : port.toNat ≠ 0 := fun h0 => hport (UInt16.toNat.inj (by simpa using h0))
  have hlt := port.toNat_lt
  have hrange : (0 : Int) < port.toNat ∧ (port.toNat : Int) ≤ 65535 := by omega
  have hback : (port.toNat : Int).toNat.toUInt16 = port := by simp
  unfold parseMatch
  rcases hp with rfl | rfl
  · rw [if_pos rfl]
    simp only [if_pos hrange, if_true, hback]
  · rw [if_neg (by decide)]
    simp only [if_pos hrange, if_true, hback]
    rw [if_neg (by decide)]

theorem parseMatch_app {name appPath : Str} {dscp : UInt8} (h : validWindowsExe appPath = true) :
    parseMatch name dscp (some appPath) none none = .ok (.app name appPath dscp) := by
  simp [parseMatch, h]

/-- A policy the inventory can return reads back from the properties that create it. -/
theorem parseQosRow_created {policy : QosPolicySpec} {restoreNames : List Str}
    (h : Readable restoreNames policy) (row : Row)
    (hrow : ∀ k ∈ qosFields, k ≠ "__PATH" → row.fields k = createdFields policy k)
    (hpath : ((row.string "__PATH").filter (!·.isBlank)).isSome) :
    parseQosRow row restoreNames = .ok (some policy) := by
  obtain ⟨hm, hb, hr⟩ := h
  have hname : (row.string "Name").filter (!·.isBlank) = some policy.name := by
    rw [Row.string_of (hrow "Name" (by decide) (by decide)), Option.filter_some, hb]
    rfl
  have hnone : ¬ ((row.string "__PATH").filter (!·.isBlank)).isNone = true := by
    obtain ⟨p, hp⟩ := Option.isSome_iff_exists.mp hpath
    rw [hp]
    exact Bool.false_ne_true
  unfold parseQosRow
  simp only [hname, hm, Bool.not_true, Bool.false_eq_true, if_false, if_neg hnone]
  cases policy with
  | port name protocol port dscp =>
    obtain ⟨hp, hport, hle⟩ := hr
    rw [boundedNumber_of (Row.number_of (hrow "DSCPAction" (by decide) (by decide))) hle,
      Row.string_none (hrow "AppPathNameMatchCondition" (by decide) (by decide)),
      Row.number_of (hrow "IPPortMatchCondition" (by decide) (by decide)),
      Row.number_of (hrow "IPProtocolMatchCondition" (by decide) (by decide))]
    simp only [Option.filter_none, Nat.toUInt8_eq, UInt8.ofNat_toNat, QosPolicySpec.name]
    rw [parseMatch_port hp hport]
    rfl
  | app name appPath dscp =>
    obtain ⟨hv, hle⟩ := hr
    rw [boundedNumber_of (Row.number_of (hrow "DSCPAction" (by decide) (by decide))) hle,
      Row.string_of (hrow "AppPathNameMatchCondition" (by decide) (by decide)),
      Row.number_none (hrow "IPPortMatchCondition" (by decide) (by decide)),
      Row.number_none (hrow "IPProtocolMatchCondition" (by decide) (by decide))]
    simp only [Option.filter_some, exePath_ne_nil hv, Bool.not_false, if_true, Nat.toUInt8_eq,
      UInt8.ofNat_toNat, QosPolicySpec.name]
    rw [parseMatch_app hv]
    rfl

end NetworkLantern.Tuning
