import NetworkLantern.Lib.Serde
import NetworkLantern.Tuning.Plan

/-!
# Canonical tuning plans

A tuning configuration as JSON, and the fact that the configuration inside a
plan plans to the same plan.
-/

namespace NetworkLantern.Tuning

open NetworkLantern

/-! ## JSON -/

def TuningAction.name : TuningAction → Str
  | .apply => "Apply"
  | .backup => "Backup"
  | .restore => "Restore"
  | .verify => "Verify"

def TuningAction.names : List (Str × TuningAction) :=
  [.apply, .backup, .restore, .verify].map fun a => (a.name, a)

def TuningProfile.name : TuningProfile → Str
  | .safe => "Safe"
  | .measured => "Measured"

def TuningProfile.names : List (Str × TuningProfile) := [.safe, .measured].map fun p => (p.name, p)

def PowerPlan.name : PowerPlan → Str
  | .none => "None"
  | .highPerformance => "HighPerformance"

def PowerPlan.names : List (Str × PowerPlan) := [.none, .highPerformance].map fun p => (p.name, p)

namespace TuningConfig

def fields (c : TuningConfig) : List (Str × Json) :=
  [("action", .string c.action.name),
   ("profile", .string c.profile.name),
   ("dscp", .ofU8 c.dscp),
   ("udpPorts", .ofList .ofU16 c.udpPorts),
   ("includeAppPolicies", .bool c.includeAppPolicies),
   ("appPaths", .ofList .string c.appPaths),
   ("powerPlan", .string c.powerPlan.name),
   ("backupFolder", .ofOption .string c.backupFolder),
   ("allowUnsafeBackupFolder", .bool c.allowUnsafeBackupFolder),
   ("dryRun", .bool c.dryRun)]

/-- The other name that `profile` is read under. -/
def profileAlias : Str := "tuningProfile"

/-- `serde_json::to_value`. -/
def toEntries (c : TuningConfig) : Entries Json := Entries.ofFields c.fields

def knownField (name : Str) : Bool :=
  (TuningConfig.default.fields.map Prod.fst).contains name || name == profileAlias

/-- The value of `profile`, under one of its names. -/
def profileEntry (e : Entries Json) : Option Json :=
  match Entries.get? e "profile", Entries.get? e profileAlias with
  | some v, none => some v
  | none, some v => some v
  | _, _ => none

/-- `serde_json::from_value` of an object: no other field may be there. -/
def ofEntries (e : Entries Json) : Option TuningConfig :=
  if e.all fun x => knownField x.1 then do
    let action ← Json.required (Json.toVariant TuningAction.names) e "action"
    let profile ← (profileEntry e).bind (Json.toVariant TuningProfile.names)
    let dscp ← Json.required Json.toU8 e "dscp"
    let udpPorts ← Json.required (Json.toList Json.toU16) e "udpPorts"
    let includeAppPolicies ← Json.required Json.asBool e "includeAppPolicies"
    let appPaths ← Json.required (Json.toList Json.asStr) e "appPaths"
    let powerPlan ← Json.required (Json.toVariant PowerPlan.names) e "powerPlan"
    let backupFolder ← Json.toOption Json.asStr ((Entries.get? e "backupFolder").getD .null)
    let allowUnsafeBackupFolder ← Json.required Json.asBool e "allowUnsafeBackupFolder"
    let dryRun ← Json.required Json.asBool e "dryRun"
    return { action, profile, dscp, udpPorts, includeAppPolicies, appPaths, powerPlan,
             backupFolder, allowUnsafeBackupFolder, dryRun }
  else none

theorem fields_nodup (c : TuningConfig) : (c.fields.map Prod.fst).Nodup := by
  have hkeys : c.fields.map Prod.fst = TuningConfig.default.fields.map Prod.fst := rfl
  rw [hkeys]
  decide

end TuningConfig

theorem toVariant_action (a : TuningAction) :
    Json.toVariant TuningAction.names (.string a.name) = some a := by
  cases a <;> rfl

theorem toVariant_profile (p : TuningProfile) :
    Json.toVariant TuningProfile.names (.string p.name) = some p := by
  cases p <;> rfl

theorem toVariant_powerPlan (p : PowerPlan) :
    Json.toVariant PowerPlan.names (.string p.name) = some p := by
  cases p <;> rfl

/-- What is written of a configuration reads as that configuration. -/
theorem TuningConfig.ofEntries_toEntries (c : TuningConfig) : ofEntries c.toEntries = some c := by
  have hn := c.fields_nodup
  have hget := fun k => Entries.get?_ofFields hn k
  have hknown : (c.toEntries.all fun x => knownField x.1) = true := rfl
  have hprofile : profileEntry c.toEntries = some (.string c.profile.name) := by
    unfold profileEntry
    rw [show c.toEntries = Entries.ofFields c.fields from rfl, hget, hget]
    rfl
  have hbackup : Json.toOption Json.asStr ((Entries.get? c.toEntries "backupFolder").getD .null) =
      some c.backupFolder := by
    rw [show c.toEntries = Entries.ofFields c.fields from rfl, hget]
    exact Json.toOption_ofOption fun x _ => ⟨rfl, nofun⟩
  have hports : Json.toList Json.toU16 (Json.ofList Json.ofU16 c.udpPorts) = some c.udpPorts :=
    Json.toList_ofList fun x _ => Json.toU16_ofU16 x
  have hpaths : Json.toList Json.asStr (Json.ofList Json.string c.appPaths) = some c.appPaths :=
    Json.toList_ofList fun x _ => rfl
  unfold ofEntries
  rw [if_pos hknown, hprofile, hbackup, Option.bind_some,
    show c.toEntries = Entries.ofFields c.fields from rfl,
    Json.required_ofFields hn rfl (toVariant_action c.action), toVariant_profile,
    Json.required_ofFields hn rfl (Json.toU8_ofU8 c.dscp),
    Json.required_ofFields hn rfl hports,
    Json.required_ofFields hn rfl (Json.asBool_bool c.includeAppPolicies),
    Json.required_ofFields hn rfl hpaths,
    Json.required_ofFields hn rfl (toVariant_powerPlan c.powerPlan),
    Json.required_ofFields hn rfl (Json.asBool_bool c.allowUnsafeBackupFolder),
    Json.required_ofFields hn rfl (Json.asBool_bool c.dryRun)]
  rfl

/-- A step under its `kind`, with the fields that follow it. -/
def stepJson (kind : Str) (fields : List (Str × Json)) : Json :=
  .object (("kind", .string kind) :: fields)

def countFields (count : Nat) (dscp : UInt8) : List (Str × Json) :=
  [("count", .ofNat (UInt64.ofNat count)), ("dscp", .ofU8 dscp)]

def TuningStep.toJson : TuningStep → Json
  | .validateBackupDestination => stepJson "validate_backup_destination" []
  | .writeAndVerifyBackup => stepJson "write_and_verify_backup" []
  | .enableLocalQos => stepJson "enable_local_qos" []
  | .reconcilePortPolicies count dscp =>
    stepJson "reconcile_port_policies" (countFields count dscp)
  | .reconcileAppPolicies count dscp => stepJson "reconcile_app_policies" (countFields count dscp)
  | .disableNicPowerSaving => stepJson "disable_nic_power_saving" []
  | .setPowerPlan plan => stepJson "set_power_plan" [("plan", .string plan.name)]
  | .validateAndStageRestore => stepJson "validate_and_stage_restore" []
  | .restoreRegistry => stepJson "restore_registry" []
  | .restoreQos => stepJson "restore_qos" []
  | .restoreNicAdvanced => stepJson "restore_nic_advanced" []
  | .restoreRsc => stepJson "restore_rsc" []
  | .restorePowerPlan => stepJson "restore_power_plan" []
  | .inspectManagedState => stepJson "inspect_managed_state" []

/-- A plan as it is serialised: the fields in the order of their declaration. -/
def TuningPlan.toJson (p : TuningPlan) : Json :=
  .object
    [("config", .object p.config.fields),
     ("steps", .ofList TuningStep.toJson p.steps),
     ("mutating", .bool p.mutating),
     ("requiresHelper", .bool p.requiresHelper)]

/-! ## Planning again -/

theorem eraseDups_sublist {α : Type} [BEq α] [LawfulBEq α] (l : List α) :
    l.eraseDups.Sublist l := by
  induction hn : l.length using Nat.strong_induction_on generalizing l with
  | _ n ih =>
    cases l with
    | nil => exact List.Sublist.refl _
    | cons a as =>
      rw [List.eraseDups_cons]
      have hlt : (as.filter fun b => !b == a).length < n := by
        have hle := List.length_filter_le (fun b => !b == a) as
        rw [List.length_cons] at hn
        omega
      exact ((ih _ hlt _ rfl).trans List.filter_sublist).cons_cons a

theorem nodup_eraseDups {α : Type} [BEq α] [LawfulBEq α] (l : List α) : l.eraseDups.Nodup := by
  induction hn : l.length using Nat.strong_induction_on generalizing l with
  | _ n ih =>
    cases l with
    | nil => exact List.nodup_nil
    | cons a as =>
      have hlt : (as.filter fun b => !b == a).length < n := by
        have hle := List.length_filter_le (fun b => !b == a) as
        rw [List.length_cons] at hn
        omega
      rw [List.eraseDups_cons, List.nodup_cons]
      refine ⟨fun hmem => ?_, ih _ hlt _ rfl⟩
      have hfilter := (List.mem_filter.mp (List.mem_eraseDups.mp hmem)).2
      simp at hfilter

theorem eraseDups_of_nodup {α : Type} [BEq α] [LawfulBEq α] {l : List α} (h : l.Nodup) :
    l.eraseDups = l := by
  induction l with
  | nil => rfl
  | cons a as ih =>
    obtain ⟨ha, has⟩ := List.nodup_cons.mp h
    have hfilter : as.filter (fun b => !b == a) = as := by
      rw [List.filter_eq_self]
      intro b hb
      have hne : b ≠ a := fun hba => ha (hba ▸ hb)
      simpa using hne
    rw [List.eraseDups_cons, hfilter, ih has]

theorem normalizeConfig_idem (c : TuningConfig) :
    normalizeConfig (normalizeConfig c) = normalizeConfig c := by
  have hsorted : (c.udpPorts.insertionSort (· ≤ ·)).Pairwise (· ≤ ·) :=
    List.pairwise_insertionSort _ _
  have hsub := List.destutter_sublist (· ≠ ·) (c.udpPorts.insertionSort (· ≤ ·))
  have hports : (normalizeConfig c).udpPorts.insertionSort (· ≤ ·) = (normalizeConfig c).udpPorts :=
    List.Pairwise.insertionSort_eq (hsorted.sublist hsub)
  have hchain : (normalizeConfig c).udpPorts.destutter (· ≠ ·) = (normalizeConfig c).udpPorts :=
    List.destutter_of_isChain _ _ (List.isChain_destutter _ _)
  have hpaths : (normalizeConfig c).appPaths.filter (fun path : Str => !path.isEmpty) =
      (normalizeConfig c).appPaths := by
    rw [List.filter_eq_self]
    intro path hpath
    have hmem := List.mem_eraseDups.mp hpath
    exact (List.mem_filter.mp hmem).2
  have hdups : (normalizeConfig c).appPaths.eraseDups = (normalizeConfig c).appPaths :=
    eraseDups_of_nodup (nodup_eraseDups _)
  show { normalizeConfig c with
    udpPorts := ((normalizeConfig c).udpPorts.insertionSort (· ≤ ·)).destutter (· ≠ ·)
    appPaths := ((normalizeConfig c).appPaths.filter fun path : Str => !path.isEmpty).eraseDups } = _
  rw [hports, hchain, hpaths, hdups]

theorem length_normalizeConfig_ports (c : TuningConfig) :
    (normalizeConfig c).udpPorts.length ≤ c.udpPorts.length := by
  have hle := (List.destutter_sublist (· ≠ ·) (c.udpPorts.insertionSort (· ≤ ·))).length_le
  rwa [List.length_insertionSort] at hle

theorem length_normalizeConfig_paths (c : TuningConfig) :
    (normalizeConfig c).appPaths.length ≤ c.appPaths.length :=
  ((eraseDups_sublist _).trans List.filter_sublist).length_le

/-- The planner's checks pass on the normalised configuration. -/
theorem validate_normalizeConfig {c : TuningConfig} (h : validate c = .ok ()) :
    validate (normalizeConfig c) = .ok () := by
  obtain ⟨hdscp, h⟩ := refuse_bind_ok.mp h
  obtain ⟨hports, h⟩ := refuse_bind_ok.mp h
  obtain ⟨hzero, h⟩ := refuse_bind_ok.mp h
  obtain ⟨happs, h⟩ := refuse_bind_ok.mp h
  obtain ⟨_, hpaths, h⟩ := except_bind_ok.mp h
  have hportsLen := length_normalizeConfig_ports c
  have happsLen := length_normalizeConfig_paths c
  refine refuse_bind_ok.mpr ⟨hdscp, refuse_bind_ok.mpr ⟨?_, refuse_bind_ok.mpr ⟨?_,
    refuse_bind_ok.mpr ⟨?_, except_bind_ok.mpr ⟨(), ?_, h⟩⟩⟩⟩⟩
  · rw [decide_eq_false_iff_not] at hports ⊢
    omega
  · have hmem : (0 : UInt16) ∉ c.udpPorts := by simpa using hzero
    have hnone : (0 : UInt16) ∉ (normalizeConfig c).udpPorts :=
      fun hin => hmem (mem_normalizeConfig_ports hin)
    simpa using hnone
  · rw [decide_eq_false_iff_not] at happs ⊢
    omega
  · rw [forM_eq_ok] at hpaths ⊢
    exact fun path hpath => hpaths path (mem_normalizeConfig_paths hpath)

/-- The configuration inside a plan plans to the same plan. -/
theorem plan_canonical {c : TuningConfig} {p : TuningPlan} (h : plan c = .ok p) :
    plan p.config = .ok p := by
  obtain ⟨hv, hconfig, -⟩ := plan_ok h
  have hp : p = ⟨normalizeConfig c, planSteps (normalizeConfig c),
      c.action ≠ .verify && !c.dryRun, c.action ≠ .verify && !c.dryRun⟩ := by
    unfold plan at h
    rw [hv] at h
    cases h
    rfl
  unfold plan
  rw [hconfig, validate_normalizeConfig hv, normalizeConfig_idem, hp]
  rfl

end NetworkLantern.Tuning
