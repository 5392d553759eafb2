import NetworkLantern.Lib.Digits
import NetworkLantern.Tuning.Plan
import NetworkLantern.Tuning.QosXml

/-!
# The policies of a plan

`desiredQos` derives the policies an Apply creates.  Their names are always
ours and differ from each other (`desiredQos_names_nodup`).  Their paths pass the
planner's check, which takes `C:/…` as well; the inventory and the backup
validator do not, so a plan's policies are readable exactly when every path has
a backslash behind its drive (`desiredQos_readable_iff`).
-/

namespace NetworkLantern.Tuning

open NetworkLantern

def portPolicy (dscp : UInt8) (port : UInt16) : QosPolicySpec :=
  .port ("NETWORK_LANTERN_QOS_PORT_".toList ++ decimal port.toNat) "UDP" port dscp

def appPolicy (dscp : UInt8) (index : Nat) (path : Str) : QosPolicySpec :=
  .app ("NETWORK_LANTERN_QOS_APP_".toList ++ decimal index) path dscp

def desiredQos (plan : TuningPlan) : List QosPolicySpec :=
  plan.config.udpPorts.map (portPolicy plan.config.dscp) ++
  if plan.config.includeAppPolicies then
    plan.config.appPaths.mapIdx (appPolicy plan.config.dscp)
  else []

/-- A plan's policy comes from a port or from a path. -/
theorem mem_desiredQos {p : TuningPlan} {policy : QosPolicySpec} :
    policy ∈ desiredQos p ↔
      (∃ port ∈ p.config.udpPorts, policy = portPolicy p.config.dscp port) ∨
      p.config.includeAppPolicies = true ∧ ∃ index, ∃ _ : index < p.config.appPaths.length,
        policy = appPolicy p.config.dscp index p.config.appPaths[index] := by
  unfold desiredQos
  rw [List.mem_append, List.mem_map]
  refine or_congr ⟨?_, ?_⟩ ?_
  · rintro ⟨port, hport, rfl⟩
    exact ⟨port, hport, rfl⟩
  · rintro ⟨port, hport, rfl⟩
    exact ⟨port, hport, rfl⟩
  · split
    · next hinclude =>
      rw [List.mem_mapIdx]
      constructor
      · rintro ⟨index, hlt, rfl⟩
        exact ⟨hinclude, index, hlt, rfl⟩
      · rintro ⟨-, index, hlt, rfl⟩
        exact ⟨index, hlt, rfl⟩
    · next hinclude =>
      exact ⟨fun h => (by cases h), fun h => absurd h.1 hinclude⟩

/-! ## Names -/

theorem lower_decimal (n : Nat) : (decimal n).lower = decimal n := by
  unfold Str.lower
  refine (List.map_congr_left fun c hc => ?_).trans (List.map_id _)
  have hd := isDigit_of_mem_decimal hc
  refine Str.toLower_of_not_upper ?_
  simp only [Char.isDigit, Bool.and_eq_true, decide_eq_true_eq, UInt32.le_iff_toNat_le] at hd
  have h1 : c.toNat ≤ 57 := hd.2
  omega

theorem desiredQos_managed {plan : TuningPlan} {policy : QosPolicySpec}
    (h : policy ∈ desiredQos plan) (restoreNames : List Str) :
    managedQosName policy.name restoreNames = true ∧ policy.name.isBlank = false := by
  have hport : "NETWORK_LANTERN_QOS_PORT_".toList ∈ ownedQosPrefixes := by decide
  have happ : "NETWORK_LANTERN_QOS_APP_".toList ∈ ownedQosPrefixes := by decide
  have hblank : ∀ {prefix_ s : Str}, 'N' ∈ prefix_ → (prefix_ ++ s).isBlank = false := fun h =>
    Str.isBlank_eq_false_of_mem (List.mem_append_left _ h) rfl
  unfold desiredQos at h
  rcases List.mem_append.mp h with h | h
  · obtain ⟨port, -, rfl⟩ := List.mem_map.mp h
    exact ⟨managedQosName_of_owned hport _, hblank (by decide)⟩
  · split at h
    · obtain ⟨index, _, rfl⟩ := List.mem_mapIdx.mp h
      exact ⟨managedQosName_of_owned happ _, hblank (by decide)⟩
    · cases h

/-- The names of a plan's policies differ, whatever their case. -/
theorem desiredQos_names_nodup {plan : TuningPlan} (h : plan.config.udpPorts.Nodup) :
    ((desiredQos plan).map fun policy => policy.name.lower).Nodup := by
  have hport : ∀ port, (portPolicy plan.config.dscp port).name.lower =
      "network_lantern_qos_port_".toList ++ decimal port.toNat := by
    intro port
    show Str.lower ("NETWORK_LANTERN_QOS_PORT_".toList ++ decimal port.toNat) = _
    rw [Str.lower_append, lower_decimal]
    rfl
  have happ : ∀ index path, (appPolicy plan.config.dscp index path).name.lower =
      "network_lantern_qos_app_".toList ++ decimal index := by
    intro index path
    show Str.lower ("NETWORK_LANTERN_QOS_APP_".toList ++ decimal index) = _
    rw [Str.lower_append, lower_decimal]
    rfl
  unfold desiredQos
  rw [List.map_append, List.nodup_append, List.map_map]
  refine ⟨?_, ?_, ?_⟩
  · refine h.map ?_
    intro a b hab
    simp only [Function.comp_apply, hport, List.append_cancel_left_eq] at hab
    exact UInt16.toNat.inj (decimal_injective hab)
  · split
    · rw [List.nodup_iff_injective_get]
      intro i j hij
      simp only [List.get_eq_getElem, List.getElem_map, List.getElem_mapIdx, happ,
        List.append_cancel_left_eq] at hij
      exact Fin.ext (decimal_injective hij)
    · simp
  · intro a ha b hb hab
    obtain ⟨port, -, rfl⟩ := List.mem_map.mp ha
    split at hb
    · obtain ⟨policy, hp, rfl⟩ := List.mem_map.mp hb
      obtain ⟨index, _, rfl⟩ := List.mem_mapIdx.mp hp
      simp only [Function.comp_apply, hport, happ] at hab
      exact absurd (congrArg (fun s => s[20]?) hab) (by simp)
    · cases hb

/-! ## Paths -/

/-- Every path that a policy is derived from has a backslash behind its drive. -/
def BackslashPaths (config : TuningConfig) : Prop :=
  config.includeAppPolicies = true → ∀ path ∈ config.appPaths, path.bytes[2]? = some 92

instance : DecidablePred BackslashPaths := fun _ => inferInstanceAs (Decidable (_ → _))

theorem mem_normalizeConfig_of_valid {config : TuningConfig} {path : Str}
    (hv : planValidWindowsExe path = true) :
    path ∈ (normalizeConfig config).appPaths ↔ path ∈ config.appPaths := by
  have hne : path.isEmpty = false := exePath_ne_nil hv
  simp only [normalizeConfig, List.mem_eraseDups, List.mem_filter, hne, Bool.not_false, and_true]

theorem path_of_index {config : TuningConfig} {p : TuningPlan} (h : plan config = .ok p) {index : Nat}
    (hlt : index < p.config.appPaths.length) : p.config.appPaths[index] ∈ config.appPaths := by
  have hc := (plan_ok h).2.1
  refine mem_normalizeConfig_paths ?_
  rw [← hc]
  exact List.getElem_mem hlt

/-- Every accepted path is the path of a policy. -/
theorem index_of_path {config : TuningConfig} {p : TuningPlan} (h : plan config = .ok p)
    (hinclude : config.includeAppPolicies = true) {path : Str} (hp : path ∈ config.appPaths) :
    ∃ index, appPolicy p.config.dscp index path ∈ desiredQos p := by
  obtain ⟨hv, hc, -⟩ := plan_ok h
  have hmem : path ∈ p.config.appPaths := by
    rw [hc]
    exact (mem_normalizeConfig_of_valid ((validate_ok hv).2.2 path hp)).mpr hp
  obtain ⟨index, hlt, hpath⟩ := List.getElem_of_mem hmem
  refine ⟨index, mem_desiredQos.mpr (Or.inr ⟨?_, index, hlt, by rw [hpath]⟩)⟩
  rw [hc]
  exact hinclude

/-- The planner's check leaves only the byte behind the drive open. -/
theorem validWindowsExe_iff_of_plan {path : Str} (h : planValidWindowsExe path = true) :
    validWindowsExe path = true ↔ path.bytes[2]? = some 92 := by
  rw [show validWindowsExe path = exePath (fun _ => true) [92] path from rfl,
    exePath_iff_of_imp (fun _ _ => rfl) h]
  cases path.bytes[2]? <;> simp

theorem desiredQos_readable_iff {config : TuningConfig} {p : TuningPlan} (h : plan config = .ok p) :
    (∀ policy ∈ desiredQos p, Readable [] policy) ↔ BackslashPaths config := by
  obtain ⟨hv, hc, -⟩ := plan_ok h
  obtain ⟨hdscp, hzero, hpaths⟩ := validate_ok hv
  have hdscp' : p.config.dscp.toNat ≤ 63 := by
    rw [hc]
    exact UInt8.le_iff_toNat_le.mp hdscp
  constructor
  · intro hr hinclude path hp
    obtain ⟨index, hin⟩ := index_of_path h hinclude hp
    exact (validWindowsExe_iff_of_plan (hpaths path hp)).mp (hr _ hin).2.2.1
  · intro hb policy hp
    obtain ⟨hm, hblank⟩ := desiredQos_managed hp []
    refine ⟨hm, hblank, ?_⟩
    rcases mem_desiredQos.mp hp with ⟨port, hport, rfl⟩ | ⟨hinclude, index, hlt, rfl⟩
    · refine ⟨Or.inr rfl, ?_, hdscp'⟩
      rintro rfl
      rw [hc] at hport
      exact hzero (mem_normalizeConfig_ports hport)
    · have hmem := path_of_index h hlt
      rw [hc] at hinclude
      exact ⟨(validWindowsExe_iff_of_plan (hpaths _ hmem)).mpr (hb hinclude _ hmem), hdscp'⟩

end NetworkLantern.Tuning
