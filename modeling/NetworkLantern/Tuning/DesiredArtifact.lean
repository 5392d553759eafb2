import NetworkLantern.Lib.JsonSize
import NetworkLantern.Tuning.Canonical
import NetworkLantern.Tuning.DesiredQos
import NetworkLantern.Tuning.QosRoundTrip

/-!
# The artifact of a plan's policies

A backup taken after an Apply holds the policies of its plan as `qosXml` writes
them.  The artifact is within the reader's bounds as soon as nothing in it is
escaped, so it reads back exactly when no path has one of the five special
characters (`desiredQos_parsed_iff`).
-/

namespace NetworkLantern.Tuning

open NetworkLantern XmlToken

/-- No path that a policy is derived from has a character that XML escapes. -/
def PlainPaths (config : TuningConfig) : Prop :=
  config.includeAppPolicies = true → ∀ path ∈ config.appPaths, Unescaped path

instance : DecidablePred PlainPaths := fun _ => inferInstanceAs (Decidable (_ → _))

/-! ## Texts -/

theorem survives_numbered {prefix_ : Str} (hp : Unescaped prefix_)
    (hhead : ∃ c, prefix_.head? = some c ∧ isXmlSpace c = false) (n : Nat) :
    Survives (prefix_ ++ decimal n) := by
  obtain ⟨hu, ht⟩ := survives_decimal n
  obtain ⟨c, hc, hspace⟩ := hhead
  refine ⟨fun d hd => (List.mem_append.mp hd).elim (hp d) (hu d), ?_⟩
  refine (Str.trimMatches_eq_self_iff _ _).mpr ⟨fun d hd => ?_, fun d hd => ?_⟩
  · rw [List.head?_append, hc] at hd
    cases hd
    exact hspace
  · rw [List.getLast?_append_of_ne_nil _ (decimal_ne_nil n)] at hd
    exact ((Str.trimMatches_eq_self_iff _ _).mp ht).2 d hd

theorem space_cases {c : Char} (h : isXmlSpace c = true) :
    c = ' ' ∨ c = '\t' ∨ c = '\r' ∨ c = '\n' := by
  simpa [isXmlSpace, or_assoc] using h

/-- A path that the planner accepts begins with a letter and ends in `.exe`. -/
theorem trimSpace_of_planValid {path : Str} (h : planValidWindowsExe path = true) :
    trimSpace path = path := by
  unfold planValidWindowsExe exePath at h
  simp only [Bool.and_eq_true] at h
  obtain ⟨⟨⟨⟨⟨⟨⟨-, hdrive⟩, -⟩, -⟩, hexe⟩, -⟩, -⟩, -⟩ := h
  refine (Str.trimMatches_eq_self_iff _ _).mpr ⟨fun c hc => ?_, fun c hc => ?_⟩
  · obtain ⟨rest, rfl⟩ : ∃ rest, path = c :: rest := by
      cases path with
      | nil => cases hc
      | cons d rest => cases hc; exact ⟨rest, rfl⟩
    rw [Bool.eq_false_iff]
    intro hspace
    rcases space_cases hspace with rfl | rfl | rfl | rfl <;> exact absurd hdrive Bool.false_ne_true
  · obtain ⟨front, hfront⟩ := List.isSuffixOf_iff_suffix.mp hexe
    have hlast : path.lower.getLast? = some 'e' := by
      rw [← hfront, List.getLast?_append_of_ne_nil _ (by decide)]
      rfl
    have hlower : path.lower.getLast? = some c.toLower := by
      unfold Str.lower
      rw [List.getLast?_map, hc]
      rfl
    rw [hlower] at hlast
    rw [Bool.eq_false_iff]
    intro hspace
    rcases space_cases hspace with rfl | rfl | rfl | rfl <;> exact absurd hlast (by decide)

theorem unescaped_port : Unescaped "NETWORK_LANTERN_QOS_PORT_".toList := by decide
theorem unescaped_app : Unescaped "NETWORK_LANTERN_QOS_APP_".toList := by decide

/-- The texts of a plan's policies are not trimmed, and only a path can have a special
character. -/
theorem desiredQos_survives {config : TuningConfig} {p : TuningPlan} (h : plan config = .ok p)
    (hplain : PlainPaths config) :
    ∀ policy ∈ desiredQos p, ∀ s ∈ policyTexts policy, Survives s := by
  intro policy hp s hs
  obtain ⟨hv, hc, -⟩ := plan_ok h
  rcases mem_desiredQos.mp hp with ⟨port, -, rfl⟩ | ⟨hinclude, index, hlt, rfl⟩
  · rw [List.mem_singleton.mp hs]
    exact survives_numbered unescaped_port ⟨'N', rfl, rfl⟩ _
  · have hpath := path_of_index h hlt
    rw [hc] at hinclude
    rcases List.mem_cons.mp hs with rfl | hs
    · exact survives_numbered unescaped_app ⟨'N', rfl, rfl⟩ _
    · rw [List.mem_singleton.mp hs]
      exact ⟨hplain hinclude _ hpath, trimSpace_of_planValid ((validate_ok hv).2.2 _ hpath)⟩

/-! ## Bounds -/

theorem flatMap_escapeChar {s : Str} (h : Unescaped s) : s.flatMap escapeChar = s := by
  induction s with
  | nil => rfl
  | cons c s ih =>
    rw [List.flatMap_cons, ih fun d hd => h d (List.mem_cons_of_mem c hd)]
    unfold escapeChar
    rw [h c List.mem_cons_self]
    rfl

/-- The text of one policy. -/
def policyXml (policy : QosPolicySpec) : Str :=
  "<Obj><MS>".toList ++ (policyFields policy).flatMap (fun field => xmlField field.1 field.2) ++
    "</MS></Obj>".toList

theorem byteLen_xmlField {name value : Str} (h : Unescaped value) :
    (xmlField name value).byteLen = name.byteLen + value.byteLen + 12 := by
  have hopen : Str.byteLen "<S N=\"".toList = 6 := by decide
  have hmid : Str.byteLen "\">".toList = 2 := by decide
  have hclose : Str.byteLen "</S>".toList = 4 := by decide
  unfold xmlField
  rw [flatMap_escapeChar h]
  simp only [Str.byteLen_append, hopen, hmid, hclose]
  omega

theorem byteLen_flatMap_xmlField {fields : List (Str × Str)} (h : ∀ field ∈ fields, Unescaped field.2) :
    Str.byteLen (fields.flatMap fun field => xmlField field.1 field.2) =
      (fields.map fun field => field.1.byteLen + field.2.byteLen + 12).sum := by
  induction fields with
  | nil => rfl
  | cons field fields ih =>
    rw [List.forall_mem_cons] at h
    rw [List.flatMap_cons, Str.byteLen_append, byteLen_xmlField h.1, ih h.2, List.map_cons,
      List.sum_cons]

theorem byteLen_policyXml {policy : QosPolicySpec} (h : ∀ field ∈ policyFields policy, Unescaped field.2) :
    (policyXml policy).byteLen =
      ((policyFields policy).map fun field => field.1.byteLen + field.2.byteLen + 12).sum + 20 := by
  have hopen : Str.byteLen "<Obj><MS>".toList = 9 := by decide
  have hclose : Str.byteLen "</MS></Obj>".toList = 11 := by decide
  unfold policyXml
  rw [Str.byteLen_append, Str.byteLen_append, byteLen_flatMap_xmlField h, hopen, hclose]
  omega

theorem unescaped_fields {policy : QosPolicySpec} (hn : NormalMatch policy)
    (h : ∀ s ∈ policyTexts policy, Survives s) :
    ∀ field ∈ policyFields policy, Unescaped field.2 :=
  fun field hf => ((survives_fields hn).mpr h field hf).1

theorem byteLen_portPolicy (dscp : UInt8) (port : UInt16) :
    (∀ field ∈ policyFields (portPolicy dscp port), field.2.byteLen ≤ 30) ∧
      ((policyFields (portPolicy dscp port)).map fun field =>
        field.1.byteLen + field.2.byteLen + 12).sum ≤ 200 := by
  have hport : (decimal port.toNat).byteLen ≤ 5 :=
    (byteLen_decimal_le_iff (by omega)).mpr (Nat.lt_trans port.toNat_lt (by omega))
  have hdscp : (decimal dscp.toNat).byteLen ≤ 3 :=
    (byteLen_decimal_le_iff (by omega)).mpr (Nat.lt_trans dscp.toNat_lt (by omega))
  have hname : Str.byteLen ("NETWORK_LANTERN_QOS_PORT_".toList ++ decimal port.toNat) ≤ 30 := by
    have hprefix : Str.byteLen "NETWORK_LANTERN_QOS_PORT_".toList = 25 := by decide
    rw [Str.byteLen_append]
    omega
  have hconst : Str.byteLen "Name".toList = 4 ∧ Str.byteLen "Type".toList = 4 ∧
      Str.byteLen "Port".toList = 4 ∧ Str.byteLen "Protocol".toList = 8 ∧
      Str.byteLen "UDP".toList = 3 ∧ Str.byteLen "Dscp".toList = 4 := by decide
  obtain ⟨h1, h2, h3, h4, h5, h6⟩ := hconst
  unfold portPolicy policyFields
  simp only [List.forall_mem_cons, List.map_cons, List.map_nil, List.sum_cons, List.sum_nil]
  refine ⟨⟨hname, by omega, by omega, by omega, by omega, fun field hf => (by cases hf)⟩, by omega⟩

theorem byteLen_appPolicy (dscp : UInt8) {index : Nat} {path : Str} (hindex : index < maxApps)
    (hpath : path.byteLen ≤ maxPathBytes) :
    (∀ field ∈ policyFields (appPolicy dscp index path), field.2.byteLen ≤ maxPropertyBytes) ∧
      ((policyFields (appPolicy dscp index path)).map fun field =>
        field.1.byteLen + field.2.byteLen + 12).sum ≤ maxPathBytes + 200 := by
  have hnumber : (decimal index).byteLen ≤ 2 :=
    (byteLen_decimal_le_iff (by omega)).mpr (by unfold maxApps at hindex; omega)
  have hdscp : (decimal dscp.toNat).byteLen ≤ 3 :=
    (byteLen_decimal_le_iff (by omega)).mpr (Nat.lt_trans dscp.toNat_lt (by omega))
  have hname : Str.byteLen ("NETWORK_LANTERN_QOS_APP_".toList ++ decimal index) ≤ 26 := by
    have hprefix : Str.byteLen "NETWORK_LANTERN_QOS_APP_".toList = 24 := by decide
    rw [Str.byteLen_append]
    omega
  have hconst : Str.byteLen "Name".toList = 4 ∧ Str.byteLen "Type".toList = 4 ∧
      Str.byteLen "App".toList = 3 ∧ Str.byteLen "AppPath".toList = 7 ∧
      Str.byteLen "Dscp".toList = 4 := by decide
  obtain ⟨h1, h2, h3, h4, h5⟩ := hconst
  unfold appPolicy policyFields maxPropertyBytes
  unfold maxPathBytes at hpath ⊢
  simp only [List.forall_mem_cons, List.map_cons, List.map_nil, List.sum_cons, List.sum_nil]
  refine ⟨⟨by omega, by omega, by omega, by omega, fun field hf => (by cases hf)⟩, by omega⟩

/-- A plan has at most 100 ports and at most 100 paths. -/
theorem plan_bounds {config : TuningConfig} {p : TuningPlan} (h : plan config = .ok p) :
    p.config.udpPorts.length ≤ maxPorts ∧ p.config.appPaths.length ≤ maxApps := by
  obtain ⟨hv, hc, -⟩ := plan_ok h
  obtain ⟨hports, happs, -⟩ := validate_bounds hv
  rw [hc]
  exact ⟨(length_normalizeConfig_ports config).trans hports,
    (length_normalizeConfig_paths config).trans happs⟩

theorem length_desiredQos {config : TuningConfig} {p : TuningPlan} (h : plan config = .ok p) :
    (desiredQos p).length ≤ maxQosPolicies := by
  obtain ⟨hports, happs⟩ := plan_bounds h
  unfold maxPorts at hports
  unfold maxApps at happs
  unfold desiredQos maxQosPolicies
  rw [List.length_append, List.length_map]
  split
  · rw [List.length_mapIdx]
    omega
  · rw [List.length_nil]
    omega

/-- The bounds of a plan's policies, by where they come from. -/
theorem byteLen_desired {config : TuningConfig} {p : TuningPlan} (h : plan config = .ok p) :
    ∀ policy ∈ desiredQos p, ∀ field ∈ policyFields policy,
      field.2.byteLen ≤ maxPropertyBytes := by
  obtain ⟨hv, -, -⟩ := plan_ok h
  have happs := (plan_bounds h).2
  intro policy hp
  rcases mem_desiredQos.mp hp with ⟨port, -, rfl⟩ | ⟨-, index, hlt, rfl⟩
  · intro field hf
    exact ((byteLen_portPolicy _ port).1 field hf).trans (by decide)
  · exact (byteLen_appPolicy _ (Nat.lt_of_lt_of_le hlt happs)
      ((validate_bounds hv).2.2 _ (path_of_index h hlt))).1

/-- The whole artifact fits: 100 ports of 220 bytes and 100 paths of 32 KiB stay below 4 MiB. -/
theorem byteLen_qosXml_desired {config : TuningConfig} {p : TuningPlan} (h : plan config = .ok p)
    (hfields : ∀ policy ∈ desiredQos p, ∀ field ∈ policyFields policy, Unescaped field.2) :
    (qosXml (desiredQos p)).byteLen ≤ maxQosBytes := by
  obtain ⟨hv, -, -⟩ := plan_ok h
  obtain ⟨hports, happs⟩ := plan_bounds h
  have hopen : Str.byteLen "<Objs><LST>".toList = 11 := by decide
  have hclose : Str.byteLen "</LST></Objs>".toList = 13 := by decide
  have hxml : qosXml (desiredQos p) =
      "<Objs><LST>".toList ++ (desiredQos p).flatMap policyXml ++ "</LST></Objs>".toList := rfl
  have hfirst : Str.byteLen ((p.config.udpPorts.map (portPolicy p.config.dscp)).flatMap policyXml) ≤
      maxPorts * 220 := by
    refine (Str.byteLen_flatMap_le (b := 220) fun policy hp => ?_).trans ?_
    · obtain ⟨port, hport, rfl⟩ := List.mem_map.mp hp
      have hmem := mem_desiredQos.mpr (Or.inl ⟨port, hport, rfl⟩)
      have hlen := (byteLen_portPolicy p.config.dscp port).2
      rw [byteLen_policyXml (hfields _ hmem)]
      omega
    · rw [List.length_map]
      exact Nat.mul_le_mul_right _ hports
  have hsecond : Str.byteLen ((if p.config.includeAppPolicies then
      p.config.appPaths.mapIdx (appPolicy p.config.dscp) else []).flatMap policyXml) ≤
        maxApps * (maxPathBytes + 220) := by
    split
    · next hinclude =>
      refine (Str.byteLen_flatMap_le (b := maxPathBytes + 220) fun policy hp => ?_).trans ?_
      · obtain ⟨index, hlt, rfl⟩ := List.mem_mapIdx.mp hp
        have hmem := mem_desiredQos.mpr (Or.inr ⟨hinclude, index, hlt, rfl⟩)
        have hlen := (byteLen_appPolicy p.config.dscp (Nat.lt_of_lt_of_le hlt happs)
          ((validate_bounds hv).2.2 _ (path_of_index h hlt))).2
        rw [byteLen_policyXml (hfields _ hmem)]
        omega
      · rw [List.length_mapIdx]
        exact Nat.mul_le_mul_right _ happs
    · exact Nat.zero_le _
  rw [hxml, Str.byteLen_append, Str.byteLen_append, hopen, hclose]
  unfold desiredQos
  rw [List.flatMap_append, Str.byteLen_append]
  unfold maxPorts at hfirst
  unfold maxApps maxPathBytes at hsecond
  unfold maxQosBytes
  omega

/-! ## Reading the artifact -/

/-- The artifact of a plan's policies that the inventory reads comes back exactly when no path
has a special character. -/
theorem desiredQos_parsed_iff {reader : XmlReader} (hr : reader.Lawful) {config : TuningConfig}
    {p : TuningPlan} (h : plan config = .ok p) (hall : ∀ policy ∈ desiredQos p, Readable [] policy) :
    parseQosClixml reader (qosXml (desiredQos p)).bytes = .ok (desiredQos p) ↔ PlainPaths config := by
  constructor
  · intro hparse hinclude path hp
    obtain ⟨index, hmem⟩ := index_of_path h hinclude hp
    exact unescaped_of_parse hr hparse _ hmem path (by simp [appPolicy, policyTexts])
  · intro hplain
    have hnormal := fun policy hp => normalMatch_of_readable (hall policy hp)
    have hsurvives := desiredQos_survives h hplain
    refine parseQosClixml_of_survives hr hnormal (length_desiredQos h) (desiredQos_names_nodup ?_)
      (byteLen_qosXml_desired h fun policy hp =>
        unescaped_fields (hnormal policy hp).2 (hsurvives policy hp)) (byteLen_desired h) hsurvives
    rw [(plan_ok h).2.1]
    exact normalizeConfig_ports_nodup config

end NetworkLantern.Tuning
