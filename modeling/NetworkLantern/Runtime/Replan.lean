import NetworkLantern.Runtime.Application

/-!
# Planning again

What a plan resolved its layers to, handed on as one strict layer, plans to the
same plan.
-/

namespace NetworkLantern.Runtime

open NetworkLantern

/-- The settings of a throughput plan as one layer. -/
def suiteParameters (plan : Throughput.ThroughputPlan) (thresholds : Thresholds) : Entries Json :=
  thresholds.fields.foldl (fun es f => Entries.insert f.1 f.2 es)
    (Entries.insert "bidirectional" (.bool plan.capabilities.bidirectional) plan.config.toEntries)

/-- The layer that a preview is handed on as. -/
def StepPreview.parameters : StepPreview → Entries Json
  | .throughput plan _ thresholds => suiteParameters plan thresholds
  | .pathBasic _ settings _ => settings.toEntries
  | .pathTrace _ settings _ => settings.toEntries
  | .tuning plan _ _ => plan.config.toEntries

/-! ## Throughput -/

theorem throughputDefaults_nodup : ((Entries.keys throughputDefaults).map Str.lower).Nodup := by
  decide

theorem sorted_throughputDefaults : Entries.Sorted throughputDefaults :=
  Entries.sorted_foldl_insert _ (Entries.sorted_ofFields _)

theorem sorted_suiteParameters (plan : Throughput.ThroughputPlan) (t : Thresholds) :
    Entries.Sorted (suiteParameters plan t) :=
  Entries.sorted_foldl_insert _ (Entries.sorted_insert (Entries.sorted_ofFields _) _ _)

theorem keys_suiteParameters (plan : Throughput.ThroughputPlan) (t : Thresholds) (k : Str) :
    k ∈ Entries.keys (suiteParameters plan t) ↔ k ∈ Entries.keys throughputDefaults := by
  have hfields : plan.config.fields.map Prod.fst =
      Throughput.SuiteConfig.default.fields.map Prod.fst := rfl
  have hextras : throughputExtras.map Prod.fst =
      "bidirectional".toList :: t.fields.map Prod.fst := rfl
  unfold suiteParameters throughputDefaults Throughput.SuiteConfig.toEntries
  rw [Entries.keys_foldl_insert, Entries.keys_foldl_insert, Entries.keys_insert,
    Entries.keys_ofFields, Entries.keys_ofFields, hfields, hextras, List.mem_cons]
  tauto

theorem get?_suiteParameters (plan : Throughput.ThroughputPlan) (t : Thresholds) (k : Str) :
    Entries.get? (suiteParameters plan t) k =
      (List.lookup k t.fields).or
        (if k = "bidirectional".toList then some (.bool plan.capabilities.bidirectional)
          else List.lookup k plan.config.fields) := by
  have hn : (t.fields.map Prod.fst).Nodup := by
    have hkeys : t.fields.map Prod.fst =
      ["min_throughput_mbps".toList, "max_loss_pct".toList, "max_jitter_ms".toList] := rfl
    rw [hkeys]
    decide
  unfold suiteParameters
  rw [Entries.get?_foldl_insert_of_nodup hn, Entries.get?_insert,
    show plan.config.toEntries = Entries.ofFields plan.config.fields from rfl,
    Entries.get?_ofFields plan.config.fields_nodup]

/-- A key of the suite is bound to the value of its own field. -/
theorem get?_suiteParameters_config {plan : Throughput.ThroughputPlan} {t : Thresholds} {k : Str}
    {v : Json} (h : List.lookup k plan.config.fields = some v) :
    Entries.get? (suiteParameters plan t) k = some v ∧ k ∉ throughputExtras.map Prod.fst := by
  have hmem : k ∈ Throughput.SuiteConfig.default.fields.map Prod.fst := by
    refine (Entries.get?_isSome plan.config.fields k).mp ?_
    rw [show Entries.get? plan.config.fields k = some v from h]
    rfl
  have hextra : ∀ l ∈ Throughput.SuiteConfig.default.fields.map Prod.fst,
      l ∉ throughputExtras.map Prod.fst := by decide
  have hk := hextra k hmem
  refine ⟨?_, hk⟩
  have hnames : throughputExtras.map Prod.fst = "bidirectional".toList :: t.fields.map Prod.fst :=
    rfl
  rw [hnames, List.mem_cons, not_or] at hk
  have hnone : Entries.get? t.fields k = none := by
    rw [← Option.not_isSome_iff_eq_none, Entries.get?_isSome]
    exact hk.2
  rw [get?_suiteParameters, show List.lookup k t.fields = none from hnone, if_neg hk.1, h]
  rfl

theorem native_names : ∀ k ∈ Entries.keys throughputDefaults,
    legacyName k = k ∧ (k = "protocol".toList ∨ Str.lower k ∉ translatedKeys) := by
  decide

/-- Plain native names, and a protocol that is lower case already. -/
theorem native_suiteParameters (plan : Throughput.ThroughputPlan) (t : Thresholds) :
    ∀ e ∈ suiteParameters plan t, Native e := by
  rintro ⟨k, v⟩ he
  have hk : k ∈ Entries.keys throughputDefaults :=
    (keys_suiteParameters plan t k).mp (List.mem_map_of_mem he)
  obtain ⟨hname, hvalue⟩ := native_names k hk
  refine ⟨hname, ?_⟩
  rcases hvalue with rfl | hvalue
  · have hprotocol : List.lookup "protocol".toList plan.config.fields =
        some (.string plan.config.protocol.name) := rfl
    have hget := Entries.get?_of_mem (sorted_suiteParameters plan t).nodup he
    rw [(get?_suiteParameters_config hprotocol).1] at hget
    cases hget
    cases plan.config.protocol <;> rfl
  · exact legacyValue_plain hvalue v

/-- The checks a threshold passes leave it finite, so that it is written as a number. -/
theorem readThreshold_of_get? [Refusals] {value : Entries Json} {name : Str} {max : Float}
    {x : Option Float} (hv : Entries.get? value name = some (.ofOption .ofFloat x))
    (hx : Thresholds.outside max x = false) : readThreshold value name = .ok x := by
  have hread : Json.toOption Json.toFloat (.ofOption .ofFloat x) = some x := by
    refine Json.toOption_ofOption fun y hy => ?_
    have hfinite : y.isFinite = true := by
      rw [hy] at hx
      simp only [Thresholds.outside, Option.any_some, Bool.or_eq_false_iff] at hx
      simpa using hx.1.1
    refine ⟨Json.toFloat_ofFloat hfinite, fun hnull => ?_⟩
    rw [Json.ofFloat, dif_pos hfinite] at hnull
    cases hnull
  have hfield : (Json.object value).field name = .ofOption .ofFloat x := by
    rw [Json.field_object, hv]
    rfl
  show decoded "f64" ((Json.object value).field name) _ = _
  rw [hfield, hread]
  rfl

theorem Thresholds.validate_ok {t : Thresholds} (h : t.validate = .ok ()) :
    outside 1000000.0 t.minThroughputMbps = false ∧ outside 100.0 t.maxLossPct = false ∧
      outside 1000000.0 t.maxJitterMs = false := by
  obtain ⟨hmin, h⟩ := refuse_bind_ok.mp h
  obtain ⟨hloss, h⟩ := refuse_bind_ok.mp h
  exact ⟨hmin, hloss, (refuse_eq_ok _ _).mp h⟩

theorem dropZeroBudget_of_ne {value : Entries Json}
    (h : ((Json.object value).field "max_total_tests").asU64 ≠ some 0) :
    dropZeroBudget value = value := if_neg h

theorem get?_suiteEntries {value : Entries Json} {k : Str}
    (hk : k ∉ throughputExtras.map Prod.fst) :
    Entries.get? (suiteEntries value) k = Entries.get? (dropZeroBudget value) k := by
  have hremove : ∀ (fields : List (Str × Json)) (es : Entries Json), k ∉ fields.map Prod.fst →
      Entries.get? (fields.foldl (fun es f => Entries.remove f.1 es) es) k = Entries.get? es k := by
    intro fields
    induction fields with
    | nil => intro es _; rfl
    | cons f fields ih =>
      intro es hf
      rw [List.map_cons, List.mem_cons, not_or] at hf
      rw [List.foldl_cons, ih _ hf.2, Entries.get?_remove_of_ne hf.1]
  exact hremove _ _ hk

/-- The parameters of a plan read as the plan's own configuration. -/
theorem readSuite_suiteParameters [Refusals] {plan : Throughput.ThroughputPlan} {t : Thresholds}
    (hloss : plan.config.udpLossThresholdPct.isFinite = true)
    (hbudget : plan.config.maxTotalTests ≠ some 0) (ht : t.validate = .ok ()) :
    readSuite (suiteParameters plan t) = .ok (plan.config, plan.capabilities, t) := by
  have hget := get?_suiteParameters plan t
  obtain ⟨hmin, hlossPct, hjitter⟩ := Thresholds.validate_ok ht
  have hkeep : dropZeroBudget (suiteParameters plan t) = suiteParameters plan t := by
    refine dropZeroBudget_of_ne fun hzero => hbudget ?_
    have hlookup : List.lookup "max_total_tests".toList plan.config.fields =
        some (.ofOption .ofNat plan.config.maxTotalTests) := rfl
    have hfield : (Json.object (suiteParameters plan t)).field "max_total_tests" =
        .ofOption .ofNat plan.config.maxTotalTests := by
      rw [Json.field_object, (get?_suiteParameters_config hlookup).1]
      rfl
    rw [hfield] at hzero
    revert hzero
    cases plan.config.maxTotalTests with
    | none => nofun
    | some n => exact id
  have hconfig : Throughput.SuiteConfig.ofEntries (suiteEntries (suiteParameters plan t)) =
      some plan.config := by
    refine Throughput.SuiteConfig.ofEntries_of_fields hloss fun k v hk => ?_
    obtain ⟨hbound, hextra⟩ := get?_suiteParameters_config (t := t) hk
    rw [get?_suiteEntries hextra, hkeep, hbound]
  have hbidirectional : ((Json.object (suiteParameters plan t)).field "bidirectional").asBool =
      some plan.capabilities.bidirectional := by
    rw [Json.field_object, hget]
    rfl
  have hbound : ∀ {name : Str} {x : Option Float},
      List.lookup name t.fields = some (.ofOption .ofFloat x) →
        Entries.get? (suiteParameters plan t) name = some (.ofOption .ofFloat x) := by
    intro name x hx
    rw [hget, hx]
    rfl
  exact readSuite_ok.mpr ⟨hbidirectional, readThreshold_of_get? (hbound rfl) hmin,
    readThreshold_of_get? (hbound rfl) hlossPct, readThreshold_of_get? (hbound rfl) hjitter, ht,
    hconfig⟩

/-- A budget of 0 never reaches the configuration. -/
theorem maxTotalTests_ne_zero {value : Entries Json} {c : Throughput.SuiteConfig}
    (h : Throughput.SuiteConfig.ofEntries (suiteEntries value) = some c) :
    c.maxTotalTests ≠ some 0 := by
  intro hzero
  have hread := Throughput.SuiteConfig.ofEntries_maxTotalTests h
  rw [hzero, Json.required, get?_suiteEntries (by decide)] at hread
  obtain ⟨v, hv, hread⟩ := Option.bind_eq_some_iff.mp hread
  have hv0 : v.asU64 = some 0 := by
    cases v with
    | null => cases hread
    | _ => simpa [Json.toOption] using hread
  unfold dropZeroBudget at hv
  split at hv
  · rw [Entries.get?_insert_self] at hv
    cases hv
    cases hv0
  · next hne =>
    rw [Json.field_object, hv] at hne
    exact hne hv0

/-- What a throughput plan was made of. -/
theorem throughput_ok [Refusals] {layers : List Json} {strict : Bool}
    {plan : Throughput.ThroughputPlan} {warnings : List Str} {t : Thresholds}
    (h : throughput layers strict = .ok (plan, warnings, t)) :
    plan.config.udpLossThresholdPct.isFinite = true ∧ plan.config.maxTotalTests ≠ some 0 ∧
      t.validate = .ok () ∧ Throughput.plan plan.config plan.capabilities = .ok plan := by
  obtain ⟨translated, -, h⟩ := except_bind_ok.mp h
  obtain ⟨⟨value, notes⟩, -, h⟩ := except_bind_ok.mp h
  obtain ⟨⟨config, capabilities, thresholds⟩, hread, h⟩ := except_bind_ok.mp h
  obtain ⟨p, hplan, h⟩ := except_bind_ok.mp h
  cases h
  obtain ⟨-, -, -, -, hvalid, hconfig⟩ := readSuite_ok.mp hread
  rw [mapError_eq_ok] at hplan
  obtain ⟨hcheck, hc, hcap⟩ := Throughput.plan_ok hplan
  rw [hc, hcap]
  exact ⟨Throughput.validate_finite hcheck, maxTotalTests_ne_zero hconfig, hvalid, hplan⟩

theorem throughput_again [Refusals] {layers : List Json} {strict : Bool}
    {plan : Throughput.ThroughputPlan} {warnings : List Str} {t : Thresholds}
    (h : throughput layers strict = .ok (plan, warnings, t)) :
    throughput [.object (suiteParameters plan t)] true = .ok (plan, [], t) := by
  obtain ⟨hfinite, hbudget, hvalid, hplan⟩ := throughput_ok h
  have hnative := legacyThroughput_native (sorted_suiteParameters plan t)
    (native_suiteParameters plan t)
  have hmerge : mergeLayers throughputDefaults [.object (suiteParameters plan t)] true =
      .ok (suiteParameters plan t, []) :=
    mergeLayers_full throughputDefaults_nodup sorted_throughputDefaults (sorted_suiteParameters plan t)
      (keys_suiteParameters plan t)
  have htranslate : [Json.object (suiteParameters plan t)].mapM legacyThroughput =
      .ok [.object (suiteParameters plan t)] := mapM_eq_ok.mpr (.cons hnative .nil)
  exact except_bind_ok.mpr ⟨_, htranslate, except_bind_ok.mpr ⟨_, hmerge, except_bind_ok.mpr
    ⟨_, readSuite_suiteParameters hfinite hbudget hvalid, except_bind_ok.mpr
      ⟨plan, mapError_eq_ok.mpr hplan, rfl⟩⟩⟩⟩

/-! ## Paths -/

/-- Settings without an empty selection. -/
def droppedEntry (e : Str × Json) : Bool := keepsFallback e.1 && isEmptyArray e.2

theorem path_names : ∀ k ∈ PathConfig.default.fields.map Prod.fst,
    k ≠ "target".toList ∧ pathName k = k := by
  decide

/-- Native settings keep their names; an empty selection is left out. -/
theorem translate_native {entries : Entries Json} (hs : Entries.Sorted entries)
    (h : ∀ k ∈ Entries.keys entries, k ∈ PathConfig.default.fields.map Prod.fst) :
    translate (.object entries) = .ok (.object (entries.filter fun e => !droppedEntry e)) := by
  have hfold : ∀ (es out : Entries Json),
      (∀ k ∈ Entries.keys es, k ∈ PathConfig.default.fields.map Prod.fst) →
      es.foldlM translateEntry out = Except.ok
        ((es.filter fun e => !droppedEntry e).foldl (fun es e => Entries.insert e.1 e.2 es) out) := by
    intro es
    induction es with
    | nil => intro out _; rfl
    | cons e es ih =>
      intro out hes
      obtain ⟨htarget, hname⟩ := path_names e.1 (hes e.1 List.mem_cons_self)
      have hrest : ∀ k ∈ Entries.keys es, k ∈ PathConfig.default.fields.map Prod.fst :=
        fun k hk => hes k (List.mem_cons_of_mem e.1 hk)
      rw [List.foldlM_cons, translateEntry, if_neg htarget, hname, List.filter_cons]
      by_cases hdrop : droppedEntry e = true
      · rw [show (keepsFallback e.1 && isEmptyArray e.2) = true from hdrop, if_pos rfl, hdrop]
        exact ih out hrest
      · have hkeep : droppedEntry e = false := Bool.not_eq_true _ ▸ hdrop
        rw [show (keepsFallback e.1 && isEmptyArray e.2) = false from hkeep, if_neg (by decide),
          hkeep]
        exact ih _ hrest
  show (entries.foldlM translateEntry []).map Json.object = _
  have hfilter : Entries.Sorted (entries.filter fun e => !droppedEntry e) := hs.filter _
  rw [hfold entries [] h, show (entries.filter fun e => !droppedEntry e).foldl
    (fun es e => Entries.insert e.1 e.2 es) [] = _ from hfilter.ofFields_self]
  rfl

theorem keepsFallback_names : ∀ k ∈ PathConfig.default.fields.map Prod.fst,
    keepsFallback k = true → k = "rounds".toList ∨ k = "protocols".toList := by
  decide

theorem get?_pathConfig (config : PathConfig) (k : Str) :
    Entries.get? config.toEntries k = List.lookup k config.fields :=
  Entries.get?_ofFields config.fields_nodup k

theorem keys_pathConfig (config : PathConfig) (k : Str) :
    k ∈ Entries.keys config.toEntries ↔ k ∈ PathConfig.default.fields.map Prod.fst :=
  Entries.keys_ofFields config.fields k

/-- Resolved path settings resolve to themselves, as long as they select some protocol. -/
theorem resolve_again [Refusals] {config : PathConfig} (trace : Bool)
    (hp : config.protocols ≠ []) :
    resolve [.object config.toEntries] true trace = .ok (config, []) := by
  have hs : Entries.Sorted config.toEntries := Entries.sorted_ofFields _
  have hd : Entries.Sorted (pathDefaults trace).toEntries := Entries.sorted_ofFields _
  have hkept := translate_native hs fun k => (keys_pathConfig config k).mp
  generalize hfilter : config.toEntries.filter (fun e => !droppedEntry e) = kept at hkept
  have hsub : kept.Sublist config.toEntries := hfilter ▸ List.filter_sublist
  have hknown : ∀ k ∈ Entries.keys kept, k ∈ Entries.keys (pathDefaults trace).toEntries := by
    intro k hk
    have hin := (hsub.map Prod.fst).subset hk
    exact (keys_pathConfig _ k).mpr ((keys_pathConfig config k).mp hin)
  have hmerge := @mergeLayers_known _ _ true (pathDefaults_nodup trace) hknown
  have hsame : kept.foldl (fun es e => Entries.insert e.1 e.2 es) (pathDefaults trace).toEntries =
      config.toEntries := by
    refine (Entries.sorted_foldl_insert _ hd).ext hs fun k => ?_
    have hkept_sorted : Entries.Sorted kept := List.Pairwise.sublist hsub hs
    rw [Entries.get?_foldl_insert_of_nodup hkept_sorted.nodup]
    show (Entries.get? kept k).or _ = _
    rw [← hfilter, Entries.get?_filter hs.nodup]
    cases hget : Entries.get? config.toEntries k with
    | none =>
      have hout : k ∉ Entries.keys (pathDefaults trace).toEntries := fun hin => by
        have hmem := (keys_pathConfig config k).mpr ((keys_pathConfig _ k).mp hin)
        rw [← Entries.get?_isSome, hget] at hmem
        cases hmem
      rw [← Entries.get?_isSome, Option.not_isSome_iff_eq_none] at hout
      rw [hout]
      rfl
    | some v =>
      rw [Option.filter_some]
      by_cases hdrop : droppedEntry (k, v) = true
      · obtain ⟨hkey, hempty⟩ := (Bool.and_eq_true _ _).mp hdrop
        have hmem : k ∈ PathConfig.default.fields.map Prod.fst := by
          refine (keys_pathConfig config k).mp ((Entries.get?_isSome _ k).mp ?_)
          rw [hget]
          rfl
        rw [hdrop, if_neg (by decide), Option.none_or, get?_pathConfig]
        rw [get?_pathConfig] at hget
        rcases keepsFallback_names k hmem hkey with rfl | rfl
        · have hv : some (Json.ofList .string config.rounds) = some v := hget
          have hrounds : config.rounds = [] := by
            cases hv
            cases hr : config.rounds with
            | nil => rfl
            | cons r rs => rw [hr] at hempty; cases hempty
          rw [← hv, hrounds]
          cases trace <;> rfl
        · have hv : some (Json.ofList .string config.protocols) = some v := hget
          cases hv
          cases hr : config.protocols with
          | nil => exact absurd hr hp
          | cons r rs => rw [hr] at hempty; cases hempty
      · rw [Bool.not_eq_true] at hdrop
        rw [hdrop, if_pos (by decide)]
        rfl
  rw [hsame] at hmerge
  exact except_bind_ok.mpr ⟨_, mapM_eq_ok.mpr (.cons hkept .nil), except_bind_ok.mpr ⟨_, hmerge,
    except_bind_ok.mpr ⟨config, decoded_eq_ok.mpr config.ofEntries_toEntries, rfl⟩⟩⟩

/-! ## Tuning -/

theorem tuningDefaults_nodup :
    ((Entries.keys Tuning.TuningConfig.default.toEntries).map Str.lower).Nodup := by
  decide

theorem tuning_again [Refusals] [Helper.Crates] {layers : List Json} {strict : Bool}
    {plan : Tuning.TuningPlan} {warnings : List Str} {hash : Str}
    (h : tuning layers strict = .ok (plan, warnings, hash)) :
    tuning [.object plan.config.toEntries] true = .ok (plan, [], hash) := by
  obtain ⟨⟨value, notes⟩, -, h⟩ := except_bind_ok.mp h
  obtain ⟨config, -, h⟩ := except_bind_ok.mp h
  obtain ⟨p, hplan, h⟩ := except_bind_ok.mp h
  cases h
  have hcanonical := Tuning.plan_canonical (mapError_eq_ok.mp hplan)
  have hkeys : ∀ k, k ∈ Entries.keys plan.config.toEntries ↔
      k ∈ Entries.keys Tuning.TuningConfig.default.toEntries := by
    intro k
    rw [show plan.config.toEntries = Entries.ofFields plan.config.fields from rfl,
      show Tuning.TuningConfig.default.toEntries =
        Entries.ofFields Tuning.TuningConfig.default.fields from rfl,
      Entries.keys_ofFields, Entries.keys_ofFields]
    exact Iff.rfl
  have hmerge := @mergeLayers_full _ plan.config.toEntries true tuningDefaults_nodup
    (Entries.sorted_ofFields _) (Entries.sorted_ofFields _) hkeys
  exact except_bind_ok.mpr ⟨_, hmerge, except_bind_ok.mpr
    ⟨_, decoded_eq_ok.mpr plan.config.ofEntries_toEntries, except_bind_ok.mpr
      ⟨plan, mapError_eq_ok.mpr hcanonical, rfl⟩⟩⟩

end NetworkLantern.Runtime
