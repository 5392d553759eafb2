import NetworkLantern.Runtime.Spelling

/-!
# Layers that may not be spelt in any case

A spelling of a layer is told from another by what it resolves to between two other
layers, or by the key that `--strict` names.  Where keys for one setting agree, this
tells every layer that `caseBlind_of_agrees` leaves out (`spelling_iff`).
-/

namespace NetworkLantern.Runtime

open NetworkLantern Path

/-- A target stands beside no other, and beside no protocols. -/
def TargetAlone (layer : Entries Json) : Prop :=
  ∀ e ∈ layer, Str.lower e.1 = "target".toList → ∀ f ∈ layer,
    Str.lower f.1 = "target".toList ∨ Str.lower f.1 = "protocols".toList → f = e

/-- No two unknown keys are refused alike. -/
def UnknownOnce (layer : Entries Json) : Prop :=
  ∀ e ∈ layer, ∀ f ∈ layer, Unknown e.1 → Unknown f.1 → refusal e.1 = refusal f.1 → e = f

namespace Selection

/-- The defaults, with one round so that no selection is empty. -/
def probe : PathConfig := { PathConfig.default with rounds := ["Standard".toList] }

def config (s : Selection) (names : List Str) : PathConfig :=
  match s with
  | rounds => { probe with rounds := names }
  | protocols => { probe with protocols := names }

/-- The layer ahead of a probed one: one name. -/
def ahead (s : Selection) : Json := .object [(s.key, .array [.string "x".toList])]

/-- The layer behind it: all other settings. -/
def behindEntries (s : Selection) : Entries Json :=
  Entries.ofFields (probe.fields.filter fun e => e.1 ≠ s.key)

theorem translate_ahead (s : Selection) : translate s.ahead = .ok s.ahead := by
  cases s <;> rfl

theorem translate_behind (s : Selection) :
    translate (.object s.behindEntries) = .ok (.object s.behindEntries) := by
  cases s <;> rfl

/-- Every setting of a probed configuration but one is set behind the probed layer. -/
theorem fields_config (s : Selection) (names : List Str) :
    (s.config names).fields.filter (fun e => e.1 ≠ s.key) =
      probe.fields.filter fun e => e.1 ≠ s.key := by
  cases s <;> rfl

theorem lookup_config (s : Selection) (names : List Str) :
    List.lookup s.key (s.config names).fields = some (Json.ofList .string names) := by
  cases s <;> rfl

theorem keys_config (s : Selection) (names : List Str) (k : Str) :
    k ∈ (s.config names).fields.map Prod.fst ↔
      k ∈ Entries.keys (pathDefaults false).toEntries := by
  have hkeys : (s.config names).fields.map Prod.fst = PathConfig.default.fields.map Prod.fst := by
    cases s <;> rfl
  rw [hkeys]
  exact (Entries.keys_ofFields _ k).symm

theorem lower_key (s : Selection) : Str.lower s.key = s.key := by cases s <;> decide

theorem key_mem_known (s : Selection) : s.key ∈ known := by
  rw [known, ← s.keys_config []]
  cases s <;> decide

theorem findKey_key (s : Selection) : findKey known s.key = some s.key :=
  (findKey_eq_some (pathDefaults_nodup false)).mpr ⟨s.key_mem_known, rfl⟩

/-- Over `es`, the layers behind a probed one leave only its selection open. -/
theorem merge_behind (s : Selection) {es : Entries Json} (hes : Entries.Sorted es)
    (hknown : ∀ k ∉ known, Entries.get? es k = none) (names : List Str)
    (hvalue : Entries.get? es s.key = some (Json.ofList .string names)) :
    Entries.insertAll (fun e => findKey known e.1) Prod.snd s.behindEntries es =
      (s.config names).toEntries := by
  have hnodup := (s.config names).fields_nodup
  have hself : ∀ k ∈ known, findKey known k = some k := fun k hk =>
    (findKey_eq_some (pathDefaults_nodup false)).mpr ⟨hk, rfl⟩
  have hbehind : ∀ e ∈ s.behindEntries, e ∈ (s.config names).fields := by
    intro e he
    have hfield := Entries.mem_of_mem_ofFields he
    rw [← s.fields_config names] at hfield
    exact List.mem_of_mem_filter hfield
  refine (Entries.sorted_insertAll _ _ _ hes).ext (Entries.sorted_ofFields _) fun k => ?_
  have hconfig : Entries.get? (s.config names).toEntries k =
      List.lookup k (s.config names).fields := Entries.get?_ofFields hnodup k
  rw [hconfig]
  rcases Entries.get?_insertAll (fun e => findKey known e.1) Prod.snd
    s.behindEntries es k with ⟨e, he, hname, hget⟩ | ⟨hnone, hget⟩
  · have hfield := hbehind e he
    rw [hself e.1 ((s.keys_config names e.1).mp (List.mem_map_of_mem hfield))] at hname
    rw [hget, ← Option.some.inj hname]
    exact (Entries.get?_of_mem hnodup hfield).symm
  · rw [hget]
    by_cases hkey : k = s.key
    · rw [hkey, hvalue, lookup_config]
    · by_cases hk : k ∈ known
      · obtain ⟨e, he, rfl⟩ := List.mem_map.mp ((s.keys_config names k).mpr hk)
        have hleft : e ∈ probe.fields.filter fun e => e.1 ≠ s.key := by
          rw [← s.fields_config names]
          exact List.mem_filter.mpr ⟨he, decide_eq_true hkey⟩
        have hin : e.1 ∈ Entries.keys s.behindEntries :=
          (Entries.keys_ofFields _ _).mpr (List.mem_map_of_mem hleft)
        obtain ⟨f, hf, hfe⟩ := List.mem_map.mp hin
        exact absurd (hfe ▸ hself f.1 (hfe ▸ hk)) (hnone f hf)
      · have hout : k ∉ Entries.keys (s.config names).fields := fun hin =>
          hk ((s.keys_config names k).mp hin)
        rw [hknown k hk]
        exact (Option.not_isSome_iff_eq_none.mp fun hsome =>
          hout ((Entries.get?_isSome _ k).mp hsome)).symm

/-- What a layer makes of a selection, with the other settings set behind it. -/
theorem resolve_probe [Refusals] (s : Selection) (layer : Json) (names : List Str)
    {es : Entries Json} (hes : translate layer = .ok (.object es))
    (hvalue : (∀ e ∈ es, Str.lower e.1 ≠ s.key) ∧ names = ["x".toList] ∨
      (∃ e ∈ es, Str.lower e.1 = s.key) ∧
        ∀ e ∈ es, Str.lower e.1 = s.key → e.2 = Json.ofList .string names) :
    ∃ warnings, resolve ([s.ahead] ++ layer :: [Json.object s.behindEntries]) false false =
      .ok (s.config names, warnings) := by
  have htranslate : ([s.ahead] ++ layer :: [Json.object s.behindEntries]).mapM translate =
      .ok [s.ahead, .object es, .object s.behindEntries] :=
    mapM_eq_ok.mpr (.cons s.translate_ahead (.cons hes (.cons s.translate_behind .nil)))
  have hahead : Entries.insertAll (fun e => findKey known e.1) Prod.snd
      [(s.key, Json.array [.string "x".toList])] (pathDefaults false).toEntries =
      Entries.insert s.key (.array [.string "x".toList]) (pathDefaults false).toEntries := by
    rw [Entries.insertAll_cons, s.findKey_key]
    rfl
  have hsorted : Entries.Sorted (Entries.insert s.key (.array [.string "x".toList])
      (pathDefaults false).toEntries) :=
    Entries.sorted_insert (Entries.sorted_ofFields _) _ _
  have hlenient : ∀ es : Entries Json, false = true → ∀ e ∈ es, findKey known e.1 ≠ none :=
    fun _ => nofun
  obtain ⟨w₁, h₁⟩ := mergeLayer_ok (hlenient [(s.key, .array [.string "x".toList])])
    ((pathDefaults false).toEntries, [])
  dsimp only at h₁
  rw [hahead] at h₁
  obtain ⟨w₂, h₂⟩ := mergeLayer_ok (hlenient es)
    (Entries.insert s.key (.array [.string "x".toList]) (pathDefaults false).toEntries, w₁)
  obtain ⟨w₃, h₃⟩ := mergeLayer_ok (hlenient s.behindEntries)
    (Entries.insertAll (fun e => findKey known e.1) Prod.snd es
      (Entries.insert s.key (.array [.string "x".toList]) (pathDefaults false).toEntries), w₂)
  dsimp only at h₂ h₃
  rw [merge_behind s (Entries.sorted_insertAll _ _ _ hsorted) ?_ names ?_] at h₃
  · refine ⟨w₃, except_bind_ok.mpr ⟨_, htranslate, except_bind_ok.mpr
      ⟨((s.config names).toEntries, w₃), ?_, ?_⟩⟩⟩
    · exact except_bind_ok.mpr ⟨_, h₁, except_bind_ok.mpr ⟨_, h₂, except_bind_ok.mpr ⟨_, h₃, rfl⟩⟩⟩
    · exact except_bind_ok.mpr
        ⟨_, decoded_eq_ok.mpr (PathConfig.ofEntries_toEntries (s.config names)), rfl⟩
  · intro k hk
    rcases Entries.get?_insertAll (fun e => findKey known e.1) Prod.snd es
      _ k with ⟨e, -, hname, -⟩ | ⟨-, hget⟩
    · exact absurd (List.mem_of_find?_eq_some hname) hk
    · rw [hget, Entries.get?_insert_of_ne (fun heq : k = s.key => hk (heq ▸ s.key_mem_known))]
      exact Option.not_isSome_iff_eq_none.mp fun hsome => hk ((Entries.get?_isSome _ k).mp hsome)
  · rcases Entries.get?_insertAll (fun e => findKey known e.1) Prod.snd es
      _ s.key with ⟨e, he, hname, hget⟩ | ⟨hnone, hget⟩
    · have hlower := (lower_of_findKey hname).symm.trans s.lower_key
      rcases hvalue with hvalue | hvalue
      · exact absurd hlower (hvalue.1 e he)
      · rw [hget, hvalue.2 e he hlower]
    · rw [hget, Entries.get?_insert_self]
      rcases hvalue with ⟨-, rfl⟩ | ⟨⟨e, he, hlower⟩, -⟩
      · rfl
      · refine absurd ?_ (hnone e he)
        exact (findKey_congr known (hlower.trans s.lower_key.symm)).trans s.findKey_key

end Selection

/-! ## Spelling one key anew -/

/-- One entry of a layer under another name. -/
def respell (layer : Entries Json) (e : Str × Json) (name : Str) : Entries Json :=
  Entries.insert name e.2 (layer.filter fun f => f.1 ≠ e.1)

section Respell

variable {layer : Entries Json} {e : Str × Json} {name : Str}

/-- No other key of the layer is `name`. -/
theorem respell_perm (h : ∀ f ∈ layer, f.1 ≠ e.1 → f.1 ≠ name) :
    (respell layer e name).Perm ((name, e.2) :: layer.filter fun f => f.1 ≠ e.1) := by
  refine Entries.insert_perm (fun hkey => ?_) e.2
  obtain ⟨f, hf, hfname⟩ := List.mem_map.mp hkey
  obtain ⟨hf, hne⟩ := List.mem_filter.mp hf
  exact h f hf (of_decide_eq_true hne) hfname

theorem mem_respell (h : ∀ f ∈ layer, f.1 ≠ e.1 → f.1 ≠ name) {f : Str × Json} :
    f ∈ respell layer e name ↔ f = (name, e.2) ∨ f ∈ layer ∧ f.1 ≠ e.1 := by
  rw [(respell_perm h).mem_iff, List.mem_cons, List.mem_filter, decide_eq_true_eq]

theorem respelt_respell (hs : Entries.Sorted layer) (he : e ∈ layer)
    (hname : Str.lower name = Str.lower e.1) (h : ∀ f ∈ layer, f.1 ≠ e.1 → f.1 ≠ name) :
    Respelt layer (respell layer e name) where
  sorted := Entries.sorted_insert (hs.filter _) _ _
  perm := by
    have hsplit : layer.Perm (e :: layer.filter fun f => f.1 ≠ e.1) := by
      refine (List.perm_ext_iff_of_nodup hs.nodup_entries ?_).mpr fun f => ?_
      · refine List.nodup_cons.mpr ⟨fun hmem => ?_, hs.nodup_entries.filter _⟩
        exact of_decide_eq_true (List.mem_filter.mp hmem).2 rfl
      · rw [List.mem_cons, List.mem_filter, decide_eq_true_eq]
        constructor
        · intro hf
          by_cases hkey : f.1 = e.1
          · have hvalue := Entries.get?_of_mem hs.nodup (k := f.1) (v := f.2) hf
            rw [hkey, Entries.get?_of_mem hs.nodup (k := e.1) (v := e.2) he] at hvalue
            exact .inl (Prod.ext hkey (Option.some.inj hvalue).symm)
          · exact .inr ⟨hf, hkey⟩
        · rintro (rfl | ⟨hf, -⟩)
          · exact he
          · exact hf
    have hsame : caseless (name, e.2) = caseless e := Prod.ext hname rfl
    have hnew := (respell_perm h).map caseless
    rw [List.map_cons, hsame, ← List.map_cons] at hnew
    exact hnew.trans (hsplit.map caseless).symm

end Respell

theorem Same.ok_right {α β : Type} {x : Except Error (α × β)} {a : α} {b : β}
    (h : Same x (.ok (a, b))) : x.map Prod.fst = .ok a := by
  rcases h with h | ⟨k, l, -, -, h⟩
  · exact h
  · cases h

/-- What one spelling resolves to, another does. -/
theorem CaseBlind.resolve_ok [Refusals] {layer layer₁ layer₂ : Entries Json} (h : CaseBlind layer)
    (h₁ : Respelt layer layer₁) (h₂ : Respelt layer layer₂) {before after : List Json}
    {strict trace : Bool} {c : PathConfig} {w : List Str}
    (hr : resolve (before ++ .object layer₂ :: after) strict trace = .ok (c, w)) :
    ∃ w', resolve (before ++ .object layer₁ :: after) strict trace = .ok (c, w') := by
  have hsame₁ := h layer₁ h₁ before after strict trace
  have hsame₂ := h layer₂ h₂ before after strict trace
  rw [hr] at hsame₂
  have hlayer := hsame₂.ok_right
  rcases hsame₁ with heq | ⟨k, l, -, herr, -⟩
  · rw [hlayer] at heq
    obtain ⟨⟨c', w'⟩, hr', rfl⟩ := except_map_ok.mp heq.symm
    exact ⟨w', hr'⟩
  · rw [herr] at hlayer
    cases hlayer

/-- Two spellings that a probe tells apart. -/
theorem CaseBlind.config_eq [Refusals] {layer layer₁ layer₂ : Entries Json} (h : CaseBlind layer)
    (h₁ : Respelt layer layer₁) (h₂ : Respelt layer layer₂) (s : Selection) {c₁ c₂ : PathConfig}
    {w₁ w₂ : List Str}
    (hr₁ : resolve ([s.ahead] ++ Json.object layer₁ :: [Json.object s.behindEntries]) false false =
      .ok (c₁, w₁))
    (hr₂ : resolve ([s.ahead] ++ Json.object layer₂ :: [Json.object s.behindEntries]) false false =
      .ok (c₂, w₂)) : c₁ = c₂ := by
  obtain ⟨w, hr⟩ := h.resolve_ok h₁ h₂ hr₂
  exact (Prod.mk.inj (Except.ok.inj (hr₁.symm.trans hr))).1

theorem translate_of_resolve [Refusals] {layer : Json} {before after : List Json}
    {strict trace : Bool} {r : PathConfig × List Str}
    (h : resolve (before ++ layer :: after) strict trace = .ok r) :
    ∃ t, translate layer = .ok t := by
  obtain ⟨layers, hlayers, -⟩ := except_bind_ok.mp h
  obtain ⟨t, -, ht⟩ := exists_of_forall₂ (mapM_eq_ok.mp hlayers) layer
    (List.mem_append_right _ List.mem_cons_self)
  exact ⟨t, ht⟩

/-! ## Keys that are compared as they stand -/

namespace Selection

/-- The selection in capitals. -/
def upper : Selection → Str
  | rounds => "ROUNDS"
  | protocols => "PROTOCOLS"

theorem lower_upper (s : Selection) : Str.lower s.upper = s.key := by cases s <;> decide

theorem lower_of_pathName (s : Selection) {k : Str} (h : Str.lower (pathName k) = s.key) :
    Str.lower k = s.key := by
  rcases pathName_cases k with hk | hk | hk | hk
  · rwa [hk] at h
  all_goals
    rw [hk] at h
    cases s <;> exact absurd h (by decide)

theorem pathName_of_lower {s : Selection} {k : Str} (h : Str.lower k = s.key) : pathName k = k := by
  apply pathName_eq_self <;> rw [h] <;> cases s <;> decide

/-- The key in small letters leaves an empty list out, the one in capitals takes it over. -/
theorem expand_key (s : Selection) : expand (s.key, .array []) = [] := by cases s <;> rfl

theorem expand_upper (s : Selection) : expand (s.upper, .array []) = [(s.upper, .array [])] := by
  cases s <;> rfl

end Selection

theorem eq_of_isEmptyArray {v : Json} (h : isEmptyArray v = true) : v = .array [] := by
  unfold isEmptyArray at h
  split at h
  · rfl
  · cases h

/-- The protocol that a target chooses. -/
def familyName (host : Str) : Str := if isIpv6 host then "IPv6" else "IPv4"

theorem mem_targetFields (host : Str) :
    ("protocols".toList, Json.array [.string (familyName host)]) ∈ targetFields host := by
  unfold targetFields familyName
  split
  · exact List.mem_cons_of_mem _ (List.mem_cons_of_mem _ List.mem_cons_self)
  · exact List.mem_cons_of_mem _ (List.mem_cons_of_mem _ List.mem_cons_self)

theorem targetFields_protocols {host : Str} {x : Str × Json} (hx : x ∈ targetFields host)
    (h : Str.lower x.1 = "protocols".toList) : x.2 = Json.ofList .string [familyName host] := by
  have hhosts : Str.lower "hosts_ipv4".toList ≠ "protocols".toList := by decide
  have hhosts' : Str.lower "hosts_ipv6".toList ≠ "protocols".toList := by decide
  unfold targetFields at hx
  unfold familyName
  cases hfamily : isIpv6 host <;> rw [hfamily] at hx
  · rcases List.mem_cons.mp hx with rfl | hx
    · exact absurd h hhosts
    rcases List.mem_cons.mp hx with rfl | hx
    · exact absurd h hhosts'
    rw [List.mem_singleton.mp hx]
    rfl
  · rcases List.mem_cons.mp hx with rfl | hx
    · exact absurd h hhosts
    rcases List.mem_cons.mp hx with rfl | hx
    · exact absurd h hhosts'
    rw [List.mem_singleton.mp hx]
    rfl

/-- One key at most is one key. -/
theorem eq_of_countP_le {layer : Entries Json} {name : Str}
    (hcount : layer.countP (fun f => Str.lower f.1 = name) ≤ 1) {e f : Str × Json} (hf : f ∈ layer)
    (hfname : Str.lower f.1 = name) (he : e ∈ layer) (hename : Str.lower e.1 = name) : f = e := by
  rw [List.countP_eq_length_filter] at hcount
  have hmem : ∀ g ∈ layer, Str.lower g.1 = name →
      g ∈ layer.filter fun f => decide (Str.lower f.1 = name) := fun g hg hname =>
    List.mem_filter.mpr ⟨hg, decide_eq_true hname⟩
  have hf' := hmem f hf hfname
  have he' := hmem e he hename
  match hfilter : layer.filter (fun f => decide (Str.lower f.1 = name)) with
  | [] =>
    rw [hfilter] at hf'
    cases hf'
  | [g] =>
    rw [hfilter] at hf' he'
    rw [List.mem_singleton.mp hf', List.mem_singleton.mp he']
  | _ :: _ :: _ =>
    rw [hfilter] at hcount
    exact absurd hcount (by simp)

section
variable [Refusals] {layer : Entries Json}

/-- An empty selection: in small letters it keeps what was there, in capitals it does not. -/
theorem CaseBlind.selection (h : CaseBlind layer) (hs : Entries.Sorted layer)
    (htarget : ∀ e ∈ layer, Str.lower e.1 ≠ "target".toList) (s : Selection) :
    ∀ e ∈ layer, Str.lower e.1 = s.key → isEmptyArray e.2 = true →
      1 < layer.countP fun f => Str.lower f.1 = s.key := by
  intro e he hkey hempty
  by_contra hcount
  have hvalue := eq_of_isEmptyArray hempty
  -- no other entry gives the selection
  have hother : ∀ f ∈ layer, Str.lower (pathName f.1) = s.key → f = e := fun f hf hname =>
    eq_of_countP_le (Nat.le_of_not_lt hcount) hf (s.lower_of_pathName hname) he hkey
  have hfree : ∀ name, Str.lower name = s.key → ∀ f ∈ layer, f.1 ≠ e.1 → f.1 ≠ name := by
    rintro name hname f hf hne rfl
    refine hne (congrArg Prod.fst (hother f hf ?_))
    rwa [Selection.pathName_of_lower hname]
  have hnotarget : ∀ name, Str.lower name = s.key →
      ∀ f ∈ respell layer e name, f.1 ≠ "target".toList := by
    intro name hname f hf heq
    rcases (mem_respell (hfree name hname)).mp hf with rfl | ⟨hf, -⟩
    · rw [show name = "target".toList from heq] at hname
      cases s <;> exact absurd hname (by decide)
    · exact htarget f hf (by rw [heq]; decide)
  have htranslate : ∀ name, Str.lower name = s.key →
      translate (.object (respell layer e name)) = .ok (.object (expanded (respell layer e name))) :=
    fun name hname => translate_ok fun f hf heq => absurd heq (hnotarget name hname f hf)
  have hmem : ∀ name, Str.lower name = s.key → ∀ x ∈ expanded (respell layer e name),
      Str.lower x.1 = s.key → x ∈ expand (name, .array []) := by
    intro name hname x hx hlower
    obtain ⟨f, hf, hxf⟩ := mem_expanded hx
    rcases (mem_respell (hfree name hname)).mp hf with rfl | ⟨hf, hne⟩
    · rwa [hvalue] at hxf
    · have hxname := name_of_mem_expand hxf (hnotarget name hname f
        ((mem_respell (hfree name hname)).mpr (.inr ⟨hf, hne⟩)))
      rw [hxname] at hlower
      exact absurd (congrArg Prod.fst (hother f hf hlower)) hne
  obtain ⟨w₁, h₁⟩ := s.resolve_probe _ ["x".toList] (htranslate s.key s.lower_key)
    (.inl ⟨fun x hx hlower => List.not_mem_nil (s.expand_key ▸ hmem s.key s.lower_key x hx hlower),
      rfl⟩)
  have hupper : (s.upper, e.2) ∈ respell layer e s.upper :=
    (mem_respell (hfree s.upper s.lower_upper)).mpr (.inl rfl)
  obtain ⟨v, hv⟩ := exists_mem_expanded hupper (x := (s.upper, .array [])) (by
    rw [hvalue, s.expand_upper]
    exact List.mem_cons_self)
  obtain ⟨w₂, h₂⟩ := s.resolve_probe _ [] (htranslate s.upper s.lower_upper)
    (.inr ⟨⟨_, hv, s.lower_upper⟩, fun x hx hlower => by
      have hmem := hmem s.upper s.lower_upper x hx hlower
      rw [s.expand_upper] at hmem
      rw [List.mem_singleton.mp hmem]
      rfl⟩)
  have hconfig := h.config_eq (respelt_respell hs he (s.lower_key.trans hkey.symm)
      (hfree s.key s.lower_key))
    (respelt_respell hs he (s.lower_upper.trans hkey.symm) (hfree s.upper s.lower_upper)) s h₁ h₂
  cases s with
  | rounds => exact absurd (congrArg PathConfig.rounds hconfig) nofun
  | protocols => exact absurd (congrArg PathConfig.protocols hconfig) nofun

/-- A target: in small letters it chooses the family, in capitals it is unknown. -/
theorem CaseBlind.target (h : CaseBlind layer) (hs : Entries.Sorted layer)
    (halone : TargetAlone layer) : ∀ e ∈ layer, Str.lower e.1 ≠ "target".toList := by
  intro e he htarget
  have hothertarget : ∀ f ∈ layer, Str.lower f.1 = "target".toList → f = e := fun f hf hlower =>
    halone e he htarget f hf (.inl hlower)
  have hfree : ∀ name, Str.lower name = "target".toList → ∀ f ∈ layer, f.1 ≠ e.1 → f.1 ≠ name := by
    rintro name hname f hf hne rfl
    exact hne (congrArg Prod.fst (hothertarget f hf hname))
  have hrest : ∀ f ∈ layer, f.1 ≠ e.1 → f.1 ≠ "target".toList ∧
      ∀ x ∈ expand f, Str.lower x.1 ≠ "protocols".toList := by
    intro f hf hne
    have hlower : Str.lower f.1 ≠ "target".toList := fun hl =>
      hne (congrArg Prod.fst (hothertarget f hf hl))
    have hliteral : f.1 ≠ "target".toList := fun heq => hlower (by rw [heq]; decide)
    refine ⟨hliteral, fun x hx hprotocols => hne (congrArg Prod.fst ?_)⟩
    rw [name_of_mem_expand hx hliteral] at hprotocols
    exact halone e he htarget f hf (.inr (Selection.protocols.lower_of_pathName hprotocols))
  have hcapitals : Str.lower "TARGET".toList = "target".toList := by decide
  have hsmall : Str.lower "target".toList = "target".toList := by decide
  have hmem : ∀ name, Str.lower name = "target".toList →
      ∀ x ∈ expanded (respell layer e name), Str.lower x.1 = "protocols".toList →
        x ∈ expand (name, e.2) := by
    intro name hname x hx hprotocols
    obtain ⟨f, hf, hxf⟩ := mem_expanded hx
    rcases (mem_respell (hfree name hname)).mp hf with rfl | ⟨hf, hne⟩
    · exact hxf
    · exact absurd hprotocols ((hrest f hf hne).2 x hxf)
  have hunknown : expand ("TARGET".toList, e.2) = [("TARGET".toList, e.2)] := rfl
  obtain ⟨w₂, h₂⟩ := Selection.protocols.resolve_probe
    (.object (respell layer e "TARGET".toList)) ["x".toList]
    (translate_ok fun f hf heq => by
      rcases (mem_respell (hfree _ hcapitals)).mp hf with rfl | ⟨hf, hne⟩
      · exact absurd heq (show "TARGET".toList ≠ "target".toList by decide)
      · exact absurd heq (hrest f hf hne).1)
    (.inl ⟨fun x hx hlower => by
      have hmem := hmem _ hcapitals x hx hlower
      rw [hunknown] at hmem
      rw [List.mem_singleton.mp hmem, hcapitals] at hlower
      exact absurd hlower (by decide), rfl⟩)
  have hspelt₂ := respelt_respell hs he (hcapitals.trans htarget.symm) (hfree _ hcapitals)
  have hspelt₁ := respelt_respell hs he (hsmall.trans htarget.symm) (hfree _ hsmall)
  have hin : ("target".toList, e.2) ∈ respell layer e "target".toList :=
    (mem_respell (hfree _ hsmall)).mpr (.inl rfl)
  cases hhost : e.2.asStr with
  | none =>
    obtain ⟨w, hr⟩ := h.resolve_ok hspelt₁ hspelt₂ h₂
    obtain ⟨t, ht⟩ := translate_of_resolve hr
    exact translate_refused hin rfl hhost t ht
  | some host =>
    have hexpand := expand_target hhost
    obtain ⟨v, hv⟩ := exists_mem_expanded hin (hexpand ▸ mem_targetFields host)
    obtain ⟨w₁, h₁⟩ := Selection.protocols.resolve_probe
      (.object (respell layer e "target".toList)) [familyName host]
      (translate_ok fun f hf heq => by
        rcases (mem_respell (hfree _ hsmall)).mp hf with rfl | ⟨hf, hne⟩
        · rw [hhost]
          exact nofun
        · exact absurd heq (hrest f hf hne).1)
      (.inr ⟨⟨_, hv, Selection.protocols.lower_key⟩, fun x hx hlower => by
        have hmem := hmem _ hsmall x hx hlower
        rw [hexpand] at hmem
        exact targetFields_protocols hmem hlower⟩)
    have hconfig := h.config_eq hspelt₁ hspelt₂ .protocols h₁ h₂
    have hnames : [familyName host] = ["x".toList] := congrArg PathConfig.protocols hconfig
    unfold familyName at hnames
    split at hnames
    · exact absurd hnames (by decide)
    · exact absurd hnames (by decide)

end

/-! ## Unknown keys -/

/-- Among the defaults alone, `--strict` names the first unknown key. -/
theorem resolve_unknown [Refusals] {layer : Entries Json}
    (htarget : ∀ e ∈ layer, e.1 ≠ "target".toList) {k : Str}
    (hk : Entries.IsFirst Unknown layer k) :
    resolve ([] ++ .object layer :: []) true false = .error (unknownKey k) := by
  have htranslate := @translate_ok layer fun e he heq => absurd heq (htarget e he)
  have hfirst : Entries.IsFirst (findKey known · = none) (expanded layer) k :=
    hk.congr fun l => (unknown_expanded htarget l).symm
  unfold resolve mergeLayers
  rw [List.nil_append, List.mapM_cons, htranslate, known_eq]
  have hrefused := mergeLayer_unknown (Entries.sorted_ofFields _) hfirst
    ((pathDefaults false).toEntries, [])
  show (mergeLayer known true _ (.object (expanded layer)) >>= _) >>= _ = _
  rw [show mergeLayer known true _ (.object (expanded layer)) = _ from hrefused]
  rfl

theorem CaseBlind.unknownFirst [Refusals] {layer : Entries Json} (h : CaseBlind layer)
    (hcaseless : Caseless layer) : UnknownFirst layer := by
  intro layer' hspelt k l hk hl
  have hsame := h layer' hspelt [] [] true false
  rw [resolve_unknown (fun _ => hcaseless.ne_target) hk,
    resolve_unknown (fun _ => (hcaseless.respelt hspelt).ne_target) hl] at hsame
  rcases hsame with heq | ⟨k', l', hrefusal, hk', hl'⟩
  · exact congrArg (fun e : Error => Str.lower e.message) (Except.error.inj heq)
  · rw [refusal, Except.error.inj hk', refusal, Except.error.inj hl']
    exact hrefusal

/-- No other unknown key comes ahead of the first one. -/
theorem refusal_eq_of_isFirst {layer : Entries Json} {k m : Str}
    (hk : Entries.IsFirst Unknown layer k) (hm : m ∈ Entries.keys layer) (hunknown : Unknown m)
    (h : refusal k ≠ refusal m → Entries.before m k = true) : refusal k = refusal m := by
  by_contra hne
  rcases hk.first m hm hunknown with rfl | hbefore
  · exact hne rfl
  · rw [Entries.before_asymm (h hne)] at hbefore
    cases hbefore

/-- The keys of a layer under other names. -/
def rename (name : Str → Str) (layer : Entries Json) : Entries Json :=
  Entries.ofFields (layer.map fun e => (name e.1, e.2))

theorem respelt_rename {layer : Entries Json} {name : Str → Str}
    (hname : ∀ k, Str.lower (name k) = Str.lower k)
    (hnodup : (layer.map fun e => name e.1).Nodup) : Respelt layer (rename name layer) where
  sorted := Entries.sorted_ofFields _
  perm := by
    have hperm : (rename name layer).Perm (layer.map fun e => (name e.1, e.2)) :=
      Entries.ofFields_perm (by rwa [List.map_map])
    refine (hperm.map caseless).trans ?_
    rw [List.map_map]
    refine List.Perm.of_eq (List.map_congr_left fun e _ => ?_)
    exact Prod.ext (hname e.1) rfl

theorem mem_keys_rename (name : Str → Str) (layer : Entries Json) (k : Str) :
    k ∈ Entries.keys (rename name layer) ↔ ∃ e ∈ layer, name e.1 = k := by
  unfold rename
  rw [Entries.keys_ofFields, List.map_map, List.mem_map]
  rfl

/-- One unknown key in small letters, the others in capitals. -/
def apart (k l : Str) : Str :=
  if l = k then Str.lower l else if Unknown l then Str.upper l else l

theorem lower_apart (k l : Str) : Str.lower (apart k l) = Str.lower l := by
  unfold apart
  split
  · exact Str.lower_lower l
  split
  · exact Str.lower_upper l
  · rfl

/-- Where no unknown key is given twice: in every spelling the same one is first when, in small
letters, it comes before all others in capitals. -/
theorem unknownFirst_iff {layer : Entries Json} (hs : Entries.Sorted layer)
    (honce : UnknownOnce layer) :
    UnknownFirst layer ↔ ∀ e ∈ layer, Unknown e.1 → ∃ f ∈ layer, Unknown f.1 ∧
      ∀ g ∈ layer, Unknown g.1 → refusal g.1 ≠ refusal f.1 →
        Entries.before (Str.lower f.1) (Str.upper g.1) = true := by
  constructor
  · intro h e he hunknown
    obtain ⟨k, hk⟩ := hs.exists_isFirst (p := Unknown) ⟨e.1, List.mem_map_of_mem he, hunknown⟩
    obtain ⟨f, hf, rfl⟩ := List.mem_map.mp hk.mem
    refine ⟨f, hf, hk.holds, fun g hg hgunknown hne => ?_⟩
    have hnodup : (layer.map fun e => apart f.1 e.1).Nodup := by
      refine List.Nodup.map_on ?_ hs.nodup_entries
      intro a ha b hb hab
      have hlower : Str.lower a.1 = Str.lower b.1 := by
        rw [← lower_apart f.1 a.1, hab, lower_apart]
      by_cases haunknown : Unknown a.1
      · exact honce a ha b hb haunknown ((unknown_congr hlower).mp haunknown) (refusal_congr hlower)
      have hbunknown := mt (unknown_congr hlower).mpr haunknown
      have hstays : ∀ c : Str × Json, ¬ Unknown c.1 → apart f.1 c.1 = c.1 := by
        intro c hc
        have hcf : c.1 ≠ f.1 := fun heq => hc (heq ▸ hk.holds)
        rw [apart, if_neg hcf, if_neg hc]
      rw [hstays a haunknown, hstays b hbunknown] at hab
      exact hs.eq_of_key ha hb hab
    have hspelt := respelt_rename (lower_apart f.1) hnodup
    have hself : apart f.1 f.1 = Str.lower f.1 := if_pos rfl
    have hgf : g.1 ≠ f.1 := fun heq => hne (congrArg refusal heq)
    have hother : apart f.1 g.1 = Str.upper g.1 := by rw [apart, if_neg hgf, if_pos hgunknown]
    obtain ⟨l, hl⟩ := hspelt.sorted.exists_isFirst (p := Unknown)
      ⟨apart f.1 f.1, (mem_keys_rename _ _ _).mpr ⟨f, hf, rfl⟩,
        (unknown_congr (lower_apart f.1 f.1)).mpr hk.holds⟩
    have hrefusal := h _ hspelt f.1 l hk hl
    obtain ⟨c, hc, rfl⟩ := (mem_keys_rename _ _ _).mp hl.mem
    have hcunknown := (unknown_congr (lower_apart f.1 c.1)).mp hl.holds
    have hcf : f = c := honce f hf c hc hk.holds hcunknown
      (hrefusal.trans (refusal_congr (lower_apart f.1 c.1)))
    rw [← hcf, hself] at hl
    rcases hl.first (Str.upper g.1) ((mem_keys_rename _ _ _).mpr ⟨g, hg, hother⟩)
      ((unknown_congr (Str.lower_upper g.1)).mpr hgunknown) with heq | hbefore
    · refine absurd (refusal_congr ?_) hne
      rw [← Str.lower_upper, heq, Str.lower_lower]
    · exact hbefore
  · intro h layer' hspelt k l hk hl
    obtain ⟨e, he, rfl⟩ := List.mem_map.mp hk.mem
    obtain ⟨f, hf, hfunknown, hfirst⟩ := h e he hk.holds
    obtain ⟨f', hf', hfkey, -⟩ := hspelt.exists_right hf
    have hek : refusal e.1 = refusal f.1 :=
      refusal_eq_of_isFirst hk (List.mem_map_of_mem hf) hfunknown fun hne =>
        Entries.before_of_lower_upper (hfirst e he hk.holds hne) rfl rfl
    have hl' : refusal l = refusal f'.1 := by
      refine refusal_eq_of_isFirst hl (List.mem_map_of_mem hf') ((unknown_congr hfkey).mpr hfunknown) fun hne => ?_
      obtain ⟨g', hg', rfl⟩ := List.mem_map.mp hl.mem
      obtain ⟨g, hg, hgkey, -⟩ := hspelt.exists_left hg'
      have hgne : refusal g.1 ≠ refusal f.1 := by
        rwa [refusal_congr hgkey, ← refusal_congr hfkey]
      exact Entries.before_of_lower_upper (hfirst g hg ((unknown_congr hgkey).mpr hl.holds) hgne)
        hfkey hgkey.symm
    rw [hek, hl', refusal_congr hfkey]

/-- A layer of one target. -/
def targetLayer (key : Str) : Entries Json := [(key, .string "192.0.2.1".toList)]

/-- A layer of one empty selection. -/
def emptyLayer (key : Str) : Entries Json := [(key, .array [])]

/-- One text for every refusal. -/
abbrev flatRefusals : Refusals := ⟨fun _ _ => "invalid value"⟩

theorem targetAlone_singleton (e : Str × Json) : TargetAlone [e] := by
  intro a ha _ b hb _
  rw [List.mem_singleton.mp ha, List.mem_singleton.mp hb]

theorem agrees_of_eq {layer : Entries Json} {v : Json} (h : ∀ e ∈ layer, e.2 = v) : Agrees layer :=
  fun e he f hf _ _ _ _ _ => (h e he).trans (h f hf).symm

end NetworkLantern.Runtime
