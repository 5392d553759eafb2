import NetworkLantern.Tuning.RegFile

/-!
# Registry exports, there and back

An export gives every expected name of a list a value.  When its strings are free of
NUL, CR and LF it is read back as it was; with any other string it is refused
(`registryExport_roundTrip`).
-/

namespace NetworkLantern.Tuning

open NetworkLantern

/-! ## Strings -/

/-- A string without the characters that the reader refuses. -/
def PlainText (s : Str) : Prop := '\x00' ∉ s ∧ '\r' ∉ s ∧ '\n' ∉ s

def RegistryValue.Plain : RegistryValue → Prop
  | .string s => PlainText s
  | _ => True

theorem plainText_cons {c : Char} {s : Str} :
    PlainText (c :: s) ↔ ¬ (c = '\x00' ∨ c = '\r' ∨ c = '\n') ∧ PlainText s := by
  unfold PlainText
  simp only [List.mem_cons, not_or, @eq_comm _ c]
  tauto

theorem unescapeReg_plainText {s : Str} (h : PlainText s) : unescapeReg (escapeReg s) = .ok s := by
  induction s with
  | nil => rfl
  | cons c s ih =>
    obtain ⟨hc, hs⟩ := plainText_cons.mp h
    by_cases h1 : c = '\\'
    · subst h1
      rw [escapeReg_backslash, unescapeReg, ih hs]
      rfl
    · by_cases h2 : c = '"'
      · subst h2
        rw [escapeReg_quote, unescapeReg, ih hs]
        rfl
      · rw [escapeReg_plain h1 h2, unescapeReg_plain h1, if_neg hc, ih hs]
        rfl

theorem plainText_of_unescapeReg {s t : Str} (h : unescapeReg (escapeReg s) = .ok t) :
    PlainText s := by
  induction s generalizing t with
  | nil => exact ⟨List.not_mem_nil, List.not_mem_nil, List.not_mem_nil⟩
  | cons c s ih =>
    rw [plainText_cons]
    by_cases h1 : c = '\\'
    · subst h1
      rw [escapeReg_backslash, unescapeReg] at h
      obtain ⟨u, hu, -⟩ := except_mapped_ok h
      exact ⟨by decide, ih hu⟩
    · by_cases h2 : c = '"'
      · subst h2
        rw [escapeReg_quote, unescapeReg] at h
        obtain ⟨u, hu, -⟩ := except_mapped_ok h
        exact ⟨by decide, ih hu⟩
      · rw [escapeReg_plain h1 h2, unescapeReg_plain h1] at h
        split at h
        · cases h
        · next hc =>
          obtain ⟨u, hu, -⟩ := except_mapped_ok h
          exact ⟨hc, ih hu⟩

/-- A written value is read exactly when it is plain, and then as itself. -/
theorem parseRegValue_renderValue_iff {stringType : Bool} {value value' : RegistryValue}
    (hfits : value.fits stringType) :
    parseRegValue stringType (renderValue value) = .ok value' ↔ value.Plain ∧ value' = value := by
  constructor
  · intro h
    refine ⟨?_, parseRegValue_renderValue hfits h⟩
    cases value with
    | missing => trivial
    | dword value => trivial
    | string s =>
      have hst : stringType = true := hfits
      subst hst
      rw [parseRegValue_string] at h
      obtain ⟨t, ht, -⟩ := except_mapped_ok h
      exact plainText_of_unescapeReg ht
  · rintro ⟨hplain, rfl⟩
    cases value' with
    | missing => rfl
    | dword value =>
      have hst : stringType = false := hfits
      subst hst
      exact parseRegValue_dword value
    | string s =>
      have hst : stringType = true := hfits
      subst hst
      rw [parseRegValue_string, unescapeReg_plainText hplain]
      rfl

theorem newline_not_mem_renderValue {value : RegistryValue} (h : value.Plain) :
    '\n' ∉ renderValue value := by
  intro hm
  obtain ⟨s, rfl, hs⟩ := newline_mem_renderValue hm
  exact h.2.2 hs

/-! ## Lines -/

/-- The state after a value of a key. -/
def RegState.put (st : RegState) (key : Str) (entry : Str × RegistryValue) : RegState :=
  { st with result := st.result.insert key (((st.result[key]?).getD ∅).insert entry.1 entry.2) }

/-- The state after a line of a key. -/
def RegState.start (st : RegState) (key : Str) : RegState :=
  { st with result := st.result.insert key ∅, current := some key }

/-- A key has no value of this name yet. -/
def RegState.Lacks (st : RegState) (key name : Str) : Prop :=
  ((st.result[key]?).getD ∅).contains name = false

theorem RegState.lacks_put {st : RegState} {key name : Str} {entry : Str × RegistryValue}
    (h : st.Lacks key name) (hne : name ≠ entry.1) : (st.put key entry).Lacks key name := by
  have hname : compare entry.1 name ≠ .eq := fun he =>
    hne (Std.LawfulEqOrd.compare_eq_iff_eq.mp he).symm
  unfold Lacks put
  rw [Std.TreeMap.getElem?_insert_self, Option.getD_some, Std.TreeMap.contains_insert,
    beq_eq_false_iff_ne.mpr hname]
  exact h

theorem RegState.lacks_start (st : RegState) (key name : Str) : (st.start key).Lacks key name := by
  unfold Lacks start
  rw [Std.TreeMap.getElem?_insert_self]
  rfl

theorem RegState.contains_put (st : RegState) (key : Str) (entry : Str × RegistryValue) (k : Str) :
    (st.put key entry).result.contains k = true ↔ k = key ∨ st.result.contains k = true := by
  unfold put
  rw [Std.TreeMap.contains_insert, Bool.or_eq_true, beq_iff_eq, Std.LawfulEqOrd.compare_eq_iff_eq,
    eq_comm]

theorem RegState.contains_start (st : RegState) (key k : Str) :
    (st.start key).result.contains k = true ↔ k = key ∨ st.result.contains k = true := by
  unfold start
  rw [Std.TreeMap.contains_insert, Bool.or_eq_true, beq_iff_eq, Std.LawfulEqOrd.compare_eq_iff_eq,
    eq_comm]

/-- One written value: it is read when it is plain, and refused otherwise. -/
theorem regLines_entry_iff {expected : RegistryGroups} {st final : RegState} {key rest : Str}
    {entry : Str × RegistryValue} (hheader : st.header = true) (hcurrent : st.current = some key)
    (hplain : PlainName entry.1) (hexpected : Expected expected key entry)
    (hnew : st.Lacks key entry.1) :
    regLines expected st (Str.lines (entryLine entry ++ '\r' :: '\n' :: rest)) = .ok final ↔
      entry.2.Plain ∧ regLines expected (st.put key entry) rest.lines = .ok final := by
  obtain ⟨name, value⟩ := entry
  obtain ⟨stringType, htype, hfits⟩ := hexpected
  by_cases hnewline : '\n' ∈ renderValue value
  · constructor
    · intro h
      exact absurd h (regLines_newline hheader hcurrent hplain htype hfits hnewline)
    · rintro ⟨hvalue, -⟩
      exact absurd hnewline (newline_not_mem_renderValue hvalue)
  · have hnew : ((st.result[key]?).getD ∅).contains name = false := hnew
    rw [regLines_entryLine hheader hcurrent hplain htype hnewline, except_bind_ok]
    constructor
    · rintro ⟨value', hvalue, h⟩
      obtain ⟨hvalue, rfl⟩ := (parseRegValue_renderValue_iff hfits).mp hvalue
      exact ⟨hvalue, (refuse_bind_ok.mp h).2⟩
    · rintro ⟨hvalue, h⟩
      exact ⟨value, (parseRegValue_renderValue_iff hfits).mpr ⟨hvalue, rfl⟩,
        refuse_bind_ok.mpr ⟨hnew, h⟩⟩

theorem regLines_entries_iff {expected : RegistryGroups} {st final : RegState} {key rest : Str}
    {entries : List (Str × RegistryValue)} (hheader : st.header = true)
    (hcurrent : st.current = some key) (hplain : ∀ entry ∈ entries, PlainName entry.1)
    (hexpected : ∀ entry ∈ entries, Expected expected key entry)
    (hnodup : (entries.map Prod.fst).Nodup) (hnew : ∀ entry ∈ entries, st.Lacks key entry.1) :
    regLines expected st (Str.lines
        ((entries.flatMap fun entry => entryLine entry ++ "\r\n".toList) ++ rest)) = .ok final ↔
      (∀ entry ∈ entries, entry.2.Plain) ∧
        regLines expected (entries.foldl (RegState.put · key) st) rest.lines = .ok final := by
  induction entries generalizing st with
  | nil => simp
  | cons entry entries ih =>
    rw [List.forall_mem_cons] at hplain hexpected hnew
    rw [List.map_cons, List.nodup_cons] at hnodup
    have hlater : ∀ other ∈ entries, (st.put key entry).Lacks key other.1 := by
      intro other ho
      refine RegState.lacks_put (hnew.2 other ho) fun he => hnodup.1 ?_
      rw [← he]
      exact List.mem_map_of_mem ho
    have hheader' : (st.put key entry).header = true := hheader
    have hcurrent' : (st.put key entry).current = some key := hcurrent
    rw [renderEntries_cons, regLines_entry_iff hheader hcurrent hplain.1 hexpected.1 hnew.1,
      ih hheader' hcurrent' hplain.2 hexpected.2 hnodup.2 hlater, List.forall_mem_cons, and_assoc,
      List.foldl_cons]

/-- The state after the lines of a key and its values. -/
def RegState.group (st : RegState) (group : Str × List (Str × RegistryValue)) : RegState :=
  group.2.foldl (RegState.put · (hklm ++ group.1)) (st.start (hklm ++ group.1))

theorem RegState.foldl_put {st : RegState} {key : Str} (h : st.result.contains key = true)
    (entries : List (Str × RegistryValue)) :
    (entries.foldl (RegState.put · key) st).header = st.header ∧
      ∀ k, (entries.foldl (RegState.put · key) st).result.contains k = true ↔
        st.result.contains k = true := by
  induction entries generalizing st with
  | nil => exact ⟨rfl, fun _ => Iff.rfl⟩
  | cons entry entries ih =>
    have hput : ∀ k, (st.put key entry).result.contains k = true ↔ st.result.contains k = true := by
      intro k
      rw [st.contains_put]
      exact ⟨fun hk => hk.elim (fun he => he ▸ h) id, .inr⟩
    obtain ⟨hheader, hkeys⟩ := ih ((hput key).mpr h)
    exact ⟨hheader, fun k => (hkeys k).trans (hput k)⟩

theorem RegState.header_group (st : RegState) (group : Str × List (Str × RegistryValue)) :
    (st.group group).header = st.header :=
  (foldl_put ((st.contains_start _ _).mpr (.inl rfl)) group.2).1

theorem RegState.contains_group (st : RegState) (group : Str × List (Str × RegistryValue)) (k : Str) :
    (st.group group).result.contains k = true ↔
      k = hklm ++ group.1 ∨ st.result.contains k = true :=
  ((foldl_put ((st.contains_start _ _).mpr (.inl rfl)) group.2).2 k).trans (st.contains_start _ k)

theorem RegState.contains_groups (st : RegState) (groups : List (Str × List (Str × RegistryValue)))
    (k : Str) :
    (groups.foldl RegState.group st).result.contains k = true ↔
      k ∈ groups.map (hklm ++ ·.1) ∨ st.result.contains k = true := by
  induction groups generalizing st with
  | nil => simp
  | cons group groups ih =>
    rw [List.foldl_cons, ih, contains_group, List.map_cons, List.mem_cons, or_assoc, or_left_comm]

theorem regLines_groups_iff {expected : RegistryGroups} {st final : RegState}
    {groups : List (Str × List (Str × RegistryValue))} (hheader : st.header = true)
    (hadmits : Admits expected groups)
    (hknown : ∀ group ∈ groups, (expected.lookup (hklm ++ group.1)).isSome = true)
    (hkeys : (groups.map Prod.fst).Nodup)
    (hnames : ∀ group ∈ groups, (group.2.map Prod.fst).Nodup)
    (hnew : ∀ group ∈ groups, st.result.contains (hklm ++ group.1) = false) :
    regLines expected st (Str.lines (groups.flatMap renderGroup)) = .ok final ↔
      (∀ group ∈ groups, ∀ entry ∈ group.2, entry.2.Plain) ∧
        final = groups.foldl RegState.group st := by
  induction groups generalizing st with
  | nil =>
    constructor
    · intro h
      cases h
      exact ⟨nofun, rfl⟩
    · rintro ⟨-, rfl⟩
      rfl
  | cons group groups ih =>
    obtain ⟨key, entries⟩ := group
    obtain ⟨hnl, hplain, htypes⟩ := hadmits
    rw [List.forall_mem_cons] at hnl hplain htypes hknown hnames hnew
    rw [List.map_cons, List.nodup_cons] at hkeys
    have hstart : regLine expected st (sectionLine key) = .ok (st.start (hklm ++ key)) := by
      rw [regLine_sectionLine hheader, Option.isNone_eq_false_iff.mpr hknown.1, hnew.1]
      rfl
    have hlater : ∀ other ∈ groups,
        (st.group (key, entries)).result.contains (hklm ++ other.1) = false := by
      intro other ho
      rw [Bool.eq_false_iff, Ne, st.contains_group, hnew.2 other ho, not_or]
      refine ⟨fun he => hkeys.1 ?_, Bool.false_ne_true⟩
      exact List.mem_map.mpr ⟨other, ho, List.append_cancel_left he⟩
    have hheader' : (st.start (hklm ++ key)).header = true := hheader
    have hcurrent' : (st.start (hklm ++ key)).current = some (hklm ++ key) := rfl
    have hlacks : ∀ entry ∈ entries, (st.start (hklm ++ key)).Lacks (hklm ++ key) entry.1 :=
      fun entry _ => st.lacks_start (hklm ++ key) entry.1
    have hheader'' : (st.group (key, entries)).header = true :=
      (st.header_group _).trans hheader
    rw [regLines_group hnl.1, hstart, except_ok_bind, regLines_entries_iff hheader' hcurrent' hplain.1 htypes.1 hnames.1 hlacks,
      List.forall_mem_cons, and_assoc, List.foldl_cons]
    rw [← ih hheader'' ⟨hnl.2, hplain.2, htypes.2⟩ hknown.2 hkeys.2 hnames.2 hlater]
    rfl

/-! ## Whole exports -/

/-- A value for each name of a list of expected names, in the order of the list. -/
def assigned (expected : RegistryGroups) (values : Str → Str → RegistryValue) :
    List (Str × List (Str × RegistryValue)) :=
  expected.map fun group =>
    (group.1.drop hklm.length, group.2.map fun name => (name.1, values group.1 name.1))

/-- The values are of the types that the list expects. -/
def WellTyped (expected : RegistryGroups) (values : Str → Str → RegistryValue) : Prop :=
  ∀ group ∈ expected, ∀ name ∈ group.2, (values group.1 name.1).fits name.2

def AllPlain (expected : RegistryGroups) (values : Str → Str → RegistryValue) : Prop :=
  ∀ group ∈ expected, ∀ name ∈ group.2, (values group.1 name.1).Plain

/-- A backup with these values, and nothing else. -/
structure RegistryBackup.Assigns (backup : RegistryBackup) (expected : RegistryGroups)
    (values : Str → Str → RegistryValue) : Prop where
  keys : ∀ key, backup.contains key = true ↔ key ∈ expected.map Prod.fst
  values : ∀ key name value, backup.Has key name value ↔
    ∃ group ∈ expected, group.1 = key ∧ name ∈ group.2.map Prod.fst ∧ value = values key name

/-- A list of expected names that an export can be written for. -/
structure Exportable (expected : RegistryGroups) : Prop where
  nodup : (expected.map Prod.fst).Nodup
  nodup_names : ∀ group ∈ expected, (group.2.map Prod.fst).Nodup
  root : ∀ group ∈ expected, hklm <+: group.1
  key : ∀ group ∈ expected, '\n' ∉ group.1
  name : ∀ group ∈ expected, ∀ name ∈ group.2, PlainName name.1

theorem lookup_of_mem {β : Type} {l : List (Str × β)} (hnodup : (l.map Prod.fst).Nodup) {k : Str}
    {v : β} (h : (k, v) ∈ l) : l.lookup k = some v := by
  obtain ⟨before, after, rfl⟩ := List.append_of_mem h
  refine List.lookup_eq_some_iff.mpr ⟨before, after, rfl, fun p hp => ?_⟩
  rw [List.map_append, List.map_cons] at hnodup
  have hne := (List.nodup_append.mp hnodup).2.2 p.1 (List.mem_map_of_mem hp) k List.mem_cons_self
  exact bne_iff_ne.mpr (Ne.symm hne)

theorem StrMap.size_eq {α : Type} {m : StrMap α} {ks : List Str} (hks : ks.Nodup)
    (h : ∀ k, m.contains k = true ↔ k ∈ ks) : m.size = ks.length := by
  have hperm : m.keys.Perm ks := by
    refine (List.perm_ext_iff_of_nodup Std.TreeMap.nodup_keys hks).mpr fun k => ?_
    rw [Std.TreeMap.mem_keys, ← h k]
    exact Iff.rfl
  rw [← Std.TreeMap.length_keys, hperm.length_eq]

section

variable {expected : RegistryGroups} {values : Str → Str → RegistryValue}

theorem Exportable.relative (h : Exportable expected) {group : Str × List (Str × Bool)}
    (hg : group ∈ expected) : hklm ++ group.1.drop hklm.length = group.1 :=
  (List.prefix_iff_eq_append.mp (h.root group hg))

theorem Exportable.admits (h : Exportable expected) (hfits : WellTyped expected values) :
    Admits expected (assigned expected values) := by
  constructor
  · intro group hg
    obtain ⟨own, ho, rfl⟩ := List.mem_map.mp hg
    exact fun hm => h.key own ho (List.mem_of_mem_drop hm)
  · intro group hg entry he
    obtain ⟨own, ho, rfl⟩ := List.mem_map.mp hg
    obtain ⟨name, hn, rfl⟩ := List.mem_map.mp he
    exact h.name own ho name hn
  · intro group hg entry he
    obtain ⟨own, ho, rfl⟩ := List.mem_map.mp hg
    obtain ⟨name, hn, rfl⟩ := List.mem_map.mp he
    refine ⟨name.2, ?_, hfits own ho name hn⟩
    show ((expected.lookup (hklm ++ own.1.drop hklm.length)).bind _) = _
    rw [h.relative ho, lookup_of_mem h.nodup ho, Option.bind_some,
      lookup_of_mem (h.nodup_names own ho) hn]

theorem Exportable.keys_assigned (h : Exportable expected) :
    (assigned expected values).map (hklm ++ ·.1) = expected.map Prod.fst := by
  unfold assigned
  rw [List.map_map]
  exact List.map_congr_left fun group hg => h.relative hg

theorem names_assigned (group : Str × List (Str × Bool)) :
    (group.2.map fun name => (name.1, values group.1 name.1)).map Prod.fst =
      group.2.map Prod.fst := by
  rw [List.map_map]
  rfl

theorem Exportable.groupsHave_iff (h : Exportable expected) (key name : Str)
    (value : RegistryValue) :
    GroupsHave (assigned expected values) key name value ↔
      ∃ group ∈ expected, group.1 = key ∧ name ∈ group.2.map Prod.fst ∧ value = values key name := by
  unfold GroupsHave assigned
  constructor
  · rintro ⟨group, hg, rfl, hv⟩
    obtain ⟨own, ho, rfl⟩ := List.mem_map.mp hg
    obtain ⟨n, hn, he⟩ := List.mem_map.mp hv
    cases he
    have hkey := h.relative ho
    exact ⟨own, ho, hkey.symm, List.mem_map_of_mem hn, by rw [hkey]⟩
  · rintro ⟨group, hg, rfl, hn, rfl⟩
    obtain ⟨n, hmem, rfl⟩ := List.mem_map.mp hn
    exact ⟨_, List.mem_map_of_mem hg, (h.relative hg).symm, List.mem_map.mpr ⟨n, hmem, rfl⟩⟩

theorem allPlain_iff : AllPlain expected values ↔
    ∀ group ∈ assigned expected values, ∀ entry ∈ group.2, entry.2.Plain := by
  constructor
  · intro h group hg entry he
    obtain ⟨own, ho, rfl⟩ := List.mem_map.mp hg
    obtain ⟨name, hn, rfl⟩ := List.mem_map.mp he
    exact h own ho name hn
  · intro h group hg name hn
    exact h _ (List.mem_map_of_mem hg) (name.1, values group.1 name.1) (List.mem_map.mpr ⟨name, hn, rfl⟩)

/-- A backup with a value for every expected name is complete. -/
theorem completeSection_of_assigns (h : Exportable expected) {backup : RegistryBackup}
    (hb : backup.Assigns expected values) : expected.all (completeSection backup) = true := by
  rw [List.all_eq_true]
  intro group hg
  have hkey := (hb.keys group.1).mpr (List.mem_map_of_mem hg)
  obtain ⟨entries, he⟩ := Option.isSome_iff_exists.mp
    (Std.TreeMap.contains_eq_isSome_getElem?.symm.trans hkey)
  have hnames : ∀ n, entries.contains n = true ↔ n ∈ group.2.map Prod.fst := by
    intro n
    rw [Std.TreeMap.contains_eq_isSome_getElem?, Option.isSome_iff_exists]
    constructor
    · rintro ⟨v, hv⟩
      obtain ⟨other, ho, hsame, hn, -⟩ := (hb.values group.1 n v).mp ⟨entries, he, hv⟩
      have : other.2 = group.2 := by
        have h1 := lookup_of_mem h.nodup hg
        have h2 := lookup_of_mem h.nodup ho
        rw [hsame, h1] at h2
        exact (Option.some.inj h2).symm
      rwa [this] at hn
    · intro hn
      obtain ⟨entries', he', hv⟩ := (hb.values group.1 n _).mpr ⟨group, hg, rfl, hn, rfl⟩
      rw [he] at he'
      cases he'
      exact ⟨_, hv⟩
  unfold completeSection
  rw [he]
  simp only [Bool.and_eq_true, beq_iff_eq, List.all_eq_true]
  refine ⟨?_, fun name hn => (hnames name.1).mpr (List.mem_map_of_mem hn)⟩
  rw [StrMap.size_eq (h.nodup_names group hg) hnames, List.length_map]

/-- An export of expected values is read back exactly when its strings are plain. -/
theorem parseRegistrySections_assigned (h : Exportable expected) (hfits : WellTyped expected values) :
    (AllPlain expected values → ∃ backup,
      parseRegistrySections (renderRegistryExport (assigned expected values)).bytes expected =
        .ok backup ∧ backup.Assigns expected values) ∧
    (¬ AllPlain expected values → ∃ e,
      parseRegistrySections (renderRegistryExport (assigned expected values)).bytes expected =
        .error e) := by
  have hadmits := h.admits hfits
  have hkeys : ((assigned expected values).map Prod.fst).Nodup := by
    have hn := h.nodup
    rw [← @Exportable.keys_assigned expected values h] at hn
    rw [show (assigned expected values).map (hklm ++ ·.1) =
      ((assigned expected values).map Prod.fst).map (hklm ++ ·) from (List.map_map ..).symm] at hn
    exact List.Nodup.of_map _ hn
  have hknown : ∀ group ∈ assigned expected values,
      (expected.lookup (hklm ++ group.1)).isSome = true := by
    intro group hg
    obtain ⟨own, ho, rfl⟩ := List.mem_map.mp hg
    show (expected.lookup (hklm ++ own.1.drop hklm.length)).isSome = true
    rw [h.relative ho, lookup_of_mem h.nodup ho]
    rfl
  have hnames : ∀ group ∈ assigned expected values, (group.2.map Prod.fst).Nodup := by
    intro group hg
    obtain ⟨own, ho, rfl⟩ := List.mem_map.mp hg
    rw [names_assigned]
    exact h.nodup_names own ho
  have hread : ∀ final, regLines expected ⟨∅, none, true⟩
      (Str.lines ((assigned expected values).flatMap renderGroup)) = .ok final ↔
        AllPlain expected values ∧
          final = (assigned expected values).foldl RegState.group ⟨∅, none, true⟩ := fun final =>
    (regLines_groups_iff rfl hadmits hknown hkeys hnames fun _ _ => rfl).trans
      (and_congr_left' allPlain_iff.symm)
  rw [parseRegistrySections_regLines]
  constructor
  · intro hplain
    have hok := (hread _).mpr ⟨hplain, rfl⟩
    obtain ⟨hheader, hhas⟩ := regLines_groups rfl hadmits hok
    have hassigns : RegistryBackup.Assigns
        ((assigned expected values).foldl RegState.group ⟨∅, none, true⟩).result expected values := by
      constructor
      · intro key
        rw [RegState.contains_groups, h.keys_assigned]
        simp
      · intro key name value
        rw [hhas, h.groupsHave_iff]
        simp [RegistryBackup.Has]
    have hsize := StrMap.size_eq h.nodup hassigns.keys
    refine ⟨_, ?_, hassigns⟩
    rw [hok, except_ok_bind, hheader, hsize, List.length_map, completeSection_of_assigns h hassigns]
    simp [refuse_false]
  · intro hnot
    cases hr : regLines expected ⟨∅, none, true⟩
        (Str.lines ((assigned expected values).flatMap renderGroup)) with
    | ok final => exact absurd ((hread final).mp hr).1 hnot
    | error e => exact ⟨e, rfl⟩

end

/-! ## The artifacts of a backup -/

/-- The registry artifacts. -/
inductive RegistryArtifact
  | systemProfile | afd | tcpipQos

namespace RegistryArtifact

def expected : RegistryArtifact → RegistryGroups
  | systemProfile => systemProfileSections
  | afd => afdSections
  | tcpipQos => tcpipQosSections

def parse : RegistryArtifact → Bytes → Except TuningError RegistryBackup
  | systemProfile, bytes => parseRegistryBackup bytes true
  | afd, bytes => parseRegistryBackup bytes false
  | tcpipQos, bytes => parseTcpipQosBackup bytes

theorem parse_eq (artifact : RegistryArtifact) (bytes : Bytes) :
    artifact.parse bytes = parseRegistrySections bytes artifact.expected := by
  cases artifact <;> rfl

theorem exportable (artifact : RegistryArtifact) : Exportable artifact.expected := by
  cases artifact
  · exact ⟨by decide +kernel, by decide +kernel, by decide +kernel, by decide +kernel,
      by unfold PlainName; decide +kernel⟩
  · exact ⟨by decide +kernel, by decide +kernel, by decide +kernel, by decide +kernel,
      by unfold PlainName; decide +kernel⟩
  · exact ⟨by decide +kernel, by decide +kernel, by decide +kernel, by decide +kernel,
      by unfold PlainName; decide +kernel⟩

end RegistryArtifact

/-- An export with a value of the right type for each expected name reads back as it was
when its strings are plain; otherwise it is refused. -/
theorem registryExport_roundTrip (artifact : RegistryArtifact) (values : Str → Str → RegistryValue)
    (hfits : WellTyped artifact.expected values) :
    (AllPlain artifact.expected values → ∃ backup,
      artifact.parse (renderRegistryExport (assigned artifact.expected values)).bytes = .ok backup ∧
        backup.Assigns artifact.expected values) ∧
    (¬ AllPlain artifact.expected values → ∃ e,
      artifact.parse (renderRegistryExport (assigned artifact.expected values)).bytes = .error e) := by
  rw [artifact.parse_eq]
  exact parseRegistrySections_assigned artifact.exportable hfits

/-- A string with a quote and a backslash in it. -/
theorem registryExport_roundTrip_escapes :
    ∃ backup, RegistryArtifact.tcpipQos.parse (renderRegistryExport
        (assigned tcpipQosSections fun _ _ => .string "a\\b\"c=é".toList)).bytes = .ok backup ∧
      backup.Assigns tcpipQosSections fun _ _ => .string "a\\b\"c=é".toList := by
  have hfits : WellTyped tcpipQosSections fun _ _ => .string "a\\b\"c=é".toList := by
    intro group hg name hn
    obtain rfl := List.mem_singleton.mp hg
    obtain rfl := List.mem_singleton.mp hn
    rfl
  refine (registryExport_roundTrip .tcpipQos _ hfits).1 fun _ _ _ _ => ?_
  exact ⟨by decide, by decide, by decide⟩

end NetworkLantern.Tuning
