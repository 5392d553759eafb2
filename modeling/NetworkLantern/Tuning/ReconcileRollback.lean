import NetworkLantern.Tuning.ReconcileRuns

/-!
# The rollback of a reconciliation

A failed `reconcileQos` deletes every managed policy it finds and creates the
current list again.  The clean-up ignores the errors of its calls, so the current
list is restored exactly when all of them pass (`reconcileQos_error_iff`).
-/

namespace NetworkLantern.Tuning

open NetworkLantern Act

/-! ## The clean-up -/

/-- The managed policies of a store. -/
def managedPolicies (restoreNames : List Str) (store : QosStore) :
    Except TuningError (List QosPolicySpec) :=
  inventory restoreNames (store.rows.filter (isManaged restoreNames))

/-- The clean-up of a world finds nothing to delete, or its query and its deletions pass. -/
def CleanupPasses (restoreNames : List Str) (w : World) : Prop :=
  w.machine.qos.rows.filter (isManaged restoreNames) = [] ∨
    w.machine.qos.rows.length ≤ Session.maxRows ∧
      w.Passes ((w.machine.qos.rows.filter (isManaged restoreNames)).length + 1)

theorem keys_delete (store : QosStore) (key : Str) :
    (store.delete key).keys = store.keys.filter (· ≠ key) := by
  unfold QosStore.keys QosStore.delete
  simp only
  rw [List.filterMap_filter, List.filter_filterMap]
  refine List.filterMap_congr fun f _ => ?_
  cases policyKey f with
  | none => simp
  | some k => by_cases hk : k = key <;> simp [hk, Option.filter]

theorem policyKey_mem_keys {store : QosStore} {f : Fields} {key : Str} (hf : f ∈ store.rows)
    (hk : policyKey f = some key) : key ∈ store.keys := List.mem_filterMap.mpr ⟨f, hf, hk⟩

/-- No policy of a world is new. -/
def Shrinks (w w' : World) : Prop := ∀ f ∈ w'.machine.qos.rows, f ∈ w.machine.qos.rows

theorem delete_shrinks (row : Row) : Keeps Shrinks (Session.delete row) := by
  intro w
  rcases h : Session.delete row w with ⟨r, w'⟩
  cases r with
  | error e =>
    rcases delete_error h with rfl | rfl
    · exact fun f hf => hf
    · exact fun f hf => hf
  | ok u =>
    obtain ⟨-, name, -, -, -, rfl⟩ := delete_ok.mp h
    exact fun f hf => List.mem_of_mem_filter hf

theorem cleanupLoop_shrinks (rows : List Row) :
    Keeps Shrinks (Act.forEach rows fun row => discard (Session.delete row)) :=
  Keeps.forEach (fun _ _ hf => hf) (fun _ _ _ hab hbc f hf => hab f (hbc f hf)) rows
    fun row _ => discard_keeps (delete_shrinks row)

/-- A loop that deletes other names keeps a name. -/
theorem cleanupLoop_keeps {rows : List Row} {key : Str} (h : ∀ row ∈ rows, rowKey row ≠ some key) :
    Keeps (fun w w' => key ∈ w.machine.qos.keys → key ∈ w'.machine.qos.keys)
      (Act.forEach rows fun row => discard (Session.delete row)) := by
  refine Keeps.forEach (fun _ hk => hk) (fun _ _ _ hab hbc hk => hbc (hab hk)) rows fun row hr => ?_
  refine discard_keeps fun w => ?_
  rcases hd : Session.delete row w with ⟨r, w'⟩
  cases r with
  | error e =>
    rcases delete_error hd with rfl | rfl
    · exact fun hk => hk
    · exact fun hk => hk
  | ok u =>
    obtain ⟨-, name, hname, -, -, rfl⟩ := delete_ok.mp hd
    intro hk
    show key ∈ (w.machine.qos.delete name.lower).keys
    rw [keys_delete, List.mem_filter]
    refine ⟨hk, ?_⟩
    rw [decide_eq_true_eq]
    rintro rfl
    refine h row hr ?_
    unfold rowKey
    rw [hname]
    rfl

/-- The clean-up loop removes all its rows exactly when all its calls pass. -/
theorem cleanupLoop_iff {rows : List Row} {w w' : World} (hnodup : (rows.map rowKey).Nodup)
    (hrows : ∀ row ∈ rows, (row.string "__PATH").isSome ∧
      ∃ key, rowKey row = some key ∧ key ∈ w.machine.qos.keys)
    (h : Act.forEach rows (fun row => discard (Session.delete row)) w = (.ok (), w')) :
    (∀ row ∈ rows, ∀ key, rowKey row = some key → key ∉ w'.machine.qos.keys) ↔
      w.Passes rows.length := by
  induction rows generalizing w with
  | nil => simp [World.Passes]
  | cons row rows ih =>
    obtain ⟨_, w1, h1, h⟩ := bind_ok.mp (forEach_cons row rows _ ▸ h)
    obtain ⟨-, rfl⟩ := discard_ok.mp h1
    obtain ⟨hpath, key, hkey, hmem⟩ := hrows row List.mem_cons_self
    obtain ⟨hnew, hnodup⟩ := List.nodup_cons.mp hnodup
    have hother : ∀ r ∈ rows, rowKey r ≠ some key := by
      intro r hr he
      exact hnew (hkey ▸ he ▸ List.mem_map_of_mem hr)
    obtain ⟨name, hname⟩ : ∃ name, row.string "Name" = some name := by
      unfold rowKey at hkey
      cases hn : row.string "Name" with
      | none => rw [hn] at hkey; cases hkey
      | some name => exact ⟨name, rfl⟩
    have hlower : name.lower = key := by
      unfold rowKey at hkey
      rw [hname] at hkey
      exact Option.some.inj hkey
    rw [List.length_cons, World.passes_succ]
    cases hf : w.nextFailure with
    | some f =>
      -- the row's own deletion fails, and its name stays
      obtain ⟨path, hp⟩ := Option.isSome_iff_exists.mp hpath
      have hfail : (Session.delete row w).2 = w.advance := by
        rw [delete_eq hp hname]
        unfold change external
        rw [hf]
      rw [hfail] at h
      have hstay : key ∈ w'.machine.qos.keys := by
        have := cleanupLoop_keeps hother w.advance
        rw [h] at this
        exact this hmem
      constructor
      · intro hall
        exact absurd hstay (hall row List.mem_cons_self key hkey)
      · rintro ⟨hnone, -⟩
        cases hnone
    | none =>
      have hdelete : Session.delete row w = (.ok (), (w.advance.setQos
          (w.machine.qos.delete name.lower)).record (.policyDeleted name)) :=
        delete_ok.mpr ⟨hpath, name, hname, hf, hlower ▸ hmem, rfl⟩
      rw [hdelete] at h
      have hgone : key ∉ w'.machine.qos.keys := by
        have hshrink := cleanupLoop_shrinks rows ((w.advance.setQos
          (w.machine.qos.delete name.lower)).record (.policyDeleted name))
        rw [h] at hshrink
        intro hk
        obtain ⟨f, hfm, hfk⟩ := List.mem_filterMap.mp hk
        have := policyKey_mem_keys (hshrink f hfm) hfk
        change key ∈ (w.machine.qos.delete name.lower).keys at this
        rw [keys_delete, hlower] at this
        simp at this
      have hrest : ∀ r ∈ rows, (r.string "__PATH").isSome ∧ ∃ k, rowKey r = some k ∧
          k ∈ ((w.advance.setQos (w.machine.qos.delete name.lower)).record
            (.policyDeleted name)).machine.qos.keys := by
        intro r hr
        obtain ⟨hp, k, hk, hkm⟩ := hrows r (List.mem_cons_of_mem row hr)
        refine ⟨hp, k, hk, ?_⟩
        show k ∈ (w.machine.qos.delete name.lower).keys
        rw [keys_delete, hlower]
        refine List.mem_filter.mpr ⟨hkm, ?_⟩
        rw [decide_eq_true_eq]
        rintro rfl
        exact hother r hr hk
      have ih := ih hnodup hrest h
      have hpass : ((w.advance.setQos (w.machine.qos.delete name.lower)).record
          (.policyDeleted name)).Passes rows.length ↔ w.advance.Passes rows.length := Iff.rfl
      rw [← hpass, ← ih]
      constructor
      · exact fun hall => ⟨rfl, fun r hr => hall r (List.mem_cons_of_mem row hr)⟩
      · rintro ⟨-, hall⟩ r hr
        rcases List.mem_cons.mp hr with rfl | hr
        · intro k hk
          rw [hkey] at hk
          cases hk
          exact hgone
        · exact hall r hr

theorem policyKey_of_managed {restoreNames : List Str} {f : Fields}
    (h : isManaged restoreNames f = true) :
    ∃ name, f "Name" = some (.string name) ∧ policyKey f = some name.lower ∧
      managedQosName name restoreNames = true := by
  unfold isManaged at h
  split at h
  · next name hn => exact ⟨name, hn, by unfold policyKey; rw [hn], h⟩
  · cases h

/-- The rows of the clean-up query that are deleted. -/
theorem cleanupRows_fields (restoreNames : List Str) (instances : List Fields) :
    (((Session.rows instances ["__PATH", "Name"] fun _ => true).filter
      (cleanupRow restoreNames)).map Row.fields) =
      (instances.filter (isManaged restoreNames)).map (Fields.select ["__PATH", "Name"]) := by
  have hmanaged : ∀ f, cleanupRow restoreNames ⟨0, f.select ["__PATH", "Name"]⟩ =
      isManaged restoreNames f := by
    intro f
    unfold cleanupRow isManaged Row.string
    rw [show (Row.mk 0 (f.select ["__PATH", "Name"])).fields "Name" = f "Name" from
      Fields.select_of_mem (show "Name" ∈ ["__PATH", "Name"] by decide) f]
    cases f "Name" with
    | none => rfl
    | some v => cases v <;> rfl
  have hrow : ∀ row : Row, cleanupRow restoreNames row = cleanupRow restoreNames ⟨0, row.fields⟩ :=
    fun _ => rfl
  have hfilter : ∀ rows : List Row, (rows.filter (cleanupRow restoreNames)).map Row.fields =
      (rows.map Row.fields).filter fun f => cleanupRow restoreNames ⟨0, f⟩ := by
    intro rows
    rw [List.filter_map]
    rfl
  rw [hfilter, rows_all, List.filter_map]
  exact congrArg _ (List.filter_congr fun f _ => hmanaged f)

theorem map_policyKey {l : List Fields} (h : ∀ f ∈ l, ∃ key, policyKey f = some key) :
    l.map policyKey = (l.filterMap policyKey).map some := by
  induction l with
  | nil => rfl
  | cons f l ih =>
    obtain ⟨key, hk⟩ := h f List.mem_cons_self
    rw [List.map_cons, List.filterMap_cons, hk, ih fun g hg => h g (List.mem_cons_of_mem f hg)]
    rfl

/-- No two managed policies have one key. -/
theorem managed_keys_nodup (restoreNames : List Str) (store : QosStore) :
    ((store.rows.filter (isManaged restoreNames)).map policyKey).Nodup := by
  rw [map_policyKey fun f hf => ?_]
  · exact (store.distinct.sublist (List.filter_sublist.filterMap _)).map (Option.some_injective _)
  · obtain ⟨name, -, hk, -⟩ := policyKey_of_managed (List.mem_filter.mp hf).2
    exact ⟨_, hk⟩

theorem rowKey_of_fields {row : Row} {f : Fields} {fields : List String} (h : "Name" ∈ fields)
    (he : row.fields = f.select fields) : rowKey row = policyKey f := by
  rw [← rowKey_select h row.object f, ← he]

theorem map_rowKey {rows : List Row} {instances : List Fields} {fields : List String}
    (h : "Name" ∈ fields) (he : rows.map Row.fields = instances.map (Fields.select fields)) :
    rows.map rowKey = instances.map policyKey := by
  induction rows generalizing instances with
  | nil =>
    cases instances with
    | nil => rfl
    | cons f l => cases he
  | cons row rows ih =>
    cases instances with
    | nil => cases he
    | cons f l =>
      simp only [List.map_cons, List.cons.injEq] at he ⊢
      exact ⟨rowKey_of_fields h he.1, ih he.2⟩

theorem cleanupLoop_total (rows : List Row) (w : World) :
    (Act.forEach rows (fun row => discard (Session.delete row)) w).1 = .ok () := by
  induction rows generalizing w with
  | nil => rfl
  | cons row rows ih =>
    rw [forEach_cons, bind_of_ok (discard_ok.mpr ⟨rfl, rfl⟩)]
    exact ih _

/-- The clean-up leaves no managed policy exactly when it passes. -/
theorem cleanupPolicies_iff {restoreNames : List Str} {w w' : World}
    (hpaths : ∀ f ∈ w.machine.qos.rows, isManaged restoreNames f = true →
      ∃ path, f "__PATH" = some (.string path))
    (h : cleanupPolicies restoreNames w = (.ok (), w')) :
    w'.machine.qos.rows.filter (isManaged restoreNames) = [] ↔ CleanupPasses restoreNames w := by
  obtain ⟨-, rfl⟩ := discard_ok.mp h
  unfold CleanupPasses
  rw [World.passes_succ]
  rcases hquery : Session.query .netQosPolicy ["__PATH", "Name"] w with ⟨r, w1⟩
  cases r with
  | error e =>
    rw [bind_of_error hquery, query_error hquery]
    constructor
    · exact Or.inl
    · rintro (hnil | ⟨hlen, hf, -⟩)
      · exact hnil
      · rw [@query_passes .netQosPolicy _ w hf hlen] at hquery
        cases hquery
  | ok rows =>
    obtain ⟨hf, rfl, hrows⟩ := query_ok hquery
    have hlimit : w.machine.qos.rows.length ≤ Session.maxRows := by
      unfold Session.query Session.queryWhere at hquery
      obtain ⟨-, -, hread⟩ := inspect_ok.mp hquery
      have hlen := congrArg List.length (rows_all w.machine.qos.rows ["__PATH", "Name"])
      simp only [List.length_map] at hlen
      simp only at hread
      split at hread
      · cases hread
      · next hle =>
        change ¬ Session.maxRows < (Session.rows w.machine.qos.rows _ _).length at hle
        omega
    rw [bind_of_ok hquery]
    rcases hloop : Act.forEach (rows.filter (cleanupRow restoreNames))
      (fun row => discard (Session.delete row)) w.advance with ⟨r, w2⟩
    have hr : r = .ok () := by
      have := cleanupLoop_total (rows.filter (cleanupRow restoreNames)) w.advance
      rw [hloop] at this
      exact this
    subst hr
    have hfields : (rows.filter (cleanupRow restoreNames)).map Row.fields =
        (w.machine.qos.rows.filter (isManaged restoreNames)).map (Fields.select ["__PATH", "Name"]) := by
      rw [hrows]
      exact cleanupRows_fields restoreNames w.machine.qos.rows
    have hkeys := map_rowKey (by decide) hfields
    have hsource : ∀ row ∈ rows.filter (cleanupRow restoreNames), ∃ f ∈ w.machine.qos.rows,
        isManaged restoreNames f = true ∧ row.fields = f.select ["__PATH", "Name"] := by
      intro row hm
      have hmem := List.mem_map_of_mem hm (f := Row.fields)
      rw [hfields] at hmem
      obtain ⟨f, hfm, he⟩ := List.mem_map.mp hmem
      obtain ⟨h1, h2⟩ := List.mem_filter.mp hfm
      exact ⟨f, h1, h2, he.symm⟩
    have hiff := cleanupLoop_iff (hkeys ▸ managed_keys_nodup restoreNames w.machine.qos)
      (fun row hm => by
        obtain ⟨f, hfm, hman, he⟩ := hsource row hm
        obtain ⟨name, -, hk, -⟩ := policyKey_of_managed hman
        obtain ⟨path, hpath⟩ := hpaths f hfm hman
        refine ⟨?_, name.lower, by rw [rowKey_of_fields (by decide) he, hk],
          policyKey_mem_keys hfm hk⟩
        have hfield : row.fields "__PATH" = some (.string path) := by
          rw [he, Fields.select_of_mem (by decide), hpath]
        rw [Row.string_of hfield]
        rfl) hloop
    have hlength : (rows.filter (cleanupRow restoreNames)).length =
        (w.machine.qos.rows.filter (isManaged restoreNames)).length := by
      have := congrArg List.length hfields
      simpa using this
    have hshrink := cleanupLoop_shrinks (rows.filter (cleanupRow restoreNames)) w.advance
    rw [hloop] at hshrink
    have hgone : w2.machine.qos.rows.filter (isManaged restoreNames) = [] ↔
        ∀ row ∈ rows.filter (cleanupRow restoreNames), ∀ key, rowKey row = some key →
          key ∉ w2.machine.qos.keys := by
      rw [List.filter_eq_nil_iff]
      constructor
      · intro hnone row hm key hk hmem
        obtain ⟨f, hfm, hfk⟩ := List.mem_filterMap.mp hmem
        exact hnone f hfm (isManaged_of_key (List.mem_filter.mp hm).2 (hfk.trans hk.symm))
      · intro hall f hfm hman
        obtain ⟨name, -, hk, -⟩ := policyKey_of_managed hman
        have hin : policyKey f ∈ (rows.filter (cleanupRow restoreNames)).map rowKey := by
          rw [hkeys]
          exact List.mem_map_of_mem (List.mem_filter.mpr ⟨hshrink f hfm, hman⟩)
        obtain ⟨row, hm, he⟩ := List.mem_map.mp hin
        exact hall row hm name.lower (he.trans hk) (policyKey_mem_keys hfm hk)
    show w2.machine.qos.rows.filter (isManaged restoreNames) = [] ↔ _
    rw [hgone, hiff, hlength]
    constructor
    · exact fun hp => Or.inr ⟨hlimit, hf, hp⟩
    · rintro (hnil | ⟨-, -, hp⟩)
      · rw [hnil]
        simp [World.Passes]
      · exact hp

/-! ## The rollback -/

/-- The error of a rollback that failed itself. -/
def RollbackFailed (e : TuningError) : Prop := ∃ message, e = .native rollbackOperation (-1) message

/-- A reconciliation of `w` fails in its mutation, and its clean-up starts in `w'`. -/
def CleanupStarts (desired : List QosPolicySpec) (restoreNames : List Str) (w w' : World) : Prop :=
  ∃ rows w1 managed error, Session.query .netQosPolicy qosFields w = (.ok rows, w1) ∧
    parseRows restoreNames rows = .ok managed ∧
    mutatePolicies (managed.map Prod.fst) desired w1 = (.error error, w')

theorem CleanupStarts.unique {desired : List QosPolicySpec} {restoreNames : List Str} {w a b : World}
    (ha : CleanupStarts desired restoreNames w a) (hb : CleanupStarts desired restoreNames w b) :
    a = b := by
  obtain ⟨rows, w1, managed, error, hq, hp, hm⟩ := ha
  obtain ⟨rows', w1', managed', error', hq', hp', hm'⟩ := hb
  rw [hq] at hq'
  cases hq'
  rw [hp] at hp'
  cases hp'
  rw [hm] at hm'
  cases hm'
  rfl

/-- What a failed reconciliation went through. -/
theorem reconcileQos_error {current desired : List QosPolicySpec} {restoreNames : List Str}
    {w w' : World} {e : TuningError}
    (h : reconcileQos current desired restoreNames w = (.error e, w')) :
    w' = w.advance ∧ (∀ w2, ¬ CleanupStarts desired restoreNames w w2) ∨
      ∃ w2 w3, CleanupStarts desired restoreNames w w2 ∧
        cleanupPolicies restoreNames w2 = (.ok (), w3) ∧
        (Act.forEach current createQos w3 = (.ok (), w') ∨ RollbackFailed e) := by
  rcases bind_error.mp h with hquery | ⟨rows, w1, hquery, h⟩
  · refine Or.inl ⟨query_error hquery, ?_⟩
    rintro w2 ⟨rows, w1, managed, error, hq, -⟩
    rw [hquery] at hq
    cases hq
  obtain ⟨-, hw1, -⟩ := query_ok hquery
  rcases bind_error.mp h with hlift | ⟨managed, w1', hlift, hafter⟩
  · obtain ⟨hparse, rfl⟩ : parseRows restoreNames rows = .error e ∧ w1 = w' := by
      simpa using hlift
    refine Or.inl ⟨hw1, ?_⟩
    rintro w2 ⟨rows', w1', managed, error, hq, hp, -⟩
    rw [hquery] at hq
    cases hq
    rw [hparse] at hp
    cases hp
  obtain ⟨hparse, rfl⟩ := lift_ok.mp hlift
  rcases hmut : mutatePolicies (managed.map Prod.fst) desired w1' with ⟨outcome, w2⟩
  rw [attempt_bind hmut] at hafter
  cases outcome with
  | ok u => cases hafter
  | error error =>
    right
    obtain ⟨w3, hclean⟩ : ∃ w3, cleanupPolicies restoreNames w2 = (.ok (), w3) :=
      ⟨_, discard_ok.mpr ⟨rfl, rfl⟩⟩
    refine ⟨w2, w3, ⟨rows, w1', managed, error, hquery, hparse, hmut⟩, hclean, ?_⟩
    have hfinish := (bind_of_ok hclean).symm.trans hafter
    rcases hroll : Act.forEach current createQos w3 with ⟨rollback, w4⟩
    rw [attempt_bind hroll] at hfinish
    cases rollback with
    | ok u => cases hfinish; exact Or.inl rfl
    | error e' => cases hfinish; exact Or.inr ⟨_, rfl⟩

/-- A managed policy that was read, or created since, has an object path. -/
theorem cleanupStarts_paths {current desired : List QosPolicySpec} {restoreNames : List Str}
    {w w' : World} (hcurrent : inventory restoreNames w.machine.qos.rows = .ok current)
    (h : CleanupStarts desired restoreNames w w') :
    ∀ f ∈ w'.machine.qos.rows, isManaged restoreNames f = true →
      ∃ path, f "__PATH" = some (.string path) := by
  obtain ⟨rows, w1, managed, error, hquery, hparse, hmut⟩ := h
  obtain ⟨-, rfl, -⟩ := query_ok hquery
  have hmanaged : ∀ row ∈ managed.map Prod.fst, cleanupRow restoreNames row = true := by
    intro row hm
    obtain ⟨entry, he, rfl⟩ := List.mem_map.mp hm
    exact cleanupRow_of_parse (parseRows_entry hparse entry he).2
  have hstep := @mutatePolicies_keeps _ _ desired hmanaged w.advance
  rw [hmut] at hstep
  intro f hf hm
  rcases hstep.creates f hf with hold | ⟨policy, rfl⟩
  · obtain ⟨policy, hread, -⟩ := inventory_mem hcurrent hold
    have hsome : policy.isSome = true := by rw [← (readPolicy_ok hread).2, hm]
    obtain ⟨p, rfl⟩ := Option.isSome_iff_exists.mp hsome
    exact readPolicy_path hread
  · exact ⟨_, Fields.put_self _ _ _⟩

/-- Only an empty list of managed policies has an empty inventory. -/
theorem inventory_managed_nil {restoreNames : List Str} {l : List Fields}
    (hl : ∀ f ∈ l, isManaged restoreNames f = true) (h : inventory restoreNames l = .ok []) :
    l = [] := by
  cases l with
  | nil => rfl
  | cons f l =>
    obtain ⟨policy, hread, hall⟩ := inventory_mem h List.mem_cons_self
    have hsome : policy.isSome = true := by
      rw [← (readPolicy_ok hread).2, hl f List.mem_cons_self]
    obtain ⟨p, rfl⟩ := Option.isSome_iff_exists.mp hsome
    exact absurd (hall p rfl) List.not_mem_nil

/-- Created policies read back as they were. -/
theorem inventory_created {restoreNames : List Str} {policies : List QosPolicySpec}
    (h : ∀ policy ∈ policies, Readable restoreNames policy) :
    inventory restoreNames (policies.map createdPolicy) = .ok policies := by
  induction policies with
  | nil => rfl
  | cons policy policies ih =>
    rw [List.forall_mem_cons] at h
    show (readPolicy restoreNames (createdPolicy policy) >>= fun p =>
      inventory restoreNames (policies.map createdPolicy) >>= fun rest => _) = _
    rw [readPolicy_createdPolicy h.1, ih h.2]
    rfl

/-- **A failed reconciliation.**  Unless it reports a failed rollback, it leaves the
current list exactly when its clean-up, if it comes to one, finds nothing or passes. -/
theorem reconcileQos_error_iff {current desired : List QosPolicySpec} {restoreNames : List Str}
    {w w' : World} {e : TuningError}
    (hcurrent : inventory restoreNames w.machine.qos.rows = .ok current)
    (h : reconcileQos current desired restoreNames w = (.error e, w')) (he : ¬ RollbackFailed e) :
    managedPolicies restoreNames w'.machine.qos = .ok current ↔
      ∀ w2, CleanupStarts desired restoreNames w w2 → CleanupPasses restoreNames w2 := by
  rcases reconcileQos_error h with ⟨rfl, hno⟩ | ⟨w2, w3, hstart, hclean, hroll⟩
  · exact ⟨fun _ w2 hs => absurd hs (hno w2), fun _ => inventory_filter hcurrent⟩
  have hreadable := inventory_readable hcurrent
  have hcreated : (current.map createdPolicy).filter (isManaged restoreNames) =
      current.map createdPolicy := by
    rw [List.filter_eq_self]
    intro f hf
    obtain ⟨policy, hp, rfl⟩ := List.mem_map.mp hf
    exact (hreadable policy hp).1
  have hrows : managedPolicies restoreNames w'.machine.qos = inventory restoreNames
      (w3.machine.qos.rows.filter (isManaged restoreNames) ++ current.map createdPolicy) := by
    unfold managedPolicies
    rw [forEach_createQos_ok (hroll.resolve_right he), List.filter_append, hcreated]
  rw [hrows, inventory_append]
  have hpass := cleanupPolicies_iff (cleanupStarts_paths hcurrent hstart) hclean
  constructor
  · rintro ⟨x, y, hx, hy, heq⟩ v hv
    rw [hv.unique hstart, ← hpass]
    rw [inventory_created hreadable] at hy
    cases hy
    have hnil : x = [] := List.append_left_eq_self.mp heq.symm
    exact inventory_managed_nil (fun f hf => (List.mem_filter.mp hf).2) (hnil ▸ hx)
  · intro hall
    rw [hpass.mpr (hall w2 hstart)]
    exact ⟨[], current, rfl, inventory_created hreadable, rfl⟩

/-! ## One failed creation, with and without a failed clean-up -/

def accessDenied : Failure := ⟨5, "access denied", by decide⟩

/-- A machine without adapters and policies. -/
def bareMachine : Machine where
  registry _ _ := none
  qos := ⟨[], List.nodup_nil⟩
  adapters := []
  nic := []
  rsc := []
  power := ⟨0x381b4222, 0xf694, 0x41f0, #v[0x96, 0x85, 0xff, 0x5b, 0xb2, 0x60, 0xdf, 0x2e]⟩

def bareWorld (script : List (Option Failure)) : World where
  machine := bareMachine
  folders _ := none
  script := script
  fresh := 0
  log := []

def twoPorts : List QosPolicySpec :=
  [.port "NETWORK_LANTERN_QOS_PORT_1000" "UDP" 1000 46,
    .port "NETWORK_LANTERN_QOS_PORT_2000" "UDP" 2000 46]

theorem createFailed_not_rollback :
    ¬ RollbackFailed (nativeFailure "create provider instance" accessDenied) := by
  rintro ⟨message, h⟩
  exact absurd (TuningError.native.inj h).1 (by decide)

/-- The second creation fails and the clean-up passes. -/
theorem reconcileQos_error_iff_two :
    let run := reconcileQos [] twoPorts [] (bareWorld [none, none, some accessDenied])
    managedPolicies [] run.2.machine.qos = .ok [] ↔
      ∀ w2, CleanupStarts twoPorts [] (bareWorld [none, none, some accessDenied]) w2 →
        CleanupPasses [] w2 :=
  reconcileQos_error_iff rfl (Prod.ext (by rfl) rfl) createFailed_not_rollback

/-- The second creation and the query of the clean-up fail: the first policy stays. -/
theorem reconcileQos_leftover :
    let w := bareWorld [none, none, some accessDenied, some accessDenied]
    let run := reconcileQos [] twoPorts [] w
    inventory [] w.machine.qos.rows = .ok [] ∧
      run.1 = .error (nativeFailure "create provider instance" accessDenied) ∧
      ¬ RollbackFailed (nativeFailure "create provider instance" accessDenied) ∧
      managedPolicies [] run.2.machine.qos = .ok (twoPorts.take 1) ∧ twoPorts.take 1 ≠ [] :=
  ⟨rfl, by rfl, createFailed_not_rollback, by rfl, by decide⟩

end NetworkLantern.Tuning
