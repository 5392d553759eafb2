import NetworkLantern.Tuning.Reconcile

/-!
# Runs of the reconciliation

What the loops of `reconcileQos` do to the policies, and from that its three
outcomes: success, a failure that is rolled back, and the policies that no
outcome touches.
-/

namespace NetworkLantern.Tuning

open NetworkLantern Act

/-! ## What a reconciliation may change -/

/-- A change that a reconciliation may log: a managed policy is deleted, or one is created. -/
def PolicyChange (restoreNames : List Str) : Mutation → Prop
  | .policyDeleted name => managedQosName name restoreNames = true
  | .policyCreated _ => True
  | _ => False

/-- A policy that is not managed stays as it is. -/
def KeepsUnmanaged (restoreNames : List Str) (w w' : World) : Prop :=
  ∀ f ∈ w.machine.qos.rows, isManaged restoreNames f = false → f ∈ w'.machine.qos.rows

theorem KeepsUnmanaged.refl (restoreNames : List Str) (w : World) : KeepsUnmanaged restoreNames w w :=
  fun _ hf _ => hf

theorem KeepsUnmanaged.trans {restoreNames : List Str} {a b c : World}
    (hab : KeepsUnmanaged restoreNames a b) (hbc : KeepsUnmanaged restoreNames b c) :
    KeepsUnmanaged restoreNames a c :=
  fun f hf hm => hbc f (hab f hf hm) hm

/-- Every policy was there before or has been created. -/
def OnlyCreates (w w' : World) : Prop :=
  ∀ f ∈ w'.machine.qos.rows, f ∈ w.machine.qos.rows ∨ ∃ policy, f = createdPolicy policy

theorem OnlyCreates.refl (w : World) : OnlyCreates w w := fun _ hf => Or.inl hf

theorem OnlyCreates.trans {a b c : World} (hab : OnlyCreates a b) (hbc : OnlyCreates b c) :
    OnlyCreates a c := by
  intro f hf
  rcases hbc f hf with h | h
  · exact hab f h
  · exact Or.inr h

/-- What every step of a reconciliation keeps. -/
structure ReconcileStep (restoreNames : List Str) (w w' : World) : Prop where
  effect : Effect [.qos] (PolicyChange restoreNames) w w'
  unmanaged : KeepsUnmanaged restoreNames w w'
  creates : OnlyCreates w w'

theorem ReconcileStep.refl (restoreNames : List Str) (w : World) : ReconcileStep restoreNames w w :=
  ⟨Effect.refl w, .refl restoreNames w, .refl w⟩

theorem ReconcileStep.trans (restoreNames : List Str) (a b c : World)
    (hab : ReconcileStep restoreNames a b) (hbc : ReconcileStep restoreNames b c) :
    ReconcileStep restoreNames a c :=
  ⟨Effect.trans a b c hab.effect hbc.effect, hab.unmanaged.trans hbc.unmanaged, hab.creates.trans hbc.creates⟩

theorem ReconcileStep.advance (restoreNames : List Str) (w : World) :
    ReconcileStep restoreNames w w.advance :=
  ⟨Effect.advance w, fun _ hf _ => hf, fun _ hf => Or.inl hf⟩

theorem setQos_effect {P : Mutation → Prop} {m : Mutation} (w : World) (qos : QosStore) (hP : P m) :
    Effect [.qos] P w ((w.advance.setQos qos).record m) :=
  ⟨rfl, fun _ => rfl, fun h => absurd List.mem_cons_self h, fun _ => rfl, fun _ => rfl, fun _ => rfl,
    fun _ => rfl, [m], rfl, by simpa using hP⟩

theorem query_keeps (restoreNames : List Str) (cls : CimClass) (fields : List String) :
    Keeps (ReconcileStep restoreNames) (Session.query cls fields) :=
  inspect_keeps (ReconcileStep.advance restoreNames)

theorem createQos_keeps (restoreNames : List Str) (policy : QosPolicySpec) :
    Keeps (ReconcileStep restoreNames) (createQos policy) := by
  intro w
  rcases h : createQos policy w with ⟨r, w'⟩
  cases r with
  | error e => rw [createQos_eq] at h; rw [change_error h]; exact .advance restoreNames w
  | ok u =>
    obtain ⟨-, -, qos, hrows, rfl⟩ := createQos_ok.mp h
    refine ⟨setQos_effect w qos trivial, fun f hf _ => ?_, fun f hf => ?_⟩
    · show f ∈ qos.rows
      rw [hrows]
      exact List.mem_append_left _ hf
    · change f ∈ qos.rows at hf
      rw [hrows] at hf
      rcases List.mem_append.mp hf with hf | hf
      · exact Or.inl hf
      · exact Or.inr ⟨policy, List.mem_singleton.mp hf⟩

/-- A deletion takes only policies of the row's name. -/
theorem delete_keeps {restoreNames : List Str} {row : Row}
    (hm : cleanupRow restoreNames row = true) :
    Keeps (ReconcileStep restoreNames) (Session.delete row) := by
  intro w
  rcases h : Session.delete row w with ⟨r, w'⟩
  cases r with
  | error e =>
    rcases delete_error h with rfl | rfl
    · exact .refl restoreNames w'
    · exact .advance restoreNames w
  | ok u =>
    obtain ⟨-, name, hname, -, -, rfl⟩ := delete_ok.mp h
    -- a policy with the row's name would be managed as the row is
    unfold cleanupRow at hm
    rw [hname, Option.any_some] at hm
    refine ⟨setQos_effect w _ hm, fun f hf hum => ?_, fun f hf => Or.inl (List.mem_of_mem_filter hf)⟩
    refine List.mem_filter.mpr ⟨hf, ?_⟩
    rw [decide_eq_true_eq]
    intro hkey
    unfold policyKey at hkey
    unfold isManaged at hum
    split at hkey
    · next n hn =>
      rw [hn] at hum
      change managedQosName n restoreNames = false at hum
      rw [managedQosName_congr (Option.some.inj hkey), hm] at hum
      cases hum
    · cases hkey

theorem cleanupPolicies_keeps (restoreNames : List Str) :
    Keeps (ReconcileStep restoreNames) (cleanupPolicies restoreNames) := by
  refine discard_keeps (Keeps.bind (ReconcileStep.trans restoreNames) (query_keeps _ _ _)
    fun rows => Keeps.forEach (ReconcileStep.refl restoreNames) (ReconcileStep.trans restoreNames) _
      fun row hr => discard_keeps (delete_keeps ?_))
  exact (List.mem_filter.mp hr).2

/-- The rows the loop takes are managed ones. -/
theorem parseRows_entry {restoreNames : List Str} {rows : List Row}
    {managed : List (Row × QosPolicySpec)} (h : parseRows restoreNames rows = .ok managed) :
    ∀ entry ∈ managed, entry.1 ∈ rows ∧
      parseQosRow entry.1 restoreNames = .ok (some entry.2) := by
  induction rows generalizing managed with
  | nil => cases h; simp
  | cons row rows ih =>
    obtain ⟨parsed, hp, h⟩ := except_bind_ok.mp h
    obtain ⟨rest, hrest, h⟩ := except_bind_ok.mp h
    have ih := ih hrest
    cases parsed with
    | none =>
      cases h
      exact fun entry he => ⟨List.mem_cons_of_mem row (ih entry he).1, (ih entry he).2⟩
    | some policy =>
      cases h
      intro entry he
      rcases List.mem_cons.mp he with rfl | he
      · exact ⟨List.mem_cons_self, hp⟩
      · exact ⟨List.mem_cons_of_mem row (ih entry he).1, (ih entry he).2⟩

theorem cleanupRow_of_parse {restoreNames : List Str} {row : Row} {policy : QosPolicySpec}
    (h : parseQosRow row restoreNames = .ok (some policy)) : cleanupRow restoreNames row = true := by
  obtain ⟨hname, -, hr⟩ := parseQosRow_some h
  unfold cleanupRow
  rw [hname]
  exact hr.1

theorem mutatePolicies_keeps {restoreNames : List Str} {managed : List Row}
    {desired : List QosPolicySpec} (hm : ∀ row ∈ managed, cleanupRow restoreNames row = true) :
    Keeps (ReconcileStep restoreNames) (mutatePolicies managed desired) :=
  Keeps.bind (ReconcileStep.trans restoreNames)
    (Keeps.forEach (ReconcileStep.refl restoreNames) (ReconcileStep.trans restoreNames) _
      fun row hr => delete_keeps (hm row hr))
    fun _ => Keeps.forEach (ReconcileStep.refl restoreNames) (ReconcileStep.trans restoreNames) _
      fun policy _ => createQos_keeps restoreNames policy

/-- The frame of a reconciliation, on success, on failure and during its rollback. -/
theorem reconcileQos_keeps (current desired : List QosPolicySpec) (restoreNames : List Str) :
    Keeps (ReconcileStep restoreNames) (reconcileQos current desired restoreNames) := by
  have hr := ReconcileStep.refl restoreNames
  have ht := ReconcileStep.trans restoreNames
  refine Keeps.bind ht (query_keeps _ _ _) fun rows => ?_
  refine Keeps.bindOk ht (Keeps.lift hr _) fun w managed w' hparse => ?_
  have hmanaged : ∀ row ∈ managed.map Prod.fst, cleanupRow restoreNames row = true := by
    intro row hm
    obtain ⟨entry, he, rfl⟩ := List.mem_map.mp hm
    have hok : parseRows restoreNames rows = .ok managed := congrArg Prod.fst hparse
    exact cleanupRow_of_parse (parseRows_entry hok entry he).2
  refine Keeps.bind ht (Keeps.attempt (mutatePolicies_keeps hmanaged)) fun outcome => ?_
  cases outcome with
  | ok u => exact Keeps.pure hr ()
  | error error =>
    refine Keeps.bind ht (cleanupPolicies_keeps restoreNames) fun _ => ?_
    refine Keeps.bind ht (Keeps.attempt (Keeps.forEach hr ht _ fun policy _ =>
      createQos_keeps restoreNames policy)) fun rollback => ?_
    cases rollback with
    | ok u => exact Keeps.fail hr _
    | error e => exact Keeps.fail hr _

/-! ## Success -/

theorem forEach_createQos_ok {policies : List QosPolicySpec} {w w' : World}
    (h : Act.forEach policies createQos w = (.ok (), w')) :
    w'.machine.qos.rows = w.machine.qos.rows ++ policies.map createdPolicy := by
  induction policies generalizing w with
  | nil => cases h; simp
  | cons policy policies ih =>
    obtain ⟨_, w1, h1, h⟩ := bind_ok.mp (forEach_cons policy policies createQos ▸ h)
    obtain ⟨-, -, qos, hrows, rfl⟩ := createQos_ok.mp h1
    rw [ih h]
    show qos.rows ++ _ = _
    rw [hrows, List.append_assoc]
    rfl

/-- The key of the policy a row stands for. -/
def rowKey (row : Row) : Option Str := (row.string "Name").map Str.lower

theorem rowKey_select {fields : List String} (h : "Name" ∈ fields) (object : Nat) (f : Fields) :
    rowKey ⟨object, f.select fields⟩ = policyKey f := by
  unfold rowKey policyKey Row.string
  rw [show (Row.mk object (f.select fields)).fields "Name" = f "Name" from Fields.select_of_mem h f]
  cases f "Name" with
  | none => rfl
  | some v => cases v <;> rfl

theorem forEach_delete_ok {rows : List Row} {w w' : World}
    (h : Act.forEach rows Session.delete w = (.ok (), w')) :
    w'.machine.qos.rows =
      w.machine.qos.rows.filter fun f => rows.all fun row => policyKey f ≠ rowKey row := by
  induction rows generalizing w with
  | nil => cases h; simp
  | cons row rows ih =>
    obtain ⟨_, w1, h1, h⟩ := bind_ok.mp (forEach_cons row rows Session.delete ▸ h)
    obtain ⟨-, name, hname, -, -, rfl⟩ := delete_ok.mp h1
    rw [ih h]
    show (w.machine.qos.rows.filter _).filter _ = _
    rw [List.filter_filter]
    have hkey : rowKey row = some name.lower := by
      unfold rowKey
      rw [hname]
      rfl
    refine List.filter_congr fun f _ => ?_
    rw [List.all_cons, hkey, Bool.and_comm]

/-- Every managed instance has its row among those the loop takes. -/
theorem parseRows_complete {restoreNames : List Str} {rows : List Row} {instances : List Fields}
    {managed : List (Row × QosPolicySpec)}
    (hmap : rows.map Row.fields = instances.map (Fields.select qosFields))
    (h : parseRows restoreNames rows = .ok managed) :
    ∀ f ∈ instances, isManaged restoreNames f = true →
      ∃ entry ∈ managed, entry.1.fields = f.select qosFields := by
  induction rows generalizing instances managed with
  | nil =>
    cases instances with
    | nil => simp
    | cons f l => cases hmap
  | cons row rows ih =>
    cases instances with
    | nil => cases hmap
    | cons g l =>
      simp only [List.map_cons, List.cons.injEq] at hmap
      obtain ⟨parsed, hp, h⟩ := except_bind_ok.mp h
      obtain ⟨rest, hrest, h⟩ := except_bind_ok.mp h
      have ih := ih hmap.2 hrest
      have hread : readPolicy restoreNames g = .ok parsed := by
        unfold readPolicy
        rw [← hmap.1]
        exact hp
      intro f hf hm
      rcases List.mem_cons.mp hf with rfl | hf
      · rw [(readPolicy_ok hread).2] at hm
        cases parsed with
        | none => cases hm
        | some policy => cases h; exact ⟨_, List.mem_cons_self, hmap.1⟩
      · obtain ⟨entry, he, hfields⟩ := ih f hf hm
        cases parsed with
        | none => cases h; exact ⟨entry, he, hfields⟩
        | some policy => cases h; exact ⟨entry, List.mem_cons_of_mem _ he, hfields⟩

/-- Being managed goes by the key. -/
theorem isManaged_of_key {restoreNames : List Str} {row : Row} {f : Fields}
    (hr : cleanupRow restoreNames row = true) (hk : policyKey f = rowKey row) :
    isManaged restoreNames f = true := by
  unfold cleanupRow at hr
  unfold rowKey at hk
  cases hn : row.string "Name" with
  | none => rw [hn] at hr; cases hr
  | some name =>
    rw [hn] at hr hk
    unfold policyKey at hk
    split at hk
    · next n hf =>
      unfold isManaged
      rw [hf]
      show managedQosName n restoreNames = true
      rw [managedQosName_congr (Option.some.inj hk)]
      exact hr
    · cases hk

/-- **Success.**  The policies that are not managed, and the desired ones. -/
theorem reconcileQos_ok {current desired : List QosPolicySpec} {restoreNames : List Str}
    {w w' : World} (h : reconcileQos current desired restoreNames w = (.ok (), w')) :
    w'.machine.qos.rows =
      w.machine.qos.rows.filter (fun f => !isManaged restoreNames f) ++ desired.map createdPolicy := by
  obtain ⟨rows, w1, hquery, h⟩ := bind_ok.mp h
  obtain ⟨-, rfl, hrows⟩ := query_ok hquery
  obtain ⟨managed, _, hlift, h⟩ := bind_ok.mp h
  obtain ⟨hparse, rfl⟩ := lift_ok.mp hlift
  obtain ⟨outcome, w3, hout, h⟩ := bind_ok.mp h
  cases outcome with
  | error error =>
    -- the failed branch never ends well
    obtain ⟨_, w4, -, h⟩ := bind_ok.mp h
    obtain ⟨rollback, w5, -, h⟩ := bind_ok.mp h
    cases rollback <;> cases h
  | ok u =>
    cases h
    obtain ⟨_, w4, hdelete, hcreate⟩ := bind_ok.mp (attempt_ok.mp hout)
    rw [forEach_createQos_ok hcreate, forEach_delete_ok hdelete]
    congr 1
    refine List.filter_congr fun f hf => ?_
    have hall := parseRows_complete (hrows ▸ rows_all _ _) hparse f hf
    have hsound := parseRows_entry hparse
    rw [Bool.eq_iff_iff, List.all_eq_true, Bool.not_eq_true']
    constructor
    · intro hkeys
      rw [Bool.eq_false_iff]
      intro hm
      obtain ⟨entry, he, hfields⟩ := hall hm
      have hk : policyKey f = rowKey entry.1 := by
        rw [← rowKey_select (show "Name" ∈ qosFields by decide) entry.1.object f, ← hfields]
      simpa [hk] using hkeys entry.1 (List.mem_map_of_mem he)
    · intro hm row hr
      obtain ⟨entry, he, rfl⟩ := List.mem_map.mp hr
      rw [decide_eq_true_eq]
      intro hk
      rw [isManaged_of_key (cleanupRow_of_parse (hsound entry he).2) hk] at hm
      cases hm

end NetworkLantern.Tuning
