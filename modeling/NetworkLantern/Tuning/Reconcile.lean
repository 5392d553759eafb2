import NetworkLantern.Tuning.DesiredQos
import NetworkLantern.Tuning.Effects

/-!
# Reconciling policies

`readQos` reads our policies; `reconcileQos` replaces the managed ones by a desired
list and, when a call fails, deletes what is there and creates the current list
again.

* a successful run leaves the policies that are not managed, and the desired ones
  (`reconcileQos_ok`);
* a policy that is not managed stays, whatever fails (`reconcileQos_keeps`);
* a failed run that reports no failed rollback restores the current list exactly
  when its clean-up, whose errors are ignored, goes through (`reconcileQos_error_iff`).
-/

namespace NetworkLantern.Tuning

open NetworkLantern

/-! ## The code -/

/-- The managed rows with their policies. -/
def parseRows (restoreNames : List Str) : List Row → Except TuningError (List (Row × QosPolicySpec))
  | [] => .ok []
  | row :: rows => do
    let parsed ← parseQosRow row restoreNames
    let rest ← parseRows restoreNames rows
    return match parsed with
      | some policy => (row, policy) :: rest
      | none => rest

/-- Reads our policies; `restoreNames` widens "ours" for Restore only. -/
def readQos (restoreNames : List Str) : Run (List QosPolicySpec) := do
  let rows ← Session.query .netQosPolicy qosFields
  let managed ← Act.lift (parseRows restoreNames rows)
  return managed.map Prod.snd

def createQos (policy : QosPolicySpec) : Run Unit := Session.create (createValues policy)

/-- Deletes the managed rows, then creates the desired policies. -/
def mutatePolicies (managed : List Row) (desired : List QosPolicySpec) : Run Unit := do
  Act.forEach managed Session.delete
  Act.forEach desired createQos

/-- A row the clean-up deletes. -/
def cleanupRow (restoreNames : List Str) (row : Row) : Bool :=
  (row.string "Name").any fun name => managedQosName name restoreNames

/-- Deletes every managed policy; errors are ignored. -/
def cleanupPolicies (restoreNames : List Str) : Run Unit :=
  discard do
    let rows ← Session.query .netQosPolicy ["__PATH", "Name"]
    Act.forEach (rows.filter (cleanupRow restoreNames)) fun row => discard (Session.delete row)

def rollbackOperation : Str := "rollback QoS policies"

def reconcileQos (current desired : List QosPolicySpec) (restoreNames : List Str) : Run Unit := do
  let rows ← Session.query .netQosPolicy qosFields
  let managed ← Act.lift (parseRows restoreNames rows)
  match ← Act.attempt (mutatePolicies (managed.map Prod.fst) desired) with
  | .ok () => return ()
  | .error error =>
    cleanupPolicies restoreNames
    match ← Act.attempt (Act.forEach current createQos) with
    | .ok () => Act.fail error
    | .error _ =>
      Act.fail (.native rollbackOperation (-1)
        ("mutation failed: ".toList ++ error.display ++ "; rollback failed".toList))

/-! ## One call -/

/-- A policy instance as the provider keeps it once it is created. -/
def createdPolicy (policy : QosPolicySpec) : Fields :=
  (createdFields policy).put "__PATH" (.string (objectPath policy.name))

theorem policyKey_createdPolicy (policy : QosPolicySpec) :
    policyKey (createdPolicy policy) = some policy.name.lower := rfl

theorem createQos_eq (policy : QosPolicySpec) :
    createQos policy = change (nativeFailure "create provider instance")
      (Session.createIn (createdPolicy policy) policy.name) := rfl

/-- What a passed creation does. -/
theorem createQos_ok {policy : QosPolicySpec} {w w' : World} :
    createQos policy w = (.ok (), w') ↔
      w.nextFailure = none ∧ policy.name.lower ∉ w.machine.qos.keys ∧
        ∃ qos, qos.rows = w.machine.qos.rows ++ [createdPolicy policy] ∧
          w' = (w.advance.setQos qos).record (.policyCreated policy.name) := by
  rw [createQos_eq, change_ok]
  refine and_congr_right fun _ => ?_
  have hk := policyKey_createdPolicy policy
  unfold Session.createIn
  rw [World.advance_machine]
  cases hq : w.machine.qos.create (createdPolicy policy) with
  | none =>
    simp only [reduceCtorEq, false_iff, not_and, not_exists]
    intro hnew qos hrows _
    have := (QosStore.create_eq_some hk).mpr ⟨hnew, hrows⟩
    rw [hq] at this
    cases this
  | some qos =>
    obtain ⟨hnew, hrows⟩ := (QosStore.create_eq_some hk).mp hq
    simp only [Except.ok.injEq]
    constructor
    · rintro rfl
      exact ⟨hnew, qos, hrows, rfl⟩
    · rintro ⟨-, qos', hrows', rfl⟩
      have := (QosStore.create_eq_some hk).mpr ⟨hnew, hrows'⟩
      rw [hq] at this
      cases this
      rfl

/-- A deletion of a row with a path and a name. -/
theorem delete_eq {row : Row} {path name : Str} (hp : row.string "__PATH" = some path)
    (hn : row.string "Name" = some name) :
    Session.delete row = change (nativeFailure "delete provider instance")
      (Session.deleteIn name) := by
  simp only [Session.delete, hp, hn]

/-- What a passed deletion does. -/
theorem delete_ok {row : Row} {w w' : World} :
    Session.delete row w = (.ok (), w') ↔
      (row.string "__PATH").isSome ∧ ∃ name, row.string "Name" = some name ∧
        w.nextFailure = none ∧ name.lower ∈ w.machine.qos.keys ∧
        w' = (w.advance.setQos (w.machine.qos.delete name.lower)).record (.policyDeleted name) := by
  cases hp : row.string "__PATH" with
  | none => simp [Session.delete, hp]
  | some path =>
    cases hn : row.string "Name" with
    | none =>
      simp only [Session.delete, hp, hn, change_ok]
      simp
    | some name =>
      rw [delete_eq hp hn, change_ok]
      unfold Session.deleteIn
      by_cases hm : name.lower ∈ w.machine.qos.keys
      · simp [hm, eq_comm]
      · simp [hm]

/-- A failed deletion changes nothing but the script. -/
theorem delete_error {row : Row} {w w' : World} {e : TuningError}
    (h : Session.delete row w = (.error e, w')) : w' = w ∨ w' = w.advance := by
  cases hp : row.string "__PATH" with
  | none =>
    simp only [Session.delete, hp] at h
    cases h
    exact Or.inl rfl
  | some path =>
    right
    cases hn : row.string "Name" with
    | none =>
      simp only [Session.delete, hp, hn] at h
      exact change_error h
    | some name =>
      rw [delete_eq hp hn] at h
      exact change_error h

/-! ## Reading a store -/

/-- The policy of an instance, `none` when it is not ours. -/
def readPolicy (restoreNames : List Str) (f : Fields) : Except TuningError (Option QosPolicySpec) :=
  parseQosRow ⟨0, f.select qosFields⟩ restoreNames

/-- The policies of the managed instances, in order. -/
def inventory (restoreNames : List Str) : List Fields → Except TuningError (List QosPolicySpec)
  | [] => .ok []
  | f :: l => do
    let policy ← readPolicy restoreNames f
    let rest ← inventory restoreNames l
    return policy.toList ++ rest

/-- An instance whose name is managed. -/
def isManaged (restoreNames : List Str) (f : Fields) : Bool :=
  match f "Name" with
  | some (.string name) => managedQosName name restoreNames
  | _ => false

theorem isManaged_createdPolicy (restoreNames : List Str) (policy : QosPolicySpec) :
    isManaged restoreNames (createdPolicy policy) = managedQosName policy.name restoreNames := rfl

/-- The loop over rows reads the instances they come from. -/
theorem parseRows_map {restoreNames : List Str} {rows : List Row} {instances : List Fields}
    (h : rows.map Row.fields = instances.map (Fields.select qosFields)) :
    (parseRows restoreNames rows).map (List.map Prod.snd) = inventory restoreNames instances := by
  induction rows generalizing instances with
  | nil =>
    cases instances with
    | nil => rfl
    | cons f l => cases h
  | cons row rows ih =>
    cases instances with
    | nil => cases h
    | cons f l =>
      simp only [List.map_cons, List.cons.injEq] at h
      have hrow : parseQosRow row restoreNames = readPolicy restoreNames f := by
        unfold readPolicy
        rw [← h.1]
        rfl
      have ih := ih h.2
      unfold parseRows inventory
      rw [hrow, ← ih]
      cases readPolicy restoreNames f with
      | error e => rfl
      | ok policy => cases parseRows restoreNames rows <;> cases policy <;> rfl

theorem inventory_append {restoreNames : List Str} {a b : List Fields} {result : List QosPolicySpec} :
    inventory restoreNames (a ++ b) = .ok result ↔ ∃ x y, inventory restoreNames a = .ok x ∧
      inventory restoreNames b = .ok y ∧ result = x ++ y := by
  induction a generalizing result with
  | nil => simp [inventory, eq_comm]
  | cons f a ih =>
    rw [List.cons_append]
    simp only [inventory, except_bind_ok, ih]
    constructor
    · rintro ⟨p, hp, _, ⟨x, y, hx, hy, rfl⟩, h⟩
      cases h
      exact ⟨_, y, ⟨p, hp, x, hx, rfl⟩, hy, by simp⟩
    · rintro ⟨_, y, ⟨p, hp, x, hx, h⟩, hy, rfl⟩
      cases h
      exact ⟨p, hp, _, ⟨x, y, hx, hy, rfl⟩, by simp [pure, Except.pure]⟩

/-- An instance that reads as a policy is managed, one that reads as nothing is not. -/
theorem readPolicy_ok {restoreNames : List Str} {f : Fields} {policy : Option QosPolicySpec}
    (h : readPolicy restoreNames f = .ok policy) :
    (∃ name, f "Name" = some (.string name)) ∧ isManaged restoreNames f = policy.isSome := by
  unfold readPolicy parseQosRow at h
  split at h
  · cases h
  · next name hname =>
    have hstring := (Option.filter_eq_some_iff.mp hname).1
    have hfield : f "Name" = some (.string name) := by
      unfold Row.string at hstring
      change (match f.select qosFields "Name" with | some (.string value) => some value | _ => none) =
        some name at hstring
      rw [Fields.select_of_mem (show "Name" ∈ qosFields by decide)] at hstring
      split at hstring
      · next value hv => cases hstring; exact hv
      · cases hstring
    have hm : isManaged restoreNames f = managedQosName name restoreNames := by
      unfold isManaged
      rw [hfield]
    refine ⟨⟨name, hfield⟩, ?_⟩
    rw [hm]
    split at h
    · next hn => cases h; simpa using hn
    · next hn =>
      have hn : managedQosName name restoreNames = true := by simpa using hn
      rw [hn]
      split at h
      · cases h
      · split at h
        · cases h
        · obtain ⟨p, -, hp⟩ := except_map_ok.mp h
          rw [← hp]
          rfl

/-- A policy that reads has an object path. -/
theorem readPolicy_path {restoreNames : List Str} {f : Fields} {policy : QosPolicySpec}
    (h : readPolicy restoreNames f = .ok (some policy)) :
    ∃ path, f "__PATH" = some (.string path) := by
  obtain ⟨-, hpath, -⟩ := parseQosRow_some h
  obtain ⟨path, hp⟩ := Option.isSome_iff_exists.mp hpath
  have hstring := (Option.filter_eq_some_iff.mp hp).1
  unfold Row.string at hstring
  rw [show (Row.mk 0 (f.select qosFields)).fields "__PATH" = f "__PATH" from
    Fields.select_of_mem (show "__PATH" ∈ qosFields by decide) f] at hstring
  split at hstring
  · next value hv => exact ⟨value, hv⟩
  · cases hstring

/-- What is not managed adds nothing to an inventory. -/
theorem inventory_filter {restoreNames : List Str} {l : List Fields} {result : List QosPolicySpec}
    (h : inventory restoreNames l = .ok result) :
    inventory restoreNames (l.filter (isManaged restoreNames)) = .ok result := by
  induction l generalizing result with
  | nil => exact h
  | cons f l ih =>
    obtain ⟨policy, hp, h⟩ := except_bind_ok.mp h
    obtain ⟨rest, hrest, h⟩ := except_bind_ok.mp h
    cases h
    have hm := (readPolicy_ok hp).2
    have ih := ih hrest
    cases policy with
    | none =>
      rw [List.filter_cons_of_neg (by rw [hm]; exact Bool.false_ne_true)]
      exact ih
    | some p =>
      rw [List.filter_cons_of_pos hm]
      exact except_bind_ok.mpr ⟨some p, hp, except_bind_ok.mpr ⟨rest, ih, rfl⟩⟩

theorem inventory_mem {restoreNames : List Str} {l : List Fields} {result : List QosPolicySpec}
    (h : inventory restoreNames l = .ok result) {f : Fields} (hf : f ∈ l) :
    ∃ policy, readPolicy restoreNames f = .ok policy ∧ ∀ p ∈ policy, p ∈ result := by
  induction l generalizing result with
  | nil => cases hf
  | cons g l ih =>
    obtain ⟨policy, hp, h⟩ := except_bind_ok.mp h
    obtain ⟨rest, hrest, h⟩ := except_bind_ok.mp h
    cases h
    rcases List.mem_cons.mp hf with rfl | hf
    · exact ⟨policy, hp, fun p hm => List.mem_append_left _ (Option.mem_toList.mpr hm)⟩
    · obtain ⟨q, hq, hall⟩ := ih hrest hf
      exact ⟨q, hq, fun p hm => List.mem_append_right _ (hall p hm)⟩

/-- Every policy of an inventory can be read from some row. -/
theorem inventory_readable {restoreNames : List Str} {l : List Fields} {result : List QosPolicySpec}
    (h : inventory restoreNames l = .ok result) : ∀ policy ∈ result, Readable restoreNames policy := by
  induction l generalizing result with
  | nil => cases h; simp
  | cons f l ih =>
    obtain ⟨policy, hp, h⟩ := except_bind_ok.mp h
    obtain ⟨rest, hrest, h⟩ := except_bind_ok.mp h
    cases h
    intro q hq
    rcases List.mem_append.mp hq with hq | hq
    · rw [Option.mem_toList] at hq
      cases hq
      exact (parseQosRow_some hp).2.2
    · exact ih hrest q hq

theorem objectPath_not_blank (name : Str) : (objectPath name).isBlank = false :=
  Str.isBlank_eq_false_of_mem (List.mem_append_right _ (List.mem_singleton_self '"')) rfl

/-- A created policy reads back as itself. -/
theorem readPolicy_createdPolicy {restoreNames : List Str} {policy : QosPolicySpec}
    (h : Readable restoreNames policy) :
    readPolicy restoreNames (createdPolicy policy) = .ok (some policy) := by
  refine parseQosRow_created h _ (fun k hk hne => ?_) ?_
  · show (createdPolicy policy).select qosFields k = _
    rw [Fields.select_of_mem hk]
    exact Fields.put_of_ne _ _ hne
  · have hpath : Row.string ⟨0, (createdPolicy policy).select qosFields⟩ "__PATH" =
        some (objectPath policy.name) := rfl
    rw [hpath, Option.filter_some, objectPath_not_blank]
    rfl

end NetworkLantern.Tuning
