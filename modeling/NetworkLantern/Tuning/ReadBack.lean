import NetworkLantern.Tuning.DesiredArtifact
import NetworkLantern.Tuning.VerifyApplied

/-!
# Reading back the policies of a plan

A policy that a plan derives is read back by the inventory, and accepted by the
backup validator, exactly when its path has a backslash behind its drive; the
planner takes a slash there as well.  The artifact of a later backup is read back
when no path has a character that XML escapes.  Both together are what the
actions after an Apply need (`desiredQos_readsBack_iff`).
-/

namespace NetworkLantern.Tuning

open NetworkLantern Act

/-- The inventory reads a policy as it was created, and the backup validator accepts it. -/
def ReadsBack (policy : QosPolicySpec) : Prop :=
  (∀ restoreNames, readPolicy restoreNames (createdPolicy policy) = .ok (some policy)) ∧
    normalizeQos (policyFields policy) = .ok policy

theorem Readable.mono {policy : QosPolicySpec} (h : Readable [] policy) (restoreNames : List Str) :
    Readable restoreNames policy :=
  ⟨managedQosName_of_nil h.1 restoreNames, h.2⟩

theorem readsBack_iff {policy : QosPolicySpec} : ReadsBack policy ↔ Readable [] policy := by
  constructor
  · intro h
    exact (parseQosRow_some (h.1 [])).2.2
  · intro h
    refine ⟨fun restoreNames => readPolicy_createdPolicy (h.mono restoreNames), ?_⟩
    exact normalizeQos_fields.mpr ⟨rfl, normalMatch_of_readable h⟩

/-! ## What the later actions read -/

/-- Apply, Backup, Verify and Restore all begin with the inventory, Restore with the names of
its backup.  On rows that it can read, only the query itself fails. -/
def RowsRead (policies : List QosPolicySpec) (rows : List Fields) : Prop :=
  ∀ names, names = [] ∨ names = qosNames policies →
    ∀ w r w', w.machine.qos.rows = rows → readQos names w = (r, w') →
      r = .ok policies ∨
        ∃ e, r = .error e ∧ Session.query .netQosPolicy qosFields w = (.error e, w')

/-- The artifact that a Backup, or the snapshot of an Apply or a Restore, writes of policies is
accepted wherever it is read again. -/
structure ArtifactRead (env : Env) (policies : List QosPolicySpec) : Prop where
  /-- In a folder: the new backup and the snapshot, and the backup an Apply finds. -/
  validated : ∀ tree manifest, tree.artifacts .qosPolicies = some (qosXml policies).bytes →
    manifest.artifactDigests.lookup ArtifactKind.qosPolicies.fileName =
      some (env.sha256 (qosXml policies).bytes) →
    checkArtifact env tree manifest .qosPolicies = .ok ()
  /-- Before a Restore, or a rollback, stages it. -/
  staged : ∀ bundle : BackupBundle env, bundle.artifacts .qosPolicies = some (qosXml policies).bytes →
    bundle.manifest.artifactDigests.lookup ArtifactKind.qosPolicies.fileName =
      some (env.sha256 (qosXml policies).bytes) →
    verifyArtifact env bundle .qosPolicies = .ok ()
  /-- The policies that are restored, and their names. -/
  restored : parseQosClixml env.xml (qosXml policies).bytes = .ok policies

theorem artifactRead_iff {env : Env} {policies : List QosPolicySpec}
    (hsize : parseQosClixml env.xml (qosXml policies).bytes = .ok policies →
      (qosXml policies).byteLen ≤ maxQosBytes) :
    ArtifactRead env policies ↔ parseQosClixml env.xml (qosXml policies).bytes = .ok policies := by
  constructor
  · exact fun h => h.restored
  · intro h
    have hauthorize : authorizeArtifact env .qosPolicies (qosXml policies).bytes = .ok () := by
      unfold authorizeArtifact
      rw [h]
      rfl
    refine ⟨fun tree manifest htree hdigest => ?_, fun bundle hbundle hdigest => ?_, h⟩
    · have hread : readArtifact tree .qosPolicies = .ok (qosXml policies).bytes := by
        unfold readArtifact
        rw [htree]
        refine if_neg (not_lt.mpr ?_)
        rw [Str.length_bytes]
        exact hsize h
      unfold checkArtifact
      rw [hdigest]
      exact except_bind_ok.mpr ⟨_, hread, refuse_bind_ok.mpr ⟨by simp, hauthorize⟩⟩
    · unfold verifyArtifact
      rw [hbundle, hdigest]
      exact refuse_bind_ok.mpr ⟨by simp, hauthorize⟩

/-- The names of owned policies make no other row managed. -/
theorem managedQosName_owned {policies : List QosPolicySpec}
    (h : ∀ policy ∈ policies, managedQosName policy.name [] = true) (name : Str) :
    managedQosName name (qosNames policies) = managedQosName name [] := by
  cases hnil : managedQosName name [] with
  | true => exact managedQosName_of_nil hnil _
  | false =>
    rw [Bool.eq_false_iff]
    intro hnames
    obtain ⟨restore, hmem, hlower⟩ := mem_of_managedQosName hnames hnil
    obtain ⟨policy, hp, rfl⟩ := List.mem_map.mp hmem
    have howned := h policy hp
    rw [managedQosName_congr hlower, hnil] at howned
    cases howned

theorem inventory_congr {a b : List Str} (h : ∀ name, managedQosName name a = managedQosName name b)
    (l : List Fields) : inventory a l = inventory b l := by
  induction l with
  | nil => rfl
  | cons f l ih =>
    have hread : readPolicy a f = readPolicy b f := by
      unfold readPolicy parseQosRow
      simp only [h]
    rw [inventory, inventory, hread, ih]

/-- Whatever a passed Apply finds in the store, its policies are the inventory afterwards. -/
theorem rowsRead_applied {env : Env} {p : TuningPlan} (ha : p.config.action = .apply)
    (hdry : p.config.dryRun = false) (hall : ∀ policy ∈ desiredQos p, Readable [] policy)
    {w w' : World} {result : TuningResult} (hrun : execute env p false w = (.ok result, w')) :
    RowsRead (desiredQos p) w'.machine.qos.rows := by
  obtain ⟨⟨folder, bundle, -, happlied⟩, policies, hbefore⟩ := execute_applied ha hdry hrun
  have hinventory : inventory [] w'.machine.qos.rows = .ok (desiredQos p) := by
    rw [happlied.qos]
    exact inventory_append.mpr ⟨[], desiredQos p, inventory_filter_unmanaged hbefore,
      inventory_created hall, rfl⟩
  intro names hnames v r v' hrows hread
  have hnamed : inventory names v.machine.qos.rows = .ok (desiredQos p) := by
    rw [hrows]
    rcases hnames with rfl | rfl
    · exact hinventory
    · rw [inventory_congr (managedQosName_owned fun policy hp => (hall policy hp).1)]
      exact hinventory
  rcases hquery : Session.query .netQosPolicy qosFields v with ⟨e | rows, v1⟩
  · right
    unfold readQos at hread
    rw [bind_of_error hquery] at hread
    cases hread
    exact ⟨e, rfl, rfl⟩
  · left
    rw [readQos_of_query hquery hnamed] at hread
    cases hread
    rfl

/-- **Reading back.**  The names of a plan's policies always differ.  They are read back one by
one, from their artifact and, after any successful Apply, from the store exactly when every path
has a backslash behind the drive and none of the characters that XML escapes. -/
theorem desiredQos_readsBack_iff {env : Env} (hxml : env.xml.Lawful) {config : TuningConfig}
    {p : TuningPlan} (h : plan config = .ok p) :
    ((desiredQos p).map fun policy => policy.name.lower).Nodup ∧
      (∀ policy ∈ desiredQos p, ReadsBack policy) ∧
      ArtifactRead env (desiredQos p) ∧
      (p.config.action = .apply → p.config.dryRun = false → ∀ w result w',
        execute env p false w = (.ok result, w') →
          RowsRead (desiredQos p) w'.machine.qos.rows) ↔
      BackslashPaths config ∧ PlainPaths config := by
  have hreadable := desiredQos_readable_iff h
  have hsize : parseQosClixml env.xml (qosXml (desiredQos p)).bytes = .ok (desiredQos p) →
      (qosXml (desiredQos p)).byteLen ≤ maxQosBytes := fun hparse =>
    ((parseQosClixml_eq_ok hxml).mp hparse).1
  constructor
  · rintro ⟨-, hall, hartifact, -⟩
    have hall : ∀ policy ∈ desiredQos p, Readable [] policy := fun policy hp =>
      readsBack_iff.mp (hall policy hp)
    exact ⟨hreadable.mp hall, (desiredQos_parsed_iff hxml h hall).mp hartifact.restored⟩
  · rintro ⟨hpaths, hplain⟩
    have hall := hreadable.mpr hpaths
    refine ⟨desiredQos_names_nodup ?_, fun policy hp => readsBack_iff.mpr (hall policy hp),
      (artifactRead_iff hsize).mpr ((desiredQos_parsed_iff hxml h hall).mpr hplain),
      fun ha hdry w result w' hrun => rowsRead_applied ha hdry hall hrun⟩
    rw [(plan_ok h).2.1]
    exact normalizeConfig_ports_nodup config

/-- An Apply with one application path. -/
def appConfig (path : Str) : TuningConfig :=
  { TuningConfig.default with includeAppPolicies := true, appPaths := [path] }

def appPlan (path : Str) : TuningPlan where
  config := appConfig path
  steps := applySteps (appConfig path)
  mutating := true
  requiresHelper := true

theorem desiredQos_readsBack_iff_game :
    let p := appPlan r"C:\Games\game.exe"
    ((desiredQos p).map fun policy => policy.name.lower).Nodup ∧
      (∀ policy ∈ desiredQos p, ReadsBack policy) ∧
      ArtifactRead (plainEnv bareDigests) (desiredQos p) ∧
      (p.config.action = .apply → p.config.dryRun = false → ∀ w result w',
        execute (plainEnv bareDigests) p false w = (.ok result, w') →
          RowsRead (desiredQos p) w'.machine.qos.rows) :=
  (@desiredQos_readsBack_iff (plainEnv bareDigests) scanXml_lawful
    (appConfig r"C:\Games\game.exe") _ (by decide +kernel)).mpr (by decide +kernel)

/-- The store gives this path back, its artifact does not. -/
example : BackslashPaths (appConfig r"C:\R&D\lab.exe") ∧ ¬ PlainPaths (appConfig r"C:\R&D\lab.exe") := by
  decide +kernel

/-- A slash behind the drive: the planner accepts the path, the policy is created, and from
then on the inventory fails. -/
theorem desiredQos_slash :
    let run := reconcileQos [] (desiredQos (appPlan "C:/Games/game.exe")) [] (bareWorld [])
    plan (appConfig "C:/Games/game.exe") = .ok (appPlan "C:/Games/game.exe") ∧
      run.1 = .ok () ∧
      inventory [] run.2.machine.qos.rows = .error (providerInventory
        "managed application QoS policy has an invalid path or conflicting match conditions") ∧
      ¬ ∀ policy ∈ desiredQos (appPlan "C:/Games/game.exe"), ReadsBack policy := by
  refine ⟨by decide +kernel, by rfl, by rfl, fun h => ?_⟩
  have hmem : appPolicy 46 0 "C:/Games/game.exe" ∈ desiredQos (appPlan "C:/Games/game.exe") :=
    List.mem_cons_self
  exact absurd (readsBack_iff.mp (h _ hmem)) (by decide)

end NetworkLantern.Tuning
