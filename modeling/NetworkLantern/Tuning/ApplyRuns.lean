import NetworkLantern.Tuning.Execute
import NetworkLantern.Tuning.PlainEnv

/-!
# What an Apply does

The mutations of an Apply are what its plan announces, but for the policies it
takes away (`applyMutations_announced`).  When they all pass, the machine is the one before
with what the plan asks for (`applyMutations_ok`).
-/

namespace NetworkLantern.Tuning

open NetworkLantern Act

/-! ## Policies -/

/-- What a reconciliation logs. -/
def ReconcileChange (names restoreNames : List Str) : Mutation → Prop
  | .policyDeleted name => managedQosName name restoreNames = true
  | .policyCreated name => name ∈ names
  | _ => False

section
variable {P : Mutation → Prop}

theorem createQos_effect {policy : QosPolicySpec} (hP : P (.policyCreated policy.name)) :
    Keeps (Effect [.qos] P) (createQos policy) := by
  intro w
  rcases h : createQos policy w with ⟨r, w'⟩
  cases r with
  | error e =>
    rw [createQos_eq] at h
    rw [change_error h]
    exact Effect.advance w
  | ok u =>
    obtain ⟨-, -, qos, -, rfl⟩ := createQos_ok.mp h
    exact setQos_effect w qos hP

theorem delete_effect {row : Row}
    (hP : ∀ name, row.string "Name" = some name → P (.policyDeleted name)) :
    Keeps (Effect [.qos] P) (Session.delete row) := by
  intro w
  rcases h : Session.delete row w with ⟨r, w'⟩
  cases r with
  | error e =>
    rcases delete_error h with rfl | rfl
    · exact Effect.refl _
    · exact Effect.advance w
  | ok u =>
    obtain ⟨-, name, hname, -, -, rfl⟩ := delete_ok.mp h
    exact setQos_effect w _ (hP name hname)

end

theorem delete_change {names restoreNames : List Str} {row : Row}
    (h : cleanupRow restoreNames row = true) :
    Keeps (Effect [.qos] (ReconcileChange names restoreNames)) (Session.delete row) := by
  refine delete_effect fun name hname => ?_
  unfold cleanupRow at h
  rw [hname] at h
  exact h

theorem createAll_change {names restoreNames : List Str} {policies : List QosPolicySpec}
    (h : ∀ policy ∈ policies, policy.name ∈ names) :
    Keeps (Effect [.qos] (ReconcileChange names restoreNames)) (Act.forEach policies createQos) :=
  Effect.forEach _ fun policy hp => createQos_effect (h policy hp)

theorem mutatePolicies_change {names restoreNames : List Str} {rows : List Row}
    {desired : List QosPolicySpec} (hrows : ∀ row ∈ rows, cleanupRow restoreNames row = true)
    (hnames : ∀ policy ∈ desired, policy.name ∈ names) :
    Keeps (Effect [.qos] (ReconcileChange names restoreNames)) (mutatePolicies rows desired) :=
  Effect.bind (Effect.forEach _ fun row hr => delete_change (hrows row hr))
    fun _ => createAll_change hnames

/-- The rows a reconciliation takes have managed names. -/
theorem managedRows {restoreNames : List Str} {rows : List Row}
    {managed : List (Row × QosPolicySpec)} (h : parseRows restoreNames rows = .ok managed) :
    ∀ row ∈ managed.map Prod.fst, cleanupRow restoreNames row = true := by
  intro row hm
  obtain ⟨entry, he, rfl⟩ := List.mem_map.mp hm
  exact cleanupRow_of_parse (parseRows_entry h entry he).2

/-- A reconciliation deletes managed policies and creates desired ones, or the current ones again. -/
theorem reconcileQos_change (current desired : List QosPolicySpec) (restoreNames : List Str) :
    Keeps (Effect [.qos] (ReconcileChange (qosNames (desired ++ current)) restoreNames))
      (reconcileQos current desired restoreNames) := by
  have hdesired : ∀ policy ∈ desired, policy.name ∈ qosNames (desired ++ current) :=
    fun policy hp => List.mem_map_of_mem (List.mem_append_left _ hp)
  have hcurrent : ∀ policy ∈ current, policy.name ∈ qosNames (desired ++ current) :=
    fun policy hp => List.mem_map_of_mem (List.mem_append_right _ hp)
  refine Effect.bind (Reads.keeps (query_reads _ _ _)) fun rows => ?_
  refine Effect.bindOk (Effect.lift _) fun w managed w' hparse => ?_
  have hmanaged := managedRows (congrArg Prod.fst hparse)
  refine Effect.bind (Keeps.attempt (mutatePolicies_change hmanaged hdesired)) fun outcome => ?_
  cases outcome with
  | ok u => exact Effect.pure _
  | error e =>
    refine Effect.bind (discard_keeps (Effect.bind (Reads.keeps (query_reads _ _ _)) fun rows =>
      Effect.forEach _ fun row hr => discard_keeps (delete_change (List.mem_filter.mp hr).2)))
      fun _ => ?_
    refine Effect.bind (Keeps.attempt (createAll_change hcurrent)) fun outcome => ?_
    cases outcome <;> exact Effect.fail _

/-- A passed one creates desired policies only. -/
theorem reconcileQos_passed {current desired : List QosPolicySpec} {restoreNames : List Str}
    {w w' : World} (h : reconcileQos current desired restoreNames w = (.ok (), w')) :
    Effect [.qos] (ReconcileChange (qosNames desired) restoreNames) w w' := by
  obtain ⟨rows, w1, hquery, h⟩ := bind_ok.mp h
  obtain ⟨managed, w2, hlift, hrun⟩ := bind_ok.mp h
  obtain ⟨hparse, hw⟩ := lift_ok.mp hlift
  obtain ⟨outcome, w3, hout, h⟩ := bind_ok.mp hrun
  cases outcome with
  | error error =>
    -- the failed branch never ends well
    obtain ⟨_, w4, -, h⟩ := bind_ok.mp h
    obtain ⟨rollback, w5, -, h⟩ := bind_ok.mp h
    cases rollback <;> cases h
  | ok u =>
    cases h
    rw [hw] at hout
    have hnames : ∀ policy ∈ desired, policy.name ∈ qosNames desired :=
      fun policy hp => List.mem_map_of_mem hp
    have hmutate := mutatePolicies_change (managedRows hparse) hnames
    exact Effect.trans _ _ _ ((query_reads _ _ _).run hquery).effect
      (hmutate.run (attempt_ok.mp hout))

/-! ## What the mutations may change -/

variable {env : Env}

/-- What the mutations of an Apply log, when they create policies of the given names. -/
def ApplyChange (plan : TuningPlan) (created : List Str) (bundle : BackupBundle env) :
    Mutation → Prop
  | .registry key name => bundle.manifest.components.tcpipQos = true ∧
      key = tcpipQosKey ∧ name = doNotUseNla
  | .policyDeleted name => managedQosName name [] = true
  | .policyCreated name => name ∈ created
  | .nicProperty adapter keyword => plan.config.profile = .measured ∧
      ∃ bytes rows a k, adapter = some a ∧ keyword = some k ∧ k ∈ powerSavingKeywords ∧
        bundle.artifact .nicAdvanced = some bytes ∧ parseNicCsv env.csv bytes = .ok rows ∧
        (a, k) ∈ backedUpKeywords rows
  | .powerPlan => plan.config.powerPlan = .highPerformance ∨ plan.config.profile = .measured
  | .rsc _ => False
  | .folderRemoved _ _ => False

theorem ReconcileChange.apply {plan : TuningPlan} {created : List Str} {bundle : BackupBundle env}
    (m : Mutation) (h : ReconcileChange created [] m) : ApplyChange plan created bundle m := by
  cases m with
  | policyDeleted name => exact h
  | policyCreated name => exact h
  | _ => exact h.elim

/-- The parts that an Apply changes. -/
def applyParts : List Part := [.registry, .qos, .nic, .power]

theorem enableLocalQos_effect (plan : TuningPlan) (created : List Str)
    (bundle : BackupBundle env) (result : TuningResult) :
    Keeps (Effect [.registry] (ApplyChange plan created bundle))
      (enableLocalQos env bundle result) := by
  unfold enableLocalQos
  split
  · rename_i henabled
    exact Effect.bind (setRegistry_effect ⟨henabled, rfl, rfl⟩) fun _ => Effect.pure _
  · exact Effect.pure _

theorem disableNicRows_effect {P : Mutation → Prop} {adapters : List Str}
    {backedUp : List (Str × Str)}
    (hP : ∀ a k, k ∈ powerSavingKeywords → (a, k) ∈ backedUp → P (.nicProperty (some a) (some k)))
    (rows : List Row) (skipped : Nat) :
    Keeps (Effect [.nic] P) (disableNicRows adapters backedUp rows skipped) := by
  induction rows generalizing skipped with
  | nil => exact Effect.pure _
  | cons row rows ih =>
    unfold disableNicRows
    split
    · rename_i name keyword hname hkeyword
      split
      · exact ih _
      · rename_i hwanted
        split
        · exact ih _
        · rename_i hbacked
          simp only [Bool.or_eq_true, Bool.not_eq_true', not_or, Bool.not_eq_false,
            List.contains_iff_mem] at hwanted hbacked
          refine Effect.bind (update_effect ?_) fun _ => ih _
          rw [hname, hkeyword]
          exact hP name keyword hwanted.2 hbacked
    · exact ih _

theorem applyNic_effect (plan : TuningPlan) (created : List Str)
    (bundle : BackupBundle env) (result : TuningResult) :
    Keeps (Effect [.nic] (ApplyChange plan created bundle)) (applyNic env plan bundle result) := by
  unfold applyNic
  split
  · rename_i hmeasured
    refine Effect.bind ?_ fun _ => Effect.pure _
    unfold disableNicPowerSaving
    cases hbytes : bundle.artifact .nicAdvanced with
    | none => exact Effect.pure _
    | some bytes =>
      refine Effect.bindOk (Effect.lift _) fun w rows w' hparse => ?_
      have hrows : parseNicCsv env.csv bytes = .ok rows := congrArg Prod.fst hparse
      refine Effect.bind (Reads.keeps physicalUpAdapters_reads) fun adapters => ?_
      refine Effect.bind (Reads.keeps (query_reads _ _ _)) fun properties => ?_
      refine Effect.bind (disableNicRows_effect (fun a k hk hb => ?_) properties 0) fun skipped => ?_
      · exact ⟨hmeasured, bytes, rows, a, k, rfl, rfl, hk, hbytes, hrows, hb⟩
      · exact Effect.pure _
  · exact Effect.pure _

theorem applyPower_effect (plan : TuningPlan) (created : List Str)
    (bundle : BackupBundle env) (result : TuningResult) :
    Keeps (Effect [.power] (ApplyChange plan created bundle)) (applyPower env plan result) := by
  unfold applyPower
  split
  · rename_i hpower
    exact Effect.bind (setPowerPlan_effect _ _ hpower) fun _ => Effect.pure _
  · exact Effect.pure _

/-- A step of an Apply among all of them. -/
theorem Effect.apply {parts : List Part} {P : Mutation → Prop} {w w' : World}
    (h : Effect parts P w w') (hparts : parts ⊆ applyParts) : Effect applyParts P w w' :=
  h.mono hparts fun _ hm => hm

/-- A run of the mutations: only a failed one can create a policy that the plan does not ask for,
and then one of those it found. -/
theorem applyMutations_effect {plan : TuningPlan} {currentQos : List QosPolicySpec}
    {bundle : BackupBundle env} {result : TuningResult} {w w' : World}
    {r : Except TuningError TuningResult}
    (h : applyMutations env plan currentQos bundle result w = (r, w')) :
    Effect applyParts (ApplyChange plan (qosNames (desiredQos plan)) bundle) w w' ∨
      (∃ e, r = .error e) ∧
        Effect applyParts (ApplyChange plan (qosNames (desiredQos plan ++ currentQos)) bundle) w w' := by
  have hlocal := fun created => (enableLocalQos_effect plan created bundle result w).apply (by decide)
  unfold applyMutations at h
  rcases h1 : enableLocalQos env bundle result w with ⟨r1, w1⟩
  rw [h1] at hlocal
  cases r1 with
  | error e =>
    rw [bind_of_error h1] at h
    cases h
    exact Or.inl (hlocal _)
  | ok result1 =>
    rw [bind_of_ok h1] at h
    rcases h2 : reconcileQos currentQos (desiredQos plan) [] w1 with ⟨r2, w2⟩
    cases r2 with
    | error e =>
      rw [bind_of_error h2] at h
      cases h
      have heffect := (reconcileQos_change currentQos (desiredQos plan) []).run h2
      exact Or.inr ⟨⟨e, rfl⟩, Effect.trans _ _ _ (hlocal _)
        (heffect.mono (by decide) ReconcileChange.apply)⟩
    | ok u =>
      rw [bind_of_ok h2] at h
      have heffect : Effect applyParts (ApplyChange plan (qosNames (desiredQos plan)) bundle) w1 w2 :=
        (reconcileQos_passed h2).mono (by decide) ReconcileChange.apply
      refine Or.inl (Effect.trans _ _ _ (hlocal _) (Effect.trans _ _ _ heffect (Keeps.run ?_ h)))
      exact Effect.bind (Effect.widen (applyNic_effect plan _ bundle _) (by decide) fun _ h => h)
        fun result => Effect.widen (applyPower_effect plan _ bundle result) (by decide) fun _ h => h

/-! ## Announced changes -/

/-- The changes that a step of a plan announces. -/
def Announces (plan : TuningPlan) : TuningStep → Mutation → Prop
  | .enableLocalQos, .registry key name => key = tcpipQosKey ∧ name = doNotUseNla
  | .reconcilePortPolicies count dscp, .policyCreated name =>
    count = plan.config.udpPorts.length ∧
      ∃ port ∈ plan.config.udpPorts, name = (portPolicy dscp port).name
  | .reconcileAppPolicies count dscp, .policyCreated name =>
    ∃ index path, index < count ∧ plan.config.appPaths[index]? = some path ∧
      name = (appPolicy dscp index path).name
  | .disableNicPowerSaving, .nicProperty (some _) (some keyword) => keyword ∈ powerSavingKeywords
  | .setPowerPlan power, .powerPlan => power = .highPerformance
  | _, _ => False

/-- The steps that reconcile policies announce every desired policy. -/
theorem created_announced {plan : TuningPlan} {name : Str} (h : name ∈ qosNames (desiredQos plan)) :
    ∃ step ∈ applySteps plan.config, Announces plan step (.policyCreated name) := by
  obtain ⟨policy, hp, rfl⟩ := List.mem_map.mp h
  unfold desiredQos at hp
  rcases List.mem_append.mp hp with hp | hp
  · obtain ⟨port, hport, rfl⟩ := List.mem_map.mp hp
    refine ⟨.reconcilePortPolicies plan.config.udpPorts.length plan.config.dscp, ?_, rfl, port, hport,
      rfl⟩
    have hne : plan.config.udpPorts.isEmpty = false := List.isEmpty_eq_false_iff.mpr (List.ne_nil_of_mem hport)
    simp [applySteps, hne]
  · split at hp
    · next hinclude =>
      obtain ⟨index, hlt, rfl⟩ := List.mem_mapIdx.mp hp
      refine ⟨.reconcileAppPolicies plan.config.appPaths.length plan.config.dscp, ?_, index,
        plan.config.appPaths[index], hlt, List.getElem?_eq_getElem hlt, rfl⟩
      have hne : plan.config.appPaths.isEmpty = false :=
        List.isEmpty_eq_false_iff.mpr (List.ne_nil_of_length_pos (by omega))
      simp [applySteps, hne, hinclude]
    · cases hp

/-- Every change but a deletion is announced. -/
theorem change_announced {plan : TuningPlan} {bundle : BackupBundle env} {m : Mutation}
    (h : ApplyChange plan (qosNames (desiredQos plan)) bundle m) :
    (∃ step ∈ applySteps plan.config, Announces plan step m) ∨
      ∃ name, m = .policyDeleted name ∧ managedQosName name [] = true := by
  cases m with
  | registry key name => exact Or.inl ⟨.enableLocalQos, by simp [applySteps], h.2⟩
  | policyDeleted name => exact Or.inr ⟨name, rfl, h⟩
  | policyCreated name => exact Or.inl (created_announced h)
  | nicProperty adapter keyword =>
    obtain ⟨hmeasured, _, _, a, k, rfl, rfl, hk, -⟩ := h
    exact Or.inl ⟨.disableNicPowerSaving, by simp [applySteps, hmeasured], hk⟩
  | powerPlan =>
    refine Or.inl ⟨.setPowerPlan .highPerformance, ?_, rfl⟩
    have hpower : effectivePower plan.config = .highPerformance := by
      unfold effectivePower
      rcases h with h | h
      · simp [h]
      · cases hp : plan.config.powerPlan <;> simp [h]
    simp [applySteps, hpower]
  | rsc adapter => exact h.elim
  | folderRemoved path folders => exact h.elim

/-- **Announced.**  Whatever fails, the changes of an Apply are those that its steps announce and
deletions of managed policies; a failed one may also have created policies again that it found. -/
theorem applyMutations_announced {config : TuningConfig} {p : TuningPlan} (h : plan config = .ok p)
    (ha : config.action = .apply) (currentQos : List QosPolicySpec) (bundle : BackupBundle env)
    (result : TuningResult) (w : World) :
    ∃ new, (applyMutations env p currentQos bundle result w).2.log = new ++ w.log ∧
      ∀ m ∈ new, (∃ step ∈ p.steps, Announces p step m) ∨
        (∃ name, m = .policyDeleted name ∧ managedQosName name [] = true) ∨
        (∃ e, (applyMutations env p currentQos bundle result w).1 = .error e) ∧
          ∃ name ∈ qosNames currentQos, m = .policyCreated name := by
  obtain ⟨-, hc, hsteps⟩ := plan_ok h
  have hsteps : p.steps = applySteps p.config := by
    have haction : (normalizeConfig config).action = .apply := ha
    rw [hsteps, hc]
    unfold planSteps
    rw [haction]
  rw [hsteps]
  rcases hrun : applyMutations env p currentQos bundle result w with ⟨r, w'⟩
  rcases applyMutations_effect hrun with heffect | ⟨herror, heffect⟩
  · obtain ⟨new, hnew, hall⟩ := heffect.logged
    refine ⟨new, hnew, fun m hm => ?_⟩
    rcases change_announced (hall m hm) with hm | hm
    · exact Or.inl hm
    · exact Or.inr (Or.inl hm)
  · obtain ⟨new, hnew, hall⟩ := heffect.logged
    refine ⟨new, hnew, fun m hm => ?_⟩
    have hchange := hall m hm
    by_cases hagain : ∃ name ∈ qosNames currentQos, m = .policyCreated name
    · exact Or.inr (Or.inr ⟨herror, hagain⟩)
    · have hasked : ApplyChange p (qosNames (desiredQos p)) bundle m := by
        cases m with
        | policyCreated name =>
          change name ∈ qosNames (desiredQos p ++ currentQos) at hchange
          unfold qosNames at hchange
          rw [List.map_append, List.mem_append] at hchange
          exact hchange.resolve_right fun hc => hagain ⟨name, hc, rfl⟩
        | _ => exact hchange
      rcases change_announced hasked with hm | hm
      · exact Or.inl hm
      · exact Or.inr (Or.inl hm)

/-- An Apply with one port. -/
def portsConfig : TuningConfig :=
  { TuningConfig.default with udpPorts := [5004], backupFolder := some r"C:\Backup" }

def portsPlan : TuningPlan where
  config := portsConfig
  steps := applySteps portsConfig
  mutating := true
  requiresHelper := true

theorem plan_ports : plan portsConfig = .ok portsPlan := by decide

/-- The digests of the files of a backup of a machine without policies and adapters. -/
def bareDigests : List (Nat × Str) :=
  [(384, "FA93CF0F128ADD7E7C83FA4FFE235D2B00105127E26CAC2CCF3412D5E17508B7"),
    (142, "6C1962B75A3960BCB78B8210270DDCF9AA2C8AACB8BDC6772039A069ED595A6F"),
    (126, "CCA49EE8C1DE58D48B724C016459FC31F229F2FA7F253E97957E5CC4A4F1D7A3"),
    (24, "B72F007A6FE892370CC39D7CA3D264A6B3E8536FC70CF0098C5A4842D82FFC39"),
    (36, "BD01CF903B0C2CCC2CCAA2BBC9AD819E6C46CA607BBE6CF3359168715EFD51A0")]

def powerManifest : BackupManifest where
  schemaVersion := 3
  toolName := "network-lantern"
  timestamp := none
  components := ⟨false, false, false, false, false, false, true⟩
  artifactDigests := [("powerplan.txt", "BD01CF903B0C2CCC2CCAA2BBC9AD819E6C46CA607BBE6CF3359168715EFD51A0")]

def powerArtifacts : Artifacts
  | .powerPlan => some bareMachine.power.format.bytes
  | _ => none

theorem powerArtifacts_authorized : ∀ kind ∈ powerManifest.expectedArtifacts, ∃ bytes,
    powerArtifacts kind = some bytes ∧ authorizeArtifact (plainEnv bareDigests) kind bytes = .ok () := by
  intro kind hk
  have hkind : kind = .powerPlan := List.mem_singleton.mp hk
  subst hkind
  exact ⟨_, rfl, by decide +kernel⟩

/-- A bundle that holds the power plan only, with a manifest that is accepted. -/
def powerBundle : BackupBundle (plainEnv bareDigests) where
  folder := .configured r"C:\Backup"
  manifest := powerManifest
  artifacts := powerArtifacts
  authorized := powerArtifacts_authorized

theorem powerManifest_accepted : checkManifest powerManifest = .ok () := by decide +kernel

theorem applyMutations_announced_ports :
    let run := applyMutations (plainEnv bareDigests) portsPlan [] powerBundle
      (TuningResult.empty portsConfig) (bareWorld [])
    checkManifest powerBundle.manifest = .ok () ∧
    ∃ new, run.2.log = new ++ (bareWorld []).log ∧
      ∀ m ∈ new, (∃ step ∈ portsPlan.steps, Announces portsPlan step m) ∨
        (∃ name, m = .policyDeleted name ∧ managedQosName name [] = true) ∨
        (∃ e, run.1 = .error e) ∧ ∃ name ∈ qosNames [], m = .policyCreated name :=
  ⟨powerManifest_accepted, applyMutations_announced plan_ports rfl [] powerBundle
    (TuningResult.empty portsConfig) (bareWorld [])⟩

/-! ## What passed mutations leave -/

/-- The value of a text property of an instance. -/
def textField (f : Fields) (name : String) : Option Str :=
  match f name with
  | some (.string value) => some value
  | _ => none

/-- A property that an Apply sets: of an adapter that is up, and in the backup. -/
def savesPower (adapters : List Str) (backedUp : List (Str × Str)) (f : Fields) : Bool :=
  match textField f "Name", textField f "RegistryKeyword" with
  | some name, some keyword => adapters.contains name && powerSavingKeywords.contains keyword &&
      backedUp.contains (name, keyword)
  | _, _ => false

def savedRow (adapters : List Str) (backedUp : List (Str × Str)) (f : Fields) : Fields :=
  if savesPower adapters backedUp f then f.put "RegistryValue" (.strings ["0"]) else f

theorem savedRow_of_not {adapters : List Str} {backedUp : List (Str × Str)} {f : Fields}
    (h : savesPower adapters backedUp f = false) : savedRow adapters backedUp f = f := by
  rw [savedRow, h]
  rfl

def powerFields : List String := ["__PATH", "Name", "RegistryKeyword", "RegistryValue"]

theorem row_string {fields : List String} {name : String} (h : name ∈ fields) (object : Nat)
    (f : Fields) : Row.string ⟨object, f.select fields⟩ name = textField f name := by
  have hfield : f.select fields name = f name := Fields.select_of_mem h f
  exact congrArg (fun value : Option Value =>
    match value with
    | some (.string text) => some text
    | _ => none) hfield

theorem applyWrite_append (pre post : List Fields) (f : Fields) (field : String) (value : Value) :
    applyWrite (pre ++ f :: post) ⟨pre.length, field, value⟩ = pre ++ f.put field value :: post := by
  induction pre with
  | nil => rfl
  | cons g pre ih =>
    show g :: applyWrite (pre ++ f :: post) ⟨pre.length, field, value⟩ = _
    rw [ih]
    rfl

/-- The rows that are left; those before them have been done. -/
theorem disableNicRows_ok {adapters : List Str} {backedUp : List (Str × Str)} {post pre : List Fields}
    {skipped n : Nat} {w w' : World} (hnic : w.machine.nic = pre ++ post)
    (h : disableNicRows adapters backedUp
      ((post.zipIdx pre.length).map fun entry => ⟨entry.2, entry.1.select powerFields⟩) skipped w =
        (.ok n, w')) :
    w'.machine.nic = pre ++ post.map (savedRow adapters backedUp) := by
  induction post generalizing pre skipped w with
  | nil =>
    cases h
    simpa using hnic
  | cons f post ih =>
    have hname : Row.string ⟨pre.length, f.select powerFields⟩ "Name" = textField f "Name" :=
      row_string (by decide) pre.length f
    have hkeyword : Row.string ⟨pre.length, f.select powerFields⟩ "RegistryKeyword" =
        textField f "RegistryKeyword" :=
      row_string (by decide) pre.length f
    -- the loop goes on behind `f`, as it is or as it was written
    have hnext : ∀ g (v : World), v.machine.nic = pre ++ g :: post → ∀ skipped,
        disableNicRows adapters backedUp
          ((post.zipIdx (pre.length + 1)).map fun entry => ⟨entry.2, entry.1.select powerFields⟩)
          skipped v = (.ok n, w') →
        w'.machine.nic = pre ++ g :: post.map (savedRow adapters backedUp) := by
      intro g v hv skipped hrun
      have hlen : (pre ++ [g]).length = pre.length + 1 := by simp
      rw [← hlen] at hrun
      have := ih (by rw [hv]; simp) hrun
      simpa using this
    rw [List.zipIdx_cons, List.map_cons] at h
    rw [List.map_cons]
    unfold disableNicRows at h
    simp only [hname, hkeyword] at h
    have hsaves : savesPower adapters backedUp f = match textField f "Name", textField f "RegistryKeyword" with
        | some name, some keyword => adapters.contains name && powerSavingKeywords.contains keyword &&
            backedUp.contains (name, keyword)
        | _, _ => false := rfl
    cases hn : textField f "Name" with
    | none =>
      simp only [hn] at h hsaves
      rw [savedRow_of_not hsaves]
      exact hnext f w hnic _ h
    | some name =>
      cases hk : textField f "RegistryKeyword" with
      | none =>
        simp only [hn, hk] at h hsaves
        rw [savedRow_of_not hsaves]
        exact hnext f w hnic _ h
      | some keyword =>
        simp only [hn, hk] at h hsaves
        by_cases hadapter : adapters.contains name = true
        · by_cases hpower : powerSavingKeywords.contains keyword = true
          · by_cases hbacked : backedUp.contains (name, keyword) = true
            · rw [hadapter, hpower, hbacked] at h hsaves
              obtain ⟨_, w1, hupdate, h⟩ := bind_ok.mp h
              have hwritten := update_ok hupdate
              rw [hnic, applyWrite_append] at hwritten
              rw [savedRow, hsaves]
              exact hnext _ w1 hwritten _ h
            · rw [Bool.not_eq_true] at hbacked
              rw [hadapter, hpower, hbacked] at h hsaves
              rw [savedRow_of_not hsaves]
              exact hnext f w hnic _ h
          · rw [Bool.not_eq_true] at hpower
            rw [hadapter, hpower] at h hsaves
            rw [savedRow_of_not hsaves]
            exact hnext f w hnic _ h
        · rw [Bool.not_eq_true] at hadapter
          rw [hadapter] at h hsaves
          rw [savedRow_of_not hsaves]
          exact hnext f w hnic _ h

/-- The adapters that are up, as a passed query reads them. -/
def upNames (machine : Machine) : List Str :=
  match upAdapters machine with
  | .ok names => names
  | .error _ => []

/-- The NIC properties that a bundle restores. -/
def savedKeywords (bundle : BackupBundle env) : List (Str × Str) :=
  match bundle.artifact .nicAdvanced with
  | none => []
  | some bytes =>
    match parseNicCsv env.csv bytes with
    | .ok rows => backedUpKeywords rows
    | .error _ => []

/-- A plan that selects the high-performance scheme. -/
def SelectsPower (plan : TuningPlan) : Prop :=
  plan.config.powerPlan = .highPerformance ∨ plan.config.profile = .measured

instance : DecidablePred SelectsPower := fun _ => inferInstanceAs (Decidable (_ ∨ _))

/-- The machine after all mutations of a plan. -/
structure Applied (plan : TuningPlan) (bundle : BackupBundle env) (m m' : Machine) : Prop where
  registry : ∀ key name, m'.registry key name =
    if bundle.manifest.components.tcpipQos = true ∧ key = tcpipQosKey ∧ name = doNotUseNla then
      some (encodeString "1") else m.registry key name
  qos : m'.qos.rows =
    m.qos.rows.filter (fun f => !isManaged [] f) ++ (desiredQos plan).map createdPolicy
  nic : m'.nic = if plan.config.profile = .measured then
    m.nic.map (savedRow (upNames m) (savedKeywords bundle)) else m.nic
  power : if SelectsPower plan then env.parseUuid highPerformance = some m'.power
    else m'.power = m.power
  rsc : m'.rsc = m.rsc
  adapters : m'.adapters = m.adapters

theorem enableLocalQos_ok {bundle : BackupBundle env} {result result' : TuningResult} {w w' : World}
    (h : enableLocalQos env bundle result w = (.ok result', w')) (key name : Str) :
    w'.machine.registry key name =
      if bundle.manifest.components.tcpipQos = true ∧ key = tcpipQosKey ∧ name = doNotUseNla then
        some (encodeString "1") else w.machine.registry key name := by
  unfold enableLocalQos at h
  by_cases htcpip : bundle.manifest.components.tcpipQos = true
  · rw [if_pos htcpip] at h
    obtain ⟨_, w1, hset, h⟩ := bind_ok.mp h
    cases h
    rw [setRegistry_ok hset]
    simp only [htcpip, true_and]
    rfl
  · rw [if_neg htcpip] at h
    cases h
    rw [if_neg fun hand => htcpip hand.1]

theorem disableNicPowerSaving_ok {bundle : BackupBundle env} {w w' : World}
    {outcome : ComponentStatus × List Str}
    (h : disableNicPowerSaving env bundle w = (.ok outcome, w')) :
    w'.machine.nic = w.machine.nic.map (savedRow (upNames w.machine) (savedKeywords bundle)) := by
  unfold disableNicPowerSaving at h
  unfold savedKeywords
  cases hbytes : bundle.artifact .nicAdvanced with
  | none =>
    simp only [hbytes] at h
    cases h
    refine (List.map_id _).symm.trans (List.map_congr_left fun f _ => (savedRow_of_not ?_).symm)
    unfold savesPower
    split <;> simp
  | some bytes =>
    simp only [hbytes] at h
    obtain ⟨rows, w0, hlift, h1⟩ := bind_ok.mp h
    obtain ⟨hparse, hw0⟩ := lift_ok.mp hlift
    obtain ⟨adapters, w2, hup, h2⟩ := bind_ok.mp h1
    rw [hw0] at hup
    obtain ⟨properties, w3, hquery, h3⟩ := bind_ok.mp h2
    obtain ⟨-, hw3, hrows⟩ := query_ok hquery
    obtain ⟨skipped, w4, hrun, h4⟩ := bind_ok.mp h3
    have hw4 : w4 = w' := (Prod.mk.inj h4).2
    have hmachine : w2.machine = w.machine := (physicalUpAdapters_reads.run hup).machine
    have hnames : upNames w.machine = adapters := by
      rw [upNames, physicalUpAdapters_ok hup]
    rw [hrows, hmachine, Session.rows, List.filter_true, List.mapIdx_eq_zipIdx_map, List.map_map,
      hw3, hw4] at hrun
    have hnic : w2.advance.machine.nic = [] ++ w.machine.nic := by
      rw [World.advance_machine, hmachine, List.nil_append]
    simp only [hparse, hnames]
    exact disableNicRows_ok hnic hrun

theorem applyNic_ok {plan : TuningPlan} {bundle : BackupBundle env} {result result' : TuningResult}
    {w w' : World} (h : applyNic env plan bundle result w = (.ok result', w')) :
    (w'.machine.nic = if plan.config.profile = .measured then
      w.machine.nic.map (savedRow (upNames w.machine) (savedKeywords bundle)) else w.machine.nic) ∧
      result'.managedPolicies = result.managedPolicies := by
  unfold applyNic at h
  by_cases hmeasured : plan.config.profile = .measured
  · rw [if_pos hmeasured] at h
    obtain ⟨outcome, w1, hrun, h⟩ := bind_ok.mp h
    cases h
    rw [if_pos hmeasured]
    exact ⟨disableNicPowerSaving_ok hrun, rfl⟩
  · rw [if_neg hmeasured] at h
    cases h
    rw [if_neg hmeasured]
    exact ⟨rfl, rfl⟩

theorem trim_highPerformance : Str.trimMatches guidPadding highPerformance = highPerformance := by
  decide

theorem applyPower_ok {plan : TuningPlan} {result result' : TuningResult} {w w' : World}
    (h : applyPower env plan result w = (.ok result', w')) :
    (if SelectsPower plan then env.parseUuid highPerformance = some w'.machine.power
      else w'.machine.power = w.machine.power) ∧
      result'.managedPolicies = result.managedPolicies := by
  unfold applyPower at h
  by_cases hpower : plan.config.powerPlan = .highPerformance ∨ plan.config.profile = .measured
  · rw [if_pos hpower] at h
    obtain ⟨_, w1, hset, h⟩ := bind_ok.mp h
    cases h
    rw [if_pos (show SelectsPower plan from hpower)]
    unfold setPowerPlan at hset
    rw [trim_highPerformance] at hset
    cases hguid : env.parseUuid highPerformance with
    | none => rw [hguid] at hset; cases hset
    | some guid =>
      rw [hguid] at hset
      obtain ⟨-, hset⟩ := change_ok.mp hset
      cases hset
      exact ⟨rfl, rfl⟩
  · rw [if_neg hpower] at h
    cases h
    rw [if_neg (show ¬ SelectsPower plan from hpower)]
    exact ⟨rfl, rfl⟩

/-- **Success.**  All mutations of the plan, and nothing else. -/
theorem applyMutations_ok {plan : TuningPlan} {currentQos : List QosPolicySpec}
    {bundle : BackupBundle env} {result result' : TuningResult} {w w' : World}
    (h : applyMutations env plan currentQos bundle result w = (.ok result', w')) :
    Applied plan bundle w.machine w'.machine ∧ w'.folders = w.folders ∧
      result'.managedPolicies = qosNames (desiredQos plan) := by
  have hframe : Effect applyParts (fun _ => True) w w' := by
    rcases applyMutations_effect h with heffect | ⟨⟨e, herror⟩, -⟩
    · exact heffect.mono (List.Subset.refl _) fun _ _ => trivial
    · cases herror
  obtain ⟨result1, w1, hlocal, h1⟩ := bind_ok.mp h
  obtain ⟨_, w2, hqos, h2⟩ := bind_ok.mp h1
  obtain ⟨result3, w3, hnic, hpower⟩ := bind_ok.mp h2
  -- each part is written by one of the four steps, and the others leave it alone
  have elocal := (enableLocalQos_effect plan [] bundle result).run hlocal
  have eqos := reconcileQos_passed hqos
  have enic := (applyNic_effect plan [] bundle _).run hnic
  have epower := (applyPower_effect plan [] bundle _).run hpower
  obtain ⟨hnicRows, hnames⟩ := applyNic_ok hnic
  obtain ⟨hscheme, hnames'⟩ := applyPower_ok hpower
  refine ⟨⟨fun key name => ?_, ?_, ?_, ?_, ?_, ?_⟩, ?_, ?_⟩
  · rw [epower.registry (by decide), enic.registry (by decide), eqos.registry (by decide)]
    exact enableLocalQos_ok hlocal key name
  · rw [epower.qos (by decide), enic.qos (by decide), reconcileQos_ok hqos, elocal.qos (by decide)]
  · have hup : w2.machine.adapters = w.machine.adapters := eqos.adapters.trans elocal.adapters
    have hnames : upNames w2.machine = upNames w.machine := by
      unfold upNames upAdapters
      rw [hup]
    rw [epower.nic (by decide), hnicRows, hnames, eqos.nic (by decide), elocal.nic (by decide)]
  · have hbefore : w3.machine.power = w.machine.power := by
      rw [enic.power (by decide), eqos.power (by decide), elocal.power (by decide)]
    rw [← hbefore]
    exact hscheme
  · exact hframe.rsc (by decide)
  · exact hframe.adapters
  · exact hframe.folders (by decide)
  · exact hnames'.trans hnames

end NetworkLantern.Tuning
