import NetworkLantern.Tuning.Backup
import NetworkLantern.Tuning.ReconcileRuns

/-!
# Restoring a backup

`restoreStaged` writes the artifacts of a staged bundle back, one kind after the
other.

    restoreStaged_effect   no folder is changed
    restoreStaged_ok       what each artifact leaves, part by part
-/

namespace NetworkLantern.Tuning

open NetworkLantern Act

/-! ## The code -/

/-- The caller's token may be cancelled at any time, a new one never is. -/
inductive CancellationToken
  | caller | new
deriving DecidableEq, Repr

def CancellationToken.check : CancellationToken → Run Unit
  | .caller => checkCancel
  | .new => return ()

def component : ArtifactKind → TuningComponent
  | .systemProfile | .afdParameters | .tcpipQos => .registry
  | .qosPolicies => .qosPolicies
  | .nicAdvanced => .nicAdvanced
  | .nicRsc => .rsc
  | .powerPlan => .powerPlan

variable {env : Env}

/-- Restores one artifact. -/
def restoreArtifact (staged : StagedBackup env) (kind : ArtifactKind) : Run Unit := do
  let bytes ← staged.read kind
  match kind with
  | .systemProfile =>
    let values ← Act.lift (parseRegistryBackup bytes true)
    restoreRegistry values
  | .afdParameters =>
    let values ← Act.lift (parseRegistryBackup bytes false)
    restoreRegistry values
  | .tcpipQos =>
    let values ← Act.lift (parseTcpipQosBackup bytes)
    restoreRegistry values
  | .qosPolicies =>
    let desired ← Act.lift (parseQosClixml env.xml bytes)
    let restoreNames := qosNames desired
    let current ← readQos restoreNames
    reconcileQos current desired restoreNames
  | .nicAdvanced =>
    let desired ← Act.lift (parseNicCsv env.csv bytes)
    restoreNic desired
  | .nicRsc =>
    let desired ← Act.lift (parseRscCsv env.csv bytes)
    restoreRsc desired
  | .powerPlan =>
    match Str.fromUtf8 bytes with
    | none => Act.fail (.backupInvalid "power plan is not UTF-8")
    | some value => setPowerPlan env (Str.trim value)

/-- The loop over the artifacts; the result records each component. -/
def restoreArtifacts (staged : StagedBackup env) (token : CancellationToken) :
    List ArtifactKind → TuningResult → Run TuningResult
  | [], result => return result
  | kind :: kinds, result => do
    token.check
    staged.verify
    restoreArtifact staged kind
    restoreArtifacts staged token kinds (result.insert (component kind) .ok)

def restoreStaged (staged : StagedBackup env) (token : CancellationToken) (result : TuningResult) :
    Run TuningResult := do
  staged.verify
  restoreArtifacts staged token staged.bundle.manifest.expectedArtifacts result

/-! ## Effects -/

theorem CancellationToken.check_reads (token : CancellationToken) : Keeps Reads token.check := by
  cases token with
  | caller => exact checkCancel_reads
  | new => exact Keeps.pure Reads.refl _

theorem readQos_reads (restoreNames : List Str) : Keeps Reads (readQos restoreNames) :=
  Keeps.bind Reads.trans (query_reads _ _ _) fun _ =>
    Keeps.bind Reads.trans (Keeps.lift Reads.refl _) fun _ => Keeps.pure Reads.refl _

theorem reconcileQos_effect (current desired : List QosPolicySpec) (restoreNames : List Str) :
    Keeps (Effect [.qos] (PolicyChange restoreNames)) (reconcileQos current desired restoreNames) :=
  (reconcileQos_keeps current desired restoreNames).mono fun _ _ h => h.effect

/-- The parts of the machine that an artifact is about. -/
def ArtifactKind.parts : ArtifactKind → List Part
  | .systemProfile | .afdParameters | .tcpipQos => [.registry]
  | .qosPolicies => [.qos]
  | .nicAdvanced => [.nic]
  | .nicRsc => [.rsc]
  | .powerPlan => [.power]

theorem restoreArtifact_effect (staged : StagedBackup env) (kind : ArtifactKind) :
    Keeps (Effect kind.parts fun _ => True) (restoreArtifact staged kind) := by
  refine Effect.bind (Reads.keeps (staged.read_reads kind)) fun bytes => ?_
  cases kind with
  | systemProfile => exact Effect.bind (Effect.lift _) fun values => restoreRegistry_effect _ (by simp)
  | afdParameters => exact Effect.bind (Effect.lift _) fun values => restoreRegistry_effect _ (by simp)
  | tcpipQos => exact Effect.bind (Effect.lift _) fun values => restoreRegistry_effect _ (by simp)
  | qosPolicies =>
    refine Effect.bind (Effect.lift _) fun desired => ?_
    refine Effect.bind (Reads.keeps (readQos_reads _)) fun current => ?_
    exact Effect.widen (reconcileQos_effect _ _ _) (List.Subset.refl _) fun _ _ => trivial
  | nicAdvanced => exact Effect.bind (Effect.lift _) fun desired => restoreNic_effect _ (by simp)
  | nicRsc => exact Effect.bind (Effect.lift _) fun desired => restoreRsc_effect _ (by simp)
  | powerPlan =>
    show Keeps _ (match Str.fromUtf8 bytes with | none => _ | some value => _)
    cases Str.fromUtf8 bytes with
    | none => exact Effect.fail _
    | some value => exact setPowerPlan_effect _ _ trivial

/-- The parts that a restore can change. -/
def restoreParts : List Part := [.registry, .qos, .nic, .rsc, .power]

theorem restoreArtifacts_effect (staged : StagedBackup env) (token : CancellationToken)
    (kinds : List ArtifactKind) (result : TuningResult) :
    Keeps (Effect restoreParts fun _ => True) (restoreArtifacts staged token kinds result) := by
  induction kinds generalizing result with
  | nil => exact Effect.pure _
  | cons kind kinds ih =>
    refine Effect.bind (Reads.keeps token.check_reads) fun _ => ?_
    refine Effect.bind (Reads.keeps staged.verify_reads) fun _ => ?_
    refine Effect.bind ?_ fun _ => ih _
    exact Effect.widen (restoreArtifact_effect staged kind) (by cases kind <;> decide) fun _ h => h

theorem restoreStaged_effect (staged : StagedBackup env) (token : CancellationToken)
    (result : TuningResult) :
    Keeps (Effect restoreParts fun _ => True) (restoreStaged staged token result) :=
  Effect.bind (Reads.keeps staged.verify_reads) fun _ => restoreArtifacts_effect staged token _ _

/-! ## What a restore leaves -/

/-- The registry after the values of a backup have been written. -/
def RegistryRestored (values : RegistryBackup) (m m' : Machine) : Prop :=
  m' = { m with registry := m'.registry } ∧
    Settles (fun key name value => values.Has (hklm ++ key) name value) m.registry m'.registry

/-- The machine after an artifact has been restored. -/
def ArtifactRestored (env : Env) (bytes : Bytes) (m m' : Machine) : ArtifactKind → Prop
  | .systemProfile => ∃ values, parseRegistryBackup bytes true = .ok values ∧ RegistryRestored values m m'
  | .afdParameters => ∃ values, parseRegistryBackup bytes false = .ok values ∧ RegistryRestored values m m'
  | .tcpipQos => ∃ values, parseTcpipQosBackup bytes = .ok values ∧ RegistryRestored values m m'
  | .qosPolicies => ∃ desired, parseQosClixml env.xml bytes = .ok desired ∧
      m' = { m with qos := m'.qos } ∧ m'.qos.rows =
        m.qos.rows.filter (fun f => !isManaged (qosNames desired) f) ++ desired.map createdPolicy
  | .nicAdvanced => ∃ desired, parseNicCsv env.csv bytes = .ok desired ∧
      m' = { m with nic := (nicWrites m.nic desired).foldl applyWrite m.nic }
  | .nicRsc => ∃ desired, parseRscCsv env.csv bytes = .ok desired ∧ m' = { m with rsc := m'.rsc }
  | .powerPlan => ∃ text guid, Str.fromUtf8 bytes = some text ∧
      env.parseUuid (Str.trimMatches guidPadding (Str.trim text)) = some guid ∧
      m' = { m with power := guid }

/-- A passed call under a frame. -/
theorem keeps_of_run {α : Type} {R : World → World → Prop} {x : Run α} {w w' : World}
    {r : Except TuningError α} (hx : Keeps R x) (h : x w = (r, w')) : R w w' := by
  have hw := hx w
  rw [h] at hw
  exact hw

theorem registryRestored_of_run {values : RegistryBackup} {w w' : World}
    (h : restoreRegistry values w = (.ok (), w')) : RegistryRestored values w.machine w'.machine := by
  have heffect := keeps_of_run (restoreRegistry_effect (P := fun _ => True) values (by simp)) h
  exact ⟨by simpa using heffect.machine_eq, restoreRegistry_ok h⟩

/-- A restored artifact. -/
theorem restoreArtifact_ok {staged : StagedBackup env} {kind : ArtifactKind} {w w' : World}
    (h : restoreArtifact staged kind w = (.ok (), w')) :
    ∃ bytes, staged.bundle.artifact kind = some bytes ∧
      ArtifactRestored env bytes w.machine w'.machine kind := by
  obtain ⟨bytes, w1, hread, h⟩ := bind_ok.mp h
  have hreads := keeps_of_run (staged.read_reads kind) hread
  refine ⟨bytes, StagedBackup.read_ok hread, ?_⟩
  rw [← hreads.machine]
  cases kind with
  | systemProfile =>
    obtain ⟨values, w2, hlift, hrun⟩ := bind_ok.mp h
    obtain ⟨hparse, rfl⟩ := lift_ok.mp hlift
    exact ⟨values, hparse, registryRestored_of_run hrun⟩
  | afdParameters =>
    obtain ⟨values, w2, hlift, hrun⟩ := bind_ok.mp h
    obtain ⟨hparse, rfl⟩ := lift_ok.mp hlift
    exact ⟨values, hparse, registryRestored_of_run hrun⟩
  | tcpipQos =>
    obtain ⟨values, w2, hlift, hrun⟩ := bind_ok.mp h
    obtain ⟨hparse, rfl⟩ := lift_ok.mp hlift
    exact ⟨values, hparse, registryRestored_of_run hrun⟩
  | qosPolicies =>
    obtain ⟨desired, w2, hlift, hrun⟩ := bind_ok.mp h
    obtain ⟨hparse, rfl⟩ := lift_ok.mp hlift
    obtain ⟨current, w3, hcurrent, hreconcile⟩ := bind_ok.mp hrun
    have hreads3 := keeps_of_run (readQos_reads _) hcurrent
    have heffect := keeps_of_run (reconcileQos_effect current desired (qosNames desired)) hreconcile
    have hrows := reconcileQos_ok hreconcile
    rw [hreads3.machine] at hrows
    refine ⟨desired, hparse, ?_, hrows⟩
    rw [← hreads3.machine]
    simpa using heffect.machine_eq
  | nicAdvanced =>
    obtain ⟨desired, w2, hlift, hrun⟩ := bind_ok.mp h
    obtain ⟨hparse, rfl⟩ := lift_ok.mp hlift
    have heffect := keeps_of_run (restoreNic_effect (P := fun _ => True) desired (by simp)) hrun
    refine ⟨desired, hparse, ?_⟩
    rw [← restoreNic_ok hrun]
    simpa using heffect.machine_eq
  | nicRsc =>
    obtain ⟨desired, w2, hlift, hrun⟩ := bind_ok.mp h
    obtain ⟨hparse, rfl⟩ := lift_ok.mp hlift
    have heffect := keeps_of_run (restoreRsc_effect (P := fun _ => True) desired (by simp)) hrun
    exact ⟨desired, hparse, by simpa using heffect.machine_eq⟩
  | powerPlan =>
    cases htext : Str.fromUtf8 bytes with
    | none => simp only [htext] at h; cases h
    | some text =>
      simp only [htext, setPowerPlan] at h
      cases hguid : env.parseUuid (Str.trimMatches guidPadding (Str.trim text)) with
      | none => simp only [hguid] at h; cases h
      | some guid =>
        simp only [hguid] at h
        obtain ⟨-, hset⟩ := change_ok.mp h
        cases hset
        exact ⟨text, guid, htext, hguid, rfl⟩

/-- One kind of a restore: what it leaves when it is enabled, nothing otherwise. -/
def KindRestored (env : Env) (bundle : BackupBundle env) (kind : ArtifactKind) (m m' : Machine) :
    Prop :=
  if bundle.manifest.components.enabled kind then
    ∃ bytes, bundle.artifacts kind = some bytes ∧ ArtifactRestored env bytes m m' kind
  else m' = m

/-- The kinds of a list, one after the other. -/
inductive KindsRestored (env : Env) (bundle : BackupBundle env) :
    List ArtifactKind → Machine → Machine → Prop
  | nil (m : Machine) : KindsRestored env bundle [] m m
  | cons {kind : ArtifactKind} {kinds : List ArtifactKind} {m m' m'' : Machine}
      (first : KindRestored env bundle kind m m') (rest : KindsRestored env bundle kinds m' m'') :
      KindsRestored env bundle (kind :: kinds) m m''

theorem restoreArtifacts_ok {staged : StagedBackup env} {token : CancellationToken}
    {kinds : List ArtifactKind} {result result' : TuningResult} {w w' : World}
    (h : restoreArtifacts staged token (kinds.filter staged.bundle.manifest.components.enabled)
      result w = (.ok result', w')) :
    KindsRestored env staged.bundle kinds w.machine w'.machine := by
  induction kinds generalizing result w with
  | nil => cases h; exact .nil _
  | cons kind kinds ih =>
    by_cases henabled : staged.bundle.manifest.components.enabled kind = true
    · rw [List.filter_cons_of_pos henabled] at h
      obtain ⟨_, w1, hcheck, h⟩ := bind_ok.mp h
      obtain ⟨_, w2, hverify, h⟩ := bind_ok.mp h
      obtain ⟨_, w3, hartifact, h⟩ := bind_ok.mp h
      have hmachine : w2.machine = w.machine :=
        (keeps_of_run staged.verify_reads hverify).machine.trans
          (keeps_of_run token.check_reads hcheck).machine
      obtain ⟨bytes, hbytes, hrestored⟩ := restoreArtifact_ok hartifact
      unfold BackupBundle.artifact at hbytes
      rw [if_pos henabled] at hbytes
      rw [hmachine] at hrestored
      refine .cons ?_ (ih h)
      unfold KindRestored
      rw [if_pos henabled]
      exact ⟨bytes, hbytes, hrestored⟩
    · rw [List.filter_cons_of_neg henabled] at h
      refine .cons ?_ (ih h)
      unfold KindRestored
      rw [if_neg henabled]

/-- **Restore.**  A passed restore has restored all kinds in their order. -/
theorem restoreStaged_ok {staged : StagedBackup env} {token : CancellationToken}
    {result result' : TuningResult} {w w' : World}
    (h : restoreStaged staged token result w = (.ok result', w')) :
    KindsRestored env staged.bundle ArtifactKind.all w.machine w'.machine := by
  obtain ⟨_, w1, hverify, h⟩ := bind_ok.mp h
  have hrestored := restoreArtifacts_ok h
  rwa [(keeps_of_run staged.verify_reads hverify).machine] at hrestored

end NetworkLantern.Tuning
