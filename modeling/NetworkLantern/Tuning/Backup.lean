import NetworkLantern.Tuning.PlainEnv
import NetworkLantern.Tuning.Publication

/-!
# Making a backup

`publishBackup` reads the settings, writes them to a staging directory with a
manifest, checks what it has written and publishes it.

    publishBackup_ok    a published folder is a checked snapshot of the machine
    publishBackup_run   nothing but folders is changed, and of the configured ones only its own
-/

namespace NetworkLantern.Tuning

open NetworkLantern Act

/-! ## The code -/

def stagingStem : Str := ".network-lantern-backup-"
def previousStem : Str := ".network-lantern-previous-"
def failedStem : Str := ".network-lantern-failed-"

/-- A folder to publish to: not one of the names that a publication makes for itself. -/
structure PublicationTarget where
  path : Path
  free : ∀ uuid, ∀ stem ∈ [stagingStem, previousStem, failedStem], path ≠ .generated stem uuid

def PublicationTarget.configured (path : Str) : PublicationTarget :=
  ⟨.configured path, fun _ _ _ h => by cases h⟩

/-- The directories of a publication with fresh names. -/
def publicationPaths (target : PublicationTarget) (staging previous failed : Nat) :
    PublicationPaths where
  staging := .generated stagingStem staging
  destination := target.path
  previous := .generated previousStem previous
  quarantine := .generated failedStem failed
  distinct := by
    have hfree := fun uuid stem h => target.free uuid stem h
    have h1 := hfree staging stagingStem (by decide)
    have h2 := hfree previous previousStem (by decide)
    have h3 := hfree failed failedStem (by decide)
    have h4 : ∀ a b, Path.generated stagingStem a ≠ .generated previousStem b := fun a b h =>
      absurd (Path.generated.inj h).1 (by decide)
    have h5 : ∀ a b, Path.generated stagingStem a ≠ .generated failedStem b := fun a b h =>
      absurd (Path.generated.inj h).1 (by decide)
    have h6 : ∀ a b, Path.generated previousStem a ≠ .generated failedStem b := fun a b h =>
      absurd (Path.generated.inj h).1 (by decide)
    simp only [List.nodup_cons, List.mem_cons, List.not_mem_nil, or_false, not_or]
    exact ⟨⟨h1.symm, h4 _ _, h5 _ _⟩, ⟨h2, h3⟩, h6 _ _, not_false, List.nodup_nil⟩

def emptyTree (identity : Nat) : Tree where
  identity := identity
  manifest := .error (.io "read backup manifest" "not found")
  artifacts _ := none

def createDirectory (path : Path) (identity : Nat) : Run Unit :=
  change (fileFailure "create backup staging") fun w =>
    match w.folders path with
    | some _ => .error (.io "create backup staging" "already exists")
    | none => .ok (w.setFolder path (some (emptyTree identity)))

/-- Writes to a directory that is there. -/
def writeTree (path : Path) (f : Tree → Tree) : Run Unit :=
  change (fileFailure "write backup artifact") fun w =>
    match w.folders path with
    | none => .error (.io "create backup artifact" "not found")
    | some tree => .ok (w.setFolder path (some (f tree)))

def Tree.putArtifact (tree : Tree) (kind : ArtifactKind) (bytes : Bytes) : Tree :=
  { tree with artifacts := fun k => if k = kind then some bytes else tree.artifacts k }

def Tree.putManifest (tree : Tree) (manifest : BackupManifest) : Tree :=
  { tree with manifest := .ok manifest }

/-- Files to write, by kind. -/
abbrev Artifacts := ArtifactKind → Option Bytes

def nonEmpty (bytes : Bytes) : Option Bytes := if bytes.isEmpty then none else some bytes

/-- "Do not use NLA" as a file; without one, a warning. -/
def tcpipExport : Run (Option Str × List Str) := do
  match ← Act.attempt (registryExport tcpipQosValues) with
  | .ok text => return (some text, [])
  | .error (.backupInvalid reason) => return (none, ["\"Do not use NLA\" was not backed up (".toList ++
      reason ++ "); Apply will not change it".toList])
  | .error error => Act.fail error

/-- The artifacts of the machine as it is, with the policies that have been read. -/
def collectArtifacts (env : Env) (qos : List QosPolicySpec) : Run (Artifacts × List Str) := do
  let systemProfile ← registryExport systemProfileValues
  let afd ← registryExport afdValues
  let tcpip ← tcpipExport
  let physicalUp ← physicalUpAdapters
  let nic ← nicCsv env.csv physicalUp
  let rsc ← rscCsv env.csv physicalUp
  let power ← activePowerPlan
  let artifacts : Artifacts
    | .systemProfile => some systemProfile.bytes
    | .afdParameters => some afd.bytes
    | .tcpipQos => tcpip.1.map Str.bytes
    | .qosPolicies => some (qosXml qos).bytes
    | .nicAdvanced => nonEmpty nic.1
    | .nicRsc => nonEmpty rsc.1
    | .powerPlan => some power.bytes
  return (artifacts, tcpip.2 ++ nic.2 ++ rsc.2)

def componentsOf (artifacts : Artifacts) : BackupManifestComponents where
  systemProfile := true
  afdParameters := true
  tcpipQos := (artifacts .tcpipQos).isSome
  qosPolicies := true
  nicAdvanced := (artifacts .nicAdvanced).isSome
  nicRsc := (artifacts .nicRsc).isSome
  powerPlan := true

def digestsOf (env : Env) (artifacts : Artifacts) : List (Str × Str) :=
  ArtifactKind.all.filterMap fun kind => (artifacts kind).map fun bytes => (kind.fileName, env.sha256 bytes)

def manifestOf (env : Env) (artifacts : Artifacts) (now : Nat) : BackupManifest where
  schemaVersion := 3
  toolName := "network-lantern"
  timestamp := some (env.timestamp now)
  components := componentsOf artifacts
  artifactDigests := digestsOf env artifacts

def writeArtifact (staging : Path) (artifacts : Artifacts) (kind : ArtifactKind) : Run Unit :=
  match artifacts kind with
  | none => return ()
  | some bytes => do
    checkCancel
    writeTree staging fun tree => tree.putArtifact kind bytes

/-- Fills the staging directory and checks it. -/
def writeBackup (env : Env) (staging : Path) (qos : List QosPolicySpec) :
    Run (BackupManifestComponents × List Str) := do
  let collected ← collectArtifacts env qos
  Act.forEach ArtifactKind.all (writeArtifact staging collected.1)
  let now ← freshNumber
  let manifest := manifestOf env collected.1 now
  writeTree staging fun tree => tree.putManifest manifest
  PublicationFs.syncParent
  let _ ← validateBackupBundle env staging
  return (manifest.components, collected.2)

/-- Removes the staging directory when `x` fails. -/
def guardStaging {α : Type} (staging : Path) (identity : Nat) (x : Run α) : Run α := do
  match ← Act.attempt x with
  | .ok a => return a
  | .error error => do
    discard (removeOwnedDirectory staging identity)
    Act.fail error

def publishBackup (env : Env) (target : PublicationTarget) (qos : List QosPolicySpec) :
    Run (BackupManifestComponents × List Str) := do
  checkCancel
  inspect (fileFailure "create backup parent") fun _ => .ok ()
  let uuid ← freshNumber
  let identity ← freshNumber
  let staging := Path.generated stagingStem uuid
  createDirectory staging identity
  let found ← directoryIdentity staging
  guardStaging staging found do
    inspect (fileFailure "protect backup staging") fun _ => .ok ()
    let written ← writeBackup env staging qos
    let previous ← freshNumber
    let failed ← freshNumber
    replaceVerified env (publicationPaths target uuid previous failed)
    return written

/-! ## What a backup contains -/

def ExportOf (machine : Machine) (groups : RegistryGroups) (bytes : Bytes) : Prop :=
  ∃ values, bytes = (renderRegistryExport values).bytes ∧ GroupValues machine groups values

def upAdapters (machine : Machine) : Except TuningError (List Str) :=
  (Session.rows machine.adapters ["Name", "HardwareInterface", "Status"] isPhysicalUp).mapM adapterName

def nicRowsOf (machine : Machine) (adapters : List Str) : List NicAdvancedRow :=
  ((Session.rows machine.nic nicFields fun _ => true).filter (ofAdapters adapters)).map nicAdvancedRow

def rscRowsOf (machine : Machine) (adapters : List Str) : List RscRow :=
  (((Session.rows machine.rsc ["Name", "IPv4Enabled", "IPv6Enabled"] fun _ => true).filter
    (ofAdapters adapters)).take maxRscRows).map rscRowOf

/-- The artifacts of a machine and of its policies. -/
structure Snapshot (env : Env) (machine : Machine) (qos : List QosPolicySpec)
    (artifacts : Artifacts) : Prop where
  systemProfile : ∃ bytes, artifacts .systemProfile = some bytes ∧
    ExportOf machine systemProfileValues bytes
  afd : ∃ bytes, artifacts .afdParameters = some bytes ∧ ExportOf machine afdValues bytes
  tcpip : ∀ bytes, artifacts .tcpipQos = some bytes → ExportOf machine tcpipQosValues bytes
  qos : artifacts .qosPolicies = some (qosXml qos).bytes
  adapters : ∃ adapters, upAdapters machine = .ok adapters ∧
    artifacts .nicAdvanced = nonEmpty (nicBytes env.csv (backedUpRows (nicRowsOf machine adapters))) ∧
    artifacts .nicRsc = nonEmpty (rscBytes env.csv (rscRowsOf machine adapters))
  power : artifacts .powerPlan = some machine.power.format.bytes

theorem export_ok {groups : RegistryGroups} {w w' : World} {text : Str}
    (h : registryExport groups w = (.ok text, w')) : ExportOf w.machine groups text.bytes := by
  obtain ⟨values, rfl, hvalues⟩ := registryExport_ok h
  exact ⟨values, rfl, hvalues⟩

theorem tcpipExport_reads : Keeps Reads tcpipExport := by
  refine Keeps.bind Reads.trans (Keeps.attempt (registryExport_reads _)) fun r => ?_
  rcases r with e | text
  · cases e <;> first | exact Keeps.pure Reads.refl _ | exact Keeps.fail Reads.refl _
  · exact Keeps.pure Reads.refl _

theorem tcpipExport_ok {w w' : World} {r : Option Str × List Str}
    (h : tcpipExport w = (.ok r, w')) :
    ∀ text ∈ r.1, ExportOf w.machine tcpipQosValues text.bytes := by
  rcases hexport : registryExport tcpipQosValues w with ⟨outcome, w1⟩
  have h := (attempt_bind hexport).symm.trans h
  cases outcome with
  | ok text =>
    cases h
    intro t ht
    cases ht
    exact export_ok hexport
  | error e =>
    cases e
    case backupInvalid reason => cases h; intro t ht; cases ht
    all_goals cases h

theorem collectArtifacts_reads (env : Env) (qos : List QosPolicySpec) :
    Keeps Reads (collectArtifacts env qos) := by
  refine Keeps.bind Reads.trans (registryExport_reads _) fun _ => ?_
  refine Keeps.bind Reads.trans (registryExport_reads _) fun _ => ?_
  refine Keeps.bind Reads.trans tcpipExport_reads fun _ => ?_
  refine Keeps.bind Reads.trans physicalUpAdapters_reads fun _ => ?_
  refine Keeps.bind Reads.trans (nicCsv_reads _ _) fun _ => ?_
  refine Keeps.bind Reads.trans (rscCsv_reads _ _) fun _ => ?_
  exact Keeps.bind Reads.trans activePowerPlan_reads fun _ => Keeps.pure Reads.refl _

theorem physicalUpAdapters_ok {w w' : World} {adapters : List Str}
    (h : physicalUpAdapters w = (.ok adapters, w')) : upAdapters w.machine = .ok adapters := by
  obtain ⟨rows, w1, hquery, h⟩ := bind_ok.mp h
  obtain ⟨-, -, hrows⟩ := inspect_ok.mp hquery
  simp only at hrows
  split at hrows
  · cases hrows
  · cases hrows
    exact (lift_ok.mp h).1

/-- What is collected is a snapshot of the machine. -/
theorem collectArtifacts_ok {env : Env} {qos : List QosPolicySpec} {w w' : World}
    {collected : Artifacts × List Str} (h : collectArtifacts env qos w = (.ok collected, w')) :
    Snapshot env w.machine qos collected.1 := by
  have hsame : ∀ {α : Type} {x : Run α} {v v' : World} {a : α}, Keeps Reads x → v.machine = w.machine →
      x v = (.ok a, v') → v'.machine = w.machine := by
    intro α x v v' a hx hv hrun
    have hr := hx v
    rw [hrun] at hr
    exact hr.machine.trans hv
  obtain ⟨systemProfile, w1, h1, h⟩ := bind_ok.mp h
  have m1 := hsame (registryExport_reads _) rfl h1
  obtain ⟨afd, w2, h2, h⟩ := bind_ok.mp h
  have m2 := hsame (registryExport_reads _) m1 h2
  obtain ⟨tcpip, w3, h3, h⟩ := bind_ok.mp h
  have m3 := hsame tcpipExport_reads m2 h3
  obtain ⟨adapters, w4, h4, h⟩ := bind_ok.mp h
  have m4 := hsame physicalUpAdapters_reads m3 h4
  obtain ⟨nic, w5, h5, h⟩ := bind_ok.mp h
  have m5 := hsame (nicCsv_reads _ _) m4 h5
  obtain ⟨rsc, w6, h6, h⟩ := bind_ok.mp h
  have m6 := hsame (rscCsv_reads _ _) m5 h6
  obtain ⟨power, w7, h7, h⟩ := bind_ok.mp h
  cases h
  have hnic : nic.1 = nicBytes env.csv (backedUpRows (nicRowsOf w.machine adapters)) := by
    obtain ⟨rows, v, hquery, h5⟩ := bind_ok.mp h5
    obtain ⟨-, -, rfl⟩ := query_ok hquery
    cases h5
    rw [m4]
    rfl
  have hrsc : rsc.1 = rscBytes env.csv (rscRowsOf w.machine adapters) := by
    obtain ⟨rows, v, hquery, h6⟩ := bind_ok.mp h6
    obtain ⟨-, -, rfl⟩ := query_ok hquery
    cases h6
    rw [m5]
    rfl
  have hpower : power = w.machine.power.format := by
    obtain ⟨-, -, hread⟩ := inspect_ok.mp h7
    cases hread
    show w6.machine.power.format = _
    rw [m6]
  refine ⟨⟨_, rfl, export_ok h1⟩, ⟨_, rfl, m1 ▸ export_ok h2⟩, fun bytes hb => ?_, rfl,
    ⟨adapters, m3 ▸ physicalUpAdapters_ok h4, ?_, ?_⟩, ?_⟩
  · obtain ⟨text, ht, rfl⟩ := Option.map_eq_some_iff.mp hb
    exact m2 ▸ tcpipExport_ok h3 text ht
  · rw [← hnic]
  · rw [← hrsc]
  · rw [← hpower]

/-! ## Frames -/

/-- The folders at other paths are as before. -/
def OnlyFolders (touched : Path → Prop) (w w' : World) : Prop :=
  ∀ path, ¬ touched path → w'.folders path = w.folders path

section
variable {touched : Path → Prop} {P : Mutation → Prop}

theorem OnlyFolders.refl (w : World) : OnlyFolders touched w w := fun _ _ => rfl

theorem OnlyFolders.trans (a b c : World) (hab : OnlyFolders touched a b)
    (hbc : OnlyFolders touched b c) : OnlyFolders touched a c :=
  fun path h => (hbc path h).trans (hab path h)

/-- A run on folders: it changes folders of `touched` only and logs what `P` allows. -/
structure FolderRun (touched : Path → Prop) (P : Mutation → Prop) (w w' : World) : Prop where
  effect : Effect [.folders] P w w'
  only : OnlyFolders touched w w'

theorem FolderRun.refl (w : World) : FolderRun touched P w w := ⟨Effect.refl w, OnlyFolders.refl w⟩

theorem FolderRun.trans (a b c : World) (hab : FolderRun touched P a b)
    (hbc : FolderRun touched P b c) : FolderRun touched P a c :=
  ⟨Effect.trans a b c hab.effect hbc.effect, OnlyFolders.trans a b c hab.only hbc.only⟩

theorem FolderRun.reads {α : Type} {x : Run α} (hx : Keeps Reads x) :
    Keeps (FolderRun touched P) x :=
  hx.mono fun _ _ h => ⟨h.effect, fun path _ => by rw [h.folders]⟩

theorem FolderRun.advance (w : World) : FolderRun touched P w w.advance :=
  ⟨Effect.advance w, fun _ _ => rfl⟩

/-- Setting a folder that may be touched. -/
theorem FolderRun.set {path : Path} (h : touched path) (w : World) (tree : Option Tree)
    (new : List Mutation) (hP : ∀ m ∈ new, P m) (w' : World)
    (hmachine : w'.machine = w.machine) (hfolders : w'.folders = (w.setFolder path tree).folders)
    (hlog : w'.log = new ++ w.log) : FolderRun touched P w w' where
  effect := ⟨by rw [hmachine], fun _ => by rw [hmachine], fun _ => by rw [hmachine],
    fun _ => by rw [hmachine], fun _ => by rw [hmachine], fun _ => by rw [hmachine],
    fun h => absurd List.mem_cons_self h, new, hlog, hP⟩
  only p hp := by
    rw [hfolders]
    refine if_neg ?_
    rintro rfl
    exact hp h

theorem createDirectory_run {path : Path} (h : touched path) (identity : Nat) :
    Keeps (FolderRun touched P) (createDirectory path identity) := by
  refine change_keeps FolderRun.advance fun w w' hw => ?_
  split at hw
  · cases hw
  · cases hw
    exact .set h w _ [] (by simp) _ rfl rfl rfl

theorem writeTree_run {path : Path} (h : touched path) (f : Tree → Tree) :
    Keeps (FolderRun touched P) (writeTree path f) := by
  refine change_keeps FolderRun.advance fun w w' hw => ?_
  split at hw
  · cases hw
  · cases hw
    exact .set h w _ [] (by simp) _ rfl rfl rfl

theorem moveDirectory_run {source target : Path} (hs : touched source) (ht : touched target) :
    Keeps (FolderRun touched P) (moveDirectory source target) := by
  refine change_keeps FolderRun.advance fun w w' hw => ?_
  split at hw
  · cases hw
    exact FolderRun.trans _ _ _
      (.set hs w none [] (by simp) (w.advance.setFolder source none) rfl rfl rfl)
      (.set ht (w.advance.setFolder source none) _ [] (by simp) _ rfl rfl rfl)
  · cases hw
  · cases hw

theorem removeOwnedDirectory_run {path : Path} (h : touched path) (expected : Nat)
    (hP : ∀ folders, P (.folderRemoved path folders)) :
    Keeps (FolderRun touched P) (removeOwnedDirectory path expected) := by
  refine Keeps.bind FolderRun.trans (FolderRun.reads (directoryIdentity_reads path)) fun found => ?_
  show Keeps _ (if _ then _ else _)
  split
  · exact Keeps.fail FolderRun.refl _
  · refine change_keeps FolderRun.advance fun w w' hw => ?_
    cases hw
    exact .set h w none [.folderRemoved path w.folders] (by simpa using hP _) _ rfl rfl rfl

theorem rename_run {source target : Path} (hs : touched source) (ht : touched target)
    (expected : Nat) : Keeps (FolderRun touched P) (PublicationFs.rename source target expected) := by
  refine Keeps.bind FolderRun.trans (FolderRun.reads (directoryIdentity_reads source)) fun found => ?_
  show Keeps _ (if _ then _ else _)
  split
  · exact Keeps.fail FolderRun.refl _
  · exact moveDirectory_run hs ht

theorem pathExists_reads (path : Path) : Keeps Reads (pathExists path) := fun _ => rfl

/-- The folders of a publication. -/
def PublicationPaths.touches (paths : PublicationPaths) (touched : Path → Prop) : Prop :=
  touched paths.staging ∧ touched paths.destination ∧ touched paths.previous ∧
    touched paths.quarantine

theorem moveThenSync_run {source target : Path} (hs : touched source) (ht : touched target)
    (expected : Nat) : Keeps (FolderRun touched P) (do
      PublicationFs.rename source target expected
      PublicationFs.syncParent) :=
  Keeps.bind FolderRun.trans (rename_run hs ht expected) fun _ => FolderRun.reads syncParent_reads

theorem rollbackBeforePublish_folders {paths : PublicationPaths} (h : paths.touches touched)
    (prior : Option Nat) (cause : TuningError) :
    Keeps (FolderRun touched P) (rollbackBeforePublish paths prior cause) := by
  refine Keeps.bind FolderRun.trans (FolderRun.reads (pathExists_reads _)) fun found => ?_
  cases found with
  | false => exact Keeps.fail FolderRun.refl _
  | true =>
    cases prior with
    | none => exact Keeps.fail FolderRun.refl _
    | some prior =>
      refine Keeps.bind FolderRun.trans
        (Keeps.attempt (moveThenSync_run h.2.2.1 h.2.1 prior)) fun r => ?_
      cases r <;> exact Keeps.fail FolderRun.refl _

theorem quarantineAndRestore_folders {paths : PublicationPaths} (h : paths.touches touched)
    (identity : Nat) (prior : Option Nat) (cause : TuningError) :
    Keeps (FolderRun touched P) (quarantineAndRestore paths identity prior cause) := by
  refine Keeps.bind FolderRun.trans
    (Keeps.attempt (FolderRun.reads (directoryIdentity_reads _))) fun current => ?_
  cases current with
  | error e => exact Keeps.fail FolderRun.refl _
  | ok current =>
    show Keeps _ (if _ then _ else _)
    split
    · exact Keeps.fail FolderRun.refl _
    · refine Keeps.bind FolderRun.trans
        (Keeps.attempt (moveThenSync_run h.2.1 h.2.2.2 identity)) fun moved => ?_
      cases moved with
      | error e => exact Keeps.fail FolderRun.refl _
      | ok u =>
        refine Keeps.bind FolderRun.trans (FolderRun.reads (pathExists_reads _)) fun found => ?_
        cases found with
        | false => exact Keeps.fail FolderRun.refl _
        | true =>
          cases prior with
          | none => exact Keeps.fail FolderRun.refl _
          | some prior =>
            refine Keeps.bind FolderRun.trans
              (Keeps.attempt (moveThenSync_run h.2.2.1 h.2.1 prior)) fun r => ?_
            cases r <;> exact Keeps.fail FolderRun.refl _

theorem publishStaged_folders (env : Env) {paths : PublicationPaths} (h : paths.touches touched)
    (hP : ∀ folders, P (.folderRemoved paths.previous folders)) (identity : Nat)
    (prior : Option Nat) : Keeps (FolderRun touched P) (publishStaged env paths identity prior) := by
  refine Keeps.bind FolderRun.trans (Keeps.attempt (rename_run h.1 h.2.1 identity)) fun moved => ?_
  cases moved with
  | error e => exact rollbackBeforePublish_folders h prior e
  | ok u =>
    refine Keeps.bind FolderRun.trans
      (Keeps.attempt (FolderRun.reads (verifyPublished_reads env paths identity))) fun verified => ?_
    cases verified with
    | error e => exact quarantineAndRestore_folders h identity prior e
    | ok u =>
      cases prior with
      | none => exact Keeps.pure FolderRun.refl _
      | some prior =>
        exact Keeps.bind FolderRun.trans (removeOwnedDirectory_run h.2.2.1 prior hP)
          fun _ => FolderRun.reads syncParent_reads

theorem replaceVerified_folders (env : Env) {paths : PublicationPaths} (h : paths.touches touched)
    (hP : ∀ folders, P (.folderRemoved paths.previous folders)) :
    Keeps (FolderRun touched P) (replaceVerified env paths) := by
  refine Keeps.bind FolderRun.trans (FolderRun.reads (pathExists_reads _)) fun previous => ?_
  refine Keeps.bind FolderRun.trans (FolderRun.reads (pathExists_reads _)) fun quarantine => ?_
  show Keeps _ (if _ then _ else _)
  split
  · exact Keeps.fail FolderRun.refl _
  · refine Keeps.bind FolderRun.trans (FolderRun.reads (validateFolder_reads env _)) fun staged => ?_
    refine Keeps.bind FolderRun.trans (FolderRun.reads (pathExists_reads _)) fun found => ?_
    cases found with
    | false => exact publishStaged_folders env h hP _ _
    | true =>
      refine Keeps.bind FolderRun.trans (FolderRun.reads (validateFolder_reads env _)) fun prior => ?_
      refine Keeps.bind FolderRun.trans (rename_run h.2.1 h.2.2.1 prior) fun _ => ?_
      refine Keeps.bind FolderRun.trans (Keeps.attempt (FolderRun.reads syncParent_reads))
        fun synced => ?_
      cases synced with
      | error e => exact rollbackBeforePublish_folders h _ e
      | ok u => exact publishStaged_folders env h hP _ _

theorem freshNumber_run : Keeps (FolderRun touched P) freshNumber := fun w =>
  ⟨⟨rfl, fun _ => rfl, fun _ => rfl, fun _ => rfl, fun _ => rfl, fun _ => rfl, fun _ => rfl,
    [], rfl, by simp⟩, fun _ _ => rfl⟩

theorem checkCancel_reads : Keeps Reads checkCancel := inspect_reads _ _

theorem writeArtifact_run {staging : Path} (h : touched staging) (artifacts : Artifacts)
    (kind : ArtifactKind) : Keeps (FolderRun touched P) (writeArtifact staging artifacts kind) := by
  unfold writeArtifact
  cases artifacts kind with
  | none => exact Keeps.pure FolderRun.refl _
  | some bytes =>
    exact Keeps.bind FolderRun.trans (FolderRun.reads checkCancel_reads) fun _ => writeTree_run h _

theorem writeBackup_run (env : Env) {staging : Path} (h : touched staging)
    (qos : List QosPolicySpec) : Keeps (FolderRun touched P) (writeBackup env staging qos) := by
  refine Keeps.bind FolderRun.trans (FolderRun.reads (collectArtifacts_reads env qos)) fun c => ?_
  refine Keeps.bind FolderRun.trans (Keeps.forEach FolderRun.refl FolderRun.trans _ fun kind _ =>
    writeArtifact_run h c.1 kind) fun _ => ?_
  refine Keeps.bind FolderRun.trans freshNumber_run fun now => ?_
  refine Keeps.bind FolderRun.trans (writeTree_run h _) fun _ => ?_
  refine Keeps.bind FolderRun.trans (FolderRun.reads syncParent_reads) fun _ => ?_
  exact Keeps.bind FolderRun.trans (FolderRun.reads (validateBackupBundle_reads env staging)) fun _ =>
    Keeps.pure FolderRun.refl _

theorem guardStaging_run {α : Type} {staging : Path} (h : touched staging) (identity : Nat)
    (hP : ∀ folders, P (.folderRemoved staging folders)) {x : Run α}
    (hx : Keeps (FolderRun touched P) x) :
    Keeps (FolderRun touched P) (guardStaging staging identity x) := by
  refine Keeps.bind FolderRun.trans (Keeps.attempt hx) fun r => ?_
  cases r with
  | ok a => exact Keeps.pure FolderRun.refl a
  | error e =>
    exact Keeps.bind FolderRun.trans (discard_keeps (removeOwnedDirectory_run h identity hP))
      fun _ => Keeps.fail FolderRun.refl _

end

/-- A change that a publication may log. -/
def RemovesFolder (m : Mutation) : Prop := ∃ path folders, m = .folderRemoved path folders

/-- A folder that a publication may touch: its target and those with names of its own. -/
def PublicationTarget.touched (target : PublicationTarget) (path : Path) : Prop :=
  path = target.path ∨ ∃ uuid, ∃ stem ∈ [stagingStem, previousStem, failedStem],
    path = .generated stem uuid

theorem publishBackup_run (env : Env) (target : PublicationTarget) (qos : List QosPolicySpec) :
    Keeps (FolderRun target.touched RemovesFolder) (publishBackup env target qos) := by
  have hstaging : ∀ uuid, target.touched (.generated stagingStem uuid) := fun uuid =>
    Or.inr ⟨uuid, _, by decide, rfl⟩
  have hprevious : ∀ uuid, target.touched (.generated previousStem uuid) := fun uuid =>
    Or.inr ⟨uuid, _, by decide, rfl⟩
  have hfailed : ∀ uuid, target.touched (.generated failedStem uuid) := fun uuid =>
    Or.inr ⟨uuid, _, by decide, rfl⟩
  refine Keeps.bind FolderRun.trans (FolderRun.reads checkCancel_reads) fun _ => ?_
  refine Keeps.bind FolderRun.trans (FolderRun.reads (inspect_reads _ _)) fun _ => ?_
  refine Keeps.bind FolderRun.trans freshNumber_run fun uuid => ?_
  refine Keeps.bind FolderRun.trans freshNumber_run fun identity => ?_
  refine Keeps.bind FolderRun.trans (createDirectory_run (hstaging uuid) identity) fun _ => ?_
  refine Keeps.bind FolderRun.trans (FolderRun.reads (directoryIdentity_reads _)) fun found => ?_
  refine guardStaging_run (hstaging uuid) found (fun folders => ⟨_, folders, rfl⟩) ?_
  refine Keeps.bind FolderRun.trans (FolderRun.reads (inspect_reads _ _)) fun _ => ?_
  refine Keeps.bind FolderRun.trans (writeBackup_run env (hstaging uuid) qos) fun written => ?_
  refine Keeps.bind FolderRun.trans freshNumber_run fun previous => ?_
  refine Keeps.bind FolderRun.trans freshNumber_run fun failed => ?_
  refine Keeps.bind FolderRun.trans (replaceVerified_folders env
    ⟨hstaging uuid, Or.inl rfl, hprevious previous, hfailed failed⟩
    fun folders => ⟨_, folders, rfl⟩) fun _ => ?_
  exact Keeps.pure FolderRun.refl _

/-! ## A published folder -/

/-- A checked snapshot of a machine, as its backup publishes it. -/
def BackupOf (env : Env) (machine : Machine) (qos : List QosPolicySpec) (tree : Tree) : Prop :=
  ∃ now, tree.manifest = .ok (manifestOf env tree.artifacts now) ∧
    Snapshot env machine qos tree.artifacts ∧
    checkTree env tree (manifestOf env tree.artifacts now) = .ok ()

theorem writeTree_ok {path : Path} {f : Tree → Tree} {w w' : World} {tree : Tree}
    (ht : w.folders path = some tree) (h : writeTree path f w = (.ok (), w')) :
    w'.folders path = some (f tree) := by
  obtain ⟨-, hwrite⟩ := change_ok.mp h
  rw [World.advance_folders, ht] at hwrite
  cases hwrite
  exact if_pos rfl

theorem writeArtifacts_ok {staging : Path} {artifacts : Artifacts} {kinds : List ArtifactKind}
    {w w' : World} {tree : Tree} (ht : w.folders staging = some tree)
    (h : Act.forEach kinds (writeArtifact staging artifacts) w = (.ok (), w')) :
    ∃ tree', w'.folders staging = some tree' ∧ ∀ kind, tree'.artifacts kind =
      if kind ∈ kinds then (artifacts kind).or (tree.artifacts kind) else tree.artifacts kind := by
  induction kinds generalizing w tree with
  | nil => cases h; exact ⟨tree, ht, by simp⟩
  | cons k kinds ih =>
    obtain ⟨_, w1, h1, h⟩ := bind_ok.mp (forEach_cons k kinds _ ▸ h)
    obtain ⟨tree1, ht1, hall1⟩ : ∃ tree1, w1.folders staging = some tree1 ∧ ∀ kind,
        tree1.artifacts kind = if kind = k then (artifacts kind).or (tree.artifacts kind)
          else tree.artifacts kind := by
      unfold writeArtifact at h1
      cases hk : artifacts k with
      | none =>
        rw [hk] at h1
        cases h1
        refine ⟨tree, ht, fun kind => ?_⟩
        split
        · next he => rw [he, hk]; rfl
        · rfl
      | some bytes =>
        rw [hk] at h1
        obtain ⟨_, w0, hcancel, h1⟩ := bind_ok.mp h1
        obtain ⟨-, rfl, -⟩ := inspect_ok.mp hcancel
        refine ⟨_, writeTree_ok (w := w.advance) ht h1, fun kind => ?_⟩
        show (if kind = k then some bytes else tree.artifacts kind) = _
        split
        · next he => rw [he, hk]; rfl
        · rfl
    obtain ⟨tree', ht', hall⟩ := ih ht1 h
    refine ⟨tree', ht', fun kind => ?_⟩
    rw [hall, hall1]
    by_cases he : kind = k
    · subst he
      cases artifacts kind <;> simp
    · simp [he]

/-- A filled staging directory is a checked snapshot. -/
theorem writeBackup_ok {env : Env} {staging : Path} {qos : List QosPolicySpec} {w w' : World}
    {tree : Tree} {written : BackupManifestComponents × List Str}
    (ht : w.folders staging = some tree) (hempty : ∀ kind, tree.artifacts kind = none)
    (h : writeBackup env staging qos w = (.ok written, w')) :
    ∃ tree', w'.folders staging = some tree' ∧ BackupOf env w.machine qos tree' ∧
      written.1 = componentsOf tree'.artifacts := by
  obtain ⟨collected, w1, hcollect, h⟩ := bind_ok.mp h
  have hsnapshot := collectArtifacts_ok hcollect
  have hreads := collectArtifacts_reads env qos w
  rw [hcollect] at hreads
  have ht1 : w1.folders staging = some tree := by
    rw [show w1.folders = w.folders from hreads.folders, ht]
  obtain ⟨_, w2, hwrite, h⟩ := bind_ok.mp h
  obtain ⟨tree2, ht2, hall⟩ := writeArtifacts_ok ht1 hwrite
  have hartifacts : tree2.artifacts = collected.1 := by
    funext kind
    rw [hall, if_pos (ArtifactKind.mem_all kind), hempty]
    simp
  obtain ⟨now, w3, hfresh, h⟩ := bind_ok.mp h
  cases hfresh
  obtain ⟨_, w4, hmanifest, h⟩ := bind_ok.mp h
  have ht4 := writeTree_ok (w := { w2 with fresh := w2.fresh + 1 }) ht2 hmanifest
  obtain ⟨_, w5, hsync, h⟩ := bind_ok.mp h
  have hreads5 := syncParent_reads w4
  rw [hsync] at hreads5
  obtain ⟨bundle, w6, hvalidate, h⟩ := bind_ok.mp h
  cases h
  obtain ⟨rfl, tree', ht', hcheck⟩ := validateBackupBundle_ok hvalidate
  have ht5 : w5.folders staging = some (tree2.putManifest (manifestOf env collected.1 w2.fresh)) := by
    rw [show w5.folders = w4.folders from hreads5.folders, ht4]
  rw [ht5] at ht'
  cases ht'
  obtain ⟨hm, -, -, htree⟩ := checkBundle_ok hcheck
  have hbundle : bundle.manifest = manifestOf env collected.1 w2.fresh := (Except.ok.inj hm).symm
  rw [hbundle] at htree
  refine ⟨_, ht5, ⟨w2.fresh, ?_, ?_, ?_⟩, ?_⟩
  · show Except.ok _ = Except.ok (manifestOf env tree2.artifacts w2.fresh)
    rw [hartifacts]
  · show Snapshot env w.machine qos tree2.artifacts
    rw [hartifacts]
    exact hsnapshot
  · show checkTree env _ (manifestOf env tree2.artifacts w2.fresh) = _
    rw [hartifacts]
    exact htree
  · show componentsOf collected.1 = componentsOf tree2.artifacts
    rw [hartifacts]

theorem guardStaging_ok {α : Type} {staging : Path} {identity : Nat} {x : Run α} {w w' : World} {a : α}
    (h : guardStaging staging identity x w = (.ok a, w')) : x w = (.ok a, w') := by
  rcases hx : x w with ⟨r, w1⟩
  have h := (attempt_bind hx).symm.trans h
  cases r with
  | ok b => cases h; rfl
  | error e =>
    obtain ⟨_, w2, -, h⟩ := bind_ok.mp h
    cases h

theorem freshNumber_ok {w w' : World} {n : Nat} (h : freshNumber w = (.ok n, w')) :
    w'.machine = w.machine ∧ w'.folders = w.folders := by
  cases h
  exact ⟨rfl, rfl⟩

theorem createDirectory_ok {path : Path} {identity : Nat} {w w' : World}
    (h : createDirectory path identity w = (.ok (), w')) :
    w'.machine = w.machine ∧ w'.folders path = some (emptyTree identity) := by
  obtain ⟨-, hcreate⟩ := change_ok.mp h
  split at hcreate
  · cases hcreate
  · cases hcreate
    exact ⟨rfl, if_pos rfl⟩

/-- **Success.**  A published folder is a checked snapshot of the machine. -/
theorem publishBackup_ok {env : Env} {target : PublicationTarget} {qos : List QosPolicySpec}
    {w w' : World} {written : BackupManifestComponents × List Str}
    (h : publishBackup env target qos w = (.ok written, w')) :
    ∃ tree, w'.folders target.path = some tree ∧ BackupOf env w.machine qos tree ∧
      written.1 = componentsOf tree.artifacts := by
  obtain ⟨_, w1, hcancel, h⟩ := bind_ok.mp h
  obtain ⟨-, rfl, -⟩ := inspect_ok.mp hcancel
  obtain ⟨_, w2, hparent, h⟩ := bind_ok.mp h
  obtain ⟨-, rfl, -⟩ := inspect_ok.mp hparent
  obtain ⟨uuid, w3, hfresh3, h⟩ := bind_ok.mp h
  obtain ⟨identity, w4, hfresh4, h⟩ := bind_ok.mp h
  obtain ⟨_, w5, hcreate, h⟩ := bind_ok.mp h
  obtain ⟨hmachine5, hfolder5⟩ := createDirectory_ok hcreate
  obtain ⟨found, w6, hidentity, h⟩ := bind_ok.mp h
  have hreads6 := directoryIdentity_reads (.generated stagingStem uuid) w5
  rw [hidentity] at hreads6
  change Reads w5 w6 at hreads6
  obtain ⟨_, w7, hprotect, h⟩ := bind_ok.mp (guardStaging_ok h)
  obtain ⟨-, rfl, -⟩ := inspect_ok.mp hprotect
  obtain ⟨filled, w8, hwrite, h⟩ := bind_ok.mp h
  obtain ⟨previous, w9, hfresh9, h⟩ := bind_ok.mp h
  obtain ⟨failed, w10, hfresh10, h⟩ := bind_ok.mp h
  obtain ⟨_, w11, hreplace, h⟩ := bind_ok.mp h
  cases h
  have hstart : w6.advance.folders (.generated stagingStem uuid) = some (emptyTree identity) := by
    rw [World.advance_folders, hreads6.folders, hfolder5]
  have hmachine : w6.advance.machine = w.machine := by
    rw [World.advance_machine, hreads6.machine, hmachine5, (freshNumber_ok hfresh4).1,
      (freshNumber_ok hfresh3).1]
    rfl
  obtain ⟨tree, htree, hbackup, hcomponents⟩ := writeBackup_ok hstart (fun _ => rfl) hwrite
  rw [hmachine] at hbackup
  obtain ⟨published, hpublished, -, hdestination, -⟩ := replaceVerified_ok hreplace
  have hsame : w10.folders (.generated stagingStem uuid) = some published := hpublished
  rw [(freshNumber_ok hfresh10).2, (freshNumber_ok hfresh9).2, htree] at hsame
  cases hsame
  exact ⟨tree, hdestination, hbackup, hcomponents⟩

/-! ## Snapshots with an RSC file -/

/-- An enabled artifact of a backup has been authorised. -/
theorem BackupOf.authorized {env : Env} {machine : Machine} {qos : List QosPolicySpec} {tree : Tree}
    (h : BackupOf env machine qos tree) {kind : ArtifactKind} {bytes : Bytes}
    (hbytes : tree.artifacts kind = some bytes)
    (henabled : (componentsOf tree.artifacts).enabled kind = true) :
    authorizeArtifact env kind bytes = .ok () := by
  obtain ⟨now, -, -, hcheck⟩ := h
  obtain ⟨b, hb, hauth⟩ :=
    checkTree_authorized hcheck kind (BackupManifest.mem_expectedArtifacts.mpr henabled)
  rw [hbytes] at hb
  cases hb
  exact hauth

/-- No backup has an RSC file, since none would be accepted. -/
theorem BackupOf.rsc_none {env : Env} (hcsv : env.csv.Lossless) {machine : Machine}
    {qos : List QosPolicySpec} {tree : Tree} (h : BackupOf env machine qos tree) {adapters : List Str}
    (hup : upAdapters machine = .ok adapters) :
    rscRowsOf machine adapters = [] ∧ tree.artifacts .nicRsc = none := by
  obtain ⟨_, -, hsnapshot, -⟩ := id h
  obtain ⟨adapters', hup', -, hrsc⟩ := hsnapshot.adapters
  rw [hup] at hup'
  cases hup'
  by_cases hrows : rscRowsOf machine adapters = []
  · exact ⟨hrows, by rw [hrsc, hrows]; rfl⟩
  · have hbytes : tree.artifacts .nicRsc = some (rscBytes env.csv (rscRowsOf machine adapters)) := by
      rw [hrsc, nonEmpty, if_neg (by simpa using rscBytes_ne_nil hcsv hrows)]
    have hauth := h.authorized hbytes (show (tree.artifacts .nicRsc).isSome = true by rw [hbytes]; rfl)
    obtain ⟨message, herror⟩ := parseRscCsv_rscBytes hcsv hrows
    change (parseRscCsv env.csv _).map _ = _ at hauth
    rw [herror] at hauth
    cases hauth

/-- **An RSC file never reads back**, so a machine with an RSC row to back up has no backup. -/
theorem rscBytes_unreadable {env : Env} (hcsv : env.csv.Lossless) {rows : List RscRow}
    (hne : rows ≠ []) :
    (∃ message, parseRscCsv env.csv (rscBytes env.csv rows) = .error (.backupInvalid message)) ∧
      ∀ (target : PublicationTarget) (qos : List QosPolicySpec) (adapters : List Str) (w : World),
        upAdapters w.machine = .ok adapters → rscRowsOf w.machine adapters = rows →
          ∀ written w', publishBackup env target qos w ≠ (.ok written, w') := by
  refine ⟨parseRscCsv_rscBytes hcsv hne, fun target qos adapters w hup hrows written w' h => ?_⟩
  obtain ⟨tree, -, hbackup, -⟩ := publishBackup_ok h
  exact hne (hrows.symm.trans (hbackup.rsc_none hcsv hup).1)

/-- An adapter with both flags on. -/
def ethernetRsc : RscRow := ⟨"Ethernet", true, true⟩

theorem rscBytes_unreadable_ethernet :
    (∃ message, parseRscCsv scanCsv (rscBytes scanCsv [ethernetRsc]) = .error (.backupInvalid message)) ∧
      ∀ (target : PublicationTarget) (qos : List QosPolicySpec) (adapters : List Str) (w : World),
        upAdapters w.machine = .ok adapters → rscRowsOf w.machine adapters = [ethernetRsc] →
          ∀ written w', publishBackup (plainEnv []) target qos w ≠ (.ok written, w') :=
  @rscBytes_unreadable (plainEnv []) scanCsv_lossless _ (List.cons_ne_nil _ _)

/-- One row with a name: what is written does not read back. -/
theorem parseRscCsv_ethernet :
    scanCsv.Lossless ∧ [ethernetRsc].length ≤ maxRscRows ∧ ethernetRsc.name.isBlank = false ∧
      parseRscCsv scanCsv (rscBytes scanCsv [ethernetRsc]) ≠ .ok [ethernetRsc] := by
  refine ⟨scanCsv_lossless, by decide, by decide, ?_⟩
  obtain ⟨message, h⟩ := parseRscCsv_rscBytes scanCsv_lossless (List.cons_ne_nil ethernetRsc [])
  rw [h]
  exact fun h => nomatch h

end NetworkLantern.Tuning
