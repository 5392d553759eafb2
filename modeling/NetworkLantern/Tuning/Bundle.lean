import NetworkLantern.Tuning.Adapters
import NetworkLantern.Tuning.QosXml
import NetworkLantern.Tuning.Registry

/-!
# Backup bundles

`checkBundle` accepts a folder whose manifest and artifacts fit together; what it
returns carries that every enabled artifact is there and has been authorised
(`BackupBundle.authorized`).  A bundle is staged before it is restored, and every
artifact is verified again when it is read.
-/

namespace NetworkLantern.Tuning

open NetworkLantern Act

/-- What an artifact has to contain. -/
def authorizeArtifact (env : Env) (kind : ArtifactKind) (bytes : Bytes) : Except TuningError Unit :=
  match kind with
  | .systemProfile => (parseRegistryBackup bytes true).map fun _ => ()
  | .afdParameters => (parseRegistryBackup bytes false).map fun _ => ()
  | .tcpipQos => (parseTcpipQosBackup bytes).map fun _ => ()
  | .qosPolicies => (parseQosClixml env.xml bytes).map fun _ => ()
  | .nicAdvanced => (parseNicCsv env.csv bytes).map fun _ => ()
  | .nicRsc => (parseRscCsv env.csv bytes).map fun _ => ()
  | .powerPlan =>
    match Str.fromUtf8 bytes with
    | none => invalid "power plan is not UTF-8"
    | some text =>
      match env.parseUuid (Str.trimMatches guidPadding text) with
      | none => invalid "power plan must contain one GUID"
      | some _ => .ok ()

/-- A bundle: its enabled artifacts are there and authorised. -/
structure BackupBundle (env : Env) where
  folder : Path
  manifest : BackupManifest
  artifacts : ArtifactKind → Option Bytes
  authorized : ∀ kind ∈ manifest.expectedArtifacts,
    ∃ bytes, artifacts kind = some bytes ∧ authorizeArtifact env kind bytes = .ok ()

/-- `BackupBundle::artifact`: the bytes of an enabled artifact. -/
def BackupBundle.artifact {env : Env} (bundle : BackupBundle env) (kind : ArtifactKind) :
    Option Bytes :=
  if bundle.manifest.components.enabled kind then bundle.artifacts kind else none

/-! ## Checking a folder -/

def readArtifact (tree : Tree) (kind : ArtifactKind) : Except TuningError Bytes :=
  match tree.artifacts kind with
  | none => .error (.io "inspect backup path" "not found")
  | some bytes =>
    if kind.maxBytes < bytes.length then
      invalid (kind.fileName ++ " exceeds ".toList ++ decimal kind.maxBytes ++ " bytes".toList)
    else .ok bytes

def checkArtifact (env : Env) (tree : Tree) (manifest : BackupManifest) (kind : ArtifactKind) :
    Except TuningError Unit :=
  match manifest.artifactDigests.lookup kind.fileName with
  | none => invalid ("missing digest for ".toList ++ kind.fileName)
  | some digest => do
    let bytes ← readArtifact tree kind
    refuse (env.sha256 bytes != digest)
      (.backupInvalid ("digest mismatch for ".toList ++ kind.fileName))
    authorizeArtifact env kind bytes

/-- The checks of `validate_backup_bundle` on the decoded manifest. -/
def checkManifest (manifest : BackupManifest) : Except TuningError Unit := do
  manifest.check
  refuse (decide (3 < manifest.schemaVersion)) (.backupIncompatible ("schema ".toList ++
    decimal manifest.schemaVersion ++ " is newer than supported schema 3".toList))
  refuse (manifest.toolName ≠ "network-lantern".toList &&
      manifest.toolName ≠ "network-diagnostics-suite".toList)
    (.backupIncompatible "ToolName is not compatible with Network Lantern")
  refuse (manifest.artifactDigests.length != manifest.expectedArtifacts.length)
    (.backupInvalid "ArtifactDigests must match enabled Components exactly")

def unexpectedArtifact (tree : Tree) (manifest : BackupManifest) (kind : ArtifactKind) :
    Except TuningError Unit :=
  refuse ((tree.artifacts kind).isSome && !manifest.components.enabled kind)
    (.backupInvalid ("unexpected artifact for disabled component: ".toList ++ kind.fileName))

/-- All checks on a folder. -/
def checkTree (env : Env) (tree : Tree) (manifest : BackupManifest) : Except TuningError Unit := do
  checkManifest manifest
  manifest.expectedArtifacts.forM (checkArtifact env tree manifest)
  ArtifactKind.all.forM (unexpectedArtifact tree manifest)

theorem readArtifact_ok {tree : Tree} {kind : ArtifactKind} {bytes : Bytes}
    (h : readArtifact tree kind = .ok bytes) :
    tree.artifacts kind = some bytes ∧ bytes.length ≤ kind.maxBytes := by
  unfold readArtifact at h
  cases ht : tree.artifacts kind with
  | none => rw [ht] at h; cases h
  | some b =>
    rw [ht] at h
    simp only at h
    split at h
    · cases h
    · next hle =>
      cases h
      exact ⟨rfl, not_lt.mp hle⟩

theorem checkArtifact_ok {env : Env} {tree : Tree} {manifest : BackupManifest} {kind : ArtifactKind}
    (h : checkArtifact env tree manifest kind = .ok ()) :
    ∃ bytes, tree.artifacts kind = some bytes ∧ bytes.length ≤ kind.maxBytes ∧
      manifest.artifactDigests.lookup kind.fileName = some (env.sha256 bytes) ∧
      authorizeArtifact env kind bytes = .ok () := by
  unfold checkArtifact at h
  cases hd : manifest.artifactDigests.lookup kind.fileName with
  | none => rw [hd] at h; cases h
  | some digest =>
    rw [hd] at h
    obtain ⟨bytes, hread, h⟩ := except_bind_ok.mp h
    obtain ⟨hdigest, h⟩ := refuse_bind_ok.mp h
    obtain ⟨hbytes, hlen⟩ := readArtifact_ok hread
    have hdigest : env.sha256 bytes = digest := by simpa using hdigest
    exact ⟨bytes, hbytes, hlen, by rw [hdigest], h⟩

theorem checkTree_authorized {env : Env} {tree : Tree} {manifest : BackupManifest}
    (h : checkTree env tree manifest = .ok ()) :
    ∀ kind ∈ manifest.expectedArtifacts,
      ∃ bytes, tree.artifacts kind = some bytes ∧ authorizeArtifact env kind bytes = .ok () := by
  obtain ⟨_, -, h⟩ := except_bind_ok.mp h
  obtain ⟨_, hall, -⟩ := except_bind_ok.mp h
  intro kind hk
  obtain ⟨bytes, hbytes, -, -, hauth⟩ := checkArtifact_ok (forM_eq_ok.mp hall kind hk)
  exact ⟨bytes, hbytes, hauth⟩

/-- The bundle in a folder. -/
def checkBundle (env : Env) (folder : Path) (tree : Tree) : Except TuningError (BackupBundle env) :=
  match tree.manifest with
  | .error e => .error e
  | .ok manifest =>
    match h : checkTree env tree manifest with
    | .error e => .error e
    | .ok () => .ok ⟨folder, manifest, tree.artifacts, checkTree_authorized h⟩

theorem checkBundle_ok {env : Env} {folder : Path} {tree : Tree} {bundle : BackupBundle env}
    (h : checkBundle env folder tree = .ok bundle) :
    tree.manifest = .ok bundle.manifest ∧ bundle.artifacts = tree.artifacts ∧
      bundle.folder = folder ∧ checkTree env tree bundle.manifest = .ok () := by
  unfold checkBundle at h
  split at h
  · cases h
  · next manifest hm =>
    split at h
    · cases h
    · next hc =>
      cases h
      exact ⟨hm, rfl, rfl, hc⟩

/-- `validate_backup_bundle`. -/
def validateBackupBundle (env : Env) (folder : Path) : Run (BackupBundle env) :=
  inspect (fun f => .io "open backup directory" f.message) fun w =>
    match w.folders folder with
    | none => .error (.io "open backup directory" "not found")
    | some tree => checkBundle env folder tree

theorem validateBackupBundle_reads (env : Env) (folder : Path) :
    Keeps Reads (validateBackupBundle env folder) := inspect_reads _ _

theorem validateBackupBundle_ok {env : Env} {folder : Path} {bundle : BackupBundle env} {w w' : World}
    (h : validateBackupBundle env folder w = (.ok bundle, w')) :
    w' = w.advance ∧ ∃ tree, w.folders folder = some tree ∧ checkBundle env folder tree = .ok bundle := by
  obtain ⟨-, hw, hread⟩ := inspect_ok.mp h
  refine ⟨hw, ?_⟩
  rw [World.advance_folders] at hread
  cases ht : w.folders folder with
  | none => rw [ht] at hread; cases hread
  | some tree => rw [ht] at hread; exact ⟨tree, rfl, hread⟩

/-! ## Staging -/

/-- The checks of `verify_in_memory` on one artifact. -/
def verifyArtifact (env : Env) (bundle : BackupBundle env) (kind : ArtifactKind) :
    Except TuningError Unit :=
  match bundle.artifacts kind, bundle.manifest.artifactDigests.lookup kind.fileName with
  | none, _ => invalid ("missing in-memory ".toList ++ kind.fileName)
  | some _, none => invalid ("missing digest for ".toList ++ kind.fileName)
  | some bytes, some digest => do
    refuse (env.sha256 bytes != digest)
      (.backupInvalid ("in-memory digest mismatch for ".toList ++ kind.fileName))
    authorizeArtifact env kind bytes

/-- A bundle written to a private staging directory. -/
structure StagedBackup (env : Env) where
  bundle : BackupBundle env

/-- `stage_verified`: the artifacts are checked in memory, written and read back. -/
def stageVerified (env : Env) (bundle : BackupBundle env) : Run (StagedBackup env) := do
  Act.lift (bundle.manifest.expectedArtifacts.forM (verifyArtifact env bundle))
  inspect (fun f => .io "stage backup artifact" f.message) fun _ => .ok ()
  return ⟨bundle⟩

namespace StagedBackup

variable {env : Env}

/-- The staging directory is still ours and its artifacts are unchanged. -/
def verify (_staged : StagedBackup env) : Run Unit :=
  inspect (fun f => .io "read staged artifact" f.message) fun _ => .ok ()

def readVerified (staged : StagedBackup env) (kind : ArtifactKind) : Run Bytes :=
  inspect (fun f => .io "read staged artifact" f.message) fun _ =>
    match staged.bundle.artifact kind with
    | none => invalid ("staged artifact is not enabled: ".toList ++ kind.fileName)
    | some bytes => .ok bytes

def read (staged : StagedBackup env) (kind : ArtifactKind) : Run Bytes := do
  staged.verify
  staged.readVerified kind

theorem verify_reads (staged : StagedBackup env) : Keeps Reads staged.verify := inspect_reads _ _

theorem read_reads (staged : StagedBackup env) (kind : ArtifactKind) :
    Keeps Reads (staged.read kind) :=
  Keeps.bind Reads.trans staged.verify_reads fun _ => inspect_reads _ _

theorem read_ok {staged : StagedBackup env} {kind : ArtifactKind} {bytes : Bytes} {w w' : World}
    (h : staged.read kind w = (.ok bytes, w')) : staged.bundle.artifact kind = some bytes := by
  obtain ⟨_, w1, -, h⟩ := bind_ok.mp h
  obtain ⟨-, -, hread⟩ := inspect_ok.mp h
  cases ha : staged.bundle.artifact kind with
  | none => rw [ha] at hread; cases hread
  | some b => rw [ha] at hread; cases hread; rfl

end StagedBackup

/-- `stage_backup`. -/
def stageBackup (env : Env) (folder : Path) : Run (StagedBackup env) := do
  let bundle ← validateBackupBundle env folder
  stageVerified env bundle

theorem stageBackup_reads (env : Env) (folder : Path) : Keeps Reads (stageBackup env folder) :=
  Keeps.bind Reads.trans (validateBackupBundle_reads env folder) fun _ =>
    Keeps.bind Reads.trans (Keeps.lift Reads.refl _) fun _ =>
      Keeps.bind Reads.trans (inspect_reads _ _) fun _ => Keeps.pure Reads.refl _

/-- A staged backup is the bundle of its folder. -/
theorem stageBackup_ok {env : Env} {folder : Path} {staged : StagedBackup env} {w w' : World}
    (h : stageBackup env folder w = (.ok staged, w')) :
    ∃ tree, w.folders folder = some tree ∧ checkBundle env folder tree = .ok staged.bundle := by
  obtain ⟨bundle, w1, hvalidate, h⟩ := bind_ok.mp h
  obtain ⟨-, hbundle⟩ := validateBackupBundle_ok hvalidate
  obtain ⟨_, w2, -, h⟩ := bind_ok.mp h
  obtain ⟨_, w3, -, h⟩ := bind_ok.mp h
  cases h
  exact hbundle

end NetworkLantern.Tuning
