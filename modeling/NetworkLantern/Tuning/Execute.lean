import NetworkLantern.Tuning.ReconcileRollback
import NetworkLantern.Tuning.Restore

/-!
# Running a tuning plan

`executeSync` reads the policies and then verifies, backs up, applies or restores,
as the plan says.  A failed Apply is rolled back from the state just before it, a
failed Restore from a quarantine snapshot.
-/

namespace NetworkLantern.Tuning

open NetworkLantern Act

/-! ## Verifying -/

def hasPortPolicy (names : List Str) (port : UInt16) : Bool :=
  let current := "NETWORK_LANTERN_QOS_PORT_".toList ++ decimal port.toNat
  let legacy := "NDS_QOS_PORT_".toList ++ decimal port.toNat
  names.any fun name => name.eqCI current || name.eqCI legacy

/-- The numbers of a warning. -/
def joinPorts (ports : List UInt16) : Str :=
  List.intercalate ", ".toList (ports.map fun port => decimal port.toNat)

def evaluate (config : TuningConfig) (managedPolicies : List Str) (localQosEnabled : Option Bool) :
    TuningResult :=
  let missing := config.udpPorts.filter fun port => !hasPortPolicy managedPolicies port
  let localStatus : ComponentStatus := match localQosEnabled with
    | some true => .ok
    | some false => .warn
    | none => .unknown
  let portStatus : ComponentStatus := if missing.isEmpty then .ok else .warn
  let result := { TuningResult.empty config with managedPolicies, missingPorts := missing }
  let result := ((result.insert .localQos localStatus).insert .qosPortPolicies portStatus).insert
    .qosPolicies portStatus
  let result := if missing.isEmpty then result
    else result.warn ("Missing managed QoS port policies for: ".toList ++ joinPorts missing)
  { result with success := localStatus = .ok ∧ portStatus = .ok }

/-! ## Applying -/

variable (env : Env)

/-- The folder of a plan: configured, or below `ProgramData`. -/
def backupFolder (plan : TuningPlan) : Run Str :=
  match plan.config.backupFolder with
  | some folder => return folder
  | none => do
    let current := env.programData ++ r"\NetworkLantern".toList
    let legacy := env.programData ++ r"\NetworkDiagnosticsSuite".toList
    let hasCurrent ← pathExists (.configured current)
    let hasLegacy ← pathExists (.configured legacy)
    return if plan.config.action = .restore ∧ !hasCurrent ∧ hasLegacy then legacy else current

def recordPartialBackup (components : BackupManifestComponents) (result : TuningResult) :
    TuningResult :=
  let result := if components.nicAdvanced then result
    else result.warn "backup contains no physical, up-adapter advanced properties"
  if components.nicRsc then result
  else result.warn "backup contains no physical, up-adapter RSC state"

/-- Keeps a verified backup, and refuses one that cannot be verified. -/
def applyBackupDecision (folder : Str) (present : Bool) : Run (Option (BackupBundle env)) :=
  if !present then return none
  else Act.mapError (fun e => .backupInvalid ("existing backup at ".toList ++ folder ++
      " could not be verified (".toList ++ e.display ++ "); move it aside before applying".toList))
    do
      let bundle ← validateBackupBundle env (.configured folder)
      return some bundle

def powerSavingKeywords : List Str := ["*EEE", "*GreenEthernet", "*PowerSavingMode"]

/-- The adapters and keywords of a NIC backup. -/
def backedUpKeywords (rows : List NicAdvancedRow) : List (Str × Str) :=
  (rows.filter fun row => !row.registryKeyword.isEmpty).map fun row => (row.adapter, row.registryKeyword)

/-- The loop over the property rows, which counts the ones that are not backed up. -/
def disableNicRows (adapters : List Str) (backedUp : List (Str × Str)) : List Row → Nat → Run Nat
  | [], skipped => return skipped
  | row :: rows, skipped =>
    match row.string "Name", row.string "RegistryKeyword" with
    | some name, some keyword =>
      if !adapters.contains name || !powerSavingKeywords.contains keyword then
        disableNicRows adapters backedUp rows skipped
      else if !backedUp.contains (name, keyword) then
        disableNicRows adapters backedUp rows (skipped + 1)
      else do
        Session.update row [("RegistryValue", .strings ["0"])]
        disableNicRows adapters backedUp rows skipped
    | _, _ => disableNicRows adapters backedUp rows skipped

/-- Changes only what the backup can restore; the warnings say what was left alone. -/
def disableNicPowerSaving (bundle : BackupBundle env) : Run (ComponentStatus × List Str) :=
  match bundle.artifact .nicAdvanced with
  | none => return (.warn,
      ["backup contains no NIC advanced properties; NIC power saving was not changed".toList])
  | some bytes => do
    let rows ← Act.lift (parseNicCsv env.csv bytes)
    let adapters ← physicalUpAdapters
    let properties ← Session.query .advancedProperty ["__PATH", "Name", "RegistryKeyword", "RegistryValue"]
    let skipped ← disableNicRows adapters (backedUpKeywords rows) properties 0
    return if 0 < skipped then (.warn, [decimal skipped ++
        " NIC power-saving properties are not in the backup and were not changed".toList])
      else (.ok, [])

/-- `HIGH_PERFORMANCE`. -/
def highPerformance : Str := "8c5e7fda-e8bf-4a96-9a85-a6e23a8c635c"

/-- "Do not use NLA", if the backup can restore it. -/
def enableLocalQos (bundle : BackupBundle env) (result : TuningResult) : Run TuningResult :=
  if bundle.manifest.components.tcpipQos then do
    setRegistryString tcpipQosKey doNotUseNla "1"
    return result.insert .localQos .ok
  else return (result.warn ("\"Do not use NLA\" was not changed because the backup cannot restore it; ".toList ++
    "run the Backup action, then Apply again".toList)).insert .localQos .skipped

def applyNic (plan : TuningPlan) (bundle : BackupBundle env) (result : TuningResult) :
    Run TuningResult :=
  if plan.config.profile = .measured then do
    let (status, warnings) ← disableNicPowerSaving env bundle
    return { result with warnings := result.warnings ++ warnings }.insert .nicPowerSaving status
  else return result

def applyPower (plan : TuningPlan) (result : TuningResult) : Run TuningResult :=
  if plan.config.powerPlan = .highPerformance ∨ plan.config.profile = .measured then do
    setPowerPlan env highPerformance
    return result.insert .powerPlan .ok
  else return result

def applyMutations (plan : TuningPlan) (currentQos : List QosPolicySpec) (bundle : BackupBundle env)
    (result : TuningResult) : Run TuningResult := do
  let result ← enableLocalQos env bundle result
  let desired := desiredQos plan
  reconcileQos currentQos desired []
  let result := { result with managedPolicies := qosNames desired }.insert .qosPolicies .ok
  let result ← applyNic env plan bundle result
  applyPower env plan result

/-- Removes a snapshot of this run, while it is still that bundle. -/
def removeSnapshot (snapshot : Path) : Run Unit := do
  let identity ← directoryIdentity snapshot
  let _ ← validateBackupBundle env snapshot
  removeOwnedDirectory snapshot identity

def applySnapshotStem : Str := "NetworkLantern-apply-rollback-"
def quarantineStem : Str := "NetworkLantern-quarantine-"

/-- A snapshot beside the backup folder. -/
def snapshotTarget (stem : Str) (h : stem ∉ [stagingStem, previousStem, failedStem]) (uuid : Nat) :
    PublicationTarget :=
  ⟨.generated stem uuid, fun _ _ hstem heq => h ((Path.generated.inj heq).1 ▸ hstem)⟩

theorem applySnapshotStem_free : applySnapshotStem ∉ [stagingStem, previousStem, failedStem] := by
  decide

theorem quarantineStem_free : quarantineStem ∉ [stagingStem, previousStem, failedStem] := by
  decide

/-- Publishes the state of the machine to a folder that is not there yet. -/
def publishSnapshot (target : PublicationTarget) (currentQos : List QosPolicySpec) (collision : Str) :
    Run Unit := do
  if ← pathExists target.path then Act.fail (.backupInvalid collision)
  else do
    let _ ← publishBackup env target currentQos
    return ()

/-- Restores a folder, whatever becomes of the caller's token. -/
def rollbackFrom (config : TuningConfig) (source : Path) : Run Unit := do
  let staged ← stageBackup env source
  let _ ← restoreStaged staged .new (TuningResult.empty config)
  return ()

/-- The backup an Apply stands on: the verified one that is there, or a new one. -/
def standingBackup (folder : Str) (currentQos : List QosPolicySpec)
    (kept : Option (BackupBundle env)) (result : TuningResult) :
    Run (BackupBundle env × TuningResult) :=
  match kept with
  | some bundle =>
    return (bundle, result.warn ("Kept the existing verified backup at ".toList ++ folder ++
      (bundle.manifest.timestamp.elim [] fun t => " (".toList ++ t ++ ")".toList) ++
      "; run the Backup action to replace it".toList))
  | none => do
    let (_, warnings) ← publishBackup env (.configured folder) currentQos
    let bundle ← validateBackupBundle env (.configured folder)
    return (bundle, { result with warnings := result.warnings ++ warnings })

/-- Before a kept backup is relied on, the state just before this Apply is published as well. -/
def applySnapshot (currentQos : List QosPolicySpec) (kept : Bool) : Run (Option Path) :=
  if kept then do
    let target := snapshotTarget applySnapshotStem applySnapshotStem_free (← freshNumber)
    publishSnapshot env target currentQos "apply rollback snapshot path collision"
    return some target.path
  else return none

def keptAt (source : Path) (error : TuningError) : TuningError :=
  .backupInvalid (error.display ++ "; the pre-Apply state is kept at ".toList ++ source.display)

/-- What follows a failed mutation: the error says how the rollback went. -/
def rollBackApply {α : Type} (config : TuningConfig) (folder : Str) (snapshot : Option Path)
    (error : TuningError) : Run α := do
  let source := snapshot.getD (.configured folder)
  let rollback ← Act.attempt (Act.mapError (keptAt source) (rollbackFrom env config source))
  match rollback, snapshot with
  | .ok _, some path => discard (removeSnapshot env path)
  | _, _ => pure ()
  Act.fail (.ofApplyRollback error rollback)

/-- After a passed Apply the snapshot is removed, or a warning says where it is. -/
def dropSnapshot (snapshot : Option Path) (result : TuningResult) : Run TuningResult :=
  match snapshot with
  | none => return result
  | some path => do
    match ← Act.attempt (removeSnapshot env path) with
    | .ok _ => return result
    | .error error => return result.warn ("Apply succeeded, but the pre-Apply snapshot at ".toList ++
        path.display ++ " could not be removed: ".toList ++ error.display)

def executeApply (plan : TuningPlan) (folder : Str) (currentQos : List QosPolicySpec)
    (result : TuningResult) : Run TuningResult := do
  let present ← inspect (fun f => .io "inspect backup folder" f.message) fun w =>
    .ok (w.folders (.configured folder)).isSome
  let kept ← applyBackupDecision env folder present
  let (bundle, result) ← standingBackup env folder currentQos kept result
  let result := (recordPartialBackup bundle.manifest.components result).insert .backup .ok
  -- the last moment at which a cancellation stops the run
  checkCancel
  let snapshot ← applySnapshot env currentQos kept.isSome
  match ← Act.attempt (applyMutations env plan currentQos bundle result) with
  | .error error => rollBackApply env plan.config folder snapshot error
  | .ok result => dropSnapshot env snapshot result

/-! ## Restoring -/

/-- The names a staged backup restores. -/
def stagedNames {env : Env} (staged : StagedBackup env) : Run (List Str) :=
  if staged.bundle.manifest.expectedArtifacts.contains .qosPolicies then do
    let bytes ← staged.read .qosPolicies
    let policies ← Act.lift (parseQosClixml env.xml bytes)
    return qosNames policies
  else return []

def executeRestore (plan : TuningPlan) (folder : Str) (result : TuningResult) :
    Run TuningResult := do
  let staged ← stageBackup env (.configured folder)
  let restoreNames ← stagedNames staged
  let currentQos ← readQos restoreNames
  let target := snapshotTarget quarantineStem quarantineStem_free (← freshNumber)
  publishSnapshot env target currentQos "restore quarantine path collision"
  match ← Act.attempt (restoreStaged staged .caller result) with
  | .error error =>
    let rollback ← Act.attempt (rollbackFrom env plan.config target.path)
    Act.fail (.ofRestoreRecovery error target.path rollback)
  | .ok result =>
    removeSnapshot env target.path
    return result

def executeBackup (folder : Str) (currentQos : List QosPolicySpec) (result : TuningResult) :
    Run TuningResult := do
  let (components, warnings) ← publishBackup env (.configured folder) currentQos
  return (recordPartialBackup components { result with warnings := result.warnings ++ warnings }).insert
    .backup .ok

/-! ## Running -/

/-- Verify, and every inspection. -/
def executeVerify (plan : TuningPlan) (managedPolicies : List Str) : Run TuningResult := do
  let enabled ← inspectLocalQosEnabled
  let verification := evaluate plan.config managedPolicies enabled
  let folder ← backupFolder env plan
  return { verification with backupFolder := some (.configured folder) }

def executeAction (plan : TuningPlan) (currentQos : List QosPolicySpec) : Run TuningResult := do
  let result := { TuningResult.empty plan.config with managedPolicies := qosNames currentQos }
  let folder ← backupFolder env plan
  let result ← match plan.config.action with
    | .backup => executeBackup env folder currentQos result
    | .apply => executeApply env plan folder currentQos result
    | .restore => executeRestore env plan folder result
    | .verify => pure result
  return { result with backupFolder := some (.configured folder) }

def executeSync (plan : TuningPlan) (inspectOnly : Bool) : Run TuningResult := do
  checkCancel
  inspect (nativeFailure "connect native CIM provider") fun _ => .ok ()
  let currentQos ← readQos []
  if inspectOnly ∨ plan.config.action = .verify then executeVerify env plan (qosNames currentQos)
  else executeAction env plan currentQos

def componentForStep : TuningStep → TuningComponent
  | .validateBackupDestination | .writeAndVerifyBackup | .validateAndStageRestore => .backup
  | .enableLocalQos | .restoreRegistry => .registry
  | .reconcilePortPolicies _ _ => .qosPortPolicies
  | .reconcileAppPolicies _ _ => .qosAppPolicies
  | .disableNicPowerSaving | .restoreNicAdvanced => .nicAdvanced
  | .restoreRsc => .rsc
  | .setPowerPlan _ | .restorePowerPlan => .powerPlan
  | .restoreQos => .qosPolicies
  | .inspectManagedState => .manifest

/-- A dry run reads and changes nothing. -/
def execute (plan : TuningPlan) (inspectOnly : Bool) : Run TuningResult := do
  checkCancel
  if plan.config.dryRun then
    let result := plan.steps.foldl (fun result step => result.insert (componentForStep step) .skipped)
      (TuningResult.empty plan.config)
    return result.warn "dry run: native state was not read or changed"
  else executeSync env plan inspectOnly

end NetworkLantern.Tuning
