import NetworkLantern.Lib.Text
import Mathlib.Data.UInt

/-!
# Tuning requests, plans, results and errors

The data types of the Windows tuning crate.  An application path is kept as
its text: a request reaches the planner as JSON, so every path is valid
Unicode and `to_string_lossy` changes nothing.
-/

namespace NetworkLantern.Tuning

open NetworkLantern

inductive TuningAction
  | apply | backup | restore | verify
deriving DecidableEq, Repr

inductive TuningProfile
  | safe | measured
deriving DecidableEq, Repr

inductive PowerPlan
  | none | highPerformance
deriving DecidableEq, Repr

structure TuningConfig where
  action : TuningAction
  profile : TuningProfile
  dscp : UInt8
  udpPorts : List UInt16
  includeAppPolicies : Bool
  appPaths : List Str
  powerPlan : PowerPlan
  backupFolder : Option Str
  allowUnsafeBackupFolder : Bool
  dryRun : Bool
deriving DecidableEq, Repr

/-- `TuningConfig::default()`. -/
def TuningConfig.default : TuningConfig where
  action := .apply
  profile := .safe
  dscp := 46
  udpPorts := []
  includeAppPolicies := false
  appPaths := []
  powerPlan := .none
  backupFolder := none
  allowUnsafeBackupFolder := false
  dryRun := false

inductive TuningStep
  | validateBackupDestination
  | writeAndVerifyBackup
  | enableLocalQos
  | reconcilePortPolicies (count : Nat) (dscp : UInt8)
  | reconcileAppPolicies (count : Nat) (dscp : UInt8)
  | disableNicPowerSaving
  | setPowerPlan (plan : PowerPlan)
  | validateAndStageRestore
  | restoreRegistry
  | restoreQos
  | restoreNicAdvanced
  | restoreRsc
  | restorePowerPlan
  | inspectManagedState
deriving DecidableEq, Repr

structure TuningPlan where
  config : TuningConfig
  steps : List TuningStep
  mutating : Bool
  requiresHelper : Bool
deriving DecidableEq, Repr

inductive TuningComponent
  | backup | manifest | registry | localQos | qosPolicies | qosPortPolicies | qosAppPolicies
  | nicAdvanced | nicPowerSaving | rsc | powerPlan
deriving DecidableEq, Repr

inductive ComponentStatus
  | ok | warn | skipped | unknown
deriving DecidableEq, Repr

/-- A directory a run works on.  Names made from a new UUID differ from each
other and from every configured folder. -/
inductive Path
  | configured (path : Str)
  | generated (stem : Str) (uuid : Nat)
deriving DecidableEq, Repr

def Path.display : Path → Str
  | .configured path => path
  | .generated stem uuid => stem ++ (toString uuid).toList

structure TuningResult where
  action : TuningAction
  success : Bool
  backupFolder : Option Path
  managedPolicies : List Str
  missingPorts : List UInt16
  components : List (TuningComponent × ComponentStatus)
  warnings : List Str
deriving DecidableEq, Repr

namespace TuningResult

def empty (config : TuningConfig) : TuningResult where
  action := config.action
  success := true
  backupFolder := config.backupFolder.map .configured
  managedPolicies := []
  missingPorts := []
  components := []
  warnings := []

/-- `components.insert`: a later status replaces an earlier one. -/
def insert (r : TuningResult) (c : TuningComponent) (s : ComponentStatus) : TuningResult :=
  { r with components := (c, s) :: r.components.filter (·.1 ≠ c) }

def warn (r : TuningResult) (message : Str) : TuningResult :=
  { r with warnings := r.warnings ++ [message] }

end TuningResult

inductive TuningError
  | validation (message : Str)
  | unsupported (message : Str)
  | authorization (message : Str)
  | backupMissing (path : Path)
  | backupIncompatible (message : Str)
  | backupInvalid (message : Str)
  | native (operation : Str) (code : Int) (message : Str)
  | io (operation source : Str)
  | cancelled
  | restoreRecovery (source : TuningError) (recoveryBackup : Path) (rollbackStatus : Str)
  | applyRollback (source : TuningError) (rollbackStatus : Str)
deriving DecidableEq, Repr

namespace TuningError

/-- The message of an error. -/
def display : TuningError → Str
  | .validation m => "invalid tuning request: ".toList ++ m
  | .unsupported m => "tuning is unavailable on this platform: ".toList ++ m
  | .authorization m => "administrator authorization is required: ".toList ++ m
  | .backupMissing p => "backup is missing: ".toList ++ p.display
  | .backupIncompatible m => "backup is incompatible: ".toList ++ m
  | .backupInvalid m => "backup validation failed: ".toList ++ m
  | .native op code m => "native operation ".toList ++ op ++ " failed with code ".toList ++
      (toString code).toList ++ ": ".toList ++ m
  | .io op source => "I/O during ".toList ++ op ++ ": ".toList ++ source
  | .cancelled => "operation cancelled".toList
  | .restoreRecovery source path status => "restore failed: ".toList ++ source.display ++
      "; recovery backup retained at ".toList ++ path.display ++ "; ".toList ++ status
  | .applyRollback source status => source.display ++ "; ".toList ++ status

/-- The rollback status of a failed Apply whose rollback went through. -/
def rolledBack : Str := "rolled back from backup"

/-- Annotates a failed Restore with its recovery backup and the outcome of the rollback. -/
def ofRestoreRecovery (source : TuningError) (recoveryBackup : Path)
    (rollback : Except TuningError Unit) : TuningError :=
  .restoreRecovery source recoveryBackup <| match rollback with
    | .ok () => "rollback completed successfully"
    | .error e => "rollback failed: ".toList ++ e.display

/-- Annotates a failed Apply with the outcome of restoring its backup. -/
def ofApplyRollback (source : TuningError) (rollback : Except TuningError Unit) : TuningError :=
  .applyRollback source <| match rollback with
    | .ok () => rolledBack
    | .error e => "rollback also failed: ".toList ++ e.display

end TuningError

/-- `Err(TuningError::BackupInvalid(message))`. -/
def invalid {α : Type} (message : Str) : Except TuningError α := .error (.backupInvalid message)

end NetworkLantern.Tuning
