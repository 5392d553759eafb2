import NetworkLantern.Lib.Checks
import NetworkLantern.Tuning.Types

/-!
# The manifest of a backup

Which artifacts a backup has (`ArtifactKind`), which of them its manifest enables
(`BackupManifest.expectedArtifacts`) and the checks on a decoded manifest.
-/

namespace NetworkLantern.Tuning

open NetworkLantern

inductive ArtifactKind
  | systemProfile | afdParameters | tcpipQos | qosPolicies | nicAdvanced | nicRsc | powerPlan
deriving DecidableEq, Repr

namespace ArtifactKind

/-- `ArtifactKind::ALL`, which is also the order of the kinds. -/
def all : List ArtifactKind :=
  [systemProfile, afdParameters, tcpipQos, qosPolicies, nicAdvanced, nicRsc, powerPlan]

def fileName : ArtifactKind → Str
  | systemProfile => "SystemProfile.reg"
  | afdParameters => "AFD_Parameters.reg"
  | tcpipQos => "Tcpip_QoS.reg"
  | qosPolicies => "qos_ours.xml"
  | nicAdvanced => "nic_advanced_backup.csv"
  | nicRsc => "rsc_backup.csv"
  | powerPlan => "powerplan.txt"

def maxBytes : ArtifactKind → Nat
  | qosPolicies => 4 * 1024 * 1024
  | powerPlan => 64
  | systemProfile | afdParameters | tcpipQos => 1024 * 1024
  | nicAdvanced | nicRsc => 1024 * 1024

theorem mem_all (kind : ArtifactKind) : kind ∈ all := by cases kind <;> decide

theorem fileName_injective : Function.Injective fileName := by
  intro a b
  cases a <;> cases b <;> decide

end ArtifactKind

structure BackupManifestComponents where
  systemProfile : Bool
  afdParameters : Bool
  tcpipQos : Bool
  qosPolicies : Bool
  nicAdvanced : Bool
  nicRsc : Bool
  powerPlan : Bool
deriving DecidableEq, Repr

def BackupManifestComponents.enabled (c : BackupManifestComponents) : ArtifactKind → Bool
  | .systemProfile => c.systemProfile
  | .afdParameters => c.afdParameters
  | .tcpipQos => c.tcpipQos
  | .qosPolicies => c.qosPolicies
  | .nicAdvanced => c.nicAdvanced
  | .nicRsc => c.nicRsc
  | .powerPlan => c.powerPlan

/-- A decoded manifest; the digests are by file name. -/
structure BackupManifest where
  schemaVersion : Nat
  toolName : Str
  timestamp : Option Str
  components : BackupManifestComponents
  artifactDigests : List (Str × Str)
deriving DecidableEq, Repr

namespace BackupManifest

def expectedArtifacts (manifest : BackupManifest) : List ArtifactKind :=
  ArtifactKind.all.filter manifest.components.enabled

theorem mem_expectedArtifacts {manifest : BackupManifest} {kind : ArtifactKind} :
    kind ∈ manifest.expectedArtifacts ↔ manifest.components.enabled kind = true := by
  simp [expectedArtifacts, ArtifactKind.mem_all]

def isUpperHexDigit (c : Char) : Bool := c.isDigit || ('A' ≤ c && c ≤ 'F')

/-- The checks on the digest entries, in order; `folded` are the names before. -/
def checkDigests (folded : List Str) : List (Str × Str) → Except TuningError Unit
  | [] => .ok ()
  | (name, digest) :: digests => do
    refuse (!(ArtifactKind.all.map ArtifactKind.fileName).contains name)
      (.backupInvalid ("unknown artifact digest: ".toList ++ name))
    refuse (folded.contains name.lower)
      (.backupInvalid ("duplicate artifact digest: ".toList ++ name))
    refuse (digest.byteLen ≠ 64 || !digest.all isUpperHexDigit)
      (.backupInvalid ("invalid uppercase SHA-256 digest for ".toList ++ name))
    checkDigests (name.lower :: folded) digests

/-- What `parse_manifest_bounded` checks once the JSON is decoded. -/
def check (manifest : BackupManifest) : Except TuningError Unit := do
  refuse (!(1 ≤ manifest.schemaVersion && manifest.schemaVersion ≤ 4))
    (.backupInvalid "SchemaVersion must be 1, 2, 3, or 4")
  refuse manifest.toolName.isBlank (.backupInvalid "ToolName must not be empty")
  refuse manifest.expectedArtifacts.isEmpty
    (.backupInvalid "at least one component must be enabled")
  checkDigests [] manifest.artifactDigests

end BackupManifest

end NetworkLantern.Tuning
