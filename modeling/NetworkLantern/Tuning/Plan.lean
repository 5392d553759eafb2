import NetworkLantern.Lib.Checks
import NetworkLantern.Tuning.ExePath
import Mathlib.Data.List.Sort
import Mathlib.Data.List.Destutter

/-!
# The tuning planner

`plan` checks a configuration, normalises its port and path lists and lists the
steps a run takes.  It touches nothing of the machine.
-/

namespace NetworkLantern.Tuning

open NetworkLantern

def maxPorts : Nat := 100
def maxApps : Nat := 100
def maxPathBytes : Nat := 32 * 1024

/-- The text between `\` and `/` separators. -/
def splitSeparators (path : Str) : List Str := path.splitOnP fun c => c = '\\' || c = '/'

/-- Some part of `path.components()` is `ParentDir`: the parts between separators,
after the drive prefix if there is one. -/
def hasParentDir (path : Str) : Bool :=
  let rest := match path with
    | drive :: ':' :: rest => if drive.isAlpha then rest else path
    | _ => path
  (splitSeparators rest).any (· == "..".toList)

/-- The planner's check of an application path: a drive letter, and either
separator after it. -/
def planValidWindowsExe (path : Str) : Bool := exePath isAsciiAlphabetic [92, 47] path

def sensitiveBackupFolder (path : Str) : Bool :=
  let slashes := path.map fun c => if c = '/' then '\\' else c
  let normalized := Str.lower (slashes.rdropWhile (· = '\\'))
  [r"c:\windows", r"c:\windows\system32", r"c:\program files", r"c:\program files (x86)"].any
      (fun root => normalized == root.toList || (root ++ "\\").toList.isPrefixOf normalized) ||
  (normalized.splitOnP (· = '\\')).any fun part =>
    part ∈ ["windows".toList, "program files".toList, "program files (x86)".toList]

/-- The checks on one application path. -/
def validateAppPath (path : Str) : Except TuningError Unit := do
  refuse (decide (maxPathBytes < path.byteLen)) (.validation "application path is too long")
  refuse (hasParentDir path || (splitSeparators path).any (· == "..".toList))
    (.validation "application paths must not contain parent traversal")
  refuse (!planValidWindowsExe path)
    (.validation "application paths must be absolute local .exe paths")

def validate (config : TuningConfig) : Except TuningError Unit := do
  refuse (decide (63 < config.dscp)) (.validation "dscp must be in 0..=63")
  refuse (decide (maxPorts < config.udpPorts.length))
    (.validation "udpPorts exceeds 100 entries")
  refuse (config.udpPorts.contains 0) (.validation "udpPorts must be in 1..=65535")
  refuse (decide (maxApps < config.appPaths.length))
    (.validation "appPaths exceeds 100 entries")
  config.appPaths.forM validateAppPath
  refuse (config.action ≠ .verify && config.backupFolder.any List.isEmpty)
    (.validation "backupFolder must not be empty")
  refuse (config.action ≠ .verify && !config.allowUnsafeBackupFolder &&
      config.backupFolder.any sensitiveBackupFolder)
    (.validation ("backupFolder points into Windows or Program Files; ".toList ++
      "allowUnsafeBackupFolder is required".toList))
  refuse (config.action ≠ .verify &&
      config.backupFolder.any fun path => (splitSeparators path).any (· == "..".toList))
    (.validation "backupFolder must not contain parent traversal")

/-- The port and path lists without duplicates. -/
def normalizeConfig (config : TuningConfig) : TuningConfig :=
  { config with
    udpPorts := (config.udpPorts.insertionSort (· ≤ ·)).destutter (· ≠ ·)
    appPaths := (config.appPaths.filter fun path => !path.isEmpty).eraseDups }

/-- The power plan an Apply selects. -/
def effectivePower (config : TuningConfig) : PowerPlan :=
  if config.powerPlan = .none ∧ config.profile = .measured then .highPerformance
  else config.powerPlan

/-- The steps of an Apply. -/
def applySteps (config : TuningConfig) : List TuningStep :=
  [.validateBackupDestination, .writeAndVerifyBackup, .enableLocalQos] ++
  (if config.udpPorts.isEmpty then []
    else [.reconcilePortPolicies config.udpPorts.length config.dscp]) ++
  (if config.includeAppPolicies && !config.appPaths.isEmpty then
    [.reconcileAppPolicies config.appPaths.length config.dscp] else []) ++
  (if config.profile = .measured then [.disableNicPowerSaving] else []) ++
  (if effectivePower config ≠ .none then [.setPowerPlan (effectivePower config)] else [])

def planSteps (config : TuningConfig) : List TuningStep :=
  match config.action with
  | .apply => applySteps config
  | .backup => [.validateBackupDestination, .writeAndVerifyBackup]
  | .restore => [.validateAndStageRestore, .restoreRegistry, .restoreQos, .restoreNicAdvanced,
      .restoreRsc, .restorePowerPlan]
  | .verify => [.inspectManagedState]

def plan (config : TuningConfig) : Except TuningError TuningPlan := do
  validate config
  let config := normalizeConfig config
  return { config
           steps := planSteps config
           mutating := config.action ≠ .verify && !config.dryRun
           requiresHelper := config.action ≠ .verify && !config.dryRun }

/-! ## Accepted configurations -/

/-- What a plan says about the configuration it was made from. -/
theorem plan_ok {config : TuningConfig} {p : TuningPlan} (h : plan config = .ok p) :
    validate config = .ok () ∧ p.config = normalizeConfig config ∧
      p.steps = planSteps (normalizeConfig config) := by
  obtain ⟨_, hv, h⟩ := except_bind_ok.mp h
  cases h
  exact ⟨hv, rfl, rfl⟩

theorem validateAppPath_ok {path : Str} (h : validateAppPath path = .ok ()) :
    planValidWindowsExe path = true := by
  obtain ⟨-, h⟩ := refuse_bind_ok.mp h
  obtain ⟨-, h⟩ := refuse_bind_ok.mp h
  simpa using h

theorem validate_ok {config : TuningConfig} (h : validate config = .ok ()) :
    config.dscp ≤ 63 ∧ (0 : UInt16) ∉ config.udpPorts ∧
      ∀ path ∈ config.appPaths, planValidWindowsExe path = true := by
  obtain ⟨hdscp, h⟩ := refuse_bind_ok.mp h
  obtain ⟨-, h⟩ := refuse_bind_ok.mp h
  obtain ⟨hports, h⟩ := refuse_bind_ok.mp h
  obtain ⟨-, h⟩ := refuse_bind_ok.mp h
  obtain ⟨_, hpaths, -⟩ := except_bind_ok.mp h
  refine ⟨?_, ?_, fun path hp => validateAppPath_ok (forM_eq_ok.mp hpaths path hp)⟩
  · simpa using hdscp
  · simpa using hports

/-- The bounds of an accepted configuration. -/
theorem validate_bounds {config : TuningConfig} (h : validate config = .ok ()) :
    config.udpPorts.length ≤ maxPorts ∧ config.appPaths.length ≤ maxApps ∧
      ∀ path ∈ config.appPaths, path.byteLen ≤ maxPathBytes := by
  obtain ⟨-, h⟩ := refuse_bind_ok.mp h
  obtain ⟨hports, h⟩ := refuse_bind_ok.mp h
  obtain ⟨-, h⟩ := refuse_bind_ok.mp h
  obtain ⟨happs, h⟩ := refuse_bind_ok.mp h
  obtain ⟨_, hpaths, -⟩ := except_bind_ok.mp h
  refine ⟨by simpa using hports, by simpa using happs, fun path hp => ?_⟩
  obtain ⟨hlong, -⟩ := refuse_bind_ok.mp (forM_eq_ok.mp hpaths path hp)
  simpa using hlong

/-- The normalised ports are strictly increasing. -/
theorem normalizeConfig_ports_nodup (config : TuningConfig) :
    (normalizeConfig config).udpPorts.Nodup := by
  unfold normalizeConfig
  have hs : (config.udpPorts.insertionSort (· ≤ ·)).Pairwise (· ≤ ·) :=
    List.pairwise_insertionSort _ _
  rw [List.Pairwise.destutter_eq_dedup hs]
  exact List.nodup_dedup _

theorem mem_normalizeConfig_ports {config : TuningConfig} {port : UInt16} :
    port ∈ (normalizeConfig config).udpPorts → port ∈ config.udpPorts := by
  intro h
  have h' := (List.destutter_sublist _ _).subset h
  exact (List.mem_insertionSort _).mp h'

theorem mem_normalizeConfig_paths {config : TuningConfig} {path : Str} :
    path ∈ (normalizeConfig config).appPaths → path ∈ config.appPaths := by
  intro h
  simp only [normalizeConfig, List.mem_eraseDups, List.mem_filter] at h
  exact h.1

end NetworkLantern.Tuning
