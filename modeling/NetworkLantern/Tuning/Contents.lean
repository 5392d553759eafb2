import NetworkLantern.Lib.Entries
import NetworkLantern.Tuning.Bundle
import NetworkLantern.Tuning.PlainEnv
import Mathlib.Data.List.Perm.Subperm

/-!
# The contents of a backup folder

A folder as it stands on the disk: under each name a file, a directory or a link,
and a manifest that is text.  `validateContents` is the validation of a backup on
it.  What it accepts fits together: the artifacts that are there, the components
that are enabled and the digests of the manifest are the same (`Fits`), and the
folder is one of the model's trees (`validateContents_checkTree`).
-/

namespace NetworkLantern.Tuning

open NetworkLantern

/-! ## The manifest -/

def MAX_MANIFEST_BYTES : Nat := 1024 * 1024

/-- The JSON reader of manifests.  It leaves the digests as they stand in the text. -/
structure ManifestReader where
  read : Bytes → Except Str BackupManifest
  /-- Where in the text an error about an entry is. -/
  place : Bytes → Str → Str

/-- `enforce_json_depth`, from a depth on, inside a string or not, after a backslash or not. -/
def enforceJsonDepth (maximum : Nat) (depth : Nat) (string escaped : Bool) :
    Bytes → Except TuningError Unit
  | [] => .ok ()
  | byte :: bytes =>
    if string then
      if escaped then enforceJsonDepth maximum depth true false bytes
      else if byte = 92 then enforceJsonDepth maximum depth true true bytes
      else enforceJsonDepth maximum depth (byte ≠ 34) false bytes
    else if byte = 34 then enforceJsonDepth maximum depth true escaped bytes
    else if byte = 123 ∨ byte = 91 then
      if maximum < depth + 1 then
        .error (.backupInvalid ("manifest exceeds JSON depth ".toList ++ decimal maximum))
      else enforceJsonDepth maximum (depth + 1) false escaped bytes
    else if byte = 125 ∨ byte = 93 then enforceJsonDepth maximum (depth - 1) false escaped bytes
    else enforceJsonDepth maximum depth false escaped bytes

/-- `deserialize_digests`: the entries by name; two names that differ at most in case are refused. -/
def deserializeDigests (folded : List Str) (values : Entries Str) :
    List (Str × Str) → Except Str (Entries Str)
  | [] => .ok values
  | (name, digest) :: entries =>
    if folded.contains name.lower then
      .error ("duplicate artifact digest or case variant: ".toList ++ name)
    else deserializeDigests (name.lower :: folded) (values.insert name digest) entries

def invalidJson (message : Str) : TuningError :=
  .backupInvalid ("invalid manifest JSON: ".toList ++ message)

/-- `parse_manifest_bounded`, up to the checks on what it has read. -/
def decodeManifest (reader : ManifestReader) (bytes : Bytes) : Except TuningError BackupManifest := do
  refuse (decide (MAX_MANIFEST_BYTES < bytes.length)) (.backupInvalid "manifest exceeds 1 MiB")
  enforceJsonDepth 32 0 false false bytes
  let text ← (reader.read bytes).mapError invalidJson
  let digests ← (deserializeDigests [] [] text.artifactDigests).mapError fun message =>
    invalidJson (message ++ reader.place bytes message)
  return { text with artifactDigests := digests }

/-! ## The folder -/

/-- What stands under a name. -/
inductive Entry
  | file (bytes : Bytes)
  | directory
  | link
deriving DecidableEq

def Entry.bytes? : Entry → Option Bytes
  | .file bytes => some bytes
  | _ => none

structure Contents where
  identity : Nat
  manifest : Option Entry
  artifacts : ArtifactKind → Option Entry

/-- `reject_link` and `read_bounded` on a file of the folder. -/
def readBounded (entry : Option Entry) (name : Str) (maximum : Nat) : Except TuningError Bytes :=
  match entry with
  | none => .error (.io "inspect backup path" "not found")
  | some (.file bytes) =>
    if maximum < bytes.length then
      invalid (name ++ " exceeds ".toList ++ decimal maximum ++ " bytes".toList)
    else .ok bytes
  | some _ => invalid ("backup path has an invalid type or link: ".toList ++ name)

/-- One turn of the loop over the expected artifacts. -/
def readVerified (env : Env) (contents : Contents) (manifest : BackupManifest) (kind : ArtifactKind) :
    Except TuningError (ArtifactKind × Bytes) :=
  match manifest.artifactDigests.lookup kind.fileName with
  | none => invalid ("missing digest for ".toList ++ kind.fileName)
  | some digest => do
    let bytes ← readBounded (contents.artifacts kind) kind.fileName kind.maxBytes
    refuse (env.sha256 bytes != digest)
      (.backupInvalid ("digest mismatch for ".toList ++ kind.fileName))
    authorizeArtifact env kind bytes
    return (kind, bytes)

/-- `validate_backup_bundle` on the contents of the folder: its manifest and its artifacts. -/
def validateContents (env : Env) (reader : ManifestReader) (contents : Contents) :
    Except TuningError (BackupManifest × List (ArtifactKind × Bytes)) := do
  let bytes ← readBounded contents.manifest "backup_manifest.json" MAX_MANIFEST_BYTES
  let manifest ← decodeManifest reader bytes
  checkManifest manifest
  let artifacts ← manifest.expectedArtifacts.mapM (readVerified env contents manifest)
  ArtifactKind.all.forM fun kind =>
    refuse ((contents.artifacts kind).isSome && !(artifacts.map Prod.fst).contains kind)
      (.backupInvalid ("unexpected artifact for disabled component: ".toList ++ kind.fileName))
  return (manifest, artifacts)

/-- The folder as the rest of the program sees it: its decoded manifest and its files. -/
def Contents.tree (reader : ManifestReader) (contents : Contents) : Tree where
  identity := contents.identity
  manifest := do
    let bytes ← readBounded contents.manifest "backup_manifest.json" MAX_MANIFEST_BYTES
    decodeManifest reader bytes
  artifacts := fun kind => (contents.artifacts kind).bind Entry.bytes?

/-! ## Digests -/

/-- The digests that are read have different names up to case, and are the map of the entries. -/
theorem deserializeDigests_ok {folded : List Str} {values digests : Entries Str}
    {entries : List (Str × Str)} (h : deserializeDigests folded values entries = .ok digests) :
    digests = entries.foldl (fun es e => es.insert e.1 e.2) values ∧
      (entries.map fun e => e.1.lower).Nodup ∧ ∀ e ∈ entries, e.1.lower ∉ folded := by
  induction entries generalizing folded values with
  | nil =>
    cases h
    exact ⟨rfl, List.nodup_nil, by simp⟩
  | cons e entries ih =>
    obtain ⟨name, digest⟩ := e
    unfold deserializeDigests at h
    split at h
    · cases h
    · next hnew =>
      obtain ⟨hdigests, hnodup, hfresh⟩ := ih h
      rw [List.contains_eq_mem, decide_eq_true_eq] at hnew
      refine ⟨hdigests, ?_, ?_⟩
      · rw [List.map_cons, List.nodup_cons]
        refine ⟨fun hmem => ?_, hnodup⟩
        obtain ⟨e, he, heq⟩ := List.mem_map.mp hmem
        exact hfresh e he (heq ▸ List.mem_cons_self)
      · rw [List.forall_mem_cons]
        exact ⟨hnew, fun e he hmem => hfresh e he (List.mem_cons_of_mem _ hmem)⟩

namespace BackupManifest

variable {manifest : BackupManifest}

theorem expectedArtifacts_nodup (manifest : BackupManifest) : manifest.expectedArtifacts.Nodup :=
  List.Nodup.filter _ (by decide)

/-- As many digests as enabled components, one for each: no others. -/
theorem mem_digests_iff
    (hcount : manifest.artifactDigests.length = manifest.expectedArtifacts.length)
    (hexpected : ∀ kind ∈ manifest.expectedArtifacts,
      kind.fileName ∈ manifest.artifactDigests.map Prod.fst) (name : Str) :
    name ∈ manifest.artifactDigests.map Prod.fst ↔
      ∃ kind, manifest.components.enabled kind = true ∧ name = kind.fileName := by
  have hnames : (manifest.expectedArtifacts.map ArtifactKind.fileName).Nodup :=
    manifest.expectedArtifacts_nodup.map ArtifactKind.fileName_injective
  have hsub : manifest.expectedArtifacts.map ArtifactKind.fileName ⊆
      manifest.artifactDigests.map Prod.fst := by
    intro name hname
    obtain ⟨kind, hkind, rfl⟩ := List.mem_map.mp hname
    exact hexpected kind hkind
  have hperm := (List.subperm_of_subset hnames hsub).perm_of_length_le
    (by rw [List.length_map, List.length_map, hcount])
  rw [← hperm.mem_iff, List.mem_map]
  constructor
  · rintro ⟨kind, hkind, rfl⟩
    exact ⟨kind, mem_expectedArtifacts.mp hkind, rfl⟩
  · rintro ⟨kind, hkind, rfl⟩
    exact ⟨kind, mem_expectedArtifacts.mpr hkind, rfl⟩

end BackupManifest

/-! ## What is accepted -/

section
variable {env : Env} {reader : ManifestReader} {contents : Contents} {manifest : BackupManifest}
  {artifacts : List (ArtifactKind × Bytes)}

theorem decodeManifest_ok {bytes : Bytes} (h : decodeManifest reader bytes = .ok manifest) :
    ∃ text, reader.read bytes = .ok text ∧
      (text.artifactDigests.map fun e => e.1.lower).Nodup ∧
      manifest = { text with artifactDigests := Entries.ofFields text.artifactDigests } := by
  unfold decodeManifest at h
  obtain ⟨-, h⟩ := refuse_bind_ok.mp h
  obtain ⟨_, -, h⟩ := except_bind_ok.mp h
  obtain ⟨text, htext, h⟩ := except_bind_ok.mp h
  obtain ⟨digests, hdigests, h⟩ := except_bind_ok.mp h
  obtain ⟨hmap, hnodup, -⟩ := deserializeDigests_ok (mapError_eq_ok.mp hdigests)
  cases h
  exact ⟨text, mapError_eq_ok.mp htext, hnodup, by rw [hmap]; rfl⟩

theorem readBounded_ok {entry : Option Entry} {name : Str} {maximum : Nat} {bytes : Bytes}
    (h : readBounded entry name maximum = .ok bytes) :
    entry = some (.file bytes) ∧ bytes.length ≤ maximum := by
  unfold readBounded at h
  split at h
  · cases h
  · split at h
    · cases h
    · next hle =>
      cases h
      exact ⟨rfl, not_lt.mp hle⟩
  · cases h

theorem readVerified_ok {kind : ArtifactKind} {r : ArtifactKind × Bytes}
    (h : readVerified env contents manifest kind = .ok r) :
    r.1 = kind ∧ contents.artifacts kind = some (.file r.2) ∧ r.2.length ≤ kind.maxBytes ∧
      manifest.artifactDigests.lookup kind.fileName = some (env.sha256 r.2) ∧
      authorizeArtifact env kind r.2 = .ok () := by
  unfold readVerified at h
  split at h
  · cases h
  · next digest hdigest =>
    obtain ⟨bytes, hread, h⟩ := except_bind_ok.mp h
    obtain ⟨hsame, h⟩ := refuse_bind_ok.mp h
    obtain ⟨_, hauth, h⟩ := except_bind_ok.mp h
    cases h
    obtain ⟨hfile, hlen⟩ := readBounded_ok hread
    have hsame : env.sha256 bytes = digest := by simpa using hsame
    exact ⟨rfl, hfile, hlen, by rw [hdigest, hsame], hauth⟩

/-- What the validation has read and checked. -/
theorem validateContents_ok (h : validateContents env reader contents = .ok (manifest, artifacts)) :
    (contents.tree reader).manifest = .ok manifest ∧
      checkManifest manifest = .ok () ∧
      List.Forall₂ (fun kind r => readVerified env contents manifest kind = .ok r)
        manifest.expectedArtifacts artifacts ∧
      ∀ kind, (contents.artifacts kind).isSome = true → kind ∈ manifest.expectedArtifacts := by
  unfold validateContents at h
  obtain ⟨bytes, hbytes, h⟩ := except_bind_ok.mp h
  obtain ⟨decoded, hdecode, h⟩ := except_bind_ok.mp h
  obtain ⟨_, hcheck, h⟩ := except_bind_ok.mp h
  obtain ⟨read, hread, h⟩ := except_bind_ok.mp h
  obtain ⟨_, hall, h⟩ := except_bind_ok.mp h
  cases h
  have hread := mapM_eq_ok.mp hread
  refine ⟨except_bind_ok.mpr ⟨bytes, hbytes, hdecode⟩, hcheck, hread, fun kind hsome => ?_⟩
  have hkind := forM_eq_ok.mp hall kind (ArtifactKind.mem_all kind)
  rw [refuse_eq_ok, hsome, Bool.true_and, Bool.not_eq_false', List.contains_eq_mem,
    decide_eq_true_eq] at hkind
  obtain ⟨r, hr, rfl⟩ := List.mem_map.mp hkind
  obtain ⟨kind, hexpected, hverified⟩ := exists_of_forall₂ hread.flip r hr
  rw [(readVerified_ok hverified).1]
  exact hexpected

/-- The folder of a manifest: the files under the names of artifacts, the enabled components and
the digests are the same, and every file is what its digest and its component say. -/
structure Fits (env : Env) (contents : Contents) (text : BackupManifest) : Prop where
  /-- No two digests have names that differ at most in case. -/
  unique : (text.artifactDigests.map fun e => e.1.lower).Nodup
  digests : ∀ name, name ∈ text.artifactDigests.map Prod.fst ↔
    ∃ kind, text.components.enabled kind = true ∧ name = kind.fileName
  present : ∀ kind, (contents.artifacts kind).isSome = true ↔ text.components.enabled kind = true
  artifact : ∀ kind, (contents.artifacts kind).isSome = true →
    ∃ bytes, contents.artifacts kind = some (.file bytes) ∧ bytes.length ≤ kind.maxBytes ∧
      (kind.fileName, env.sha256 bytes) ∈ text.artifactDigests ∧
      authorizeArtifact env kind bytes = .ok ()

theorem checkManifest_count (h : checkManifest manifest = .ok ()) :
    manifest.artifactDigests.length = manifest.expectedArtifacts.length := by
  unfold checkManifest at h
  obtain ⟨_, -, h⟩ := except_bind_ok.mp h
  obtain ⟨-, h⟩ := refuse_bind_ok.mp h
  obtain ⟨-, h⟩ := refuse_bind_ok.mp h
  rw [refuse_eq_ok, bne_eq_false_iff_eq] at h
  exact h

theorem readVerified_checkArtifact {kind : ArtifactKind} {r : ArtifactKind × Bytes}
    (h : readVerified env contents manifest kind = .ok r) :
    checkArtifact env (contents.tree reader) manifest kind = .ok () := by
  obtain ⟨-, hfile, hlen, hdigest, hauth⟩ := readVerified_ok h
  have hread : readArtifact (contents.tree reader) kind = .ok r.2 := by
    unfold readArtifact Contents.tree
    simp only [hfile, Option.bind_some, Entry.bytes?]
    rw [if_neg (not_lt.mpr hlen)]
  unfold checkArtifact
  rw [hdigest]
  simp only [hread, except_ok_bind, bne_self_eq_false, refuse_false, hauth]

/-- A folder that is accepted is a tree that holds the bundle. -/
theorem validateContents_checkTree
    (h : validateContents env reader contents = .ok (manifest, artifacts)) :
    (contents.tree reader).manifest = .ok manifest ∧
      checkTree env (contents.tree reader) manifest = .ok () := by
  obtain ⟨hmanifest, hcheck, hread, hpresent⟩ := validateContents_ok h
  refine ⟨hmanifest, except_bind_ok.mpr ⟨(), hcheck, except_bind_ok.mpr ⟨(), ?_, ?_⟩⟩⟩
  · refine forM_eq_ok.mpr fun kind hkind => ?_
    obtain ⟨r, -, hr⟩ := exists_of_forall₂ hread kind hkind
    exact readVerified_checkArtifact hr
  · refine forM_eq_ok.mpr fun kind _ => ?_
    unfold unexpectedArtifact
    rw [refuse_eq_ok]
    cases hc : contents.artifacts kind with
    | none => simp [Contents.tree, hc]
    | some entry =>
      have henabled := BackupManifest.mem_expectedArtifacts.mp (hpresent kind (by rw [hc]; rfl))
      rw [henabled, Bool.not_true, Bool.and_false]

end

/-! ## A backup of the power plan -/

def balancedPlan : Str := "381b4222-f694-41f0-9685-ff5bb260df2e"

def balancedDigest : Str := "BD01CF903B0C2CCC2CCAA2BBC9AD819E6C46CA607BBE6CF3359168715EFD51A0"

def powerPlanManifest : BackupManifest where
  schemaVersion := 3
  toolName := "network-lantern"
  timestamp := none
  components := ⟨false, false, false, false, false, false, true⟩
  artifactDigests := [("powerplan.txt", balancedDigest)]

def powerPlanText : Str :=
  "\x7b\"SchemaVersion\":3,\"ToolName\":\"network-lantern\",\"Components\":\x7b".toList ++
    "\"SystemProfile\":false,\"AfdParameters\":false,\"QosPolicies\":false,".toList ++
    "\"NicAdvanced\":false,\"NicRsc\":false,\"PowerPlan\":true\x7d,".toList ++
    "\"ArtifactDigests\":\x7b\"powerplan.txt\":\"".toList ++ balancedDigest ++
    "\"\x7d\x7d".toList

def powerPlanReader : ManifestReader where
  read bytes :=
    if bytes = powerPlanText.bytes then .ok powerPlanManifest
    else .error "expected value at line 1 column 1"
  place _ _ := " at line 1 column 1"

def powerPlanContents (identity : Nat) : Contents where
  identity := identity
  manifest := some (.file powerPlanText.bytes)
  artifacts
    | .powerPlan => some (.file balancedPlan.bytes)
    | _ => none

/-- The surroundings of a run that digests no other artifact. -/
def powerPlanEnv : Env := plainEnv [(36, balancedDigest)]

theorem validateContents_powerPlan (identity : Nat) :
    validateContents powerPlanEnv powerPlanReader (powerPlanContents identity) =
      .ok (powerPlanManifest, [(.powerPlan, balancedPlan.bytes)]) :=
  show validateContents powerPlanEnv powerPlanReader (powerPlanContents 0) = _ by decide +kernel

/-! ## A backup of an adapter and the power plan -/

def flowControlRow : NicAdvancedRow :=
  ⟨"Ethernet", "Flow Control", "*FlowControl", "Disabled", "0"⟩

def adapterFile : Bytes := nicBytes scanCsv [flowControlRow]

def adapterDigest : Str := "5F70BF18A086007016E948B04AED3B82103A36BEA41755B6CDDFAF10ACE3C6EF"

def adapterManifest : BackupManifest where
  schemaVersion := 3
  toolName := "network-lantern"
  timestamp := none
  components := ⟨false, false, false, false, true, false, true⟩
  artifactDigests := [("nic_advanced_backup.csv", adapterDigest), ("powerplan.txt", balancedDigest)]

def adapterText : Str :=
  "\x7b\"SchemaVersion\":3,\"ToolName\":\"network-lantern\",\"Components\":\x7b".toList ++
    "\"SystemProfile\":false,\"AfdParameters\":false,\"QosPolicies\":false,".toList ++
    "\"NicAdvanced\":true,\"NicRsc\":false,\"PowerPlan\":true\x7d,".toList ++
    "\"ArtifactDigests\":\x7b\"nic_advanced_backup.csv\":\"".toList ++ adapterDigest ++
    "\",\"powerplan.txt\":\"".toList ++ balancedDigest ++ "\"\x7d\x7d".toList

def adapterReader : ManifestReader where
  read bytes :=
    if bytes = adapterText.bytes then .ok adapterManifest
    else .error "expected value at line 1 column 1"
  place _ _ := " at line 1 column 1"

def adapterContents : Contents where
  identity := 0
  manifest := some (.file adapterText.bytes)
  artifacts
    | .nicAdvanced => some (.file adapterFile)
    | .powerPlan => some (.file balancedPlan.bytes)
    | _ => none

def adapterEnv : Env := plainEnv [(36, balancedDigest), (adapterFile.length, adapterDigest)]

/-! ## Accepted folders fit -/

/-- **Validation.**  Whatever a folder holds and whatever its manifest says: a folder that is
accepted fits its manifest. -/
theorem validateContents_fits (env : Env) (reader : ManifestReader) (contents : Contents)
    (manifest : BackupManifest) (artifacts : List (ArtifactKind × Bytes))
    (h : validateContents env reader contents = .ok (manifest, artifacts)) :
    ∃ bytes text, contents.manifest = some (.file bytes) ∧ reader.read bytes = .ok text ∧
      Fits env contents text := by
  obtain ⟨hmanifest, hcheck, hread, hpresent⟩ := validateContents_ok h
  obtain ⟨bytes, hbytes, hdecode⟩ := except_bind_ok.mp hmanifest
  have hbytes := (readBounded_ok hbytes).1
  obtain ⟨text, htext, hunique, rfl⟩ := decodeManifest_ok hdecode
  have hnodup : (text.artifactDigests.map Prod.fst).Nodup := by
    refine List.Nodup.of_map Str.lower ?_
    rw [List.map_map]
    exact hunique
  -- Every enabled component has its file, and its digest among the entries of the text.
  have hverified : ∀ kind, text.components.enabled kind = true →
      ∃ bytes, contents.artifacts kind = some (.file bytes) ∧ bytes.length ≤ kind.maxBytes ∧
        (kind.fileName, env.sha256 bytes) ∈ text.artifactDigests ∧
        authorizeArtifact env kind bytes = .ok () := by
    intro kind hkind
    obtain ⟨r, -, hr⟩ := exists_of_forall₂ hread kind (BackupManifest.mem_expectedArtifacts.mpr hkind)
    obtain ⟨-, hfile, hlen, hdigest, hauth⟩ := readVerified_ok hr
    have hdigest : List.lookup kind.fileName text.artifactDigests = some (env.sha256 r.2) :=
      (Entries.get?_ofFields hnodup kind.fileName).symm.trans hdigest
    exact ⟨r.2, hfile, hlen, Entries.mem_of_get? hdigest, hauth⟩
  have henabled : ∀ kind, (contents.artifacts kind).isSome = true →
      text.components.enabled kind = true := fun kind hsome =>
    BackupManifest.mem_expectedArtifacts.mp (hpresent kind hsome)
  refine ⟨bytes, text, hbytes, htext, hunique, ?_, fun kind => ⟨henabled kind, fun hkind => ?_⟩,
    fun kind hsome => hverified kind (henabled kind hsome)⟩
  · intro name
    rw [← Entries.keys_ofFields]
    refine @BackupManifest.mem_digests_iff
      { text with artifactDigests := Entries.ofFields text.artifactDigests }
      (checkManifest_count hcheck) (fun kind hkind => ?_) name
    obtain ⟨_, -, -, hdigest, -⟩ := hverified kind (BackupManifest.mem_expectedArtifacts.mp hkind)
    exact (Entries.keys_ofFields _ _).mpr (List.mem_map.mpr ⟨_, hdigest, rfl⟩)
  · obtain ⟨_, hfile, -⟩ := hverified kind hkind
    rw [hfile]
    rfl

theorem validateContents_fits_adapter :
    ∃ bytes text, adapterContents.manifest = some (.file bytes) ∧
      adapterReader.read bytes = .ok text ∧ Fits adapterEnv adapterContents text :=
  validateContents_fits adapterEnv adapterReader adapterContents adapterManifest
    [(.nicAdvanced, adapterFile), (.powerPlan, balancedPlan.bytes)] (by decide +kernel)

end NetworkLantern.Tuning
