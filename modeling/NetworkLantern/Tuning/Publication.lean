import NetworkLantern.Tuning.Bundle

/-!
# Publishing a folder

`replaceVerified` moves a staged backup to its destination and the prior backup out
of the way, checks what it has published, and undoes the moves when a step fails.
Any of its steps can fail, the ones of the recovery as well.

`Publishing` is its invariant: at every moment the prior backup is at its
destination or at the `previous` path, or the destination holds the staged one
(`replaceVerified_safe`).
-/

namespace NetworkLantern.Tuning

open NetworkLantern Act

/-! ## Directories -/

def fileFailure (operation : Str) (f : Failure) : TuningError := .io operation f.message

/-- `path.exists()`. -/
def pathExists (path : Path) : Run Bool := fun w => (.ok (w.folders path).isSome, w)

def directoryIdentity (path : Path) : Run Nat :=
  inspect (fileFailure "identify directory") fun w =>
    match w.folders path with
    | none => .error (.io "identify directory" "not found")
    | some tree => .ok tree.identity

/-- Moves a directory to a path that is free. -/
def moveDirectory (source target : Path) : Run Unit :=
  change (nativeFailure "rename backup directory") fun w =>
    match w.folders source, w.folders target with
    | some tree, none => .ok ((w.setFolder source none).setFolder target (some tree))
    | none, _ => .error (.native "rename backup directory" 2 "not found")
    | some _, some _ => .error (.native "rename backup directory" 183 "already exists")

/-- Removes a directory that is still the one of the identity. -/
def removeOwnedDirectory (path : Path) (expected : Nat) : Run Unit := do
  let identity ← directoryIdentity path
  if identity ≠ expected then
    Act.fail (.backupInvalid ("refused to remove replaced directory: ".toList ++ path.display))
  else change (fileFailure "remove owned directory") fun w =>
    .ok ((w.setFolder path none).record (.folderRemoved path w.folders))

/-! ## The publication file system -/

namespace PublicationFs

def validate (env : Env) (path : Path) : Run Nat := do
  let before ← directoryIdentity path
  let _ ← validateBackupBundle env path
  let after ← directoryIdentity path
  if before ≠ after then
    Act.fail (.backupInvalid ("backup directory was replaced during validation: ".toList ++ path.display))
  else return after

def rename (source target : Path) (expected : Nat) : Run Unit := do
  let identity ← directoryIdentity source
  if identity ≠ expected then
    Act.fail (.backupInvalid ("backup directory was replaced before rename: ".toList ++ source.display))
  else moveDirectory source target

def removeIfIdentity (path : Path) (identity : Nat) : Run Unit := removeOwnedDirectory path identity

/-- Flushes the parent directory. -/
def syncParent : Run Unit := inspect (fileFailure "flush backup parent") fun _ => .ok ()

end PublicationFs

/-! ## The code -/

/-- The four directories of a publication, which differ. -/
structure PublicationPaths where
  staging : Path
  destination : Path
  previous : Path
  quarantine : Path
  distinct : [staging, destination, previous, quarantine].Nodup

def recoveryMessage (cause : TuningError) (recovery : Str) : TuningError :=
  .backupInvalid ("backup publication failed: ".toList ++ cause.display ++
    "; recovery incomplete: ".toList ++ recovery)

def recoveryError (cause : TuningError) (operation : Str) (recovery : TuningError) : TuningError :=
  recoveryMessage cause (operation ++ ": ".toList ++ recovery.display)

def rollbackBeforePublish (paths : PublicationPaths) (prior : Option Nat) (cause : TuningError) :
    Run Unit := do
  if !(← pathExists paths.previous) then Act.fail cause
  else match prior with
    | none =>
      Act.fail (recoveryMessage cause "unexpected previous backup appeared during rollback")
    | some prior =>
      match ← Act.attempt do
          PublicationFs.rename paths.previous paths.destination prior
          PublicationFs.syncParent with
      | .ok () => Act.fail cause
      | .error rollback => Act.fail (recoveryError cause "restore previous backup" rollback)

/-- Moves the prior backup back to the destination. -/
def restorePrevious (paths : PublicationPaths) (prior : Nat) : Run Unit := do
  PublicationFs.rename paths.previous paths.destination prior
  PublicationFs.syncParent

def quarantineAndRestore (paths : PublicationPaths) (stagingIdentity : Nat) (prior : Option Nat)
    (cause : TuningError) : Run Unit := do
  match ← Act.attempt (directoryIdentity paths.destination) with
  | .error error => Act.fail (recoveryError cause "revalidate failed publication" error)
  | .ok identity =>
    if identity ≠ stagingIdentity then
      Act.fail (recoveryMessage cause
        "published path was replaced before quarantine; previous backup retained")
    else
      match ← Act.attempt do
          PublicationFs.rename paths.destination paths.quarantine stagingIdentity
          PublicationFs.syncParent with
      | .error error => Act.fail (recoveryError cause "quarantine failed publication" error)
      | .ok () =>
        if !(← pathExists paths.previous) then Act.fail cause
        else match prior with
          | none =>
            Act.fail (.backupInvalid "unexpected previous backup appeared during recovery")
          | some prior =>
            match ← Act.attempt (restorePrevious paths prior) with
            | .error error => Act.fail (recoveryError cause "restore previous backup" error)
            | .ok () => Act.fail cause

/-- The checks on what has just been moved to the destination. -/
def verifyPublished (env : Env) (paths : PublicationPaths) (stagingIdentity : Nat) : Run Unit := do
  let identity ← PublicationFs.validate env paths.destination
  if identity ≠ stagingIdentity then
    Act.fail (.backupInvalid "published backup identity differs from verified staging")
  else PublicationFs.syncParent

/-- Publishes the staged backup once the prior one is out of the way. -/
def publishStaged (env : Env) (paths : PublicationPaths) (stagingIdentity : Nat)
    (prior : Option Nat) : Run Unit := do
  match ← Act.attempt (PublicationFs.rename paths.staging paths.destination stagingIdentity) with
  | .error error => rollbackBeforePublish paths prior error
  | .ok () =>
    match ← Act.attempt (verifyPublished env paths stagingIdentity) with
    | .error error => quarantineAndRestore paths stagingIdentity prior error
    | .ok () =>
      match prior with
      | none => return ()
      | some prior => do
        PublicationFs.removeIfIdentity paths.previous prior
        PublicationFs.syncParent

/-- `replace_verified`: replaces the destination by the staged backup. -/
def replaceVerified (env : Env) (paths : PublicationPaths) : Run Unit := do
  let previous ← pathExists paths.previous
  let quarantine ← pathExists paths.quarantine
  if previous || quarantine then
    Act.fail (.backupInvalid "backup publication path collision")
  else do
    let stagingIdentity ← PublicationFs.validate env paths.staging
    if !(← pathExists paths.destination) then publishStaged env paths stagingIdentity none
    else do
      let prior ← PublicationFs.validate env paths.destination
      PublicationFs.rename paths.destination paths.previous prior
      match ← Act.attempt PublicationFs.syncParent with
      | .error error => rollbackBeforePublish paths (some prior) error
      | .ok () => publishStaged env paths stagingIdentity (some prior)

/-! ## One step -/

theorem directoryIdentity_reads (path : Path) : Keeps Reads (directoryIdentity path) := inspect_reads _ _

theorem directoryIdentity_ok {path : Path} {w w' : World} {identity : Nat}
    (h : directoryIdentity path w = (.ok identity, w')) :
    ∃ tree, w.folders path = some tree ∧ tree.identity = identity := by
  obtain ⟨-, -, hread⟩ := inspect_ok.mp h
  rw [World.advance_folders] at hread
  cases ht : w.folders path with
  | none => rw [ht] at hread; cases hread
  | some tree => rw [ht] at hread; cases hread; exact ⟨tree, rfl, rfl⟩

theorem syncParent_reads : Keeps Reads PublicationFs.syncParent := inspect_reads _ _

theorem validateFolder_reads (env : Env) (path : Path) : Keeps Reads (PublicationFs.validate env path) := by
  refine Keeps.bind Reads.trans (directoryIdentity_reads path) fun before => ?_
  refine Keeps.bind Reads.trans (validateBackupBundle_reads env path) fun _ => ?_
  refine Keeps.bind Reads.trans (directoryIdentity_reads path) fun after => ?_
  show Keeps Reads (if _ then _ else _)
  split
  · exact Keeps.fail Reads.refl _
  · exact Keeps.pure Reads.refl _

/-- A folder that holds a bundle. -/
def ValidTree (env : Env) (path : Path) (tree : Tree) : Prop :=
  ∃ bundle, checkBundle env path tree = .ok bundle

theorem validateFolder_ok {env : Env} {path : Path} {w w' : World} {identity : Nat}
    (h : PublicationFs.validate env path w = (.ok identity, w')) :
    ∃ tree, w.folders path = some tree ∧ tree.identity = identity ∧ ValidTree env path tree := by
  obtain ⟨before, w1, hbefore, h⟩ := bind_ok.mp h
  obtain ⟨tree, htree, hid⟩ := directoryIdentity_ok hbefore
  have hread1 := directoryIdentity_reads path w
  rw [hbefore] at hread1
  obtain ⟨bundle, w2, hbundle, h⟩ := bind_ok.mp h
  obtain ⟨-, tree', htree', hcheck⟩ := validateBackupBundle_ok hbundle
  rw [hread1.folders, htree] at htree'
  cases htree'
  obtain ⟨after, w3, -, h⟩ := bind_ok.mp h
  split at h
  · cases h
  · next heq =>
    cases h
    exact ⟨tree, htree, hid.trans (not_not.mp heq), bundle, hcheck⟩

/-- A rename moves the directory, or leaves everything as it is. -/
theorem rename_cases {source target : Path} {expected : Nat} {w w' : World}
    {r : Except TuningError Unit} (h : PublicationFs.rename source target expected w = (r, w')) :
    (∃ e, r = .error e ∧ Reads w w') ∨
      r = .ok () ∧ ∃ tree, w.folders source = some tree ∧ w.folders target = none ∧
        w'.folders = ((w.setFolder source none).setFolder target (some tree)).folders ∧
        w'.log = w.log := by
  have hreads := directoryIdentity_reads source w
  rcases hid : directoryIdentity source w with ⟨found, w1⟩
  rw [hid] at hreads
  change Reads w w1 at hreads
  cases found with
  | error e =>
    cases (bind_of_error hid).symm.trans h
    exact Or.inl ⟨e, rfl, hreads⟩
  | ok identity =>
    have h := (bind_of_ok hid).symm.trans h
    split at h
    · cases h
      exact Or.inl ⟨_, rfl, hreads⟩
    · cases r with
      | error e =>
        rw [change_error h]
        exact Or.inl ⟨e, rfl, Reads.trans _ _ _ hreads (Reads.advance w1)⟩
      | ok u =>
        obtain ⟨-, hmove⟩ := change_ok.mp h
        rw [World.advance_folders, hreads.folders] at hmove
        split at hmove
        · next tree hs ht =>
          cases hmove
          refine Or.inr ⟨rfl, tree, hs, ht, ?_, hreads.log⟩
          unfold World.setFolder
          simp only [World.advance_folders, hreads.folders]
        · cases hmove
        · cases hmove

/-- A removal takes the directory away and logs what was there, or changes nothing. -/
theorem removeOwnedDirectory_cases {path : Path} {expected : Nat} {w w' : World}
    {r : Except TuningError Unit} (h : removeOwnedDirectory path expected w = (r, w')) :
    (∃ e, r = .error e ∧ Reads w w') ∨
      r = .ok () ∧ w'.folders = (w.setFolder path none).folders ∧
        w'.log = .folderRemoved path w.folders :: w.log := by
  have hreads := directoryIdentity_reads path w
  rcases hid : directoryIdentity path w with ⟨found, w1⟩
  rw [hid] at hreads
  change Reads w w1 at hreads
  cases found with
  | error e =>
    cases (bind_of_error hid).symm.trans h
    exact Or.inl ⟨e, rfl, hreads⟩
  | ok identity =>
    have h := (bind_of_ok hid).symm.trans h
    split at h
    · cases h
      exact Or.inl ⟨_, rfl, hreads⟩
    · cases r with
      | error e =>
        rw [change_error h]
        exact Or.inl ⟨e, rfl, Reads.trans _ _ _ hreads (Reads.advance w1)⟩
      | ok u =>
        obtain ⟨-, hremove⟩ := change_ok.mp h
        cases hremove
        refine Or.inr ⟨rfl, ?_, ?_⟩
        · unfold World.setFolder World.record
          simp only [World.advance_folders, hreads.folders]
        · show Mutation.folderRemoved path w1.folders :: w1.log = _
          rw [hreads.folders, hreads.log]

/-! ## Where the directories are -/

/-- What the four directories hold. -/
structure Placed (paths : PublicationPaths) (staging destination previous quarantine : Option Tree)
    (w : World) : Prop where
  staging : w.folders paths.staging = staging
  destination : w.folders paths.destination = destination
  previous : w.folders paths.previous = previous
  quarantine : w.folders paths.quarantine = quarantine

section
variable {env : Env} {paths : PublicationPaths} {s d p q : Option Tree} {w w' : World}
  {r : Except TuningError Unit}

theorem Placed.reads (h : Placed paths s d p q w) (hr : Reads w w') : Placed paths s d p q w' := by
  obtain ⟨hs, hd, hp, hq⟩ := h
  rw [← hr.folders] at hs hd hp hq
  exact ⟨hs, hd, hp, hq⟩

theorem PublicationPaths.ne (paths : PublicationPaths) :
    paths.staging ≠ paths.destination ∧ paths.staging ≠ paths.previous ∧
      paths.staging ≠ paths.quarantine ∧ paths.destination ≠ paths.previous ∧
      paths.destination ≠ paths.quarantine ∧ paths.previous ≠ paths.quarantine := by
  have h := paths.distinct
  simp only [List.nodup_cons, List.mem_cons, List.not_mem_nil, or_false, not_or] at h
  obtain ⟨⟨h1, h2, h3⟩, ⟨h4, h5⟩, h6, -⟩ := h
  exact ⟨h1, h2, h3, h4, h5, h6⟩

/-- The prior backup goes out of the way. -/
theorem rename_aside {expected : Nat} (h : Placed paths s d p q w)
    (hrun : PublicationFs.rename paths.destination paths.previous expected w = (r, w')) :
    (∃ e, r = .error e ∧ Reads w w') ∨
      r = .ok () ∧ d.isSome ∧ Placed paths s none d q w' ∧ w'.log = w.log := by
  obtain ⟨h1, h2, h3, h4, h5, h6⟩ := paths.ne
  rcases rename_cases hrun with hfail | ⟨rfl, tree, hsource, -, hfolders, hlog⟩
  · exact Or.inl hfail
  · rw [h.destination] at hsource
    subst hsource
    refine Or.inr ⟨rfl, rfl, ⟨?_, ?_, ?_, ?_⟩, hlog⟩ <;>
      simp [hfolders, World.setFolder, h1, h2, h4, h6.symm, h5.symm, h.staging, h.quarantine]

/-- The prior backup goes back. -/
theorem rename_back {expected : Nat} (h : Placed paths s d p q w)
    (hrun : PublicationFs.rename paths.previous paths.destination expected w = (r, w')) :
    (∃ e, r = .error e ∧ Reads w w') ∨
      r = .ok () ∧ Placed paths s p none q w' ∧ w'.log = w.log := by
  obtain ⟨h1, h2, h3, h4, h5, h6⟩ := paths.ne
  rcases rename_cases hrun with hfail | ⟨rfl, tree, hsource, -, hfolders, hlog⟩
  · exact Or.inl hfail
  · rw [h.previous] at hsource
    subst hsource
    refine Or.inr ⟨rfl, ⟨?_, ?_, ?_, ?_⟩, hlog⟩ <;>
      simp [hfolders, World.setFolder, h1, h2, h4.symm, h6.symm, h5.symm, h.staging, h.quarantine]

/-- The staged backup is published. -/
theorem rename_publish {expected : Nat} (h : Placed paths s d p q w)
    (hrun : PublicationFs.rename paths.staging paths.destination expected w = (r, w')) :
    (∃ e, r = .error e ∧ Reads w w') ∨
      r = .ok () ∧ Placed paths none s p q w' ∧ w'.log = w.log := by
  obtain ⟨h1, h2, h3, h4, h5, h6⟩ := paths.ne
  rcases rename_cases hrun with hfail | ⟨rfl, tree, hsource, -, hfolders, hlog⟩
  · exact Or.inl hfail
  · rw [h.staging] at hsource
    subst hsource
    refine Or.inr ⟨rfl, ⟨?_, ?_, ?_, ?_⟩, hlog⟩ <;>
      simp [hfolders, World.setFolder, h1, h2.symm, h3.symm, h4.symm, h5.symm, h.previous, h.quarantine]

/-- The published backup is quarantined. -/
theorem rename_quarantine {expected : Nat} (h : Placed paths s d p q w)
    (hrun : PublicationFs.rename paths.destination paths.quarantine expected w = (r, w')) :
    (∃ e, r = .error e ∧ Reads w w') ∨
      r = .ok () ∧ Placed paths s none p d w' ∧ w'.log = w.log := by
  obtain ⟨h1, h2, h3, h4, h5, h6⟩ := paths.ne
  rcases rename_cases hrun with hfail | ⟨rfl, tree, hsource, -, hfolders, hlog⟩
  · exact Or.inl hfail
  · rw [h.destination] at hsource
    subst hsource
    refine Or.inr ⟨rfl, ⟨?_, ?_, ?_, ?_⟩, hlog⟩ <;>
      simp [hfolders, World.setFolder, h1, h3, h4.symm, h5, h6, h.staging, h.previous]

/-! ## Runs -/

/-- The prior backup goes back, if the move passes; it is there when the flush passes too. -/
theorem restorePrevious_run {prior : Nat} (h : Placed paths s none p q w)
    (hrun : restorePrevious paths prior w = (r, w')) :
    w'.log = w.log ∧ (Placed paths s none p q w' ∨ Placed paths s p none q w') ∧
      (r = .ok () → w'.folders paths.destination = p) := by
  unfold restorePrevious at hrun
  rcases hmove : PublicationFs.rename paths.previous paths.destination prior w with ⟨moved, w0⟩
  rcases rename_back h hmove with ⟨e, rfl, hr⟩ | ⟨rfl, hplaced, hlog⟩
  · cases (bind_of_error hmove).symm.trans hrun
    exact ⟨hr.log, Or.inl (h.reads hr), by simp⟩
  · have hsync := syncParent_reads w0
    rw [(bind_of_ok hmove).symm.trans hrun] at hsync
    have hplaced := hplaced.reads hsync
    exact ⟨hsync.log.trans hlog, Or.inr hplaced, fun _ => hplaced.destination⟩

/-- An error that says that the recovery is incomplete. -/
def RecoveryIncomplete (e : TuningError) : Prop :=
  ∃ cause recovery, e = recoveryMessage cause recovery

/-- The prior backup goes back, or stays at the previous path; the run fails, and says so when
the prior backup is not at its destination. -/
theorem rollbackBeforePublish_run {prior : Option Nat} {cause : TuningError}
    (h : Placed paths s none p q w) (hrun : rollbackBeforePublish paths prior cause w = (r, w')) :
    ∃ e, r = .error e ∧ w'.log = w.log ∧
      (Placed paths s none p q w' ∨ Placed paths s p none q w') ∧
      (¬ RecoveryIncomplete e → w'.folders paths.destination = p) := by
  have hexists : pathExists paths.previous w = (.ok p.isSome, w) := by
    unfold pathExists
    rw [h.previous]
  have hrun := (bind_of_ok hexists).symm.trans hrun
  cases hp : p.isSome with
  | false =>
    rw [hp] at hrun
    cases hrun
    obtain rfl : p = none := Option.isNone_iff_eq_none.mp (Option.isSome_eq_false_iff.mp hp)
    exact ⟨cause, rfl, rfl, Or.inl h, fun _ => h.destination⟩
  | true =>
    rw [hp] at hrun
    cases prior with
    | none =>
      cases hrun
      exact ⟨_, rfl, rfl, Or.inl h, fun hmark => absurd ⟨_, _, rfl⟩ hmark⟩
    | some prior =>
      rcases hback : restorePrevious paths prior w with ⟨outcome, w1⟩
      obtain ⟨hlog, hplaced, hok⟩ := restorePrevious_run h hback
      have hrun := (attempt_bind hback).symm.trans hrun
      cases outcome with
      | ok u =>
        cases hrun
        exact ⟨cause, rfl, hlog, hplaced, fun _ => hok rfl⟩
      | error e =>
        cases hrun
        exact ⟨_, rfl, hlog, hplaced, fun hmark => absurd ⟨_, _, rfl⟩ hmark⟩

/-- The failed publication goes to the quarantine and the prior backup back, as far as the
steps pass; the run fails, and says so when the prior backup is not at its destination. -/
theorem quarantineAndRestore_run {identity : Nat} {prior : Option Nat} {cause : TuningError}
    (hprior : p.isSome → prior.isSome) (h : Placed paths none s p none w)
    (hrun : quarantineAndRestore paths identity prior cause w = (r, w')) :
    ∃ e, r = .error e ∧ w'.log = w.log ∧
      (Placed paths none s p none w' ∨ Placed paths none none p s w' ∨
        Placed paths none p none s w') ∧
      (¬ RecoveryIncomplete e → w'.folders paths.destination = p) := by
  rcases hcurrent : directoryIdentity paths.destination w with ⟨current, w1⟩
  have hreads1 := directoryIdentity_reads paths.destination w
  rw [hcurrent] at hreads1
  change Reads w w1 at hreads1
  have h1 := h.reads hreads1
  have hrun := (attempt_bind hcurrent).symm.trans hrun
  cases current with
  | error e =>
    cases hrun
    exact ⟨_, rfl, hreads1.log, Or.inl h1, fun hmark => absurd ⟨_, _, rfl⟩ hmark⟩
  | ok current =>
    simp only at hrun
    split at hrun
    · cases hrun
      exact ⟨_, rfl, hreads1.log, Or.inl h1, fun hmark => absurd ⟨_, _, rfl⟩ hmark⟩
    · rcases hmove : (do
        PublicationFs.rename paths.destination paths.quarantine identity
        PublicationFs.syncParent : Run Unit) w1 with ⟨moved, w2⟩
      have hrun := (attempt_bind hmove).symm.trans hrun
      have h2 : w2.log = w.log ∧ (Placed paths none s p none w2 ∨ Placed paths none none p s w2) ∧
          (moved = .ok () → Placed paths none none p s w2) := by
        rcases hren : PublicationFs.rename paths.destination paths.quarantine identity w1 with ⟨m, w0⟩
        rcases rename_quarantine h1 hren with ⟨e, rfl, hr⟩ | ⟨rfl, hplaced, hlog⟩
        · cases (bind_of_error hren).symm.trans hmove
          exact ⟨hr.log.trans hreads1.log, Or.inl (h1.reads hr), by simp⟩
        · have hsync := syncParent_reads w0
          rw [(bind_of_ok hren).symm.trans hmove] at hsync
          have hplaced2 := hplaced.reads hsync
          exact ⟨hsync.log.trans (hlog.trans hreads1.log), Or.inr hplaced2, fun _ => hplaced2⟩
      obtain ⟨hlog2, hplaced2, hok2⟩ := h2
      cases moved with
      | error e =>
        cases hrun
        refine ⟨_, rfl, hlog2, ?_, fun hmark => absurd ⟨_, _, rfl⟩ hmark⟩
        rcases hplaced2 with hp | hp
        · exact Or.inl hp
        · exact Or.inr (Or.inl hp)
      | ok u =>
        have h2 := hok2 rfl
        have hexists : pathExists paths.previous w2 = (.ok p.isSome, w2) := by
          unfold pathExists
          rw [h2.previous]
        have hrun := (bind_of_ok hexists).symm.trans hrun
        cases hp : p.isSome with
        | false =>
          rw [hp] at hrun
          cases hrun
          obtain rfl : p = none := Option.isNone_iff_eq_none.mp (Option.isSome_eq_false_iff.mp hp)
          exact ⟨cause, rfl, hlog2, Or.inr (Or.inl h2), fun _ => h2.destination⟩
        | true =>
          obtain ⟨prior, rfl⟩ := Option.isSome_iff_exists.mp (hprior hp)
          rw [hp] at hrun
          rcases hback : restorePrevious paths prior w2 with ⟨outcome, w3⟩
          obtain ⟨hlog3, hplaced3, hok3⟩ := restorePrevious_run h2 hback
          have hrun := (attempt_bind hback).symm.trans hrun
          cases outcome with
          | ok u =>
            cases hrun
            exact ⟨cause, rfl, hlog3.trans hlog2, Or.inr hplaced3, fun _ => hok3 rfl⟩
          | error e =>
            cases hrun
            exact ⟨_, rfl, hlog3.trans hlog2, Or.inr hplaced3,
              fun hmark => absurd ⟨_, _, rfl⟩ hmark⟩

/-- The staged backup, once validated, is at the destination and no previous one is left. -/
def Replaced (env : Env) (paths : PublicationPaths) (staged : Option Tree) (w : World) : Prop :=
  ∃ tree, staged = some tree ∧ ValidTree env paths.staging tree ∧
    w.folders paths.destination = some tree ∧ w.folders paths.previous = none

/-- A removed directory was the previous one, while the validated staged backup stood at the
destination. -/
def RemovedBehind (env : Env) (paths : PublicationPaths) (staged : Option Tree) (m : Mutation) : Prop :=
  ∃ folders tree, m = .folderRemoved paths.previous folders ∧ staged = some tree ∧
    ValidTree env paths.staging tree ∧ folders paths.destination = some tree

/-- How a publication ends: what it removed, where the prior backup is, and what success means. -/
structure Publishing (env : Env) (paths : PublicationPaths) (prior staged : Option Tree)
    (log : List Mutation) (r : Except TuningError Unit) (w : World) : Prop where
  removed : ∃ new, w.log = new ++ log ∧ ∀ m ∈ new, RemovedBehind env paths staged m
  kept : w.folders paths.destination = prior ∨ w.folders paths.previous = prior ∨
    Replaced env paths staged w
  success : r = .ok () → Replaced env paths staged w

theorem Publishing.of_failure {prior staged : Option Tree} {log : List Mutation}
    (hr : r ≠ .ok ()) (hlog : w.log = log)
    (hkept : w.folders paths.destination = prior ∨ w.folders paths.previous = prior) :
    Publishing env paths prior staged log r w where
  removed := ⟨[], by simpa using hlog, by simp⟩
  kept := hkept.imp_right Or.inl
  success h := absurd h hr

theorem verifyPublished_reads (env : Env) (paths : PublicationPaths) (identity : Nat) :
    Keeps Reads (verifyPublished env paths identity) := by
  refine Keeps.bind Reads.trans (validateFolder_reads env _) fun found => ?_
  show Keeps Reads (if _ then _ else _)
  split
  · exact Keeps.fail Reads.refl _
  · exact syncParent_reads

theorem publishStaged_run {identity : Nat} {prior : Option Nat} {tree : Tree}
    (hvalid : ValidTree env paths.staging tree) (hprior : p.isSome → prior.isSome)
    (h : Placed paths (some tree) none p none w)
    (hrun : publishStaged env paths identity prior w = (r, w')) :
    Publishing env paths p (some tree) w.log r w' := by
  rcases hmove : PublicationFs.rename paths.staging paths.destination identity w with ⟨moved, w1⟩
  have hrun := (attempt_bind hmove).symm.trans hrun
  rcases rename_publish h hmove with ⟨e, rfl, hr⟩ | ⟨rfl, h1, hlog1⟩
  · obtain ⟨_, rfl, hlog, hplaced, -⟩ := rollbackBeforePublish_run (h.reads hr) hrun
    refine .of_failure (by simp) (hlog.trans hr.log) ?_
    rcases hplaced with hp | hp
    · exact Or.inr hp.previous
    · exact Or.inl hp.destination
  · rcases hverify : verifyPublished env paths identity w1 with ⟨verified, w2⟩
    have hreads2 := verifyPublished_reads env paths identity w1
    rw [hverify] at hreads2
    change Reads w1 w2 at hreads2
    have h2 := h1.reads hreads2
    have hlog2 := hreads2.log.trans hlog1
    have hrun := (attempt_bind hverify).symm.trans hrun
    cases verified with
    | error e =>
      obtain ⟨_, rfl, hlog, hplaced, -⟩ := quarantineAndRestore_run hprior h2 hrun
      refine .of_failure (by simp) (hlog.trans hlog2) ?_
      rcases hplaced with hp | hp | hp
      · exact Or.inr hp.previous
      · exact Or.inr hp.previous
      · exact Or.inl hp.destination
    | ok u =>
      cases prior with
      | none =>
        cases hrun
        have hnone : p = none := by
          cases p with
          | none => rfl
          | some t => exact absurd (hprior rfl) (by simp)
        subst hnone
        exact ⟨⟨[], by simpa using hlog2, by simp⟩, Or.inr (Or.inl h2.previous),
          fun _ => ⟨tree, rfl, hvalid, h2.destination, h2.previous⟩⟩
      | some prior =>
        rcases hremove : PublicationFs.removeIfIdentity paths.previous prior w2 with ⟨removed, w3⟩
        rcases removeOwnedDirectory_cases hremove with ⟨e, rfl, hr⟩ | ⟨rfl, hfolders, hlog3⟩
        · cases (bind_of_error hremove).symm.trans hrun
          exact .of_failure (by simp) (hr.log.trans hlog2) (Or.inr (h2.reads hr).previous)
        · have hsync := syncParent_reads w3
          rw [(bind_of_ok hremove).symm.trans hrun] at hsync
          change Reads w3 w' at hsync
          obtain ⟨-, -, -, hne, -, -⟩ := paths.ne
          have hreplaced : Replaced env paths (some tree) w' := by
            refine ⟨tree, rfl, hvalid, ?_, ?_⟩ <;>
              simp [hsync.folders, hfolders, World.setFolder, hne, h2.destination]
          refine ⟨⟨[.folderRemoved paths.previous w2.folders], ?_, fun m hm => ?_⟩,
            Or.inr (Or.inr hreplaced), fun _ => hreplaced⟩
          · rw [hsync.log, hlog3, hlog2]
            rfl
          · rw [List.mem_singleton.mp hm]
            exact ⟨_, tree, rfl, rfl, hvalid, h2.destination⟩

end

/-- Where a publication stops, or goes on to move the staged backup. -/
inductive PublicationRun (env : Env) (paths : PublicationPaths) (w : World)
    (r : Except TuningError Unit) (w' : World) : Prop
  | refused (cause : TuningError) (failed : r = .error cause) (reads : Reads w w')
  | fresh {tree : Tree} {stagingIdentity : Nat} {w1 : World}
      (valid : ValidTree env paths.staging tree)
      (placed : Placed paths (some tree) none none none w) (reads : Reads w w1)
      (published : publishStaged env paths stagingIdentity none w1 = (r, w'))
  | unflushed {tree old : Tree} {prior : Nat} {cause : TuningError} {w4 : World}
      (placed : Placed paths (some tree) (some old) none none w)
      (aside : Placed paths (some tree) none (some old) none w4) (log : w4.log = w.log)
      (restored : rollbackBeforePublish paths (some prior) cause w4 = (r, w'))
  | swaps {tree old : Tree} {stagingIdentity prior : Nat} {w1 w2 w3 w4 : World}
      (valid : ValidTree env paths.staging tree)
      (placed : Placed paths (some tree) (some old) none none w)
      (staged : PublicationFs.validate env paths.staging w = (.ok stagingIdentity, w1))
      (found : PublicationFs.validate env paths.destination w1 = (.ok prior, w2))
      (moved : PublicationFs.rename paths.destination paths.previous prior w2 = (.ok (), w3))
      (synced : PublicationFs.syncParent w3 = (.ok (), w4))
      (aside : Placed paths (some tree) none (some old) none w4) (log : w4.log = w.log)
      (published : publishStaged env paths stagingIdentity (some prior) w4 = (r, w'))

theorem replaceVerified_cases {env : Env} {paths : PublicationPaths} {w w' : World}
    {r : Except TuningError Unit} (hrun : replaceVerified env paths w = (r, w')) :
    PublicationRun env paths w r w' := by
  have hprevious : pathExists paths.previous w = (.ok (w.folders paths.previous).isSome, w) := rfl
  have hquarantine : pathExists paths.quarantine w = (.ok (w.folders paths.quarantine).isSome, w) := rfl
  have hrun := (bind_of_ok hquarantine).symm.trans ((bind_of_ok hprevious).symm.trans hrun)
  split at hrun
  · cases hrun
    exact .refused _ rfl (Reads.refl w)
  next hfree =>
  simp only [Bool.or_eq_true, Option.isSome_iff_ne_none, ne_eq, not_or, not_not] at hfree
  rcases hstaging : PublicationFs.validate env paths.staging w with ⟨found, w1⟩
  have hreads1 := validateFolder_reads env paths.staging w
  rw [hstaging] at hreads1
  change Reads w w1 at hreads1
  cases found with
  | error e =>
    cases (bind_of_error hstaging).symm.trans hrun
    exact .refused e rfl hreads1
  | ok stagingIdentity =>
    obtain ⟨tree, htree, -, hvalid⟩ := validateFolder_ok hstaging
    have hrun := (bind_of_ok hstaging).symm.trans hrun
    have hdestination : pathExists paths.destination w1 =
        (.ok (w.folders paths.destination).isSome, w1) := by
      unfold pathExists
      rw [hreads1.folders]
    have hrun := (bind_of_ok hdestination).symm.trans hrun
    cases hd : w.folders paths.destination with
    | none =>
      rw [hd] at hrun
      exact .fresh hvalid ⟨htree, hd, hfree.1, hfree.2⟩ hreads1 hrun
    | some old =>
      rw [hd] at hrun
      have h0 : Placed paths (some tree) (some old) none none w := ⟨htree, hd, hfree.1, hfree.2⟩
      rcases hprior : PublicationFs.validate env paths.destination w1 with ⟨found, w2⟩
      have hreads2 := validateFolder_reads env paths.destination w1
      rw [hprior] at hreads2
      change Reads w1 w2 at hreads2
      have hreads := Reads.trans _ _ _ hreads1 hreads2
      cases found with
      | error e =>
        cases (bind_of_error hprior).symm.trans hrun
        exact .refused e rfl hreads
      | ok prior =>
        have hrun := (bind_of_ok hprior).symm.trans hrun
        rcases hmove : PublicationFs.rename paths.destination paths.previous prior w2 with ⟨moved, w3⟩
        rcases rename_aside (h0.reads hreads) hmove with ⟨e, rfl, hr⟩ | ⟨rfl, -, h3, hlog3⟩
        · cases (bind_of_error hmove).symm.trans hrun
          exact .refused e rfl (Reads.trans _ _ _ hreads hr)
        · have hrun := (bind_of_ok hmove).symm.trans hrun
          rcases hsync : PublicationFs.syncParent w3 with ⟨synced, w4⟩
          have hreads4 := syncParent_reads w3
          rw [hsync] at hreads4
          change Reads w3 w4 at hreads4
          have h4 := h3.reads hreads4
          have hlog4 : w4.log = w.log := hreads4.log.trans (hlog3.trans hreads.log)
          have hrun := (attempt_bind hsync).symm.trans hrun
          cases synced with
          | error e => exact .unflushed h0 h4 hlog4 hrun
          | ok u => exact .swaps hvalid h0 hstaging hprior hmove hsync h4 hlog4 hrun

/-- A publication that succeeds has replaced the prior backup. -/
theorem replaceVerified_ok {w' : World} (hrun : replaceVerified env paths w = (.ok (), w')) :
    Replaced env paths (w.folders paths.staging) w' := by
  cases replaceVerified_cases hrun with
  | refused cause failed reads => cases failed
  | fresh valid placed reads published =>
    rw [placed.staging]
    exact (publishStaged_run valid (by simp) (placed.reads reads) published).success rfl
  | unflushed placed aside log restored =>
    obtain ⟨_, he, -⟩ := rollbackBeforePublish_run aside restored
    cases he
  | swaps valid placed _ _ _ _ aside log published =>
    rw [placed.staging]
    exact (publishStaged_run valid (fun _ => rfl) aside published).success rfl

/-- **Publication.**  Whatever the folders hold and whichever steps fail: a directory is removed
only behind the validated staged backup; the prior backup ends at its destination or at the
previous path, unless it has been replaced; success means that it has been. -/
theorem replaceVerified_safe (env : Env) (paths : PublicationPaths) (w : World) :
    Publishing env paths (w.folders paths.destination) (w.folders paths.staging) w.log
      (replaceVerified env paths w).1 (replaceVerified env paths w).2 := by
  rcases hrun : replaceVerified env paths w with ⟨r, w'⟩
  show Publishing env paths _ _ w.log r w'
  cases replaceVerified_cases hrun with
  | refused cause failed reads =>
    subst failed
    exact .of_failure (by simp) reads.log (Or.inl (by rw [reads.folders]))
  | fresh valid placed reads published =>
    rw [placed.staging, placed.destination, ← reads.log]
    exact publishStaged_run valid (by simp) (placed.reads reads) published
  | unflushed placed aside log restored =>
    rw [placed.staging, placed.destination]
    obtain ⟨_, rfl, hlog, hplaced, -⟩ := rollbackBeforePublish_run aside restored
    refine .of_failure (by simp) (hlog.trans log) ?_
    rcases hplaced with hp | hp
    · exact Or.inr hp.previous
    · exact Or.inl hp.destination
  | swaps valid placed _ _ _ _ aside log published =>
    rw [placed.staging, placed.destination, ← log]
    exact publishStaged_run valid (fun _ => rfl) aside published

end NetworkLantern.Tuning
