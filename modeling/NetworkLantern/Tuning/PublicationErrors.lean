import NetworkLantern.Tuning.Contents
import NetworkLantern.Tuning.Publication

/-!
# What a failed publication leaves

A publication that fails has put the prior backup back, or its error says that
the recovery is incomplete.  There is one way out of this: once the new backup is
published, the previous one is removed and the parent flushed, and an error of
these two steps is returned as it is, with the new backup at the destination
(`replaceVerified_restores_iff`).
-/

namespace NetworkLantern.Tuning

open NetworkLantern Act

/-! ## Calls that pass -/

namespace World

/-- After so many calls that change nothing. -/
def skip (w : World) (n : Nat) : World := { w with script := w.script.drop n }

@[simp] theorem skip_folders (w : World) (n : Nat) : (w.skip n).folders = w.folders := rfl

theorem skip_reads (w : World) (n : Nat) : Reads w (w.skip n) := rfl

@[simp] theorem skip_script (w : World) (n : Nat) : (w.skip n).script = w.script.drop n := rfl

theorem skip_one (w : World) : w.skip 1 = w.advance := by
  unfold skip advance
  rw [List.drop_one]

theorem skip_skip (w : World) (m n : Nat) : (w.skip m).skip n = w.skip (m + n) := by
  unfold skip
  rw [List.drop_drop]

theorem passes_one {w : World} : w.Passes 1 ↔ w.nextFailure = none :=
  passes_succ.trans (and_iff_left fun _ hf => by cases hf)

theorem passes_add {w : World} {m n : Nat} :
    w.Passes (m + n) ↔ w.Passes m ∧ (w.skip m).Passes n := by
  unfold Passes
  rw [skip_script, List.take_add, List.forall_mem_append]

/-- A run of so many calls that pass. -/
structure After (n : Nat) (w w' : World) : Prop where
  passes : w.Passes n
  script : w'.script = w.script.drop n

theorem After.rest {m n : Nat} {w w' : World} (h : After m w w') (hpass : w.Passes (m + n)) :
    w'.Passes n := by
  have hrest := (passes_add.mp hpass).2
  unfold Passes at hrest ⊢
  rw [skip_script, ← h.script] at hrest
  exact hrest

theorem After.trans {m n : Nat} {w w1 w2 : World} (h : After m w w1) (h' : After n w1 w2) :
    After (m + n) w w2 where
  passes := by
    refine passes_add.mpr ⟨h.passes, ?_⟩
    have hrest := h'.passes
    unfold Passes at hrest ⊢
    rw [skip_script, ← h.script]
    exact hrest
  script := by rw [h'.script, h.script, List.drop_drop]

end World

/-! ## Steps that end well -/

section
variable {env : Env} {paths : PublicationPaths} {path source target : Path} {w w' : World}
  {identity : Nat}

theorem inspect_passes {α : Type} {failure : Failure → TuningError}
    {read : World → Except TuningError α} {a : α} :
    inspect failure read w = (.ok a, w') ↔
      w.Passes 1 ∧ w' = w.skip 1 ∧ read (w.skip 1) = .ok a := by
  rw [inspect_ok, World.passes_one, World.skip_one]

theorem directoryIdentity_passes :
    directoryIdentity path w = (.ok identity, w') ↔
      w.Passes 1 ∧ w' = w.skip 1 ∧ ∃ tree, w.folders path = some tree ∧ tree.identity = identity := by
  unfold directoryIdentity
  rw [inspect_passes, World.skip_folders]
  cases w.folders path <;> simp

theorem syncParent_passes :
    PublicationFs.syncParent w = (.ok (), w') ↔ w.Passes 1 ∧ w' = w.skip 1 := by
  unfold PublicationFs.syncParent
  rw [inspect_passes]
  simp

theorem validTree_iff {tree : Tree} :
    ValidTree env path tree ↔
      ∃ manifest, tree.manifest = .ok manifest ∧ checkTree env tree manifest = .ok () := by
  constructor
  · rintro ⟨bundle, hbundle⟩
    obtain ⟨hmanifest, -, -, hcheck⟩ := checkBundle_ok hbundle
    exact ⟨_, hmanifest, hcheck⟩
  · rintro ⟨manifest, hmanifest, hcheck⟩
    unfold ValidTree checkBundle
    split
    · next e he => rw [hmanifest] at he; cases he
    · next m hm =>
      rw [hmanifest] at hm
      cases hm
      split
      · next e he => rw [hcheck] at he; cases he
      · exact ⟨_, rfl⟩

theorem validate_passes :
    PublicationFs.validate env path w = (.ok identity, w') ↔
      w.Passes 3 ∧ w' = w.skip 3 ∧
        ∃ tree, w.folders path = some tree ∧ tree.identity = identity ∧ ValidTree env path tree := by
  constructor
  · intro h
    obtain ⟨tree, htree, hid, hvalid⟩ := validateFolder_ok h
    obtain ⟨before, w1, hbefore, h⟩ := bind_ok.mp h
    obtain ⟨hpass1, rfl, -⟩ := directoryIdentity_passes.mp hbefore
    obtain ⟨bundle, w2, hbundle, h⟩ := bind_ok.mp h
    obtain ⟨hpass2, rfl, -⟩ := inspect_passes.mp hbundle
    obtain ⟨after, w3, hafter, h⟩ := bind_ok.mp h
    obtain ⟨hpass3, rfl, -⟩ := directoryIdentity_passes.mp hafter
    split at h
    · cases h
    · cases h
      rw [World.skip_skip] at hpass3
      refine ⟨World.passes_add.mpr ⟨World.passes_add.mpr ⟨hpass1, hpass2⟩, hpass3⟩, ?_, tree, htree,
        hid, hvalid⟩
      rw [World.skip_skip, World.skip_skip]
  · rintro ⟨hpass, rfl, tree, htree, hid, bundle, hbundle⟩
    obtain ⟨hpass, hpass3⟩ := World.passes_add.mp (show w.Passes (1 + 1 + 1) from hpass)
    obtain ⟨hpass1, hpass2⟩ := World.passes_add.mp hpass
    rw [← World.skip_skip] at hpass3
    have hbefore := directoryIdentity_passes.mpr ⟨hpass1, rfl, tree, htree, hid⟩
    have hvalidate : validateBackupBundle env path (w.skip 1) = (.ok bundle, (w.skip 1).skip 1) := by
      refine inspect_passes.mpr ⟨hpass2, rfl, ?_⟩
      simp only [World.skip_folders, htree]
      exact hbundle
    have hafter := directoryIdentity_passes.mpr ⟨hpass3, rfl, tree, htree, hid⟩
    refine bind_ok.mpr ⟨_, _, hbefore, bind_ok.mpr ⟨_, _, hvalidate, bind_ok.mpr ⟨_, _, hafter, ?_⟩⟩⟩
    rw [if_neg (not_not.mpr rfl), World.skip_skip, World.skip_skip]
    rfl

/-- A change to a directory, after a check of its identity. -/
theorem guarded_passes {e : TuningError} {failure : Failure → TuningError}
    {update : World → Except TuningError World} :
    (directoryIdentity path >>= fun found =>
      if found ≠ identity then Act.fail e else change failure update) w = (.ok (), w') ↔
      w.Passes 2 ∧ (∃ tree, w.folders path = some tree ∧ tree.identity = identity) ∧
        update (w.skip 2) = .ok w' := by
  constructor
  · intro h
    obtain ⟨found, w1, hfound, h⟩ := bind_ok.mp h
    obtain ⟨hpass1, rfl, tree, htree, hid⟩ := directoryIdentity_passes.mp hfound
    split at h
    · cases h
    · next hsame =>
      obtain ⟨hnext, hupdate⟩ := change_ok.mp h
      rw [← World.skip_one, World.skip_skip] at hupdate
      exact ⟨World.passes_add.mpr ⟨hpass1, World.passes_one.mpr hnext⟩,
        ⟨tree, htree, hid.trans (not_not.mp hsame)⟩, hupdate⟩
  · rintro ⟨hpass, ⟨tree, htree, hid⟩, hupdate⟩
    obtain ⟨hpass1, hpass2⟩ := World.passes_add.mp (show w.Passes (1 + 1) from hpass)
    have hfound := directoryIdentity_passes.mpr ⟨hpass1, rfl, tree, htree, hid⟩
    refine bind_ok.mpr ⟨_, _, hfound, ?_⟩
    rw [if_neg (not_not.mpr rfl)]
    refine change_ok.mpr ⟨World.passes_one.mp hpass2, ?_⟩
    rw [← World.skip_one, World.skip_skip]
    exact hupdate

theorem rename_passes :
    PublicationFs.rename source target identity w = (.ok (), w') ↔
      w.Passes 2 ∧ ∃ tree, w.folders source = some tree ∧ tree.identity = identity ∧
        w.folders target = none ∧
        w' = ((w.skip 2).setFolder source none).setFolder target (some tree) := by
  refine guarded_passes.trans (and_congr_right fun _ => ?_)
  constructor
  · rintro ⟨⟨tree, htree, hid⟩, hmove⟩
    rw [World.skip_folders, htree] at hmove
    cases ht : w.folders target with
    | some other =>
      rw [ht] at hmove
      cases hmove
    | none =>
      rw [ht] at hmove
      cases hmove
      exact ⟨tree, htree, hid, rfl, rfl⟩
  · rintro ⟨tree, htree, hid, htarget, rfl⟩
    refine ⟨⟨tree, htree, hid⟩, ?_⟩
    rw [World.skip_folders, htree, htarget]

theorem verifyPublished_passes :
    verifyPublished env paths identity w = (.ok (), w') ↔
      w.Passes 4 ∧ w' = w.skip 4 ∧ ∃ tree, w.folders paths.destination = some tree ∧
        tree.identity = identity ∧ ValidTree env paths.destination tree := by
  constructor
  · intro h
    obtain ⟨found, w1, hfound, h⟩ := bind_ok.mp h
    obtain ⟨hpass1, rfl, tree, htree, hid, hvalid⟩ := validate_passes.mp hfound
    split at h
    · cases h
    · next hsame =>
      obtain ⟨hpass2, rfl⟩ := syncParent_passes.mp h
      exact ⟨World.passes_add.mpr ⟨hpass1, hpass2⟩, World.skip_skip .., tree, htree,
        hid.trans (not_not.mp hsame), hvalid⟩
  · rintro ⟨hpass, rfl, tree, htree, hid, hvalid⟩
    obtain ⟨hpass1, hpass2⟩ := World.passes_add.mp (show w.Passes (3 + 1) from hpass)
    have hfound := validate_passes.mpr ⟨hpass1, rfl, tree, htree, hid, hvalid⟩
    refine bind_ok.mpr ⟨_, _, hfound, ?_⟩
    rw [if_neg (not_not.mpr rfl)]
    exact syncParent_passes.mpr ⟨hpass2, (World.skip_skip w 3 1).symm⟩

theorem removeOwnedDirectory_passes :
    removeOwnedDirectory path identity w = (.ok (), w') ↔
      w.Passes 2 ∧ ∃ tree, w.folders path = some tree ∧ tree.identity = identity ∧
        w' = ((w.skip 2).setFolder path none).record (.folderRemoved path w.folders) := by
  refine guarded_passes.trans (and_congr_right fun _ => ?_)
  constructor
  · rintro ⟨⟨tree, htree, hid⟩, hremove⟩
    cases hremove
    exact ⟨tree, htree, hid, rfl⟩
  · rintro ⟨tree, htree, hid, rfl⟩
    exact ⟨⟨tree, htree, hid⟩, rfl⟩

end

/-! ## The swap and the removal -/

/-- The steps of a publication up to the removal of the previous backup, when there is one. -/
def swapTrees (env : Env) (paths : PublicationPaths) : Run Nat := do
  let stagingIdentity ← PublicationFs.validate env paths.staging
  let prior ← PublicationFs.validate env paths.destination
  PublicationFs.rename paths.destination paths.previous prior
  PublicationFs.syncParent
  PublicationFs.rename paths.staging paths.destination stagingIdentity
  verifyPublished env paths stagingIdentity
  return prior

/-- The last two steps. -/
def removePrevious (paths : PublicationPaths) (prior : Nat) : Run Unit := do
  PublicationFs.removeIfIdentity paths.previous prior
  PublicationFs.syncParent

/-- A staged backup and a prior one, both valid, and a swap none of whose calls fails. -/
structure Swaps (env : Env) (paths : PublicationPaths) (staged old : Tree) (w : World) : Prop where
  placed : Placed paths (some staged) (some old) none none w
  staged : ValidTree env paths.staging staged
  old : ValidTree env paths.destination old
  passes : w.Passes 15

section
variable {env : Env} {paths : PublicationPaths} {staged old : Tree} {w w' : World} {prior : Nat}
  {e : TuningError}

theorem rename_after {source target : Path} {identity : Nat}
    (h : PublicationFs.rename source target identity w = (.ok (), w')) : World.After 2 w w' := by
  obtain ⟨hpass, tree, -, -, -, rfl⟩ := rename_passes.mp h
  exact ⟨hpass, rfl⟩

/-- What a rename that passed has done. -/
theorem of_passed {P : Prop}
    (h : (∃ e, (.ok () : Except TuningError Unit) = .error e ∧ Reads w w') ∨
      (.ok () : Except TuningError Unit) = .ok () ∧ P) : P := by
  rcases h with ⟨e, he, -⟩ | ⟨-, h⟩
  · cases he
  · exact h

/-- A swap that ends well has passed its 15 calls, and the backups have changed places. -/
theorem swapTrees_ok (h : Placed paths (some staged) (some old) none none w)
    (hrun : swapTrees env paths w = (.ok prior, w')) :
    Swaps env paths staged old w ∧ prior = old.identity ∧
      Placed paths none (some staged) (some old) none w' ∧ World.After 15 w w' := by
  obtain ⟨sid, w1, hstaging, hrun⟩ := bind_ok.mp hrun
  obtain ⟨hpass1, rfl, tree1, htree1, rfl, hvalid1⟩ := validate_passes.mp hstaging
  obtain ⟨pid, w2, hdestination, hrun⟩ := bind_ok.mp hrun
  obtain ⟨hpass2, rfl, tree2, htree2, rfl, hvalid2⟩ := validate_passes.mp hdestination
  rw [h.staging] at htree1
  rw [World.skip_folders, h.destination] at htree2
  cases htree1
  cases htree2
  have h2 := (h.reads (World.skip_reads w 3)).reads (World.skip_reads _ 3)
  have hafter2 : World.After (3 + 3) w ((w.skip 3).skip 3) :=
    World.After.trans ⟨hpass1, rfl⟩ ⟨hpass2, rfl⟩
  obtain ⟨_, w3, haside, hrun⟩ := bind_ok.mp hrun
  obtain ⟨-, h3, -⟩ := of_passed (rename_aside h2 haside)
  obtain ⟨_, w4, hsync, hrun⟩ := bind_ok.mp hrun
  obtain ⟨hpass4, rfl⟩ := syncParent_passes.mp hsync
  have h4 := h3.reads (World.skip_reads w3 1)
  obtain ⟨_, w5, hpublish, hrun⟩ := bind_ok.mp hrun
  obtain ⟨h5, -⟩ := of_passed (rename_publish h4 hpublish)
  obtain ⟨_, w6, hverify, hrun⟩ := bind_ok.mp hrun
  obtain ⟨hpass6, rfl, -⟩ := verifyPublished_passes.mp hverify
  cases hrun
  have hafter : World.After (3 + 3 + 2 + 1 + 2 + 4) w (w5.skip 4) :=
    (((hafter2.trans (rename_after haside)).trans ⟨hpass4, rfl⟩).trans
      (rename_after hpublish)).trans ⟨hpass6, rfl⟩
  exact ⟨⟨h, hvalid1, hvalid2, hafter.passes⟩, rfl, h5.reads (World.skip_reads w5 4), hafter⟩

/-- A swap passes when nothing is in its way. -/
theorem Swaps.run (h : Swaps env paths staged old w) :
    ∃ w', swapTrees env paths w = (.ok old.identity, w') := by
  obtain ⟨hp, hstaged, hold, hpass⟩ := h
  have hpass : w.Passes (3 + (3 + (2 + (1 + (2 + 4))))) := hpass
  have hstaging : PublicationFs.validate env paths.staging w = (.ok staged.identity, w.skip 3) :=
    validate_passes.mpr ⟨(World.passes_add.mp hpass).1, rfl, staged, hp.staging, rfl, hstaged⟩
  have hpass := (World.passes_add.mp hpass).2
  have hp1 := hp.reads (World.skip_reads w 3)
  have hdestination : PublicationFs.validate env paths.destination (w.skip 3) =
      (.ok old.identity, (w.skip 3).skip 3) :=
    validate_passes.mpr ⟨(World.passes_add.mp hpass).1, rfl, old, hp1.destination, rfl, hold⟩
  have hpass := (World.passes_add.mp hpass).2
  have hp2 := hp1.reads (World.skip_reads _ 3)
  obtain ⟨w3, haside⟩ : ∃ w3, PublicationFs.rename paths.destination paths.previous old.identity
      ((w.skip 3).skip 3) = (.ok (), w3) :=
    ⟨_, rename_passes.mpr ⟨(World.passes_add.mp hpass).1, old, hp2.destination, rfl, hp2.previous, rfl⟩⟩
  obtain ⟨-, hp3, -⟩ := of_passed (rename_aside hp2 haside)
  have hpass := (rename_after haside).rest hpass
  have hsync := syncParent_passes.mpr ⟨(World.passes_add.mp hpass).1, rfl⟩
  have hpass := (World.passes_add.mp hpass).2
  have hp4 := hp3.reads (World.skip_reads w3 1)
  obtain ⟨w5, hpublish⟩ : ∃ w5, PublicationFs.rename paths.staging paths.destination staged.identity
      (w3.skip 1) = (.ok (), w5) :=
    ⟨_, rename_passes.mpr ⟨(World.passes_add.mp hpass).1, staged, hp4.staging, rfl, hp4.destination,
      rfl⟩⟩
  obtain ⟨hp5, -⟩ := of_passed (rename_publish hp4 hpublish)
  have hverify := verifyPublished_passes.mpr ⟨(rename_after hpublish).rest hpass, rfl, staged,
    hp5.destination, rfl, validTree_iff.mpr (validTree_iff.mp hstaged)⟩
  exact ⟨_, bind_ok.mpr ⟨_, _, hstaging, bind_ok.mpr ⟨_, _, hdestination, bind_ok.mpr ⟨_, _, haside,
    bind_ok.mpr ⟨_, _, hsync, bind_ok.mpr ⟨_, _, hpublish, bind_ok.mpr ⟨_, _, hverify, rfl⟩⟩⟩⟩⟩⟩⟩

/-! ### The removal -/

/-- An error of a call is the one of the script or the one of the call. -/
theorem external_error_cases {α : Type} {failure : Failure → TuningError}
    {perform : World → Except TuningError (α × World)}
    (h : external failure perform w = (.error e, w')) :
    (∃ f, e = failure f) ∨ perform w.advance = .error e := by
  unfold external at h
  cases hf : w.nextFailure with
  | some f =>
    rw [hf] at h
    cases h
    exact .inl ⟨f, rfl⟩
  | none =>
    rw [hf] at h
    cases hp : perform w.advance with
    | ok r => rw [hp] at h; cases h
    | error e' => rw [hp] at h; cases h; exact .inr rfl

theorem not_recoveryIncomplete_io (operation message : Str) :
    ¬ RecoveryIncomplete (.io operation message) := by
  rintro ⟨cause, recovery, h⟩
  cases h

theorem syncParent_error (h : PublicationFs.syncParent w = (.error e, w')) :
    ¬ RecoveryIncomplete e := by
  unfold PublicationFs.syncParent inspect at h
  rcases external_error_cases h with ⟨f, rfl⟩ | h
  · exact not_recoveryIncomplete_io _ _
  · cases h

theorem removeOwnedDirectory_error {path : Path} {tree : Tree} (ht : w.folders path = some tree)
    (h : removeOwnedDirectory path tree.identity w = (.error e, w')) : ¬ RecoveryIncomplete e := by
  rcases bind_error.mp h with h | ⟨identity, w1, hid, h⟩
  · unfold directoryIdentity inspect at h
    rcases external_error_cases h with ⟨f, rfl⟩ | h
    · exact not_recoveryIncomplete_io _ _
    · simp only [World.advance_folders, ht] at h
      cases h
  · obtain ⟨-, -, tree', ht', rfl⟩ := directoryIdentity_passes.mp hid
    unfold change at h
    obtain rfl : tree = tree' := Option.some.inj (ht.symm.trans ht')
    rw [if_neg (not_not.mpr rfl)] at h
    rcases external_error_cases h with ⟨f, rfl⟩ | h
    · exact not_recoveryIncomplete_io _ _
    · cases h

/-- A removal that fails leaves the published backup, with an error that does not say so. -/
theorem removePrevious_error (h : Placed paths none (some staged) (some old) none w)
    (hrun : removePrevious paths old.identity w = (.error e, w')) :
    ¬ RecoveryIncomplete e ∧ w'.folders paths.destination = some staged ∧ ¬ w.Passes 3 := by
  obtain ⟨-, -, -, hne, -, -⟩ := paths.ne
  rcases bind_error.mp hrun with hremove | ⟨_, w1, hremove, hsync⟩
  · refine ⟨removeOwnedDirectory_error h.previous hremove, ?_, fun hpass => ?_⟩
    · rcases removeOwnedDirectory_cases hremove with ⟨_, -, hr⟩ | ⟨he, -⟩
      · rw [hr.folders, h.destination]
      · cases he
    · have hpass := World.passes_add.mp (show w.Passes (2 + 1) from hpass)
      have hok := removeOwnedDirectory_passes.mpr ⟨hpass.1, old, h.previous, rfl, rfl⟩
      cases hok.symm.trans hremove
  · obtain ⟨hpass2, tree, -, -, rfl⟩ := removeOwnedDirectory_passes.mp hremove
    refine ⟨syncParent_error hsync, ?_, fun hpass => ?_⟩
    · have hr := syncParent_reads (((w.skip 2).setFolder paths.previous none).record
        (.folderRemoved paths.previous w.folders))
      rw [hsync] at hr
      rw [hr.folders]
      simp [World.setFolder, hne, h.destination]
    · have hafter : World.After 2 w (((w.skip 2).setFolder paths.previous none).record
          (.folderRemoved paths.previous w.folders)) := ⟨hpass2, rfl⟩
      have hnext := hafter.rest (show w.Passes (2 + 1) from hpass)
      cases (syncParent_passes.mpr ⟨hnext, rfl⟩).symm.trans hsync

theorem removePrevious_ok (hrun : removePrevious paths prior w = (.ok (), w')) : w.Passes 3 := by
  obtain ⟨_, w1, hremove, hsync⟩ := bind_ok.mp hrun
  obtain ⟨hpass, tree, -, -, rfl⟩ := removeOwnedDirectory_passes.mp hremove
  exact World.passes_add.mpr ⟨hpass, (syncParent_passes.mp hsync).1⟩

/-! ### The publication -/

/-- After a swap only the removal is left. -/
theorem replaceVerified_of_swap (h : Placed paths (some staged) (some old) none none w)
    (hswap : swapTrees env paths w = (.ok prior, w')) :
    replaceVerified env paths w = removePrevious paths prior w' := by
  obtain ⟨sid, w1, hstaging, hrun⟩ := bind_ok.mp hswap
  obtain ⟨pid, w2, hdestination, hrun⟩ := bind_ok.mp hrun
  obtain ⟨_, w3, haside, hrun⟩ := bind_ok.mp hrun
  obtain ⟨_, w4, hsync, hrun⟩ := bind_ok.mp hrun
  obtain ⟨_, w5, hpublish, hrun⟩ := bind_ok.mp hrun
  obtain ⟨_, w6, hverify, hrun⟩ := bind_ok.mp hrun
  cases hrun
  have hprevious : pathExists paths.previous w = (.ok false, w) := by
    unfold pathExists
    rw [h.previous]
    rfl
  have hquarantine : pathExists paths.quarantine w = (.ok false, w) := by
    unfold pathExists
    rw [h.quarantine]
    rfl
  have hexists : pathExists paths.destination w1 = (.ok true, w1) := by
    obtain ⟨-, rfl, -⟩ := validate_passes.mp hstaging
    unfold pathExists
    rw [World.skip_folders, h.destination]
    rfl
  refine (bind_of_ok hprevious).trans ((bind_of_ok hquarantine).trans ?_)
  refine (bind_of_ok hstaging).trans ((bind_of_ok hexists).trans ?_)
  refine (bind_of_ok hdestination).trans ((bind_of_ok haside).trans ?_)
  refine (attempt_bind hsync).trans ((attempt_bind hpublish).trans ?_)
  exact attempt_bind hverify

/-- Publishing fails with the prior backup back, or it fails at the removal. -/
theorem publishStaged_error {p : Option Tree} {identity : Nat} {prior : Option Nat}
    (hprior : p.isSome → prior.isSome) (h : Placed paths (some staged) none p none w)
    (hrun : publishStaged env paths identity prior w = (.error e, w')) :
    RecoveryIncomplete e ∨ w'.folders paths.destination = p ∨
      ∃ prior' w1 w2, prior = some prior' ∧
        PublicationFs.rename paths.staging paths.destination identity w = (.ok (), w1) ∧
        verifyPublished env paths identity w1 = (.ok (), w2) ∧
        removePrevious paths prior' w2 = (.error e, w') := by
  rw [or_iff_not_imp_left]
  intro hmark
  rcases hmove : PublicationFs.rename paths.staging paths.destination identity w with ⟨moved, w1⟩
  have hrun := (attempt_bind hmove).symm.trans hrun
  rcases rename_publish h hmove with ⟨e', rfl, hr⟩ | ⟨rfl, h1, -⟩
  · obtain ⟨_, he, -, -, hback⟩ := rollbackBeforePublish_run (h.reads hr) hrun
    cases he
    exact .inl (hback hmark)
  · rcases hverify : verifyPublished env paths identity w1 with ⟨verified, w2⟩
    have hr := verifyPublished_reads env paths identity w1
    rw [hverify] at hr
    have h2 := h1.reads hr
    have hrun := (attempt_bind hverify).symm.trans hrun
    cases verified with
    | error e' =>
      obtain ⟨_, he, -, -, hback⟩ := quarantineAndRestore_run hprior h2 hrun
      cases he
      exact .inl (hback hmark)
    | ok u =>
      cases prior with
      | none => cases hrun
      | some prior => exact .inr ⟨prior, w1, w2, rfl, rfl, hverify, hrun⟩

/-- The only way out of the law: the removal after a swap. -/
theorem replaceVerified_error (hrun : replaceVerified env paths w = (.error e, w'))
    (hmark : ¬ RecoveryIncomplete e) :
    w'.folders paths.destination = w.folders paths.destination ∨
      ∃ staged old prior w2, Placed paths (some staged) (some old) none none w ∧
        swapTrees env paths w = (.ok prior, w2) ∧
        removePrevious paths prior w2 = (.error e, w') := by
  cases replaceVerified_cases hrun with
  | refused cause failed reads => exact .inl (by rw [reads.folders])
  | fresh valid placed reads published =>
    rw [placed.destination]
    rcases publishStaged_error (by simp) (placed.reads reads) published with
      hmark' | hsame | ⟨_, _, _, hp, -⟩
    · exact absurd hmark' hmark
    · exact .inl hsame
    · cases hp
  | unflushed placed aside log restored =>
    rw [placed.destination]
    obtain ⟨_, he, -, -, hback⟩ := rollbackBeforePublish_run aside restored
    cases he
    exact .inl (hback hmark)
  | swaps valid placed staged found moved synced aside log published =>
    rcases publishStaged_error (fun _ => rfl) aside published with
      hmark' | hsame | ⟨prior', w5, w6, hp, hpublish, hverify, hremove⟩
    · exact absurd hmark' hmark
    · rw [placed.destination]
      exact .inl hsame
    · cases hp
      refine .inr ⟨_, _, _, w6, placed, ?_, hremove⟩
      exact bind_ok.mpr ⟨_, _, staged, bind_ok.mpr ⟨_, _, found,
        bind_ok.mpr ⟨_, _, moved, bind_ok.mpr ⟨_, _, synced, bind_ok.mpr ⟨_, _, hpublish,
          bind_ok.mpr ⟨_, _, hverify, rfl⟩⟩⟩⟩⟩⟩

/-- After a swap that passes, a failure of the removal is returned as it is, with the new backup
at the destination. -/
theorem Swaps.unrestored (h : Swaps env paths staged old w) (hfails : ¬ w.Passes 18) :
    ∃ e w', replaceVerified env paths w = (.error e, w') ∧ ¬ RecoveryIncomplete e ∧
      w'.folders paths.destination = some staged := by
  obtain ⟨w2, hswap⟩ := h.run
  obtain ⟨-, -, h2, hafter⟩ := swapTrees_ok h.placed hswap
  rw [replaceVerified_of_swap h.placed hswap]
  rcases hremove : removePrevious paths old.identity w2 with ⟨r, w'⟩
  cases r with
  | ok u =>
    have hlast : World.After 3 w2 (w2.skip 3) := ⟨removePrevious_ok hremove, rfl⟩
    exact absurd (hafter.trans hlast).passes hfails
  | error e =>
    obtain ⟨hmark, hdestination, -⟩ := removePrevious_error h2 hremove
    exact ⟨e, w', rfl, hmark, hdestination⟩

/-- **The error law of a publication.**  A publication that fails without saying that the
recovery is incomplete leaves the destination as it was, exactly when it is not the removal of
the previous backup that fails: two different valid backups, a swap that passes, and then a
failure of one of the last three calls. -/
theorem replaceVerified_restores_iff (env : Env) (paths : PublicationPaths) (w : World) :
    (∀ e w', replaceVerified env paths w = (.error e, w') → ¬ RecoveryIncomplete e →
        w'.folders paths.destination = w.folders paths.destination) ↔
      ∀ staged old, Swaps env paths staged old w → w.Passes 18 ∨ staged = old := by
  constructor
  · intro hlaw staged old hswaps
    by_cases hpass : w.Passes 18
    · exact .inl hpass
    · obtain ⟨e, w', hrun, hmark, hdestination⟩ := hswaps.unrestored hpass
      have hsame := hlaw e w' hrun hmark
      rw [hdestination, hswaps.placed.destination] at hsame
      exact .inr (Option.some.inj hsame)
  · intro hpasses e w' hrun hmark
    rcases replaceVerified_error hrun hmark with h | ⟨staged, old, prior, w2, h, hswap, hremove⟩
    · exact h
    · obtain ⟨hswaps, rfl, h2, hafter⟩ := swapTrees_ok h hswap
      obtain ⟨-, hdestination, hfails⟩ := removePrevious_error h2 hremove
      rcases hpasses staged old hswaps with hpass | rfl
      · exact absurd (hafter.rest (show w.Passes (15 + 3) from hpass)) hfails
      · rw [hdestination, h.destination]

end

/-! ### A removal that fails -/

def backupPaths : PublicationPaths where
  staging := .configured "staging"
  destination := .configured "backup"
  previous := .configured "previous"
  quarantine := .configured "quarantine"
  distinct := by decide

theorem denied_ne_absent : (5 : Int) ≠ 2 := by decide

/-- A backup of the power plan, staged and as the prior one, and a failure after `n` calls. -/
def failsAfter (n : Nat) : World where
  machine := ⟨fun _ _ => none, ⟨[], List.nodup_nil⟩, [], [], [], ⟨0, 0, 0, .replicate 8 0⟩⟩
  folders path :=
    if path = backupPaths.staging then some ((powerPlanContents 2).tree powerPlanReader)
    else if path = backupPaths.destination then some ((powerPlanContents 1).tree powerPlanReader)
    else none
  script := List.replicate n none ++ [some ⟨5, "Access is denied.", denied_ne_absent⟩]
  fresh := 0
  log := []

/-- The removal is denied. -/
def deniedRemoval : World := failsAfter 16

/-- The previous backup is removed, and the flush behind it is denied. -/
def deniedFlush : World := failsAfter 17

theorem powerPlan_validTree (path : Path) (identity : Nat) :
    ValidTree powerPlanEnv path ((powerPlanContents identity).tree powerPlanReader) :=
  validTree_iff.mpr ⟨_, validateContents_checkTree (validateContents_powerPlan identity)⟩

theorem failsAfter_swaps {n : Nat} (h : (failsAfter n).Passes 15) :
    Swaps powerPlanEnv backupPaths ((powerPlanContents 2).tree powerPlanReader)
      ((powerPlanContents 1).tree powerPlanReader) (failsAfter n) where
  placed := ⟨rfl, rfl, rfl, rfl⟩
  staged := powerPlan_validTree _ 2
  old := powerPlan_validTree _ 1
  passes := h

/-- The new backup stays, and nothing says that the recovery is incomplete. -/
def Unrestored (w : World) : Prop :=
  ∃ e w', replaceVerified powerPlanEnv backupPaths w = (.error e, w') ∧ ¬ RecoveryIncomplete e ∧
    w'.folders backupPaths.destination ≠ w.folders backupPaths.destination

theorem failsAfter_unrestored {n : Nat} (h : (failsAfter n).Passes 15)
    (hfails : ¬ (failsAfter n).Passes 18) : Unrestored (failsAfter n) := by
  obtain ⟨e, w', hrun, hmark, hdestination⟩ := (failsAfter_swaps h).unrestored hfails
  refine ⟨e, w', hrun, hmark, fun hsame => ?_⟩
  rw [hdestination, (failsAfter_swaps h).placed.destination] at hsame
  have hidentity := congrArg Tree.identity (Option.some.inj hsame)
  exact absurd hidentity (show (2 : Nat) ≠ 1 by decide)

/-- A denied removal and a denied flush break the law alike. -/
theorem deniedRemoval_unrestored : Unrestored deniedRemoval ∧ Unrestored deniedFlush :=
  ⟨failsAfter_unrestored (by decide) (by decide), failsAfter_unrestored (by decide) (by decide)⟩

end NetworkLantern.Tuning
