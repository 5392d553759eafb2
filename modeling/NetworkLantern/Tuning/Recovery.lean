import NetworkLantern.Tuning.ApplyRuns

/-!
# How an Apply ends

A passed Apply leaves the machine with the plan's settings and a verified backup
in its folder (`executeApply_ok`).  A failed one has changed nothing, or has been
rolled back from a checked snapshot of the machine before it, or says where that
snapshot is kept (`executeApply_error`).  Both together: `executeApply_ends`.
-/

namespace NetworkLantern.Tuning

open NetworkLantern Act

variable {env : Env}

/-! ## Folders -/

/-- A run on folders leaves the machine alone. -/
theorem FolderRun.machine {touched : Path → Prop} {P : Mutation → Prop} {w w' : World}
    (h : FolderRun touched P w w') : w'.machine = w.machine :=
  Machine.ext (h.effect.registry (by decide)) (h.effect.qos (by decide)) h.effect.adapters
    (h.effect.nic (by decide)) (h.effect.rsc (by decide)) (h.effect.power (by decide))

theorem removeSnapshot_run (env : Env) (snapshot : Path) :
    Keeps (FolderRun (· = snapshot) RemovesFolder) (removeSnapshot env snapshot) := by
  refine Keeps.bind FolderRun.trans (FolderRun.reads (directoryIdentity_reads _)) fun identity => ?_
  refine Keeps.bind FolderRun.trans (FolderRun.reads (validateBackupBundle_reads env _)) fun _ => ?_
  exact @removeOwnedDirectory_run (· = snapshot) _ _ rfl identity fun folders => ⟨_, folders, rfl⟩

theorem publishSnapshot_run (env : Env) (target : PublicationTarget) (currentQos : List QosPolicySpec)
    (collision : Str) :
    Keeps (FolderRun target.touched RemovesFolder) (publishSnapshot env target currentQos collision) := by
  refine Keeps.bind FolderRun.trans (FolderRun.reads (pathExists_reads _)) fun there => ?_
  cases there with
  | true => exact Keeps.fail FolderRun.refl _
  | false =>
    exact Keeps.bind FolderRun.trans (publishBackup_run env target currentQos) fun _ =>
      Keeps.pure FolderRun.refl _

/-- A published snapshot. -/
theorem publishSnapshot_ok {target : PublicationTarget} {currentQos : List QosPolicySpec}
    {collision : Str} {w w' : World}
    (h : publishSnapshot env target currentQos collision w = (.ok (), w')) :
    ∃ tree, w'.folders target.path = some tree ∧ BackupOf env w.machine currentQos tree := by
  obtain ⟨there, w1, hexists, h1⟩ := bind_ok.mp h
  have hw1 : w1 = w := (Prod.mk.inj hexists).2.symm
  cases there with
  | true => cases h1
  | false =>
    obtain ⟨written, w2, hpublish, h2⟩ := bind_ok.mp h1
    have hw2 : w2 = w' := (Prod.mk.inj h2).2
    obtain ⟨tree, htree, hbackup, -⟩ := publishBackup_ok hpublish
    exact ⟨tree, hw2 ▸ htree, hw1 ▸ hbackup⟩

/-- A configured folder is none of those a snapshot makes. -/
theorem not_touched_configured {stem : Str} (hstem : stem ∉ [stagingStem, previousStem, failedStem])
    (uuid : Nat) (folder : Str) :
    ¬ (snapshotTarget stem hstem uuid).touched (.configured folder) := by
  rintro (h | ⟨_, _, -, h⟩)
  · cases h
  · cases h

/-! ## Before the mutations -/

/-- A verified bundle in a folder. -/
def Stands (env : Env) (folder : Path) (bundle : BackupBundle env) (w : World) : Prop :=
  ∃ tree, w.folders folder = some tree ∧ checkBundle env folder tree = .ok bundle

theorem Stands.congr {folder : Path} {bundle : BackupBundle env} {w w' : World}
    (h : Stands env folder bundle w) (hfolders : w'.folders folder = w.folders folder) :
    Stands env folder bundle w' := by
  unfold Stands
  rw [hfolders]
  exact h

/-- What an Apply has prepared when its mutations start: the machine as it was, a verified bundle
in the folder, and a checked snapshot of the machine to roll back from. -/
structure Prepared (folder : Str) (currentQos : List QosPolicySpec) (w : World)
    (bundle : BackupBundle env) (snapshot : Option Path) (ready : World) : Prop where
  machine : ready.machine = w.machine
  standing : Stands env (.configured folder) bundle ready
  source : ∃ tree, ready.folders (snapshot.getD (.configured folder)) = some tree ∧
    BackupOf env w.machine currentQos tree
  beside : ∀ path ∈ snapshot, ∃ uuid, path = .generated applySnapshotStem uuid

/-- A kept backup is the one that is there. -/
theorem applyBackupDecision_ok {folder : Str} {present : Bool} {kept : Option (BackupBundle env)}
    {w w' : World} (h : applyBackupDecision env folder present w = (.ok kept, w')) :
    Reads w w' ∧ ∀ bundle ∈ kept, Stands env (.configured folder) bundle w := by
  cases present with
  | false =>
    cases h
    exact ⟨Reads.refl w, fun bundle hb => by cases hb⟩
  | true =>
    obtain ⟨bundle, w1, hvalidate, h⟩ := bind_ok.mp (mapError_ok.mp h)
    cases h
    obtain ⟨hw, hstands⟩ := validateBackupBundle_ok hvalidate
    refine ⟨hw ▸ Reads.advance w, fun b hb => ?_⟩
    cases hb
    exact hstands

theorem applyBackupDecision_reads (folder : Str) (present : Bool) :
    Keeps Reads (applyBackupDecision env folder present) := by
  cases present with
  | false => exact Keeps.pure Reads.refl _
  | true =>
    exact Keeps.mapError (Keeps.bind Reads.trans (validateBackupBundle_reads env _) fun _ =>
      Keeps.pure Reads.refl _) _

/-- A standing backup that is not kept is a checked snapshot of the machine. -/
theorem standingBackup_ok {folder : Str} {currentQos : List QosPolicySpec}
    {kept : Option (BackupBundle env)} {result result' : TuningResult} {bundle : BackupBundle env}
    {w w' : World} (hkept : ∀ b ∈ kept, Stands env (.configured folder) b w)
    (h : standingBackup env folder currentQos kept result w = (.ok (bundle, result'), w')) :
    Stands env (.configured folder) bundle w' ∧
      (kept = none → ∃ tree, w'.folders (.configured folder) = some tree ∧
        BackupOf env w.machine currentQos tree) := by
  cases kept with
  | some b =>
    obtain ⟨hb, rfl⟩ := Prod.mk.inj h
    cases hb
    exact ⟨hkept _ rfl, fun hnone => by cases hnone⟩
  | none =>
    obtain ⟨written, w1, hpublish, h1⟩ := bind_ok.mp h
    obtain ⟨b, w2, hvalidate, h2⟩ := bind_ok.mp h1
    cases h2
    obtain ⟨tree, htree, hbackup, -⟩ := publishBackup_ok hpublish
    obtain ⟨hw2, hstands⟩ := validateBackupBundle_ok hvalidate
    rw [hw2]
    exact ⟨hstands, fun _ => ⟨tree, htree, hbackup⟩⟩

theorem standingBackup_run (folder : Str) (currentQos : List QosPolicySpec)
    (kept : Option (BackupBundle env)) (result : TuningResult) :
    Keeps (FolderRun (PublicationTarget.configured folder).touched RemovesFolder)
      (standingBackup env folder currentQos kept result) := by
  cases kept with
  | some b => exact Keeps.pure FolderRun.refl _
  | none =>
    refine Keeps.bind FolderRun.trans (publishBackup_run env _ _) fun written => ?_
    refine Keeps.bind FolderRun.trans (FolderRun.reads (validateBackupBundle_reads env _)) fun _ => ?_
    exact Keeps.pure FolderRun.refl _

/-- The machine is as before, and what stands in a configured folder. -/
structure Beside (folder : Str) (w w' : World) : Prop where
  machine : w'.machine = w.machine
  folders : w'.folders (.configured folder) = w.folders (.configured folder)

theorem applySnapshot_run (folder : Str) (currentQos : List QosPolicySpec) (kept : Bool) :
    Keeps (Beside folder) (applySnapshot env currentQos kept) := by
  have hrefl : ∀ w, Beside folder w w := fun w => ⟨rfl, rfl⟩
  have htrans : ∀ a b c, Beside folder a b → Beside folder b c → Beside folder a c :=
    fun a b c hab hbc => ⟨hbc.machine.trans hab.machine, hbc.folders.trans hab.folders⟩
  cases kept with
  | false => exact Keeps.pure hrefl _
  | true =>
    refine Keeps.bind htrans (fun w => ⟨rfl, rfl⟩ : Keeps (Beside folder) freshNumber) fun uuid => ?_
    refine Keeps.bind htrans ((publishSnapshot_run env _ _ _).mono fun a b hab => ?_) fun _ =>
      Keeps.pure hrefl _
    exact ⟨hab.machine, hab.only _ (not_touched_configured applySnapshotStem_free uuid folder)⟩

theorem applySnapshot_ok {currentQos : List QosPolicySpec} {kept : Bool} {snapshot : Option Path}
    {w w' : World} (h : applySnapshot env currentQos kept w = (.ok snapshot, w')) :
    (kept = false → snapshot = none) ∧ ∀ path ∈ snapshot,
      (∃ uuid, path = .generated applySnapshotStem uuid) ∧
        ∃ tree, w'.folders path = some tree ∧ BackupOf env w.machine currentQos tree := by
  cases kept with
  | false =>
    cases h
    exact ⟨fun _ => rfl, fun path hp => by cases hp⟩
  | true =>
    obtain ⟨uuid, w1, hfresh, h1⟩ := bind_ok.mp h
    obtain ⟨_, w2, hpublish, h2⟩ := bind_ok.mp h1
    cases h2
    refine ⟨fun hfalse => Bool.noConfusion hfalse, fun path hp => ?_⟩
    cases hp
    rw [← (freshNumber_ok hfresh).1]
    exact ⟨⟨uuid, rfl⟩, publishSnapshot_ok hpublish⟩

/-- An Apply stops before its mutations with the machine as it was, or it is prepared for them. -/
theorem executeApply_prepared {plan : TuningPlan} {folder : Str} {currentQos : List QosPolicySpec}
    {result : TuningResult} {w w' : World} {r : Except TuningError TuningResult}
    (h : executeApply env plan folder currentQos result w = (r, w')) :
    ((∃ e, r = .error e) ∧ w'.machine = w.machine) ∨
      ∃ bundle result1 snapshot ready, Prepared folder currentQos w bundle snapshot ready ∧
        (Act.attempt (applyMutations env plan currentQos bundle result1) >>= fun outcome =>
          match outcome with
          | .error error => rollBackApply env plan.config folder snapshot error
          | .ok result => dropSnapshot env snapshot result) ready = (r, w') := by
  rcases bind_cases h with ⟨e, hx, he⟩ | ⟨present, w1, hinspect, h1⟩
  · exact Or.inl ⟨⟨e, he⟩, ((inspect_reads _ _).run hx).machine⟩
  have m1 : w1.machine = w.machine := ((inspect_reads _ _).run hinspect).machine
  rcases bind_cases h1 with ⟨e, hx, he⟩ | ⟨kept, w2, hdecision, h2⟩
  · exact Or.inl ⟨⟨e, he⟩, ((applyBackupDecision_reads folder present).run hx).machine.trans m1⟩
  obtain ⟨hreads, hkept⟩ := applyBackupDecision_ok hdecision
  have m2 : w2.machine = w.machine := hreads.machine.trans m1
  have hkept2 : ∀ b ∈ kept, Stands env (.configured folder) b w2 :=
    fun b hb => (hkept b hb).congr (by rw [hreads.folders])
  rcases bind_cases h2 with ⟨e, hx, he⟩ | ⟨⟨bundle, result3⟩, w3, hstanding, h3⟩
  · exact Or.inl ⟨⟨e, he⟩, ((standingBackup_run folder currentQos kept result).run hx).machine.trans m2⟩
  have m3 : w3.machine = w.machine :=
    ((standingBackup_run folder currentQos kept result).run hstanding).machine.trans m2
  obtain ⟨hstands, hfresh⟩ := standingBackup_ok hkept2 hstanding
  rcases bind_cases h3 with ⟨e, hx, he⟩ | ⟨_, w4, hcancel, h4⟩
  · exact Or.inl ⟨⟨e, he⟩, (checkCancel_reads.run hx).machine.trans m3⟩
  have hread4 := checkCancel_reads.run hcancel
  have m4 : w4.machine = w.machine := hread4.machine.trans m3
  rcases bind_cases h4 with ⟨e, hx, he⟩ | ⟨snapshot, ready, hsnapshot, h5⟩
  · exact Or.inl ⟨⟨e, he⟩, ((applySnapshot_run folder currentQos kept.isSome).run hx).machine.trans m4⟩
  have hbeside := (applySnapshot_run folder currentQos kept.isSome).run hsnapshot
  obtain ⟨hnone, hsome⟩ := applySnapshot_ok hsnapshot
  have hfolder : ready.folders (.configured folder) = w3.folders (.configured folder) := by
    rw [hbeside.folders, hread4.folders]
  refine Or.inr ⟨bundle, _, snapshot, ready, ⟨hbeside.machine.trans m4, hstands.congr hfolder, ?_,
    fun path hp => (hsome path hp).1⟩, h5⟩
  cases snapshot with
  | some path =>
    obtain ⟨tree, htree, hbackup⟩ := (hsome path rfl).2
    exact ⟨tree, htree, m4 ▸ hbackup⟩
  | none =>
    -- nothing was kept: the standing backup is the snapshot
    cases kept with
    | some b =>
      obtain ⟨uuid, v, -, hpublish⟩ := bind_ok.mp hsnapshot
      obtain ⟨_, v2, -, hpure⟩ := bind_ok.mp hpublish
      cases hpure
    | none =>
      obtain ⟨tree, htree, hbackup⟩ := hfresh rfl
      exact ⟨tree, hfolder.trans htree, m2 ▸ hbackup⟩

/-! ## After the mutations -/

theorem dropSnapshot_run (snapshot : Option Path) (result : TuningResult) :
    Keeps (FolderRun (· ∈ snapshot) RemovesFolder) (dropSnapshot env snapshot result) := by
  cases snapshot with
  | none => exact Keeps.pure FolderRun.refl _
  | some path =>
    have hremove : Keeps (FolderRun (· ∈ some path) RemovesFolder) (removeSnapshot env path) :=
      (removeSnapshot_run env path).mono fun a b hab =>
        ⟨hab.effect, fun p hp => hab.only p fun heq => hp (by rw [heq]; rfl)⟩
    refine Keeps.bind FolderRun.trans (Keeps.attempt hremove) fun outcome => ?_
    cases outcome <;> exact Keeps.pure FolderRun.refl _

theorem dropSnapshot_ok {snapshot : Option Path} {result result' : TuningResult} {w w' : World}
    (h : dropSnapshot env snapshot result w = (.ok result', w')) :
    result'.managedPolicies = result.managedPolicies := by
  cases snapshot with
  | none => cases h; rfl
  | some path =>
    obtain ⟨outcome, w1, -, h1⟩ := bind_ok.mp h
    cases outcome <;> (cases h1; rfl)

/-- A rollback always ends with an error. -/
theorem rollBackApply_fails {α : Type} {config : TuningConfig} {folder : Str} {snapshot : Option Path}
    {error : TuningError} {w w' : World} {a : α} :
    rollBackApply env config folder snapshot error w ≠ (.ok a, w') := by
  intro h
  obtain ⟨rollback, w1, -, h1⟩ := bind_ok.mp h
  cases rollback with
  | error failure => cases h1
  | ok u =>
    cases snapshot with
    | none => cases h1
    | some path =>
      obtain ⟨_, w2, -, h2⟩ := bind_ok.mp h1
      cases h2

/-- The machine has the settings of the plan, and its folder a verified backup. -/
theorem executeApply_ok {plan : TuningPlan} {folder : Str} {currentQos : List QosPolicySpec}
    {result result' : TuningResult} {w w' : World}
    (h : executeApply env plan folder currentQos result w = (.ok result', w')) :
    ∃ bundle, Stands env (.configured folder) bundle w' ∧
      Applied plan bundle w.machine w'.machine ∧
      result'.managedPolicies = qosNames (desiredQos plan) := by
  rcases executeApply_prepared h with ⟨⟨e, herror⟩, -⟩ | ⟨bundle, result1, snapshot, ready, hready, hrun⟩
  · cases herror
  · rcases hmutate : applyMutations env plan currentQos bundle result1 ready with ⟨outcome, w1⟩
    rw [attempt_bind hmutate] at hrun
    cases outcome with
    | error error => exact absurd hrun rollBackApply_fails
    | ok result2 =>
      obtain ⟨happlied, hfolders, hnames⟩ := applyMutations_ok hmutate
      have hdrop := (dropSnapshot_run snapshot result2).run hrun
      have hfolder : w'.folders (.configured folder) = ready.folders (.configured folder) := by
        rw [← hfolders]
        refine hdrop.only _ fun hmem => ?_
        obtain ⟨uuid, hpath⟩ := hready.beside _ hmem
        cases hpath
      refine ⟨bundle, hready.standing.congr hfolder, ?_, (dropSnapshot_ok hrun).trans hnames⟩
      rw [hdrop.machine, ← hready.machine]
      exact happlied

/-- The machine as a complete restore of a folder's bundle leaves it. -/
structure Restored (env : Env) (source : Path) (tree : Tree) (m m' : Machine) : Prop where
  restored : ∃ bundle, checkBundle env source tree = .ok bundle ∧
    KindsRestored env bundle ArtifactKind.all m m'

/-- A passed rollback has restored its source completely; a failed one leaves its folder. -/
theorem rollbackFrom_ok {config : TuningConfig} {source : Path} {tree : Tree} {w w' : World}
    (ht : w.folders source = some tree) (h : rollbackFrom env config source w = (.ok (), w')) :
    Restored env source tree w.machine w'.machine := by
  obtain ⟨staged, w1, hstage, h1⟩ := bind_ok.mp h
  obtain ⟨result, w2, hrestore, h2⟩ := bind_ok.mp h1
  have hw2 : w2 = w' := (Prod.mk.inj h2).2
  obtain ⟨tree', htree', hcheck⟩ := stageBackup_ok hstage
  rw [ht] at htree'
  cases htree'
  have hkinds := restoreStaged_ok hrestore
  rw [((stageBackup_reads env source).run hstage).machine, hw2] at hkinds
  exact ⟨staged.bundle, hcheck, hkinds⟩

theorem rollbackFrom_effect (config : TuningConfig) (source : Path) :
    Keeps (Effect restoreParts fun _ => True) (rollbackFrom env config source) :=
  Effect.bind (Reads.keeps (stageBackup_reads env source)) fun staged =>
    Effect.bind (restoreStaged_effect staged _ _) fun _ => Effect.pure _

theorem rollBackApply_error {α : Type} {config : TuningConfig} {folder : Str} {snapshot : Option Path}
    {error e : TuningError} {tree : Tree} {w w' : World}
    (ht : w.folders (snapshot.getD (.configured folder)) = some tree)
    (h : rollBackApply (α := α) env config folder snapshot error w = (.error e, w')) :
    (e = .ofApplyRollback error (.ok ()) ∧
      Restored env (snapshot.getD (.configured folder)) tree w.machine w'.machine) ∨
    (∃ cause, e = .ofApplyRollback error (.error (keptAt (snapshot.getD (.configured folder)) cause)) ∧
      w'.folders (snapshot.getD (.configured folder)) = some tree) := by
  rcases hrollback : Act.mapError (keptAt (snapshot.getD (.configured folder)))
      (rollbackFrom env config (snapshot.getD (.configured folder))) w with ⟨outcome, w1⟩
  unfold rollBackApply at h
  rw [attempt_bind hrollback] at h
  cases outcome with
  | ok u =>
    have hrestored := rollbackFrom_ok ht (mapError_ok.mp hrollback)
    left
    cases snapshot with
    | none =>
      cases h
      exact ⟨rfl, hrestored⟩
    | some path =>
      rcases bind_error.mp h with hdiscard | ⟨_, w2, hdiscard, hfail⟩
      · cases hdiscard
      · cases hfail
        have hmachine := ((discard_keeps (removeSnapshot_run env path)).run hdiscard).machine
        exact ⟨rfl, hmachine ▸ hrestored⟩
  | error failure =>
    right
    obtain ⟨cause, hrun, rfl⟩ := mapError_error.mp hrollback
    have hfolders : w1.folders = w.folders :=
      ((rollbackFrom_effect config _).run hrun).folders (by decide)
    cases snapshot <;> (cases h; exact ⟨cause, rfl, by rw [hfolders]; exact ht⟩)

/-- Nothing has changed; or the machine has been rolled back completely from a checked snapshot
of it; or the rollback failed as well, the error says so and where the snapshot is, and there
it is. -/
theorem executeApply_error {plan : TuningPlan} {folder : Str} {currentQos : List QosPolicySpec}
    {result : TuningResult} {e : TuningError} {w w' : World}
    (h : executeApply env plan folder currentQos result w = (.error e, w')) :
    w'.machine = w.machine ∨
      ∃ source tree cause, BackupOf env w.machine currentQos tree ∧
        ((e = .ofApplyRollback cause (.ok ()) ∧
          ∃ m, m.rsc = w.machine.rsc ∧ m.adapters = w.machine.adapters ∧
            Restored env source tree m w'.machine) ∨
        (∃ failure, e = .ofApplyRollback cause (.error (keptAt source failure)) ∧
          w'.folders source = some tree)) := by
  rcases executeApply_prepared h with ⟨-, hmachine⟩ | ⟨bundle, result1, snapshot, ready, hready, hrun⟩
  · exact Or.inl hmachine
  · right
    rcases hmutate : applyMutations env plan currentQos bundle result1 ready with ⟨outcome, w1⟩
    rw [attempt_bind hmutate] at hrun
    cases outcome with
    | ok result2 =>
      exfalso
      cases snapshot with
      | none => cases hrun
      | some path =>
        rcases bind_error.mp hrun with hattempt | ⟨outcome, w2, -, hlast⟩
        · cases hattempt
        · cases outcome <;> cases hlast
    | error error =>
      have hframe : Effect applyParts (fun _ => True) ready w1 := by
        rcases applyMutations_effect hmutate with heffect | ⟨-, heffect⟩
        · exact heffect.mono (List.Subset.refl _) fun _ _ => trivial
        · exact heffect.mono (List.Subset.refl _) fun _ _ => trivial
      obtain ⟨tree, htree, hbackup⟩ := hready.source
      have htree1 : w1.folders (snapshot.getD (.configured folder)) = some tree := by
        rw [hframe.folders (by decide)]
        exact htree
      refine ⟨snapshot.getD (.configured folder), tree, error, hbackup, ?_⟩
      rcases rollBackApply_error htree1 hrun with ⟨herror, hrestored⟩ | hfailed
      · refine Or.inl ⟨herror, w1.machine, ?_, ?_, hrestored⟩
        · rw [hframe.rsc (by decide), hready.machine]
        · rw [hframe.adapters, hready.machine]
      · exact Or.inr hfailed

/-- **How an Apply ends**, from any world and under any failures of its calls. -/
theorem executeApply_ends (plan : TuningPlan) (folder : Str) (currentQos : List QosPolicySpec)
    (result : TuningResult) (w : World) :
    Act.Ends (executeApply env plan folder currentQos result) w
      (fun result' w' => ∃ bundle, Stands env (.configured folder) bundle w' ∧
        Applied plan bundle w.machine w'.machine ∧
        result'.managedPolicies = qosNames (desiredQos plan))
      (fun e w' => w'.machine = w.machine ∨
        ∃ source tree cause, BackupOf env w.machine currentQos tree ∧
          ((e = .ofApplyRollback cause (.ok ()) ∧
            ∃ m, m.rsc = w.machine.rsc ∧ m.adapters = w.machine.adapters ∧
              Restored env source tree m w'.machine) ∨
          (∃ failure, e = .ofApplyRollback cause (.error (keptAt source failure)) ∧
            w'.folders source = some tree))) :=
  ⟨fun _ _ h => executeApply_ok h, fun _ _ h => executeApply_error h⟩

end NetworkLantern.Tuning
