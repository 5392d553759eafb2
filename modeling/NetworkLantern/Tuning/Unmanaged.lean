import NetworkLantern.Tuning.QosRoundTrip
import NetworkLantern.Tuning.Recovery

/-!
# Policies that are not ours

Over any sequence of runs a policy that is not managed is lost only to a Restore
whose bundle names it (`runPlans_unmanaged`).  The rollbacks are part of these runs:
an Apply rolls back from policies it found, whose names are ours, and a Restore
from those that were ours or in its bundle.

A bundle's names are trimmed (`parseQosClixml_trimmed`), so a snapshot taken for a
Restore gives no new names.
-/

namespace NetworkLantern.Tuning

open NetworkLantern Act XmlToken

variable {env : Env}

/-! ## Names in a bundle -/

namespace ClixmlState

/-- Every text that the reader has kept is trimmed. -/
structure Trimmed (st : ClixmlState) : Prop where
  property : ∀ property ∈ st.property, trimSpace property.2 = property.2
  item : ∀ item ∈ st.item, ∀ field ∈ item, trimSpace field.2 = field.2
  items : ∀ item ∈ st.items, ∀ field ∈ item, trimSpace field.2 = field.2

theorem onStart_trimmed {st st' : ClixmlState} {tag : Str} {attributes : List XmlAttribute}
    (h : Trimmed st) (hstep : st.onStart tag attributes = .ok st') : Trimmed st' := by
  obtain ⟨-, h1⟩ := refuse_bind_ok.mp hstep
  obtain ⟨-, h2⟩ := refuse_bind_ok.mp h1
  have hbag : Trimmed (if tag = "MS".toList then { st with item := some [] } else st) := by
    split
    · exact ⟨h.property, fun item hi => (by cases hi; simp), h.items⟩
    · exact h
  obtain ⟨mid, hscalar, h3⟩ := except_bind_ok.mp h2
  cases h3
  suffices hmid : Trimmed mid from ⟨hmid.property, hmid.item, hmid.items⟩
  unfold startScalar at hscalar
  split at hscalar
  · obtain ⟨name, -, h4⟩ := except_bind_ok.mp hscalar
    cases name with
    | none => cases h4; exact hbag
    | some name =>
      obtain ⟨-, h5⟩ := refuse_bind_ok.mp h4
      cases h5
      exact ⟨fun property hp => (by cases hp; rfl), hbag.item, hbag.items⟩
  · cases hscalar
    exact hbag

theorem onText_trimmed {st st' : ClixmlState} {value : Option Str}
    (h : Trimmed st) (hvalue : ∀ text ∈ value, trimSpace text = text)
    (hstep : st.onText value = .ok st') : Trimmed st' := by
  unfold onText at hstep
  split at hstep
  · cases hstep
    exact h
  · next name text hproperty =>
    split at hstep
    · cases hstep
    · next value =>
      split at hstep
      · cases hstep
      · cases hstep
        have htext : trimSpace text = text := h.property _ hproperty
        refine ⟨fun property hp => ?_, h.item, h.items⟩
        cases hp
        exact Str.trimMatches_append htext (hvalue value rfl)

theorem onEnd_trimmed {st st' : ClixmlState} {tag : Str}
    (h : Trimmed st) (hstep : st.onEnd tag = .ok st') : Trimmed st' := by
  unfold onEnd at hstep
  split at hstep
  · cases hstep
  · next top rest _ =>
    split at hstep
    · cases hstep
    · obtain ⟨mid, hend, hitem⟩ := except_bind_ok.mp hstep
      have hmid : Trimmed mid := by
        unfold endScalar at hend
        split at hend
        · next name value item _ hproperty hi =>
          split at hend
          · cases hend
          · cases hend
            refine ⟨fun property hp => (by cases hp), fun item' hi' field hf => ?_, h.items⟩
            cases hi'
            rcases List.mem_append.mp hf with hf | hf
            · exact h.item item hi field hf
            · rw [List.mem_singleton.mp hf]
              exact h.property _ hproperty
        · cases hend
          exact ⟨h.property, h.item, h.items⟩
      unfold endItem at hitem
      split at hitem
      · next item hi =>
        split at hitem
        · split at hitem
          · cases hitem
          · cases hitem
            refine ⟨hmid.property, fun item' hi' => (by cases hi'), fun item' hi' => ?_⟩
            rcases List.mem_append.mp hi' with hi' | hi'
            · exact hmid.items item' hi'
            · rw [List.mem_singleton.mp hi']
              exact hmid.item item hi
        · cases hitem
          exact hmid
      · cases hitem
        exact hmid

theorem run_trimmed {st st' : ClixmlState} {stream : List XmlEvent} (h : Trimmed st)
    (htexts : ∀ value, .text (some value) ∈ stream → trimSpace value = value)
    (hrun : st.run stream = .ok st') : Trimmed st' := by
  induction stream generalizing st with
  | nil =>
    rw [run_nil.mp hrun]
    exact h
  | cons event stream ih =>
    unfold run at hrun
    rw [List.foldlM_cons, except_bind_ok] at hrun
    obtain ⟨mid, hstep, hrest⟩ := hrun
    refine ih ?_ (fun value hv => htexts value (List.mem_cons_of_mem _ hv)) hrest
    cases event with
    | start tag attributes => exact onStart_trimmed h hstep
    | text value =>
      exact onText_trimmed h (fun text ht => htexts text (by rw [← Option.mem_def.mp ht]; exact List.mem_cons_self)) hstep
    | close tag => exact onEnd_trimmed h hstep
    | empty tag =>
      change (if allowedXmlTag tag then .ok st else invalid _) = _ at hstep
      split at hstep
      · cases hstep
        exact h
      · cases hstep
    | decl => cases hstep; exact h
    | comment => cases hstep; exact h
    | _ => cases hstep

end ClixmlState

theorem normalizeMatch_name {name : Str} {dscp : UInt8} {kind port app : Option Str}
    {values rest : PropertyBag} {policy : QosPolicySpec}
    (h : normalizeMatch name dscp kind port app values = .ok (policy, rest)) : policy.name = name := by
  unfold normalizeMatch at h
  split at h
  · split at h
    · cases h
    · split at h
      · cases h
      · split at h
        · cases h
        · split at h
          · cases h
          · split at h
            · cases h
            · cases h; rfl
  · split at h
    · split at h
      · cases h
      · split at h
        · cases h; rfl
        · cases h
    · cases h

/-- The name of a policy is a value of its item. -/
theorem normalizeQos_name {values : PropertyBag} {policy : QosPolicySpec}
    (h : normalizeQos values = .ok policy) : ∃ field ∈ values, field.2 = policy.name := by
  have hlookup : ∀ {l : PropertyBag} {key value : Str}, l.lookup key = some value →
      ∃ field ∈ l, field.2 = value := by
    intro l key value hl
    obtain ⟨front, back, heq, -⟩ := List.lookup_eq_some_iff.mp hl
    exact ⟨(key, value), by rw [heq]; simp, rfl⟩
  unfold normalizeQos at h
  simp only [PropertyBag.remove] at h
  split at h
  · cases h
  · next name hname =>
    obtain ⟨hfound, -⟩ := Option.filter_eq_some_iff.mp hname
    obtain ⟨_, -, h1⟩ := except_bind_ok.mp h
    obtain ⟨-, h2⟩ := refuse_bind_ok.mp h1
    obtain ⟨⟨p, rest⟩, hmatch, h3⟩ := except_bind_ok.mp h2
    obtain ⟨-, h4⟩ := refuse_bind_ok.mp h3
    cases h4
    rw [normalizeMatch_name hmatch]
    exact hlookup hfound

theorem collectPolicies_item {seen : List Str} {items : List PropertyBag}
    {policies : List QosPolicySpec} (h : collectPolicies seen items = .ok policies) :
    ∀ policy ∈ policies, ∃ item ∈ items, normalizeQos item = .ok policy := by
  induction items generalizing seen policies with
  | nil => cases h; simp
  | cons item items ih =>
    obtain ⟨policy, hnormal, h1⟩ := except_bind_ok.mp h
    obtain ⟨-, h2⟩ := refuse_bind_ok.mp h1
    obtain ⟨rest, hrest, h3⟩ := except_bind_ok.mp h2
    cases h3
    intro q hq
    rcases List.mem_cons.mp hq with rfl | hq
    · exact ⟨item, List.mem_cons_self, hnormal⟩
    · obtain ⟨item', hi, hn⟩ := ih hrest q hq
      exact ⟨item', List.mem_cons_of_mem _ hi, hn⟩

/-- The names that a bundle restores have no white space around them. -/
theorem parseQosClixml_trimmed {reader : XmlReader} (hr : reader.Lawful) {bytes : Bytes}
    {policies : List QosPolicySpec} (h : parseQosClixml reader bytes = .ok policies) :
    ∀ policy ∈ policies, trimSpace policy.name = policy.name := by
  unfold parseQosClixml at h
  split at h
  · cases h
  · split at h
    · cases h
    · next text _ =>
      obtain ⟨st, hrun, h1⟩ := except_bind_ok.mp h
      obtain ⟨-, h2⟩ := refuse_bind_ok.mp h1
      have hinitial : ClixmlState.Trimmed .initial :=
        ⟨fun _ h => (by cases h), fun _ h => (by cases h), fun _ h => (by cases h)⟩
      have htrimmed := ClixmlState.run_trimmed hinitial (fun value hv => hr.trimmed _ value hv) hrun
      intro policy hp
      obtain ⟨item, hi, hnormal⟩ := collectPolicies_item h2 policy hp
      obtain ⟨field, hf, hname⟩ := normalizeQos_name hnormal
      rw [← hname]
      exact htrimmed.items item hi field hf

/-! ## Trimming and case -/

theorem isXmlSpace_toLower (c : Char) : isXmlSpace c.toLower = isXmlSpace c := by
  by_cases h : 65 ≤ c.toNat ∧ c.toNat ≤ 90
  · have hl := Str.toLower_of_upper h.1 h.2
    have hne : ∀ a : Char, a.toNat ≤ 32 → (c ≠ a ∧ c.toLower ≠ a) := by
      intro a ha
      exact ⟨by rintro rfl; omega, by rintro rfl; omega⟩
    unfold isXmlSpace
    simp [hne ' ' (by decide), hne '\t' (by decide), hne '\r' (by decide), hne '\n' (by decide)]
  · rw [Str.toLower_of_not_upper h]

/-- Whether a text is trimmed does not depend on its case. -/
theorem trimSpace_of_lower {a b : Str} (h : a.lower = b.lower) (ha : trimSpace a = a) :
    trimSpace b = b := by
  unfold trimSpace at *
  rw [Str.trimMatches_eq_self_iff] at ha ⊢
  have hhead : a.head?.map Char.toLower = b.head?.map Char.toLower := by
    rw [← List.head?_map, ← List.head?_map]
    exact congrArg List.head? h
  have hlast : a.getLast?.map Char.toLower = b.getLast?.map Char.toLower := by
    rw [← List.getLast?_map, ← List.getLast?_map]
    exact congrArg List.getLast? h
  have hone : ∀ {x y : Option Char}, x.map Char.toLower = y.map Char.toLower →
      (∀ c ∈ x, isXmlSpace c = false) → ∀ c ∈ y, isXmlSpace c = false := by
    intro x y hxy hx c hc
    cases hc
    obtain ⟨d, hd, hlower⟩ := Option.map_eq_some_iff.mp hxy
    rw [← isXmlSpace_toLower, ← hlower, isXmlSpace_toLower]
    exact hx d hd
  exact ⟨hone hhead ha.1, hone hlast ha.2⟩

/-- Trimming leaves a prefix without white space. -/
theorem hasPrefixCI_trimSpace {s p : Str} (hp : ∀ c ∈ p, isXmlSpace c = false)
    (h : s.hasPrefixCI p = true) : (trimSpace s).hasPrefixCI p = true := by
  unfold Str.hasPrefixCI at h ⊢
  cases htake : Str.takeBytes p.byteLen s with
  | none => rw [htake] at h; cases h
  | some front =>
    rw [htake] at h
    have hlower : front.lower = p.lower := (Str.eqCI_iff _ _).mp h
    have hlength := Str.byteLen_of_takeBytes htake
    obtain ⟨rest, rfl⟩ := Str.append_of_takeBytes htake
    have hclean : ∀ c ∈ front, isXmlSpace c = false := by
      intro c hc
      have hmem : c.toLower ∈ p.lower := by
        rw [← hlower]
        exact List.mem_map_of_mem hc
      obtain ⟨d, hd, hdc⟩ := List.mem_map.mp hmem
      rw [← isXmlSpace_toLower, ← hdc, isXmlSpace_toLower]
      exact hp d hd
    by_cases hne : front = []
    · subst hne
      rw [← hlength, Str.byteLen_nil, Str.takeBytes]
      exact h
    · obtain ⟨rest', htrim⟩ := Str.trimMatches_of_front rest hne hclean
      rw [show trimSpace (front ++ rest) = front ++ rest' from htrim, ← hlength, Str.takeBytes_append]
      exact h

theorem managedQosName_trimSpace {name : Str} (h : managedQosName name [] = true) :
    managedQosName (trimSpace name) [] = true := by
  have hall : (ownedQosPrefixes.all fun p => p.all fun c => !isXmlSpace c) = true := by decide
  have hclean : ∀ p ∈ ownedQosPrefixes, ∀ c ∈ p, isXmlSpace c = false := by
    intro p hp c hc
    have hc := List.all_eq_true.mp (List.all_eq_true.mp hall p hp) c hc
    rwa [Bool.not_eq_true'] at hc
  unfold managedQosName at h ⊢
  simp only [List.any_nil, Bool.and_false, Bool.or_false, List.any_eq_true] at h ⊢
  obtain ⟨p, hp, hprefix⟩ := h
  exact ⟨p, hp, hasPrefixCI_trimSpace (hclean p hp) hprefix⟩

/-! ## One restore -/

/-- A policy that is there stays there. -/
def Kept (f : Fields) (w w' : World) : Prop := f ∈ w.machine.qos.rows → f ∈ w'.machine.qos.rows

theorem Kept.refl (f : Fields) (w : World) : Kept f w w := id

theorem Kept.trans (f : Fields) (a b c : World) (hab : Kept f a b) (hbc : Kept f b c) : Kept f a c :=
  fun hf => hbc (hab hf)

/-- A run that leaves the policies alone. -/
theorem Effect.kept {parts : List Part} {P : Mutation → Prop} {w w' : World}
    (h : Effect parts P w w') (hparts : .qos ∉ parts) (f : Fields) : Kept f w w' := by
  intro hf
  rw [h.qos hparts]
  exact hf

theorem keeps_kept {α : Type} {parts : List Part} {x : Run α} {P : Mutation → Prop} (f : Fields)
    (hx : Keeps (Effect parts P) x) (hparts : .qos ∉ parts) : Keeps (Kept f) x :=
  hx.mono fun _ _ h => h.kept hparts f

theorem reads_kept {α : Type} {x : Run α} (f : Fields) (hx : Keeps Reads x) : Keeps (Kept f) x :=
  hx.mono fun _ _ h hf => by
    rw [h.machine]
    exact hf

/-- The policies of a bundle's QoS artifact. -/
def Restores (bundle : BackupBundle env) (policies : List QosPolicySpec) : Prop :=
  ∃ bytes, bundle.artifact .qosPolicies = some bytes ∧ parseQosClixml env.xml bytes = .ok policies

/-- Restoring a bundle keeps a policy that it does not manage. -/
theorem restoreStaged_kept {staged : StagedBackup env} {f : Fields}
    (hf : ∀ policies, Restores staged.bundle policies → isManaged (qosNames policies) f = false)
    (token : CancellationToken) (result : TuningResult) :
    Keeps (Kept f) (restoreStaged staged token result) := by
  have hartifact : ∀ kind, Keeps (Kept f) (restoreArtifact staged kind) := by
    intro kind
    by_cases hkind : kind = .qosPolicies
    · subst hkind
      refine Keeps.bindOk (Kept.trans f) (reads_kept f (staged.read_reads _)) fun w bytes w' hread => ?_
      refine Keeps.bindOk (Kept.trans f) (Keeps.lift (Kept.refl f) _) fun v desired v' hparse => ?_
      refine Keeps.bind (Kept.trans f) (reads_kept f (readQos_reads _)) fun current => ?_
      have hunmanaged := hf desired ⟨bytes, StagedBackup.read_ok hread, congrArg Prod.fst hparse⟩
      exact (reconcileQos_keeps current desired (qosNames desired)).mono fun a b hab hmem =>
        hab.unmanaged f hmem hunmanaged
    · exact keeps_kept f (restoreArtifact_effect staged kind) (by cases kind <;> first | decide | exact absurd rfl hkind)
  have hloop : ∀ kinds result, Keeps (Kept f) (restoreArtifacts staged token kinds result) := by
    intro kinds
    induction kinds with
    | nil => exact fun result => Keeps.pure (Kept.refl f) _
    | cons kind kinds ih =>
      intro result
      refine Keeps.bind (Kept.trans f) (reads_kept f token.check_reads) fun _ => ?_
      refine Keeps.bind (Kept.trans f) (reads_kept f staged.verify_reads) fun _ => ?_
      exact Keeps.bind (Kept.trans f) (hartifact kind) fun _ => ih _
  exact Keeps.bind (Kept.trans f) (reads_kept f staged.verify_reads) fun _ => hloop _ _

/-- A rollback from a folder. -/
theorem rollbackFrom_kept {config : TuningConfig} {source : Path} {f : Fields} {w : World}
    (hf : ∀ tree bundle policies, w.folders source = some tree →
      checkBundle env source tree = .ok bundle → Restores bundle policies →
        isManaged (qosNames policies) f = false) :
    Kept f w (rollbackFrom env config source w).2 := by
  refine Keeps.bindFrom (Kept.trans f) (reads_kept f (stageBackup_reads env source) w)
    fun staged w' hstage => ?_
  obtain ⟨tree, htree, hcheck⟩ := stageBackup_ok hstage
  refine Keeps.bind (Kept.trans f) (restoreStaged_kept (fun policies hr => ?_) _ _) fun _ =>
    Keeps.pure (Kept.refl f) _
  exact hf tree _ policies htree hcheck hr

/-- What a checked snapshot restores: the policies it was taken of, trimmed. -/
theorem BackupOf.restores (henv : env.Lawful) {machine : Machine} {qos policies : List QosPolicySpec}
    {source : Path} {tree : Tree} {bundle : BackupBundle env} (h : BackupOf env machine qos tree)
    (hcheck : checkBundle env source tree = .ok bundle) (hr : Restores bundle policies) :
    policies = qos.map trimmedPolicy := by
  obtain ⟨now, -, hsnapshot, -⟩ := h
  obtain ⟨-, hartifacts, -, -⟩ := checkBundle_ok hcheck
  obtain ⟨bytes, hbytes, hparse⟩ := hr
  unfold BackupBundle.artifact at hbytes
  split at hbytes
  · rw [hartifacts, hsnapshot.qos] at hbytes
    cases hbytes
    exact (( parseQosClixml_eq_ok henv.xml).mp hparse).2.2.2.1
  · cases hbytes

theorem name_trimmedPolicy (policy : QosPolicySpec) :
    (trimmedPolicy policy).name = trimSpace policy.name := by
  cases policy <;> rfl

/-- A policy that is not ours is managed by names that contain its own only. -/
theorem not_managed_of_names {names : List Str} {f : Fields} (hf : isManaged [] f = false)
    (hnames : ∀ name ∈ names, policyKey f ≠ some name.lower) : isManaged names f = false := by
  unfold isManaged at hf ⊢
  unfold policyKey at hnames
  split at hf
  · next name hname =>
    rw [Bool.eq_false_iff]
    intro hm
    obtain ⟨restore, hr, hlower⟩ := mem_of_managedQosName hm hf
    rw [hname] at hnames
    exact hnames restore hr (by rw [hlower])
  · rfl

/-- A policy whose name is that of one of ours is ours. -/
theorem isManaged_of_policyKey {f : Fields} {name : Str} (hkey : policyKey f = some name.lower)
    (hm : managedQosName name [] = true) : isManaged [] f = true := by
  unfold policyKey at hkey
  unfold isManaged
  cases hname : f "Name" with
  | none =>
    rw [hname] at hkey
    cases hkey
  | some value =>
    rw [hname] at hkey
    cases value with
    | string n =>
      show managedQosName n [] = true
      rw [managedQosName_congr (Option.some.inj hkey)]
      exact hm
    | _ => cases hkey

/-! ## One action -/

theorem applyMutations_kept {plan : TuningPlan} {currentQos : List QosPolicySpec}
    {bundle : BackupBundle env} {f : Fields} (hf : isManaged [] f = false) (result : TuningResult) :
    Keeps (Kept f) (applyMutations env plan currentQos bundle result) := by
  refine Keeps.bind (Kept.trans f) (keeps_kept f (enableLocalQos_effect plan [] bundle result)
    (by decide)) fun result => ?_
  refine Keeps.bind (Kept.trans f) ((reconcileQos_keeps currentQos (desiredQos plan) []).mono
    fun a b hab hmem => hab.unmanaged f hmem hf) fun _ => ?_
  refine Keeps.bind (Kept.trans f) (keeps_kept f (applyNic_effect plan [] bundle _) (by decide))
    fun result => ?_
  exact keeps_kept f (applyPower_effect plan [] bundle result) (by decide)

/-- An Apply keeps every policy that is not ours, also when it is rolled back. -/
theorem executeApply_kept (henv : env.Lawful) {plan : TuningPlan} {folder : Str}
    {currentQos : List QosPolicySpec} (hours : ∀ policy ∈ currentQos, managedQosName policy.name [] = true)
    {result : TuningResult} {f : Fields} (hf : isManaged [] f = false) (w : World) :
    Kept f w (executeApply env plan folder currentQos result w).2 := by
  rcases hrun : executeApply env plan folder currentQos result w with ⟨r, w'⟩
  rcases executeApply_prepared hrun with ⟨-, hmachine⟩ | ⟨bundle, result1, snapshot, ready, hready, hrest⟩
  · intro hmem
    rw [hmachine]
    exact hmem
  · rcases hmutate : applyMutations env plan currentQos bundle result1 ready with ⟨outcome, w1⟩
    rw [attempt_bind hmutate] at hrest
    have hkept : Kept f w w1 := by
      intro hmem
      refine (applyMutations_kept hf result1).run hmutate ?_
      rw [hready.machine]
      exact hmem
    cases outcome with
    | ok result2 =>
      refine fun hmem => ?_
      rw [((dropSnapshot_run snapshot result2).run hrest).machine]
      exact hkept hmem
    | error error =>
      refine Kept.trans f _ _ _ hkept ?_
      obtain ⟨tree, htree, hbackup⟩ := hready.source
      have hfolders : w1.folders = ready.folders := by
        rcases applyMutations_effect hmutate with heffect | ⟨-, heffect⟩
        · exact heffect.folders (by decide)
        · exact heffect.folders (by decide)
      rw [show w' = (rollBackApply (α := TuningResult) env plan.config folder snapshot error w1).2 by
        rw [show rollBackApply env plan.config folder snapshot error w1 = (r, w') from hrest]]
      unfold rollBackApply
      refine Keeps.bindFrom (Kept.trans f) ?_ fun outcome v _ => ?_
      · rw [Act.attempt_apply, mapError_snd]
        refine rollbackFrom_kept fun tree' bundle' policies ht hcheck hr => ?_
        rw [hfolders, htree] at ht
        cases ht
        rw [hbackup.restores henv hcheck hr]
        refine not_managed_of_names hf fun name hn hkey => ?_
        obtain ⟨trimmed, ht, rfl⟩ := List.mem_map.mp hn
        obtain ⟨policy, hp, rfl⟩ := List.mem_map.mp ht
        rw [name_trimmedPolicy] at hkey
        rw [isManaged_of_policyKey hkey (managedQosName_trimSpace (hours policy hp))] at hf
        cases hf
      · cases outcome with
        | error failure => exact Keeps.fail (Kept.refl f) _
        | ok u =>
          cases snapshot with
          | none => exact Keeps.fail (Kept.refl f) _
          | some path =>
            refine Keeps.bind (Kept.trans f) (discard_keeps ((removeSnapshot_run env path).mono
              fun a b hab hmem => ?_)) fun _ => Keeps.fail (Kept.refl f) _
            rw [hab.machine]
            exact hmem

theorem stagedNames_reads (staged : StagedBackup env) : Keeps Reads (stagedNames staged) := by
  unfold stagedNames
  split
  · refine Keeps.bind Reads.trans (staged.read_reads _) fun bytes => ?_
    exact Keeps.bind Reads.trans (Keeps.lift Reads.refl _) fun _ => Keeps.pure Reads.refl _
  · exact Keeps.pure Reads.refl _

/-- The names of a staged backup are those of the policies that it restores. -/
theorem stagedNames_ok {staged : StagedBackup env} {names : List Str} {w w' : World}
    (h : stagedNames staged w = (.ok names, w')) :
    names = [] ∨ ∃ policies, Restores staged.bundle policies ∧ names = qosNames policies := by
  unfold stagedNames at h
  split at h
  · obtain ⟨bytes, w1, hread, h1⟩ := bind_ok.mp h
    obtain ⟨policies, w2, hlift, h2⟩ := bind_ok.mp h1
    cases h2
    exact Or.inr ⟨policies, ⟨bytes, StagedBackup.read_ok hread, (lift_ok.mp hlift).1⟩, rfl⟩
  · cases h
    exact Or.inl rfl

/-- What an inventory lists is managed. -/
theorem readQos_ok {names : List Str} {policies : List QosPolicySpec} {w w' : World}
    (h : readQos names w = (.ok policies, w')) :
    ∀ policy ∈ policies, managedQosName policy.name names = true := by
  obtain ⟨rows, w1, hquery, h1⟩ := bind_ok.mp h
  obtain ⟨managed, w2, hlift, h2⟩ := bind_ok.mp h1
  cases h2
  intro policy hp
  obtain ⟨entry, he, rfl⟩ := List.mem_map.mp hp
  exact (parseQosRow_some (parseRows_entry (lift_ok.mp hlift).1 entry he).2).2.2.1

/-- A Restore takes policies that its bundle names only, also when it is rolled back. -/
theorem executeRestore_kept (henv : env.Lawful) {plan : TuningPlan} {folder : Str}
    {result : TuningResult} {f : Fields} (hf : isManaged [] f = false) {w : World}
    (hnot : ∀ tree bundle policies, w.folders (.configured folder) = some tree →
      checkBundle env (.configured folder) tree = .ok bundle → Restores bundle policies →
        ∀ policy ∈ policies, policyKey f ≠ some policy.name.lower) :
    Kept f w (executeRestore env plan folder result w).2 := by
  refine Keeps.bindFrom (Kept.trans f) (reads_kept f (stageBackup_reads env _) w)
    fun staged w1 hstage => ?_
  obtain ⟨tree, htree, hcheck⟩ := stageBackup_ok hstage
  have hstaged : ∀ policies, Restores staged.bundle policies →
      ∀ policy ∈ policies, policyKey f ≠ some policy.name.lower :=
    fun policies hr => hnot tree _ policies htree hcheck hr
  refine Keeps.bindOk (Kept.trans f) (reads_kept f (stagedNames_reads staged)) fun _ names _ hnames => ?_
  have hunnamed : ∀ name ∈ names, policyKey f ≠ some name.lower ∧ trimSpace name = name := by
    rcases stagedNames_ok hnames with rfl | ⟨policies, hr, rfl⟩
    · simp
    · intro name hn
      obtain ⟨policy, hp, rfl⟩ := List.mem_map.mp hn
      obtain ⟨bytes, -, hparse⟩ := id hr
      exact ⟨hstaged policies hr policy hp, parseQosClixml_trimmed henv.xml hparse policy hp⟩
  refine Keeps.bindOk (Kept.trans f) (reads_kept f (readQos_reads names)) fun _ currentQos _ hcurrent => ?_
  have hmanaged := readQos_ok hcurrent
  refine Keeps.bind (Kept.trans f) (fun _ hmem => hmem : Keeps (Kept f) freshNumber) fun uuid => ?_
  have hpublish := publishSnapshot_run env (snapshotTarget quarantineStem quarantineStem_free uuid)
    currentQos "restore quarantine path collision"
  intro v
  refine Keeps.bindAt (fun hmem => ?_) fun _ v1 hpublished => ?_
  · rw [(hpublish v).machine]
    exact hmem
  have hv1 : Kept f v v1 := fun hmem => by
    rw [(hpublish.run hpublished).machine]
    exact hmem
  obtain ⟨snapshot, hsnapshot, hbackup⟩ := publishSnapshot_ok hpublished
  have hrestore : Keeps (Kept f) (restoreStaged staged .caller result) :=
    restoreStaged_kept (fun policies hr => not_managed_of_names hf fun name hn => by
      obtain ⟨policy, hp, rfl⟩ := List.mem_map.mp hn
      exact hstaged policies hr policy hp) _ _
  refine Keeps.bindAt (Kept.trans f _ _ _ hv1 (hrestore v1)) fun outcome v2 hout => ?_
  have hv2 : Kept f v v2 := Kept.trans f _ _ _ hv1 (hrestore.run (attempt_ok.mp hout))
  have hfolders : v2.folders = v1.folders :=
    ((restoreStaged_effect staged _ _).run (attempt_ok.mp hout)).folders (by decide)
  refine Kept.trans f _ _ _ hv2 ?_
  cases outcome with
  | ok result2 =>
    refine Keeps.bind (Kept.trans f) ((removeSnapshot_run env _).mono fun a b hab hmem => ?_)
      (fun _ => Keeps.pure (Kept.refl f) _) v2
    rw [hab.machine]
    exact hmem
  | error error =>
    refine Keeps.bindFrom (Kept.trans f) ?_ fun _ _ _ => Keeps.fail (Kept.refl f) _
    refine rollbackFrom_kept fun tree' bundle' policies ht hcheck' hr => ?_
    rw [hfolders, hsnapshot] at ht
    cases ht
    rw [hbackup.restores henv hcheck' hr]
    refine not_managed_of_names hf fun name hn hkey => ?_
    obtain ⟨trimmed, ht, rfl⟩ := List.mem_map.mp hn
    obtain ⟨policy, hp, rfl⟩ := List.mem_map.mp ht
    rw [name_trimmedPolicy] at hkey
    -- a policy of the snapshot is ours, or the bundle names it
    by_cases hours : managedQosName policy.name [] = true
    · rw [isManaged_of_policyKey hkey (managedQosName_trimSpace hours)] at hf
      cases hf
    · obtain ⟨restore, hr', hlower⟩ := mem_of_managedQosName (hmanaged policy hp) (by simpa using hours)
      obtain ⟨hne, htrimmed⟩ := hunnamed restore hr'
      rw [trimSpace_of_lower hlower htrimmed, ← hlower] at hkey
      exact hne hkey

/-! ## Any sequence of runs -/

theorem backupFolder_reads (plan : TuningPlan) : Keeps Reads (backupFolder env plan) := by
  unfold backupFolder
  split
  · exact Keeps.pure Reads.refl _
  · refine Keeps.bind Reads.trans (pathExists_reads _) fun _ => ?_
    exact Keeps.bind Reads.trans (pathExists_reads _) fun _ => Keeps.pure Reads.refl _

/-- The folder of a plan goes by the folders that are there. -/
theorem backupFolder_congr {plan : TuningPlan} {w w' : World} (h : w'.folders = w.folders) :
    (backupFolder env plan w').1 = (backupFolder env plan w).1 := by
  unfold backupFolder
  cases plan.config.backupFolder with
  | some folder => rfl
  | none =>
    simp only [bind_apply, pathExists, h]
    rfl

/-- A Restore whose bundle names a policy, by its key. -/
def Takes (env : Env) (plan : TuningPlan) (w : World) (key : Str) : Prop :=
  plan.config.action = .restore ∧ ∃ folder tree bundle policies,
    (backupFolder env plan w).1 = .ok folder ∧ w.folders (.configured folder) = some tree ∧
      checkBundle env (.configured folder) tree = .ok bundle ∧ Restores bundle policies ∧
        ∃ policy ∈ policies, policy.name.lower = key

theorem executeAction_kept (henv : env.Lawful) {plan : TuningPlan} {currentQos : List QosPolicySpec}
    (hours : ∀ policy ∈ currentQos, managedQosName policy.name [] = true) {f : Fields}
    (hf : isManaged [] f = false) {w : World} (hnot : ∀ key, policyKey f = some key → ¬ Takes env plan w key) :
    Kept f w (executeAction env plan currentQos w).2 := by
  refine Keeps.bindAt (reads_kept f (backupFolder_reads plan) w) fun folder w1 hfolder => ?_
  have hreads := (backupFolder_reads plan).run hfolder
  have hw1 : Kept f w w1 := fun hmem => by rw [hreads.machine]; exact hmem
  refine Kept.trans f _ _ _ hw1 ?_
  have hpure : ∀ result : TuningResult, Keeps (Kept f)
      (pure { result with backupFolder := some (.configured folder) } : Run TuningResult) :=
    fun _ => Keeps.pure (Kept.refl f) _
  cases haction : plan.config.action with
  | backup =>
    refine Keeps.bindFrom (Kept.trans f) ?_ (fun result _ _ => hpure result)
    refine Keeps.bind (Kept.trans f) ((publishBackup_run env _ _).mono fun a b hab hmem => ?_)
      (fun _ => Keeps.pure (Kept.refl f) _) w1
    rw [hab.machine]
    exact hmem
  | apply =>
    refine Keeps.bindFrom (Kept.trans f) ?_ (fun result _ _ => hpure result)
    exact executeApply_kept henv hours hf w1
  | restore =>
    refine Keeps.bindFrom (Kept.trans f) ?_ (fun result _ _ => hpure result)
    refine executeRestore_kept henv hf fun tree bundle policies htree hcheck hr policy hp hkey => ?_
    rw [hreads.folders] at htree
    have hname : (backupFolder env plan w).1 = .ok folder := congrArg Prod.fst hfolder
    exact hnot _ hkey ⟨haction, folder, tree, bundle, policies, hname, htree, hcheck, hr, policy, hp, rfl⟩
  | verify => exact Kept.refl f w1

/-- A run of a plan keeps a policy that is not ours, or it is a Restore that names it. -/
theorem execute_kept (henv : env.Lawful) (plan : TuningPlan) (inspectOnly : Bool) {f : Fields}
    (hf : isManaged [] f = false) {w : World} :
    Kept f w (execute env plan inspectOnly w).2 ∨
      inspectOnly = false ∧ ∃ key, policyKey f = some key ∧ Takes env plan w key := by
  by_cases htakes : ∃ key, policyKey f = some key ∧ Takes env plan w key ∧ inspectOnly = false
  · obtain ⟨key, hkey, htakes, hinspect⟩ := htakes
    exact Or.inr ⟨hinspect, key, hkey, htakes⟩
  · left
    refine Keeps.bindAt (reads_kept f checkCancel_reads w) fun _ w1 hcancel => ?_
    have hreads1 := checkCancel_reads.run hcancel
    have hw1 : Kept f w w1 := fun hmem => by rw [hreads1.machine]; exact hmem
    refine Kept.trans f _ _ _ hw1 ?_
    by_cases hdry : plan.config.dryRun = true
    · simp only [hdry, if_true]
      exact Kept.refl f w1
    simp only [hdry, Bool.false_eq_true, if_false]
    refine Keeps.bindAt (reads_kept f checkCancel_reads w1) fun _ w2 hcancel2 => ?_
    have hreads2 := checkCancel_reads.run hcancel2
    have hconnect := inspect_reads (nativeFailure "connect native CIM provider") fun _ => .ok ()
    refine Keeps.bindAt ?_ fun _ w3 hconnected => ?_
    · intro hmem
      rw [(hconnect w2).machine, hreads2.machine]
      exact hmem
    have hreads3 := hconnect.run hconnected
    refine Keeps.bindAt ?_ fun currentQos w4 hread => ?_
    · intro hmem
      rw [(readQos_reads [] w3).machine, hreads3.machine, hreads2.machine]
      exact hmem
    have hreads4 := (readQos_reads []).run hread
    have hfolders : w4.folders = w.folders := by
      rw [hreads4.folders, hreads3.folders, hreads2.folders, hreads1.folders]
    have hw4 : Kept f w1 w4 := fun hmem => by
      rw [hreads4.machine, hreads3.machine, hreads2.machine]
      exact hmem
    refine Kept.trans f _ _ _ hw4 ?_
    by_cases hverify : inspectOnly = true ∨ plan.config.action = .verify
    · rw [if_pos hverify]
      refine reads_kept f ?_ w4
      refine Keeps.bind Reads.trans inspectLocalQosEnabled_reads fun _ => ?_
      exact Keeps.bind Reads.trans (backupFolder_reads plan) fun _ => Keeps.pure Reads.refl _
    · rw [if_neg hverify]
      refine executeAction_kept henv (readQos_ok hread) hf fun key hkey ht => htakes ⟨key, hkey, ?_, ?_⟩
      · obtain ⟨haction, folder, tree, bundle, policies, hname, htree, hrest⟩ := ht
        refine ⟨haction, folder, tree, bundle, policies, ?_, hfolders ▸ htree, hrest⟩
        rw [← hname]
        exact (backupFolder_congr hfolders).symm
      · simpa using fun h => hverify (Or.inl h)

/-- Plans run one after the other, whatever becomes of each. -/
def runPlans (env : Env) : List (TuningPlan × Bool) → World → World
  | [], w => w
  | (plan, inspectOnly) :: plans, w => runPlans env plans (execute env plan inspectOnly w).2

/-- **Policies that are not ours.**  Over any sequence of runs, failed ones and their rollbacks
included, such a policy stays as it is up to a Restore whose bundle contains its name. -/
theorem runPlans_unmanaged (henv : env.Lawful) (plans : List (TuningPlan × Bool)) (w : World)
    (f : Fields) (hf : f ∈ w.machine.qos.rows) (hm : isManaged [] f = false) :
    f ∈ (runPlans env plans w).machine.qos.rows ∨
      ∃ front plan back key, plans = front ++ (plan, false) :: back ∧ policyKey f = some key ∧
        Takes env plan (runPlans env front w) key := by
  induction plans generalizing w with
  | nil => exact Or.inl hf
  | cons entry plans ih =>
    obtain ⟨plan, inspectOnly⟩ := entry
    rcases execute_kept henv plan inspectOnly hm (w := w) with hkept | ⟨rfl, key, hkey, htakes⟩
    · rcases ih _ (hkept hf) with hstays | ⟨front, p, back, key, rfl, hkey, htakes⟩
      · exact Or.inl hstays
      · exact Or.inr ⟨(plan, inspectOnly) :: front, p, back, key, rfl, hkey, htakes⟩
    · exact Or.inr ⟨[], plan, plans, key, rfl, hkey, htakes⟩

/-- A policy of another program, under a legacy name. -/
def foreignPolicy : QosPolicySpec := .port "QoS_UDP_TS_5004" "UDP" 5004 46

def foreignStore : QosStore := ⟨[createdPolicy foreignPolicy], List.nodup_singleton _⟩

/-- An Apply and then a Restore. -/
def applyThenRestore : List (TuningPlan × Bool) :=
  [(portsPlan, false), ({ portsPlan with config := { portsConfig with action := .restore } }, false)]

theorem runPlans_unmanaged_foreign :
    createdPolicy foreignPolicy ∈
        (runPlans (plainEnv bareDigests) applyThenRestore ((bareWorld []).setQos foreignStore)).machine.qos.rows ∨
      ∃ front plan back key, applyThenRestore = front ++ (plan, false) :: back ∧
        policyKey (createdPolicy foreignPolicy) = some key ∧
          Takes (plainEnv bareDigests) plan
            (runPlans (plainEnv bareDigests) front ((bareWorld []).setQos foreignStore)) key :=
  runPlans_unmanaged (plainEnv_lawful bareDigests) applyThenRestore ((bareWorld []).setQos foreignStore)
    (createdPolicy foreignPolicy) List.mem_cons_self rfl

end NetworkLantern.Tuning
