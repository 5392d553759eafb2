import NetworkLantern.Tuning.Machine

/-!
# What a run may change

`Effect parts P` is the frame of a run: it changes the given parts of the world
only, and every change it logs meets `P`.  A call that reads has the empty effect
(`inspect_reads`), and effects go through binds and loops (`Effect.bind`,
`Effect.forEach`).
-/

namespace NetworkLantern.Tuning

open NetworkLantern

/-- The parts of a world that a run can change. -/
inductive Part
  | registry | qos | nic | rsc | power | folders
deriving DecidableEq, Repr

structure Effect (parts : List Part) (P : Mutation → Prop) (w w' : World) : Prop where
  adapters : w'.machine.adapters = w.machine.adapters
  registry : .registry ∉ parts → w'.machine.registry = w.machine.registry
  qos : .qos ∉ parts → w'.machine.qos = w.machine.qos
  nic : .nic ∉ parts → w'.machine.nic = w.machine.nic
  rsc : .rsc ∉ parts → w'.machine.rsc = w.machine.rsc
  power : .power ∉ parts → w'.machine.power = w.machine.power
  folders : .folders ∉ parts → w'.folders = w.folders
  logged : ∃ new, w'.log = new ++ w.log ∧ ∀ m ∈ new, P m

namespace Effect

variable {parts parts' : List Part} {P P' : Mutation → Prop}

theorem refl (w : World) : Effect parts P w w :=
  ⟨rfl, fun _ => rfl, fun _ => rfl, fun _ => rfl, fun _ => rfl, fun _ => rfl, fun _ => rfl,
    [], rfl, by simp⟩

theorem trans (a b c : World) (hab : Effect parts P a b) (hbc : Effect parts P b c) :
    Effect parts P a c where
  adapters := hbc.adapters.trans hab.adapters
  registry h := (hbc.registry h).trans (hab.registry h)
  qos h := (hbc.qos h).trans (hab.qos h)
  nic h := (hbc.nic h).trans (hab.nic h)
  rsc h := (hbc.rsc h).trans (hab.rsc h)
  power h := (hbc.power h).trans (hab.power h)
  folders h := (hbc.folders h).trans (hab.folders h)
  logged := by
    obtain ⟨x, hx, hpx⟩ := hab.logged
    obtain ⟨y, hy, hpy⟩ := hbc.logged
    refine ⟨y ++ x, by rw [hy, hx, List.append_assoc], fun m hm => ?_⟩
    rcases List.mem_append.mp hm with hm | hm
    · exact hpy m hm
    · exact hpx m hm

theorem mono {w w' : World} (h : Effect parts P w w') (hparts : parts ⊆ parts')
    (hP : ∀ m, P m → P' m) : Effect parts' P' w w' where
  adapters := h.adapters
  registry hn := h.registry fun hm => hn (hparts hm)
  qos hn := h.qos fun hm => hn (hparts hm)
  nic hn := h.nic fun hm => hn (hparts hm)
  rsc hn := h.rsc fun hm => hn (hparts hm)
  power hn := h.power fun hm => hn (hparts hm)
  folders hn := h.folders fun hm => hn (hparts hm)
  logged := by
    obtain ⟨new, hnew, hall⟩ := h.logged
    exact ⟨new, hnew, fun m hm => hP m (hall m hm)⟩

theorem advance (w : World) : Effect parts P w w.advance :=
  ⟨rfl, fun _ => rfl, fun _ => rfl, fun _ => rfl, fun _ => rfl, fun _ => rfl, fun _ => rfl,
    [], rfl, by simp⟩

/-- The machine after a run: what the run cannot change is as before. -/
theorem machine_eq {w w' : World} (h : Effect parts P w w') : w'.machine =
    { registry := if .registry ∈ parts then w'.machine.registry else w.machine.registry
      qos := if .qos ∈ parts then w'.machine.qos else w.machine.qos
      adapters := w.machine.adapters
      nic := if .nic ∈ parts then w'.machine.nic else w.machine.nic
      rsc := if .rsc ∈ parts then w'.machine.rsc else w.machine.rsc
      power := if .power ∈ parts then w'.machine.power else w.machine.power } := by
  have hite : ∀ {α : Type} {part : Part} {a b : α}, (part ∉ parts → a = b) →
      a = if part ∈ parts then a else b := fun hn => (ite_eq_left_iff.mpr fun h => (hn h).symm).symm
  exact Machine.ext (hite h.registry) (hite h.qos) h.adapters (hite h.nic) (hite h.rsc) (hite h.power)

variable {α β : Type}

theorem bind {x : Run α} {f : α → Run β} (hx : Act.Keeps (Effect parts P) x)
    (hf : ∀ a, Act.Keeps (Effect parts P) (f a)) : Act.Keeps (Effect parts P) (x >>= f) :=
  Act.Keeps.bind trans hx hf

theorem bindOk {x : Run α} {f : α → Run β} (hx : Act.Keeps (Effect parts P) x)
    (hf : ∀ s a s', x s = (.ok a, s') → Act.Keeps (Effect parts P) (f a)) :
    Act.Keeps (Effect parts P) (x >>= f) :=
  Act.Keeps.bindOk trans hx hf

theorem pure (a : α) : Act.Keeps (Effect parts P) (Pure.pure a : Run α) := Act.Keeps.pure refl a

theorem fail (e : TuningError) : Act.Keeps (Effect parts P) (Act.fail e : Run α) :=
  Act.Keeps.fail refl e

theorem lift (r : Except TuningError α) : Act.Keeps (Effect parts P) (Act.lift r : Run α) :=
  Act.Keeps.lift refl r

theorem forEach {f : α → Run Unit} (as : List α) (hf : ∀ a ∈ as, Act.Keeps (Effect parts P) (f a)) :
    Act.Keeps (Effect parts P) (Act.forEach as f) :=
  Act.Keeps.forEach refl trans as hf

theorem collect {f : α → Run β} (as : List α) (hf : ∀ a ∈ as, Act.Keeps (Effect parts P) (f a)) :
    Act.Keeps (Effect parts P) (Act.collect as f) :=
  Act.Keeps.collect refl trans as hf

theorem widen {x : Run α} (hx : Act.Keeps (Effect parts P) x) (hparts : parts ⊆ parts')
    (hP : ∀ m, P m → P' m) : Act.Keeps (Effect parts' P') x :=
  hx.mono fun _ _ h => h.mono hparts hP

end Effect

/-- Nothing but the script is used up. -/
def Reads (w w' : World) : Prop := w' = { w with script := w'.script }

namespace Reads

theorem refl (w : World) : Reads w w := rfl

theorem trans (a b c : World) (hab : Reads a b) (hbc : Reads b c) : Reads a c := by
  unfold Reads at *
  rw [hab] at hbc
  exact hbc

theorem advance (w : World) : Reads w w.advance := rfl

theorem machine {w w' : World} (h : Reads w w') : w'.machine = w.machine := by rw [h]

theorem folders {w w' : World} (h : Reads w w') : w'.folders = w.folders := by rw [h]

theorem log {w w' : World} (h : Reads w w') : w'.log = w.log := by rw [h]

theorem effect {parts : List Part} {P : Mutation → Prop} {w w' : World} (h : Reads w w') :
    Effect parts P w w' := by
  rw [h]
  exact ⟨rfl, fun _ => rfl, fun _ => rfl, fun _ => rfl, fun _ => rfl, fun _ => rfl, fun _ => rfl,
    [], rfl, by simp⟩

end Reads

theorem inspect_reads {α : Type} (failure : Failure → TuningError)
    (read : World → Except TuningError α) : Act.Keeps Reads (inspect failure read) :=
  inspect_keeps Reads.advance

/-- A run that reads has every effect. -/
theorem Reads.keeps {α : Type} {parts : List Part} {P : Mutation → Prop} {x : Run α}
    (hx : Act.Keeps Reads x) : Act.Keeps (Effect parts P) x :=
  hx.mono fun _ _ h => h.effect

/-! ## Ignored errors -/

/-- `let _ = x`: the outcome is dropped. -/
def discard (x : Run Unit) : Run Unit := do
  let _ ← Act.attempt x
  return ()

theorem discard_ok {x : Run Unit} {w w' : World} {r : Except TuningError Unit} :
    discard x w = (r, w') ↔ r = .ok () ∧ w' = (x w).2 := by
  show (Except.ok (), (x w).2) = (r, w') ↔ _
  simp [eq_comm]

theorem discard_keeps {R : World → World → Prop} {x : Run Unit} (hx : Act.Keeps R x) :
    Act.Keeps R (discard x) := by
  intro w
  exact hx w

/-! ## Queries -/

theorem query_reads (cls : CimClass) (fields : List String) (condition : Fields → Bool) :
    Act.Keeps Reads (Session.queryWhere cls fields condition) := inspect_reads _ _

theorem rows_all (instances : List Fields) (fields : List String) :
    (Session.rows instances fields fun _ => true).map Row.fields =
      instances.map (Fields.select fields) := by
  unfold Session.rows
  rw [List.filter_true, List.map_map, List.mapIdx_eq_zipIdx_map, List.map_map]
  refine Eq.trans ?_ (congrArg (List.map (Fields.select fields)) (List.zipIdx_map_fst 0 instances))
  rw [List.map_map]
  rfl

/-- The rows a query returns. -/
theorem query_ok {cls : CimClass} {fields : List String} {w w' : World} {rows : List Row}
    (h : Session.query cls fields w = (.ok rows, w')) :
    w.nextFailure = none ∧ w' = w.advance ∧
      rows = Session.rows (w.machine.instances cls) fields (fun _ => true) := by
  unfold Session.query Session.queryWhere at h
  obtain ⟨hf, hw, hr⟩ := inspect_ok.mp h
  simp only at hr
  split at hr
  · cases hr
  · cases hr; exact ⟨hf, hw, rfl⟩

theorem query_error {cls : CimClass} {fields : List String} {w w' : World} {e : TuningError}
    (h : Session.query cls fields w = (.error e, w')) : w' = w.advance := by
  unfold Session.query Session.queryWhere at h
  exact external_error h

/-- A query fails by its call or by the row limit only. -/
theorem query_passes {cls : CimClass} (fields : List String) {w : World} (hf : w.nextFailure = none)
    (hlen : (w.machine.instances cls).length ≤ Session.maxRows) :
    Session.query cls fields w =
      (.ok (Session.rows (w.machine.instances cls) fields fun _ => true), w.advance) := by
  have hrows := congrArg List.length (rows_all (w.machine.instances cls) fields)
  simp only [List.length_map] at hrows
  unfold Session.query Session.queryWhere
  refine inspect_ok.mpr ⟨hf, rfl, ?_⟩
  exact if_neg (show ¬ Session.maxRows <
    (Session.rows (w.machine.instances cls) fields fun _ => true).length by omega)

end NetworkLantern.Tuning
