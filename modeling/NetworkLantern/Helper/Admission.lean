import NetworkLantern.Lib.Runs
import NetworkLantern.Lib.Table
import NetworkLantern.Helper.Types
import Mathlib.Data.List.Nodup

/-!
# Admission of helper operations

The helper executes one operation at a time.  `AdmissionState` is what the
server keeps under its lock; a `Server` adds the guards of the operations that
were admitted, the tokens that are cancelled and the clock.  Calls of `handle`
may overlap here; today each caller holds a permit that keeps them apart.

    admission_safe        what holds in every run, unless a destructor comes late
    late_destructor       what a destructor that comes late breaks
-/

namespace NetworkLantern.Helper

open NetworkLantern

/-! ## The code -/

def PENDING_CANCELLATION_TTL : Nat := secs 300
def MAX_PENDING_CANCELLATIONS : Nat := 1024

/-- A token is named by the call of `handle` that made it. -/
structure AdmissionState where
  active : Table Uuid Nat
  pendingCancellations : Table Uuid Nat
  quarantined : Bool

namespace AdmissionState

def default : AdmissionState := ⟨∅, ∅, false⟩

/-- `pending_cancellations.retain(|_, expires| *expires > now)`. -/
def expire (a : AdmissionState) (now : Nat) : AdmissionState :=
  { a with pendingCancellations := a.pendingCancellations.retain fun _ expires => now < expires }

def admitRun (a : AdmissionState) (runId : Uuid) (token now : Nat) :
    Except HelperError Unit × AdmissionState :=
  let a := a.expire now
  if a.quarantined then
    (.error (.scope "helper is quarantined until the service restarts"), a)
  else if (a.pendingCancellations.get? runId).isSome then
    (.error .cancelled, { a with pendingCancellations := a.pendingCancellations.remove runId })
  else if a.active.size ≠ 0 then
    (.error (.scope "another helper operation is active"), a)
  else (.ok (), { a with active := a.active.put runId token })

/-- The token to cancel, if the run is active. -/
def cancelRun (a : AdmissionState) (runId : Uuid) (now : Nat) : Option Nat × AdmissionState :=
  let a := a.expire now
  match a.active.get? runId with
  | some token => (some token, a)
  | none =>
    if a.pendingCancellations.size ≥ MAX_PENDING_CANCELLATIONS then
      (none, { a with quarantined := true })
    else
      (none, { a with
        pendingCancellations :=
          a.pendingCancellations.put runId (now + PENDING_CANCELLATION_TTL) })

/-- The section of `complete`. -/
def complete (a : AdmissionState) (runId : Uuid) : AdmissionState :=
  { a with active := a.active.remove runId }

/-- The section of the destructor. -/
def destroy (a : AdmissionState) (runId : Uuid) (finished : Bool) : AdmissionState :=
  { a with active := a.active.remove runId, quarantined := a.quarantined || !finished }

end AdmissionState

/-- The guard of an admitted operation, which is named by its call. -/
structure ActiveRunGuard where
  op : Nat
  runId : Uuid
  finished : Bool
deriving DecidableEq, Repr

structure Server where
  admission : AdmissionState
  /-- The guards whose destructor has not run. -/
  guards : List ActiveRunGuard
  cancelled : List Nat
  /-- How many calls of `handle` have asked for admission. -/
  calls : Nat
  clock : Nat

inductive ServerStep
  | admitRun (runId : Uuid)
  | cancelRun (runId : Uuid)
  /-- The connection of an operation is closed, and `handle` cancels its token. -/
  | disconnect (op : Nat)
  /-- An execution is over, and `handle` completes its guard. -/
  | complete (op : Nat)
  /-- The destructor of a guard. -/
  | drop (op : Nat)
  | tick (nanos : Nat)
deriving DecidableEq, Repr

namespace Server

def init : Server := ⟨AdmissionState.default, [], [], 0, 0⟩

def guard (s : Server) (op : Nat) : Option ActiveRunGuard := s.guards.find? fun g => g.op == op

/-- The operations that still execute: admitted, and not completed. -/
def executing (s : Server) : List ActiveRunGuard := s.guards.filter fun g => !g.finished

def admitRun (s : Server) (runId : Uuid) : Server :=
  let (result, admission) := s.admission.admitRun runId s.calls s.clock
  match result with
  | .ok () =>
    { s with admission, guards := ⟨s.calls, runId, false⟩ :: s.guards, calls := s.calls + 1 }
  | .error .cancelled =>
    { s with admission, cancelled := s.calls :: s.cancelled, calls := s.calls + 1 }
  | .error _ => { s with admission, calls := s.calls + 1 }

def cancelRun (s : Server) (runId : Uuid) : Server :=
  let (token, admission) := s.admission.cancelRun runId s.clock
  { s with admission, cancelled := token.toList ++ s.cancelled }

def step (s : Server) : ServerStep → Option Server
  | .admitRun runId => some (s.admitRun runId)
  | .cancelRun runId => some (s.cancelRun runId)
  | .disconnect op => (s.guard op).map fun _ => { s with cancelled := op :: s.cancelled }
  | .complete op =>
    match s.guard op with
    | some ⟨_, runId, false⟩ =>
      some { s with
        admission := s.admission.complete runId
        guards := s.guards.map fun g => if g.op = op then { g with finished := true } else g }
    | _ => none
  | .drop op =>
    (s.guard op).map fun g =>
      { s with
        admission := s.admission.destroy g.runId g.finished
        guards := s.guards.filter fun g => g.op != op
        cancelled := op :: s.cancelled }
  | .tick nanos => some { s with clock := s.clock + nanos }

end Server

/-! ## One section at a time -/

namespace AdmissionState

variable {a : AdmissionState} {runId : Uuid} {token now : Nat}

@[simp] theorem expire_active (a : AdmissionState) (now : Nat) : (a.expire now).active = a.active :=
  rfl

@[simp] theorem expire_quarantined (a : AdmissionState) (now : Nat) :
    (a.expire now).quarantined = a.quarantined := rfl

theorem mem_expire {id : Uuid} {e : Nat} :
    e ∈ (a.expire now).pendingCancellations.get? id ↔
      e ∈ a.pendingCancellations.get? id ∧ now < e := by
  unfold expire
  rw [Table.mem_get?_retain, decide_eq_true_iff]

/-- What admission decides. -/
inductive Admits (a : AdmissionState) (runId : Uuid) (token now : Nat) : Prop
  | accepted (ha : a.admitRun runId token now =
        (.ok (), { a.expire now with active := a.active.put runId token }))
      (hq : a.quarantined = false)
      (hp : ∀ e ∈ a.pendingCancellations.get? runId, e ≤ now) (hidle : a.active.size = 0)
  | refused (e : HelperError) (b : AdmissionState) (ha : a.admitRun runId token now = (.error e, b))
      (hactive : b.active = a.active) (hq : b.quarantined = a.quarantined)
      (hsize : b.pendingCancellations.size ≤ a.pendingCancellations.size)
      (hmem : ∀ id x, x ∈ b.pendingCancellations.get? id → x ∈ a.pendingCancellations.get? id)
      (hkept : ∀ id x, id ≠ runId → x ∈ a.pendingCancellations.get? id → now < x →
        x ∈ b.pendingCancellations.get? id)
      (hwhy : a.quarantined = true ∨ (∃ x ∈ a.pendingCancellations.get? runId, now < x) ∨
        a.active.size ≠ 0)

theorem admitRun_cases (a : AdmissionState) (runId : Uuid) (token now : Nat) :
    Admits a runId token now := by
  have hsize := Table.size_retain_le a.pendingCancellations fun _ expires => decide (now < expires)
  cases hq : a.quarantined with
  | true =>
    refine .refused (.scope "helper is quarantined until the service restarts") (a.expire now)
      (by simp [admitRun, hq]) rfl rfl hsize
      (fun id x hx => (mem_expire.mp hx).1) (fun id x _ hx hlt => mem_expire.mpr ⟨hx, hlt⟩)
      (.inl hq)
  | false =>
    cases hp : (a.expire now).pendingCancellations.get? runId with
    | some x =>
      refine .refused .cancelled { a.expire now with
          pendingCancellations := (a.expire now).pendingCancellations.remove runId }
        (by simp [admitRun, hq, hp]) rfl rfl ?_ ?_ ?_ (.inr (.inl ⟨x, mem_expire.mp hp⟩))
      · exact (Table.size_remove_le _ _).trans hsize
      · intro id x hx
        exact (mem_expire.mp (Table.mem_get?_remove.mp hx).2).1
      · intro id x hne hx hlt
        exact Table.mem_get?_remove.mpr ⟨hne, mem_expire.mpr ⟨hx, hlt⟩⟩
    | none =>
      by_cases hidle : a.active.size = 0
      · refine .accepted (by simp [admitRun, hq, hp, hidle]) hq (fun e he => ?_) hidle
        by_contra hlt
        have hmem := mem_expire.mpr ⟨he, Nat.lt_of_not_le hlt⟩
        rw [hp] at hmem
        cases hmem
      · exact .refused (.scope "another helper operation is active") (a.expire now)
          (by simp [admitRun, hq, hp, hidle]) rfl rfl hsize
          (fun id x hx => (mem_expire.mp hx).1) (fun id x _ hx hlt => mem_expire.mpr ⟨hx, hlt⟩)
          (.inr (.inr hidle))

/-- What a cancel request does. -/
inductive Cancels (a : AdmissionState) (runId : Uuid) (now : Nat) : Prop
  | active (token : Nat) (h : a.cancelRun runId now = (some token, a.expire now))
      (hactive : a.active.get? runId = some token)
  | full (h : a.cancelRun runId now = (none, { a.expire now with quarantined := true }))
      (hactive : a.active.get? runId = none)
  | pending (h : a.cancelRun runId now = (none, { a.expire now with
        pendingCancellations := (a.expire now).pendingCancellations.put runId
          (now + PENDING_CANCELLATION_TTL) }))
      (hactive : a.active.get? runId = none)
      (hsize : (a.expire now).pendingCancellations.size < MAX_PENDING_CANCELLATIONS)

theorem cancelRun_cases (a : AdmissionState) (runId : Uuid) (now : Nat) :
    Cancels a runId now := by
  cases hact : a.active.get? runId with
  | some token => exact .active token (by simp [cancelRun, hact]) hact
  | none =>
    by_cases hsize : (a.expire now).pendingCancellations.size ≥ MAX_PENDING_CANCELLATIONS
    · exact .full (by simp [cancelRun, hact, hsize]) hact
    · exact .pending (by simp [cancelRun, hact, hsize]) hact (Nat.lt_of_not_le hsize)

end AdmissionState

namespace Server

variable {s s' : Server} {a : ServerStep}

/-! ## The invariant -/

/-- The active runs are those that execute, and there is at most one. -/
structure Inv (s : Server) : Prop where
  entries : ∀ id op, op ∈ s.admission.active.get? id ↔ ⟨op, id, false⟩ ∈ s.guards
  single : s.admission.active.size ≤ 1
  issued : ∀ g ∈ s.guards, g.op < s.calls
  unique : (s.guards.map ActiveRunGuard.op).Nodup
  pending : s.admission.pendingCancellations.size ≤ MAX_PENDING_CANCELLATIONS

/-- When the destructor of a completed guard runs, no operation with its run
identifier executes. -/
def DestructorAlone (s : Server) : ServerStep → Prop
  | .drop op => ∀ g ∈ s.guards, g.op = op → g.finished = true →
      ∀ h ∈ s.guards, h.runId = g.runId → h.finished = true
  | _ => True

theorem init_inv : Inv init where
  entries id op := by simp [init, AdmissionState.default]
  single := Nat.zero_le 1
  issued g hg := by cases hg
  unique := List.nodup_nil
  pending := Nat.zero_le _

theorem guard_some {op : Nat} {g : ActiveRunGuard} (h : s.guard op = some g) :
    g ∈ s.guards ∧ g.op = op := by
  have hop := List.find?_some h
  exact ⟨List.mem_of_find?_eq_some h, by simpa using hop⟩

/-- Two operations that execute are the same operation. -/
theorem Inv.executing_eq (hs : Inv s) {op op' : Nat} {id id' : Uuid}
    (h : ⟨op, id, false⟩ ∈ s.guards) (h' : ⟨op', id', false⟩ ∈ s.guards) : id = id' ∧ op = op' :=
  Table.eq_of_size_le_one hs.single ((hs.entries id op).mpr h) ((hs.entries id' op').mpr h')

theorem Inv.guard_eq (hs : Inv s) {g h : ActiveRunGuard} (hg : g ∈ s.guards) (hh : h ∈ s.guards)
    (hop : g.op = h.op) : g = h :=
  List.inj_on_of_nodup_map hs.unique hg hh hop

theorem admitRun_inv (hs : Inv s) (runId : Uuid) : Inv (s.admitRun runId) := by
  unfold admitRun
  cases AdmissionState.admitRun_cases s.admission runId s.calls s.clock with
  | accepted ha _ _ hidle =>
    have hnone : ∀ op id, ⟨op, id, false⟩ ∉ s.guards := by
      intro op id hmem
      have hget := (hs.entries id op).mpr hmem
      rw [Table.get?_of_size_eq_zero hidle id] at hget
      cases hget
    rw [ha]
    refine ⟨fun id op => ?_, ?_, fun g hg => ?_, ?_, ?_⟩
    · show op ∈ (s.admission.active.put runId s.calls).get? id ↔ _
      rw [Table.mem_get?_put, Table.get?_of_size_eq_zero hidle]
      simp only [List.mem_cons, hnone, or_false, ActiveRunGuard.mk.injEq, and_true]
      simp [and_comm]
    · show (s.admission.active.put runId s.calls).size ≤ 1
      have := Table.size_put_le s.admission.active runId s.calls
      omega
    · rcases List.mem_cons.mp hg with rfl | hg
      · exact Nat.lt_succ_self s.calls
      · exact Nat.lt_succ_of_lt (hs.issued g hg)
    · show (List.map _ (_ :: s.guards)).Nodup
      rw [List.map_cons, List.nodup_cons]
      refine ⟨fun hmem => ?_, hs.unique⟩
      obtain ⟨g, hg, hop⟩ := List.mem_map.mp hmem
      have hlt := hs.issued g hg
      have hop : g.op = s.calls := hop
      omega
    · exact (Table.size_retain_le _ _).trans hs.pending
  | refused e b ha hactive _ hsize _ _ _ =>
    have hb : ∀ c, Inv { s with admission := b, cancelled := c, calls := s.calls + 1 } := by
      intro c
      refine ⟨fun id op => ?_, ?_, fun g hg => Nat.lt_succ_of_lt (hs.issued g hg), hs.unique,
        hsize.trans hs.pending⟩
      · rw [hactive]; exact hs.entries id op
      · rw [hactive]; exact hs.single
    rw [ha]
    cases e <;> exact hb _

theorem cancelRun_inv (hs : Inv s) (runId : Uuid) : Inv (s.cancelRun runId) := by
  have hretain := Table.size_retain_le s.admission.pendingCancellations
    fun _ expires => decide (s.clock < expires)
  unfold cancelRun
  cases AdmissionState.cancelRun_cases s.admission runId s.clock with
  | active token h _ =>
    rw [h]
    exact ⟨hs.entries, hs.single, hs.issued, hs.unique, hretain.trans hs.pending⟩
  | full h _ =>
    rw [h]
    exact ⟨hs.entries, hs.single, hs.issued, hs.unique, hretain.trans hs.pending⟩
  | pending h _ hsize =>
    rw [h]
    refine ⟨hs.entries, hs.single, hs.issued, hs.unique, ?_⟩
    have hput := Table.size_put_le (s.admission.expire s.clock).pendingCancellations runId
      (s.clock + PENDING_CANCELLATION_TTL)
    exact hput.trans hsize

/-- Taking the entry of an operation out together with its guard. -/
theorem Inv.remove (hs : Inv s) {op : Nat} {id : Uuid} {guards : List ActiveRunGuard}
    (hrun : ⟨op, id, false⟩ ∈ s.guards)
    (hguards : ∀ o i, ⟨o, i, false⟩ ∈ guards ↔ ⟨o, i, false⟩ ∈ s.guards ∧ o ≠ op) (i : Uuid)
    (o : Nat) : o ∈ (s.admission.active.remove id).get? i ↔ ⟨o, i, false⟩ ∈ guards := by
  rw [Table.mem_get?_remove, hguards, hs.entries]
  constructor
  · rintro ⟨hne, hmem⟩
    refine ⟨hmem, fun hop => ?_⟩
    exact hne (hs.executing_eq hmem hrun).1
  · rintro ⟨hmem, hne⟩
    refine ⟨fun hid => ?_, hmem⟩
    exact hne (hs.executing_eq hmem hrun).2

theorem step_inv (hs : Inv s) (hc : DestructorAlone s a) (h : s.step a = some s') : Inv s' := by
  cases a with
  | admitRun runId =>
    cases h
    exact admitRun_inv hs runId
  | cancelRun runId =>
    cases h
    exact cancelRun_inv hs runId
  | disconnect op =>
    obtain ⟨g, -, rfl⟩ := Option.map_eq_some_iff.mp h
    exact ⟨hs.entries, hs.single, hs.issued, hs.unique, hs.pending⟩
  | complete op =>
    simp only [step] at h
    split at h
    · rename_i op' runId hg
      cases h
      obtain ⟨hmem, hop⟩ := guard_some hg
      have hop : op' = op := hop
      subst hop
      refine ⟨fun i o => hs.remove hmem (fun o i => ?_) i o,
        (Table.size_remove_le _ _).trans hs.single, fun g hg => ?_, ?_, hs.pending⟩
      · simp only [List.mem_map]
        constructor
        · rintro ⟨g, hg, heq⟩
          split at heq
          · cases heq
          · subst heq
            exact ⟨hg, ‹_›⟩
        · rintro ⟨hin, hne⟩
          exact ⟨_, hin, if_neg hne⟩
      · obtain ⟨k, hk, rfl⟩ := List.mem_map.mp hg
        have hlt := hs.issued k hk
        split <;> exact hlt
      · have hops : (s.guards.map fun g => if g.op = op' then { g with finished := true } else g).map
            ActiveRunGuard.op = s.guards.map ActiveRunGuard.op := by
          rw [List.map_map]
          refine List.map_congr_left fun g _ => ?_
          show (if g.op = op' then _ else g).op = g.op
          split <;> rfl
        rw [hops]
        exact hs.unique
    · cases h
  | drop op =>
    obtain ⟨g, hg, rfl⟩ := Option.map_eq_some_iff.mp h
    obtain ⟨hmem, hop⟩ := guard_some hg
    have hguards : ∀ o i, ⟨o, i, false⟩ ∈ s.guards.filter (fun g => g.op != op) ↔
        ⟨o, i, false⟩ ∈ s.guards ∧ o ≠ op := by
      intro o i
      simp only [List.mem_filter, bne_iff_ne]
    refine ⟨fun i o => ?_, (Table.size_remove_le _ _).trans hs.single, fun k hk => ?_, ?_,
      hs.pending⟩
    · cases hf : g.finished with
      | false =>
        have hrun : ⟨op, g.runId, false⟩ ∈ s.guards := by
          rw [← hop, ← hf]
          exact hmem
        exact hs.remove hrun hguards i o
      | true =>
        -- the entry of this run is gone, and nothing else of its name executes
        show o ∈ (s.admission.active.remove g.runId).get? i ↔ _
        rw [Table.mem_get?_remove, hguards, hs.entries]
        constructor
        · rintro ⟨-, hin⟩
          refine ⟨hin, fun heq => ?_⟩
          have hsame : (⟨o, i, false⟩ : ActiveRunGuard) = g :=
            hs.guard_eq hin hmem (heq.trans hop.symm)
          rw [← hsame] at hf
          cases hf
        · rintro ⟨hin, -⟩
          refine ⟨fun hid => ?_, hin⟩
          have hfin := hc g hmem hop hf ⟨o, i, false⟩ hin hid
          cases hfin
    · exact hs.issued k (List.mem_of_mem_filter hk)
    · exact hs.unique.sublist (List.filter_sublist.map ActiveRunGuard.op)
  | tick nanos =>
    cases h
    exact ⟨hs.entries, hs.single, hs.issued, hs.unique, hs.pending⟩

/-! ## Runs -/

theorem run_inv {as : List ServerStep} (hrun : runSteps step init as = some s)
    (hc : AllSteps DestructorAlone step init as) : Inv s :=
  run_invariant_while (fun _ _ _ hu ha h => step_inv hu ha h) init_inv hc hrun

theorem mem_executing {g : ActiveRunGuard} :
    g ∈ s.executing ↔ g ∈ s.guards ∧ g.finished = false := by
  unfold executing
  rw [List.mem_filter, Bool.not_eq_true']

theorem Inv.executing_le (hs : Inv s) : s.executing.length ≤ 1 := by
  have hnodup : s.executing.Nodup := hs.unique.of_map.filter _
  have hsame : ∀ g ∈ s.executing, ∀ h ∈ s.executing, g = h := by
    rintro ⟨op, id, f⟩ hg ⟨op', id', f'⟩ hh
    obtain ⟨hg, hf⟩ := mem_executing.mp hg
    obtain ⟨hh, hf'⟩ := mem_executing.mp hh
    cases hf
    cases hf'
    exact hs.guard_eq hg hh (hs.executing_eq hg hh).2
  match hexec : s.executing with
  | [] => exact Nat.zero_le 1
  | [_] => exact Nat.le_refl 1
  | g :: h :: rest =>
    rw [hexec] at hnodup hsame
    have heq := hsame g List.mem_cons_self h (List.mem_cons_of_mem g List.mem_cons_self)
    rw [List.nodup_cons] at hnodup
    exact absurd (heq ▸ List.mem_cons_self) hnodup.1

/-- A cancel request reaches the operation that executes under its name. -/
theorem Inv.cancelRun_cancels (hs : Inv s) {g : ActiveRunGuard} (hg : g ∈ s.executing) :
    g.op ∈ (s.cancelRun g.runId).cancelled := by
  obtain ⟨hmem, hf⟩ := mem_executing.mp hg
  have hget : s.admission.active.get? g.runId = some g.op := by
    refine (hs.entries g.runId g.op).mpr ?_
    rw [← hf]
    exact hmem
  have hact : (s.admission.cancelRun g.runId s.clock).1 = some g.op := by
    simp [AdmissionState.cancelRun, hget]
  unfold cancelRun
  show g.op ∈ (s.admission.cancelRun g.runId s.clock).1.toList ++ s.cancelled
  rw [hact]
  exact List.mem_cons_self

/-- The next request to run `id` is refused. -/
def Refuses (s : Server) (id : Uuid) : Prop :=
  ∃ e, (s.admission.admitRun id s.calls s.clock).1 = .error e

theorem refuses_of_quarantined (h : s.admission.quarantined = true) (id : Uuid) : Refuses s id := by
  cases AdmissionState.admitRun_cases s.admission id s.calls s.clock with
  | accepted _ hq _ _ => rw [h] at hq; cases hq
  | refused e b ha _ _ _ _ _ _ => exact ⟨e, by rw [ha]⟩

theorem step_quarantined (h : s.step a = some s') (hq : s.admission.quarantined = true) :
    s'.admission.quarantined = true := by
  cases a with
  | admitRun id =>
    cases h
    unfold admitRun
    cases AdmissionState.admitRun_cases s.admission id s.calls s.clock with
    | accepted _ hq' _ _ => rw [hq] at hq'; cases hq'
    | refused e b ha _ hq' _ _ _ _ =>
      rw [ha]
      cases e <;> exact hq'.trans hq
  | cancelRun id =>
    cases h
    unfold cancelRun
    cases AdmissionState.cancelRun_cases s.admission id s.clock with
    | active token h _ => rw [h]; exact hq
    | full h _ => rw [h]
    | pending h _ _ => rw [h]; exact hq
  | disconnect op => obtain ⟨g, -, rfl⟩ := Option.map_eq_some_iff.mp h; exact hq
  | complete op =>
    simp only [step] at h
    split at h <;> cases h
    exact hq
  | drop op =>
    obtain ⟨g, -, rfl⟩ := Option.map_eq_some_iff.mp h
    show (s.admission.quarantined || _) = true
    rw [hq, Bool.true_or]
  | tick nanos => cases h; exact hq

/-- `id` is refused until `deadline`. -/
def Barred (deadline : Nat) (id : Uuid) (s : Server) : Prop :=
  deadline ≤ s.clock + PENDING_CANCELLATION_TTL ∧
    (s.clock < deadline → s.admission.quarantined = true ∨
      ∃ e ∈ s.admission.pendingCancellations.get? id, deadline ≤ e)

theorem Barred.refuses {deadline : Nat} {id : Uuid} (h : Barred deadline id s)
    (hclock : s.clock < deadline) : Refuses s id := by
  rcases h.2 hclock with hq | ⟨x, hx, hle⟩
  · exact refuses_of_quarantined hq id
  · cases AdmissionState.admitRun_cases s.admission id s.calls s.clock with
    | accepted _ _ hp _ =>
      have := hp x hx
      omega
    | refused e b ha _ _ _ _ _ _ => exact ⟨e, by rw [ha]⟩

/-- A request for a run that is not active bars its name. -/
theorem cancelRun_bars {id : Uuid} (h : s.admission.active.get? id = none) :
    Barred (s.clock + PENDING_CANCELLATION_TTL) id (s.cancelRun id) := by
  unfold cancelRun
  cases AdmissionState.cancelRun_cases s.admission id s.clock with
  | active token _ hactive => rw [h] at hactive; cases hactive
  | full h _ =>
    rw [h]
    exact ⟨Nat.le_refl _, fun _ => .inl rfl⟩
  | pending h _ _ =>
    rw [h]
    exact ⟨Nat.le_refl _, fun _ => .inr ⟨_, Table.get?_put_self _ _ _, Nat.le_refl _⟩⟩

/-- Only an admission of `id` itself uses its bar up. -/
theorem step_barred {deadline : Nat} {id : Uuid} (hb : Barred deadline id s)
    (ha : a ≠ .admitRun id) (h : s.step a = some s') : Barred deadline id s' := by
  cases a with
  | admitRun other =>
    cases h
    have hne : id ≠ other := fun heq => ha (heq ▸ rfl)
    unfold admitRun
    cases AdmissionState.admitRun_cases s.admission other s.calls s.clock with
    | accepted haccepted hq _ _ =>
      rw [haccepted]
      refine ⟨hb.1, fun hlt => ?_⟩
      rcases hb.2 hlt with hq' | ⟨e, he, hle⟩
      · exact .inl hq'
      · exact .inr ⟨e, AdmissionState.mem_expire.mpr ⟨he, Nat.lt_of_lt_of_le hlt hle⟩, hle⟩
    | refused e b haccepted _ hq _ _ hkept _ =>
      have hb' : ∀ c, Barred deadline id
          { s with admission := b, cancelled := c, calls := s.calls + 1 } := by
        intro c
        refine ⟨hb.1, fun hlt => ?_⟩
        rcases hb.2 hlt with hq' | ⟨x, hx, hle⟩
        · exact .inl (hq.trans hq')
        · exact .inr ⟨x, hkept id x hne hx (Nat.lt_of_lt_of_le hlt hle), hle⟩
      rw [haccepted]
      cases e <;> exact hb' _
  | cancelRun other =>
    cases h
    have hexpire : ∀ e, e ∈ s.admission.pendingCancellations.get? id → deadline ≤ e →
        s.clock < deadline → e ∈ (s.admission.expire s.clock).pendingCancellations.get? id :=
      fun e he hle hlt => AdmissionState.mem_expire.mpr ⟨he, Nat.lt_of_lt_of_le hlt hle⟩
    unfold cancelRun
    cases AdmissionState.cancelRun_cases s.admission other s.clock with
    | active token h _ =>
      rw [h]
      refine ⟨hb.1, fun hlt => ?_⟩
      rcases hb.2 hlt with hq | ⟨e, he, hle⟩
      · exact .inl hq
      · exact .inr ⟨e, hexpire e he hle hlt, hle⟩
    | full h _ =>
      rw [h]
      exact ⟨hb.1, fun _ => .inl rfl⟩
    | pending h _ _ =>
      rw [h]
      refine ⟨hb.1, fun hlt => ?_⟩
      rcases hb.2 hlt with hq | ⟨e, he, hle⟩
      · exact .inl hq
      · by_cases hid : id = other
        · subst hid
          exact .inr ⟨_, Table.get?_put_self _ _ _, hb.1⟩
        · exact .inr ⟨e, Table.mem_get?_put.mpr (.inr ⟨hid, hexpire e he hle hlt⟩), hle⟩
  | disconnect op => obtain ⟨g, -, rfl⟩ := Option.map_eq_some_iff.mp h; exact hb
  | complete op =>
    simp only [step] at h
    split at h <;> cases h
    exact hb
  | drop op =>
    obtain ⟨g, -, rfl⟩ := Option.map_eq_some_iff.mp h
    refine ⟨hb.1, fun hlt => ?_⟩
    rcases hb.2 hlt with hq | hx
    · refine .inl ?_
      show (s.admission.quarantined || _) = true
      rw [hq, Bool.true_or]
    · exact .inr hx
  | tick nanos =>
    cases h
    refine ⟨?_, fun hlt => hb.2 (Nat.lt_of_le_of_lt (Nat.le_add_right s.clock nanos) hlt)⟩
    have := hb.1
    show deadline ≤ s.clock + nanos + _
    omega

/-- No cancel request for `id` is pending. -/
def Fresh (id : Uuid) (s : Server) : Prop := s.admission.pendingCancellations.get? id = none

theorem step_fresh {id : Uuid} (hs : Fresh id s) (ha : a ≠ .cancelRun id)
    (h : s.step a = some s') : Fresh id s' := by
  unfold Fresh at *
  rw [Option.eq_none_iff_forall_not_mem] at hs ⊢
  intro x hx
  cases a with
  | admitRun other =>
    cases h
    unfold admitRun at hx
    cases AdmissionState.admitRun_cases s.admission other s.calls s.clock with
    | accepted haccepted _ _ _ =>
      rw [haccepted] at hx
      exact hs x (AdmissionState.mem_expire.mp hx).1
    | refused e b haccepted _ _ _ hmem _ _ =>
      rw [haccepted] at hx
      cases e <;> exact hs x (hmem id x hx)
  | cancelRun other =>
    cases h
    have hne : id ≠ other := fun heq => ha (heq ▸ rfl)
    unfold cancelRun at hx
    cases AdmissionState.cancelRun_cases s.admission other s.clock with
    | active token h _ =>
      rw [h] at hx
      exact hs x (AdmissionState.mem_expire.mp hx).1
    | full h _ =>
      rw [h] at hx
      exact hs x (AdmissionState.mem_expire.mp hx).1
    | pending h _ _ =>
      rw [h] at hx
      rcases Table.mem_get?_put.mp hx with ⟨heq, -⟩ | ⟨-, hx⟩
      · exact hne heq
      · exact hs x (AdmissionState.mem_expire.mp hx).1
  | disconnect op => obtain ⟨g, -, rfl⟩ := Option.map_eq_some_iff.mp h; exact hs x hx
  | complete op =>
    simp only [step] at h
    split at h <;> cases h
    exact hs x hx
  | drop op => obtain ⟨g, -, rfl⟩ := Option.map_eq_some_iff.mp h; exact hs x hx
  | tick nanos => cases h; exact hs x hx

theorem Fresh.admitted (hs : Inv s) {id : Uuid} (hf : Fresh id s)
    (hq : s.admission.quarantined = false) (hidle : s.executing = []) :
    (s.admission.admitRun id s.calls s.clock).1 = .ok () := by
  cases AdmissionState.admitRun_cases s.admission id s.calls s.clock with
  | accepted ha _ _ _ => rw [ha]
  | refused e b _ _ _ _ _ _ hwhy =>
    exfalso
    rcases hwhy with h | ⟨x, hx, -⟩ | h
    · rw [hq] at h; cases h
    · rw [show s.admission.pendingCancellations.get? id = none from hf] at hx
      cases hx
    · -- an entry would belong to an operation that executes
      obtain ⟨e, he⟩ := List.exists_mem_of_length_pos (Nat.pos_of_ne_zero h)
      have hmem := (hs.entries e.1 e.2).mp (Table.mem_entries.mpr he)
      have hexec := mem_executing.mpr ⟨hmem, rfl⟩
      rw [hidle] at hexec
      cases hexec

/-- In every run in which no destructor of a completed guard meets an operation
of its own name: one operation executes at most, a cancel request reaches it,
quarantine is final, the pending requests are bounded, a request for a run that
is not active bars its name for five minutes, and an idle helper admits a name
that was never cancelled. -/
theorem admission_safe {as : List ServerStep} (hrun : runSteps step init as = some s)
    (hc : AllSteps DestructorAlone step init as) :
    s.executing.length ≤ 1 ∧
      (∀ g ∈ s.executing, g.op ∈ (s.cancelRun g.runId).cancelled) ∧
      s.admission.pendingCancellations.size ≤ MAX_PENDING_CANCELLATIONS ∧
      (s.admission.quarantined = true → ∀ later s' id,
        runSteps step s later = some s' → Refuses s' id) ∧
      (∀ id, (∀ g ∈ s.executing, g.runId ≠ id) → ∀ later s',
        runSteps step (s.cancelRun id) later = some s' → (∀ a ∈ later, a ≠ .admitRun id) →
          s'.clock < s.clock + PENDING_CANCELLATION_TTL → Refuses s' id) ∧
      ∀ id, (∀ a ∈ as, a ≠ .cancelRun id) → s.admission.quarantined = false → s.executing = [] →
        (s.admission.admitRun id s.calls s.clock).1 = .ok () := by
  have hs := run_inv hrun hc
  refine ⟨hs.executing_le, fun g hg => hs.cancelRun_cancels hg, hs.pending, ?_, ?_, ?_⟩
  · intro hq later s' id hlater
    have hq' := run_invariant (I := fun t : Server => t.admission.quarantined = true)
      (fun _ _ _ hu h => step_quarantined h hu) hq hlater
    exact refuses_of_quarantined hq' id
  · intro id hidle later s' hlater hother hclock
    have hnone : s.admission.active.get? id = none := by
      rw [Option.eq_none_iff_forall_not_mem]
      intro op hop
      exact hidle _ (mem_executing.mpr ⟨(hs.entries id op).mp hop, rfl⟩) rfl
    have hbar := run_invariant_while
      (fun (u : Server) a t hu ha (h : step u a = some t) => step_barred hu ha h)
      (cancelRun_bars hnone) (allSteps_of_forall hother) hlater
    exact hbar.refuses hclock
  · intro id hnever hq hidle
    have hfresh : Fresh id s := run_invariant_while
      (fun (u : Server) a t hu ha (h : step u a = some t) => step_fresh hu ha h) (show Fresh id init from rfl)
      (allSteps_of_forall hnever) hrun
    exact hfresh.admitted hs hq hidle

/-- An operation that is completed and destroyed, then another that is cancelled. -/
theorem admission_safe_twice :
    let as : List ServerStep :=
      [.admitRun 1, .complete 0, .drop 0, .admitRun 1, .tick 5, .cancelRun 1, .cancelRun 2]
    ∃ s, runSteps step init as = some s ∧ s.executing.length ≤ 1 ∧ 1 ∈ s.cancelled := by
  intro as
  have hc : AllSteps DestructorAlone step init as := by
    refine ⟨trivial, fun t ht => ?_⟩
    cases ht
    refine ⟨trivial, fun t ht => ?_⟩
    cases ht
    refine ⟨by unfold DestructorAlone; decide, fun t ht => ?_⟩
    cases ht
    refine ⟨trivial, fun t ht => ?_⟩
    cases ht
    refine ⟨trivial, fun t ht => ?_⟩
    cases ht
    refine ⟨trivial, fun t ht => ?_⟩
    cases ht
    exact ⟨trivial, fun _ _ => trivial⟩
  exact ⟨_, rfl, (@admission_safe _ as rfl hc).1, by decide⟩

/-- A destructor that comes late takes the entry of the operation that executes
under its name, and a cancel request no longer reaches this operation. -/
theorem late_destructor (hs : Inv s) {op op' : Nat} {id : Uuid} (hdone : ⟨op, id, true⟩ ∈ s.guards)
    (hexec : ⟨op', id, false⟩ ∈ s.guards) (hlive : op' ∉ s.cancelled)
    (h : s.step (.drop op) = some s') :
    ⟨op', id, false⟩ ∈ s'.executing ∧ op' ∉ (s'.cancelRun id).cancelled := by
  obtain ⟨g, hg, rfl⟩ := Option.map_eq_some_iff.mp h
  obtain ⟨hmem, hop⟩ := guard_some hg
  have hgd : g = ⟨op, id, true⟩ := hs.guard_eq hmem hdone hop
  have hne : op' ≠ op := by
    rintro rfl
    cases hs.guard_eq hexec hdone rfl
  refine ⟨mem_executing.mpr ⟨List.mem_filter.mpr ⟨hexec, by simpa using hne⟩, rfl⟩, ?_⟩
  have hnone : (s.admission.destroy g.runId g.finished).active.get? id = none := by
    rw [hgd]
    exact Table.get?_remove_self _ _
  unfold cancelRun
  cases AdmissionState.cancelRun_cases (s.admission.destroy g.runId g.finished) id s.clock with
  | active token _ hactive => rw [hnone] at hactive; cases hactive
  | full h _ =>
    rw [h]
    simpa using ⟨hne, hlive⟩
  | pending h _ _ =>
    rw [h]
    simpa using ⟨hne, hlive⟩

/-- Two operations of one name, the second admitted between the two sections
that complete the first, and then a third operation. -/
theorem two_execute :
    ¬ ∀ (as : List ServerStep) (s : Server), runSteps step init as = some s →
      s.executing.length ≤ 1 := by
  intro h
  have hle := h [.admitRun 1, .complete 0, .admitRun 1, .drop 0, .admitRun 2] _ rfl
  exact absurd hle (by decide)

end Server

end NetworkLantern.Helper
