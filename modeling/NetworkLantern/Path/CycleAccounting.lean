import Mathlib.Data.List.Perm.Basic
import NetworkLantern.Path.Cycles

/-!
# The books of a trace run

`pending` counts the probes of each cycle that are out, and `completed_cycles`
the dispatched cycles that have none.  Every event keeps it so, and no event
makes the loop panic.
-/

namespace NetworkLantern.Path

open NetworkLantern Checked

/-- The probes of a cycle. -/
def countOf (ts : List ProbeTask) (c : Nat) : Nat := ts.countP fun t => t.cycle = c

theorem countOf_cons (t : ProbeTask) (ts : List ProbeTask) (c : Nat) :
    countOf (t :: ts) c = countOf ts c + if t.cycle = c then 1 else 0 := by
  unfold countOf
  rw [List.countP_cons]
  simp only [decide_eq_true_eq]

theorem countOf_perm {ts us : List ProbeTask} (h : ts.Perm us) (c : Nat) :
    countOf ts c = countOf us c := h.countP_eq _

/-- The dispatched cycles without a probe. -/
def finishedCycles (ts : List ProbeTask) (dispatched : Nat) : Nat :=
  (List.range dispatched).countP fun c => countOf ts c = 0

theorem finishedCycles_le (ts : List ProbeTask) (n : Nat) : finishedCycles ts n ≤ n := by
  have h := List.countP_le_length (l := List.range n) (p := fun c => countOf ts c = 0)
  rw [List.length_range] at h
  exact h

theorem finishedCycles_succ (ts : List ProbeTask) (n : Nat) :
    finishedCycles ts (n + 1) = finishedCycles ts n + if countOf ts n = 0 then 1 else 0 := by
  unfold finishedCycles
  rw [List.range_succ, List.countP_append, List.countP_singleton]
  simp only [decide_eq_true_eq]

/-- Taking a probe off the books finishes its cycle if it was the last one of a
dispatched cycle. -/
theorem finishedCycles_cons (t : ProbeTask) (ts : List ProbeTask) (n : Nat) :
    finishedCycles ts n =
      finishedCycles (t :: ts) n + if t.cycle < n ∧ countOf ts t.cycle = 0 then 1 else 0 := by
  induction n with
  | zero => rw [if_neg fun h => Nat.not_lt_zero _ h.1]; rfl
  | succ n ih =>
    rw [finishedCycles_succ, finishedCycles_succ, ih, countOf_cons]
    by_cases hn : t.cycle = n
    · subst hn
      rw [if_neg fun h => Nat.lt_irrefl _ h.1, if_pos rfl, if_neg (Nat.succ_ne_zero _)]
      by_cases hc : countOf ts t.cycle = 0
      · rw [if_pos hc, if_pos ⟨Nat.lt_succ_self _, hc⟩]
      · rw [if_neg hc, if_neg fun h => hc h.2]
    · have hlt : (t.cycle < n + 1 ∧ countOf ts t.cycle = 0) ↔ (t.cycle < n ∧ countOf ts t.cycle = 0) := by
        omega
      rw [if_neg hn, Nat.add_zero, if_congr hlt rfl rfl]
      omega

/-- A probe of a cycle that is not dispatched yet changes nothing. -/
theorem finishedCycles_cons_of_le {t : ProbeTask} {n : Nat} (h : n ≤ t.cycle)
    (ts : List ProbeTask) : finishedCycles (t :: ts) n = finishedCycles ts n := by
  rw [finishedCycles_cons t ts n, if_neg fun hlt => Nat.not_lt.mpr h hlt.1, Nat.add_zero]

/-! ## Invariant -/

/-- A probe that the plan has, of a cycle that has begun. -/
structure ProbeTask.Fits (settings : TraceSettings) (cycles : Nat) (t : ProbeTask) : Prop where
  cycle_lt : t.cycle < settings.cycles.toNat
  cycle_le : t.cycle ≤ cycles
  first_le : settings.firstTtl.toNat ≤ t.ttl
  le_max : t.ttl ≤ settings.maxHops.toNat

/-- The sizes of the arrays, the scheduler, and the counters for the probes `ts`. -/
structure Books (settings : TraceSettings) (cadence : Cadence) (pending : List Nat)
    (completed : Nat) (bound : Option Nat) (known hadOk samples : Nat) (ts : List ProbeTask) :
    Prop where
  known_eq : known = settings.maxHops.toNat + 1
  samples_eq : samples = settings.maxHops.toNat + 1
  hadOk_eq : hadOk = settings.cycles.toNat
  pending_length : pending.length = settings.cycles.toNat
  cadence_first : cadence.firstTtl = settings.firstTtl.toNat
  cadence_max : cadence.maxTtl = settings.maxHops.toNat
  first_le_ttl : settings.firstTtl.toNat ≤ cadence.ttl
  ttl_le_max : cadence.ttl ≤ settings.maxHops.toNat
  cycles_le : cadence.cycles ≤ settings.cycles.toNat
  first_le_bound : ∀ b, bound = some b → settings.firstTtl.toNat ≤ b
  fits : ∀ t ∈ ts, t.Fits settings cadence.cycles
  pending_eq : ∀ c < settings.cycles.toNat, pending[c]? = some (countOf ts c)
  completed_eq : completed = finishedCycles ts cadence.cycles

theorem Books.perm {settings : TraceSettings} {cadence : Cadence} {pending : List Nat}
    {completed : Nat} {bound : Option Nat} {known hadOk samples : Nat} {ts us : List ProbeTask}
    (h : Books settings cadence pending completed bound known hadOk samples ts) (hp : ts.Perm us) :
    Books settings cadence pending completed bound known hadOk samples us :=
  { h with
    fits := fun t ht => h.fits t (hp.mem_iff.mpr ht)
    pending_eq := fun c hc => by rw [h.pending_eq c hc, countOf_perm hp]
    completed_eq := by
      rw [h.completed_eq]
      unfold finishedCycles
      simp only [countOf_perm hp] }

/-- What a dispatch moves on to, and that it does not panic. -/
theorem Cadence.dispatched_ok {c : Cadence} (hlo : c.firstTtl ≤ c.ttl) (hhi : c.ttl ≤ c.maxTtl)
    (hmax : c.maxTtl < 256) (hcycles : c.cycles + 1 < 65536) {known : List Bool}
    (hknown : known.length = c.maxTtl + 1) {bound : Option Nat}
    (hbound : ∀ b, bound = some b → c.firstTtl ≤ b) (now : Nat) :
    ∃ c', c.dispatched now known bound = .ok c' ∧ c'.firstTtl = c.firstTtl ∧
      c'.maxTtl = c.maxTtl ∧ (1 ≤ c.estimatedHosts → 1 ≤ c'.estimatedHosts) ∧
      (c'.cycles = c.cycles + 1 ∧ c'.ttl = c.firstTtl ∨
        c'.cycles = c.cycles ∧ c'.ttl = c.ttl + 1 ∧ c.ttl < c.maxTtl) := by
  have hhosts : c.firstTtl ≤ min (bound.getD c.ttl) c.ttl := by
    refine Nat.le_min.mpr ⟨?_, hlo⟩
    cases hb : bound with
    | none => exact hlo
    | some b => exact hbound b hb
  unfold dispatched
  rw [sliceOf_ok hlo (by omega), except_ok_bind]
  dsimp only
  by_cases hend : bound.any (fun bound => bound ≤ c.ttl) ∨
      12 < (List.countP (fun known => !known)
        ((known.drop c.firstTtl).take (c.ttl - c.firstTtl))) ∨ c.ttl = c.maxTtl
  · rw [if_pos hend, sub_ok hhosts, except_ok_bind, bump_ok hcycles, except_ok_bind]
    exact ⟨_, rfl, rfl, rfl, fun _ => Nat.succ_pos _, .inl ⟨rfl, rfl⟩⟩
  · have hlt : c.ttl < c.maxTtl := Nat.lt_of_le_of_ne hhi fun h => hend (.inr (.inr h))
    rw [if_neg hend, bump_ok (by omega), except_ok_bind]
    exact ⟨_, rfl, rfl, rfl, id, .inr ⟨rfl, rfl, hlt⟩⟩

namespace TraceLoop

variable {Sample : Type} (settings : TraceSettings) (settle : Bool → Sample → Sample)

/-- The books are in order for the probes `ts`. -/
def Kept (l : TraceLoop Sample) (ts : List ProbeTask) : Prop :=
  Books settings l.cadence l.pending l.completedCycles l.destinationBound l.knownHops.length
    l.cycleHadOk.length l.samplesByHop.length ts

structure Inv (l : TraceLoop Sample) : Prop where
  kept : l.Kept settings (l.tasks ++ l.lost)
  running : l.phase = .running →
    l.lost = [] ∧ l.tasks.length ≤ MAX_OUTSTANDING_PROBES ∧ l.failedCycleStreak < MAX_FAILED_CYCLES
  alive : l.phase ≠ .panicked

variable {settings settle} {l : TraceLoop Sample} {t : ProbeTask} {ts : List ProbeTask}

/-- Joining a probe counts it off; its cycle is finished with its last probe. -/
theorem meets_finishProbe (hk : l.Kept settings (t :: ts)) :
    Meets (fun r => ∃ pending completedCycles,
        r.1 = { l with pending, completedCycles } ∧ r.1.Kept settings ts)
      (l.finishProbe t) := by
  have hfit := hk.fits t List.mem_cons_self
  have hcount := hk.pending_eq t.cycle hfit.cycle_lt
  have hlen : t.cycle < l.pending.length := by
    rw [hk.pending_length]
    exact hfit.cycle_lt
  have hself : countOf (t :: ts) t.cycle = countOf ts t.cycle + 1 := by
    rw [countOf_cons, if_pos rfl]
  have hfits : ∀ u ∈ ts, u.Fits settings l.cadence.cycles :=
    fun u hu => hk.fits u (List.mem_cons_of_mem t hu)
  have hpending : ∀ c < settings.cycles.toNat,
      (l.pending.set t.cycle (countOf ts t.cycle))[c]? = some (countOf ts c) := by
    intro c hc
    by_cases heq : t.cycle = c
    · rw [← heq, List.getElem?_set_self hlen]
    · rw [List.getElem?_set_ne heq, hk.pending_eq c hc, countOf_cons, if_neg heq, Nat.add_zero]
  have hlength : (l.pending.set t.cycle (countOf ts t.cycle)).length = settings.cycles.toNat := by
    rw [List.length_set, hk.pending_length]
  have hfinished := finishedCycles_cons t ts l.cadence.cycles
  rw [← hk.completed_eq] at hfinished
  unfold finishProbe
  rw [getAt_ok hcount, except_ok_bind, hself, sub_ok (Nat.le_add_left 1 _), except_ok_bind,
    Nat.add_sub_cancel, setAt_ok hlen, except_ok_bind]
  by_cases hdone : t.cycle < l.cadence.cycles ∧ countOf ts t.cycle = 0
  · have hle := finishedCycles_le ts l.cadence.cycles
    have hcycles := hk.cycles_le
    have hplanned := settings.cycles.toNat_lt
    rw [if_pos hdone] at hfinished ⊢
    rw [bump_ok (by omega), except_ok_bind]
    exact ⟨_, _, rfl, { hk with
      pending_length := hlength, fits := hfits, pending_eq := hpending
      completed_eq := hfinished.symm }⟩
  · rw [if_neg hdone] at hfinished ⊢
    exact ⟨_, _, rfl, { hk with
      pending_length := hlength, fits := hfits, pending_eq := hpending
      completed_eq := hfinished.symm }⟩

theorem meets_recordSamples (hk : l.Kept settings ts) {ttl : Nat}
    (httl : ttl ≤ settings.maxHops.toNat) (samples : List Sample) :
    Meets (fun l' => ∃ samplesByHop, l' = { l with samplesByHop } ∧ l'.Kept settings ts)
      (l.recordSamples ttl samples) := by
  have hlen : ttl < l.samplesByHop.length := by
    rw [hk.samples_eq]
    omega
  refine meets_ite (fun _ => ⟨l.samplesByHop, rfl, hk⟩) fun _ => ?_
  refine (meets_getAt hlen).bind fun recorded _ => ?_
  rw [setAt_ok hlen]
  exact ⟨_, rfl, { hk with samples_eq := by rw [List.length_set]; exact hk.samples_eq }⟩

/-- An answer keeps the books, the tasks and the phase. -/
theorem meets_acceptHop (hk : l.Kept settings ts) (hfit : t.Fits settings l.cadence.cycles)
    (hstreak : l.failedCycleStreak < MAX_FAILED_CYCLES) (hop : HopResult Sample) (finished : Bool) :
    Meets (fun l' => l'.Kept settings ts ∧ l'.tasks = l.tasks ∧ l'.lost = l.lost ∧
        l'.phase = l.phase ∧ l'.cadence = l.cadence ∧ l'.failedCycleStreak < MAX_FAILED_CYCLES)
      (l.acceptHop t hop finished) := by
  have hcycle : t.cycle < l.cycleHadOk.length := by
    rw [hk.hadOk_eq]
    exact hfit.cycle_lt
  have hle := hfit.le_max
  have httl : t.ttl < l.knownHops.length := by
    rw [hk.known_eq]
    omega
  have hknown : ∀ x, (l.knownHops.set t.ttl x).length = settings.maxHops.toNat + 1 := by
    intro x
    rw [List.length_set]
    exact hk.known_eq
  have hhadOk : (l.cycleHadOk.set t.cycle true).length = settings.cycles.toNat := by
    rw [List.length_set]
    exact hk.hadOk_eq
  have hkept : ∀ known bound, (∀ b, bound = some b → settings.firstTtl.toNat ≤ b) → Kept settings
      { l with
        cycleHadOk := l.cycleHadOk.set t.cycle true
        knownHops := l.knownHops.set t.ttl known
        destinationBound := bound } ts := fun known _ hbound =>
    { hk with known_eq := hknown known, hadOk_eq := hhadOk, first_le_bound := hbound }
  unfold acceptHop
  rw [setAt_ok hcycle, except_ok_bind]
  refine (meets_getAt httl).bind fun known _ => ?_
  rw [setAt_ok httl, except_ok_bind]
  dsimp only
  refine (meets_recordSamples (hkept _ _ ?_) hle hop.samples).bind ?_
  · intro b hb
    by_cases hreached : hop.reachedDestination = true
    · rw [if_pos hreached, Option.some.injEq] at hb
      rw [← hb]
      cases hold : l.destinationBound with
      | none => exact hfit.first_le
      | some old => exact Nat.le_min.mpr ⟨hk.first_le_bound old hold, hfit.first_le⟩
    · rw [if_neg hreached] at hb
      exact hk.first_le_bound b hb
  rintro _ ⟨samplesByHop, rfl, hk''⟩
  refine meets_ite (fun _ => ?_) fun _ => ⟨hk'', rfl, rfl, rfl, rfl, hstreak⟩
  refine (meets_getAt (hfit.cycle_lt.trans_eq hhadOk.symm)).bind fun hadOk _ => ?_
  refine ⟨hk'', rfl, rfl, rfl, rfl, ?_⟩
  cases hadOk
  · exact hstreak
  · exact Nat.zero_lt_succ 2

/-- A failure keeps the books and the tasks; the loop goes on only before the
third failed cycle. -/
theorem meets_acceptFailure (hk : l.Kept settings ts) (hfit : t.Fits settings l.cadence.cycles)
    (hphase : l.phase = .running) (hstreak : l.failedCycleStreak < MAX_FAILED_CYCLES)
    (e : ProbeError) (finished : Bool) :
    Meets (fun l' => l'.Kept settings ts ∧ l'.tasks = l.tasks ∧ l'.lost = l.lost ∧
        l'.cadence = l.cadence ∧ l'.phase ≠ .panicked ∧
        (l'.phase = .running → l'.failedCycleStreak < MAX_FAILED_CYCLES))
      (l.acceptFailure t e finished) := by
  have hcycle : t.cycle < l.cycleHadOk.length := by
    rw [hk.hadOk_eq]
    exact hfit.cycle_lt
  have halive : l.phase ≠ .panicked := by
    rw [hphase]
    exact nofun
  refine meets_ite (fun _ => ⟨hk, rfl, rfl, rfl, nofun, nofun⟩) fun _ => ?_
  refine meets_ite (fun _ => ?_) fun _ => ⟨hk, rfl, rfl, rfl, halive, fun _ => hstreak⟩
  refine (meets_getAt hcycle).bind fun hadOk _ => ?_
  refine meets_ite (fun _ => ⟨hk, rfl, rfl, rfl, halive, fun _ => Nat.zero_lt_succ 2⟩) fun _ => ?_
  have hbump : l.failedCycleStreak + 1 < 256 := by
    unfold MAX_FAILED_CYCLES at hstreak
    omega
  rw [bump_ok hbump, except_ok_bind]
  refine meets_ite (fun _ => ⟨hk, rfl, rfl, rfl, nofun, nofun⟩) fun hlt => ?_
  exact ⟨hk, rfl, rfl, rfl, halive, fun _ => Nat.not_le.mp hlt⟩

/-- Cycles go on, and no probe returns to the books of a cycle that was dispatched. -/
structure Later (l l' : TraceLoop Sample) : Prop where
  cycles_le : l.cadence.cycles ≤ l'.cadence.cycles
  count_le : ∀ c < l.cadence.cycles,
    countOf (l'.tasks ++ l'.lost) c ≤ countOf (l.tasks ++ l.lost) c

theorem Later.refl (l : TraceLoop Sample) : l.Later l :=
  ⟨Nat.le_refl _, fun _ _ => Nat.le_refl _⟩

theorem Later.trans {l₁ l₂ l₃ : TraceLoop Sample} (h : l₁.Later l₂) (h' : l₂.Later l₃) :
    l₁.Later l₃ :=
  ⟨h.cycles_le.trans h'.cycles_le, fun c hc =>
    (h'.count_le c (Nat.lt_of_lt_of_le hc h.cycles_le)).trans (h.count_le c hc)⟩

theorem later_of_same {l' : TraceLoop Sample} (hcadence : l'.cadence = l.cadence)
    (htasks : l'.tasks = l.tasks) (hlost : l'.lost = l.lost) : l.Later l' := by
  refine ⟨by rw [hcadence], fun c _ => ?_⟩
  rw [htasks, hlost]

/-- The invariant after an event, and what the event left of the books. -/
structure After (settings : TraceSettings) (l l' : TraceLoop Sample) : Prop where
  inv : l'.Inv settings
  later : l.Later l'

theorem land_after {x : Checked Empty (TraceLoop Sample)} (h : x.Meets (After settings l)) :
    After settings l (l.land x) := by
  match x, h with
  | .ok l', h => exact h

/-- The tasks after one was joined, with that task. -/
theorem joined_perm {l : TraceLoop Sample} {i : Nat} (ht : l.tasks[i]? = some t) :
    (l.tasks ++ l.lost).Perm (t :: (l.tasks.eraseIdx i ++ l.lost)) := by
  obtain ⟨hi, hget⟩ := List.getElem?_eq_some_iff.mp ht
  have hperm : (t :: l.tasks.eraseIdx i).Perm l.tasks := by
    rw [← hget]
    exact List.getElem_cons_eraseIdx_perm hi
  exact (hperm.append_right l.lost).symm

theorem later_of_joined {l' : TraceLoop Sample} {i : Nat} (ht : l.tasks[i]? = some t)
    (hcadence : l'.cadence = l.cadence) (htasks : l'.tasks = l.tasks.eraseIdx i)
    (hlost : l'.lost = l.lost) : l.Later l' := by
  refine ⟨by rw [hcadence], fun c _ => ?_⟩
  rw [htasks, hlost, countOf_perm (joined_perm ht), countOf_cons]
  exact Nat.le_add_right _ _

/-- A lost task stays on the books. -/
theorem later_of_lost {l' : TraceLoop Sample} {i : Nat} (ht : l.tasks[i]? = some t)
    (hcadence : l'.cadence = l.cadence) (htasks : l'.tasks = l.tasks.eraseIdx i)
    (hlost : l'.lost = t :: l.lost) : l.Later l' := by
  refine ⟨by rw [hcadence], fun c _ => ?_⟩
  rw [htasks, hlost, countOf_perm (joined_perm ht), countOf_perm List.perm_middle]

/-- A task that the loop joins. -/
theorem meets_joinRunning (h : l.Inv settings) (hphase : l.phase = .running) {i : Nat}
    (ht : l.tasks[i]? = some t) (result : TaskResult Sample) :
    Meets (After settings l) ({ l with tasks := l.tasks.eraseIdx i }.joinRunning t result) := by
  obtain ⟨hlost, hlen, hstreak⟩ := h.running hphase
  have hlen' : (l.tasks.eraseIdx i).length ≤ MAX_OUTSTANDING_PROBES :=
    (List.length_eraseIdx_le _ _).trans hlen
  have hperm := joined_perm ht
  have hk : Kept settings { l with tasks := l.tasks.eraseIdx i }
      (t :: (l.tasks.eraseIdx i ++ l.lost)) := h.kept.perm hperm
  have hfit := hk.fits t List.mem_cons_self
  cases result with
  | panicked =>
    exact ⟨⟨hk.perm List.perm_middle.symm, nofun, nofun⟩, later_of_lost ht rfl rfl rfl⟩
  | hop hop =>
    refine (meets_finishProbe hk).bind ?_
    rintro ⟨_, finished⟩ ⟨pending, completedCycles, rfl, hk'⟩
    refine (meets_acceptHop hk' hfit hstreak hop finished).mono ?_
    rintro l' ⟨hk'', htasks, hlost', hphase', hcadence, hstreak'⟩
    refine ⟨⟨?_, fun _ => ⟨hlost'.trans hlost, ?_, hstreak'⟩, ?_⟩,
      later_of_joined ht hcadence htasks hlost'⟩
    · rw [htasks, hlost']
      exact hk''
    · rw [htasks]
      exact hlen'
    · rw [hphase', hphase]
      exact nofun
  | failed e =>
    refine (meets_finishProbe hk).bind ?_
    rintro ⟨_, finished⟩ ⟨pending, completedCycles, rfl, hk'⟩
    refine (meets_acceptFailure hk' hfit hphase hstreak e finished).mono ?_
    rintro l' ⟨hk'', htasks, hlost', hcadence, halive, hstreak'⟩
    refine ⟨⟨?_, fun hrun => ⟨hlost'.trans hlost, ?_, hstreak' hrun⟩, halive⟩,
      later_of_joined ht hcadence htasks hlost'⟩
    · rw [htasks, hlost']
      exact hk''
    · rw [htasks]
      exact hlen'

/-- A task that the drain joins. -/
theorem meets_joinDraining (h : l.Inv settings) (hphase : l.phase = .draining) {i : Nat}
    (ht : l.tasks[i]? = some t) (result : TaskResult Sample) :
    Meets (After settings l)
      ({ l with tasks := l.tasks.eraseIdx i }.joinDraining settle t result) := by
  have hk : Kept settings { l with tasks := l.tasks.eraseIdx i }
      (t :: (l.tasks.eraseIdx i ++ l.lost)) := h.kept.perm (joined_perm ht)
  have hfit := hk.fits t List.mem_cons_self
  have hrun : l.phase ≠ .running := by
    rw [hphase]
    exact nofun
  cases result with
  | panicked =>
    exact ⟨⟨hk.perm List.perm_middle.symm, fun h => absurd h hrun, h.alive⟩,
      later_of_lost ht rfl rfl rfl⟩
  | hop hop =>
    refine (meets_finishProbe hk).bind ?_
    rintro ⟨_, finished⟩ ⟨pending, completedCycles, rfl, hk'⟩
    refine (meets_recordSamples hk' hfit.le_max _).mono ?_
    rintro _ ⟨samplesByHop, rfl, hk''⟩
    exact ⟨⟨hk'', fun h => absurd h hrun, h.alive⟩, later_of_joined ht rfl rfl rfl⟩
  | failed e =>
    refine (meets_finishProbe hk).bind ?_
    rintro ⟨_, finished⟩ ⟨pending, completedCycles, rfl, hk'⟩
    exact ⟨⟨hk', fun h => absurd h hrun, h.alive⟩, later_of_joined ht rfl rfl rfl⟩

/-- A dispatch moves on to the next hop, or to the next cycle. -/
theorem meets_dispatched {c : Cadence} (hs : settings.Valid)
    (hfirst : c.firstTtl = settings.firstTtl.toNat) (hmax : c.maxTtl = settings.maxHops.toNat)
    (hlo : settings.firstTtl.toNat ≤ c.ttl) (hhi : c.ttl ≤ settings.maxHops.toNat)
    (hcycles : c.cycles < settings.cycles.toNat) {known : List Bool}
    (hknown : known.length = settings.maxHops.toNat + 1) {bound : Option Nat}
    (hbound : ∀ b, bound = some b → settings.firstTtl.toNat ≤ b) (now : Nat) :
    Meets (fun c' => c'.firstTtl = c.firstTtl ∧ c'.maxTtl = c.maxTtl ∧
        settings.firstTtl.toNat ≤ c'.ttl ∧ c'.ttl ≤ settings.maxHops.toNat ∧
        (c'.cycles = c.cycles ∨ c'.cycles = c.cycles + 1))
      (c.dispatched now known bound) := by
  have hplanned := settings.cycles.toNat_lt
  have hhops := settings.maxHops.toNat_lt
  have hrange := hs.first_le_max
  rw [← hfirst] at hlo hbound hrange ⊢
  rw [← hmax] at hhi hknown hhops hrange ⊢
  obtain ⟨c', hc', hfirst', hmax', -, hnext⟩ := Cadence.dispatched_ok hlo hhi hhops
    (Nat.lt_of_lt_of_le (Nat.succ_lt_succ hcycles) hplanned) hknown hbound now
  rw [hc']
  refine ⟨hfirst', hmax', ?_⟩
  rcases hnext with ⟨hcycles', httl⟩ | ⟨hcycles', httl, hlt⟩
  · exact ⟨httl.ge, httl.trans_le hrange, .inr hcycles'⟩
  · exact ⟨httl ▸ Nat.le_succ_of_le hlo, httl ▸ hlt, .inl hcycles'⟩

/-- The probe that is sent goes on the books of the cycle that is under way. -/
theorem meets_dispatch (hs : settings.Valid) (h : l.Inv settings) (hphase : l.phase = .running)
    (hcycles : l.cadence.cycles < settings.cycles.toNat) (now : Nat) :
    Meets (After settings l) (l.dispatch settings now) := by
  obtain ⟨hlost, hlen, hstreak⟩ := h.running hphase
  have hk := h.kept
  have hcount := hk.pending_eq l.cadence.cycles hcycles
  have hpending : l.cadence.cycles < l.pending.length := by
    rw [hk.pending_length]
    exact hcycles
  have halive : l.phase ≠ .panicked := h.alive
  refine meets_ite (fun _ => ⟨⟨hk, nofun, nofun⟩, later_of_same rfl rfl rfl⟩) fun hroom => ?_
  have hsmall : countOf (l.tasks ++ l.lost) l.cadence.cycles ≤ l.tasks.length := by
    have hle := List.countP_le_length (l := l.tasks ++ l.lost) (p := fun t => t.cycle = l.cadence.cycles)
    rw [hlost, List.append_nil] at hle ⊢
    exact hle
  have hbump : countOf (l.tasks ++ l.lost) l.cadence.cycles + 1 < 65536 := by
    unfold MAX_OUTSTANDING_PROBES at hlen
    omega
  dsimp only
  rw [getAt_ok hcount, except_ok_bind, bump_ok hbump, except_ok_bind, setAt_ok hpending,
    except_ok_bind]
  refine (meets_dispatched hs hk.cadence_first hk.cadence_max hk.first_le_ttl hk.ttl_le_max hcycles
    hk.known_eq hk.first_le_bound now).bind ?_
  rintro cadence ⟨hfirst, hmax, hlo, hhi, hnext⟩
  have hle : l.cadence.cycles ≤ cadence.cycles := by omega
  have hnew : ProbeTask.Fits settings cadence.cycles ⟨l.cadence.cycles, l.cadence.ttl⟩ :=
    ⟨hcycles, hle, hk.first_le_ttl, hk.ttl_le_max⟩
  have hcycles_le : cadence.cycles ≤ settings.cycles.toNat := by omega
  have hlength : (l.pending.set l.cadence.cycles
      (countOf (l.tasks ++ l.lost) l.cadence.cycles + 1)).length = settings.cycles.toNat := by
    rw [List.length_set, hk.pending_length]
  have hfits : ∀ u ∈ (⟨l.cadence.cycles, l.cadence.ttl⟩ : ProbeTask) :: (l.tasks ++ l.lost),
      u.Fits settings cadence.cycles := by
    intro u hu
    rcases List.mem_cons.mp hu with rfl | hu
    · exact hnew
    · have hold := hk.fits u hu
      exact { hold with cycle_le := hold.cycle_le.trans hle }
  have hcounts : ∀ c < settings.cycles.toNat,
      (l.pending.set l.cadence.cycles (countOf (l.tasks ++ l.lost) l.cadence.cycles + 1))[c]? =
        some (countOf (⟨l.cadence.cycles, l.cadence.ttl⟩ :: (l.tasks ++ l.lost)) c) := by
    intro c hc
    rw [countOf_cons]
    by_cases heq : l.cadence.cycles = c
    · rw [if_pos heq, ← heq, List.getElem?_set_self hpending]
    · rw [if_neg heq, List.getElem?_set_ne heq, hk.pending_eq c hc, Nat.add_zero]
  have hcompleted : l.completedCycles =
      finishedCycles (⟨l.cadence.cycles, l.cadence.ttl⟩ :: (l.tasks ++ l.lost)) cadence.cycles := by
    rw [hk.completed_eq]
    rcases hnext with hnext | hnext
    · rw [hnext, finishedCycles_cons_of_le (Nat.le_refl _)]
    · -- the cycle that ends has at least this probe out
      have hout : countOf (⟨l.cadence.cycles, l.cadence.ttl⟩ :: (l.tasks ++ l.lost))
          l.cadence.cycles ≠ 0 := by
        rw [countOf_cons, if_pos rfl]
        exact Nat.succ_ne_zero _
      rw [hnext, finishedCycles_succ, if_neg hout, Nat.add_zero,
        finishedCycles_cons_of_le (Nat.le_refl _)]
  have hlater : ∀ c < l.cadence.cycles,
      countOf (⟨l.cadence.cycles, l.cadence.ttl⟩ :: (l.tasks ++ l.lost)) c ≤
        countOf (l.tasks ++ l.lost) c := by
    intro c hc
    rw [countOf_cons, if_neg (Nat.ne_of_gt hc)]
    exact Nat.le_refl _
  refine ⟨⟨?_, fun _ => ⟨hlost, ?_, hstreak⟩, halive⟩, ⟨hle, hlater⟩⟩
  · exact { hk with
      pending_length := hlength, cadence_first := hfirst.trans hk.cadence_first
      cadence_max := hmax.trans hk.cadence_max, first_le_ttl := hlo, ttl_le_max := hhi
      cycles_le := hcycles_le, fits := hfits, pending_eq := hcounts, completed_eq := hcompleted }
  · show l.tasks.length + 1 ≤ MAX_OUTSTANDING_PROBES
    omega

/-- Every event keeps the invariant. -/
theorem Inv.step (hs : settings.Valid) (h : l.Inv settings) {event : LoopEvent Sample}
    {l' : TraceLoop Sample} (hstep : l.step settings settle event = some l') :
    After settings l l' := by
  cases event with
  | cancelled =>
    dsimp only [TraceLoop.step] at hstep
    split at hstep
    · cases hstep
      exact ⟨⟨h.kept, nofun, nofun⟩, later_of_same rfl rfl rfl⟩
    · cases hstep
  | timedOut =>
    dsimp only [TraceLoop.step] at hstep
    split at hstep
    · cases hstep
      exact ⟨⟨h.kept, nofun, nofun⟩, later_of_same rfl rfl rfl⟩
    · cases hstep
  | graceExpired =>
    dsimp only [TraceLoop.step] at hstep
    split at hstep
    · cases hstep
      exact ⟨⟨h.kept, nofun, nofun⟩, later_of_same rfl rfl rfl⟩
    · cases hstep
  | join i result =>
    dsimp only [TraceLoop.step] at hstep
    cases ht : l.tasks[i]? with
    | none =>
      rw [ht] at hstep
      cases hstep
    | some t =>
      rw [ht] at hstep
      dsimp only at hstep
      by_cases hrun : l.phase = .running
      · rw [if_pos hrun] at hstep
        cases hstep
        exact land_after (meets_joinRunning h hrun ht result)
      · rw [if_neg hrun] at hstep
        by_cases hdrain : l.phase = .draining
        · rw [if_pos hdrain] at hstep
          cases hstep
          exact land_after (meets_joinDraining h hdrain ht result)
        · rw [if_neg hdrain] at hstep
          cases hstep
  | dispatch now =>
    dsimp only [TraceLoop.step] at hstep
    split at hstep
    · next hgo =>
      cases hstep
      exact land_after (meets_dispatch hs h hgo.1 hgo.2.1 now)
    · cases hstep
  | shutdownExpired =>
    dsimp only [TraceLoop.step] at hstep
    split at hstep
    · cases hstep
      exact ⟨⟨h.kept, nofun, nofun⟩, later_of_same rfl rfl rfl⟩
    · cases hstep
  | drained =>
    dsimp only [TraceLoop.step] at hstep
    split at hstep
    · cases hstep
      exact ⟨⟨h.kept, nofun, nofun⟩, later_of_same rfl rfl rfl⟩
    · cases hstep

theorem Inv.start (hs : settings.Valid) (now : Nat) :
    Inv settings (start settings now : TraceLoop Sample) where
  kept :=
    { known_eq := List.length_replicate
      samples_eq := List.length_replicate
      hadOk_eq := List.length_replicate
      pending_length := List.length_replicate
      cadence_first := rfl
      cadence_max := rfl
      first_le_ttl := Nat.le_refl _
      ttl_le_max := hs.first_le_max
      cycles_le := Nat.zero_le _
      first_le_bound := nofun
      fits := nofun
      pending_eq := fun c hc => by
        show (List.replicate _ _)[c]? = _
        rw [List.getElem?_replicate, if_pos hc]
        rfl
      completed_eq := rfl }
  running := fun _ => ⟨rfl, Nat.zero_le _, Nat.zero_lt_succ 2⟩
  alive := nofun

/-- A dispatched cycle whose probes have all been collected. -/
def Finished (l : TraceLoop Sample) (c : Nat) : Prop :=
  c < l.cadence.cycles ∧ ∀ t ∈ l.tasks ++ l.lost, t.cycle ≠ c

theorem countOf_eq_zero {ts : List ProbeTask} {c : Nat} :
    countOf ts c = 0 ↔ ∀ t ∈ ts, t.cycle ≠ c := by
  unfold countOf
  rw [List.countP_eq_zero]
  simp only [decide_eq_true_eq, ne_eq]

instance (l : TraceLoop Sample) : DecidablePred l.Finished := fun _ =>
  inferInstanceAs (Decidable (_ ∧ _))

/-- The cycles counted are the finished ones. -/
theorem Inv.completed_eq (h : l.Inv settings) :
    l.completedCycles = (List.range l.cadence.cycles).countP fun c => l.Finished c := by
  rw [h.kept.completed_eq]
  refine List.countP_congr fun c hc => ?_
  rw [decide_eq_true_eq, decide_eq_true_eq, countOf_eq_zero]
  exact ⟨fun hnone => ⟨List.mem_range.mp hc, hnone⟩, fun hfin => hfin.2⟩

theorem Later.finished {l l' : TraceLoop Sample} (h : l.Later l') {c : Nat} (hc : l.Finished c) :
    l'.Finished c := by
  refine ⟨Nat.lt_of_lt_of_le hc.1 h.cycles_le, countOf_eq_zero.mp ?_⟩
  have hle := h.count_le c hc.1
  rw [countOf_eq_zero.mpr hc.2] at hle
  exact Nat.le_zero.mp hle

/-- Whatever happens in whatever order: no step panics; the cycles counted
complete are the finished ones, at most those dispatched, which are at most those
planned; a finished cycle stays finished; and when every cycle is dispatched and
every task has been collected, the count is the planned number. -/
theorem cycle_accounting (h : settings.validate = .ok ()) {now : Nat}
    {events more : List (LoopEvent Sample)} {l l' : TraceLoop Sample}
    (hrun : runSteps (step settings settle) (TraceLoop.start settings now) events = some l)
    (hmore : runSteps (step settings settle) l more = some l') :
    l.phase ≠ .panicked ∧
    l.completedCycles = (List.range l.cadence.cycles).countP (fun c => l.Finished c) ∧
    l.completedCycles ≤ l.cadence.cycles ∧ l.cadence.cycles ≤ settings.cycles.toNat ∧
    (∀ c, l.Finished c → l'.Finished c) ∧
    (l.cadence.cycles = settings.cycles.toNat → l.tasks = [] → l.lost = [] →
      l.completedCycles = settings.cycles.toNat) := by
  have hs := TraceSettings.validate_eq_ok.mp h
  have hinv : l.Inv settings :=
    run_invariant (fun _ _ _ hi hstep => (Inv.step hs hi hstep).inv) (Inv.start hs now) hrun
  have hlater : l.Later l' :=
    run_relation Later.refl (fun _ _ _ => Later.trans)
      (fun _ _ _ hi hstep => (Inv.step hs hi hstep).inv)
      (fun _ _ _ hi hstep => (Inv.step hs hi hstep).later) hinv hmore
  refine ⟨hinv.alive, hinv.completed_eq, ?_, hinv.kept.cycles_le, fun c => hlater.finished, ?_⟩
  · rw [hinv.kept.completed_eq]
    exact finishedCycles_le _ _
  · intro hall htasks hlost
    rw [hinv.completed_eq, ← hall]
    have hevery : ∀ c ∈ List.range l.cadence.cycles, decide (l.Finished c) = true := by
      intro c hc
      rw [decide_eq_true_eq]
      refine ⟨List.mem_range.mp hc, ?_⟩
      rw [htasks, hlost]
      exact nofun
    rw [List.countP_eq_length.mpr hevery, List.length_range]

/-- Two cycles of two hops. -/
def twoCycles : TraceSettings := { TraceSettings.default with cycles := 2, maxHops := 2 }

/-- The first probe of the second cycle is answered before the second of the first cycle fails. -/
def firstEvents : List (LoopEvent Unit) :=
  [.dispatch 100000000, .join 0 (.hop ⟨none, false, [()]⟩), .dispatch 1000000000,
    .dispatch 2000000000, .join 0 (.hop ⟨none, false, [()]⟩), .join 0 (.failed (.io "send" "down"))]

def lastEvents : List (LoopEvent Unit) :=
  [.dispatch 3000000000, .graceExpired, .join 0 (.hop ⟨none, false, [()]⟩), .drained]

theorem cycle_accounting_two :
    ∃ l l', runSteps (step twoCycles fun _ s => s) (TraceLoop.start twoCycles 0) firstEvents =
        some l ∧
      runSteps (step twoCycles fun _ s => s) l lastEvents = some l' ∧
      l.completedCycles = 1 ∧ (∀ c, l.Finished c → l'.Finished c) ∧ l'.completedCycles = 2 := by
  refine ⟨_, _, by rfl, by rfl, by rfl, ?_, by rfl⟩
  exact (@cycle_accounting Unit twoCycles (fun _ s => s) (by decide) 0 firstEvents lastEvents _ _
    rfl rfl).2.2.2.2.1

end TraceLoop

end NetworkLantern.Path
