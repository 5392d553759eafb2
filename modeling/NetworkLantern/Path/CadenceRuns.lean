import NetworkLantern.Path.CycleAccounting

/-!
# What the scheduler sends

The end of a cycle is decided from hops and a bound that change while the cycle
is under way.  Whatever they become, a cycle sends the hops from the first one
on, one after the other (`cadence_sweeps`), and the probes of a trace run are
sent that way (`TraceLoop.run_sweeps`).
-/

namespace NetworkLantern.Path

open NetworkLantern Checked

/-! ## Sweeps -/

/-- The hops sent from hop `ttl` of cycle `cycle` on: each next probe goes one hop further, or to
the first hop of the next cycle. -/
inductive Swept (firstTtl maxTtl : Nat) : Nat → Nat → List (Nat × Nat) → Prop
  | stop (cycle ttl : Nat) : Swept firstTtl maxTtl cycle ttl []
  | hop {cycle ttl : Nat} {sent : List (Nat × Nat)} (h : ttl < maxTtl)
      (rest : Swept firstTtl maxTtl cycle (ttl + 1) sent) :
      Swept firstTtl maxTtl cycle ttl ((cycle, ttl) :: sent)
  | turn {cycle ttl : Nat} {sent : List (Nat × Nat)} (h : ttl ≤ maxTtl)
      (rest : Swept firstTtl maxTtl (cycle + 1) firstTtl sent) :
      Swept firstTtl maxTtl cycle ttl ((cycle, ttl) :: sent)

/-- The hops that were sent in a cycle. -/
def hopsOf (cycle : Nat) (sent : List (Nat × Nat)) : List Nat :=
  (sent.filter fun p => p.1 = cycle).map Prod.snd

theorem hopsOf_cons_self (cycle ttl : Nat) (sent : List (Nat × Nat)) :
    hopsOf cycle ((cycle, ttl) :: sent) = ttl :: hopsOf cycle sent := by
  simp [hopsOf]

theorem hopsOf_cons_ne {k cycle ttl : Nat} (h : cycle ≠ k) (sent : List (Nat × Nat)) :
    hopsOf k ((cycle, ttl) :: sent) = hopsOf k sent := by
  simp [hopsOf, h]

namespace Swept

variable {firstTtl maxTtl cycle ttl : Nat} {sent : List (Nat × Nat)}

/-- Nothing is sent before the hop a sweep starts from. -/
theorem from_le (h : Swept firstTtl maxTtl cycle ttl sent) :
    ∀ p ∈ sent, cycle < p.1 ∨ cycle = p.1 ∧ ttl ≤ p.2 := by
  induction h with
  | stop => nofun
  | hop _ _ ih =>
    intro p hp
    rcases List.mem_cons.mp hp with rfl | hp
    · exact .inr ⟨rfl, Nat.le_refl _⟩
    · rcases ih p hp with hlt | ⟨heq, hle⟩
      · exact .inl hlt
      · exact .inr ⟨heq, Nat.le_of_succ_le hle⟩
  | turn _ _ ih =>
    intro p hp
    rcases List.mem_cons.mp hp with rfl | hp
    · exact .inr ⟨rfl, Nat.le_refl _⟩
    · rcases ih p hp with hlt | ⟨heq, -⟩
      · exact .inl (Nat.lt_of_succ_lt hlt)
      · exact .inl (heq ▸ Nat.lt_succ_self _)

theorem in_range (h : Swept firstTtl maxTtl cycle ttl sent) (hlo : firstTtl ≤ ttl) :
    ∀ p ∈ sent, firstTtl ≤ p.2 ∧ p.2 ≤ maxTtl := by
  induction h with
  | stop => nofun
  | hop hlt _ ih =>
    intro p hp
    rcases List.mem_cons.mp hp with rfl | hp
    · exact ⟨hlo, Nat.le_of_lt hlt⟩
    · exact ih (Nat.le_succ_of_le hlo) p hp
  | turn hle _ ih =>
    intro p hp
    rcases List.mem_cons.mp hp with rfl | hp
    · exact ⟨hlo, hle⟩
    · exact ih (Nat.le_refl _) p hp

theorem increasing (h : Swept firstTtl maxTtl cycle ttl sent) :
    sent.Pairwise (Prod.Lex (· < ·) (· < ·)) := by
  induction h with
  | stop => exact .nil
  | hop _ rest ih =>
    refine List.pairwise_cons.mpr ⟨fun p hp => ?_, ih⟩
    rcases rest.from_le p hp with hlt | ⟨heq, hle⟩
    · exact Prod.Lex.left _ _ hlt
    · rw [Prod.lex_def]
      exact .inr ⟨heq, hle⟩
  | turn _ rest ih =>
    refine List.pairwise_cons.mpr ⟨fun p hp => ?_, ih⟩
    rcases rest.from_le p hp with hlt | ⟨heq, -⟩
    · exact Prod.Lex.left _ _ (Nat.lt_of_succ_lt hlt)
    · exact Prod.Lex.left _ _ (heq ▸ Nat.lt_succ_self _)

theorem hopsOf_before (h : Swept firstTtl maxTtl cycle ttl sent) {k : Nat} (hk : k < cycle) :
    hopsOf k sent = [] := by
  have hnone : sent.filter (fun p => p.1 = k) = [] := by
    refine List.filter_eq_nil_iff.mpr fun p hp heq => ?_
    have hpk := of_decide_eq_true heq
    rcases h.from_le p hp with hlt | ⟨hself, -⟩
    · omega
    · omega
  rw [hopsOf, hnone, List.map_nil]

/-- The cycle under way goes on hop by hop; every later one starts at the first hop. -/
theorem contiguous (h : Swept firstTtl maxTtl cycle ttl sent) (hlo : firstTtl ≤ ttl)
    (hhi : ttl ≤ maxTtl) :
    (∃ n, ttl + n ≤ maxTtl + 1 ∧ hopsOf cycle sent = List.range' ttl n) ∧
    ∀ k, cycle < k → ∃ n, firstTtl + n ≤ maxTtl + 1 ∧
      hopsOf k sent = List.range' firstTtl n := by
  induction h with
  | stop =>
    exact ⟨⟨0, Nat.le_succ_of_le hhi, rfl⟩,
      fun _ _ => ⟨0, Nat.le_succ_of_le (hlo.trans hhi), rfl⟩⟩
  | hop hlt _ ih =>
    obtain ⟨⟨n, hn, heq⟩, hlater⟩ := ih (Nat.le_succ_of_le hlo) hlt
    refine ⟨⟨n + 1, by omega, ?_⟩, fun k hk => ?_⟩
    · rw [hopsOf_cons_self, heq, List.range'_succ]
    · rw [hopsOf_cons_ne (Nat.ne_of_lt hk)]
      exact hlater k hk
  | turn hle rest ih =>
    obtain ⟨⟨n, hn, heq⟩, hlater⟩ := ih (Nat.le_refl _) (hlo.trans hhi)
    refine ⟨⟨1, Nat.succ_le_succ hle, ?_⟩, fun k hk => ?_⟩
    · rw [hopsOf_cons_self, rest.hopsOf_before (Nat.lt_succ_self _)]
      rfl
    · rw [hopsOf_cons_ne (Nat.ne_of_lt hk)]
      rcases Nat.eq_or_lt_of_le hk with rfl | hk
      · exact ⟨n, hn, heq⟩
      · exact hlater k hk

end Swept

/-- What holds of the probes that are sent: they stay in range and in order, and each cycle sends
the hops from the first one on, at most each of them once. -/
structure InOrder (firstTtl maxTtl : Nat) (sent : List (Nat × Nat)) : Prop where
  in_range : ∀ p ∈ sent, firstTtl ≤ p.2 ∧ p.2 ≤ maxTtl
  increasing : sent.Pairwise (Prod.Lex (· < ·) (· < ·))
  contiguous : ∀ cycle, ∃ n ≤ maxTtl - firstTtl + 1,
    hopsOf cycle sent = List.range' firstTtl n

theorem Swept.inOrder {firstTtl maxTtl : Nat} {sent : List (Nat × Nat)} (h : firstTtl ≤ maxTtl)
    (hswept : Swept firstTtl maxTtl 0 firstTtl sent) : InOrder firstTtl maxTtl sent := by
  obtain ⟨hnow, hlater⟩ := hswept.contiguous (Nat.le_refl _) h
  refine ⟨hswept.in_range (Nat.le_refl _), hswept.increasing, fun cycle => ?_⟩
  rcases Nat.eq_zero_or_pos cycle with rfl | hpos
  · obtain ⟨n, hn, heq⟩ := hnow
    exact ⟨n, by omega, heq⟩
  · obtain ⟨n, hn, heq⟩ := hlater cycle hpos
    exact ⟨n, by omega, heq⟩

/-! ## The scheduler -/

/-- What the loop knows when it sends a probe. -/
structure Update where
  now : Nat
  known : List Bool
  destination : Option Nat

/-- The hops known are numbered to the last one, and no bound is before the first. -/
structure Update.Fits (firstTtl maxTtl : Nat) (u : Update) : Prop where
  known_length : u.known.length = maxTtl + 1
  first_le_bound : ∀ b, u.destination = some b → firstTtl ≤ b

namespace Cadence

/-- One probe for each update while planned cycles are left: the probes that are sent, as cycle
and hop, and the scheduler after them. -/
def sweep (planned : Nat) (c : Cadence) : List Update → Checked Empty (List (Nat × Nat) × Cadence)
  | [] => .ok ([], c)
  | u :: updates =>
    if c.cycles < planned then do
      let next ← c.dispatched u.now u.known u.destination
      let (sent, last) ← next.sweep planned updates
      return ((c.cycles, c.ttl) :: sent, last)
    else .ok ([], c)

theorem sweep_cons {planned : Nat} {c next last : Cadence} {u : Update} {updates : List Update}
    {sent : List (Nat × Nat)} (hgo : c.cycles < planned)
    (hnext : c.dispatched u.now u.known u.destination = .ok next)
    (hrest : next.sweep planned updates = .ok (sent, last)) :
    c.sweep planned (u :: updates) = .ok ((c.cycles, c.ttl) :: sent, last) := by
  rw [sweep, if_pos hgo, hnext, except_ok_bind, hrest, except_ok_bind]
  rfl

/-- How far a scheduler is, if every cycle had all its hops. -/
def place (c : Cadence) : Nat := c.cycles * (c.maxTtl - c.firstTtl + 1) + (c.ttl - c.firstTtl)

/-- The scheduler of a run. -/
structure Sound (c : Cadence) : Prop where
  first_le : c.firstTtl ≤ c.ttl
  le_max : c.ttl ≤ c.maxTtl
  max_lt : c.maxTtl < 256
  hosts : 1 ≤ c.estimatedHosts

theorem sound_new {start firstTtl maxTtl : Nat} {interval : Duration} (h : firstTtl ≤ maxTtl)
    (hmax : maxTtl < 256) : (Cadence.new start interval firstTtl maxTtl).Sound :=
  ⟨Nat.le_refl _, h, hmax, Nat.succ_le_succ (Nat.zero_le 9)⟩

/-- One probe: the scheduler stays sound and goes on, by one hop or to the next cycle. -/
theorem Sound.dispatched {c : Cadence} (h : c.Sound) {planned : Nat} (hplanned : planned < 65536)
    (hgo : c.cycles < planned) {u : Update} (hu : u.Fits c.firstTtl c.maxTtl) :
    ∃ next, c.dispatched u.now u.known u.destination = .ok next ∧ next.Sound ∧
      next.firstTtl = c.firstTtl ∧ next.maxTtl = c.maxTtl ∧ c.place < next.place ∧
      ∀ sent, Swept c.firstTtl c.maxTtl next.cycles next.ttl sent →
        Swept c.firstTtl c.maxTtl c.cycles c.ttl ((c.cycles, c.ttl) :: sent) := by
  have hfirst := h.first_le
  have hlast := h.le_max
  obtain ⟨next, hnext, hfirst', hmax', hhosts, hstep⟩ :=
    dispatched_ok h.first_le h.le_max h.max_lt (by omega) hu.known_length hu.first_le_bound u.now
  refine ⟨next, hnext, ?_, hfirst', hmax', ?_, ?_⟩
  · constructor
    · rcases hstep with ⟨-, httl⟩ | ⟨-, httl, -⟩
      · omega
      · omega
    · rcases hstep with ⟨-, httl⟩ | ⟨-, httl, hlt⟩
      · omega
      · omega
    · rw [hmax']
      exact h.max_lt
    · exact hhosts h.hosts
  · unfold place
    rw [hfirst', hmax']
    rcases hstep with ⟨hcycles, httl⟩ | ⟨hcycles, httl, -⟩
    · rw [hcycles, httl, Nat.succ_mul]
      omega
    · rw [hcycles, httl]
      omega
  · intro sent hsent
    rcases hstep with ⟨hcycles, httl⟩ | ⟨hcycles, httl, hlt⟩
    · rw [hcycles, httl] at hsent
      exact .turn h.le_max hsent
    · rw [hcycles, httl] at hsent
      exact .hop hlt hsent

/-- A sweep from a sound scheduler. -/
theorem Sound.sweep {c : Cadence} (h : c.Sound) {planned : Nat} (hplanned : planned < 65536)
    {updates : List Update} (hfits : ∀ u ∈ updates, u.Fits c.firstTtl c.maxTtl) :
    ∃ sent last, c.sweep planned updates = .ok (sent, last) ∧ last.Sound ∧
      last.firstTtl = c.firstTtl ∧ last.maxTtl = c.maxTtl ∧
      c.place + sent.length ≤ last.place ∧ Swept c.firstTtl c.maxTtl c.cycles c.ttl sent := by
  induction updates generalizing c with
  | nil => exact ⟨[], c, rfl, h, rfl, rfl, Nat.le_refl _, .stop _ _⟩
  | cons u updates ih =>
    rw [List.forall_mem_cons] at hfits
    by_cases hgo : c.cycles < planned
    · obtain ⟨next, hnext, hsound, hfirst, hmax, hplace, hswept⟩ :=
        h.dispatched hplanned hgo hfits.1
      rw [← hfirst, ← hmax] at hfits
      obtain ⟨sent, last, hrest, hlast, hfirst', hmax', hplace', hswept'⟩ := ih hsound hfits.2
      refine ⟨_, last, sweep_cons hgo hnext hrest, hlast, hfirst'.trans hfirst, hmax'.trans hmax,
        ?_, ?_⟩
      · rw [List.length_cons]
        omega
      · rw [hfirst, hmax] at hswept'
        exact hswept sent hswept'
    · exact ⟨[], c, if_neg hgo, h, rfl, rfl, Nat.le_refl _, .stop _ _⟩

end Cadence

/-- Whatever is known at each dispatch, the scheduler does not panic, at least one host is
estimated, the probes are in order, and a cycle is over after as many probes as it has hops. -/
theorem cadence_sweeps (firstTtl maxTtl : UInt8) (cycles : UInt16) (start : Nat)
    (interval : Duration) (h : firstTtl ≤ maxTtl) (updates : List Update)
    (hfits : ∀ u ∈ updates, u.Fits firstTtl.toNat maxTtl.toNat) :
    ∃ sent last,
      (Cadence.new start interval firstTtl.toNat maxTtl.toNat).sweep cycles.toNat updates =
        .ok (sent, last) ∧
      1 ≤ last.estimatedHosts ∧ InOrder firstTtl.toNat maxTtl.toNat sent ∧
      sent.length ≤ last.cycles * (maxTtl.toNat - firstTtl.toNat + 1) +
        (last.ttl - firstTtl.toNat) := by
  have hle : firstTtl.toNat ≤ maxTtl.toNat := UInt8.le_iff_toNat_le.mp h
  have hsound : (Cadence.new start interval firstTtl.toNat maxTtl.toNat).Sound :=
    Cadence.sound_new hle maxTtl.toNat_lt
  obtain ⟨sent, last, hrun, hlast, hfirst, hmax, hplace, hswept⟩ :=
    hsound.sweep cycles.toNat_lt hfits
  have hfirst : last.firstTtl = firstTtl.toNat := hfirst
  have hmax : last.maxTtl = maxTtl.toNat := hmax
  refine ⟨sent, last, hrun, hlast.hosts, Swept.inOrder hle hswept, ?_⟩
  unfold Cadence.place at hplace
  rw [hfirst, hmax] at hplace
  omega

/-- Two hops, the second of them the last. -/
theorem cadence_sweeps_two :
    ∃ sent last, (Cadence.new 0 (fromSecs 1) 1 2).sweep 1
        [⟨1, [false, false, false], none⟩, ⟨2, [false, true, false], some 2⟩] = .ok (sent, last) ∧
      InOrder 1 2 sent ∧ sent = [(0, 1), (0, 2)] := by
  obtain ⟨sent, last, hrun, -, horder, -⟩ := cadence_sweeps 1 2 1 0 (fromSecs 1) (by decide)
    [⟨1, [false, false, false], none⟩, ⟨2, [false, true, false], some 2⟩] (by
      intro u hu
      rcases List.mem_cons.mp hu with rfl | hu
      · exact ⟨rfl, nofun⟩
      · rw [List.mem_singleton.mp hu]
        exact ⟨rfl, fun b hb => by cases hb; decide⟩)
  have hsent : (Cadence.new 0 (fromSecs 1) 1 2).sweep 1
      [⟨1, [false, false, false], none⟩, ⟨2, [false, true, false], some 2⟩] = .ok (sent, last) :=
    hrun
  refine ⟨sent, last, hsent, horder, ?_⟩
  cases hsent
  rfl

/-! ## The probes of a trace run -/

namespace TraceLoop

variable {Sample : Type} (settings : TraceSettings) (settle : Bool → Sample → Sample)

/-- What is known at an event that sends a probe. -/
def sends (l : TraceLoop Sample) : LoopEvent Sample → Option Update
  | .dispatch now =>
    if MAX_OUTSTANDING_PROBES ≤ l.tasks.length then none
    else some ⟨now, l.knownHops, l.destinationBound⟩
  | _ => none

/-- The probes a run sends, with what is known at each. -/
def probesSent (l : TraceLoop Sample) : List (LoopEvent Sample) → List ((Nat × Nat) × Update)
  | [] => []
  | event :: events =>
    ((l.sends event).map fun u => ((l.cadence.cycles, l.cadence.ttl), u)).toList ++
      ((l.step settings settle event).map fun next => next.probesSent events).getD []

variable {settings settle} {l : TraceLoop Sample}

theorem joinRunning_cadence (h : l.Inv settings) (hphase : l.phase = .running) {i : Nat}
    {t : ProbeTask} (ht : l.tasks[i]? = some t) (result : TaskResult Sample) :
    Meets (fun l' => l'.cadence = l.cadence)
      ({ l with tasks := l.tasks.eraseIdx i }.joinRunning t result) := by
  obtain ⟨-, -, hstreak⟩ := h.running hphase
  have hk : Kept settings { l with tasks := l.tasks.eraseIdx i }
      (t :: (l.tasks.eraseIdx i ++ l.lost)) := h.kept.perm (joined_perm ht)
  have hfit := hk.fits t List.mem_cons_self
  cases result with
  | panicked => rfl
  | hop hop =>
    refine (meets_finishProbe hk).bind ?_
    rintro ⟨_, finished⟩ ⟨pending, completedCycles, rfl, hk'⟩
    refine (meets_acceptHop hk' hfit hstreak hop finished).mono ?_
    rintro l' ⟨-, -, -, -, hcadence, -⟩
    exact hcadence
  | failed e =>
    refine (meets_finishProbe hk).bind ?_
    rintro ⟨_, finished⟩ ⟨pending, completedCycles, rfl, hk'⟩
    refine (meets_acceptFailure hk' hfit hphase hstreak e finished).mono ?_
    rintro l' ⟨-, -, -, hcadence, -, -⟩
    exact hcadence

theorem joinDraining_cadence (h : l.Inv settings) {i : Nat} {t : ProbeTask}
    (ht : l.tasks[i]? = some t) (result : TaskResult Sample) :
    Meets (fun l' => l'.cadence = l.cadence)
      ({ l with tasks := l.tasks.eraseIdx i }.joinDraining settle t result) := by
  have hk : Kept settings { l with tasks := l.tasks.eraseIdx i }
      (t :: (l.tasks.eraseIdx i ++ l.lost)) := h.kept.perm (joined_perm ht)
  have hfit := hk.fits t List.mem_cons_self
  cases result with
  | panicked => rfl
  | hop hop =>
    refine (meets_finishProbe hk).bind ?_
    rintro ⟨_, finished⟩ ⟨pending, completedCycles, rfl, hk'⟩
    refine (meets_recordSamples hk' hfit.le_max _).mono ?_
    rintro _ ⟨samplesByHop, rfl, -⟩
    rfl
  | failed e =>
    refine (meets_finishProbe hk).bind ?_
    rintro ⟨_, finished⟩ ⟨pending, completedCycles, rfl, hk'⟩
    rfl

theorem land_cadence {x : Checked Empty (TraceLoop Sample)} {c : Cadence}
    (h : x.Meets fun l' => l'.cadence = c) : (l.land x).cadence = c := by
  rcases x with (_ | _) | l'
  · contradiction
  · exact h.elim
  · exact h

/-- A dispatch either sends nothing and leaves the scheduler, or moves it on. -/
theorem dispatch_cadence (hs : settings.Valid) (h : l.Inv settings)
    (hcycles : l.cadence.cycles < settings.cycles.toNat) (hphase : l.phase = .running) (now : Nat) :
    if MAX_OUTSTANDING_PROBES ≤ l.tasks.length then
      (l.land (l.dispatch settings now)).cadence = l.cadence
    else l.cadence.dispatched now l.knownHops l.destinationBound =
      .ok (l.land (l.dispatch settings now)).cadence := by
  by_cases hfull : MAX_OUTSTANDING_PROBES ≤ l.tasks.length
  · rw [if_pos hfull, TraceLoop.dispatch, if_pos hfull]
    rfl
  · rw [if_neg hfull]
    have hdone := meets_dispatch hs h hphase hcycles now
    rcases hd : l.dispatch settings now with e | l'
    · rw [hd] at hdone
      rcases e with _ | _
      · contradiction
      · exact hdone.elim
    · rw [TraceLoop.dispatch, if_neg hfull] at hd
      obtain ⟨_, -, hd⟩ := except_bind_ok.mp hd
      obtain ⟨_, -, hd⟩ := except_bind_ok.mp hd
      obtain ⟨_, -, hd⟩ := except_bind_ok.mp hd
      obtain ⟨cadence, hcadence, hd⟩ := except_bind_ok.mp hd
      cases hd
      exact hcadence

/-- What an event does to the scheduler. -/
theorem step_cadence (hs : settings.Valid) (h : l.Inv settings) {event : LoopEvent Sample}
    {l' : TraceLoop Sample} (hstep : l.step settings settle event = some l') :
    (l.sends event = none → l'.cadence = l.cadence) ∧
    ∀ u, l.sends event = some u →
      u.Fits settings.firstTtl.toNat settings.maxHops.toNat ∧
      l.cadence.cycles < settings.cycles.toNat ∧
      l.cadence.dispatched u.now u.known u.destination = .ok l'.cadence := by
  cases event with
  | cancelled =>
    dsimp only [TraceLoop.step] at hstep
    split at hstep
    · cases hstep
      exact ⟨fun _ => rfl, nofun⟩
    · cases hstep
  | timedOut =>
    dsimp only [TraceLoop.step] at hstep
    split at hstep
    · cases hstep
      exact ⟨fun _ => rfl, nofun⟩
    · cases hstep
  | graceExpired =>
    dsimp only [TraceLoop.step] at hstep
    split at hstep
    · cases hstep
      exact ⟨fun _ => rfl, nofun⟩
    · cases hstep
  | join i result =>
    refine ⟨fun _ => ?_, nofun⟩
    dsimp only [TraceLoop.step] at hstep
    cases ht : l.tasks[i]? with
    | none =>
      rw [ht] at hstep
      cases hstep
    | some t =>
      rw [ht] at hstep
      dsimp only at hstep
      by_cases hrun : l.phase = .running
      · rw [if_pos hrun] at hstep
        cases hstep
        exact land_cadence (joinRunning_cadence h hrun ht result)
      · rw [if_neg hrun] at hstep
        split at hstep
        · cases hstep
          exact land_cadence (joinDraining_cadence h ht result)
        · cases hstep
  | dispatch now =>
    dsimp only [TraceLoop.step] at hstep
    split at hstep
    · next hgo =>
      cases hstep
      have hcadence := dispatch_cadence hs h hgo.2.1 hgo.1 now
      by_cases hfull : MAX_OUTSTANDING_PROBES ≤ l.tasks.length
      · rw [if_pos hfull] at hcadence
        refine ⟨fun _ => hcadence, fun u hu => ?_⟩
        rw [sends, if_pos hfull] at hu
        cases hu
      · rw [if_neg hfull] at hcadence
        constructor
        · intro hnone
          rw [sends, if_neg hfull] at hnone
          cases hnone
        · intro u hu
          rw [sends, if_neg hfull] at hu
          cases hu
          exact ⟨⟨h.kept.known_eq, h.kept.first_le_bound⟩, hgo.2.1, hcadence⟩
    · cases hstep
  | shutdownExpired =>
    dsimp only [TraceLoop.step] at hstep
    split at hstep
    · cases hstep
      exact ⟨fun _ => rfl, nofun⟩
    · cases hstep
  | drained =>
    dsimp only [TraceLoop.step] at hstep
    split at hstep
    · cases hstep
      exact ⟨fun _ => rfl, nofun⟩
    · cases hstep

/-- The probes of a run, from any state that keeps the books. -/
theorem Inv.sweeps (hs : settings.Valid) {events : List (LoopEvent Sample)} {l' : TraceLoop Sample}
    (h : l.Inv settings)
    (hrun : runSteps (TraceLoop.step settings settle) l events = some l') :
    (∀ p ∈ l.probesSent settings settle events,
      p.2.Fits settings.firstTtl.toNat settings.maxHops.toNat) ∧
    l.cadence.sweep settings.cycles.toNat ((l.probesSent settings settle events).map Prod.snd) =
      .ok ((l.probesSent settings settle events).map Prod.fst, l'.cadence) := by
  induction events generalizing l with
  | nil =>
    rw [runSteps_nil, Option.some.injEq] at hrun
    subst hrun
    exact ⟨nofun, rfl⟩
  | cons event events ih =>
    obtain ⟨next, hstep, hrun⟩ := runSteps_cons.mp hrun
    obtain ⟨hnone, hsome⟩ := step_cadence hs h hstep
    obtain ⟨hfits, hsweep⟩ := ih (Inv.step hs h hstep).inv hrun
    rw [probesSent, hstep, Option.map_some, Option.getD_some]
    cases hsends : l.sends event with
    | none =>
      rw [hnone hsends] at hsweep
      exact ⟨hfits, hsweep⟩
    | some u =>
      obtain ⟨hu, hgo, hdispatched⟩ := hsome u hsends
      refine ⟨fun p hp => ?_, Cadence.sweep_cons hgo hdispatched hsweep⟩
      rcases List.mem_cons.mp hp with rfl | hp
      · exact hu
      · exact hfits p hp

/-- The probes of a trace run are those of a sweep over what it knew at each of them, and in
order. -/
theorem run_sweeps (h : settings.validate = .ok ()) {now : Nat}
    {events : List (LoopEvent Sample)}
    (hrun : runSteps (step settings settle) (TraceLoop.start settings now) events = some l) :
    let probes := (TraceLoop.start settings now).probesSent settings settle events
    (Cadence.new now settings.interval settings.firstTtl.toNat settings.maxHops.toNat).sweep
      settings.cycles.toNat (probes.map Prod.snd) = .ok (probes.map Prod.fst, l.cadence) ∧
    InOrder settings.firstTtl.toNat settings.maxHops.toNat (probes.map Prod.fst) := by
  have hs := TraceSettings.validate_eq_ok.mp h
  obtain ⟨hfits, hsweep⟩ := (Inv.start hs now).sweeps hs hrun
  have hsound : (Cadence.new now settings.interval settings.firstTtl.toNat
      settings.maxHops.toNat).Sound := Cadence.sound_new hs.first_le_max settings.maxHops.toNat_lt
  obtain ⟨sent, last, hsent, -, -, -, -, hswept⟩ :=
    hsound.sweep settings.cycles.toNat_lt (List.forall_mem_map.mpr hfits)
  have hsame := hsent.symm.trans hsweep
  cases hsame
  exact ⟨hsweep, hswept.inOrder hs.first_le_max⟩

end TraceLoop

end NetworkLantern.Path
