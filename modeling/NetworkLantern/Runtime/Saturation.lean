import NetworkLantern.Lib.Mirrors
import NetworkLantern.Runtime.Accounting

/-!
# The UDP saturation sweep

Of the saturation steps of a class and a direction, a run executes those up to the
first whose loss reaches the threshold, and counts the others as skipped
(`saturation_sweep`).  Which steps were executed, and with what result, is kept in a
log beside the world.
-/

namespace NetworkLantern.Runtime

open NetworkLantern Act

abbrev StepOutcome := Except Error TestResult

/-- The steps that were executed, with their results. -/
abbrev StepLog := List (Throughput.TestSpec × StepOutcome)

section
variable {W : Type}

/-- The same engines, with every throughput step in a log. -/
def Engines.logged (engines : Engines W) : Engines (W × StepLog) where
  preflight config := beside (engines.preflight config)
  throughput spec config s :=
    let reply := engines.throughput spec config s.1
    ⟨reply.value, reply.cancelled, (reply.world, s.2 ++ [(spec, reply.value)])⟩
  basic item settings := beside (engines.basic item settings)
  trace item settings := beside (engines.trace item settings)
  tuning plan hash := beside (engines.tuning plan hash)
  atomicJson name value := beside (engines.atomicJson name value)
  progress n message := beside (engines.progress n message)

/-- A run without its log. -/
def Running.unlogged (r : Running (W × StepLog)) : Running W :=
  ⟨r.execution, r.past, r.cancelled, r.world.1⟩

/-! ## The log changes nothing -/

theorem mirrors_call {α : Type} {op' : W × StepLog → Reply (W × StepLog) α} {op : W → Reply W α}
    (h : ∀ s, (op' s).value = (op s.1).value ∧ (op' s).cancelled = (op s.1).cancelled ∧
      (op' s).world.1 = (op s.1).world) :
    Mirrors Running.unlogged (call op') (call op) := by
  intro r
  obtain ⟨hvalue, hcancelled, hworld⟩ := h r.world
  refine ⟨congrArg Except.ok hvalue, ?_⟩
  show Running.mk r.execution r.past (r.cancelled || (op' r.world).cancelled) (op' r.world).world.1 = _
  rw [hcancelled, hworld]
  rfl

theorem mirrors_beside {α : Type} (op : W → Reply W α) :
    Mirrors Running.unlogged (call (beside op)) (call op) :=
  mirrors_call fun _ => ⟨rfl, rfl, rfl⟩

theorem mirrors_change (f : Execution → Execution) :
    Mirrors (Running.unlogged (W := W)) (change f) (change f) := fun _ => ⟨rfl, rfl⟩

theorem mirrors_completed : Mirrors (Running.unlogged (W := W)) completed completed :=
  fun _ => ⟨rfl, rfl⟩

theorem mirrors_isCancelled : Mirrors (Running.unlogged (W := W)) isCancelled isCancelled :=
  fun _ => ⟨rfl, rfl⟩

section
variable [Json.FloatText] [Package] [Host] (engines : Engines W)

theorem mirrors_record (value : Json) (failed : Bool) :
    Mirrors Running.unlogged (record engines.logged value failed) (record engines value failed) := by
  refine Mirrors.bind ?_ fun _ => Mirrors.bind ?_ fun _ => ?_
  · exact (mirrors_change _).bind fun _ => (mirrors_change _).when failed
  · exact Mirrors.when failed (Mirrors.forEach _ fun message => mirrors_change _)
  · refine mirrors_completed.bind fun n => Mirrors.bind ?_ fun _ => ?_
    · exact (mirrors_beside _).bind fun result => Mirrors.lift result
    · exact mirrors_completed.bind fun n => mirrors_beside _

variable [FloatDisplay] (config : Throughput.SuiteConfig) (thresholds : Thresholds)

theorem mirrors_measureTest (spec : Throughput.TestSpec) (saturated : Saturated) :
    Mirrors Running.unlogged (measureTest engines.logged config thresholds spec saturated)
      (measureTest engines config thresholds spec saturated) := by
  refine Mirrors.ite ?_ ?_
  · exact (mirrors_change _).bind fun _ => Mirrors.pure saturated
  · refine Mirrors.bind (mirrors_call fun _ => ⟨rfl, rfl, rfl⟩) fun result => ?_
    cases result with
    | ok result =>
      refine Mirrors.bind ((mirrors_change _).when _) fun _ => ?_
      exact (mirrors_record engines _ false).bind fun _ => Mirrors.pure _
    | error error =>
      refine Mirrors.ite (Mirrors.fail error) ?_
      exact (mirrors_record engines _ true).bind fun _ => Mirrors.pure saturated

/-- The loop over the tests ends as it does without a log. -/
theorem mirrors_eachTest (tests : List Throughput.TestSpec) (saturated : Saturated) :
    Mirrors Running.unlogged (eachTest engines.logged config thresholds tests saturated)
      (eachTest engines config thresholds tests saturated) := by
  induction tests generalizing saturated with
  | nil => exact Mirrors.pure ()
  | cons spec tests ih =>
    refine mirrors_isCancelled.bind fun stop => Mirrors.ite (Mirrors.pure ()) ?_
    exact (mirrors_measureTest engines config thresholds spec saturated).bind fun saturated =>
      ih saturated

end

/-! ## One step -/

/-- Nothing is executed or skipped. -/
def SameSteps (r r' : Running (W × StepLog)) : Prop :=
  r'.world.2 = r.world.2 ∧ r'.execution.skipped = r.execution.skipped

theorem SameSteps.refl (r : Running (W × StepLog)) : SameSteps r r := ⟨rfl, rfl⟩

theorem SameSteps.trans (a b c : Running (W × StepLog)) (h : SameSteps a b) (h' : SameSteps b c) :
    SameSteps a c :=
  ⟨h'.1.trans h.1, h'.2.trans h.2⟩

theorem keeps_beside {α : Type} (op : W → Reply W α) : Keeps SameSteps (call (beside op)) :=
  fun _ => ⟨rfl, rfl⟩

theorem keeps_change {f : Execution → Execution} (h : ∀ e, (f e).skipped = e.skipped) :
    Keeps (SameSteps (W := W)) (change f) := fun r => ⟨rfl, h r.execution⟩

theorem keeps_when {x : Run (W × StepLog) Unit} (h : Keeps SameSteps x) (c : Bool) :
    Keeps SameSteps (Act.when c x) := by
  cases c with
  | false => exact Keeps.pure SameSteps.refl ()
  | true => exact h

section
variable [Json.FloatText] [Package] [Host] (engines : Engines W)

theorem keeps_record (value : Json) (failed : Bool) :
    Keeps SameSteps (record engines.logged value failed) := by
  have hcompleted : Keeps (SameSteps (W := W))
      (change fun e => { e with completed := e.completed + 1 }) := keeps_change fun _ => rfl
  have hfailed : Keeps (SameSteps (W := W))
      (change fun e => { e with failed := e.failed + 1 }) := keeps_change fun _ => rfl
  refine Keeps.bind SameSteps.trans ?_ fun _ => Keeps.bind SameSteps.trans ?_ fun _ => ?_
  · exact Keeps.bind SameSteps.trans hcompleted fun _ => keeps_when hfailed failed
  · refine keeps_when (Keeps.forEach SameSteps.refl SameSteps.trans _ fun message _ => ?_) failed
    exact keeps_change fun e => (e.warn_counters message).2.1
  · refine Keeps.bind SameSteps.trans (fun r => SameSteps.refl r) fun n => ?_
    refine Keeps.bind SameSteps.trans ?_ fun _ => ?_
    · exact Keeps.bind SameSteps.trans (keeps_beside _) fun result =>
        Keeps.lift SameSteps.refl result
    · exact Keeps.bind SameSteps.trans (fun r => SameSteps.refl r) fun n => keeps_beside _

/-- A measured loss that ends a sweep. -/
def Reached (config : Throughput.SuiteConfig) (outcome : StepOutcome) : Prop :=
  ∃ result, outcome = .ok result ∧
    (result.lossPct.any fun loss => config.udpLossThresholdPct ≤ loss) = true

variable [FloatDisplay] {config : Throughput.SuiteConfig} {thresholds : Thresholds}

omit [Json.FloatText] [Package] [Host] [FloatDisplay] in
theorem mem_saturate {spec : Throughput.TestSpec} {result : TestResult} {saturated : Saturated}
    (pair : Throughput.DscpClass × Throughput.Direction) :
    pair ∈ saturate config spec result saturated ↔ pair ∈ saturated ∨
      spec.phase = .udpSaturation ∧ (spec.dscp, spec.direction) = pair ∧
        Reached config (.ok result) := by
  unfold saturate
  by_cases h : spec.phase = .udpSaturation ∧
      result.lossPct.any (fun loss => config.udpLossThresholdPct ≤ loss)
  · rw [if_pos h, List.mem_cons, or_comm]
    apply or_congr_right
    constructor
    · rintro rfl
      exact ⟨h.1, rfl, result, rfl, h.2⟩
    · rintro ⟨-, rfl, -⟩
      rfl
  · rw [if_neg h]
    refine (or_iff_left ?_).symm
    rintro ⟨hphase, -, _, hresult, hloss⟩
    cases hresult
    exact h ⟨hphase, hloss⟩

/-- A step is skipped because its class and direction are saturated.  Otherwise it is
executed, and may saturate them. -/
theorem measureTest_ok {spec : Throughput.TestSpec} {saturated saturated' : Saturated}
    {r r' : Running (W × StepLog)}
    (h : measureTest engines.logged config thresholds spec saturated r = (.ok saturated', r')) :
    (spec.phase = .udpSaturation ∧ (spec.dscp, spec.direction) ∈ saturated ∧
      saturated' = saturated ∧ r'.world.2 = r.world.2 ∧
      r'.execution.skipped = r.execution.skipped + 1) ∨
    (¬ (spec.phase = .udpSaturation ∧ (spec.dscp, spec.direction) ∈ saturated) ∧
      ∃ outcome, r'.world.2 = r.world.2 ++ [(spec, outcome)] ∧
        r'.execution.skipped = r.execution.skipped ∧
        ∀ pair, pair ∈ saturated' ↔ pair ∈ saturated ∨
          spec.phase = .udpSaturation ∧ (spec.dscp, spec.direction) = pair ∧
            Reached config outcome) := by
  unfold measureTest at h
  by_cases hskip : spec.phase = .udpSaturation ∧ (spec.dscp, spec.direction) ∈ saturated
  · rw [if_pos hskip] at h
    cases h
    exact .inl ⟨hskip.1, hskip.2, rfl, rfl, rfl⟩
  · rw [if_neg hskip] at h
    refine .inr ⟨hskip, ?_⟩
    obtain ⟨outcome, r1, hcall, h⟩ := bind_ok.mp h
    have hlog : r1.world.2 = r.world.2 ++ [(spec, outcome)] ∧
        r1.execution.skipped = r.execution.skipped := by
      obtain ⟨hvalue, hr1⟩ := Prod.mk.inj hcall
      cases Except.ok.inj hvalue
      rw [← hr1]
      exact ⟨rfl, rfl⟩
    have hend : ∀ r2 : Running (W × StepLog), SameSteps r1 r2 →
        r2.world.2 = r.world.2 ++ [(spec, outcome)] ∧
          r2.execution.skipped = r.execution.skipped := fun r2 hsame =>
      ⟨hsame.1.trans hlog.1, hsame.2.trans hlog.2⟩
    refine ⟨outcome, ?_⟩
    match outcome with
    | .ok result =>
      obtain ⟨_, r2, hbreaches, h⟩ := bind_ok.mp h
      obtain ⟨_, r3, hrecord, h⟩ := bind_ok.mp h
      cases h
      have hbreach : Keeps (SameSteps (W := W))
          (change fun e => { e with thresholdBreaches := e.thresholdBreaches + 1 }) :=
        keeps_change fun _ => rfl
      have h2 : SameSteps r1 r2 := (keeps_when hbreach _).run hbreaches
      have h3 : SameSteps r2 r' := (keeps_record engines _ _).run hrecord
      obtain ⟨hworld, hskipped⟩ := hend r' (SameSteps.trans _ _ _ h2 h3)
      exact ⟨hworld, hskipped, mem_saturate⟩
    | .error error =>
      dsimp only at h
      by_cases hcancelled : error.category = .cancelled
      · rw [if_pos hcancelled] at h
        cases h
      · rw [if_neg hcancelled] at h
        obtain ⟨_, r2, hrecord, h⟩ := bind_ok.mp h
        cases h
        have h2 : SameSteps r1 r' := (keeps_record engines _ _).run hrecord
        obtain ⟨hworld, hskipped⟩ := hend r' h2
        refine ⟨hworld, hskipped, fun pair => (or_iff_left ?_).symm⟩
        rintro ⟨-, -, _, hresult, -⟩
        cases hresult

/-! ## The sweep -/

/-- A planned step with its result, or with none where it was skipped. -/
abbrev Mark := Throughput.TestSpec × Option StepOutcome

def executedSteps (marks : List Mark) : StepLog :=
  marks.filterMap fun (spec, outcome) => outcome.map (spec, ·)

def skippedSteps (marks : List Mark) : List Mark := marks.filter fun mark => mark.2.isNone

/-- An executed saturation step of a class and a direction whose loss reached the threshold. -/
def Mark.Saturates (config : Throughput.SuiteConfig)
    (pair : Throughput.DscpClass × Throughput.Direction) (mark : Mark) : Prop :=
  mark.1.phase = .udpSaturation ∧ (mark.1.dscp, mark.1.direction) = pair ∧
    ∃ outcome, mark.2 = some outcome ∧ Reached config outcome

/-- Exactly the saturation steps of what is saturated, or behind one that saturated
their class and direction, are skipped. -/
def Swept (config : Throughput.SuiteConfig) (saturated : Saturated) (marks : List Mark) : Prop :=
  ∀ before mark after, marks = before ++ mark :: after →
    (mark.2 = none ↔ mark.1.phase = .udpSaturation ∧
      ((mark.1.dscp, mark.1.direction) ∈ saturated ∨
        ∃ earlier ∈ before, earlier.Saturates config (mark.1.dscp, mark.1.direction)))

omit [Json.FloatText] [Package] [Host] [FloatDisplay] in
/-- A sweep, step by step. -/
theorem Swept.cons {saturated saturated' : Saturated} {mark : Mark} {marks : List Mark}
    (hmark : mark.2 = none ↔
      mark.1.phase = .udpSaturation ∧ (mark.1.dscp, mark.1.direction) ∈ saturated)
    (hnext : ∀ pair, pair ∈ saturated' ↔ pair ∈ saturated ∨ mark.Saturates config pair)
    (h : Swept config saturated' marks) : Swept config saturated (mark :: marks) := by
  intro before m after hsplit
  match before with
  | [] =>
    obtain ⟨rfl, -⟩ := List.cons.inj hsplit
    rw [hmark]
    simp
  | first :: before =>
    obtain ⟨rfl, hrest⟩ := List.cons.inj hsplit
    rw [h before m after hrest, hnext, List.exists_mem_cons_iff, or_assoc]

/-- The loop marks every test: those that it executes, in the log, and those that it
skips, in the counter. -/
theorem eachTest_swept {tests : List Throughput.TestSpec} {saturated : Saturated}
    {r r' : Running (W × StepLog)}
    (h : eachTest engines.logged config thresholds tests saturated r = (.ok (), r'))
    (hgo : r'.cancelled = false) :
    ∃ marks : List Mark, marks.map Prod.fst = tests ∧
      r'.world.2 = r.world.2 ++ executedSteps marks ∧
      r'.execution.skipped = r.execution.skipped + (skippedSteps marks).length ∧
      Swept config saturated marks := by
  induction tests generalizing saturated r with
  | nil =>
    cases h
    refine ⟨[], rfl, (List.append_nil _).symm, rfl, ?_⟩
    intro before mark after hsplit
    exact absurd hsplit (by simp)
  | cons spec tests ih =>
    obtain ⟨stop, r1, hstop, h⟩ := bind_ok.mp h
    obtain ⟨hvalue, rfl⟩ := Prod.mk.inj hstop
    cases Except.ok.inj hvalue
    have hrunning : r.cancelled = false := by
      by_contra hcancelled
      rw [if_pos (by simpa using hcancelled)] at h
      cases h
      exact hcancelled hgo
    rw [if_neg (by simp [hrunning])] at h
    obtain ⟨saturated', r2, hstep, h⟩ := bind_ok.mp h
    obtain ⟨marks, hmarks, hlog, hskipped, hswept⟩ := ih h
    obtain ⟨hphase, hpair, rfl, hlog', hskipped'⟩ | ⟨hnot, outcome, hlog', hskipped', hnext⟩ :=
      measureTest_ok engines hstep
    · refine ⟨(spec, none) :: marks, congrArg (spec :: ·) hmarks, ?_, ?_, ?_⟩
      · rw [hlog, hlog']
        rfl
      · rw [hskipped, hskipped', Nat.add_assoc, Nat.add_comm 1]
        rfl
      · refine hswept.cons ?_ fun pair => (or_iff_left ?_).symm
        · exact iff_of_true rfl ⟨hphase, hpair⟩
        · rintro ⟨-, -, _, hnone, -⟩
          cases hnone
    · refine ⟨(spec, some outcome) :: marks, congrArg (spec :: ·) hmarks, ?_, ?_, ?_⟩
      · rw [hlog, hlog', List.append_assoc]
        rfl
      · rw [hskipped, hskipped']
        rfl
      · refine hswept.cons (iff_of_false (by simp) hnot) fun pair => ?_
        rw [hnext]
        apply or_congr_right
        constructor
        · rintro ⟨hphase, hpair, hreached⟩
          exact ⟨hphase, hpair, outcome, rfl, hreached⟩
        · rintro ⟨hphase, hpair, _, hsome, hreached⟩
          cases hsome
          exact ⟨hphase, hpair, hreached⟩

variable {plan : Throughput.ThroughputPlan}

omit [Json.FloatText] [Package] [Host] [FloatDisplay] in
theorem keeps_callOk {α : Type} (op : W → Reply W (Except Error α)) :
    Keeps SameSteps (callOk (beside op)) :=
  Keeps.bind SameSteps.trans (keeps_beside op) fun result => Keeps.lift SameSteps.refl result

/-- A throughput stage comes to its loop without having executed or skipped a step. -/
theorem runThroughput_ok {r r' : Running (W × StepLog)}
    (h : runThroughput engines.logged plan thresholds r = (.ok (), r')) :
    ∃ resolved r1, SameSteps r r1 ∧
      eachTest engines.logged (plan.retarget resolved).config thresholds
        (plan.retarget resolved).testList [] r1 = (.ok (), r') := by
  obtain ⟨n, r1, hn, h⟩ := bind_ok.mp h
  obtain ⟨_, r2, hprogress, h⟩ := bind_ok.mp h
  obtain ⟨⟨resolved, preflight⟩, r3, hpreflight, h⟩ := bind_ok.mp h
  obtain ⟨m, r4, hm, h⟩ := bind_ok.mp h
  obtain ⟨_, r5, hwrite, h⟩ := bind_ok.mp h
  obtain ⟨_, r6, hlimits, hloop⟩ := bind_ok.mp h
  obtain ⟨-, rfl⟩ := lift_ok.mp hlimits
  cases hn
  cases hm
  have h2 : SameSteps r r2 := (keeps_beside _).run hprogress
  have h3 : SameSteps r2 r3 := (keeps_callOk _).run hpreflight
  have h5 : SameSteps r3 r6 := (keeps_callOk _).run hwrite
  exact ⟨resolved, r6, (h2.trans _ _ _ h3).trans _ _ _ h5, hloop⟩

theorem mirrors_runThroughput :
    Mirrors Running.unlogged (runThroughput engines.logged plan thresholds)
      (runThroughput engines plan thresholds) := by
  refine mirrors_completed.bind fun n => (mirrors_beside _).bind fun _ => ?_
  refine Mirrors.bind ((mirrors_beside _).bind fun result => Mirrors.lift result) fun preflight => ?_
  refine mirrors_completed.bind fun n => ?_
  refine Mirrors.bind ((mirrors_beside _).bind fun result => Mirrors.lift result) fun _ => ?_
  exact (Mirrors.lift _).bind fun _ => mirrors_eachTest engines _ thresholds _ []

/-- A throughput stage that ends without an error and is not cancelled has gone through
its plan in order.  It skips exactly the saturation steps behind one of the same class
and direction whose loss reached the threshold, and counts these. -/
theorem saturation_sweep (plan : Throughput.ThroughputPlan) (thresholds : Thresholds)
    {r r' : Running (W × StepLog)}
    (h : runThroughput engines.logged plan thresholds r = (.ok (), r'))
    (hgo : r'.cancelled = false) :
    runThroughput engines plan thresholds r.unlogged = (.ok (), r'.unlogged) ∧
    ∃ resolved, ∃ marks : List Mark,
      marks.map Prod.fst = (plan.retarget resolved).testList ∧
      r'.world.2 = r.world.2 ++ executedSteps marks ∧
      r'.execution.skipped = r.execution.skipped + (skippedSteps marks).length ∧
      ∀ before mark after, marks = before ++ mark :: after →
        (mark.2 = none ↔ mark.1.phase = .udpSaturation ∧
          ∃ earlier ∈ before,
            earlier.Saturates plan.config (mark.1.dscp, mark.1.direction)) := by
  constructor
  · obtain ⟨hvalue, hstate⟩ := mirrors_runThroughput engines r
    rw [h] at hvalue hstate
    exact Prod.ext hvalue.symm hstate.symm
  · obtain ⟨resolved, r1, ⟨hlog1, hskipped1⟩, h⟩ := runThroughput_ok engines h
    obtain ⟨marks, hmarks, hlog, hskipped, hswept⟩ := eachTest_swept engines h hgo
    refine ⟨resolved, marks, hmarks, hlog1 ▸ hlog, hskipped1 ▸ hskipped, ?_⟩
    intro before mark after hsplit
    have hmark := hswept before mark after hsplit
    simp only [List.not_mem_nil, false_or] at hmark
    exact hmark

end

end

/-! ## On one plan -/

/-- UDP in one class, with two rates. -/
def sampleUdpPlan : Throughput.ThroughputPlan where
  config :=
    { Throughput.SuiteConfig.default with
      target := "127.0.0.1", protocol := .udp, dscpClasses := [.cs0], udpMaxBps := 11000000 }
  capabilities := .default
  totalTests := 6
  estimatedTestSeconds := 66
  maxTotalTests := none
  withinBudget := true

/-- Every datagram that is sent is lost; all that are received arrive. -/
def lossyEngines : Engines Unit where
  preflight := sampleEngines.preflight
  throughput := fun spec _ _ =>
    ⟨.ok ⟨none, none, some (if spec.direction = .tx then 100.0 else 0.0), none, .null⟩, false, ()⟩
  basic := sampleEngines.basic
  trace := sampleEngines.trace
  tuning := sampleEngines.tuning
  atomicJson := sampleEngines.atomicJson
  progress := sampleEngines.progress

/-- The sweep of the plan on such a line. -/
def lossyRun : Except Error Unit × Running (Unit × StepLog) :=
  @runThroughput (Unit × StepLog) sampleDisplay sampleCrates.toFloatText samplePackage sampleHost
    lossyEngines.logged sampleUdpPlan ⟨none, none, none⟩ (.start false ((), []))

theorem saturation_sweep_lossy :
    lossyRun.2.execution.skipped = 1 ∧
    ∃ resolved, ∃ marks : List Mark,
      marks.map Prod.fst = (sampleUdpPlan.retarget resolved).testList ∧
      lossyRun.2.world.2 = executedSteps marks ∧
      lossyRun.2.execution.skipped = (skippedSteps marks).length ∧
      ∀ before mark after, marks = before ++ mark :: after →
        (mark.2 = none ↔ mark.1.phase = .udpSaturation ∧
          ∃ earlier ∈ before,
            earlier.Saturates sampleUdpPlan.config (mark.1.dscp, mark.1.direction)) := by
  have hok : lossyRun.1.isOk = true := by decide +kernel
  have hgo : lossyRun.2.cancelled = false := by decide +kernel
  have hskips : lossyRun.2.execution.skipped = 1 := by decide +kernel
  obtain ⟨-, resolved, marks, hmarks, hlog, hskipped, hswept⟩ :=
    @saturation_sweep Unit sampleCrates.toFloatText samplePackage sampleHost lossyEngines
      sampleDisplay sampleUdpPlan ⟨none, none, none⟩ (.start false ((), []))
      lossyRun.2 (eq_ok_of_isOk hok) hgo
  exact ⟨hskips, resolved, marks, hmarks, hlog, hskipped.trans (Nat.zero_add _), hswept⟩

end NetworkLantern.Runtime
