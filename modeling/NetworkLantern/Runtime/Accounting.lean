import NetworkLantern.Runtime.Measurements
import Mathlib.Data.List.Forall2

/-!
# What a run counts against its plan

Each test, item or tuning counts once: measured, failed or skipped.  The counters
never pass the planned count, and meet it in a run that ends well and is not
cancelled.

    spends_record      a record spends one
    spends_run         a run spends what its preview counts
    run_accounting     the counters of every run, at every moment and at the end
-/

namespace NetworkLantern.Runtime

open NetworkLantern Act

def Execution.Accounted (planned : Nat) (e : Execution) : Prop :=
  e.completed + e.skipped ≤ planned ∧ e.failed ≤ e.completed

/-- Measurements are spent as they are completed or skipped. -/
def measurements (W : Type) : Meter (Running W) where
  spent := fun r => r.execution.completed + r.execution.skipped
  Within := fun planned r => ∀ e ∈ r.moments, e.Accounted planned
  Stopped := fun r => r.cancelled = true

section
variable {W α : Type}

/-! ## Single steps -/

theorem spends_call (op : W → Reply W α) : Spends (measurements W) 0 (call op) := fun r =>
  { within := fun _ h _ => h
    most := Nat.le_refl _
    stopped := fun h => by
      show (r.cancelled || (op r.world).cancelled) = true
      rw [show r.cancelled = true from h, Bool.true_or]
    exact := fun _ _ _ => rfl }

theorem spends_callOk (op : W → Reply W (Except Error α)) :
    Spends (measurements W) 0 (callOk op) :=
  (spends_call op).after fun r => Spends.lift r

theorem spends_isCancelled : Spends (measurements W) 0 isCancelled := fun r => .refl _ r _

theorem isCancelled_stopped (r r' : Running W) (h : isCancelled r = (.ok true, r')) :
    (measurements W).Stopped r' := by
  obtain ⟨hcancelled, rfl⟩ := Prod.mk.inj h
  exact Except.ok.inj hcancelled

theorem spends_completed : Spends (measurements W) 0 completed := fun r => .refl _ r _

/-- A change of the counters that spends `n`. -/
theorem spends_change {f : Execution → Execution} {n : Nat}
    (hspent : ∀ e, (f e).completed + (f e).skipped = e.completed + e.skipped + n)
    (hfailed : ∀ e : Execution, e.failed ≤ e.completed → (f e).failed ≤ (f e).completed) :
    Spends (measurements W) n (change f) := by
  intro r
  refine ⟨?_, Nat.le_of_eq (hspent r.execution), id, fun _ _ _ => hspent r.execution⟩
  intro planned h hroom e he
  rcases List.mem_cons.mp he with rfl | he
  · obtain ⟨-, hle⟩ := h r.execution List.mem_cons_self
    exact ⟨Nat.le_trans (Nat.le_of_eq (hspent r.execution)) hroom, hfailed r.execution hle⟩
  · exact h e he

theorem spends_countMeasurement (failed : Bool) :
    Spends (measurements W) 1 (countMeasurement failed) := by
  have hcompleted : Spends (measurements W) 1
      (change fun e => { e with completed := e.completed + 1 }) :=
    spends_change (fun e => Nat.succ_add e.completed e.skipped) fun _ h => Nat.le_succ_of_le h
  cases failed with
  | false => exact hcompleted.before fun _ => Spends.pure ()
  | true =>
    -- the measurement counts before the failure does
    intro r
    have hspent : r.execution.completed + 1 + r.execution.skipped =
        r.execution.completed + r.execution.skipped + 1 := Nat.succ_add _ _
    refine ⟨?_, Nat.le_of_eq hspent, id, fun _ _ _ => hspent⟩
    intro planned h hroom e he
    rcases List.mem_cons.mp he with rfl | he
    · obtain ⟨-, hle⟩ := h r.execution List.mem_cons_self
      exact ⟨hspent ▸ hroom, Nat.succ_le_succ hle⟩
    · exact (hcompleted r).within planned h hroom e he

theorem Execution.warn_counters (e : Execution) (message : Str) :
    (e.warn message).completed = e.completed ∧ (e.warn message).skipped = e.skipped ∧
      (e.warn message).failed = e.failed := by
  unfold warn
  split
  · exact ⟨rfl, rfl, rfl⟩
  · split
    · exact ⟨rfl, rfl, rfl⟩
    · exact ⟨rfl, rfl, rfl⟩

section
variable [Json.FloatText]

theorem spends_warnAll (value : Json) : Spends (measurements W) 0 (warnAll value) := by
  refine Spends.forEach_zero fun message _ => spends_change ?_ ?_
  · intro e
    obtain ⟨hc, hs, -⟩ := e.warn_counters message
    rw [hc, hs, Nat.add_zero]
  · intro e h
    obtain ⟨hc, -, hf⟩ := e.warn_counters message
    rw [hc, hf]
    exact h

theorem spends_degrade (value : Json) : Spends (measurements W) 0 (degrade value) := by
  refine Spends.after (spends_change ?_ ?_) fun _ => spends_warnAll value
  · exact fun _ => rfl
  · exact fun _ h => h

variable [Package] [Host] (engines : Engines W)

theorem spends_record (value : Json) (failed : Bool) :
    Spends (measurements W) 1 (record engines value failed) := by
  refine (spends_countMeasurement failed).before fun _ => ?_
  refine ((spends_warnAll value).when failed).after fun _ => ?_
  refine spends_completed.after fun n => (spends_callOk _).after fun _ => ?_
  exact spends_completed.after fun n => spends_call _

/-! ## Stages -/

variable [FloatDisplay]

theorem spends_measureTest (config : Throughput.SuiteConfig) (thresholds : Thresholds)
    (spec : Throughput.TestSpec) (saturated : Saturated) :
    Spends (measurements W) 1 (measureTest engines config thresholds spec saturated) := by
  refine Spends.ite (fun _ => ?_) fun _ => ?_
  · refine Spends.before (spends_change ?_ ?_) fun _ => Spends.pure saturated
    · exact fun e => Nat.add_assoc e.completed e.skipped 1
    · exact fun _ h => h
  · refine (spends_call _).after fun result => ?_
    cases result with
    | ok result =>
      have hbreach : Spends (measurements W) 0
          (change fun e => { e with thresholdBreaches := e.thresholdBreaches + 1 }) :=
        spends_change (fun _ => rfl) fun _ h => h
      exact (hbreach.when _).after fun _ =>
        (spends_record engines _ false).before fun _ => Spends.pure _
    | error error =>
      refine Spends.ite (fun _ => Spends.fail 1 error) fun _ => ?_
      exact (spends_record engines _ true).before fun _ => Spends.pure saturated

theorem spends_eachTest (config : Throughput.SuiteConfig) (thresholds : Thresholds)
    (tests : List Throughput.TestSpec) (saturated : Saturated) :
    Spends (measurements W) tests.length (eachTest engines config thresholds tests saturated) := by
  induction tests generalizing saturated with
  | nil => exact Spends.pure ()
  | cons spec tests ih =>
    rw [List.length_cons, Nat.add_comm]
    refine Spends.unless spends_isCancelled isCancelled_stopped ?_
    exact (spends_measureTest engines config thresholds spec saturated).bind fun saturated =>
      ih saturated

/-- A throughput stage counts the tests of its plan, whatever the resolved address. -/
theorem spends_runThroughput {config : Throughput.SuiteConfig}
    {capabilities : Throughput.ServerCapabilities} {plan : Throughput.ThroughputPlan}
    (h : Throughput.plan config capabilities = .ok plan) (thresholds : Thresholds) :
    Spends (measurements W) plan.totalTests (runThroughput engines plan thresholds) := by
  refine spends_completed.after fun _ => (spends_call _).after fun _ => ?_
  refine (spends_callOk _).after fun (resolved, preflight) => ?_
  refine spends_completed.after fun _ => (spends_callOk _).after fun _ => ?_
  refine (Spends.lift _).after fun _ => ?_
  have hlength : (plan.retarget resolved).testList.length = plan.totalTests := by
    rw [← Throughput.testList_length h]
    have htests : (plan.retarget resolved).testList = plan.testList.map (·.retarget resolved) :=
      Throughput.TestPlanIter.take_retarget plan.tests resolved plan.limit
    rw [htests, List.length_map]
  rw [← hlength]
  exact spends_eachTest engines _ thresholds _ []

omit [FloatDisplay] in
theorem spends_measureBasic (settings : Path.BasicSettings) (item : Path.BasicPlanItem) :
    Spends (measurements W) 1 (measureBasic engines settings item) := by
  refine (spends_call _).after fun result => ?_
  cases result with
  | error error => exact spends_record engines _ true
  | ok result =>
    exact ((spends_degrade _).when _).after fun _ => spends_record engines _ _

omit [FloatDisplay] in
theorem spends_measureTrace (settings : Path.TraceSettings) (item : Path.TracePlanItem) :
    Spends (measurements W) 1 (measureTrace engines settings item) := by
  refine (spends_call _).after fun result => ?_
  cases result with
  | error error => exact spends_record engines _ true
  | ok result =>
    exact ((spends_degrade _).when _).after fun _ => spends_record engines _ _

omit [Json.FloatText] [Package] [Host] [FloatDisplay] in
theorem spends_eachItem {Item : Type} {measure : Item → Run W Unit}
    (h : ∀ item, Spends (measurements W) 1 (measure item)) (items : List Item) :
    Spends (measurements W) items.length (eachItem measure items) := by
  induction items with
  | nil => exact Spends.pure ()
  | cons item items ih =>
    rw [List.length_cons, Nat.add_comm]
    refine Spends.unless spends_isCancelled isCancelled_stopped ?_
    exact (h item).bind fun _ => ih

/-- The counts of a stage are those of a plan that was built. -/
def Stage.Counted : Stage → Prop
  | .throughput plan _ => ∃ config capabilities, Throughput.plan config capabilities = .ok plan
  | .pathBasic plan _ => plan.items.length = plan.totalItems
  | .pathTrace plan _ => plan.items.length = plan.totalItems
  | .tuning .. => True

theorem spends_runStage {stage : Stage} (h : stage.Counted) :
    Spends (measurements W) stage.count (runStage engines stage) := by
  cases stage with
  | throughput plan thresholds =>
    obtain ⟨config, capabilities, hplan⟩ := h
    exact spends_runThroughput engines hplan thresholds
  | pathBasic plan settings =>
    have hitems := spends_eachItem (spends_measureBasic engines settings) plan.items
    rw [show plan.items.length = plan.totalItems from h] at hitems
    exact hitems
  | pathTrace plan settings =>
    have hitems := spends_eachItem (spends_measureTrace engines settings) plan.items
    rw [show plan.items.length = plan.totalItems from h] at hitems
    exact hitems
  | tuning plan hash => exact (spends_callOk _).after fun result => spends_record engines _ _

end

end

/-! ## Runs -/

section
variable [Refusals] [Helper.Crates]

omit [Helper.Crates] in
theorem throughput_planned {layers : List Json} {strict : Bool} {plan : Throughput.ThroughputPlan}
    {warnings : List Str} {t : Thresholds} (h : throughput layers strict = .ok (plan, warnings, t)) :
    ∃ config capabilities, Throughput.plan config capabilities = .ok plan := by
  obtain ⟨_, -, h⟩ := except_bind_ok.mp h
  obtain ⟨_, -, h⟩ := except_bind_ok.mp h
  obtain ⟨⟨config, capabilities, _⟩, -, h⟩ := except_bind_ok.mp h
  obtain ⟨_, hplan, h⟩ := except_bind_ok.mp h
  cases h
  exact ⟨config, capabilities, mapError_eq_ok.mp hplan⟩

omit [Refusals] [Helper.Crates] in
theorem basic_counted {c : PathConfig} {plan : Path.BasicPlan} {s : Path.BasicSettings}
    (h : c.basic = .ok (plan, s)) : plan.items.length = plan.totalItems := by
  obtain ⟨_, -, h⟩ := except_bind_ok.mp h
  obtain ⟨_, -, h⟩ := except_bind_ok.mp h
  obtain ⟨_, -, h⟩ := except_bind_ok.mp h
  obtain ⟨_, hplan, h⟩ := except_bind_ok.mp h
  obtain ⟨_, -, h⟩ := except_bind_ok.mp h
  cases h
  exact Path.buildBasicPlan_counted (mapError_eq_ok.mp hplan)

omit [Refusals] [Helper.Crates] in
theorem trace_counted {c : PathConfig} {plan : Path.TracePlan} {s : Path.TraceSettings}
    (h : c.trace = .ok (plan, s)) : plan.items.length = plan.totalItems := by
  obtain ⟨_, -, h⟩ := except_bind_ok.mp h
  obtain ⟨_, -, h⟩ := except_bind_ok.mp h
  obtain ⟨_, -, h⟩ := except_bind_ok.mp h
  obtain ⟨_, hplan, h⟩ := except_bind_ok.mp h
  obtain ⟨_, -, h⟩ := except_bind_ok.mp h
  cases h
  exact Path.buildTracePlan_counted (mapError_eq_ok.mp hplan)

theorem replan_counted {req : Request} {stage : Stage} (h : replan req = .ok stage) :
    stage.Counted := by
  unfold replan at h
  cases hc : req.capability with
  | throughput =>
    rw [hc] at h
    obtain ⟨_, hplan, h⟩ := except_bind_ok.mp h
    cases h
    exact throughput_planned hplan
  | pathBasic =>
    rw [hc] at h
    obtain ⟨_, -, h⟩ := except_bind_ok.mp h
    obtain ⟨_, hplan, h⟩ := except_bind_ok.mp h
    cases h
    exact basic_counted hplan
  | pathTrace =>
    rw [hc] at h
    obtain ⟨_, -, h⟩ := except_bind_ok.mp h
    obtain ⟨_, hplan, h⟩ := except_bind_ok.mp h
    cases h
    exact trace_counted hplan
  | tuning =>
    rw [hc] at h
    obtain ⟨_, -, h⟩ := except_bind_ok.mp h
    cases h
    trivial
  | workflow =>
    rw [hc] at h
    cases h

variable {W : Type} [FloatDisplay] [Package] [Host] (engines : Engines W)

omit [Refusals] [Helper.Crates] [FloatDisplay] [Package] [Host] in
theorem spends_unlessCancelled {x : Run W Unit} {n : Nat} (h : Spends (measurements W) n x) :
    Spends (measurements W) n (unlessCancelled x) :=
  spends_isCancelled.after fun _ => Spends.ite (fun _ => Spends.fail n _) fun _ => h

theorem spends_runSingle {req : Request} {stage : Stage} (h : replan req = .ok stage) :
    Spends (measurements W) stage.count (runSingle engines req) := by
  apply spends_unlessCancelled
  rw [← Nat.zero_add stage.count]
  refine (Spends.lift (replan req)).bindOk fun r planned r' hplanned => ?_
  obtain ⟨hplanned, -⟩ := Act.lift_ok.mp hplanned
  rw [h] at hplanned
  cases hplanned
  exact spends_runStage engines (replan_counted h)

/-- A run whose stages are those of its preview spends what the preview counts. -/
theorem spends_run {req : Request} {preview : Preview}
    (h : executedStages req preview = .ok preview.stages) :
    Spends (measurements W) (preview.stages.map Stage.count).sum (run engines req preview) := by
  cases preview with
  | single p =>
    obtain ⟨stage, hstage, h⟩ := except_bind_ok.mp h
    cases h
    have hcount : ((Preview.single p).stages.map Stage.count).sum = p.stage.count :=
      Nat.add_zero _
    rw [hcount]
    exact spends_runSingle engines hstage
  | workflow w =>
    have hsteps : ∀ step ∈ w.steps, replan (stageRequest step) = .ok step.stage :=
      List.forall₂_same.mp (List.forall₂_map_right_iff.mp (mapM_eq_ok.mp h))
    apply spends_unlessCancelled
    show Spends _ ((w.steps.map StepPreview.stage).map Stage.count).sum _
    rw [List.map_map]
    exact Spends.forEach _ fun step hstep => spends_runSingle engines (hsteps step hstep)

/-- At every moment of a run the counters stay within the plan.  A run that ends
without an error and was not cancelled has used it up. -/
theorem run_accounting {value : Json} {preview : Preview}
    (h : planRequest value = .ok preview) (cancelled : Bool) (world : W) :
    ∃ req, request value = .ok req ∧
      let ended := run engines req preview (.start cancelled world)
      (∀ e ∈ ended.2.moments,
        e.completed + e.skipped ≤ preview.count ∧ e.failed ≤ e.completed) ∧
      (ended.1 = .ok () → ended.2.cancelled = false →
        ended.2.execution.completed + ended.2.execution.skipped = preview.count) := by
  obtain ⟨req, hreq, h⟩ := except_bind_ok.mp h
  obtain ⟨hwithin, -, -, hexact⟩ :=
    spends_run engines (executedStages_of_planParsed h) (.start cancelled world)
  rw [← preview.count_eq] at hwithin hexact
  have hstart : (measurements W).Within preview.count (.start cancelled world) := by
    intro e he
    rw [List.mem_singleton.mp he]
    exact ⟨Nat.zero_le _, Nat.le_refl 0⟩
  refine ⟨req, hreq, hwithin preview.count hstart (Nat.le_of_eq (Nat.zero_add _)), ?_⟩
  intro hok hgo
  have hspent := hexact () hok (Bool.eq_false_iff.mp hgo)
  exact hspent.trans (Nat.zero_add _)

end

/-! ## On one request -/

/-- Whatever is asked succeeds, and nothing is cancelled. -/
def sampleEngines : Engines Unit where
  preflight := fun _ _ => ⟨.ok (⟨"192.0.2.1", .ipv4⟩, .null), false, ()⟩
  throughput := fun _ _ _ => ⟨.ok ⟨none, none, none, none, .null⟩, false, ()⟩
  basic := fun _ _ _ => ⟨.ok ⟨[.reply], [true], true, [], .completed, .null⟩, false, ()⟩
  trace := fun _ _ _ => ⟨.ok ⟨[1], .completed, .null⟩, false, ()⟩
  tuning := fun _ _ _ => ⟨.ok ⟨true, .null⟩, false, ()⟩
  atomicJson := fun _ _ _ => ⟨.ok (), false, ()⟩
  progress := fun _ _ _ => ⟨(), false, ()⟩

/-- As these, but the server refuses every connection. -/
def refusedEngines : Engines Unit where
  preflight := sampleEngines.preflight
  throughput := fun _ _ _ => ⟨.error (.new .prerequisite "connection refused"), false, ()⟩
  basic := sampleEngines.basic
  trace := sampleEngines.trace
  tuning := sampleEngines.tuning
  atomicJson := sampleEngines.atomicJson
  progress := sampleEngines.progress

abbrev sampleDisplay : FloatDisplay := ⟨fun _ => "5"⟩

abbrev samplePackage : Package := ⟨"0.1.0"⟩

theorem eq_ok_of_isOk {σ : Type} {ended : Except Error Unit × σ} (h : ended.1.isOk = true) :
    ended = (.ok (), ended.2) := by
  obtain ⟨result, s⟩ := ended
  cases result with
  | error e => cases h
  | ok _ => rfl

section
attribute [local instance] sampleCrates sampleRefusals sampleHost sampleDisplay samplePackage

/-- The baseline's run against that server. -/
def refusedRun (req : Request) (preview : Preview) : Except Error Unit × Running Unit :=
  run refusedEngines req preview (.start false ())

theorem run_accounting_refused :
    ∃ preview req, planRequest sampleBaseline = .ok preview ∧ request sampleBaseline = .ok req ∧
      let ended := refusedRun req preview
      (∀ e ∈ ended.2.moments,
        e.completed + e.skipped ≤ preview.count ∧ e.failed ≤ e.completed) ∧
      ended.2.execution.completed + ended.2.execution.skipped = preview.count ∧
      ended.2.execution.failed = 1 := by
  obtain ⟨preview, hplan, -⟩ := sampleBaseline_planned
  obtain ⟨req, hreq, hmoments, hspent⟩ := run_accounting refusedEngines hplan false ()
  have hrun : ((planRequest sampleBaseline).toOption.any fun preview =>
      (request sampleBaseline).toOption.any fun req =>
        (refusedRun req preview).1.isOk && !(refusedRun req preview).2.cancelled &&
          (refusedRun req preview).2.execution.failed == 1) = true := by decide +kernel
  rw [hplan, hreq] at hrun
  have hrun : (_ && _) = true := hrun
  obtain ⟨hended, hfailed⟩ := Bool.and_eq_true_iff.mp hrun
  obtain ⟨hok, hgo⟩ := Bool.and_eq_true_iff.mp hended
  exact ⟨preview, req, hplan, hreq, hmoments,
    hspent (congrArg Prod.fst (eq_ok_of_isOk hok)) (Bool.not_eq_eq_eq_not.mp hgo),
    beq_iff_eq.mp hfailed⟩

end

end NetworkLantern.Runtime
