import NetworkLantern.Runtime.Accounting
import NetworkLantern.Runtime.AtomicFile

/-!
# The measurements a run has published

A measurement is counted before its document is written.  So the summary counts one that
was not published exactly where a write failed before the document took its place
(`published_as_counted_iff`).
-/

namespace NetworkLantern.Runtime

open NetworkLantern Act

/-- The counts of `summary.json`. -/
structure Counts where
  failed : Nat
  planned : Nat
  skipped : Nat
  succeeded : Nat
  total : Nat

def Execution.counts (e : Execution) (planned : Nat) : Counts where
  failed := e.failed
  planned := planned
  skipped := e.skipped
  succeeded := e.completed - e.failed
  total := e.completed

/-- A write of a run: its document, the disk it met, and whether the document is published. -/
structure FileWrite (W : Type) where
  name : Str
  value : Json
  world : W
  published : Bool

abbrev WriteLog (W : Type) := List (FileWrite W)

def measurementName (n : Nat) : Str := "measurement-".toList ++ eightDigits n ++ ".json".toList

def FileWrite.isMeasurement {W : Type} (w : FileWrite W) : Bool :=
  "measurement-".toList.isPrefixOf w.name

section
variable {W : Type}

/-- The writes of measurements, in order. -/
def measurementWrites (r : Running (W × WriteLog W)) : List (FileWrite W) :=
  r.world.2.filter FileWrite.isMeasurement

/-- The measurement files that a run has published. -/
def publishedFiles (r : Running (W × WriteLog W)) : List Str :=
  ((measurementWrites r).filter FileWrite.published).map FileWrite.name

section
variable [Json.FloatText] [Host]

/-- A write that starts in the given world. -/
def Disk.fileWrite (disk : Disk W) (name : Str) (value : Json) (world : W) : FileWrite W :=
  ⟨name, value, world, (disk.atomicJson name value REPORT_LIMIT (world, false)).2.2⟩

/-- The same engines, with their files on a disk and every write in a log. -/
def Engines.onDisk (engines : Engines W) (disk : Disk W) : Engines (W × WriteLog W) where
  preflight config := beside (engines.preflight config)
  throughput spec config := beside (engines.throughput spec config)
  basic item settings := beside (engines.basic item settings)
  trace item settings := beside (engines.trace item settings)
  tuning plan hash := beside (engines.tuning plan hash)
  atomicJson name value s :=
    let (result, world, _) := disk.atomicJson name value REPORT_LIMIT (s.1, false)
    ⟨result, disk.cancelled world, (world, s.2 ++ [disk.fileWrite name value s.1])⟩
  progress n message := beside (engines.progress n message)

/-- Every measurement that was counted meanwhile was written under its number. -/
def Numbered (disk : Disk W) (r r' : Running (W × WriteLog W)) : Prop :=
  ∃ writes, measurementWrites r' = measurementWrites r ++ writes ∧
    writes.map FileWrite.name =
      (List.range' (r.execution.completed + 1) writes.length).map measurementName ∧
    r'.execution.completed = r.execution.completed + writes.length ∧
    ∀ w ∈ writes, (w.published = true ↔ disk.Lands w.name w.value REPORT_LIMIT w.world)

variable {disk : Disk W}

omit [Host] in
theorem Numbered.refl (r : Running (W × WriteLog W)) : Numbered disk r r :=
  ⟨[], (List.append_nil _).symm, rfl, rfl, fun _ h => absurd h List.not_mem_nil⟩

omit [Host] in
theorem Numbered.trans (a b c : Running (W × WriteLog W)) (h : Numbered disk a b)
    (h' : Numbered disk b c) : Numbered disk a c := by
  obtain ⟨writes, hlog, hnames, hcount, hlands⟩ := h
  obtain ⟨writes', hlog', hnames', hcount', hlands'⟩ := h'
  refine ⟨writes ++ writes', ?_, ?_, ?_, ?_⟩
  · rw [hlog', hlog, List.append_assoc]
  · have hnext : b.execution.completed + 1 = a.execution.completed + 1 + writes.length := by
      rw [hcount]
      omega
    rw [List.map_append, hnames, hnames', hnext, List.length_append, ← List.map_append,
      List.range'_append_1]
  · rw [hcount', hcount, List.length_append, Nat.add_assoc]
  · intro w hw
    rcases List.mem_append.mp hw with hw | hw
    · exact hlands w hw
    · exact hlands' w hw

omit [Host] in
/-- What neither counts a measurement nor writes a file. -/
theorem Numbered.of_eq {r r' : Running (W × WriteLog W)} (hlog : r'.world.2 = r.world.2)
    (hcount : r'.execution.completed = r.execution.completed) : Numbered disk r r' := by
  refine ⟨[], ?_, rfl, hcount, fun _ h => absurd h List.not_mem_nil⟩
  unfold measurementWrites
  rw [hlog, List.append_nil]

omit [Host] in
theorem numbered_beside {α : Type} (op : W → Reply W α) :
    Keeps (Numbered disk) (call (beside op)) := fun _ => .of_eq rfl rfl

omit [Host] in
theorem numbered_change {f : Execution → Execution} (h : ∀ e, (f e).completed = e.completed) :
    Keeps (Numbered disk) (change f) := fun r => .of_eq rfl (h r.execution)

omit [Host] in
theorem numbered_completed : Keeps (Numbered disk) completed := fun r => .refl r

omit [Host] in
theorem numbered_isCancelled : Keeps (Numbered disk) isCancelled := fun r => .refl r

omit [Host] in
theorem numbered_when {x : Run (W × WriteLog W) Unit} (h : Keeps (Numbered disk) x) (c : Bool) :
    Keeps (Numbered disk) (Act.when c x) := by
  cases c with
  | false => exact Keeps.pure Numbered.refl ()
  | true => exact h

omit [Host] in
theorem numbered_warnAll (value : Json) : Keeps (Numbered disk) (warnAll value) :=
  Keeps.forEach Numbered.refl Numbered.trans _ fun message _ =>
    numbered_change fun e => (e.warn_counters message).1

omit [Host] in
theorem numbered_callOk {α : Type} (op : W → Reply W (Except Error α)) :
    Keeps (Numbered disk) (callOk (beside op)) :=
  Keeps.bind Numbered.trans (numbered_beside op) fun result => Keeps.lift Numbered.refl result

/-! ## Single steps -/

section
variable [Package] (engines : Engines W)

omit [Package] in
/-- The log behind a write. -/
theorem log_atomicJson (name : Str) (value : Json) (r : Running (W × WriteLog W)) :
    (callOk ((engines.onDisk disk).atomicJson name value) r).2.world.2 =
      r.world.2 ++ [disk.fileWrite name value r.world.1] := rfl

omit [Package] in
/-- A write of another file. -/
theorem numbered_otherFile {name : Str} (value : Json)
    (h : "measurement-".toList.isPrefixOf name = false) :
    Keeps (Numbered disk) (callOk ((engines.onDisk disk).atomicJson name value)) := by
  intro r
  refine ⟨[], ?_, rfl, rfl, fun _ hw => absurd hw List.not_mem_nil⟩
  unfold measurementWrites
  have hother : (disk.fileWrite name value r.world.1).isMeasurement = false := h
  rw [log_atomicJson, List.filter_append, List.filter_cons_of_neg (Bool.eq_false_iff.mp hother)]
  rfl

omit [Host] [Package] in
/-- Counting a measurement and warning of its failure never fail. -/
theorem countAndWarn (value : Json) (failed : Bool) (r : Running (W × WriteLog W)) :
    ∃ r1 r2, countMeasurement failed r = (.ok (), r1) ∧
      Act.when failed (warnAll value) r1 = (.ok (), r2) ∧
      r2.world = r.world ∧ r2.execution.completed = r.execution.completed + 1 := by
  have hwarn : ∀ (messages : List Str) (s : Running (W × WriteLog W)), ∃ s',
      Act.forEach messages (fun message => change fun e => e.warn message) s = (.ok (), s') ∧
        s'.world = s.world ∧ s'.execution.completed = s.execution.completed := by
    intro messages
    induction messages with
    | nil => exact fun s => ⟨s, rfl, rfl, rfl⟩
    | cons message messages ih =>
      intro s
      obtain ⟨s', hrun, hworld, hcompleted⟩ := ih
        { s with execution := s.execution.warn message, past := s.execution :: s.past }
      exact ⟨s', hrun, hworld, hcompleted.trans (s.execution.warn_counters message).1⟩
  cases failed with
  | false => exact ⟨_, _, rfl, rfl, rfl, rfl⟩
  | true =>
    obtain ⟨s', hrun, hworld, hcompleted⟩ := hwarn (failureMessages value)
      (countMeasurement (W := W × WriteLog W) true r).2
    exact ⟨_, s', rfl, hrun, hworld, hcompleted⟩

omit [Package] in
/-- The write of a measurement that has just been counted. -/
theorem numbered_write (value : Json) {r r' : Running (W × WriteLog W)}
    (hworld : r'.world = r.world) (hcompleted : r'.execution.completed = r.execution.completed + 1) :
    Numbered disk r (callOk ((engines.onDisk disk).atomicJson
      (measurementName r'.execution.completed) value) r').2 := by
  refine ⟨[disk.fileWrite (measurementName r'.execution.completed) value r'.world.1], ?_, ?_,
    hcompleted, ?_⟩
  · unfold measurementWrites
    rw [log_atomicJson, List.filter_append, hworld]
    rfl
  · rw [← hcompleted]
    rfl
  · intro w hw
    rw [List.mem_singleton.mp hw]
    exact disk.published_iff _ value REPORT_LIMIT r'.world.1

theorem numbered_record (value : Json) (failed : Bool) :
    Keeps (Numbered disk) (record (engines.onDisk disk) value failed) := by
  intro r
  obtain ⟨r1, r2, hcount, hwarn, hworld, hcompleted⟩ := countAndWarn value failed r
  unfold record
  rw [bind_of_ok hcount, bind_of_ok hwarn,
    bind_of_ok (show completed r2 = (.ok r2.execution.completed, r2) from rfl)]
  have hwrite := @numbered_write W _ _ disk engines
    (.ofFields
      [("schema_version", .ofU32 RECORD_VERSION), ("provenance", provenance),
       ("measurement", value)]) r r2 hworld hcompleted
  unfold measurementName at hwrite
  apply Keeps.bindFrom Numbered.trans hwrite
  intro _ _ _
  exact Keeps.bind Numbered.trans numbered_completed fun n => numbered_beside _

omit [Host] [Package] in
theorem numbered_degrade (value : Json) : Keeps (Numbered disk) (degrade value) := by
  refine Keeps.bind Numbered.trans ?_ fun _ => numbered_warnAll value
  exact numbered_change fun _ => rfl

/-! ## Stages -/

variable [FloatDisplay]

theorem numbered_measureTest (config : Throughput.SuiteConfig) (thresholds : Thresholds)
    (spec : Throughput.TestSpec) (saturated : Saturated) :
    Keeps (Numbered disk)
      (measureTest (engines.onDisk disk) config thresholds spec saturated) := by
  unfold measureTest
  split
  · refine Keeps.bind Numbered.trans ?_ fun _ => Keeps.pure Numbered.refl _
    exact numbered_change fun _ => rfl
  · refine Keeps.bind Numbered.trans (numbered_beside _) fun result => ?_
    cases result with
    | ok result =>
      have hbreach : Keeps (Numbered disk)
          (change fun e => { e with thresholdBreaches := e.thresholdBreaches + 1 }) :=
        numbered_change fun _ => rfl
      refine Keeps.bind Numbered.trans (numbered_when hbreach _) fun _ => ?_
      exact Keeps.bind Numbered.trans (numbered_record engines _ false) fun _ =>
        Keeps.pure Numbered.refl _
    | error error =>
      dsimp only
      split
      · exact Keeps.fail Numbered.refl error
      · exact Keeps.bind Numbered.trans (numbered_record engines _ true) fun _ =>
          Keeps.pure Numbered.refl _

theorem numbered_eachTest (config : Throughput.SuiteConfig) (thresholds : Thresholds)
    (tests : List Throughput.TestSpec) (saturated : Saturated) :
    Keeps (Numbered disk) (eachTest (engines.onDisk disk) config thresholds tests saturated) := by
  induction tests generalizing saturated with
  | nil => exact Keeps.pure Numbered.refl ()
  | cons spec tests ih =>
    refine Keeps.bind Numbered.trans numbered_isCancelled fun stop => ?_
    cases stop with
    | true => exact Keeps.pure Numbered.refl ()
    | false =>
      exact Keeps.bind Numbered.trans
        (numbered_measureTest engines config thresholds spec saturated) fun saturated =>
          ih saturated

theorem numbered_runThroughput (plan : Throughput.ThroughputPlan) (thresholds : Thresholds) :
    Keeps (Numbered disk) (runThroughput (engines.onDisk disk) plan thresholds) := by
  refine Keeps.bind Numbered.trans numbered_completed fun n => ?_
  refine Keeps.bind Numbered.trans (numbered_beside _) fun _ => ?_
  refine Keeps.bind Numbered.trans (numbered_callOk _) fun preflight => ?_
  refine Keeps.bind Numbered.trans numbered_completed fun n => ?_
  refine Keeps.bind Numbered.trans (numbered_otherFile engines _ rfl) fun _ => ?_
  refine Keeps.bind Numbered.trans (Keeps.lift Numbered.refl _) fun _ => ?_
  exact numbered_eachTest engines _ thresholds _ []

omit [FloatDisplay] in
theorem numbered_measureBasic (settings : Path.BasicSettings) (item : Path.BasicPlanItem) :
    Keeps (Numbered disk) (measureBasic (engines.onDisk disk) settings item) := by
  refine Keeps.bind Numbered.trans (numbered_beside _) fun result => ?_
  cases result with
  | error error => exact numbered_record engines _ true
  | ok result =>
    exact Keeps.bind Numbered.trans (numbered_when (numbered_degrade _) _) fun _ =>
      numbered_record engines _ _

omit [FloatDisplay] in
theorem numbered_measureTrace (settings : Path.TraceSettings) (item : Path.TracePlanItem) :
    Keeps (Numbered disk) (measureTrace (engines.onDisk disk) settings item) := by
  refine Keeps.bind Numbered.trans (numbered_beside _) fun result => ?_
  cases result with
  | error error => exact numbered_record engines _ true
  | ok result =>
    exact Keeps.bind Numbered.trans (numbered_when (numbered_degrade _) _) fun _ =>
      numbered_record engines _ _

omit [Host] [Package] [FloatDisplay] in
theorem numbered_eachItem {Item : Type} {measure : Item → Run (W × WriteLog W) Unit}
    (h : ∀ item, Keeps (Numbered disk) (measure item)) (items : List Item) :
    Keeps (Numbered disk) (eachItem measure items) := by
  induction items with
  | nil => exact Keeps.pure Numbered.refl ()
  | cons item items ih =>
    refine Keeps.bind Numbered.trans numbered_isCancelled fun stop => ?_
    cases stop with
    | true => exact Keeps.pure Numbered.refl ()
    | false => exact Keeps.bind Numbered.trans (h item) fun _ => ih

theorem numbered_runStage (stage : Stage) :
    Keeps (Numbered disk) (runStage (engines.onDisk disk) stage) := by
  cases stage with
  | throughput plan thresholds => exact numbered_runThroughput engines plan thresholds
  | pathBasic plan settings =>
    exact numbered_eachItem (numbered_measureBasic engines settings) plan.items
  | pathTrace plan settings =>
    exact numbered_eachItem (numbered_measureTrace engines settings) plan.items
  | tuning plan hash =>
    exact Keeps.bind Numbered.trans (numbered_callOk _) fun result => numbered_record engines _ _

end

end

/-! ## Runs -/

section
variable [FloatDisplay] [Package] [Host] [Refusals] [Helper.Crates] {disk : Disk W}
  (engines : Engines W)

theorem numbered_runSingle (req : Request) :
    Keeps (Numbered disk) (runSingle (engines.onDisk disk) req) := by
  refine Keeps.bind Numbered.trans numbered_isCancelled fun stop => ?_
  cases stop with
  | true => exact Keeps.fail Numbered.refl _
  | false =>
    exact Keeps.bind Numbered.trans (Keeps.lift Numbered.refl _) fun stage =>
      numbered_runStage engines stage

theorem numbered_run (req : Request) (preview : Preview) :
    Keeps (Numbered disk) (run (engines.onDisk disk) req preview) := by
  cases preview with
  | single p => exact numbered_runSingle engines req
  | workflow w =>
    refine Keeps.bind Numbered.trans numbered_isCancelled fun stop => ?_
    cases stop with
    | true => exact Keeps.fail Numbered.refl _
    | false =>
      exact Keeps.forEach Numbered.refl Numbered.trans _ fun step _ =>
        numbered_runSingle engines (stageRequest step)

/-- The files that a run has published are those that its summary counts, numbered from 1,
and none that it counts as succeeded is missing. -/
def PublishedAsCounted (r : Running (W × WriteLog W)) (counts : Counts) : Prop :=
  publishedFiles r = (List.range' 1 counts.total).map measurementName ∧
    counts.succeeded ≤ (publishedFiles r).length

/-- The summary of a run counts what the run has published exactly if each of its
measurements fitted its document and took its place. -/
theorem published_as_counted_iff (disk : Disk W) (req : Request) (preview : Preview)
    (cancelled : Bool) (world : W) :
    let ended := (run (engines.onDisk disk) req preview (.start cancelled (world, []))).2
    PublishedAsCounted ended (ended.execution.counts preview.count) ↔
      ∀ w ∈ measurementWrites ended, disk.Lands w.name w.value REPORT_LIMIT w.world := by
  intro ended
  obtain ⟨writes, hlog, hnames, hcount, hlands⟩ :=
    @numbered_run W _ _ _ _ _ disk engines req preview (.start cancelled (world, []))
  have hwrites : measurementWrites ended = writes := hlog
  have htotal : (ended.execution.counts preview.count).total = writes.length :=
    hcount.trans (Nat.zero_add _)
  have hfiles : publishedFiles ended = (writes.filter FileWrite.published).map FileWrite.name :=
    congrArg (fun ws => (ws.filter FileWrite.published).map FileWrite.name) hwrites
  unfold PublishedAsCounted
  rw [hwrites, htotal, hfiles]
  constructor
  · rintro ⟨hnumbered, -⟩ w hw
    have hlength := congrArg List.length hnumbered
    rw [List.length_map, List.length_map, List.length_range', List.length_filter_eq_length_iff]
      at hlength
    exact (hlands w hw).mp (hlength w hw)
  · intro hall
    have hself : writes.filter FileWrite.published = writes :=
      List.filter_eq_self.mpr fun w hw => (hlands w hw).mpr (hall w hw)
    rw [hself]
    refine ⟨hnames, ?_⟩
    rw [List.length_map, ← htotal]
    exact Nat.sub_le _ _

end

end

/-! ## A full disk -/

/-- There is no room when the first measurement is written, and room again for what follows. -/
def fullDisk : Disk Unit where
  checkPath := fun _ => pure ()
  createParent := fun _ => pure ()
  stage := fun name =>
    if name = measurementName 1 then
      Act.fail (.new .prerequisite "No space left on device (os error 28)")
    else pure ()
  writeAll := fun _ => pure ()
  syncStaged := pure ()
  persist := fun _ => pure ()
  syncParent := fun _ => pure ()
  cancelled := fun _ => false

/-- `{"capability":"path_basic","layers":[{"target":"h"}]}`. -/
def samplePathBasic : Json :=
  .ofFields
    [("capability", .string "path_basic"), ("layers", .array [.ofFields [("target", .string "h")]])]

section
attribute [local instance] sampleCrates sampleRefusals sampleHost sampleDisplay samplePackage

/-- What the summary of a run on a full disk counts, and what the run has published. -/
def fullDiskRun (req : Request) (preview : Preview) : Running (Unit × WriteLog Unit) :=
  (run (sampleEngines.onDisk fullDisk) req preview (.start false ((), []))).2

/-- The measurement is counted in a summary that could be written. -/
theorem fullDisk_counted :
    (∀ bytes, (fullDisk.replace "summary.json" bytes ()).1 = .ok ()) ∧
    ∃ preview req, planRequest samplePathBasic = .ok preview ∧
      request samplePathBasic = .ok req ∧
      ¬ PublishedAsCounted (fullDiskRun req preview)
        ((fullDiskRun req preview).execution.counts preview.count) := by
  refine ⟨fun _ => rfl, ?_⟩
  have hrun : ((planRequest samplePathBasic).toOption.any fun preview =>
      (request samplePathBasic).toOption.any fun req =>
        ((fullDiskRun req preview).execution.counts preview.count).total == 1 &&
          (publishedFiles (fullDiskRun req preview)).isEmpty) = true := by decide +kernel
  cases hpreview : planRequest samplePathBasic with
  | error e => rw [hpreview] at hrun; cases hrun
  | ok preview =>
    cases hreq : request samplePathBasic with
    | error e => rw [hpreview, hreq] at hrun; cases hrun
    | ok req =>
      rw [hpreview, hreq] at hrun
      have hrun : (_ && _) = true := hrun
      obtain ⟨htotal, hfiles⟩ := Bool.and_eq_true_iff.mp hrun
      refine ⟨preview, req, rfl, rfl, ?_⟩
      rintro ⟨hnumbered, -⟩
      rw [List.isEmpty_iff.mp hfiles, beq_iff_eq.mp htotal] at hnumbered
      cases hnumbered

end

end NetworkLantern.Runtime
