import NetworkLantern.Runtime.Measurements
import NetworkLantern.Lib.Digits
import NetworkLantern.Lib.FirstSeen

/-!
# The warnings of a run

A run keeps the first messages it warns of, each once, and counts the rest for a
last line.  The error that stops it is reported past the cap, but only if its
message was never warned of: one that was, and was left out, stays counted
(`warnings_reported_iff`).
-/

namespace NetworkLantern.Runtime

open NetworkLantern Act

/-- `… n more` -/
def moreLine (n : Nat) : Str := "… ".toList ++ decimal n ++ " more".toList

/-- The error that stopped the run. -/
def Execution.stopped (e : Execution) (error : Error) : Execution :=
  if error.message ∈ e.seenWarnings then e
  else
    { e with
      seenWarnings := error.message :: e.seenWarnings, warnings := e.warnings ++ [error.message] }

def Execution.finishWarnings (e : Execution) : Execution :=
  if 0 < e.omittedWarnings then
    { e with warnings := e.warnings ++ [moreLine e.omittedWarnings], omittedWarnings := 0 }
  else e

/-- The end of a run. -/
def Execution.finish (e : Execution) (result : Except Error Unit) : Execution :=
  let e := match result with
    | .error error => e.stopped error
    | .ok () => e
  e.finishWarnings

/-! ## What is to be reported -/

/-- The last line, where something is left out. -/
def leftOut (n : Nat) : List Str := if 0 < n then [moreLine n] else []

/-- The distinct messages up to the cap, the message of the error that stopped the run where it is
not one of them, and how many distinct messages that leaves out. -/
def reported (messages : List Str) (stop : Option Str) : List Str :=
  let kept := messages.eraseDups.take WARNING_CAP
  let past := messages.eraseDups.drop WARNING_CAP
  kept ++ stop.toList.filter (· ∉ kept) ++ leftOut (past.filter (· ∉ stop)).length

/-- The message of the error a run ended with. -/
def stopMessage : Except Error Unit → Option Str
  | .error error => some error.message
  | .ok () => none

/-! ## Warnings one by one -/

/-- What an execution holds once it has warned of `messages`. -/
structure Warned (messages : List Str) (e : Execution) : Prop where
  seen : ∀ m, m ∈ e.seenWarnings ↔ m ∈ messages
  warnings : e.warnings = messages.eraseDups.take WARNING_CAP
  omitted : e.omittedWarnings = (messages.eraseDups.drop WARNING_CAP).length

theorem Warned.new : Warned [] Execution.new := ⟨fun _ => Iff.rfl, rfl, rfl⟩

theorem Warned.warn {messages : List Str} {e : Execution} (h : Warned messages e) (m : Str) :
    Warned (messages ++ [m]) (e.warn m) := by
  obtain ⟨hseen, hwarnings, homitted⟩ := h
  have hseen' : ∀ m', m' ∈ m :: e.seenWarnings ↔ m' ∈ messages ++ [m] := by
    intro m'
    rw [List.mem_cons, hseen, List.mem_append, List.mem_singleton, or_comm]
  have hlength : e.warnings.length = min WARNING_CAP messages.eraseDups.length := by
    rw [hwarnings, List.length_take]
  unfold Execution.warn
  by_cases hm : m ∈ messages
  · rw [if_pos ((hseen m).mpr hm)]
    refine ⟨fun m' => ?_, ?_, ?_⟩
    · rw [hseen, List.mem_append, List.mem_singleton]
      exact ⟨.inl, fun h => h.elim id fun h => h ▸ hm⟩
    · rw [eraseDups_concat_of_mem hm, hwarnings]
    · rw [eraseDups_concat_of_mem hm, homitted]
  · rw [if_neg fun h => hm ((hseen m).mp h)]
    by_cases hcap : WARNING_CAP ≤ e.warnings.length
    · have hle : WARNING_CAP ≤ messages.eraseDups.length := by omega
      rw [if_pos hcap]
      refine ⟨hseen', ?_, ?_⟩
      · rw [eraseDups_concat_of_not_mem hm, List.take_append_of_le_length hle]
        exact hwarnings
      · rw [eraseDups_concat_of_not_mem hm, List.drop_append_of_le_length hle, List.length_append,
          ← homitted]
        rfl
    · have hlt : messages.eraseDups.length < WARNING_CAP := by omega
      have hall : (messages.eraseDups ++ [m]).length ≤ WARNING_CAP := by
        rw [List.length_append]
        exact hlt
      rw [if_neg hcap]
      refine ⟨hseen', ?_, ?_⟩
      · rw [eraseDups_concat_of_not_mem hm, List.take_of_length_le hall]
        show e.warnings ++ [m] = _
        rw [hwarnings, List.take_of_length_le (Nat.le_of_lt hlt)]
      · rw [eraseDups_concat_of_not_mem hm, List.drop_of_length_le hall]
        rw [List.drop_of_length_le (Nat.le_of_lt hlt)] at homitted
        exact homitted

theorem Warned.foldl {messages : List Str} {e : Execution} (h : Warned messages e)
    (more : List Str) : Warned (messages ++ more) (more.foldl Execution.warn e) := by
  induction more generalizing messages e with
  | nil => rwa [List.append_nil]
  | cons m more ih =>
    rw [List.append_cons]
    exact ih (h.warn m)

/-! ## The last lines -/

theorem Execution.finishWarnings_warnings (e : Execution) :
    e.finishWarnings.warnings = e.warnings ++ leftOut e.omittedWarnings := by
  unfold finishWarnings leftOut
  by_cases h : 0 < e.omittedWarnings
  · rw [if_pos h, if_pos h]
  · rw [if_neg h, if_neg h, List.append_nil]

/-- An error that was not left out leaves the count as it is. -/
theorem reported_of_not_past {messages : List Str} {stop : Option Str}
    (h : ∀ m ∈ stop, m ∉ messages.eraseDups.drop WARNING_CAP) :
    reported messages stop = messages.eraseDups.take WARNING_CAP ++
      stop.toList.filter (· ∉ messages.eraseDups.take WARNING_CAP) ++
      leftOut (messages.eraseDups.drop WARNING_CAP).length := by
  have hpast : (messages.eraseDups.drop WARNING_CAP).filter (· ∉ stop) =
      messages.eraseDups.drop WARNING_CAP :=
    List.filter_eq_self.mpr fun m hm => decide_eq_true fun hstop => h m hstop hm
  rw [reported, hpast]

/-- A run that nothing stopped reports what it is to report. -/
theorem Warned.finish_ok {messages : List Str} {e : Execution} (h : Warned messages e) :
    (e.finish (.ok ())).warnings = reported messages none := by
  have hstop : ∀ m ∈ (none : Option Str), m ∉ messages.eraseDups.drop WARNING_CAP := nofun
  rw [reported_of_not_past hstop, Option.toList_none, List.filter_nil, List.append_nil,
    ← h.warnings, ← h.omitted]
  exact e.finishWarnings_warnings

/-- An error of a new message is reported past the cap. -/
theorem Warned.finish_new {messages : List Str} {e : Execution} (h : Warned messages e)
    {error : Error} (hnew : error.message ∉ messages) :
    (e.finish (.error error)).warnings = reported messages (some error.message) := by
  have hkept : error.message ∉ messages.eraseDups.take WARNING_CAP := fun hm =>
    hnew (List.mem_eraseDups.mp (List.mem_of_mem_take hm))
  have hpast : ∀ m ∈ some error.message, m ∉ messages.eraseDups.drop WARNING_CAP := by
    rintro m hm hdrop
    cases hm
    exact hnew (List.mem_eraseDups.mp (List.mem_of_mem_drop hdrop))
  have hone : [error.message].filter (· ∉ messages.eraseDups.take WARNING_CAP) =
      [error.message] := by simp [hkept]
  have hstopped : e.stopped error =
      { e with
        seenWarnings := error.message :: e.seenWarnings
        warnings := e.warnings ++ [error.message] } :=
    if_neg fun hm => hnew ((h.seen _).mp hm)
  rw [reported_of_not_past hpast, Option.toList_some, hone, ← h.warnings, ← h.omitted]
  show (e.stopped error).finishWarnings.warnings = _
  rw [hstopped, Execution.finishWarnings_warnings]

/-- An error of a message that was warned of adds nothing. -/
theorem Warned.finish_seen {messages : List Str} {e : Execution} (h : Warned messages e)
    {error : Error} (hold : error.message ∈ messages) :
    (e.finish (.error error)).warnings =
      messages.eraseDups.take WARNING_CAP ++
        leftOut (messages.eraseDups.drop WARNING_CAP).length := by
  have hstopped : e.stopped error = e := if_pos ((h.seen _).mpr hold)
  show (e.stopped error).finishWarnings.warnings = _
  rw [hstopped, Execution.finishWarnings_warnings, h.warnings, h.omitted]

theorem Warned.finish_kept {messages : List Str} {e : Execution} (h : Warned messages e)
    {error : Error} (hkept : error.message ∈ messages.eraseDups.take WARNING_CAP)
    (hpast : error.message ∉ messages.eraseDups.drop WARNING_CAP) :
    (e.finish (.error error)).warnings = reported messages (some error.message) := by
  have hnone : [error.message].filter (· ∉ messages.eraseDups.take WARNING_CAP) = [] := by
    simp [hkept]
  have hstop : ∀ m ∈ some error.message, m ∉ messages.eraseDups.drop WARNING_CAP := by
    intro m hm
    cases hm
    exact hpast
  rw [reported_of_not_past hstop, Option.toList_some, hnone, List.append_nil]
  exact h.finish_seen (List.mem_eraseDups.mp (List.mem_of_mem_take hkept))

/-- A message is kept or left out, never both. -/
theorem not_kept_of_past {messages : List Str} {m : Str}
    (h : m ∈ messages.eraseDups.drop WARNING_CAP) : m ∉ messages.eraseDups.take WARNING_CAP := by
  intro hkept
  have hnodup := nodup_eraseDups messages
  rw [← List.take_append_drop WARNING_CAP messages.eraseDups] at hnodup
  exact (List.nodup_append.mp hnodup).2.2 m hkept m h rfl

/-- The error that stopped the run is not among the messages left out, unless it is the only one
and reads as the line that replaces it. -/
def Reportable (messages : List Str) (stop : Option Str) : Prop :=
  ∀ m ∈ stop, m ∈ messages.eraseDups.drop WARNING_CAP →
    messages.eraseDups.drop WARNING_CAP = [m] ∧ m = moreLine 1

/-- What is to be reported where the error was left out. -/
theorem reported_past {messages : List Str} {m : Str}
    (h : m ∈ messages.eraseDups.drop WARNING_CAP) :
    reported messages (some m) = messages.eraseDups.take WARNING_CAP ++ [m] ++
      leftOut ((messages.eraseDups.drop WARNING_CAP).length - 1) := by
  have hone : [m].filter (· ∉ messages.eraseDups.take WARNING_CAP) = [m] :=
    List.filter_eq_self.mpr fun m' hm' => by
      rw [List.mem_singleton.mp hm']
      exact decide_eq_true (not_kept_of_past h)
  have hnodup : (messages.eraseDups.drop WARNING_CAP).Nodup :=
    (nodup_eraseDups messages).sublist (List.drop_sublist _ _)
  have herase : (messages.eraseDups.drop WARNING_CAP).filter (· ∉ some m) =
      (messages.eraseDups.drop WARNING_CAP).erase m := by
    rw [hnodup.erase_eq_filter]
    refine List.filter_congr fun m' _ => ?_
    by_cases hm : m' = m
    · simp [hm]
    · simp [hm, Ne.symm hm]
  rw [reported, Option.toList_some, hone, herase, List.length_erase_of_mem h]

/-- Two ways to end a list: the line that counts everything left out, or the message of one and the
line that counts the others. -/
theorem leftOut_eq_iff {past : List Str} {m : Str} (h : m ∈ past) :
    leftOut past.length = m :: leftOut (past.length - 1) ↔ past = [m] ∧ m = moreLine 1 := by
  have hpos := List.length_pos_of_mem h
  have hall : leftOut past.length = [moreLine past.length] := if_pos hpos
  constructor
  · intro heq
    rw [hall, List.cons.injEq] at heq
    obtain ⟨hm, hrest⟩ := heq
    have hone : past.length = 1 := by
      by_contra hne
      rw [leftOut, if_pos (by omega)] at hrest
      cases hrest
    obtain ⟨a, rfl⟩ := List.length_eq_one_iff.mp hone
    obtain rfl := List.mem_singleton.mp h
    exact ⟨rfl, hm.symm⟩
  · rintro ⟨rfl, hm⟩
    show [moreLine 1] = [m]
    rw [hm]

/-- An error that was left out is reported only if its message is the line that replaces it. -/
theorem Warned.finish_past {messages : List Str} {e : Execution} (h : Warned messages e)
    {error : Error} (hpast : error.message ∈ messages.eraseDups.drop WARNING_CAP) :
    (e.finish (.error error)).warnings = reported messages (some error.message) ↔
      messages.eraseDups.drop WARNING_CAP = [error.message] ∧ error.message = moreLine 1 := by
  rw [h.finish_seen (List.mem_eraseDups.mp (List.mem_of_mem_drop hpast)), reported_past hpast,
    ← leftOut_eq_iff hpast, List.append_assoc, List.append_cancel_left_eq, List.singleton_append]

theorem Warned.finish_iff {messages : List Str} {e : Execution} (h : Warned messages e)
    (result : Except Error Unit) :
    (e.finish result).warnings = reported messages (stopMessage result) ↔
      Reportable messages (stopMessage result) := by
  cases result with
  | ok =>
    refine ⟨fun _ m hm => ?_, fun _ => h.finish_ok⟩
    cases hm
  | error error =>
    by_cases hpast : error.message ∈ messages.eraseDups.drop WARNING_CAP
    · rw [show stopMessage (.error error) = some error.message from rfl, h.finish_past hpast]
      constructor
      · rintro hlast m hm -
        cases hm
        exact hlast
      · intro hr
        exact hr _ rfl hpast
    · refine ⟨fun _ m hm hm' => ?_, fun _ => ?_⟩
      · cases hm
        exact absurd hm' hpast
      · by_cases hkept : error.message ∈ messages.eraseDups.take WARNING_CAP
        · exact h.finish_kept hkept hpast
        · refine h.finish_new fun hold => ?_
          rw [← List.mem_eraseDups, ← List.take_append_drop WARNING_CAP messages.eraseDups,
            List.mem_append] at hold
          exact hold.elim hkept hpast

/-- What a run reports follows from the messages it warned of and the error it ended with. -/
theorem Warned.finish_congr {messages : List Str} {e e' : Execution} (h : Warned messages e)
    (h' : Warned messages e') (result : Except Error Unit) :
    (e.finish result).warnings = (e'.finish result).warnings := by
  cases result with
  | ok => rw [h.finish_ok, h'.finish_ok]
  | error error =>
    by_cases hold : error.message ∈ messages
    · rw [h.finish_seen hold, h'.finish_seen hold]
    · rw [h.finish_new hold, h'.finish_new hold]

theorem mem_reported_stop (messages : List Str) (m : Str) : m ∈ reported messages (some m) := by
  by_cases h : m ∈ messages.eraseDups.take WARNING_CAP
  · exact List.mem_append_left _ (List.mem_append_left _ h)
  · refine List.mem_append_left _ (List.mem_append_right _ ?_)
    exact List.mem_filter.mpr ⟨List.mem_singleton_self m, decide_eq_true h⟩

/-! ## Every run -/

/-- What was warned of before a step, and more after it. -/
def Warns {W : Type} (r r' : Running W) : Prop :=
  ∀ messages, Warned messages r.execution → ∃ more, Warned (messages ++ more) r'.execution

section
variable {W α : Type}

theorem warns_of_execution {r r' : Running W} (h : r'.execution = r.execution) : Warns r r' :=
  fun messages hw => ⟨[], by rwa [List.append_nil, h]⟩

theorem warns_refl (r : Running W) : Warns r r := warns_of_execution rfl

theorem warns_trans (a b c : Running W) (hab : Warns a b) (hbc : Warns b c) : Warns a c := by
  intro messages h
  obtain ⟨more, h⟩ := hab messages h
  obtain ⟨rest, h⟩ := hbc _ h
  exact ⟨more ++ rest, by rwa [← List.append_assoc]⟩

theorem warns_bind {x : Run W α} {β : Type} {f : α → Run W β} (hx : Keeps Warns x)
    (hf : ∀ a, Keeps Warns (f a)) : Keeps Warns (x >>= f) := Keeps.bind warns_trans hx hf

theorem warns_call (op : W → Reply W α) : Keeps Warns (call op) := fun _ => warns_of_execution rfl

theorem warns_callOk (op : W → Reply W (Except Error α)) : Keeps Warns (callOk op) :=
  warns_bind (warns_call op) fun r => Keeps.lift warns_refl r

/-- A change of the other counters. -/
theorem warns_change {f : Execution → Execution}
    (h : ∀ e, (f e).warnings = e.warnings ∧ (f e).omittedWarnings = e.omittedWarnings ∧
      (f e).seenWarnings = e.seenWarnings) : Keeps Warns (change f : Run W Unit) := by
  intro r messages hw
  obtain ⟨hwarnings, homitted, hseen⟩ := h r.execution
  refine ⟨[], ?_⟩
  rw [List.append_nil]
  constructor
  · intro m
    show m ∈ (f r.execution).seenWarnings ↔ _
    rw [hseen]
    exact hw.seen m
  · exact hwarnings.trans hw.warnings
  · exact homitted.trans hw.omitted

theorem warns_warn (m : Str) : Keeps Warns (change fun e => e.warn m : Run W Unit) :=
  fun _ _ hw => ⟨[m], hw.warn m⟩

theorem warns_when {c : Bool} {x : Run W Unit} (hx : Keeps Warns x) :
    Keeps Warns (Act.when c x) := by
  cases c with
  | true => exact hx
  | false => exact Keeps.pure warns_refl ()

theorem warns_ite {c : Prop} [Decidable c] {x y : Run W α} (hx : Keeps Warns x)
    (hy : Keeps Warns y) : Keeps Warns (if c then x else y) := by
  by_cases h : c
  · rwa [if_pos h]
  · rwa [if_neg h]

theorem warns_completed : Keeps Warns (completed : Run W Nat) := warns_refl

theorem warns_isCancelled : Keeps Warns (isCancelled : Run W Bool) := warns_refl

theorem warns_count (failed : Bool) : Keeps Warns (countMeasurement failed : Run W Unit) :=
  warns_bind (warns_change fun _ => ⟨rfl, rfl, rfl⟩) fun _ =>
    warns_when (warns_change fun _ => ⟨rfl, rfl, rfl⟩)

section
variable [Json.FloatText]

theorem warns_warnAll (value : Json) : Keeps Warns (warnAll value : Run W Unit) :=
  Keeps.forEach warns_refl warns_trans _ fun m _ => warns_warn m

theorem warns_degrade (value : Json) : Keeps Warns (degrade value : Run W Unit) :=
  warns_bind (warns_change fun _ => ⟨rfl, rfl, rfl⟩) fun _ => warns_warnAll value

variable [Package] [Host] (engines : Engines W)

theorem warns_record (value : Json) (failed : Bool) :
    Keeps Warns (record engines value failed) := by
  refine warns_bind (warns_count failed) fun _ => ?_
  refine warns_bind (warns_when (warns_warnAll value)) fun _ => ?_
  refine warns_bind warns_completed fun n => warns_bind (warns_callOk _) fun _ => ?_
  exact warns_bind warns_completed fun n => warns_call _

variable [FloatDisplay]

theorem warns_measureTest (config : Throughput.SuiteConfig) (thresholds : Thresholds)
    (spec : Throughput.TestSpec) (saturated : Saturated) :
    Keeps Warns (measureTest engines config thresholds spec saturated) := by
  refine warns_ite ?_ (warns_bind (warns_call _) fun result => ?_)
  · exact warns_bind (warns_change fun _ => ⟨rfl, rfl, rfl⟩) fun _ => Keeps.pure warns_refl _
  · cases result with
    | ok result =>
      refine warns_bind (warns_when (warns_change fun _ => ⟨rfl, rfl, rfl⟩)) fun _ => ?_
      exact warns_bind (warns_record engines _ _) fun _ => Keeps.pure warns_refl _
    | error error =>
      refine warns_ite (Keeps.fail warns_refl error) ?_
      exact warns_bind (warns_record engines _ _) fun _ => Keeps.pure warns_refl _

theorem warns_eachTest (config : Throughput.SuiteConfig) (thresholds : Thresholds)
    (tests : List Throughput.TestSpec) (saturated : Saturated) :
    Keeps Warns (eachTest engines config thresholds tests saturated) := by
  induction tests generalizing saturated with
  | nil => exact Keeps.pure warns_refl ()
  | cons spec tests ih =>
    refine warns_bind warns_isCancelled fun cancelled => ?_
    refine warns_ite (Keeps.pure warns_refl ()) ?_
    exact warns_bind (warns_measureTest engines config thresholds spec saturated) ih

theorem warns_runThroughput (plan : Throughput.ThroughputPlan) (thresholds : Thresholds) :
    Keeps Warns (runThroughput engines plan thresholds) := by
  refine warns_bind warns_completed fun _ => warns_bind (warns_call _) fun _ => ?_
  refine warns_bind (warns_callOk _) fun (resolved, preflight) => ?_
  refine warns_bind warns_completed fun _ => warns_bind (warns_callOk _) fun _ => ?_
  refine warns_bind (Keeps.lift warns_refl _) fun _ => ?_
  exact warns_eachTest engines _ thresholds _ []

omit [FloatDisplay] in
theorem warns_measureBasic (settings : Path.BasicSettings) (item : Path.BasicPlanItem) :
    Keeps Warns (measureBasic engines settings item) := by
  refine warns_bind (warns_call _) fun result => ?_
  cases result with
  | error error => exact warns_record engines _ true
  | ok result =>
    exact warns_bind (warns_when (warns_degrade _)) fun _ => warns_record engines _ _

omit [FloatDisplay] in
theorem warns_measureTrace (settings : Path.TraceSettings) (item : Path.TracePlanItem) :
    Keeps Warns (measureTrace engines settings item) := by
  refine warns_bind (warns_call _) fun result => ?_
  cases result with
  | error error => exact warns_record engines _ true
  | ok result =>
    exact warns_bind (warns_when (warns_degrade _)) fun _ => warns_record engines _ _

omit [Json.FloatText] [Package] [Host] [FloatDisplay] in
theorem warns_eachItem {Item : Type} {measure : Item → Run W Unit}
    (h : ∀ item, Keeps Warns (measure item)) (items : List Item) :
    Keeps Warns (eachItem measure items) := by
  induction items with
  | nil => exact Keeps.pure warns_refl ()
  | cons item items ih =>
    refine warns_bind warns_isCancelled fun cancelled => ?_
    exact warns_ite (Keeps.pure warns_refl ()) (warns_bind (h item) fun _ => ih)

theorem warns_runStage (stage : Stage) : Keeps Warns (runStage engines stage) := by
  cases stage with
  | throughput plan thresholds => exact warns_runThroughput engines plan thresholds
  | pathBasic plan settings => exact warns_eachItem (warns_measureBasic engines settings) _
  | pathTrace plan settings => exact warns_eachItem (warns_measureTrace engines settings) _
  | tuning plan hash =>
    exact warns_bind (warns_callOk _) fun result => warns_record engines _ _

end

omit α in
theorem warns_unlessCancelled {x : Run W Unit} (h : Keeps Warns x) :
    Keeps Warns (unlessCancelled x) :=
  warns_bind warns_isCancelled fun _ => warns_ite (Keeps.fail warns_refl _) h

end

section
variable {W : Type} [FloatDisplay] [Package] [Host] [Refusals] [Helper.Crates]
  (engines : Engines W)

theorem warns_runSingle (req : Request) : Keeps Warns (runSingle engines req) :=
  warns_unlessCancelled (warns_bind (Keeps.lift warns_refl _) fun stage =>
    warns_runStage engines stage)

/-- Whatever a run does, it warned of some messages. -/
theorem run_warned (req : Request) (preview : Preview) (cancelled : Bool) (world : W) :
    ∃ messages, Warned messages (run engines req preview (.start cancelled world)).2.execution := by
  have hrun : Keeps Warns (run engines req preview) := by
    cases preview with
    | single p => exact warns_runSingle engines req
    | workflow w =>
      exact warns_unlessCancelled (Keeps.forEach warns_refl warns_trans _ fun step _ =>
        warns_runSingle engines (stageRequest step))
  exact hrun (.start cancelled world) [] Warned.new

/-- Whatever is warned of and whatever stops the run, what is reported is what is to be reported,
exactly when the error that stopped the run is not among the messages left out.  Every run reports
what some messages and its own ending give. -/
theorem warnings_reported_iff :
    (∀ (messages : List Str) (result : Except Error Unit),
      ((messages.foldl Execution.warn Execution.new).finish result).warnings =
          reported messages (stopMessage result) ↔
        Reportable messages (stopMessage result)) ∧
    ∀ (req : Request) (preview : Preview) (cancelled : Bool) (world : W),
      let ended := run engines req preview (.start cancelled world)
      ∃ messages : List Str, (ended.2.execution.finish ended.1).warnings =
        ((messages.foldl Execution.warn Execution.new).finish ended.1).warnings := by
  constructor
  · intro messages result
    exact (Warned.new.foldl messages).finish_iff result
  · intro req preview cancelled world
    obtain ⟨messages, h⟩ := run_warned engines req preview cancelled world
    exact ⟨messages, h.finish_congr (Warned.new.foldl messages) _⟩

end

/-- One message more than a run keeps. -/
def tooMany : List Str := (List.range 21).map fun n => "h: ".toList ++ decimal n

/-- The error of the last one is only counted. -/
theorem stop_left_out : ¬ ∀ (messages : List Str) (result : Except Error Unit),
    ((messages.foldl Execution.warn Execution.new).finish result).warnings =
      reported messages (stopMessage result) := by
  intro h
  have hmem : "h: 20".toList ∈ ((tooMany.foldl Execution.warn Execution.new).finish
      (.error (.new .internal "h: 20"))).warnings := by
    rw [h]
    exact mem_reported_stop tooMany _
  revert hmem
  decide +kernel

end NetworkLantern.Runtime
