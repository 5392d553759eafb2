import NetworkLantern.Lib.Runs
import NetworkLantern.Runtime.Contracts
import Mathlib.Data.List.Nodup

/-!
# The run manager

One measurement is active at a time.  `RunManager` is the state behind the
manager's lock, and each of its functions is one section under that lock.  A
`Session` adds what outlives a run: the handles that were given out, and the
records that a later `begin` has replaced.

    manager_sound   the invariant of every session
    run_ended       a finished run stays finished
    step_frame      a call leaves every other run alone
-/

namespace NetworkLantern.Runtime

open NetworkLantern

inductive RunState
  | running | cancelling | succeeded | partialFailure | failed | cancelled
deriving DecidableEq, Repr

/-- The final state of a run that ended with a process status. -/
def RunState.fromExitCode (code : UInt8) (isPartial : Bool) : RunState :=
  if code = Exit.SUCCESS then .succeeded
  else if code = Exit.PARTIAL_FAILURE then .partialFailure
  else if Exit.isInterrupted code then .cancelled
  else if isPartial then .partialFailure
  else .failed

def RunState.isActive : RunState → Bool
  | .running | .cancelling => true
  | .succeeded | .partialFailure | .failed | .cancelled => false

structure Progress where
  runId : Str
  startedUtc : Str
  state : RunState
  completed : Nat
  total : Nat
  logs : List Str
  exitCode : Option UInt8
  reportPath : Option Str
deriving DecidableEq, Repr

structure Active where
  progress : Progress
  /-- In milliseconds. -/
  lastPublish : Nat
deriving DecidableEq, Repr

/-- The record under the lock, the snapshot that watchers see, and the tokens
that are cancelled, each named by its run. -/
structure RunManager where
  active : Option Active
  updates : Option Progress
  cancelledTokens : List Str
deriving DecidableEq, Repr

def RunManager.default : RunManager := ⟨none, none, []⟩

structure RunHandle where
  runId : Str
  finished : Bool
deriving DecidableEq, Repr

/-! ## The code -/

namespace RunManager

/-- `inner.active.as_mut().filter(|a| a.progress.run_id == id)`. -/
def owned (m : RunManager) (id : Str) : Option Active :=
  m.active.filter fun a => a.progress.runId == id

/-- Starts the run `id`, the identifier that `new_run_id` returned. -/
def begin (m : RunManager) (total : Nat) (id started : Str) (now : Nat) :
    Except Error RunManager :=
  if m.active.any fun a => a.progress.state.isActive then
    .error (Error.new .busy "A measurement is already active")
  else
    let progress : Progress :=
      { runId := id, startedUtc := started, state := .running, completed := 0, total,
        logs := [], exitCode := none, reportPath := none }
    .ok { m with updates := some progress, active := some ⟨progress, now⟩ }

def snapshot (m : RunManager) : Option Progress := m.active.map Active.progress

def cancel (m : RunManager) (id : Str) : Except Error RunManager :=
  match m.owned id with
  | none => .error (Error.new .validation "Run ID is not active")
  | some active =>
    if active.progress.state.isActive then
      let progress := { active.progress with state := .cancelling }
      .ok { active := some { active with progress }, updates := some progress,
            cancelledTokens := id :: m.cancelledTokens }
    else .ok m

/-- Records an error that ended a run before its summary. -/
def failure (m : RunManager) (id : Str) (error : Error) (throughput : Bool) : RunManager :=
  match m.owned id with
  | none => m
  | some active =>
    let logs := active.progress.logs ++ [boundedText error.message 256]
    let logs := if logs.length > 64 then logs.tail else logs
    let progress :=
      { active.progress with
        logs, state := .failed, exitCode := some (Exit.forError throughput error.category) }
    { m with active := some { active with progress }, updates := some progress }

def cancelActive (m : RunManager) : RunManager :=
  match m.snapshot with
  | none => m
  | some p =>
    match m.cancel p.runId with
    | .ok m' => m'
    | .error _ => m

/-- The line that `progress` logs, if it comes with one. -/
def logLine (logs : List Str) : Option Str → List Str
  | none => logs
  | some message =>
    (if logs.length = 64 then logs.tail else logs) ++ [boundedText message 256]

/-- `RunHandle::progress` through the handle of run `id`. -/
def progress (m : RunManager) (id : Str) (completed : Nat) (message : Option Str) (now : Nat) :
    RunManager :=
  match m.owned id with
  | none => m
  | some active =>
    let progress :=
      { active.progress with
        completed := min completed active.progress.total
        logs := logLine active.progress.logs message }
    if now - active.lastPublish ≥ 100 then
      { m with active := some ⟨progress, now⟩, updates := some progress }
    else { m with active := some { active with progress } }

def complete (m : RunManager) (id : Str) (code : UInt8) (path : Option Str) (isPartial : Bool) :
    RunManager :=
  match m.owned id with
  | none => m
  | some active =>
    let progress :=
      { active.progress with
        state := RunState.fromExitCode code isPartial, exitCode := some code, reportPath := path }
    { m with active := some { active with progress }, updates := some progress }

/-- `self.cancel.cancel()` on the token of run `id`. -/
def cancelToken (m : RunManager) (id : Str) : RunManager :=
  { m with cancelledTokens := id :: m.cancelledTokens }

def isCancelled (m : RunManager) (id : Str) : Bool := m.cancelledTokens.contains id

/-- The status that a dropped handle reports. -/
def dropCode (m : RunManager) (id : Str) : UInt8 :=
  if m.isCancelled id then Exit.CANCELLED else Exit.INTERNAL

/-- `Drop for RunHandle`. -/
def dropHandle (m : RunManager) (handle : RunHandle) : RunManager :=
  if handle.finished then m
  else (m.cancelToken handle.runId).complete handle.runId (m.dropCode handle.runId) none false

end RunManager

/-! ## Sessions -/

/-- A manager with the handles that were given out and the records that `begin`
has replaced.  A handle that was consumed stays with `finished` set, and calls
through it are let in as well. -/
structure Session where
  manager : RunManager
  handles : List RunHandle
  past : List Progress
deriving DecidableEq, Repr

def Session.init : Session := ⟨RunManager.default, [], []⟩

inductive Call
  | begin (total : Nat) (id started : Str) (now : Nat)
  | cancel (id : Str)
  | cancelActive
  | progress (handle : Str) (completed : Nat) (message : Option Str) (now : Nat)
  | finish (handle : Str) (code : UInt8) (path : Option Str)
  | finishOutcome (handle : Str) (code : UInt8) (path : Option Str) (isPartial : Bool)
  | drop (handle : Str)
  | failure (id : Str) (error : Error) (throughput : Bool)
deriving DecidableEq, Repr

namespace Session

/-- Every run of the session, the current one first. -/
def runs (s : Session) : List Progress := s.manager.snapshot.toList ++ s.past

def record (s : Session) (id : Str) : Option Progress := s.runs.find? fun p => p.runId == id

def activeRuns (s : Session) : List Progress := s.runs.filter fun p => p.state.isActive

def liveHandles (s : Session) : List RunHandle := s.handles.filter fun h => !h.finished

def handle (s : Session) (id : Str) : Option RunHandle := s.handles.find? fun h => h.runId == id

/-- The handle is consumed. -/
def close (s : Session) (id : Str) : Session :=
  { s with handles := s.handles.map fun h => if h.runId = id then { h with finished := true } else h }

/-- One call.  A new run has an identifier that no run had, a call through a
handle needs one that was given out, and a failure is reported only once the
handle of the run is consumed. -/
def step (s : Session) : Call → Option Session
  | .begin total id started now =>
    if s.runs.any fun p => p.runId == id then none
    else
      match s.manager.begin total id started now with
      | .ok m => some ⟨m, ⟨id, false⟩ :: s.handles, s.runs⟩
      | .error _ => some s
  | .cancel id =>
    match s.manager.cancel id with
    | .ok m => some { s with manager := m }
    | .error _ => some s
  | .cancelActive => some { s with manager := s.manager.cancelActive }
  | .progress id completed message now =>
    (s.handle id).map fun _ => { s with manager := s.manager.progress id completed message now }
  | .finish id code path =>
    (s.handle id).map fun _ => { s with manager := s.manager.complete id code path false }.close id
  | .finishOutcome id code path isPartial =>
    (s.handle id).map fun _ =>
      { s with manager := s.manager.complete id code path isPartial }.close id
  | .drop id =>
    (s.handle id).map fun h => { s with manager := s.manager.dropHandle h }.close id
  | .failure id error throughput =>
    if s.liveHandles.any fun h => h.runId == id then none
    else some { s with manager := s.manager.failure id error throughput }

end Session

/-! ## What one section under the lock does -/

/-- The bounds of a record: counters within the total, at most 64 lines of at
most 256 bytes of UTF-8. -/
structure Progress.Bounded (p : Progress) : Prop where
  completed : p.completed ≤ p.total
  lines : p.logs.length ≤ 64
  line : ∀ l ∈ p.logs, l.bytes.length ≤ 256 ∧ Str.fromUtf8 l.bytes = some l

/-- The run whose record is active, if there is one. -/
def RunManager.activeId (m : RunManager) : Option Str :=
  (m.snapshot.filter fun p => p.state.isActive).map Progress.runId

/-- A section on behalf of run `id`: at most the record and the token of this
run change, and a finished record stays finished. -/
structure RunManager.Acts (id : Str) (m m' : RunManager) : Prop where
  record : m'.snapshot = m.snapshot ∨
    ∃ p p', m.snapshot = some p ∧ m'.snapshot = some p' ∧ p.runId = id ∧ p'.runId = id ∧
      (p.Bounded → p'.Bounded) ∧ (p.state.isActive = false → p'.state.isActive = false)
  tokens : ∀ other, other ≠ id → (other ∈ m'.cancelledTokens ↔ other ∈ m.cancelledTokens)
  kept : ∀ r ∈ m.cancelledTokens, r ∈ m'.cancelledTokens
  updates : m'.updates = m.updates ∨ m'.updates = m'.snapshot

namespace RunManager

variable {m : RunManager} {id : Str}

theorem owned_some {a : Active} :
    m.owned id = some a ↔ m.active = some a ∧ a.progress.runId = id := by
  unfold owned
  rw [Option.filter_eq_some_iff, beq_iff_eq]

theorem owned_none : m.owned id = none ↔ ∀ a, m.active = some a → a.progress.runId ≠ id := by
  unfold owned
  rw [Option.filter_eq_none_iff]
  simp only [beq_iff_eq]

theorem snapshot_of_owned {a : Active} (h : m.owned id = some a) :
    m.snapshot = some a.progress ∧ a.progress.runId = id := by
  obtain ⟨ha, hid⟩ := owned_some.mp h
  refine ⟨?_, hid⟩
  unfold snapshot
  rw [ha]
  rfl

/-- The snapshot of a manager that does not own a run is of another one. -/
theorem runId_ne_of_owned {p : Progress} (h : m.owned id = none) (hp : m.snapshot = some p) :
    p.runId ≠ id := by
  obtain ⟨a, ha, rfl⟩ := Option.map_eq_some_iff.mp hp
  exact owned_none.mp h a ha

theorem Acts.refl (id : Str) (m : RunManager) : Acts id m m :=
  ⟨.inl rfl, fun _ _ => Iff.rfl, fun _ h => h, .inl rfl⟩

theorem activeId_eq_some {r : Str} :
    m.activeId = some r ↔ ∃ p, m.snapshot = some p ∧ p.state.isActive = true ∧ p.runId = r := by
  simp only [activeId, Option.map_eq_some_iff, Option.filter_eq_some_iff, and_assoc]

theorem activeId_of_snapshot {p : Progress} (h : m.snapshot = some p) :
    m.activeId = if p.state.isActive then some p.runId else none := by
  unfold activeId
  rw [h]
  cases hp : p.state.isActive <;> simp [Option.filter, hp]

theorem activeId_of_none (h : m.snapshot = none) : m.activeId = none := by
  unfold activeId
  rw [h]
  rfl

/-- A line that `bounded_text` cut is within the bounds of a record. -/
theorem line_bounded (text : Str) :
    (boundedText text 256).bytes.length ≤ 256 ∧
      Str.fromUtf8 (boundedText text 256).bytes = some (boundedText text 256) := by
  rw [Str.length_bytes]
  exact ⟨byteLen_boundedText_le text 256, Str.fromUtf8_bytes _⟩

theorem begin_eq_ok {m' : RunManager} {total now : Nat} {started : Str}
    (h : m.begin total id started now = .ok m') :
    m.activeId = none ∧ m'.cancelledTokens = m.cancelledTokens ∧ m'.updates = m'.snapshot ∧
      ∃ p, m'.snapshot = some p ∧ p.runId = id ∧ p.state = .running ∧ p.Bounded := by
  unfold begin at h
  split at h
  · cases h
  · rename_i hidle
    cases h
    refine ⟨?_, rfl, rfl, _, rfl, rfl, rfl, ⟨Nat.zero_le _, Nat.zero_le _, by simp⟩⟩
    cases ha : m.active with
    | none => exact activeId_of_none (by simp [snapshot, ha])
    | some a =>
      rw [activeId_of_snapshot (by simp [snapshot, ha] : m.snapshot = some a.progress)]
      simp only [ha, Option.any_some, Bool.not_eq_true] at hidle
      simp [hidle]

theorem cancel_eq_ok {m' : RunManager} (h : m.cancel id = .ok m') :
    Acts id m m' ∧ m'.activeId = m.activeId ∧
      (m.activeId = some id → id ∈ m'.cancelledTokens ∧
        ∃ p, m'.snapshot = some p ∧ p.runId = id ∧ p.state = .cancelling) := by
  unfold cancel at h
  split at h
  · cases h
  · rename_i a howned
    obtain ⟨hsnap, hid⟩ := snapshot_of_owned howned
    split at h
    · rename_i hactive
      cases h
      refine ⟨⟨.inr ⟨a.progress, _, hsnap, rfl, hid, hid, fun hb => ?_, fun hoff => ?_⟩, ?_,
        fun r hr => List.mem_cons_of_mem id hr, .inr rfl⟩, ?_, fun _ => ⟨List.mem_cons_self, _, rfl, hid, rfl⟩⟩
      · exact ⟨hb.completed, hb.lines, hb.line⟩
      · rw [hactive] at hoff; cases hoff
      · intro other hne
        simp [hne]
      · rw [activeId_of_snapshot hsnap, if_pos hactive]
        rfl
    · rename_i hidle
      cases h
      refine ⟨Acts.refl id m, rfl, fun hact => ?_⟩
      rw [activeId_of_snapshot hsnap, if_neg hidle] at hact
      cases hact

theorem logLine_bounded {logs : List Str} (message : Option Str) (hlen : logs.length ≤ 64)
    (hline : ∀ l ∈ logs, l.bytes.length ≤ 256 ∧ Str.fromUtf8 l.bytes = some l) :
    (logLine logs message).length ≤ 64 ∧
      ∀ l ∈ logLine logs message, l.bytes.length ≤ 256 ∧ Str.fromUtf8 l.bytes = some l := by
  cases message with
  | none => exact ⟨hlen, hline⟩
  | some message =>
    unfold logLine
    constructor
    · rw [List.length_append]
      split
      · simp only [List.length_tail, List.length_singleton]
        omega
      · simp only [List.length_singleton]
        omega
    · intro l hl
      rcases List.mem_append.mp hl with hl | hl
      · split at hl
        · exact hline l (List.mem_of_mem_tail hl)
        · exact hline l hl
      · rw [List.mem_singleton.mp hl]
        exact line_bounded message

theorem progress_acts (m : RunManager) (id : Str) (completed : Nat) (message : Option Str)
    (now : Nat) :
    Acts id m (m.progress id completed message now) ∧
      (m.progress id completed message now).activeId = m.activeId := by
  unfold progress
  cases howned : m.owned id with
  | none => exact ⟨Acts.refl id m, rfl⟩
  | some a =>
    obtain ⟨hsnap, hid⟩ := snapshot_of_owned howned
    have hbounded : a.progress.Bounded → Progress.Bounded
        { a.progress with
          completed := min completed a.progress.total
          logs := logLine a.progress.logs message } := by
      intro hb
      have hlog := logLine_bounded message hb.lines hb.line
      exact ⟨Nat.min_le_right _ _, hlog.1, hlog.2⟩
    -- whether or not it publishes, the record is the same
    have hactive : ∀ m' : RunManager, m'.snapshot = some
        { a.progress with
          completed := min completed a.progress.total
          logs := logLine a.progress.logs message } → m'.activeId = m.activeId := by
      intro m' hm'
      rw [activeId_of_snapshot hsnap, activeId_of_snapshot hm']
    dsimp only
    split
    · exact ⟨⟨.inr ⟨_, _, hsnap, rfl, hid, hid, hbounded, fun h => h⟩, fun _ _ => Iff.rfl,
        fun _ h => h, .inr rfl⟩, hactive _ rfl⟩
    · exact ⟨⟨.inr ⟨_, _, hsnap, rfl, hid, hid, hbounded, fun h => h⟩, fun _ _ => Iff.rfl,
        fun _ h => h, .inl rfl⟩, hactive _ rfl⟩

/-- The identifier of the active run once run `id` has ended. -/
def afterEnd (m : RunManager) (id : Str) : Option Str := m.activeId.filter fun r => r != id

theorem activeId_ended {m' : RunManager} {p p' : Progress} (hsnap : m.snapshot = some p)
    (hid : p.runId = id) (hsnap' : m'.snapshot = some p') (hend : p'.state.isActive = false) :
    m'.activeId = m.afterEnd id := by
  unfold afterEnd
  rw [activeId_of_snapshot hsnap', hend, activeId_of_snapshot hsnap, hid]
  cases p.state.isActive <;> simp [Option.filter]

theorem activeId_other (h : m.owned id = none) : m.activeId = m.afterEnd id := by
  unfold afterEnd
  cases hr : m.activeId with
  | none => rfl
  | some r =>
    obtain ⟨p, hp, -, rfl⟩ := activeId_eq_some.mp hr
    obtain ⟨a, ha, rfl⟩ := Option.map_eq_some_iff.mp hp
    have hne := owned_none.mp h a ha
    simp [Option.filter, hne]

theorem isActive_fromExitCode (code : UInt8) (isPartial : Bool) :
    (RunState.fromExitCode code isPartial).isActive = false := by
  unfold RunState.fromExitCode
  repeat' split
  all_goals rfl

theorem complete_acts (m : RunManager) (id : Str) (code : UInt8) (path : Option Str)
    (isPartial : Bool) :
    Acts id m (m.complete id code path isPartial) ∧
      (m.complete id code path isPartial).activeId = m.afterEnd id := by
  unfold complete
  cases howned : m.owned id with
  | none => exact ⟨Acts.refl id m, activeId_other howned⟩
  | some a =>
    obtain ⟨hsnap, hid⟩ := snapshot_of_owned howned
    have hend := isActive_fromExitCode code isPartial
    refine ⟨⟨.inr ⟨_, _, hsnap, rfl, hid, hid, fun hb => ?_, fun _ => hend⟩, fun _ _ => Iff.rfl,
      fun _ h => h, .inr rfl⟩, activeId_ended hsnap hid rfl hend⟩
    exact ⟨hb.completed, hb.lines, hb.line⟩

theorem failure_acts (m : RunManager) (id : Str) (error : Error) (throughput : Bool) :
    Acts id m (m.failure id error throughput) ∧
      (m.failure id error throughput).activeId = m.afterEnd id := by
  unfold failure
  cases howned : m.owned id with
  | none => exact ⟨Acts.refl id m, activeId_other howned⟩
  | some a =>
    obtain ⟨hsnap, hid⟩ := snapshot_of_owned howned
    refine ⟨⟨.inr ⟨_, _, hsnap, rfl, hid, hid, fun hb => ⟨hb.completed, ?_, ?_⟩, fun _ => rfl⟩,
      fun _ _ => Iff.rfl, fun _ h => h, .inr rfl⟩, activeId_ended hsnap hid rfl rfl⟩
    · have hlines := hb.lines
      dsimp only
      split
      · rw [List.length_tail, List.length_append, List.length_singleton]
        omega
      · omega
    · have hline : ∀ l ∈ a.progress.logs ++ [boundedText error.message 256],
          l.bytes.length ≤ 256 ∧ Str.fromUtf8 l.bytes = some l := by
        intro l hl
        rcases List.mem_append.mp hl with hl | hl
        · exact hb.line l hl
        · rw [List.mem_singleton.mp hl]
          exact line_bounded error.message
      intro l hl
      dsimp only at hl
      split at hl
      · exact hline l (List.mem_of_mem_tail hl)
      · exact hline l hl

theorem cancelToken_acts (m : RunManager) (id : Str) :
    Acts id m (m.cancelToken id) ∧ (m.cancelToken id).activeId = m.activeId := by
  refine ⟨⟨.inl rfl, fun other hne => ?_, fun r hr => List.mem_cons_of_mem id hr, .inl rfl⟩, rfl⟩
  unfold cancelToken
  rw [List.mem_cons]
  exact or_iff_right hne

theorem Acts.trans {m' m'' : RunManager} (h : Acts id m m') (h' : Acts id m' m'')
    (hup : m'.updates = m.updates) : Acts id m m'' := by
  refine ⟨?_, fun other hne => (h'.tokens other hne).trans (h.tokens other hne),
    fun r hr => h'.kept r (h.kept r hr), ?_⟩
  · rcases h'.record with heq | ⟨p', p'', hp', hp'', hr', hr'', hb', ht'⟩
    · rw [heq]
      exact h.record
    · rcases h.record with heq | ⟨p, q, hp, hq, hr, -, hb, ht⟩
      · exact .inr ⟨p', p'', heq ▸ hp', hp'', hr', hr'', hb', ht'⟩
      · obtain rfl : q = p' := Option.some.inj (hq.symm.trans hp')
        exact .inr ⟨p, p'', hp, hp'', hr, hr'', hb' ∘ hb, ht' ∘ ht⟩
  · rw [← hup]
    exact h'.updates

theorem dropHandle_acts (m : RunManager) (handle : RunHandle) :
    Acts handle.runId m (m.dropHandle handle) ∧
      (m.dropHandle handle).activeId =
        if handle.finished then m.activeId else m.afterEnd handle.runId := by
  unfold dropHandle
  cases handle.finished with
  | true => exact ⟨Acts.refl _ m, rfl⟩
  | false =>
    have htok := cancelToken_acts m handle.runId
    have hdone := complete_acts (m.cancelToken handle.runId) handle.runId
      (m.dropCode handle.runId) none false
    exact ⟨htok.1.trans hdone.1 rfl, hdone.2⟩

/-! ### The state of the record afterwards -/

theorem cancel_state {m' : RunManager} (h : m.cancel id = .ok m') {p : Progress}
    (hp : m'.snapshot = some p) :
    m.snapshot = some p ∨ p.state = .cancelling ∧ p.runId = id ∧ id ∈ m'.cancelledTokens := by
  unfold cancel at h
  split at h
  · cases h
  · rename_i a howned
    split at h
    · cases h
      cases hp
      exact .inr ⟨rfl, (owned_some.mp howned).2, List.mem_cons_self⟩
    · cases h
      exact .inl hp

theorem cancelActive_state {p : Progress} (hp : m.cancelActive.snapshot = some p) :
    m.snapshot = some p ∨ p.state = .cancelling ∧ p.runId ∈ m.cancelActive.cancelledTokens := by
  unfold cancelActive at hp ⊢
  split at hp
  · exact .inl hp
  · split at hp
    · rename_i hc
      rcases cancel_state hc hp with h | ⟨hstate, hid, hmem⟩
      · exact .inl h
      · exact .inr ⟨hstate, hid ▸ hmem⟩
    · exact .inl hp

theorem progress_state {completed now : Nat} {message : Option Str} {p : Progress}
    (hp : (m.progress id completed message now).snapshot = some p) :
    ∃ q, m.snapshot = some q ∧ q.runId = p.runId ∧ q.state = p.state := by
  unfold progress at hp
  cases howned : m.owned id with
  | none =>
    rw [howned] at hp
    exact ⟨p, hp, rfl, rfl⟩
  | some a =>
    rw [howned] at hp
    obtain ⟨hsnap, -⟩ := snapshot_of_owned howned
    dsimp only at hp
    split at hp <;> cases hp <;> exact ⟨_, hsnap, rfl, rfl⟩

theorem complete_state {code : UInt8} {path : Option Str} {isPartial : Bool} {p : Progress}
    (hp : (m.complete id code path isPartial).snapshot = some p) (hid : p.runId = id) :
    p.state = RunState.fromExitCode code isPartial := by
  unfold complete at hp
  cases howned : m.owned id with
  | none =>
    rw [howned] at hp
    exact absurd hid (runId_ne_of_owned howned hp)
  | some a =>
    rw [howned] at hp
    cases hp
    rfl

theorem complete_snapshot (code : UInt8) (path : Option Str) (isPartial : Bool) {p : Progress}
    (hp : m.snapshot = some p) (hid : p.runId = id) :
    ∃ q, (m.complete id code path isPartial).snapshot = some q ∧ q.runId = id ∧
      q.state = RunState.fromExitCode code isPartial := by
  obtain ⟨a, ha, rfl⟩ := Option.map_eq_some_iff.mp hp
  unfold complete
  rw [owned_some.mpr ⟨ha, hid⟩]
  exact ⟨_, rfl, hid, rfl⟩

theorem failure_state {error : Error} {throughput : Bool} {p : Progress}
    (hp : (m.failure id error throughput).snapshot = some p) (hid : p.runId = id) :
    p.state = .failed := by
  unfold failure at hp
  cases howned : m.owned id with
  | none =>
    rw [howned] at hp
    exact absurd hid (runId_ne_of_owned howned hp)
  | some a =>
    rw [howned] at hp
    cases hp
    rfl

theorem cancelActive_acts (m : RunManager) :
    (∀ p, m.snapshot = some p → Acts p.runId m m.cancelActive) ∧
      (m.snapshot = none → m.cancelActive = m) ∧ m.cancelActive.activeId = m.activeId := by
  unfold cancelActive
  cases hs : m.snapshot with
  | none => exact ⟨fun p hp => by (cases hp), fun _ => rfl, rfl⟩
  | some p =>
    dsimp only
    cases hc : m.cancel p.runId with
    | error e => exact ⟨fun q _ => Acts.refl q.runId m, fun hnone => by (cases hnone), rfl⟩
    | ok m' =>
      have h := cancel_eq_ok hc
      refine ⟨fun q hq => ?_, fun hnone => by (cases hnone), h.2.1⟩
      cases hq
      exact h.1

end RunManager

/-! ## What one call does -/

namespace Session

variable {s s' : Session} {c : Call}

/-- The run that a call is about. -/
def subject (s : Session) : Call → Option Str
  | .begin _ id _ _ => some id
  | .cancelActive => s.manager.snapshot.map Progress.runId
  | .cancel id | .progress id _ _ _ | .finish id _ _ | .finishOutcome id _ _ _ | .drop id
  | .failure id _ _ => some id

/-- The invariant of a session.  `live` ties the handle that is still open to
the record that is still active. -/
structure Inv (s : Session) : Prop where
  bounded : ∀ p ∈ s.runs, p.Bounded
  published : ∀ p ∈ s.manager.updates, p.Bounded
  past : ∀ p ∈ s.past, p.state.isActive = false
  known : ∀ h ∈ s.handles, ∃ p ∈ s.runs, p.runId = h.runId
  unique : (s.handles.map RunHandle.runId).Nodup
  live : s.liveHandles.map RunHandle.runId = s.manager.activeId.toList

theorem init_inv : Inv init where
  bounded p hp := by cases hp
  published p hp := by cases hp
  past p hp := by cases hp
  known h hh := by cases hh
  unique := List.nodup_nil
  live := rfl

/-- What a call can do. -/
inductive Moves (s : Session) (c : Call) (s' : Session) : Prop
  | stayed (h : s' = s)
  | began (id : Str) (p : Progress) (hc : s.subject c = some id) (hnew : ∀ q ∈ s.runs, q.runId ≠ id)
      (hidle : s.manager.activeId = none) (hp : s'.manager.snapshot = some p) (hid : p.runId = id)
      (hrun : p.state = .running) (hb : p.Bounded) (hup : s'.manager.updates = s'.manager.snapshot)
      (htok : s'.manager.cancelledTokens = s.manager.cancelledTokens)
      (hhandles : s'.handles = ⟨id, false⟩ :: s.handles) (hpast : s'.past = s.runs)
  | acted (id : Str) (hc : s.subject c = some id) (hacts : RunManager.Acts id s.manager s'.manager)
      (hactive : s'.manager.activeId = s.manager.activeId) (hhandles : s'.handles = s.handles)
      (hpast : s'.past = s.past)
  | closed (id : Str) (hc : s.subject c = some id) (hacts : RunManager.Acts id s.manager s'.manager)
      (hactive : s'.manager.activeId = s.manager.afterEnd id)
      (hhandles : s'.handles = (s.close id).handles) (hpast : s'.past = s.past)

theorem mem_live {h : RunHandle} : h ∈ s.liveHandles ↔ h ∈ s.handles ∧ h.finished = false := by
  unfold liveHandles
  rw [List.mem_filter, Bool.not_eq_true']

/-- The active run is the one whose handle is open. -/
theorem Inv.activeId_eq (hs : Inv s) {id : Str} (h : s.manager.activeId = some id) :
    ⟨id, false⟩ ∈ s.handles := by
  have hmem : id ∈ s.liveHandles.map RunHandle.runId := by
    rw [hs.live, h]
    exact List.mem_singleton_self id
  obtain ⟨⟨r, f⟩, hlive, rfl⟩ := List.mem_map.mp hmem
  obtain ⟨hin, hf⟩ := mem_live.mp hlive
  cases hf
  exact hin

theorem afterEnd_of_closed (hs : Inv s) {id : Str} (h : ⟨id, false⟩ ∉ s.handles) :
    s.manager.afterEnd id = s.manager.activeId := by
  unfold RunManager.afterEnd
  cases hr : s.manager.activeId with
  | none => rfl
  | some r =>
    have hne : r ≠ id := by
      rintro rfl
      exact h (hs.activeId_eq hr)
    simp [Option.filter, hne]

theorem handle_some {id : Str} {h : RunHandle} (hh : s.handle id = some h) :
    h ∈ s.handles ∧ h.runId = id := by
  have hrun := List.find?_some hh
  exact ⟨List.mem_of_find?_eq_some hh, by simpa using hrun⟩

/-- Closing a handle that is consumed changes nothing. -/
theorem close_of_finished (hs : Inv s) {id : Str} {h : RunHandle} (hh : s.handle id = some h)
    (hf : h.finished = true) : s.close id = s := by
  obtain ⟨hin, hid⟩ := handle_some hh
  have hmap : (s.handles.map fun h => if h.runId = id then { h with finished := true } else h) =
      s.handles := by
    conv => rhs; rw [← List.map_id s.handles]
    refine List.map_congr_left fun k hk => ?_
    by_cases hrun : k.runId = id
    · have hkh : k = h := List.inj_on_of_nodup_map hs.unique hk hin (hrun.trans hid.symm)
      rw [if_pos hrun, hkh, ← hf]
      rfl
    · rw [if_neg hrun]
      rfl
  unfold close
  rw [hmap]

theorem finished_of_not_live (hs : Inv s) {id : Str} {h : RunHandle} (hh : s.handle id = some h)
    (hf : h.finished = true) : ⟨id, false⟩ ∉ s.handles := by
  obtain ⟨hin, hid⟩ := handle_some hh
  intro hmem
  have heq : h = ⟨id, false⟩ := List.inj_on_of_nodup_map hs.unique hin hmem hid
  rw [heq] at hf
  cases hf

/-- Every call does one of the four things. -/
theorem step_cases (hs : Inv s) (h : s.step c = some s') : Moves s c s' := by
  cases c with
  | begin total id started now =>
    simp only [step] at h
    split at h
    · cases h
    · rename_i hnew
      split at h
      · rename_i m hm
        cases h
        obtain ⟨hidle, htok, hup, p, hp, hid, hrun, hb⟩ := RunManager.begin_eq_ok hm
        refine .began id p rfl (fun q hq hqid => hnew ?_) hidle hp hid hrun hb hup htok rfl rfl
        exact List.any_eq_true.mpr ⟨q, hq, by simpa using hqid⟩
      · cases h
        exact .stayed rfl
  | cancel id =>
    simp only [step] at h
    split at h
    · rename_i m hm
      cases h
      have hc := RunManager.cancel_eq_ok hm
      exact .acted id rfl hc.1 hc.2.1 rfl rfl
    · cases h
      exact .stayed rfl
  | cancelActive =>
    simp only [step, Option.some.injEq] at h
    subst h
    obtain ⟨hacts, hnone, hactive⟩ := RunManager.cancelActive_acts s.manager
    cases hp : s.manager.snapshot with
    | none => exact .stayed (by rw [hnone hp])
    | some p => exact .acted p.runId (by simp [subject, hp]) (hacts p hp) hactive rfl rfl
  | progress id completed message now =>
    obtain ⟨k, -, rfl⟩ := Option.map_eq_some_iff.mp h
    have hp := RunManager.progress_acts s.manager id completed message now
    exact .acted id rfl hp.1 hp.2 rfl rfl
  | finish id code path =>
    obtain ⟨k, -, rfl⟩ := Option.map_eq_some_iff.mp h
    have hp := RunManager.complete_acts s.manager id code path false
    exact .closed id rfl hp.1 hp.2 rfl rfl
  | finishOutcome id code path isPartial =>
    obtain ⟨k, -, rfl⟩ := Option.map_eq_some_iff.mp h
    have hp := RunManager.complete_acts s.manager id code path isPartial
    exact .closed id rfl hp.1 hp.2 rfl rfl
  | drop id =>
    obtain ⟨k, hk, rfl⟩ := Option.map_eq_some_iff.mp h
    obtain ⟨-, hid⟩ := handle_some hk
    have hp := RunManager.dropHandle_acts s.manager k
    rw [hid] at hp
    refine .closed id rfl hp.1 ?_ rfl rfl
    cases hf : k.finished with
    | true =>
      show (s.manager.dropHandle k).activeId = _
      rw [afterEnd_of_closed hs (finished_of_not_live hs hk hf), hp.2, hf]
      rfl
    | false =>
      show (s.manager.dropHandle k).activeId = _
      rw [hp.2, hf]
      rfl
  | failure id error throughput =>
    simp only [step] at h
    split at h
    · cases h
    · rename_i hclosed
      cases h
      have hp := RunManager.failure_acts s.manager id error throughput
      have hnot : ⟨id, false⟩ ∉ s.handles := fun hmem =>
        hclosed (List.any_eq_true.mpr ⟨⟨id, false⟩, mem_live.mpr ⟨hmem, rfl⟩, by simp⟩)
      exact .acted id rfl hp.1 (hp.2.trans (afterEnd_of_closed hs hnot)) rfl rfl

/-! ## The invariant -/

theorem close_live (s : Session) (id : Str) :
    (s.close id).liveHandles.map RunHandle.runId =
      (s.liveHandles.map RunHandle.runId).filter fun r => r != id := by
  unfold liveHandles close
  generalize s.handles = hs
  induction hs with
  | nil => rfl
  | cons h hs ih =>
    simp only at ih
    by_cases hid : h.runId = id
    · cases hf : h.finished <;> simp [hid, hf, ih]
    · cases hf : h.finished <;> simp [hid, hf, ih]

theorem toList_filter {β : Type} (o : Option β) (p : β → Bool) :
    (o.filter p).toList = o.toList.filter p := by
  cases o with
  | none => rfl
  | some b => cases hp : p b <;> simp [Option.filter, hp]

/-- The records of a session that only touched run `id`. -/
theorem runs_of_acts {id : Str} (hacts : RunManager.Acts id s.manager s'.manager)
    (hpast : s'.past = s.past) :
    s'.runs = s.runs ∨ ∃ p p', s.runs = p :: s.past ∧ s'.runs = p' :: s.past ∧ p.runId = id ∧
      p'.runId = id ∧ (p.Bounded → p'.Bounded) ∧
        (p.state.isActive = false → p'.state.isActive = false) := by
  unfold runs
  rcases hacts.record with heq | ⟨p, p', hp, hp', hr, hr', hb, ht⟩
  · exact .inl (by rw [heq, hpast])
  · exact .inr ⟨p, p', by rw [hp]; rfl, by rw [hp', hpast]; rfl, hr, hr', hb, ht⟩

/-- The record of a run after a section on its behalf is what the lock now
holds, or what it was. -/
theorem record_of_acts {id : Str} {p : Progress} (hp : s'.record id = some p)
    (hacts : RunManager.Acts id s.manager s'.manager) (hpast : s'.past = s.past) :
    s'.manager.snapshot = some p ∧ p.runId = id ∨ s.record id = some p := by
  have hid : p.runId = id := by simpa using List.find?_some hp
  have hrecord := hacts.record
  unfold record runs at hp ⊢
  cases hsnap : s'.manager.snapshot with
  | none =>
    rw [hsnap] at hp hrecord
    rcases hrecord with heq | ⟨_, _, _, h, _⟩
    · rw [← heq, ← hpast]
      exact .inr hp
    · cases h
  | some q =>
    rw [hsnap] at hp hrecord
    by_cases hq : q.runId = id
    · rw [Option.toList_some, List.singleton_append, List.find?_cons_of_pos (by simp [hq]),
        Option.some.injEq] at hp
      exact .inl ⟨congrArg some hp, hid⟩
    · rcases hrecord with heq | ⟨_, _, _, h, _, h', _⟩
      · rw [← heq, ← hpast]
        exact .inr hp
      · cases h
        exact absurd h' hq

theorem record_of_snapshot {p : Progress} (h : s.manager.snapshot = some p) :
    s.record p.runId = some p := by
  unfold record runs
  rw [h, Option.toList_some, List.singleton_append]
  exact List.find?_cons_of_pos (by simp)

theorem mem_runs_of_snapshot {p : Progress} (h : s.manager.snapshot = some p) : p ∈ s.runs := by
  unfold runs
  rw [h]
  exact List.mem_cons_self

theorem Inv.of_acts (hs : Inv s) {id : Str} (hacts : RunManager.Acts id s.manager s'.manager)
    (hpast : s'.past = s.past) (hids : s'.handles.map RunHandle.runId = s.handles.map RunHandle.runId)
    (hlive : s'.liveHandles.map RunHandle.runId = s'.manager.activeId.toList) : Inv s' := by
  have hbounded : ∀ p ∈ s'.runs, p.Bounded := by
    rcases runs_of_acts hacts hpast with heq | ⟨p, p', hp, hp', -, -, hb, -⟩
    · rw [heq]; exact hs.bounded
    · intro q hq
      have hall := hs.bounded
      rw [hp] at hall
      rw [hp'] at hq
      rcases List.mem_cons.mp hq with rfl | hq
      · exact hb (hall p List.mem_cons_self)
      · exact hall q (List.mem_cons_of_mem p hq)
  refine ⟨hbounded, ?_, ?_, ?_, hids ▸ hs.unique, hlive⟩
  · rcases hacts.updates with heq | heq
    · rw [heq]; exact hs.published
    · intro p hp
      rw [heq] at hp
      exact hbounded p (mem_runs_of_snapshot hp)
  · rw [hpast]; exact hs.past
  · intro k hk
    have hmem : k.runId ∈ s.handles.map RunHandle.runId := hids ▸ List.mem_map_of_mem hk
    obtain ⟨h, hh, hrun⟩ := List.mem_map.mp hmem
    obtain ⟨q, hq, hqid⟩ := hs.known h hh
    rcases runs_of_acts hacts hpast with heq | ⟨p, p', hp, hp', hr, hr', -, -⟩
    · exact ⟨q, heq ▸ hq, hqid.trans hrun⟩
    · rw [hp] at hq
      rw [hp']
      rcases List.mem_cons.mp hq with rfl | hq
      · exact ⟨p', List.mem_cons_self, (hr'.trans hr.symm).trans (hqid.trans hrun)⟩
      · exact ⟨q, List.mem_cons_of_mem p' hq, hqid.trans hrun⟩

/-- A section that leaves the active run active keeps the invariant. -/
theorem Inv.acted (hs : Inv s) {id : Str} (hacts : RunManager.Acts id s.manager s'.manager)
    (hactive : s'.manager.activeId = s.manager.activeId) (hhandles : s'.handles = s.handles)
    (hpast : s'.past = s.past) : Inv s' := by
  refine hs.of_acts hacts hpast (by rw [hhandles]) ?_
  rw [hactive, ← hs.live]
  unfold liveHandles
  rw [hhandles]

/-- A section that ends a run keeps the invariant when its handle is consumed. -/
theorem Inv.closed (hs : Inv s) {id : Str} (hacts : RunManager.Acts id s.manager s'.manager)
    (hactive : s'.manager.activeId = s.manager.afterEnd id)
    (hhandles : s'.handles = (s.close id).handles) (hpast : s'.past = s.past) : Inv s' := by
  have hids : s'.handles.map RunHandle.runId = s.handles.map RunHandle.runId := by
    rw [hhandles]
    unfold close
    rw [List.map_map]
    refine List.map_congr_left fun k _ => ?_
    show (if k.runId = id then _ else k).runId = k.runId
    split <;> rfl
  have hclose : s'.liveHandles = (s.close id).liveHandles := by
    unfold liveHandles
    rw [hhandles]
  refine hs.of_acts hacts hpast hids ?_
  rw [hclose, close_live, hs.live, hactive]
  exact (toList_filter _ _).symm

theorem step_inv (hs : Inv s) (h : s.step c = some s') : Inv s' := by
  cases step_cases hs h with
  | stayed h => exact h ▸ hs
  | began id p _ hnew hidle hp hid hrun hb hup _ hhandles hpast =>
    have hruns : s'.runs = p :: s.runs := by
      show s'.manager.snapshot.toList ++ s'.past = _
      rw [hp, hpast]
      rfl
    -- no record of the session is active any more
    have hrest : ∀ q ∈ s.runs, q.state.isActive = false := by
      intro q hq
      rcases List.mem_append.mp hq with hq | hq
      · cases hact : q.state.isActive with
        | false => rfl
        | true =>
          have := RunManager.activeId_eq_some.mpr ⟨q, Option.mem_toList.mp hq, hact, rfl⟩
          rw [hidle] at this
          cases this
      · exact hs.past q hq
    refine ⟨?_, ?_, ?_, ?_, ?_, ?_⟩
    · intro q hq
      rw [hruns] at hq
      rcases List.mem_cons.mp hq with rfl | hq
      · exact hb
      · exact hs.bounded q hq
    · intro q hq
      rw [hup, hp] at hq
      cases hq
      exact hb
    · rw [hpast]; exact hrest
    · intro k hk
      rw [hhandles] at hk
      rw [hruns]
      rcases List.mem_cons.mp hk with rfl | hk
      · exact ⟨p, List.mem_cons_self, hid⟩
      · obtain ⟨q, hq, hqid⟩ := hs.known k hk
        exact ⟨q, List.mem_cons_of_mem p hq, hqid⟩
    · rw [hhandles, List.map_cons, List.nodup_cons]
      refine ⟨fun hmem => ?_, hs.unique⟩
      obtain ⟨k, hk, hkid⟩ := List.mem_map.mp hmem
      obtain ⟨q, hq, hqid⟩ := hs.known k hk
      exact hnew q hq (hqid.trans hkid)
    · have hactive : s'.manager.activeId = some id := by
        rw [RunManager.activeId_of_snapshot hp, hrun, hid]
        rfl
      have hlive := hs.live
      rw [hidle] at hlive
      rw [hactive]
      unfold liveHandles at hlive ⊢
      rw [hhandles, List.filter_cons_of_pos (by rfl), List.map_cons, hlive]
      rfl
  | acted id _ hacts hactive hhandles hpast => exact hs.acted hacts hactive hhandles hpast
  | closed id _ hacts hactive hhandles hpast => exact hs.closed hacts hactive hhandles hpast

/-! ## Runs of calls -/

/-- A call leaves the record and the token of every other run alone. -/
theorem step_frame (hs : Inv s) (h : s.step c = some s') {id : Str}
    (hother : s.subject c ≠ some id) :
    s'.record id = s.record id ∧
      (id ∈ s'.manager.cancelledTokens ↔ id ∈ s.manager.cancelledTokens) := by
  have hfind : ∀ {p : Progress} {r : Str}, s.subject c = some r → p.runId = r →
      ¬ (p.runId == id) = true := by
    rintro p r hc rfl hid
    exact hother (beq_iff_eq.mp hid ▸ hc)
  have hframe : ∀ r, s.subject c = some r → RunManager.Acts r s.manager s'.manager →
      s'.past = s.past → s'.record id = s.record id ∧
        (id ∈ s'.manager.cancelledTokens ↔ id ∈ s.manager.cancelledTokens) := by
    intro r hc hacts hpast
    refine ⟨?_, hacts.tokens id fun heq => hother (heq ▸ hc)⟩
    unfold record
    rcases runs_of_acts hacts hpast with heq | ⟨p, p', hp, hp', hr, hr', -, -⟩
    · rw [heq]
    · rw [hp, hp', List.find?_cons_of_neg (by exact hfind hc hr'),
        List.find?_cons_of_neg (by exact hfind hc hr)]
  cases step_cases hs h with
  | stayed h => exact ⟨by rw [h], by rw [h]⟩
  | began r p hc _ _ hp hid _ _ _ htok _ hpast =>
    refine ⟨?_, by rw [htok]⟩
    have hruns : s'.runs = p :: s.runs := by
      show s'.manager.snapshot.toList ++ s'.past = _
      rw [hp, hpast]
      rfl
    unfold record
    rw [hruns, List.find?_cons_of_neg (by exact hfind hc hid)]
  | acted r hc hacts _ _ hpast => exact hframe r hc hacts hpast
  | closed r hc hacts _ _ hpast => exact hframe r hc hacts hpast

/-- Run `id` has a record, and the record is final. -/
def Ended (id : Str) (s : Session) : Prop :=
  ∃ p, s.record id = some p ∧ p.state.isActive = false

theorem Ended.of_acts {id r : Str} (hend : Ended id s)
    (hacts : RunManager.Acts r s.manager s'.manager) (hpast : s'.past = s.past) : Ended id s' := by
  obtain ⟨q, hq, hoff⟩ := hend
  unfold Ended record at *
  rcases runs_of_acts hacts hpast with heq | ⟨p, p', hp, hp', hr, hr', -, ht⟩
  · exact ⟨q, heq ▸ hq, hoff⟩
  · rw [hp] at hq
    rw [hp']
    by_cases hid : r = id
    · rw [List.find?_cons_of_pos (by simp [hr, hid]), Option.some.injEq] at hq
      subst hq
      exact ⟨p', List.find?_cons_of_pos (by simp [hr', hid]), ht hoff⟩
    · rw [List.find?_cons_of_neg (by simp [hr, hid])] at hq
      exact ⟨q, by rw [List.find?_cons_of_neg (by simp [hr', hid]), hq], hoff⟩

theorem step_ended (hs : Inv s) (h : s.step c = some s') {id : Str} (hend : Ended id s) :
    Ended id s' := by
  cases step_cases hs h with
  | stayed h => exact h ▸ hend
  | began r p _ hnew _ hp hid _ _ _ _ _ hpast =>
    obtain ⟨q, hq, hoff⟩ := hend
    have hqid : q.runId = id := by simpa using List.find?_some hq
    have hne : r ≠ id := by
      rintro rfl
      exact hnew q (List.mem_of_find?_eq_some hq) hqid
    refine ⟨q, ?_, hoff⟩
    show (s'.manager.snapshot.toList ++ s'.past).find? _ = some q
    rw [hp, hpast]
    show (p :: s.runs).find? _ = some q
    rw [List.find?_cons_of_neg (by simp [hid, hne])]
    exact hq
  | acted r _ hacts _ _ hpast => exact hend.of_acts hacts hpast
  | closed r _ hacts _ _ hpast => exact hend.of_acts hacts hpast

theorem run_inv {calls : List Call} (hs : Inv s) (hrun : runSteps step s calls = some s') :
    Inv s' :=
  run_invariant (fun _ _ _ hu hstep => step_inv hu hstep) hs hrun

theorem run_ended {calls : List Call} {id : Str} (hs : Inv s)
    (hrun : runSteps step s calls = some s') (hend : Ended id s) : Ended id s' := by
  have h := run_invariant (I := fun t => Inv t ∧ Ended id t)
    (fun _ _ _ hu hstep => ⟨step_inv hu.1 hstep, step_ended hu.1 hstep hu.2⟩) ⟨hs, hend⟩ hrun
  exact h.2

/-- The active records are those of the runs whose handle is open. -/
theorem Inv.activeRuns_eq (hs : Inv s) :
    s.activeRuns.map Progress.runId = s.liveHandles.map RunHandle.runId := by
  have hpast : s.past.filter (fun p => p.state.isActive) = [] := by
    rw [List.filter_eq_nil_iff]
    intro p hp
    rw [hs.past p hp]
    decide
  rw [hs.live]
  unfold activeRuns runs RunManager.activeId
  rw [List.filter_append, hpast, List.append_nil, ← toList_filter]
  exact Option.toList_map.symm

theorem Inv.activeRuns_le (hs : Inv s) : s.activeRuns.length ≤ 1 := by
  have hlen := congrArg List.length (hs.activeRuns_eq.trans hs.live)
  rw [List.length_map] at hlen
  rw [hlen]
  cases s.manager.activeId with
  | none => exact Nat.zero_le 1
  | some id => exact Nat.le_refl 1

/-- After any calls: at most one run is active, and it is the one whose handle
is open; every record is within its bounds; a call leaves every other run
alone; and a run that has ended stays ended, whatever is called later. -/
theorem manager_sound {calls : List Call} (hrun : runSteps step init calls = some s) :
    s.activeRuns.length ≤ 1 ∧
      s.activeRuns.map Progress.runId = s.liveHandles.map RunHandle.runId ∧
      (∀ p ∈ s.runs, p.Bounded) ∧
      (∀ c s' id, s.step c = some s' → s.subject c ≠ some id → s'.record id = s.record id) ∧
      ∀ later s' id, runSteps step s later = some s' → Ended id s → Ended id s' := by
  have hs := run_inv init_inv hrun
  refine ⟨hs.activeRuns_le, hs.activeRuns_eq, hs.bounded, ?_, ?_⟩
  · intro c s' id hstep hother
    exact (step_frame hs hstep hother).1
  · intro later s' id hlater hend
    exact run_ended hs hlater hend

theorem manager_sound_restart :
    let calls : List Call :=
      [.begin 2 "a".toList [] 0, .progress "a".toList 9 (some "x".toList) 5, .cancel "a".toList,
        .finish "a".toList 130 none, .begin 1 "b".toList [] 9]
    ∃ s, runSteps step init calls = some s ∧ s.activeRuns.length ≤ 1 ∧ Ended "a".toList s := by
  intro calls
  exact ⟨_, rfl, (@manager_sound _ calls rfl).1, _, rfl, rfl⟩

end Session

end NetworkLantern.Runtime
