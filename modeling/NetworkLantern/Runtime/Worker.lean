import NetworkLantern.Runtime.Manager

/-!
# The worker of a run

`execute_prepared` runs the measurements of one run, reads the cancellation
flag once they are over, writes the summary and then reports the outcome to the
manager.  Other clients call the manager between any two of its steps.

    cancel_final      a cancelled run ends as cancelled, if no cancel comes late
    late_cancel_lost  what becomes of a cancel that does come late
-/

namespace NetworkLantern.Runtime

open NetworkLantern

/-! ## The code -/

/-- What `Execution::run` leaves: its error, if it stopped with one, and its
counters. -/
structure Outcome where
  error : Option ErrorCategory
  completed : Nat
  failed : Nat
  thresholdBreaches : Nat
  degraded : Nat
deriving DecidableEq, Repr

/-- The code that a caller has stored for a cancellation. -/
abbrev CancelCode := { code : UInt8 // Exit.isInterrupted code = true }

inductive Status
  | cancelled | success | partialFailure | totalFailure
deriving DecidableEq, Repr

namespace Outcome

/-- The throughput-table status of a run whose flag was read as `cancelled`. -/
def tableCode (o : Outcome) (cancelled : Bool) (cancelCode : CancelCode) : UInt8 :=
  let failedCode := if o.completed > o.failed then Exit.PARTIAL_FAILURE else Exit.TOTAL_FAILURE
  if cancelled then cancelCode.val
  else
    match o.error with
    | some category => if o.completed = 0 then Exit.throughput category else failedCode
    | none =>
      if o.failed > 0 then failedCode
      else if o.thresholdBreaches > 0 ∨ o.degraded > 0 then Exit.PARTIAL_FAILURE
      else Exit.SUCCESS

def code (o : Outcome) (throughput cancelled : Bool) (cancelCode : CancelCode) : UInt8 :=
  Exit.forCapability throughput (o.tableCode cancelled cancelCode)

def status (o : Outcome) (throughput cancelled : Bool) (cancelCode : CancelCode) : Status :=
  if cancelled then .cancelled
  else if o.code throughput cancelled cancelCode = Exit.SUCCESS then .success
  else if o.completed > o.failed then .partialFailure
  else .totalFailure

end Outcome

/-- Where the worker stands. -/
inductive Phase
  /-- The measurements run. -/
  | working
  /-- The flag was read, and the summary is not written. -/
  | sampled (cancelled : Bool) (outcome : Outcome) (cancelCode : CancelCode)
  /-- The summary is written, and the outcome is not reported. -/
  | written (cancelled : Bool) (outcome : Outcome) (cancelCode : CancelCode)
  /-- Writing the summary failed. -/
  | unwritten (error : Error)
  /-- An early return, or unwinding, drops the handle. -/
  | dropping (error : Option Error)
  /-- The drop has read the flag. -/
  | dropRead (code : UInt8) (error : Option Error)
  /-- The drop has cancelled the token. -/
  | dropCancelled (code : UInt8) (error : Option Error)
  /-- The worker has returned, with an error or with its summary. -/
  | returned (error : Option Error)
deriving DecidableEq, Repr

def Phase.isReturned : Phase → Bool
  | .returned _ => true
  | _ => false

/-- The worker is past the writing of a summary that succeeded. -/
def Phase.isSaved : Phase → Bool
  | .written _ _ _ | .returned none => true
  | _ => false

/-- What has become of `summary.json`. -/
inductive SummaryFile
  /-- The run has left none. -/
  | absent
  /-- It is in its place, though writing it ended in an error. -/
  | unsynced
  | saved
deriving DecidableEq, Repr

/-- How `atomic_json` of the summary ends.  Behind the move to its place, the sync of its
directory may still fail. -/
inductive Writing
  | passed
  | failed (error : Error)
  | failedLate (error : Error)
deriving DecidableEq, Repr

def Writing.file : Writing → SummaryFile
  | passed => .saved
  | failed _ => .absent
  | failedLate _ => .unsynced

/-- The manager with one worker, and the summary of its run. -/
structure System where
  session : Session
  worker : Phase
  summary : SummaryFile
deriving DecidableEq, Repr

inductive Action
  /-- Another client calls the manager. -/
  | call (c : Call)
  /-- The caller's own token is cancelled, and the relay passes it on. -/
  | relay
  | report (completed : Nat) (message : Option Str) (now : Nat)
  | sample (outcome : Outcome) (cancelCode : CancelCode)
  /-- An early return with an error, or unwinding without one. -/
  | stop (error : Option Error)
  /-- `atomic_json` of the summary. -/
  | write (writing : Writing)
  | finish (path : Str)
  /-- The next step of dropping the handle. -/
  | drop
  /-- The caller reports the error that `execute_prepared` returned. -/
  | failure
deriving DecidableEq, Repr

namespace System

variable (run : Str) (throughput : Bool)

/-- Calls that another client can make: any about another run, and a cancel
request for this one. -/
def foreign (s : Session) : Call → Bool
  | .cancel _ | .cancelActive => true
  | c => s.subject c != some run

def onManager (s : System) (f : RunManager → RunManager) (worker : Phase) : System :=
  { s with session := { s.session with manager := f s.session.manager }, worker }

/-- The manager completes the run, and its handle is consumed. -/
def complete (s : System) (code : UInt8) (path : Option Str) (isPartial : Bool)
    (error : Option Error) : System :=
  { s with
    session := ({ s.session with
      manager := s.session.manager.complete run code path isPartial } : Session).close run
    worker := .returned error }

def step (s : System) : Action → Option System
  | .call c =>
    if foreign run s.session c then (s.session.step c).map fun session => { s with session }
    else none
  | .relay => some (s.onManager (·.cancelToken run) s.worker)
  | .report completed message now =>
    match s.worker with
    | .working | .sampled _ _ _ =>
      some (s.onManager (·.progress run completed message now) s.worker)
    | _ => none
  | .sample outcome cancelCode =>
    match s.worker with
    | .working =>
      some { s with worker := .sampled (s.session.manager.isCancelled run) outcome cancelCode }
    | _ => none
  | .stop error =>
    match s.worker with
    | .working | .sampled _ _ _ => some { s with worker := .dropping error }
    | _ => none
  | .write writing =>
    match s.worker, writing with
    | .sampled cancelled outcome cancelCode, .passed =>
      some { s with worker := .written cancelled outcome cancelCode, summary := writing.file }
    | .sampled _ _ _, .failed error =>
      some { s with worker := .unwritten error, summary := writing.file }
    | .sampled _ _ _, .failedLate error =>
      some { s with worker := .unwritten error, summary := writing.file }
    | _, _ => none
  | .finish path =>
    match s.worker with
    | .written cancelled outcome cancelCode =>
      some (s.complete run (outcome.code throughput cancelled cancelCode) (some path)
        (outcome.status throughput cancelled cancelCode == .partialFailure) none)
    | .unwritten error => some (s.complete run Exit.INTERNAL none false (some error))
    | _ => none
  | .drop =>
    match s.worker with
    | .dropping error => some { s with worker := .dropRead (s.session.manager.dropCode run) error }
    | .dropRead code error =>
      some (s.onManager (·.cancelToken run) (.dropCancelled code error))
    | .dropCancelled code error => some (s.complete run code none false error)
    | _ => none
  | .failure =>
    match s.worker with
    | .returned (some error) =>
      some (s.onManager (·.failure run error throughput) s.worker)
    | _ => none

end System

/-! ## Exit codes of cancelled runs -/

/-- The run stopped with a cancellation before any measurement completed. -/
def Outcome.StoppedByCancel (o : Outcome) : Prop := o.error = some .cancelled ∧ o.completed = 0

theorem isInterrupted_code (o : Outcome) (throughput cancelled : Bool) (k : CancelCode) :
    Exit.isInterrupted (o.code throughput cancelled k) = true ↔
      cancelled = true ∨ o.StoppedByCancel := by
  have hfailed : Exit.isInterrupted
      (if o.completed > o.failed then Exit.PARTIAL_FAILURE else Exit.TOTAL_FAILURE) = false := by
    split <;> decide
  unfold Outcome.code
  rw [Exit.isInterrupted_forCapability]
  unfold Outcome.tableCode Outcome.StoppedByCancel
  cases cancelled with
  | true => simp [k.property]
  | false =>
    cases he : o.error with
    | none =>
      simp only [Bool.false_eq_true, if_false, false_or, reduceCtorEq, false_and, iff_false,
        Bool.not_eq_true]
      split
      · exact hfailed
      · split <;> decide
    | some category =>
      simp only [Bool.false_eq_true, if_false, false_or, Option.some.injEq]
      by_cases hc : o.completed = 0
      · rw [if_pos hc, Exit.isInterrupted_throughput]
        simp [hc]
      · rw [if_neg hc]
        simp [hc, hfailed]

/-- An interruption ends a run as cancelled, whatever was measured. -/
theorem fromExitCode_interrupted {code : UInt8} (h : Exit.isInterrupted code = true)
    (isPartial : Bool) : RunState.fromExitCode code isPartial = .cancelled := by
  have hcode : code = Exit.CANCELLED ∨ code = Exit.TERMINATED := by
    simpa [Exit.isInterrupted] using h
  rcases hcode with rfl | rfl <;> rfl

/-- Any other status ends it as something else. -/
theorem fromExitCode_not_interrupted {code : UInt8} (h : Exit.isInterrupted code = false)
    (isPartial : Bool) : RunState.fromExitCode code isPartial ≠ .cancelled := by
  unfold RunState.fromExitCode
  rw [h]
  repeat' split
  all_goals first | contradiction | nofun

theorem dropCode_state (m : RunManager) (id : Str) :
    RunState.fromExitCode (m.dropCode id) false = .cancelled ∨
      RunState.fromExitCode (m.dropCode id) false = .failed := by
  unfold RunManager.dropCode
  split
  · exact .inl rfl
  · exact .inr rfl

/-! ## Steps of the system -/

namespace System

variable {run : Str} {throughput : Bool} {s s' : System} {a : Action}

/-- The run is being cancelled. -/
def Cancelling (run : Str) (s : System) : Prop :=
  ∃ p, s.session.record run = some p ∧ p.state = .cancelling

/-- Dropping a handle reports one of these states. -/
def DropCode (code : UInt8) : Prop :=
  RunState.fromExitCode code false = .cancelled ∨ RunState.fromExitCode code false = .failed

/-- The handle is open until the worker returns, a summary is saved only on the
way that writes it, and a cancelled run has its token cancelled. -/
structure Inv (run : Str) (s : System) : Prop where
  session : s.session.Inv
  handle : ⟨run, false⟩ ∈ s.session.handles ↔ s.worker.isReturned = false
  token : Cancelling run s → run ∈ s.session.manager.cancelledTokens
  saved : s.summary = .saved → s.worker.isSaved = true
  code : ∀ code error, s.worker = .dropRead code error ∨ s.worker = .dropCancelled code error →
    DropCode code

theorem Inv.unsaved (hs : Inv run s) {w : Phase} (hw : s.worker = w) (h : w.isSaved = false) :
    s.summary ≠ .saved := by
  intro hsum
  have hsaved := hs.saved hsum
  rw [hw, h] at hsaved
  cases hsaved

/-- The run is the current one while its handle is open. -/
theorem Inv.currentSnapshot (hs : Inv run s) (h : s.worker.isReturned = false) :
    ∃ p, s.session.manager.snapshot = some p ∧ p.runId = run ∧ p.state.isActive = true := by
  have hopen := hs.handle.mpr h
  have hmem : run ∈ s.session.liveHandles.map RunHandle.runId :=
    List.mem_map.mpr ⟨_, Session.mem_live.mpr ⟨hopen, rfl⟩, rfl⟩
  rw [hs.session.live, Option.mem_toList] at hmem
  obtain ⟨p, hp, hact, hid⟩ := RunManager.activeId_eq_some.mp hmem
  exact ⟨p, hp, hid, hact⟩

theorem Inv.current (hs : Inv run s) (h : s.worker.isReturned = false) :
    ∃ p, s.session.record run = some p ∧ p.state.isActive = true := by
  obtain ⟨p, hp, hid, hact⟩ := hs.currentSnapshot h
  exact ⟨p, hid ▸ Session.record_of_snapshot hp, hact⟩

theorem mem_close {t : Session} {id : Str} (hne : id ≠ run) :
    ⟨run, false⟩ ∈ (t.close id).handles ↔ ⟨run, false⟩ ∈ t.handles := by
  unfold Session.close
  simp only [List.mem_map]
  constructor
  · rintro ⟨h, hh, heq⟩
    split at heq
    · cases heq
    · exact heq ▸ hh
  · intro h
    exact ⟨_, h, if_neg hne.symm⟩

theorem not_mem_close {t : Session} : ⟨run, false⟩ ∉ (t.close run).handles := by
  unfold Session.close
  simp only [List.mem_map]
  rintro ⟨h, hh, heq⟩
  split at heq
  · cases heq
  · rename_i hne
    exact hne (congrArg RunHandle.runId heq)

/-- What a call of another client does to this run: at most it is moved to
`cancelling`, and then its token is cancelled. -/
theorem foreign_call {t t' : Session} {c : Call} (hs : t.Inv) (hf : foreign run t c = true)
    (h : t.step c = some t') :
    (⟨run, false⟩ ∈ t'.handles ↔ ⟨run, false⟩ ∈ t.handles) ∧
      (run ∈ t.manager.cancelledTokens → run ∈ t'.manager.cancelledTokens) ∧
      ∀ p, t'.record run = some p →
        t.record run = some p ∨ p.state = .cancelling ∧ run ∈ t'.manager.cancelledTokens ∧
          (c = .cancel run ∨ c = .cancelActive) := by
  by_cases hsub : t.subject c = some run
  · -- only the two cancel requests are about this run
    cases c with
    | cancel id =>
      cases hsub
      simp only [Session.step] at h
      cases hc : t.manager.cancel run with
      | error e =>
        rw [hc] at h
        cases h
        exact ⟨Iff.rfl, fun h => h, fun p hp => .inl hp⟩
      | ok m =>
        rw [hc] at h
        cases h
        have hacts := (RunManager.cancel_eq_ok hc).1
        refine ⟨Iff.rfl, hacts.kept run, fun p hp => ?_⟩
        rcases Session.record_of_acts (s := t) hp hacts rfl with ⟨hsnap, hid⟩ | hp
        · rcases RunManager.cancel_state hc hsnap with hold | ⟨hstate, -, hmem⟩
          · exact .inl (hid ▸ Session.record_of_snapshot hold)
          · exact .inr ⟨hstate, hmem, .inl rfl⟩
        · exact .inl hp
    | cancelActive =>
      simp only [Session.step, Option.some.injEq] at h
      subst h
      obtain ⟨q, hq, hid⟩ := Option.map_eq_some_iff.mp hsub
      have hacts := (RunManager.cancelActive_acts t.manager).1 q hq
      rw [hid] at hacts
      refine ⟨Iff.rfl, hacts.kept run, fun p hp => ?_⟩
      rcases Session.record_of_acts (s := t) hp hacts rfl with ⟨hsnap, hpid⟩ | hp
      · rcases RunManager.cancelActive_state hsnap with hold | ⟨hstate, hmem⟩
        · exact .inl (hpid ▸ Session.record_of_snapshot hold)
        · exact .inr ⟨hstate, hpid ▸ hmem, .inr rfl⟩
      · exact .inl hp
    | begin total id started now => simp [foreign, hsub] at hf
    | progress id completed message now => simp [foreign, hsub] at hf
    | finish id code path => simp [foreign, hsub] at hf
    | finishOutcome id code path isPartial => simp [foreign, hsub] at hf
    | drop id => simp [foreign, hsub] at hf
    | failure id error throughput => simp [foreign, hsub] at hf
  · obtain ⟨hrecord, htok⟩ := Session.step_frame hs h hsub
    refine ⟨?_, htok.mpr, fun p hp => .inl (hrecord ▸ hp)⟩
    cases Session.step_cases hs h with
    | stayed h => rw [h]
    | began id p hc _ _ _ _ _ _ _ _ hhandles _ =>
      have hne : run ≠ id := by
        rintro rfl
        exact hsub hc
      rw [hhandles]
      simp [hne]
    | acted id _ _ _ hhandles _ => rw [hhandles]
    | closed id hc _ _ hhandles _ =>
      rw [hhandles]
      refine mem_close ?_
      rintro rfl
      exact hsub hc

/-- How the record of the run changes in one step. -/
inductive Records (run : Str) (s : System) (a : Action) (s' : System) (p' : Progress) : Prop
  | same (p : Progress) (h : s.session.record run = some p) (hstate : p.state = p'.state)
  | cancelled (c : Call) (ha : a = .call c) (hc : c = .cancel run ∨ c = .cancelActive)
      (h : p'.state = .cancelling) (htok : run ∈ s'.session.manager.cancelledTokens)
      (hworker : s'.worker = s.worker)
  | reported (cancelled : Bool) (o : Outcome) (k : CancelCode) (throughput isPartial : Bool)
      (hworker : s.worker = .written cancelled o k)
      (h : p'.state = RunState.fromExitCode (o.code throughput cancelled k) isPartial)
  | unsaved (error : Error) (hworker : s.worker = .unwritten error) (h : p'.state = .failed)
  | dropped (code : UInt8) (error : Option Error) (hworker : s.worker = .dropCancelled code error)
      (h : p'.state = RunState.fromExitCode code false)
  | failed (error : Error) (hworker : s.worker = .returned (some error)) (h : p'.state = .failed)

theorem complete_records {code : UInt8} {path : Option Str} {isPartial : Bool}
    {error : Option Error} {p' : Progress}
    (hp : (s.complete run code path isPartial error).session.record run = some p') :
    p'.state = RunState.fromExitCode code isPartial ∨ s.session.record run = some p' := by
  have hacts := (RunManager.complete_acts s.session.manager run code path isPartial).1
  rcases Session.record_of_acts (s := s.session) hp hacts rfl with ⟨hsnap, hid⟩ | hold
  · exact .inl (RunManager.complete_state hsnap hid)
  · exact .inr hold

/-- Every step changes the record of the run in one of these ways. -/
theorem step_records (hs : Inv run s) (h : step run throughput s a = some s') {p' : Progress}
    (hp : s'.session.record run = some p') : Records run s a s' p' := by
  cases a with
  | call c =>
    simp only [step] at h
    split at h
    · rename_i hf
      obtain ⟨t, ht, rfl⟩ := Option.map_eq_some_iff.mp h
      rcases (foreign_call hs.session hf ht).2.2 p' hp with hold | ⟨hstate, htok, hc⟩
      · exact .same p' hold rfl
      · exact .cancelled c rfl hc hstate htok rfl
    · cases h
  | relay =>
    cases h
    exact .same p' hp rfl
  | report completed message now =>
    have hreport : ∀ w, s' = s.onManager (·.progress run completed message now) w →
        Records run s (.report completed message now) s' p' := by
      rintro w rfl
      have hacts := (RunManager.progress_acts s.session.manager run completed message now).1
      rcases Session.record_of_acts (s := s.session) hp hacts rfl with ⟨hsnap, hid⟩ | hold
      · obtain ⟨q, hq, hqid, hstate⟩ := RunManager.progress_state hsnap
        exact .same q ((hqid.trans hid) ▸ Session.record_of_snapshot hq) hstate
      · exact .same p' hold rfl
    simp only [step] at h
    split at h <;> cases h <;> exact hreport _ rfl
  | sample outcome cancelCode =>
    simp only [step] at h
    split at h <;> cases h
    exact .same p' hp rfl
  | stop error =>
    simp only [step] at h
    split at h <;> cases h <;> exact .same p' hp rfl
  | write writing =>
    simp only [step] at h
    split at h <;> cases h <;> exact .same p' hp rfl
  | finish path =>
    simp only [step] at h
    split at h
    · rename_i c o k hw
      cases h
      rcases complete_records hp with hstate | hold
      · exact .reported c o k throughput _ hw hstate
      · exact .same p' hold rfl
    · rename_i error hw
      cases h
      rcases complete_records hp with hstate | hold
      · exact .unsaved error hw hstate
      · exact .same p' hold rfl
    · cases h
  | drop =>
    simp only [step] at h
    split at h
    · cases h
      exact .same p' hp rfl
    · cases h
      exact .same p' hp rfl
    · rename_i code error hw
      cases h
      rcases complete_records hp with hstate | hold
      · exact .dropped code error hw hstate
      · exact .same p' hold rfl
    · cases h
  | failure =>
    simp only [step] at h
    split at h
    · rename_i error hw
      cases h
      have hacts := (RunManager.failure_acts s.session.manager run error throughput).1
      rcases Session.record_of_acts (s := s.session) hp hacts rfl with ⟨hsnap, hid⟩ | hold
      · exact .failed error hw (RunManager.failure_state hsnap hid)
      · exact .same p' hold rfl
    · cases h

theorem Inv.complete (hs : Inv run s) (code : UInt8) (path : Option Str) (isPartial : Bool)
    (error : Option Error) : (s.complete run code path isPartial error).session.Inv := by
  have hacts := RunManager.complete_acts s.session.manager run code path isPartial
  exact hs.session.closed hacts.1 hacts.2 rfl rfl

/-- The session of a system is always sound, and the handle of the run is open
until the worker returns. -/
theorem step_session (hs : Inv run s) (h : step run throughput s a = some s') :
    s'.session.Inv ∧ (⟨run, false⟩ ∈ s'.session.handles ↔ s'.worker.isReturned = false) ∧
      (run ∈ s.session.manager.cancelledTokens → run ∈ s'.session.manager.cancelledTokens) := by
  cases a with
  | call c =>
    simp only [step] at h
    split at h
    · rename_i hf
      obtain ⟨t, ht, rfl⟩ := Option.map_eq_some_iff.mp h
      have hforeign := foreign_call hs.session hf ht
      exact ⟨Session.step_inv hs.session ht, hforeign.1.trans hs.handle, hforeign.2.1⟩
    · cases h
  | relay =>
    cases h
    have hacts := RunManager.cancelToken_acts s.session.manager run
    exact ⟨hs.session.acted hacts.1 hacts.2 rfl rfl, hs.handle, hacts.1.kept run⟩
  | report completed message now =>
    have hacts := RunManager.progress_acts s.session.manager run completed message now
    simp only [step] at h
    split at h <;> cases h <;>
      exact ⟨hs.session.acted hacts.1 hacts.2 rfl rfl, hs.handle, hacts.1.kept run⟩
  | sample outcome cancelCode =>
    simp only [step] at h
    split at h <;> cases h
    rename_i hw
    exact ⟨hs.session, hs.handle.trans (by rw [hw]; rfl), fun h => h⟩
  | stop error =>
    simp only [step] at h
    split at h <;> cases h <;> rename_i hw <;>
      exact ⟨hs.session, hs.handle.trans (by rw [hw]; rfl), fun h => h⟩
  | write writing =>
    simp only [step] at h
    split at h <;> cases h <;> rename_i hw <;>
      exact ⟨hs.session, hs.handle.trans (by rw [hw]; rfl), fun h => h⟩
  | finish path =>
    simp only [step] at h
    split at h <;> cases h <;>
      exact ⟨hs.complete _ _ _ _, ⟨fun hmem => absurd hmem not_mem_close, nofun⟩,
        (RunManager.complete_acts s.session.manager run _ _ _).1.kept run⟩
  | drop =>
    simp only [step] at h
    split at h <;> cases h <;> rename_i hw
    · exact ⟨hs.session, hs.handle.trans (by rw [hw]; rfl), fun h => h⟩
    · have hacts := RunManager.cancelToken_acts s.session.manager run
      exact ⟨hs.session.acted hacts.1 hacts.2 rfl rfl, hs.handle.trans (by rw [hw]; rfl),
        hacts.1.kept run⟩
    · exact ⟨hs.complete _ _ _ _, ⟨fun hmem => absurd hmem not_mem_close, nofun⟩,
        (RunManager.complete_acts s.session.manager run _ _ _).1.kept run⟩
  | failure =>
    simp only [step] at h
    split at h <;> cases h
    rename_i error hw
    have hacts := RunManager.failure_acts s.session.manager run error throughput
    have hclosed : ⟨run, false⟩ ∉ s.session.handles := fun hmem => by
      have := hs.handle.mp hmem
      rw [hw] at this
      cases this
    exact ⟨hs.session.acted hacts.1
      (hacts.2.trans (Session.afterEnd_of_closed hs.session hclosed)) rfl rfl, hs.handle,
      hacts.1.kept run⟩

/-- Where the summary and the status of a drop come from. -/
theorem step_worker (hs : Inv run s) (h : step run throughput s a = some s') :
    (s'.summary = .saved → s'.worker.isSaved = true) ∧
    ∀ code error, s'.worker = .dropRead code error ∨ s'.worker = .dropCancelled code error →
      DropCode code := by
  have hnone : ∀ {w : Phase}, s.worker = w → w.isSaved = false → s.summary = .saved →
      s'.worker.isSaved = true := fun hw hsaved hsum => absurd hsum (hs.unsaved hw hsaved)
  cases a with
  | call c =>
    simp only [step] at h
    split at h
    · obtain ⟨t, ht, rfl⟩ := Option.map_eq_some_iff.mp h
      exact ⟨hs.saved, hs.code⟩
    · cases h
  | relay =>
    cases h
    exact ⟨hs.saved, hs.code⟩
  | report completed message now =>
    simp only [step] at h
    split at h <;> cases h <;> exact ⟨hs.saved, hs.code⟩
  | sample outcome cancelCode =>
    simp only [step] at h
    split at h <;> cases h
    rename_i hw
    exact ⟨hnone hw rfl, fun _ _ h => by simp at h⟩
  | stop error =>
    simp only [step] at h
    split at h <;> cases h <;> rename_i hw <;> exact ⟨hnone hw rfl, fun _ _ h => by simp at h⟩
  | write writing =>
    simp only [step] at h
    split at h <;> cases h
    · exact ⟨fun _ => rfl, fun _ _ h => by simp at h⟩
    · exact ⟨nofun, fun _ _ h => by simp at h⟩
    · exact ⟨nofun, fun _ _ h => by simp at h⟩
  | finish path =>
    simp only [step] at h
    split at h <;> cases h <;> rename_i hw
    · exact ⟨fun _ => rfl, fun _ _ h => by simp [System.complete] at h⟩
    · exact ⟨hnone hw rfl, fun _ _ h => by simp [System.complete] at h⟩
  | drop =>
    simp only [step] at h
    split at h <;> cases h <;> rename_i hw
    · refine ⟨hnone hw rfl, fun code error h => ?_⟩
      rcases h with h | h <;> cases h
      exact dropCode_state s.session.manager run
    · refine ⟨hnone hw rfl, fun code error h => ?_⟩
      rcases h with h | h <;> cases h
      exact hs.code _ _ (.inl hw)
    · exact ⟨hnone hw rfl, fun _ _ h => by simp [System.complete] at h⟩
  | failure =>
    simp only [step] at h
    split at h <;> cases h
    exact ⟨hs.saved, hs.code⟩

theorem fromExitCode_ne_cancelling (code : UInt8) (isPartial : Bool) :
    RunState.fromExitCode code isPartial ≠ .cancelling := by
  intro h
  have hend := RunManager.isActive_fromExitCode code isPartial
  rw [h] at hend
  cases hend

theorem step_inv (hs : Inv run s) (h : step run throughput s a = some s') : Inv run s' := by
  obtain ⟨hsession, hhandle, hkept⟩ := step_session hs h
  obtain ⟨hsaved, hcode⟩ := step_worker hs h
  refine ⟨hsession, hhandle, ?_, hsaved, hcode⟩
  rintro ⟨p', hp', hstate⟩
  cases step_records hs h hp' with
  | same p hp hsame => exact hkept (hs.token ⟨p, hp, hsame.trans hstate⟩)
  | cancelled _ _ _ _ htok _ => exact htok
  | reported c o k t isPartial _ hrep =>
    exact absurd (hrep.symm.trans hstate) (fromExitCode_ne_cancelling _ _)
  | unsaved error _ hfail => rw [hfail] at hstate; cases hstate
  | dropped code error _ hrep =>
    exact absurd (hrep.symm.trans hstate) (fromExitCode_ne_cancelling _ _)
  | failed error _ hfail => rw [hfail] at hstate; cases hstate

/-! ## Cancelled runs -/

/-- What a cancelled run may be: still cancelling, cancelled, or failed without
a summary that was saved. -/
def StaysCancelled (run : Str) (s : System) : Prop :=
  ∀ p, s.session.record run = some p →
    p.state = .cancelling ∨ p.state = .cancelled ∨ p.state = .failed ∧ s.summary ≠ .saved

/-- The outcome that the worker is about to report is an interruption. -/
def Interrupts : Phase → Prop
  | .sampled cancelled outcome _ | .written cancelled outcome _ =>
    cancelled = true ∨ outcome.StoppedByCancel
  | _ => True

/-- No cancel request comes after the flag was read as clear: the summary of a
run that is being cancelled is not written with another outcome, and no run is
cancelled between its summary and its report. -/
def InTime (run : Str) (s : System) : Action → Prop
  | .write .passed => Interrupts s.worker ∨ ¬ Cancelling run s
  | .call c =>
    Interrupts s.worker ∨ s.worker.isSaved = false ∨ c ≠ .cancel run ∧ c ≠ .cancelActive
  | _ => True

/-- A summary with another outcome is not that of a run that is being cancelled. -/
def Reported (run : Str) (s : System) : Prop :=
  s.worker.isSaved = true → Interrupts s.worker ∨ ¬ Cancelling run s

/-- Only the writing of the summary changes what has become of it. -/
theorem step_summary (h : step run throughput s a = some s') :
    s'.summary = s.summary ∨ ∃ c o k, s.worker = .sampled c o k := by
  cases a with
  | write writing =>
    simp only [step] at h
    split at h <;> cases h
    all_goals
      rename_i hw
      exact .inr ⟨_, _, _, hw⟩
  | call c =>
    simp only [step] at h
    split at h
    · obtain ⟨t, -, rfl⟩ := Option.map_eq_some_iff.mp h
      exact .inl rfl
    · cases h
  | relay => cases h; exact .inl rfl
  | report completed message now => simp only [step] at h; split at h <;> cases h <;> exact .inl rfl
  | sample outcome cancelCode => simp only [step] at h; split at h <;> cases h; exact .inl rfl
  | stop error => simp only [step] at h; split at h <;> cases h <;> exact .inl rfl
  | finish path => simp only [step] at h; split at h <;> cases h <;> exact .inl rfl
  | drop => simp only [step] at h; split at h <;> cases h <;> exact .inl rfl
  | failure => simp only [step] at h; split at h <;> cases h; exact .inl rfl

theorem step_unsaved (hs : Inv run s) (h : step run throughput s a = some s') {w : Phase}
    (hw : s.worker = w) (hsaved : w.isSaved = false) (hsampled : ∀ c o k, w ≠ .sampled c o k) :
    s'.summary ≠ .saved := by
  rcases step_summary h with heq | ⟨c, o, k, hw'⟩
  · rw [heq]
    exact hs.unsaved hw hsaved
  · exact absurd (hw.symm.trans hw') (hsampled c o k)

theorem step_staysCancelled (hs : Inv run s) (hrep : Reported run s) (hc : StaysCancelled run s)
    (h : step run throughput s a = some s') : StaysCancelled run s' := by
  intro p' hp'
  cases step_records hs h hp' with
  | same p hp hsame =>
    rw [← hsame]
    rcases hc p hp with hstate | hstate | ⟨hstate, hsum⟩
    · exact .inl hstate
    · exact .inr (.inl hstate)
    · refine .inr (.inr ⟨hstate, ?_⟩)
      rcases step_summary h with heq | ⟨c, o, k, hw⟩
      · rw [heq]; exact hsum
      · -- a run whose summary is being written is still active
        obtain ⟨q, hq, hact⟩ := hs.current (by rw [hw]; rfl)
        rw [hp, Option.some.injEq] at hq
        rw [← hq, hstate] at hact
        cases hact
  | cancelled _ _ _ hstate _ _ => exact .inl hstate
  | reported c o k t isPartial hw hstate =>
    obtain ⟨p, hp, hact⟩ := hs.current (by rw [hw]; rfl)
    have hcancelling : Cancelling run s := by
      refine ⟨p, hp, ?_⟩
      rcases hc p hp with h | h | ⟨h, -⟩
      · exact h
      · rw [h] at hact; cases hact
      · rw [h] at hact; cases hact
    have hinterrupts : Interrupts s.worker := by
      rcases hrep (by rw [hw]; rfl) with h | h
      · exact h
      · exact absurd hcancelling h
    rw [hw] at hinterrupts
    have hcode := (isInterrupted_code o t c k).mpr hinterrupts
    exact .inr (.inl (hstate.trans (fromExitCode_interrupted hcode isPartial)))
  | unsaved error hw hstate =>
    exact .inr (.inr ⟨hstate, step_unsaved hs h hw rfl (by nofun)⟩)
  | dropped code error hw hstate =>
    rw [hstate]
    rcases hs.code code error (.inr hw) with h' | h'
    · exact .inr (.inl h')
    · exact .inr (.inr ⟨h', step_unsaved hs h hw rfl (by nofun)⟩)
  | failed error hw hstate =>
    exact .inr (.inr ⟨hstate, step_unsaved hs h hw rfl (by nofun)⟩)

theorem step_reported (hs : Inv run s) (hrep : Reported run s) (hin : InTime run s a)
    (h : step run throughput s a = some s') : Reported run s' := by
  intro hsaved
  cases a with
  | call c =>
    have hrecords := fun (q : Progress) (hq : s'.session.record run = some q) =>
      step_records hs h hq
    have hworker : s'.worker = s.worker := by
      simp only [step] at h
      split at h
      · obtain ⟨t, -, rfl⟩ := Option.map_eq_some_iff.mp h
        rfl
      · cases h
    rw [hworker] at hsaved ⊢
    rcases hrep hsaved with hi | hnot
    · exact .inl hi
    · rcases hin with hi | hunsaved | hc
      · exact .inl hi
      · rw [hunsaved] at hsaved; cases hsaved
      · refine .inr ?_
        rintro ⟨p', hp', hstate⟩
        cases hrecords p' hp' with
        | same p hp hsame => exact hnot ⟨p, hp, hsame.trans hstate⟩
        | cancelled d hd hcancel _ _ _ =>
          cases hd
          rcases hcancel with hcancel | hcancel
          · exact hc.1 hcancel
          · exact hc.2 hcancel
        | reported cc o k t isPartial _ hr =>
          exact absurd (hr.symm.trans hstate) (fromExitCode_ne_cancelling _ _)
        | unsaved error hw _ => rw [hw] at hsaved; cases hsaved
        | dropped code error hw _ => rw [hw] at hsaved; cases hsaved
        | failed error hw _ => rw [hw] at hsaved; cases hsaved
  | relay =>
    cases h
    exact hrep hsaved
  | report completed message now =>
    simp only [step] at h
    split at h <;> cases h <;> rename_i hw <;>
      (rw [show (s.onManager _ s.worker).worker = s.worker from rfl, hw] at hsaved; cases hsaved)
  | sample outcome cancelCode => simp only [step] at h; split at h <;> cases h; cases hsaved
  | stop error => simp only [step] at h; split at h <;> cases h <;> cases hsaved
  | write writing =>
    simp only [step] at h
    split at h <;> cases h
    · rename_i c o k hw
      rcases hin with hi | hnot
      · rw [hw] at hi
        exact .inl hi
      · exact .inr hnot
    · cases hsaved
    · cases hsaved
  | finish path => simp only [step] at h; split at h <;> cases h <;> exact .inl trivial
  | drop => simp only [step] at h; split at h <;> cases h <;> exact .inl trivial
  | failure =>
    simp only [step] at h
    split at h <;> cases h
    rename_i error hw
    rw [show (s.onManager _ s.worker).worker = s.worker from rfl, hw] at hsaved
    cases hsaved

/-- The worker has just been given the handle of a run of the manager. -/
structure Started (run : Str) (s : System) : Prop where
  calls : ∃ calls, runSteps Session.step Session.init calls = some s.session
  handle : ⟨run, false⟩ ∈ s.session.handles
  record : ∃ p, s.session.record run = some p ∧ p.state = .running
  worker : s.worker = .working
  summary : s.summary = .absent

theorem Started.inv (h : Started run s) : Inv run s ∧ Reported run s := by
  obtain ⟨calls, hcalls⟩ := h.calls
  obtain ⟨p, hp, hrunning⟩ := h.record
  have hnot : ¬ Cancelling run s := by
    rintro ⟨q, hq, hstate⟩
    rw [hp, Option.some.injEq] at hq
    rw [← hq, hrunning] at hstate
    cases hstate
  refine ⟨⟨Session.run_inv Session.init_inv hcalls, ?_, fun hc => absurd hc hnot, ?_, ?_⟩,
    fun _ => .inr hnot⟩
  · rw [h.worker]
    exact ⟨fun _ => rfl, fun _ => h.handle⟩
  · intro hsum
    rw [h.summary] at hsum
    cases hsum
  · intro code error hw
    rw [h.worker] at hw
    rcases hw with hw | hw <;> cases hw

/-- Once it is over, the run ended as cancelled, or as failed without a summary that was saved. -/
def EndsCancelled (run : Str) (s : System) : Prop :=
  ∀ p, s.session.record run = some p → p.state.isActive = false →
    p.state = .cancelled ∨ p.state = .failed ∧ s.summary ≠ .saved

/-- A run that is moved to `cancelling` ends as cancelled, or as failed without
a summary that was saved, in every interleaving without a late cancel request. -/
theorem cancel_final {before after : List Action} {s₀ s₁ s₂ : System} (h₀ : Started run s₀)
    (hbefore : runSteps (step run throughput) s₀ before = some s₁) (hcancel : Cancelling run s₁)
    (hafter : runSteps (step run throughput) s₁ after = some s₂)
    (hin : AllSteps (InTime run) (step run throughput) s₀ (before ++ after)) :
    EndsCancelled run s₂ := by
  obtain ⟨hin₁, hin₂⟩ := hin.append hbefore
  have h₁ := run_invariant_while (I := fun s => Inv run s ∧ Reported run s)
    (fun s a t hs ha h => ⟨step_inv hs.1 h, step_reported hs.1 hs.2 ha h⟩) h₀.inv hin₁ hbefore
  have hstays : StaysCancelled run s₁ := by
    obtain ⟨p, hp, hstate⟩ := hcancel
    intro q hq
    rw [hp, Option.some.injEq] at hq
    exact .inl (hq ▸ hstate)
  have h₂ := run_invariant_while
    (I := fun s => (Inv run s ∧ Reported run s) ∧ StaysCancelled run s)
    (fun s a t hs ha h => ⟨⟨step_inv hs.1.1 h, step_reported hs.1.1 hs.1.2 ha h⟩,
      step_staysCancelled hs.1.1 hs.1.2 hs.2 h⟩) ⟨h₁, hstays⟩ hin₂ hafter
  intro p hp hend
  rcases h₂.2 p hp with hstate | hstate | hstate
  · rw [hstate] at hend; cases hend
  · exact .inl hstate
  · exact .inr hstate

/-- A cancel request that comes late is lost: what the worker reports after its
summary does not depend on it. -/
theorem late_cancel_lost (hs : Inv run s) {cancelled : Bool} {outcome : Outcome} {k : CancelCode}
    (hw : s.worker = .written cancelled outcome k) {path : Str}
    (h : step run throughput s (.finish path) = some s') :
    ∃ p, s'.session.record run = some p ∧ p.state.isActive = false ∧
      (p.state = .cancelled ↔ Interrupts s.worker) := by
  obtain ⟨q, hq, hid, -⟩ := hs.currentSnapshot (by rw [hw]; rfl)
  simp only [step, hw, Option.some.injEq] at h
  subst h
  obtain ⟨p, hp, hpid, hstate⟩ := RunManager.complete_snapshot
    (outcome.code throughput cancelled k) (some path)
    (outcome.status throughput cancelled k == .partialFailure) hq hid
  have hsnap : (s.complete run (outcome.code throughput cancelled k) (some path)
      (outcome.status throughput cancelled k == .partialFailure) none).session.manager.snapshot =
        some p := hp
  have hrecord := Session.record_of_snapshot hsnap
  rw [hpid] at hrecord
  refine ⟨p, hrecord, ?_, ?_⟩
  · rw [hstate]
    exact RunManager.isActive_fromExitCode _ _
  · have hcode := isInterrupted_code outcome throughput cancelled k
    rw [hw, hstate]
    show _ ↔ cancelled = true ∨ outcome.StoppedByCancel
    rw [← hcode]
    constructor
    · intro hcancelled
      cases hint : Exit.isInterrupted (outcome.code throughput cancelled k) with
      | true => rfl
      | false => exact absurd hcancelled (fromExitCode_not_interrupted hint _)
    · intro hint
      exact fromExitCode_interrupted hint _

/-- A run whose flag was read as clear, with everything measured, then cancelled
before its summary is on disk. -/
def cancelledLate : List Action :=
  [.sample ⟨none, 1, 0, 0, 0⟩ ⟨130, rfl⟩, .call (.cancel "a".toList)]

def firstRun : System :=
  { session :=
      { manager :=
          { active := some ⟨⟨"a".toList, [], .running, 0, 1, [], none, none⟩, 0⟩
            updates := some ⟨"a".toList, [], .running, 0, 1, [], none, none⟩
            cancelledTokens := [] }
        handles := [⟨"a".toList, false⟩]
        past := [] }
    worker := .working
    summary := .absent }

theorem firstRun_started : Started "a".toList firstRun where
  calls := ⟨[.begin 1 "a".toList [] 0], rfl⟩
  handle := List.mem_singleton_self _
  record := ⟨_, rfl, rfl⟩
  worker := rfl
  summary := rfl

theorem cancel_final_early :
    ∃ s, runSteps (step "a".toList false) firstRun
        [.call (.cancel "a".toList), .sample ⟨none, 1, 0, 0, 0⟩ ⟨130, rfl⟩, .write .passed, .finish []] =
          some s ∧ EndsCancelled "a".toList s := by
  have hin : AllSteps (InTime "a".toList) (step "a".toList false) firstRun
      ([.call (.cancel "a".toList)] ++
        [.sample ⟨none, 1, 0, 0, 0⟩ ⟨130, rfl⟩, .write .passed, .finish []]) := by
    refine ⟨.inl trivial, fun t ht => ?_⟩
    cases ht
    refine ⟨trivial, fun t ht => ?_⟩
    cases ht
    refine ⟨.inl (.inl rfl), fun t ht => ?_⟩
    cases ht
    exact ⟨trivial, fun _ _ => trivial⟩
  exact ⟨_, rfl, @cancel_final "a".toList false [.call (.cancel "a".toList)] _ _ _ _
    firstRun_started rfl ⟨_, rfl, rfl⟩ rfl hin⟩

/-- Where only the sync behind the move fails, the run is failed next to a summary. -/
example : ((runSteps (step "a".toList false) firstRun
    [.call (.cancel "a".toList), .sample ⟨none, 1, 0, 0, 0⟩ ⟨130, rfl⟩,
      .write (.failedLate ⟨.internal, []⟩), .finish []]).map fun s =>
        ((s.session.record "a".toList).map Progress.state, s.summary)) =
    some (some .failed, .unsynced) := rfl

/-- The run of `cancelledLate` ends as succeeded. -/
theorem cancelledLate_succeeds :
    ¬ ∀ (run : Str) (throughput : Bool) (before after : List Action) (s₀ s₁ s₂ : System),
      Started run s₀ → runSteps (step run throughput) s₀ before = some s₁ → Cancelling run s₁ →
        runSteps (step run throughput) s₁ after = some s₂ → EndsCancelled run s₂ := by
  intro h
  have hends := h "a".toList false cancelledLate [.write .passed, .finish []] firstRun _ _
    firstRun_started rfl ⟨_, rfl, rfl⟩ rfl
  rcases hends _ rfl rfl with hstate | ⟨hstate, -⟩ <;> cases hstate

end System

end NetworkLantern.Runtime
