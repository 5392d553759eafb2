import Mathlib.Data.List.Perm.Basic
import Mathlib.Data.List.Range
import NetworkLantern.Lib.Runs
import NetworkLantern.Path.Types

/-!
# The concurrent probe runner

Jobs are launched in order, one worker each, with a bound on the workers that
are outstanding; afterwards the workers that are left are joined.  `Runner.step`
interleaves the turns of the runner with workers that finish and with a
cancellation from outside, in any order.
-/

namespace NetworkLantern.Path

open NetworkLantern

/-- Descriptors reserved for the process outside concurrent probe workers. -/
def RESERVED_DESCRIPTORS : Nat := 64

/-- Upper bound for each outstanding probe. -/
def DESCRIPTORS_PER_PROBE : Nat := 3

/-- Keep the probes within the soft descriptor limit. -/
def clampOutstanding (maxOutstanding : Nat) (limit : Option Nat) : Nat :=
  match limit with
  | none => maxOutstanding
  | some limit => min maxOutstanding (max ((limit - RESERVED_DESCRIPTORS) / DESCRIPTORS_PER_PROBE) 1)

theorem clampOutstanding_le (maxOutstanding : Nat) (limit : Option Nat) :
    clampOutstanding maxOutstanding limit ≤ maxOutstanding := by
  cases limit with
  | none => exact Nat.le_refl _
  | some limit => exact Nat.min_le_left _ _

/-- What a probe comes to. -/
inductive Outcome (T : Type)
  | ok (output : T)
  | error (e : ProbeError)
  | panicked

/-- The error that `collect_worker` records. -/
def Outcome.error? {T : Type} : Outcome T → Option ProbeError
  | ok _ => none
  | error e => some e
  | panicked => some (.io "paced probe worker" "probe worker panicked")

structure PacedWorker where
  /-- The place of its job in the list. -/
  id : Nat
  owner : Nat
  finished : Bool
deriving DecidableEq

inductive RunnerPhase
  /-- The head of the loop over the jobs. -/
  | next
  /-- In `wait_until`. -/
  | waiting
  /-- About to look at a worker for one that is finished. -/
  | scanning (i : Nat)
  /-- After a scan that found none. -/
  | checking
  /-- The head of the last loop. -/
  | draining
  | drainScanning (i : Nat)
  | returned
deriving DecidableEq

structure Runner (I T : Type) where
  /-- The jobs that are not launched yet. -/
  jobs : List (Nat × I)
  launched : Nat
  workers : List PacedWorker
  completed : List (Nat × T)
  failure : Option ProbeError
  cancelled : Bool
  workerCancelled : Bool
  /-- The workers that were joined, in order. -/
  joined : List Nat
  phase : RunnerPhase

inductive RunnerEvent
  /-- The runner takes a turn; `due` says whether the next send is. -/
  | turn (due : Bool)
  | finish (id : Nat)
  | cancel
deriving DecidableEq

/-- The failure after an error: the first one, unless that was a cancellation. -/
def selectFailure (failure : Option ProbeError) (e : ProbeError) : Option ProbeError :=
  match failure with
  | none => some e
  | some f => if f = .cancelled ∧ e ≠ .cancelled then some e else some f

namespace Runner

variable {I T : Type} (limit : Nat) (outcome : Nat → Outcome T)

def start (jobs : List (Nat × I)) : Runner I T where
  jobs
  launched := 0
  workers := []
  completed := []
  failure := none
  cancelled := false
  workerCancelled := false
  joined := []
  phase := .next

def recordFailure (r : Runner I T) (e : ProbeError) : Runner I T :=
  { r with failure := selectFailure r.failure e, workerCancelled := true }

/-- `workers.remove(position)`, and what its thread returned. -/
def collectWorker (r : Runner I T) (i : Nat) (w : PacedWorker) : Runner I T :=
  let r := { r with workers := r.workers.eraseIdx i, joined := r.joined ++ [w.id] }
  match outcome w.id with
  | .ok output => { r with completed := r.completed ++ [(w.owner, output)] }
  | .error e => r.recordFailure e
  | .panicked => r.recordFailure (.io "paced probe worker" "probe worker panicked")

def launch (r : Runner I T) : Runner I T :=
  match r.jobs with
  | [] => r
  | (owner, _) :: jobs =>
    { r with jobs, launched := r.launched + 1, workers := r.workers ++ [⟨r.launched, owner, false⟩] }

def turn (r : Runner I T) (due : Bool) : Runner I T :=
  match r.phase with
  | .next => { r with phase := if r.jobs.isEmpty then .draining else .waiting }
  | .waiting =>
    if r.cancelled then { r.recordFailure .cancelled with phase := .draining }
    else if due then { r with phase := .scanning 0 }
    else r
  | .scanning i =>
    match r.workers[i]? with
    | none => { r with phase := .checking }
    | some w =>
      if w.finished then { r.collectWorker outcome i w with phase := .scanning 0 }
      else { r with phase := .scanning (i + 1) }
  | .checking =>
    if r.cancelled then { r.recordFailure .cancelled with phase := .draining }
    else if r.failure.isSome then { r with phase := .draining }
    else if r.workers.length < limit then { r.launch with phase := .next }
    else { r with phase := .scanning 0 }
  | .draining =>
    if r.workers.isEmpty then { r with phase := .returned }
    else if r.cancelled && r.failure.isNone then
      { r.recordFailure .cancelled with phase := .drainScanning 0 }
    else { r with phase := .drainScanning 0 }
  | .drainScanning i =>
    match r.workers[i]? with
    | none => { r with phase := .draining }
    | some w =>
      if w.finished then { r.collectWorker outcome i w with phase := .draining }
      else { r with phase := .drainScanning (i + 1) }
  | .returned => r

def finish (r : Runner I T) (id : Nat) : Runner I T :=
  { r with workers := r.workers.map fun w => if w.id = id then { w with finished := true } else w }

/-- One event.  Only a worker that runs can finish, and a runner that returned
takes no turns. -/
def step (r : Runner I T) : RunnerEvent → Option (Runner I T)
  | .turn due => if r.phase = .returned then none else some (r.turn limit outcome due)
  | .finish id =>
    if r.workers.any fun w => w.id = id && !w.finished then some (r.finish id) else none
  | .cancel => some { r with cancelled := true }

/-! ## What the runner keeps -/

variable (all : List (Nat × I))

/-- The output of a job, with its owner. -/
def output (id : Nat) : Option (Nat × T) :=
  match outcome id with
  | .ok t => all[id]?.map fun job => (job.1, t)
  | _ => none

/-- The errors of the workers joined so far, in order. -/
def errors (joined : List Nat) : List ProbeError := joined.filterMap fun id => (outcome id).error?

/-- `!matches!(e, Cancelled)`. -/
def ownError (e : ProbeError) : Bool := e ≠ .cancelled

/-- The first error that is no cancellation, if there is one. -/
def firstError (errors : List ProbeError) : ProbeError := (errors.find? ownError).getD .cancelled

/-- The failure tells of the errors so far, and of a cancellation. -/
structure Selected (failure : Option ProbeError) (errors : List ProbeError) (cancelled : Bool) :
    Prop where
  none_left : failure = none → errors = []
  first : ∀ e, failure = some e → e = firstError errors
  quiet : cancelled = false → errors = [] → failure = none

/-- Whatever the phase. -/
structure Core (r : Runner I T) : Prop where
  jobs_eq : r.jobs = all.drop r.launched
  launched_le : r.launched ≤ all.length
  perm : (r.joined ++ r.workers.map PacedWorker.id).Perm (List.range r.launched)
  owners : ∀ w ∈ r.workers, all[w.id]?.map Prod.fst = some w.owner
  completed_eq : r.completed = r.joined.filterMap (output outcome all)
  length_le : r.workers.length ≤ limit
  selected : Selected r.failure (errors outcome r.joined) r.cancelled

/-- What a phase knows of the jobs that are left. -/
def Allows (r : Runner I T) : RunnerPhase → Prop
  | .next => True
  | .waiting | .scanning _ | .checking => r.jobs ≠ []
  | .draining | .drainScanning _ => r.failure = none → r.jobs = []
  | .returned => (r.failure = none → r.jobs = []) ∧ r.workers = []

structure Inv (r : Runner I T) : Prop where
  core : Core limit outcome all r
  phase : r.Allows r.phase

/-! ### Failures -/

theorem firstError_append (errors : List ProbeError) (e : ProbeError) :
    firstError (errors ++ [e]) =
      if firstError errors = .cancelled then e else firstError errors := by
  unfold firstError
  rw [List.find?_append]
  cases h : errors.find? ownError with
  | none =>
    rw [Option.none_or, Option.getD_none, if_pos rfl]
    by_cases he : e = .cancelled
    · rw [he]
      rfl
    · have hown : ownError e = true := decide_eq_true he
      rw [List.find?_cons_of_pos hown, Option.getD_some]
  | some f =>
    have hown : ownError f = true := List.find?_some h
    rw [Option.some_or, Option.getD_some, if_neg (of_decide_eq_true hown)]

/-- Recording an error selects the first that counts. -/
theorem Selected.record {failure : Option ProbeError} {errors : List ProbeError} {cancelled : Bool}
    (h : Selected failure errors cancelled) (e : ProbeError) :
    Selected (selectFailure failure e) (errors ++ [e]) cancelled := by
  have hne : errors ++ [e] ≠ [] := List.append_ne_nil_of_right_ne_nil _ (List.cons_ne_nil _ _)
  have hsome : selectFailure failure e = some (firstError (errors ++ [e])) := by
    rw [firstError_append]
    cases failure with
    | none =>
      rw [h.none_left rfl]
      rfl
    | some f =>
      have hf := h.first f rfl
      unfold selectFailure
      rw [← hf]
      dsimp only
      by_cases hc : f = .cancelled
      · by_cases he : e = .cancelled
        · rw [if_neg fun h => h.2 he, if_pos hc, hc, he]
        · rw [if_pos ⟨hc, he⟩, if_pos hc]
      · rw [if_neg fun h => hc h.1, if_neg hc]
  rw [hsome]
  exact ⟨nofun, fun f hf => (Option.some.inj hf).symm, fun _ h => absurd h hne⟩

/-- A cancellation adds nothing to errors, and is a failure of its own. -/
theorem Selected.recordCancelled {failure : Option ProbeError} {errors : List ProbeError}
    (h : Selected failure errors true) : Selected (selectFailure failure .cancelled) errors true := by
  cases failure with
  | none =>
    rw [h.none_left rfl]
    exact ⟨nofun, fun f hf => (Option.some.inj hf).symm, nofun⟩
  | some f =>
    have hsame : selectFailure (some f) .cancelled = some f := if_neg fun h => h.2 rfl
    rw [hsame]
    exact h

/-! ### Workers -/

theorem filterMap_concat {α β : Type} (f : α → Option β) (as : List α) (a : α) :
    (as ++ [a]).filterMap f = as.filterMap f ++ (f a).toList := by
  rw [List.filterMap_append]
  cases h : f a with
  | none => rw [List.filterMap_cons_none h, List.filterMap_nil, Option.toList_none]
  | some b => rw [List.filterMap_cons_some h, List.filterMap_nil, Option.toList_some]

section Core

variable {limit outcome all} {r : Runner I T}

theorem Core.setPhase (h : Core limit outcome all r) (phase : RunnerPhase) :
    Core limit outcome all { r with phase } :=
  ⟨h.jobs_eq, h.launched_le, h.perm, h.owners, h.completed_eq, h.length_le, h.selected⟩

theorem Core.recordCancelled (h : Core limit outcome all r) (hc : r.cancelled = true) :
    Core limit outcome all (r.recordFailure .cancelled) := by
  have hs := h.selected
  rw [hc] at hs
  refine ⟨h.jobs_eq, h.launched_le, h.perm, h.owners, h.completed_eq, h.length_le, ?_⟩
  show Selected (selectFailure r.failure .cancelled) (errors outcome r.joined) r.cancelled
  rw [hc]
  exact hs.recordCancelled

theorem Core.cancel (h : Core limit outcome all r) :
    Core limit outcome all { r with cancelled := true } :=
  ⟨h.jobs_eq, h.launched_le, h.perm, h.owners, h.completed_eq, h.length_le,
    ⟨h.selected.none_left, h.selected.first, nofun⟩⟩

theorem map_id_finish (workers : List PacedWorker) (id : Nat) :
    (workers.map fun w => if w.id = id then { w with finished := true } else w).map PacedWorker.id =
      workers.map PacedWorker.id := by
  rw [List.map_map]
  refine List.map_congr_left fun w _ => ?_
  show (if w.id = id then { w with finished := true } else w).id = w.id
  by_cases h : w.id = id
  · rw [if_pos h]
  · rw [if_neg h]

theorem Core.finish (h : Core limit outcome all r) (id : Nat) :
    Core limit outcome all (r.finish id) := by
  refine ⟨h.jobs_eq, h.launched_le, ?_, ?_, h.completed_eq, ?_, h.selected⟩
  · show (r.joined ++ List.map PacedWorker.id (List.map _ r.workers)).Perm _
    rw [map_id_finish]
    exact h.perm
  · intro w hw
    obtain ⟨v, hv, rfl⟩ := List.mem_map.mp hw
    have howner := h.owners v hv
    by_cases hid : v.id = id
    · rw [if_pos hid]
      exact howner
    · rw [if_neg hid]
      exact howner
  · show (List.map _ r.workers).length ≤ limit
    rw [List.length_map]
    exact h.length_le

/-- Launching takes the next job of the list. -/
theorem Core.launch (h : Core limit outcome all r) (hlen : r.workers.length < limit) :
    Core limit outcome all r.launch := by
  unfold Runner.launch
  match hj : r.jobs with
  | [] => exact h
  | (owner, input) :: jobs =>
    have hdrop : all.drop r.launched = (owner, input) :: jobs := h.jobs_eq.symm.trans hj
    have hlt : r.launched < all.length := by
      by_contra hge
      rw [List.drop_eq_nil_of_le (Nat.not_lt.mp hge)] at hdrop
      cases hdrop
    have hget : all[r.launched]? = some (owner, input) := by
      rw [← Nat.add_zero r.launched, ← List.getElem?_drop, hdrop]
      rfl
    have hrest : jobs = all.drop (r.launched + 1) := by
      rw [← List.tail_drop, hdrop]
      rfl
    refine ⟨hrest, hlt, ?_, ?_, h.completed_eq, ?_, h.selected⟩
    · show (r.joined ++ (r.workers ++ [_]).map PacedWorker.id).Perm (List.range (r.launched + 1))
      rw [List.map_append, ← List.append_assoc, List.range_succ]
      exact h.perm.append_right _
    · intro w hw
      rcases List.mem_append.mp hw with hw | hw
      · exact h.owners w hw
      · rw [List.mem_singleton.mp hw]
        show Option.map Prod.fst all[r.launched]? = some owner
        rw [hget]
        rfl
    · show (r.workers ++ [_]).length ≤ limit
      rw [List.length_append, List.length_singleton]
      exact hlen

/-- Joining a worker adds its output, or its error. -/
theorem Core.collectWorker (h : Core limit outcome all r) {i : Nat} {w : PacedWorker}
    (hw : r.workers[i]? = some w) : Core limit outcome all (r.collectWorker outcome i w) := by
  obtain ⟨hi, hget⟩ := List.getElem?_eq_some_iff.mp hw
  have howner := h.owners w (List.mem_of_getElem? hw)
  have hworkers : (w :: r.workers.eraseIdx i).Perm r.workers := by
    rw [← hget]
    exact List.getElem_cons_eraseIdx_perm hi
  have hperm : (r.joined ++ [w.id] ++ (r.workers.eraseIdx i).map PacedWorker.id).Perm
      (List.range r.launched) := by
    rw [List.append_assoc]
    exact ((hworkers.map PacedWorker.id).append_left r.joined).trans h.perm
  have howners : ∀ v ∈ r.workers.eraseIdx i, all[v.id]?.map Prod.fst = some v.owner :=
    fun v hv => h.owners v (List.mem_of_mem_eraseIdx hv)
  have hlength : (r.workers.eraseIdx i).length ≤ limit :=
    (List.length_eraseIdx_le _ _).trans h.length_le
  have herrors : errors outcome (r.joined ++ [w.id]) =
      errors outcome r.joined ++ (outcome w.id).error?.toList := filterMap_concat _ _ _
  have houtputs : (r.joined ++ [w.id]).filterMap (output outcome all) =
      r.completed ++ (output outcome all w.id).toList := by
    rw [filterMap_concat, ← h.completed_eq]
  unfold Runner.collectWorker
  cases ho : outcome w.id with
  | ok t =>
    obtain ⟨job, hjob, hfst⟩ := Option.map_eq_some_iff.mp howner
    have hout : output outcome all w.id = some (w.owner, t) := by
      unfold output
      rw [ho, ← hfst, hjob]
      rfl
    rw [hout] at houtputs
    rw [ho] at herrors
    refine ⟨h.jobs_eq, h.launched_le, hperm, howners, houtputs.symm, hlength, ?_⟩
    show Selected r.failure (errors outcome (r.joined ++ [w.id])) r.cancelled
    rw [herrors]
    exact (List.append_nil (errors outcome r.joined)).symm ▸ h.selected
  | error e =>
    have hout : output outcome all w.id = none := by
      unfold output
      rw [ho]
    rw [hout] at houtputs
    rw [ho] at herrors
    refine ⟨h.jobs_eq, h.launched_le, hperm, howners,
      (houtputs.trans (List.append_nil _)).symm, hlength, ?_⟩
    show Selected (selectFailure r.failure e) (errors outcome (r.joined ++ [w.id])) r.cancelled
    rw [herrors]
    exact h.selected.record e
  | panicked =>
    have hout : output outcome all w.id = none := by
      unfold output
      rw [ho]
    rw [hout] at houtputs
    rw [ho] at herrors
    refine ⟨h.jobs_eq, h.launched_le, hperm, howners,
      (houtputs.trans (List.append_nil _)).symm, hlength, ?_⟩
    show Selected (selectFailure r.failure _) (errors outcome (r.joined ++ [w.id])) r.cancelled
    rw [herrors]
    exact h.selected.record _

end Core

/-! ### Steps -/

section Steps

variable {limit outcome all} {r r' : Runner I T}

theorem Core.enter (h : Core limit outcome all r) {phase : RunnerPhase} (hp : r.Allows phase) :
    Inv limit outcome all { r with phase } := by
  refine ⟨h.setPhase phase, ?_⟩
  cases phase <;> exact hp

theorem collectWorker_jobs (r : Runner I T) (i : Nat) (w : PacedWorker) :
    (r.collectWorker outcome i w).jobs = r.jobs := by
  unfold Runner.collectWorker
  cases outcome w.id <;> rfl

theorem selectFailure_ne_none (failure : Option ProbeError) (e : ProbeError) :
    selectFailure failure e ≠ none := by
  unfold selectFailure
  cases failure with
  | none => exact nofun
  | some f =>
    dsimp only
    split
    · exact nofun
    · exact nofun

/-- A failure stays when a worker is joined. -/
theorem collectWorker_failure {i : Nat} {w : PacedWorker}
    (h : (r.collectWorker outcome i w).failure = none) : r.failure = none := by
  unfold Runner.collectWorker at h
  cases ho : outcome w.id with
  | ok t =>
    rw [ho] at h
    exact h
  | error e =>
    rw [ho] at h
    exact absurd h (selectFailure_ne_none _ _)
  | panicked =>
    rw [ho] at h
    exact absurd h (selectFailure_ne_none _ _)

/-- A cancellation that is seen ends the loop over the jobs. -/
theorem Core.stop (h : Core limit outcome all r) (hc : r.cancelled = true) :
    Inv limit outcome all { r.recordFailure .cancelled with phase := .draining } :=
  (h.recordCancelled hc).enter fun hf => absurd hf (selectFailure_ne_none _ _)

theorem Inv.turn (h : Inv limit outcome all r) (due : Bool) :
    Inv limit outcome all (r.turn limit outcome due) := by
  obtain ⟨hcore, hphase⟩ := h
  unfold Runner.turn
  match hp : r.phase with
  | .next =>
    dsimp only
    refine hcore.enter ?_
    by_cases hj : r.jobs.isEmpty
    · rw [if_pos hj]
      exact fun _ => List.isEmpty_iff.mp hj
    · rw [if_neg hj]
      exact fun hnil => hj (List.isEmpty_iff.mpr hnil)
  | .waiting =>
    rw [hp] at hphase
    dsimp only
    by_cases hc : r.cancelled = true
    · rw [if_pos hc]
      exact hcore.stop hc
    · rw [if_neg hc]
      by_cases hd : due = true
      · rw [if_pos hd]
        exact hcore.enter hphase
      · rw [if_neg hd]
        exact ⟨hcore, by rw [hp]; exact hphase⟩
  | .scanning i =>
    rw [hp] at hphase
    dsimp only
    match hw : r.workers[i]? with
    | none => exact hcore.enter hphase
    | some w =>
      dsimp only
      by_cases hf : w.finished = true
      · rw [if_pos hf]
        refine (hcore.collectWorker hw).enter ?_
        show (r.collectWorker outcome i w).jobs ≠ []
        rw [collectWorker_jobs]
        exact hphase
      · rw [if_neg hf]
        exact hcore.enter hphase
  | .checking =>
    rw [hp] at hphase
    dsimp only
    by_cases hc : r.cancelled = true
    · rw [if_pos hc]
      exact hcore.stop hc
    · rw [if_neg hc]
      by_cases hf : r.failure.isSome = true
      · rw [if_pos hf]
        refine hcore.enter fun hnone => ?_
        rw [hnone] at hf
        cases hf
      · rw [if_neg hf]
        by_cases hlen : r.workers.length < limit
        · rw [if_pos hlen]
          exact (hcore.launch hlen).enter trivial
        · rw [if_neg hlen]
          exact hcore.enter hphase
  | .draining =>
    rw [hp] at hphase
    dsimp only
    by_cases hw : r.workers.isEmpty = true
    · rw [if_pos hw]
      exact hcore.enter ⟨hphase, List.isEmpty_iff.mp hw⟩
    · rw [if_neg hw]
      by_cases hc : (r.cancelled && r.failure.isNone) = true
      · rw [if_pos hc]
        exact (hcore.recordCancelled (Bool.and_eq_true_iff.mp hc).1).enter
          fun hf => absurd hf (selectFailure_ne_none _ _)
      · rw [if_neg hc]
        exact hcore.enter hphase
  | .drainScanning i =>
    rw [hp] at hphase
    dsimp only
    match hw : r.workers[i]? with
    | none => exact hcore.enter hphase
    | some w =>
      dsimp only
      by_cases hf : w.finished = true
      · rw [if_pos hf]
        refine (hcore.collectWorker hw).enter fun hnone => ?_
        rw [collectWorker_jobs]
        exact hphase (collectWorker_failure hnone)
      · rw [if_neg hf]
        exact hcore.enter hphase
  | .returned => exact ⟨hcore, by rw [hp] at hphase ⊢; exact hphase⟩

/-- Every event keeps the invariant. -/
theorem Inv.step (h : Inv limit outcome all r) {event : RunnerEvent}
    (hs : r.step limit outcome event = some r') : Inv limit outcome all r' := by
  cases event with
  | turn due =>
    dsimp only [Runner.step] at hs
    by_cases hp : r.phase = .returned
    · rw [if_pos hp] at hs
      cases hs
    · rw [if_neg hp] at hs
      cases hs
      exact h.turn due
  | finish id =>
    dsimp only [Runner.step] at hs
    by_cases hany : (r.workers.any fun w => w.id = id && !w.finished) = true
    · rw [if_pos hany] at hs
      cases hs
      refine ⟨h.core.finish id, ?_⟩
      have hphase := h.phase
      show (r.finish id).Allows r.phase
      cases hp : r.phase with
      | returned =>
        rw [hp] at hphase
        refine ⟨hphase.1, ?_⟩
        show r.workers.map _ = []
        rw [hphase.2, List.map_nil]
      | next => trivial
      | waiting | scanning | checking | draining | drainScanning =>
        rw [hp] at hphase
        exact hphase
    · rw [if_neg hany] at hs
      cases hs
  | cancel =>
    cases hs
    refine ⟨h.core.cancel, ?_⟩
    have hphase := h.phase
    show Allows { r with cancelled := true } r.phase
    cases hp : r.phase <;> rw [hp] at hphase <;> exact hphase

theorem Inv.start : Inv limit outcome all (start all : Runner I T) where
  core :=
    { jobs_eq := rfl
      launched_le := Nat.zero_le _
      perm := .refl _
      owners := nofun
      completed_eq := rfl
      length_le := Nat.zero_le _
      selected := ⟨fun _ => rfl, nofun, fun _ _ => rfl⟩ }
  phase := trivial

end Steps

/-- However the workers finish and whenever the run is cancelled: the launched
jobs are the first of the list, at most `maxOutstanding` workers are left at any
time, and a runner that returned has collected each launched job once. -/
theorem run_concurrent {jobs : List (Nat × I)} {maxOutstanding : Nat} {descriptors : Option Nat}
    {events : List RunnerEvent} {r : Runner I T}
    (h : runSteps (step (clampOutstanding maxOutstanding descriptors) outcome) (start jobs) events =
      some r) :
    r.workers.length ≤ maxOutstanding ∧
    r.launched ≤ jobs.length ∧
    (r.phase = .returned →
      r.joined.Perm (List.range r.launched) ∧
      r.completed.Perm ((List.range r.launched).filterMap (output outcome jobs)) ∧
      (r.failure = none →
        r.launched = jobs.length ∧ ∀ id < jobs.length, (outcome id).error? = none) ∧
      (r.cancelled = false → (∀ id < r.launched, (outcome id).error? = none) → r.failure = none) ∧
      ∀ e, r.failure = some e → e = firstError (errors outcome r.joined)) := by
  obtain ⟨hcore, hphase⟩ := run_invariant (fun _ _ _ hi hs => Inv.step hi hs) Inv.start h
  refine ⟨hcore.length_le.trans (clampOutstanding_le _ _), hcore.launched_le, fun hp => ?_⟩
  rw [hp] at hphase
  obtain ⟨hjobs, hworkers⟩ := hphase
  have hperm := hcore.perm
  rw [hworkers, List.map_nil, List.append_nil] at hperm
  have hmem : ∀ id, id ∈ r.joined ↔ id < r.launched := fun id => hperm.mem_iff.trans List.mem_range
  refine ⟨hperm, hcore.completed_eq ▸ hperm.filterMap _, ?_, ?_, hcore.selected.first⟩
  · intro hf
    have hall : r.launched = jobs.length := by
      have hdrop := hcore.jobs_eq.symm.trans (hjobs hf)
      have hle := List.drop_eq_nil_iff.mp hdrop
      have hge := hcore.launched_le
      omega
    refine ⟨hall, fun id hid => ?_⟩
    have hnil := List.filterMap_eq_nil_iff.mp (hcore.selected.none_left hf)
    exact hnil id ((hmem id).mpr (hall ▸ hid))
  · intro hc hok
    refine hcore.selected.quiet hc (List.filterMap_eq_nil_iff.mpr fun id hid => ?_)
    exact hok id ((hmem id).mp hid)

/-- Two jobs at once; the first succeeds and the second fails. -/
def twoOutcomes : Nat → Outcome Nat
  | 0 => .ok 70
  | _ => .error (.unsupported "probe" "no raw socket")

def twoEvents : List RunnerEvent :=
  List.replicate 10 (.turn true) ++ [.finish 1, .finish 0] ++ List.replicate 5 (.turn true)

theorem run_concurrent_two :
    ∃ r, runSteps (step (clampOutstanding 2 none) twoOutcomes) (start [(7, ()), (8, ())]) twoEvents =
        some r ∧
      r.completed.Perm [(7, 70)] :=
  ⟨_, rfl, ((@run_concurrent Unit Nat twoOutcomes [(7, ()), (8, ())] 2 none twoEvents _ rfl).2.2
    rfl).2.1⟩

end Runner

end NetworkLantern.Path
