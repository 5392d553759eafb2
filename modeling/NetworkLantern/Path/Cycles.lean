import NetworkLantern.Lib.Checked
import NetworkLantern.Lib.Runs
import NetworkLantern.Packet.Types
import NetworkLantern.Path.Settings

/-!
# The cycles of a trace run

A run sends one probe at a time, hop after hop and cycle after cycle, while the
answers to earlier probes are still out.  `TraceLoop.step` takes its events in
any order: dispatches, answers, deadlines, a cancellation, and afterwards the
drain.  Everything the loop indexes, adds or subtracts is checked.
-/

namespace NetworkLantern.Path

open NetworkLantern Checked

/-! ## The scheduler -/

/-- MTR's adaptive interval-per-host scheduler. -/
structure Cadence where
  cycles : Nat
  ttl : Nat
  deadline : Nat
  firstTtl : Nat
  maxTtl : Nat
  interval : Duration
  estimatedHosts : Nat

namespace Cadence

def new (start : Nat) (interval : Duration) (firstTtl maxTtl : Nat) : Cadence where
  cycles := 0
  ttl := firstTtl
  deadline := start + interval / 10
  firstTtl
  maxTtl
  interval
  estimatedHosts := 10

/-- A cycle ends at the destination, after more than twelve silent hops, and at
the last hop. -/
def dispatched (c : Cadence) (now : Nat) (known : List Bool) (destination : Option Nat) :
    Checked Empty Cadence := do
  let hops ← sliceOf known c.firstTtl c.ttl
  let unknown := hops.countP fun known => !known
  if destination.any (fun bound => bound ≤ c.ttl) ∨ 12 < unknown ∨ c.ttl = c.maxTtl then do
    let hosts ← sub (min (destination.getD c.ttl) c.ttl) c.firstTtl
    let estimatedHosts := hosts + 1
    let cycles ← bump 65536 c.cycles
    return { c with estimatedHosts, cycles, ttl := c.firstTtl
                    deadline := now + c.interval / estimatedHosts }
  else do
    let ttl ← bump 256 c.ttl
    return { c with ttl, deadline := now + c.interval / c.estimatedHosts }

end Cadence

/-! ## The loop -/

def MAX_OUTSTANDING_PROBES : Nat := 512

def FINAL_REPLY_GRACE : Duration := fromSecs 5

def MAX_FAILED_CYCLES : Nat := 3

structure HopResult (Sample : Type) where
  address : Option Packet.IpAddr
  reachedDestination : Bool
  samples : List Sample

/-- What joining a task yields; `panicked` is a join error. -/
inductive TaskResult (Sample : Type)
  | hop (hop : HopResult Sample)
  | failed (e : ProbeError)
  | panicked

structure ProbeTask where
  cycle : Nat
  ttl : Nat
deriving DecidableEq

inductive TraceRunStatus
  | completed | partialFailure | timedOut | cancelled
deriving DecidableEq

inductive LoopPhase
  | running | draining | done | panicked
deriving DecidableEq

structure TraceLoop (Sample : Type) where
  cadence : Cadence
  /-- The probes that are out. -/
  tasks : List ProbeTask
  pending : List Nat
  completedCycles : Nat
  destinationBound : Option Nat
  knownHops : List Bool
  cycleHadOk : List Bool
  failedCycleStreak : Nat
  samplesByHop : List (List Sample)
  status : TraceRunStatus
  finalGraceDeadline : Option Nat
  normalGraceExpired : Bool
  /-- The probes whose tasks panicked. -/
  lost : List ProbeTask
  phase : LoopPhase

def ProbeError.fatal : ProbeError → Bool
  | .permission .. | .unsupported .. => true
  | _ => false

inductive LoopEvent (Sample : Type)
  | cancelled
  | timedOut
  | graceExpired
  /-- The task at a place in the set is joined. -/
  | join (i : Nat) (result : TaskResult Sample)
  | dispatch (now : Nat)
  | shutdownExpired
  /-- The drain finds no task left. -/
  | drained

namespace TraceLoop

variable {Sample : Type} (settings : TraceSettings) (settle : Bool → Sample → Sample)

def start (now : Nat) : TraceLoop Sample where
  cadence := Cadence.new now settings.interval settings.firstTtl.toNat settings.maxHops.toNat
  tasks := []
  pending := List.replicate settings.cycles.toNat 0
  completedCycles := 0
  destinationBound := none
  knownHops := List.replicate (settings.maxHops.toNat + 1) false
  cycleHadOk := List.replicate settings.cycles.toNat false
  failedCycleStreak := 0
  samplesByHop := List.replicate (settings.maxHops.toNat + 1) []
  status := .completed
  finalGraceDeadline := none
  normalGraceExpired := false
  lost := []
  phase := .running

/-- The accounting of both loops, and whether it finished the cycle. -/
def finishProbe (l : TraceLoop Sample) (t : ProbeTask) :
    Checked Empty (TraceLoop Sample × Bool) := do
  let count ← getAt l.pending t.cycle
  let count ← sub count 1
  let pending ← setAt l.pending t.cycle count
  if t.cycle < l.cadence.cycles ∧ count = 0 then do
    let completedCycles ← bump 65536 l.completedCycles
    return ({ l with pending, completedCycles }, true)
  else return ({ l with pending }, false)

/-- `samples_by_hop[ttl].record(sample)` for each sample. -/
def recordSamples (l : TraceLoop Sample) (ttl : Nat) (samples : List Sample) :
    Checked Empty (TraceLoop Sample) :=
  if samples.isEmpty then .ok l
  else do
    let recorded ← getAt l.samplesByHop ttl
    let samplesByHop ← setAt l.samplesByHop ttl (recorded ++ samples)
    return { l with samplesByHop }

/-- A hop answered, or not in time. -/
def acceptHop (l : TraceLoop Sample) (t : ProbeTask) (hop : HopResult Sample) (finished : Bool) :
    Checked Empty (TraceLoop Sample) := do
  let cycleHadOk ← setAt l.cycleHadOk t.cycle true
  let known ← getAt l.knownHops t.ttl
  let knownHops ← setAt l.knownHops t.ttl (known || hop.address.isSome)
  let destinationBound :=
    if hop.reachedDestination then
      some (match l.destinationBound with | none => t.ttl | some old => min old t.ttl)
    else l.destinationBound
  let l ← { l with cycleHadOk, knownHops, destinationBound }.recordSamples t.ttl hop.samples
  if finished then do
    let hadOk ← getAt l.cycleHadOk t.cycle
    return { l with failedCycleStreak := if hadOk then 0 else l.failedCycleStreak }
  else return l

/-- A probe failed. -/
def acceptFailure (l : TraceLoop Sample) (t : ProbeTask) (e : ProbeError) (finished : Bool) :
    Checked Empty (TraceLoop Sample) :=
  if e.fatal then .ok { l with status := .partialFailure, phase := .draining }
  else if finished then do
    let hadOk ← getAt l.cycleHadOk t.cycle
    if hadOk then return { l with failedCycleStreak := 0 }
    else do
      let failedCycleStreak ← bump 256 l.failedCycleStreak
      if MAX_FAILED_CYCLES ≤ failedCycleStreak then
        return { l with failedCycleStreak, status := .partialFailure, phase := .draining }
      else return { l with failedCycleStreak }
  else .ok l

/-- A task joined by the loop. -/
def joinRunning (l : TraceLoop Sample) (t : ProbeTask) (result : TaskResult Sample) :
    Checked Empty (TraceLoop Sample) :=
  match result with
  | .panicked =>
    .ok { l with lost := t :: l.lost, status := .partialFailure, phase := .draining }
  | .hop hop => do
    let (l, finished) ← l.finishProbe t
    l.acceptHop t hop finished
  | .failed e => do
    let (l, finished) ← l.finishProbe t
    l.acceptFailure t e finished

/-- A task joined by the drain. -/
def joinDraining (l : TraceLoop Sample) (t : ProbeTask) (result : TaskResult Sample) :
    Checked Empty (TraceLoop Sample) :=
  match result with
  | .panicked => .ok { l with lost := t :: l.lost }
  | .hop hop => do
    let (l, _) ← l.finishProbe t
    l.recordSamples t.ttl (hop.samples.map (settle l.normalGraceExpired))
  | .failed _ => do
    let (l, _) ← l.finishProbe t
    return l

def dispatch (l : TraceLoop Sample) (now : Nat) : Checked Empty (TraceLoop Sample) :=
  if MAX_OUTSTANDING_PROBES ≤ l.tasks.length then
    .ok { l with status := .partialFailure, phase := .draining }
  else do
    let task : ProbeTask := ⟨l.cadence.cycles, l.cadence.ttl⟩
    let count ← getAt l.pending task.cycle
    let count ← bump 65536 count
    let pending ← setAt l.pending task.cycle count
    let cadence ← l.cadence.dispatched now l.knownHops l.destinationBound
    let finalGraceDeadline :=
      if cadence.cycles = settings.cycles.toNat then some (cadence.deadline + FINAL_REPLY_GRACE)
      else l.finalGraceDeadline
    return { l with tasks := task :: l.tasks, pending, cadence, finalGraceDeadline }

/-- A computation that panics takes the run with it. -/
def land (l : TraceLoop Sample) : Checked Empty (TraceLoop Sample) → TraceLoop Sample
  | .ok l' => l'
  | .error _ => { l with phase := .panicked }

/-- One event, where it can happen. -/
def step (l : TraceLoop Sample) : LoopEvent Sample → Option (TraceLoop Sample)
  | .cancelled =>
    if l.phase = .running then some { l with status := .cancelled, phase := .draining } else none
  | .timedOut =>
    if l.phase = .running then some { l with status := .timedOut, phase := .draining } else none
  | .graceExpired =>
    if l.phase = .running ∧ l.finalGraceDeadline.isSome then
      some { l with normalGraceExpired := true, phase := .draining }
    else none
  | .join i result =>
    match l.tasks[i]? with
    | none => none
    | some t =>
      let joined := { l with tasks := l.tasks.eraseIdx i }
      if l.phase = .running then some (l.land (joined.joinRunning t result))
      else if l.phase = .draining then some (l.land (joined.joinDraining settle t result))
      else none
  | .dispatch now =>
    if l.phase = .running ∧ l.cadence.cycles < settings.cycles.toNat ∧ l.cadence.deadline ≤ now then
      some (l.land (l.dispatch settings now))
    else none
  | .shutdownExpired =>
    if l.phase = .draining ∧ l.tasks ≠ [] then some { l with phase := .done } else none
  | .drained =>
    if l.phase = .draining ∧ l.tasks = [] then some { l with phase := .done } else none

end TraceLoop

end NetworkLantern.Path
