import NetworkLantern.Lib.Checked
import NetworkLantern.Lib.RunningMean
import NetworkLantern.Packet.Types

/-!
# Statistics of samples

The statistics of a list of samples, and the same ones kept sample by sample.
Times are of any type with the operations the code uses on `f64`; over an ordered
field, where they are exact, both agree (`streaming_eq_batch`).
-/

namespace NetworkLantern.Path

open NetworkLantern Checked

inductive SampleStatus
  | reply | timeExceeded | unreachable | timeout
  /-- Sent, but observation stopped before a reply or its timeout: an attempt, not a loss. -/
  | cancelled
deriving DecidableEq, Repr

structure Sample (K : Type) where
  sequence : UInt16
  hop : Option Packet.IpAddr
  elapsedMs : Option K
  status : SampleStatus
  nextHopMtu : Option UInt32
  mpls : List Packet.MplsLabel
deriving DecidableEq

structure Statistics (K : Type) where
  sent : Nat
  received : Nat
  cancelled : Nat
  lossPercent : K
  lastMs : Option K
  averageMs : Option K
  bestMs : Option K
  worstMs : Option K
  stddevMs : Option K
deriving DecidableEq

/-- The times of the samples that were not cancelled. -/
def sampleValues {K : Type} (samples : List (Sample K)) : List K :=
  (samples.filter fun sample => sample.status ≠ .cancelled).filterMap (·.elapsedMs)

/-- `Iterator::reduce`. -/
def reduce {K : Type} (f : K → K → K) : List K → Option K
  | [] => none
  | x :: xs => some (xs.foldl f x)

section
variable {K : Type} [Zero K] [Add K] [Sub K] [Mul K] [Div K] [NatCast K] [Min K] [Max K]

/-- The loss of `finalized` samples, `received` of which were answered: nothing of none, else what
`percent` says of the lost ones. -/
def lossOf (finalized received : Nat) (percent : K → K → K) : Checked Empty K :=
  if finalized = 0 then .ok 0
  else do
    let lost ← sub finalized received
    return percent (lost : K) (finalized : K)

/-- `Statistics::from_samples`, with the square root it uses.  Lengths are cut to 32 bits. -/
def Statistics.fromSamples (sqrt : K → K) (samples : List (Sample K)) :
    Checked Empty (Statistics K) := do
  let values := sampleValues samples
  let sent := samples.length % 2 ^ 32
  let received := values.length % 2 ^ 32
  let cancelled := (samples.countP fun sample => sample.status = .cancelled) % 2 ^ 32
  let finalized ← sub sent cancelled
  let averageMs := if values.isEmpty then none else some (values.sum / (values.length : K))
  let stddevMs := averageMs.map fun mean =>
    sqrt ((values.map fun value => (value - mean) * (value - mean)).sum / (values.length : K))
  let lossPercent ← lossOf finalized received fun lost finalized =>
    lost * ((100 : Nat) : K) / finalized
  return { sent, received, cancelled, lossPercent, lastMs := values.getLast?, averageMs
           bestMs := reduce min values, worstMs := reduce max values, stddevMs }

structure Moments (K : Type) where
  sent : Nat
  received : Nat
  cancelled : Nat
  mean : K
  m2 : K
  last : Option K
  best : Option K
  worst : Option K
deriving DecidableEq

namespace Moments

/-- `Moments::default()`. -/
def default : Moments K := ⟨0, 0, 0, 0, 0, none, none, none⟩

def record (m : Moments K) (sample : Sample K) : Checked Empty (Moments K) := do
  let sent ← bump (2 ^ 32) m.sent
  if sample.status = .cancelled then do
    let cancelled ← bump (2 ^ 32) m.cancelled
    return { m with sent, cancelled }
  else
    match sample.elapsedMs with
    | none => return { m with sent }
    | some value => do
      let received ← bump (2 ^ 32) m.received
      let delta := value - m.mean
      let mean := m.mean + delta / (received : K)
      let m2 := m.m2 + delta * (value - mean)
      return { m with
        sent, received, mean, m2, last := some value
        best := some (m.best.elim value fun old => min old value)
        worst := some (m.worst.elim value fun old => max old value) }

def finish (sqrt : K → K) (m : Moments K) : Checked Empty (Statistics K) := do
  let finalized ← sub m.sent m.cancelled
  let lossPercent ← lossOf finalized m.received fun lost finalized =>
    ((100 : Nat) : K) * lost / finalized
  return { sent := m.sent, received := m.received, cancelled := m.cancelled, lossPercent
           lastMs := m.last
           averageMs := if 0 < m.received then some m.mean else none
           bestMs := m.best, worstMs := m.worst
           stddevMs := if 0 < m.received then some (sqrt (max m.m2 0 / (m.received : K))) else none }

/-- One sample at a time. -/
def recordAll (samples : List (Sample K)) : Checked Empty (Moments K) :=
  samples.foldlM record default

end Moments

end

/-! ## What is kept of the samples so far -/

theorem reduce_concat {K : Type} (f : K → K → K) (xs : List K) (x : K) :
    reduce f (xs ++ [x]) = some ((reduce f xs).elim x fun old => f old x) := by
  cases xs with
  | nil => rfl
  | cons y xs =>
    show some ((xs ++ [x]).foldl f y) = _
    rw [List.foldl_append]
    rfl

section
variable {K : Type}

theorem sampleValues_concat (samples : List (Sample K)) (sample : Sample K) :
    sampleValues (samples ++ [sample]) =
      sampleValues samples ++
        if sample.status = .cancelled then [] else sample.elapsedMs.toList := by
  rw [sampleValues, sampleValues, List.filter_append, List.filterMap_append]
  congr 1
  by_cases h : sample.status = .cancelled
  · simp [h]
  · cases he : sample.elapsedMs with
    | none => simp [h, he]
    | some value => simp [h, he]

/-- Every sample was cancelled, answered or lost. -/
theorem answered_add_cancelled_le (samples : List (Sample K)) :
    (sampleValues samples).length + samples.countP (fun sample => sample.status = .cancelled) ≤
      samples.length := by
  have hvalues : (sampleValues samples).length ≤
      samples.countP fun sample => sample.status ≠ .cancelled := by
    rw [List.countP_eq_length_filter]
    exact List.length_filterMap_le _ _
  have hsplit := List.length_eq_countP_add_countP
    (fun sample : Sample K => decide (sample.status = .cancelled)) (l := samples)
  have hnot : samples.countP (fun sample => ¬ decide (sample.status = .cancelled) = true) =
      samples.countP fun sample => sample.status ≠ .cancelled := by simp
  omega

end

section
variable {K : Type} [Field K] [LinearOrder K]

/-- What is kept of `samples`. -/
structure Moments.Of (samples : List (Sample K)) (m : Moments K) : Prop where
  sent : m.sent = samples.length
  received : m.received = (sampleValues samples).length
  cancelled : m.cancelled = samples.countP fun sample => sample.status = .cancelled
  mean : m.mean = NetworkLantern.mean (sampleValues samples)
  m2 : m.m2 = squares (sampleValues samples)
  last : m.last = (sampleValues samples).getLast?
  best : m.best = reduce min (sampleValues samples)
  worst : m.worst = reduce max (sampleValues samples)

theorem Moments.Of.default : Moments.Of [] (Moments.default : Moments K) where
  sent := rfl
  received := rfl
  cancelled := rfl
  mean := mean_nil.symm
  m2 := rfl
  last := rfl
  best := rfl
  worst := rfl

/-- Samples that bring no value move the counts only. -/
theorem Moments.Of.unanswered {samples more : List (Sample K)} {m : Moments K}
    (h : Moments.Of samples m) (hvalues : sampleValues more = sampleValues samples)
    {sent cancelled : Nat} (hsent : sent = more.length)
    (hcancelled : cancelled = more.countP fun sample => sample.status = .cancelled) :
    Moments.Of more { m with sent, cancelled } := by
  constructor
  · exact hsent
  · rw [hvalues]
    exact h.received
  · exact hcancelled
  · rw [hvalues]
    exact h.mean
  · rw [hvalues]
    exact h.m2
  · rw [hvalues]
    exact h.last
  · rw [hvalues]
    exact h.best
  · rw [hvalues]
    exact h.worst

variable [IsStrictOrderedRing K]

/-- Recording a sample keeps what is kept of one sample more, unless a count overflows. -/
theorem Moments.Of.record {samples : List (Sample K)} {m : Moments K} (h : Moments.Of samples m)
    (sample : Sample K) (hlen : samples.length + 1 < 2 ^ 32) :
    ∃ m', m.record sample = .ok m' ∧ Moments.Of (samples ++ [sample]) m' := by
  have hcounts := answered_add_cancelled_le samples
  have hlength : (samples ++ [sample]).length = samples.length + 1 := List.length_append
  have hvalues := sampleValues_concat samples sample
  have hcancelled : (samples ++ [sample]).countP (fun sample => sample.status = .cancelled) =
      (samples.countP fun sample => sample.status = .cancelled) +
        if sample.status = .cancelled then 1 else 0 := by
    rw [List.countP_append, List.countP_singleton]
    simp
  unfold Moments.record
  rw [h.sent, bump_ok hlen, except_ok_bind]
  by_cases hstatus : sample.status = .cancelled
  · rw [if_pos hstatus] at hvalues hcancelled
    rw [List.append_nil] at hvalues
    rw [if_pos hstatus, h.cancelled, bump_ok (by omega), except_ok_bind]
    exact ⟨_, rfl, h.unanswered hvalues hlength.symm hcancelled.symm⟩
  · rw [if_neg hstatus] at hvalues hcancelled
    rw [if_neg hstatus]
    cases helapsed : sample.elapsedMs with
    | none =>
      rw [helapsed, Option.toList_none, List.append_nil] at hvalues
      exact ⟨_, rfl, h.unanswered hvalues hlength.symm (h.cancelled.trans hcancelled.symm)⟩
    | some value =>
      rw [helapsed, Option.toList_some] at hvalues
      have hmean : m.mean + (value - m.mean) / (((sampleValues samples).length + 1 : Nat) : K) =
          NetworkLantern.mean (sampleValues samples ++ [value]) := by
        rw [h.mean, mean_concat]
      rw [h.received]
      dsimp only
      rw [bump_ok (by omega), except_ok_bind, hmean]
      refine ⟨_, rfl, ?_⟩
      constructor
      · exact hlength.symm
      · rw [hvalues, List.length_append]
        rfl
      · rw [hcancelled]
        exact h.cancelled
      · rw [hvalues]
      · rw [hvalues, squares_concat, ← h.m2, ← h.mean]
      · rw [hvalues, List.getLast?_concat]
      · rw [hvalues, reduce_concat, ← h.best]
      · rw [hvalues, reduce_concat, ← h.worst]

theorem recordAll_ok {samples : List (Sample K)} (h : samples.length < 2 ^ 32) :
    ∃ m, Moments.recordAll samples = .ok m ∧ Moments.Of samples m :=
  foldlM_ok (fun sample hof hlen => hof.record sample hlen) Moments.Of.default h

omit [IsStrictOrderedRing K] in
/-- The count of the samples overflows at the 2^32nd of them. -/
theorem Moments.Of.overflow {samples : List (Sample K)} {m : Moments K} (h : Moments.Of samples m)
    (sample : Sample K) (hlen : samples.length + 1 = 2 ^ 32) : m.record sample = panic := by
  have hbump : (bump (2 ^ 32) m.sent : Checked Empty Nat) = panic :=
    if_neg (by rw [h.sent, hlen]; exact Nat.lt_irrefl _)
  rw [Moments.record, hbump]
  rfl

theorem recordAll_panic {samples : List (Sample K)} (h : 2 ^ 32 ≤ samples.length) :
    Moments.recordAll samples = panic :=
  foldlM_error (fun sample hof hlen => hof.record sample hlen)
    (fun sample hof hlen => hof.overflow sample hlen) (by decide) Moments.Of.default h

/-! ## The end -/

omit [LinearOrder K] [IsStrictOrderedRing K] in
theorem lossOf_ok {finalized received : Nat} (h : received ≤ finalized) (percent : K → K → K) :
    ∃ loss, lossOf finalized received percent = .ok loss := by
  unfold lossOf
  by_cases hzero : finalized = 0
  · rw [if_pos hzero]
    exact ⟨0, rfl⟩
  · rw [if_neg hzero, sub_ok h]
    exact ⟨_, rfl⟩

/-- The mean and the deviation, if any value was received. -/
theorem Moments.Of.average {samples : List (Sample K)} {m : Moments K} (h : Moments.Of samples m)
    (sqrt : K → K) :
    let values := sampleValues samples
    let averageMs := if values.isEmpty then none else some (values.sum / (values.length : K))
    (if 0 < m.received then some m.mean else none) = averageMs ∧
    (if 0 < m.received then some (sqrt (max m.m2 0 / (m.received : K))) else none) =
      averageMs.map fun mean =>
        sqrt ((values.map fun value => (value - mean) * (value - mean)).sum /
          (values.length : K)) := by
  have hm2 : max m.m2 0 = m.m2 := by
    rw [h.m2]
    exact max_eq_left (squares_nonneg _)
  rw [hm2, h.received, h.mean, h.m2]
  cases sampleValues samples with
  | nil => exact ⟨rfl, rfl⟩
  | cons value values => exact ⟨rfl, rfl⟩

/-- What was kept of the samples ends as the statistics of all of them. -/
theorem Moments.Of.finish {samples : List (Sample K)} {m : Moments K} (h : Moments.Of samples m)
    (sqrt : K → K) (hlen : samples.length < 2 ^ 32) :
    ∃ s, m.finish sqrt = .ok s ∧ Statistics.fromSamples sqrt samples = .ok s := by
  have hcounts := answered_add_cancelled_le samples
  have hsent : samples.length % 2 ^ 32 = m.sent := by
    rw [h.sent, Nat.mod_eq_of_lt hlen]
  have hreceived : (sampleValues samples).length % 2 ^ 32 = m.received := by
    rw [h.received]
    exact Nat.mod_eq_of_lt (by omega)
  have hcancelled : (samples.countP fun sample => sample.status = .cancelled) % 2 ^ 32 =
      m.cancelled := by
    rw [h.cancelled]
    exact Nat.mod_eq_of_lt (by omega)
  have hfinalized : m.cancelled ≤ m.sent := by
    rw [h.sent, h.cancelled]
    omega
  have hlost : m.received ≤ m.sent - m.cancelled := by
    rw [h.sent, h.cancelled, h.received]
    omega
  obtain ⟨haverage, hstddev⟩ := h.average sqrt
  have hloss : (fun lost finalized : K => lost * ((100 : Nat) : K) / finalized) =
      fun lost finalized => ((100 : Nat) : K) * lost / finalized := by
    funext lost finalized
    rw [mul_comm lost]
  obtain ⟨loss, hpercent⟩ := lossOf_ok (K := K) hlost fun lost finalized =>
    ((100 : Nat) : K) * lost / finalized
  refine ⟨{
    sent := m.sent, received := m.received, cancelled := m.cancelled
    lossPercent := loss, lastMs := m.last
    averageMs := if 0 < m.received then some m.mean else none
    bestMs := m.best, worstMs := m.worst
    stddevMs := if 0 < m.received then some (sqrt (max m.m2 0 / (m.received : K))) else none },
    ?_, ?_⟩
  · rw [Moments.finish, sub_ok hfinalized, except_ok_bind, hpercent]
    rfl
  · rw [Statistics.fromSamples]
    dsimp only
    rw [hsent, hreceived, hcancelled, sub_ok hfinalized, except_ok_bind, hloss, hpercent,
      ← hstddev, ← haverage, ← h.last, ← h.best, ← h.worst]
    rfl

/-- Statistics kept sample by sample are those of the whole list, and no count underflows; only
the count of the samples can overflow, and only where there are 2^32 of them. -/
theorem streaming_eq_batch (sqrt : K → K) (samples : List (Sample K)) :
    if samples.length < 2 ^ 32 then
      ∃ s, (do (← Moments.recordAll samples).finish sqrt) = .ok s ∧
        Statistics.fromSamples sqrt samples = .ok s
    else Moments.recordAll samples = panic := by
  by_cases hlen : samples.length < 2 ^ 32
  · obtain ⟨m, hm, hof⟩ := recordAll_ok hlen
    rw [if_pos hlen, hm]
    exact hof.finish sqrt hlen
  · rw [if_neg hlen]
    exact recordAll_panic (Nat.not_lt.mp hlen)

end

/-- Answered in 1 ms and 3 ms, lost, and cancelled. -/
def fourSamples : List (Sample ℚ) :=
  [⟨0, none, some 1, .reply, none, []⟩, ⟨1, none, none, .timeout, none, []⟩,
    ⟨2, none, some 3, .timeExceeded, none, []⟩, ⟨3, none, some 9, .cancelled, none, []⟩]

theorem streaming_eq_batch_four :
    ∃ s, (do (← Moments.recordAll fourSamples).finish id) = .ok s ∧
      Statistics.fromSamples id fourSamples = .ok s ∧ s.averageMs = some 2 ∧
      s.stddevMs = some 1 := by
  have h := streaming_eq_batch (K := ℚ) id fourSamples
  rw [if_pos (by decide)] at h
  obtain ⟨s, hstream, hbatch⟩ := h
  refine ⟨s, hstream, hbatch, ?_⟩
  have hbatch' : Statistics.fromSamples id fourSamples = .ok
      { sent := 4, received := 2, cancelled := 1, lossPercent := 100 / 3, lastMs := some 3
        averageMs := some 2, bestMs := some 1, worstMs := some 3, stddevMs := some 1 } := by
    decide +kernel
  rw [hbatch] at hbatch'
  cases hbatch'
  exact ⟨rfl, rfl⟩

end NetworkLantern.Path
