import NetworkLantern.Lib.Blocks
import NetworkLantern.Path.Basic
import NetworkLantern.Path.Pacing
import NetworkLantern.Path.Statistics

/-!
# Path statistics

Every hop of a trace is probed `probeCount` times, in turn, and the samples of a
hop are sorted by their numbers.  A number is made of the hop and the index in 16
bits, so that large counts and far hops wrap around.  The numbers are distinct and
in the order of dispatch exactly when no hop's block of numbers wraps and no two
blocks overlap (`numbers_in_order_iff`).
-/

namespace NetworkLantern.Path

open NetworkLantern Checked

/-- What path statistics read of a `HopResult`. -/
structure TracedHop where
  ttl : UInt8
  address : Option Packet.IpAddr

structure HopStatistics (K : Type) where
  ttl : UInt8
  address : Option Packet.IpAddr
  statistics : Statistics K

/-- The number of a probe: `u16::from(ttl).wrapping_mul(probe_count).wrapping_add(index)`. -/
def probeSequence (ttl : UInt8) (probeCount index : UInt16) : UInt16 :=
  ttl.toUInt16 * probeCount + index

/-- One round of the hops: the place of each hop, with its ttl and the number of the probe. -/
def hopRound (trace : List TracedHop) (probeCount index : UInt16) : List (Nat × (UInt8 × UInt16)) :=
  trace.zipIdx.map fun (hop, hopIndex) =>
    (hopIndex, (hop.ttl, probeSequence hop.ttl probeCount index))

/-- The probes, in the order of dispatch. -/
def hopJobs (trace : List TracedHop) (probeCount : UInt16) : List (Nat × (UInt8 × UInt16)) :=
  (List.range probeCount.toNat).flatMap fun index =>
    hopRound trace probeCount (UInt16.ofNat index)

section
variable {K : Type}

/-- `samples[owner]`, after every completed probe was pushed to its owner. -/
def samplesOfOwner (completed : List (Nat × Sample K)) (owner : Nat) : List (Sample K) :=
  (completed.filter fun c => c.1 = owner).map Prod.snd

/-- `samples.sort_by_key(|sample| sample.sequence)`: a stable sort. -/
def sortBySequence (samples : List (Sample K)) : List (Sample K) :=
  samples.mergeSort fun a b => a.sequence ≤ b.sequence

/-- What `measure_hops_with_probe` makes of the probes that were run: a failure other than a
cancellation is returned, and a cancellation where there is nothing else to return. -/
def measuredHops [Zero K] [Add K] [Sub K] [Mul K] [Div K] [NatCast K] [Min K] [Max K]
    (sqrt : K → K) (trace : List TracedHop) (completed : List (Nat × Sample K))
    (failure : Option ProbeError) : Checked ProbeError (List (HopStatistics K)) :=
  let empty := trace.zipIdx.all fun (_, owner) => (samplesOfOwner completed owner).isEmpty
  match failure.filter fun error => decide (error ≠ .cancelled) || empty with
  | some error => fail error
  | none => trace.zipIdx.mapM fun (hop, owner) => do
    let samples := sortBySequence (samplesOfOwner completed owner)
    let statistics ← infallible (Statistics.fromSamples sqrt samples)
    return { ttl := hop.ttl, address := (samples.findSome? (·.hop)).or hop.address, statistics }

end

/-! ## Where a number stands -/

/-- The number of a hop's first probe. -/
def blockStart (probeCount : UInt16) (hop : TracedHop) : Nat :=
  hop.ttl.toNat * probeCount.toNat % 65536

theorem probeSequence_toNat (hop : TracedHop) (probeCount : UInt16) (index : Nat) :
    (probeSequence hop.ttl probeCount (UInt16.ofNat index)).toNat =
      (blockStart probeCount hop + index) % 65536 := by
  have httl : hop.ttl.toUInt16.toNat = hop.ttl.toNat := UInt8.toNat_toUInt16 _
  rw [probeSequence, UInt16.toNat_add, UInt16.toNat_mul, httl, UInt16.toNat_ofNat']
  unfold blockStart
  omega

theorem length_hopRound (hops : List TracedHop) (probeCount index : UInt16) :
    (hopRound hops probeCount index).length = hops.length := by
  rw [hopRound, List.length_map, List.length_zipIdx]

/-- The job of a hop in a round. -/
theorem getElem?_hopJobs {hops : List TracedHop} {probeCount : UInt16} {index owner : Nat}
    {hop : TracedHop} (hindex : index < probeCount.toNat) (hhop : hops[owner]? = some hop) :
    (hopJobs hops probeCount)[index * hops.length + owner]? =
      some (owner, (hop.ttl, probeSequence hop.ttl probeCount (UInt16.ofNat index))) := by
  obtain ⟨howner, -⟩ := List.getElem?_eq_some_iff.mp hhop
  have hrange : (List.range probeCount.toNat)[index]? = some index := List.getElem?_range hindex
  rw [hopJobs, getElem?_blocks (fun _ => length_hopRound _ _ _) _ _ howner, hrange,
    Option.bind_some, hopRound, List.getElem?_map, List.getElem?_zipIdx, hhop]
  simp

/-- Every job is one of a hop in a round. -/
theorem hopJobs_of_getElem? {hops : List TracedHop} {probeCount : UInt16} {id : Nat}
    {job : Nat × (UInt8 × UInt16)} (h : (hopJobs hops probeCount)[id]? = some job) :
    ∃ index owner hop, index < probeCount.toNat ∧ hops[owner]? = some hop ∧
      id = index * hops.length + owner ∧
      job = (owner, (hop.ttl, probeSequence hop.ttl probeCount (UInt16.ofNat index))) := by
  have hid : id < probeCount.toNat * hops.length := by
    have hlt := (List.getElem?_eq_some_iff.mp h).1
    rwa [hopJobs, length_blocks fun _ => length_hopRound _ _ _, List.length_range] at hlt
  have hpos : 0 < hops.length := Nat.pos_of_ne_zero fun hzero => by
    rw [hzero, Nat.mul_zero] at hid
    exact Nat.not_lt_zero _ hid
  have howner : id % hops.length < hops.length := Nat.mod_lt _ hpos
  have hindex : id / hops.length < probeCount.toNat := Nat.div_lt_of_lt_mul (by
    rwa [Nat.mul_comm])
  have hdiv : id = id / hops.length * hops.length + id % hops.length :=
    (Nat.div_add_mod' id hops.length).symm
  have hhop := List.getElem?_eq_getElem howner
  refine ⟨_, _, _, hindex, hhop, hdiv, ?_⟩
  have hjob := getElem?_hopJobs hindex hhop
  rw [← hdiv, h] at hjob
  exact Option.some.inj hjob

/-! ## Blocks of numbers -/

/-- No block of numbers wraps around, and no two blocks overlap. -/
def Fits (hops : List TracedHop) (probeCount : UInt16) : Prop :=
  (∀ hop ∈ hops, blockStart probeCount hop + probeCount.toNat ≤ 65536) ∧
  hops.Pairwise fun p q =>
    blockStart probeCount p + probeCount.toNat ≤ blockStart probeCount q ∨
    blockStart probeCount q + probeCount.toNat ≤ blockStart probeCount p

instance (hops : List TracedHop) (probeCount : UInt16) : Decidable (Fits hops probeCount) :=
  inferInstanceAs (Decidable (_ ∧ _))

/-- In a block that does not wrap, the numbers count up. -/
theorem probeSequence_of_le {hop : TracedHop} {probeCount : UInt16}
    (hwrap : blockStart probeCount hop + probeCount.toNat ≤ 65536) {index : Nat}
    (h : index < probeCount.toNat) :
    (probeSequence hop.ttl probeCount (UInt16.ofNat index)).toNat =
      blockStart probeCount hop + index := by
  rw [probeSequence_toNat hop probeCount index, Nat.mod_eq_of_lt (by omega)]

/-- The numbers of all probes. -/
def hopNumbers (hops : List TracedHop) (probeCount : UInt16) : List UInt16 :=
  (hopJobs hops probeCount).map fun job => job.2.2

theorem getElem?_hopNumbers {hops : List TracedHop} {probeCount : UInt16} {index owner : Nat}
    {hop : TracedHop} (hindex : index < probeCount.toNat) (hhop : hops[owner]? = some hop) :
    (hopNumbers hops probeCount)[index * hops.length + owner]? =
      some (probeSequence hop.ttl probeCount (UInt16.ofNat index)) := by
  rw [hopNumbers, List.getElem?_map, getElem?_hopJobs hindex hhop]
  rfl

/-- Blocks that fit have distinct numbers. -/
theorem Fits.nodup {hops : List TracedHop} {probeCount : UInt16} (h : Fits hops probeCount) :
    (hopNumbers hops probeCount).Nodup := by
  obtain ⟨hwrap, hapart⟩ := h
  have hapart := List.pairwise_iff_getElem.mp hapart
  refine List.nodup_iff_getElem?_ne_getElem?.mpr fun id id' hlt hid' heq => ?_
  have hlen : (hopNumbers hops probeCount).length = (hopJobs hops probeCount).length :=
    List.length_map _
  rw [hlen] at hid'
  obtain ⟨i, o, p, hi, hp, rfl, -⟩ :=
    hopJobs_of_getElem? (List.getElem?_eq_getElem (Nat.lt_trans hlt hid'))
  obtain ⟨j, o', q, hj, hq, rfl, -⟩ := hopJobs_of_getElem? (List.getElem?_eq_getElem hid')
  rw [getElem?_hopNumbers hi hp, getElem?_hopNumbers hj hq, Option.some.injEq,
    ← UInt16.toNat_inj, probeSequence_of_le (hwrap p (List.mem_of_getElem? hp)) hi,
    probeSequence_of_le (hwrap q (List.mem_of_getElem? hq)) hj] at heq
  obtain ⟨ho, rfl⟩ := List.getElem?_eq_some_iff.mp hp
  obtain ⟨ho', rfl⟩ := List.getElem?_eq_some_iff.mp hq
  rcases Nat.lt_trichotomy o o' with hoo | rfl | hoo
  · rcases hapart o o' ho ho' hoo with hle | hle
    · omega
    · omega
  · obtain rfl : i = j := by omega
    exact Nat.lt_irrefl _ hlt
  · rcases hapart o' o ho' ho hoo with hle | hle
    · omega
    · omega

/-- Distinct numbers stand in blocks that do not overlap, where none of them wraps. -/
theorem fits_of_nodup {hops : List TracedHop} {probeCount : UInt16}
    (hwrap : ∀ hop ∈ hops, blockStart probeCount hop + probeCount.toNat ≤ 65536)
    (h : (hopNumbers hops probeCount).Nodup) : Fits hops probeCount := by
  refine ⟨hwrap, List.pairwise_iff_getElem.mpr fun o o' ho ho' hlt => ?_⟩
  have hp : hops[o]? = some hops[o] := List.getElem?_eq_getElem ho
  have hq : hops[o']? = some hops[o'] := List.getElem?_eq_getElem ho'
  by_contra hoverlap
  rw [not_or, Nat.not_le, Nat.not_le] at hoverlap
  obtain ⟨hpq, hqp⟩ := hoverlap
  -- the later start is a number of the other block
  have hsame : ∀ {a b : Nat} (ha : a < hops.length) (hb : b < hops.length), a ≠ b →
      blockStart probeCount hops[a] ≤ blockStart probeCount hops[b] →
      blockStart probeCount hops[b] < blockStart probeCount hops[a] + probeCount.toNat → False := by
    intro a b ha hb hab hle hlt
    have hi : blockStart probeCount hops[b] - blockStart probeCount hops[a] <
        probeCount.toNat := by omega
    have hj : 0 < probeCount.toNat := by omega
    have hfirst := getElem?_hopNumbers hi (List.getElem?_eq_getElem ha)
    have hsecond := getElem?_hopNumbers hj (List.getElem?_eq_getElem hb)
    have heq : probeSequence hops[a].ttl probeCount (UInt16.ofNat
          (blockStart probeCount hops[b] - blockStart probeCount hops[a])) =
        probeSequence hops[b].ttl probeCount (UInt16.ofNat 0) := by
      rw [← UInt16.toNat_inj, probeSequence_of_le (hwrap _ (List.getElem_mem ha)) hi,
        probeSequence_of_le (hwrap _ (List.getElem_mem hb)) hj]
      omega
    rw [heq, ← hsecond] at hfirst
    have hid : 0 * hops.length + b < (hopNumbers hops probeCount).length :=
      (List.getElem?_eq_some_iff.mp hsecond).1
    have hids := (List.getElem?_inj hid h).mp hfirst.symm
    rcases Nat.eq_zero_or_pos
      (blockStart probeCount hops[b] - blockStart probeCount hops[a]) with hzero | hpos
    · rw [hzero] at hids
      omega
    · have hge := Nat.le_mul_of_pos_left hops.length hpos
      omega
  rcases Nat.le_total (blockStart probeCount hops[o]) (blockStart probeCount hops[o']) with hle | hle
  · exact hsame ho ho' (Nat.ne_of_lt hlt) hle hpq
  · exact hsame ho' ho (Nat.ne_of_gt hlt) hle hqp

/-! ## Sorting by number -/

section
variable {K : Type}

/-- A probe reports the number it was sent with. -/
def Honest {I : Type} (jobs : List (Nat × (I × UInt16))) (outcome : Nat → Outcome (Sample K)) :
    Prop :=
  ∀ id job sample, jobs[id]? = some job → outcome id = .ok sample → sample.sequence = job.2.2

/-- The probes that were collected, in the order of dispatch. -/
def dispatchOrder {I : Type} (jobs : List I) (joined : List Nat) : List Nat :=
  (List.range jobs.length).filter (· ∈ joined)

/-- In whatever order the probes of a run are collected, sorting the samples of a hop by their
numbers puts them in the order of dispatch. -/
def SortsToDispatch (K : Type) (hops : List TracedHop) (probeCount : UInt16) : Prop :=
  let jobs := hopJobs hops probeCount
  ∀ outcome : Nat → Outcome (Sample K), Honest jobs outcome →
    ∀ joined : List Nat, joined.Nodup → (∀ id ∈ joined, id < jobs.length) → ∀ owner,
      sortBySequence (samplesOfOwner (joined.filterMap (Runner.output outcome jobs)) owner) =
        samplesOfOwner ((dispatchOrder jobs joined).filterMap (Runner.output outcome jobs)) owner

theorem sorted_sortBySequence (samples : List (Sample K)) :
    (sortBySequence samples).Pairwise fun a b => a.sequence ≤ b.sequence := by
  have hle := @List.pairwise_mergeSort _ (fun a b : Sample K => decide (a.sequence ≤ b.sequence))
    (fun a b c hab hbc => decide_eq_true
      (UInt16.le_trans (of_decide_eq_true hab) (of_decide_eq_true hbc)))
    (fun a b => by
      rw [Bool.or_eq_true, decide_eq_true_eq, decide_eq_true_eq]
      exact UInt16.le_total _ _) samples
  exact hle.imp of_decide_eq_true

/-- Sorting ends in the list that is in order. -/
theorem sortBySequence_eq {xs ys : List (Sample K)} (hperm : xs.Perm ys)
    (h : ys.Pairwise fun a b => a.sequence < b.sequence) : sortBySequence xs = ys := by
  have hsorted := sorted_sortBySequence xs
  have hmerge : (sortBySequence xs).Perm ys := (List.mergeSort_perm _ _).trans hperm
  have hkey : ∀ a ∈ ys, ∀ b ∈ ys, a = b ∨ a.sequence ≠ b.sequence :=
    List.Pairwise.forall_of_forall_of_flip (fun _ _ => .inl rfl)
      (h.imp fun hab => .inr (UInt16.ne_of_lt hab))
      (h.imp fun hab => .inr (UInt16.ne_of_lt hab).symm)
  refine hmerge.eq_of_pairwise ?_ hsorted (h.imp UInt16.le_of_lt)
  intro a b ha hb hab hba
  exact (hkey a (hmerge.mem_iff.mp ha) b hb).resolve_right fun hne =>
    hne (UInt16.le_antisymm hab hba)

/-- The sample of a job, if it is one of `owner`. -/
def answerOf {I : Type} (jobs : List (Nat × I)) (outcome : Nat → Outcome (Sample K))
    (owner id : Nat) : Option (Sample K) :=
  ((Runner.output outcome jobs id).filter fun c => c.1 = owner).map Prod.snd

theorem samplesOfOwner_filterMap {I : Type} (jobs : List (Nat × I))
    (outcome : Nat → Outcome (Sample K)) (ids : List Nat) (owner : Nat) :
    samplesOfOwner (ids.filterMap (Runner.output outcome jobs)) owner =
      ids.filterMap (answerOf jobs outcome owner) := by
  rw [samplesOfOwner, List.filter_filterMap, List.map_filterMap]
  rfl

theorem answerOf_eq_some {I : Type} {jobs : List (Nat × I)} {outcome : Nat → Outcome (Sample K)}
    {owner id : Nat} {sample : Sample K} (h : answerOf jobs outcome owner id = some sample) :
    outcome id = .ok sample ∧ ∃ x, jobs[id]? = some (owner, x) := by
  obtain ⟨⟨o, s⟩, hfilter, rfl⟩ := Option.map_eq_some_iff.mp h
  obtain ⟨hout, ho⟩ := Option.filter_eq_some_iff.mp hfilter
  unfold Runner.output at hout
  cases hok : outcome id with
  | ok t =>
    rw [hok] at hout
    obtain ⟨⟨o', x⟩, hjob, hpair⟩ := Option.map_eq_some_iff.mp hout
    cases hpair
    obtain rfl := of_decide_eq_true ho
    exact ⟨rfl, x, hjob⟩
  | error e =>
    rw [hok] at hout
    cases hout
  | panicked =>
    rw [hok] at hout
    cases hout

theorem dispatchOrder_perm {I : Type} {jobs : List I} {joined : List Nat} (hnodup : joined.Nodup)
    (hlt : ∀ id ∈ joined, id < jobs.length) : joined.Perm (dispatchOrder jobs joined) := by
  refine (List.perm_ext_iff_of_nodup hnodup (List.nodup_range.filter _)).mpr fun id => ?_
  rw [List.mem_filter, List.mem_range, decide_eq_true_eq]
  exact ⟨fun hid => ⟨hlt id hid, hid⟩, And.right⟩

/-- Numbers that do not wrap sort to the order of dispatch. -/
theorem sortsToDispatch_of_wrap {hops : List TracedHop} {probeCount : UInt16}
    (hwrap : ∀ hop ∈ hops, blockStart probeCount hop + probeCount.toNat ≤ 65536) :
    SortsToDispatch K hops probeCount := by
  intro outcome hhonest joined hnodup hlt owner
  rw [samplesOfOwner_filterMap, samplesOfOwner_filterMap]
  refine sortBySequence_eq ((dispatchOrder_perm hnodup hlt).filterMap _) ?_
  have hrange : (dispatchOrder (hopJobs hops probeCount) joined).Pairwise (· < ·) :=
    List.pairwise_lt_range.filter _
  refine List.pairwise_filterMap.mpr (hrange.imp fun {id id'} hid sample hs sample' hs' => ?_)
  obtain ⟨hok, x, hjob⟩ := answerOf_eq_some hs
  obtain ⟨hok', x', hjob'⟩ := answerOf_eq_some hs'
  rw [hhonest _ _ _ hjob hok, hhonest _ _ _ hjob' hok']
  obtain ⟨i, o, hop, hi, hhop, rfl, hx⟩ := hopJobs_of_getElem? hjob
  obtain ⟨j, o', hop', hj, hhop', rfl, hx'⟩ := hopJobs_of_getElem? hjob'
  cases hx
  cases hx'
  cases hhop.symm.trans hhop'
  have hle := hwrap hop (List.mem_of_getElem? hhop)
  have hij : i < j := by
    by_contra hge
    have := Nat.mul_le_mul_right hops.length (Nat.not_lt.mp hge)
    omega
  rw [UInt16.lt_iff_toNat_lt, probeSequence_of_le hle hi, probeSequence_of_le hle hj]
  omega

/-- Every probe is answered. -/
def allAnswered (jobs : List (Nat × (UInt8 × UInt16))) (id : Nat) : Outcome (Sample K) :=
  .ok { sequence := (jobs[id]?.map fun job => job.2.2).getD 0, hop := none, elapsedMs := none
        status := .reply, nextHopMtu := none, mpls := [] }

theorem answerOf_allAnswered {jobs : List (Nat × (UInt8 × UInt16))} {id owner : Nat} {ttl : UInt8}
    {sequence : UInt16} (h : jobs[id]? = some (owner, (ttl, sequence))) :
    answerOf jobs (allAnswered (K := K) jobs) owner id =
      some ⟨sequence, none, none, .reply, none, []⟩ := by
  rw [answerOf, Runner.output, allAnswered, h]
  simp

/-- Where a hop's numbers wrap around, the sample after that sorts before the one ahead of it. -/
theorem wrap_of_sortsToDispatch {hops : List TracedHop} {probeCount : UInt16}
    (h : SortsToDispatch K hops probeCount) :
    ∀ hop ∈ hops, blockStart probeCount hop + probeCount.toNat ≤ 65536 := by
  intro hop hhop
  by_contra hwrap
  obtain ⟨owner, howner, rfl⟩ := List.mem_iff_getElem.mp hhop
  have hstart : blockStart probeCount hops[owner] < 65536 := Nat.mod_lt _ (by decide)
  obtain ⟨k, hk⟩ : ∃ k, blockStart probeCount hops[owner] + (k + 1) = 65536 :=
    ⟨65535 - blockStart probeCount hops[owner], by omega⟩
  have hjob := getElem?_hopJobs (show k < probeCount.toNat by omega)
    (List.getElem?_eq_getElem howner)
  have hjob' := getElem?_hopJobs (show k + 1 < probeCount.toNat by omega)
    (List.getElem?_eq_getElem howner)
  -- every probe is answered, and collected in turn
  have hrun := h (allAnswered (hopJobs hops probeCount))
    (fun id job sample hid hok => by
      cases hok
      rw [hid]
      rfl)
    (List.range (hopJobs hops probeCount).length) List.nodup_range
    (fun id hid => List.mem_range.mp hid) owner
  have hall : dispatchOrder (hopJobs hops probeCount)
      (List.range (hopJobs hops probeCount).length) =
      List.range (hopJobs hops probeCount).length :=
    List.filter_eq_self.mpr fun id hid => decide_eq_true hid
  have hsorted := sorted_sortBySequence (samplesOfOwner
    ((List.range (hopJobs hops probeCount).length).filterMap
      (Runner.output (allAnswered (K := K) (hopJobs hops probeCount)) (hopJobs hops probeCount)))
    owner)
  rw [hrun, hall, samplesOfOwner_filterMap, List.pairwise_filterMap,
    List.pairwise_iff_getElem] at hsorted
  have hlt := (List.getElem?_eq_some_iff.mp hjob).1
  have hlt' := (List.getElem?_eq_some_iff.mp hjob').1
  have hids : k * hops.length + owner < (k + 1) * hops.length + owner := by
    rw [Nat.add_mul, Nat.one_mul]
    omega
  have hle := hsorted _ _ (by rwa [List.length_range]) (by rwa [List.length_range]) hids
  rw [List.getElem_range, List.getElem_range] at hle
  have hle := hle _ (answerOf_allAnswered hjob) _ (answerOf_allAnswered hjob')
  rw [UInt16.le_iff_toNat_le, probeSequence_toNat, probeSequence_toNat, hk, Nat.mod_self,
    Nat.mod_eq_of_lt (by omega)] at hle
  omega

end

/-- Over all lists of hops and all counts: the numbers are distinct, and sorting by them is
sorting by dispatch, exactly when every block of numbers ends before it wraps around and no two
of them overlap. -/
theorem numbers_in_order_iff (K : Type) (hops : List TracedHop) (probeCount : UInt16) :
    (hopNumbers hops probeCount).Nodup ∧ SortsToDispatch K hops probeCount ↔
      Fits hops probeCount := by
  constructor
  · rintro ⟨hnodup, hsorts⟩
    exact fits_of_nodup (wrap_of_sortsToDispatch hsorts) hnodup
  · intro hfits
    exact ⟨hfits.nodup, sortsToDispatch_of_wrap hfits.1⟩

/-- The most probes the settings admit. -/
def thousandProbes : BasicSettings where
  pingCount := 4
  traceMaxHops := 255
  traceTimeout := fromSecs 1
  pathpingProbes := 1000
  pathpingTimeout := fromSecs 1
  tcpPort := 443
  skipPathping := false

/-- With 1000 probes, the numbers of hop 67 meet those of hop 1, and those of hop 65 wrap
around. -/
theorem numbers_collide :
    ∃ settings : BasicSettings, settings.validate = .ok () ∧ settings.skipPathping = false ∧
      (∃ hops : List TracedHop, (hops.map (·.ttl)).Nodup ∧ (∀ hop ∈ hops, 1 ≤ hop.ttl) ∧
        ¬(hopNumbers hops settings.pathpingProbes).Nodup) ∧
      ∃ hops : List TracedHop, (hops.map (·.ttl)).Nodup ∧ (∀ hop ∈ hops, 1 ≤ hop.ttl) ∧
        ¬SortsToDispatch ℚ hops settings.pathpingProbes := by
  refine ⟨thousandProbes, rfl, rfl, ⟨[⟨1, none⟩, ⟨67, none⟩], by decide, by decide, ?_⟩,
    [⟨65, none⟩], by decide, by decide, ?_⟩
  · intro hnodup
    exact absurd (fits_of_nodup (by decide) hnodup) (by decide)
  · intro hsorts
    exact absurd (wrap_of_sortsToDispatch hsorts) (by decide)

/-! ## Runs -/

section
variable {K : Type} [Zero K] [Add K] [Sub K] [Mul K] [Div K] [NatCast K] [Min K] [Max K]

/-- However the probes of a run finish, the statistics are those of the probes that were
collected, in the order of dispatch. -/
theorem measuredHops_run {hops : List TracedHop} {probeCount : UInt16}
    (hfits : Fits hops probeCount) {outcome : Nat → Outcome (Sample K)}
    (hhonest : Honest (hopJobs hops probeCount) outcome) {limit : Nat} {events : List RunnerEvent}
    {r : Runner (UInt8 × UInt16) (Sample K)}
    (h : runSteps (Runner.step limit outcome) (Runner.start (hopJobs hops probeCount)) events =
      some r) (sqrt : K → K) :
    measuredHops sqrt hops r.completed r.failure =
      measuredHops sqrt hops ((dispatchOrder (hopJobs hops probeCount) r.joined).filterMap
        (Runner.output outcome (hopJobs hops probeCount))) r.failure := by
  obtain ⟨hcore, -⟩ :=
    run_invariant (fun _ _ _ hi hs => Runner.Inv.step hi hs) Runner.Inv.start h
  have hnodup : r.joined.Nodup :=
    (List.nodup_append.mp (hcore.perm.nodup_iff.mpr List.nodup_range)).1
  have hlt : ∀ id ∈ r.joined, id < (hopJobs hops probeCount).length := fun id hid =>
    Nat.lt_of_lt_of_le (List.mem_range.mp (hcore.perm.mem_iff.mp (List.mem_append_left _ hid)))
      hcore.launched_le
  have hsort := sortsToDispatch_of_wrap hfits.1 outcome hhonest r.joined hnodup hlt
  rw [← hcore.completed_eq] at hsort
  have hempty : ∀ owner, (samplesOfOwner r.completed owner).isEmpty =
      (samplesOfOwner ((dispatchOrder (hopJobs hops probeCount) r.joined).filterMap
        (Runner.output outcome (hopJobs hops probeCount))) owner).isEmpty := by
    intro owner
    rw [← hsort owner]
    exact (List.mergeSort_perm _ _).isEmpty_eq.symm
  have hagain : ∀ owner, sortBySequence (samplesOfOwner
      ((dispatchOrder (hopJobs hops probeCount) r.joined).filterMap
        (Runner.output outcome (hopJobs hops probeCount))) owner) =
      sortBySequence (samplesOfOwner r.completed owner) := by
    intro owner
    rw [← hsort owner]
    exact List.mergeSort_of_pairwise
      ((sorted_sortBySequence _).imp fun hab => decide_eq_true hab)
  unfold measuredHops
  simp only [hempty, hagain]

end

end NetworkLantern.Path
