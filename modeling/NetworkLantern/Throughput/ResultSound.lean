import NetworkLantern.Throughput.Metrics
import NetworkLantern.Lib.Binary64
import Mathlib.Data.List.Forall2
import Mathlib.Data.List.Perm.Subperm

/-!
# Sound results

`Sound` says what a result has to do with the counters it was made from: the
peer reported on exactly the local streams, every counter was summed without
loss, and the loss is that of the counters and lies between 0 and 100 percent.

    buildResult … = .ok r → Sound … r       exactly when the counters of the
                                            receivers fit (buildResult_sound_iff)

They do not fit when the packets of the local receivers exceed 64 bits, and when
nearly everything is lost and the rounding of `errors * 100.0` makes up for the rest.
-/

namespace NetworkLantern.Throughput

open NetworkLantern

/-! ## Exact sums -/

def total (ns : List UInt64) : Nat := (ns.map UInt64.toNat).sum

@[simp] theorem total_nil : total [] = 0 := rfl

@[simp] theorem total_cons (n : UInt64) (ns : List UInt64) :
    total (n :: ns) = n.toNat + total ns := by
  simp [total]

@[simp] theorem total_append (ms ns : List UInt64) : total (ms ++ ns) = total ms + total ns := by
  simp [total]

theorem addChecked_ok {a b c : UInt64} {e : TestFailure} (h : addChecked a b e = .ok c) :
    c.toNat = a.toNat + b.toNat := by
  unfold addChecked at h
  split at h
  · next hlt =>
    cases h
    rw [UInt64.toNat_add, Nat.mod_eq_of_lt hlt]
  · cases h

/-- The counters that a key has in the streams of the peer. -/
def Reads (key : Str) (streams : List Json) (ns : List UInt64) : Prop :=
  List.Forall₂ (fun s n => integer s key = .ok n) streams ns

theorem Reads.concat {key : Str} {streams : List Json} {ns : List UInt64} {s : Json} {n : UInt64}
    (h : Reads key streams ns) (hs : integer s key = .ok n) :
    Reads key (streams ++ [s]) (ns ++ [n]) :=
  List.rel_append h (.cons hs .nil)

theorem Reads.unique {key : Str} {streams : List Json} {ms ns : List UInt64}
    (hm : Reads key streams ms) (hn : Reads key streams ns) : ms = ns := by
  apply Relator.RightUnique.forall₂ _ hm hn
  intro s m n hm hn
  rw [hm] at hn
  exact Except.ok.inj hn

/-- A checked sum over the streams of the peer is the sum of the counters. -/
theorem sumPeer_ok {streams : List Json} {key message : Str} {n : UInt64}
    (h : sumPeer streams key message = .ok n) :
    ∃ ns, Reads key streams ns ∧ total ns = n.toNat := by
  have hfrom : ∀ (l : List Json) (a : UInt64),
      l.foldlM (fun sum s => do addChecked sum (← integer s key) (bad message)) a = .ok n →
      ∃ ns, Reads key l ns ∧ a.toNat + total ns = n.toNat := by
    intro l
    induction l with
    | nil =>
      intro a ha
      cases ha
      exact ⟨[], .nil, rfl⟩
    | cons s l ih =>
      intro a ha
      rw [List.foldlM_cons] at ha
      obtain ⟨b, hb, hrest⟩ := except_bind_ok.mp ha
      obtain ⟨c, hc, hadd⟩ := except_bind_ok.mp hb
      obtain ⟨ns, hns, hsum⟩ := ih b hrest
      refine ⟨c :: ns, .cons hc hns, ?_⟩
      rw [← hsum, addChecked_ok hadd, total_cons]
      omega
  obtain ⟨ns, hns, hsum⟩ := hfrom streams 0 h
  exact ⟨ns, hns, by rw [← hsum]; exact (Nat.zero_add _).symm⟩

/-- The bytes of the local streams in one direction. -/
def localBytes (outcomes : List StreamOutcome) (sender : Bool) : List UInt64 :=
  (outcomes.filter fun o => o.sender == sender).map StreamOutcome.bytes

theorem sumBytes_ok {outcomes : List StreamOutcome} {sender : Bool} {n : UInt64}
    (h : sumBytes outcomes sender = .ok n) : n.toNat = total (localBytes outcomes sender) := by
  have hfrom : ∀ (l : List StreamOutcome) (a : UInt64),
      l.foldlM (fun sum o => addChecked sum o.bytes (bad "Local byte count overflow")) a = .ok n →
      n.toNat = a.toNat + total (l.map StreamOutcome.bytes) := by
    intro l
    induction l with
    | nil =>
      intro a ha
      cases ha
      rfl
    | cons o l ih =>
      intro a ha
      rw [List.foldlM_cons] at ha
      obtain ⟨b, hadd, hrest⟩ := except_bind_ok.mp ha
      rw [ih b hrest, addChecked_ok hadd, List.map_cons, total_cons]
      omega
  rw [hfrom _ 0 h]
  exact Nat.zero_add _

/-- A sum that wraps around is still right when it fits. -/
theorem sumUnchecked_toNat (counter : StreamOutcome → UInt64) {outcomes : List StreamOutcome}
    (h : total (outcomes.map counter) < 2 ^ 64) :
    (sumUnchecked counter outcomes).toNat = total (outcomes.map counter) := by
  have hfrom : ∀ (l : List UInt64) (a : UInt64), a.toNat + total l < 2 ^ 64 →
      (l.foldl (· + ·) a).toNat = a.toNat + total l := by
    intro l
    induction l with
    | nil =>
      intro a _
      rfl
    | cons n l ih =>
      intro a ha
      rw [total_cons] at ha ⊢
      have hadd : (a + n).toNat = a.toNat + n.toNat := by
        rw [UInt64.toNat_add, Nat.mod_eq_of_lt (by omega)]
      rw [List.foldl_cons, ih (a + n) (by omega), hadd]
      omega
  have hzero : (0 : UInt64).toNat + total (outcomes.map counter) < 2 ^ 64 := by
    rw [UInt64.toNat_zero]
    omega
  exact (hfrom _ 0 hzero).trans (Nat.zero_add _)

theorem total_le_total {ms ns : List UInt64}
    (h : List.Forall₂ (fun m n => m.toNat ≤ n.toNat) ms ns) : total ms ≤ total ns := by
  induction h with
  | nil => exact Nat.le_refl 0
  | cons hmn _ ih =>
    rw [total_cons, total_cons]
    omega

/-! ## The loop over the streams of the peer -/

/-- The retransmits that the peer supplies. -/
def retransmits (streams : List Json) : List UInt64 := streams.filterMap retransmitsOf

/-- A sum where there is something to sum. -/
def totalOf : List UInt64 → Option Nat
  | [] => none
  | ns => some (total ns)

/-- What the totals say about the streams taken so far. -/
structure Counted (spec : TestSpec) (outcomes : List StreamOutcome) (streams : List Json)
    (acc : PeerTotals) : Prop where
  ids : Reads "id" streams acc.ids
  nodup : acc.ids.Nodup
  known : ∀ id ∈ acc.ids, id ∈ outcomes.map StreamOutcome.id
  bytes : ∃ ns, Reads "bytes" streams ns ∧ acc.bytes.toNat = total ns
  retransmits : acc.retransmits.map UInt64.toNat = totalOf (retransmits streams)
  losses : spec.protocol = .udp → ∀ s ∈ streams, ∃ packets errors,
    integer s "packets" = .ok packets ∧ integer s "errors" = .ok errors ∧
      errors.toNat ≤ packets.toNat

theorem addRetransmits_ok {acc acc' : Option UInt64} {streams : List Json} {s : Json}
    (h : acc.map UInt64.toNat = totalOf (retransmits streams))
    (hadd : addRetransmits acc s = .ok acc') :
    acc'.map UInt64.toNat = totalOf (retransmits (streams ++ [s])) := by
  have hsplit : retransmits (streams ++ [s]) = retransmits streams ++ retransmits [s] :=
    List.filterMap_append
  unfold addRetransmits at hadd
  cases hr : retransmitsOf s with
  | none =>
    rw [hr] at hadd
    cases hadd
    have hnone : retransmits [s] = [] := by simp [retransmits, hr]
    rw [hsplit, hnone, List.append_nil]
    exact h
  | some n =>
    rw [hr] at hadd
    have hsome : retransmits [s] = [n] := by simp [retransmits, hr]
    obtain ⟨c, hc, rfl⟩ := except_map_ok.mp hadd
    rw [hsplit, hsome, Option.map_some, addChecked_ok hc]
    cases hl : retransmits streams with
    | nil =>
      rw [hl] at h
      cases acc with
      | none => simp [totalOf]
      | some a => cases h
    | cons m ms =>
      rw [hl] at h
      cases acc with
      | none => cases h
      | some a =>
        have ha : a.toNat = total (m :: ms) := Option.some.inj h
        simp only [totalOf, List.cons_append, Option.getD_some, ha, total_cons, total_append,
          total_nil]
        exact congrArg some (by omega)

theorem checkLoss_ok {spec : TestSpec} {s : Json} (h : checkLoss spec s = .ok ())
    (hudp : spec.protocol = .udp) :
    ∃ packets errors, integer s "packets" = .ok packets ∧ integer s "errors" = .ok errors ∧
      errors.toNat ≤ packets.toNat := by
  unfold checkLoss at h
  rw [if_pos hudp] at h
  obtain ⟨packets, hpackets, h⟩ := except_bind_ok.mp h
  obtain ⟨errors, herrors, h⟩ := except_bind_ok.mp h
  obtain ⟨hle, -⟩ := refuse_bind_ok.mp h
  rw [decide_eq_false_iff_not, UInt64.not_lt, UInt64.le_iff_toNat_le] at hle
  exact ⟨packets, errors, hpackets, herrors, hle⟩

/-- One stream of the peer. -/
theorem Counted.step {spec : TestSpec} {outcomes : List StreamOutcome} {streams : List Json}
    {acc acc' : PeerTotals} {s : Json} (h : Counted spec outcomes streams acc)
    (htake : takePeer spec outcomes acc s = .ok acc') :
    Counted spec outcomes (streams ++ [s]) acc' := by
  unfold takePeer at htake
  obtain ⟨id, hid, htake⟩ := except_bind_ok.mp htake
  obtain ⟨hknown, htake⟩ := refuse_bind_ok.mp htake
  obtain ⟨bytes, hbytes, htake⟩ := except_bind_ok.mp htake
  obtain ⟨sum, hsum, htake⟩ := except_bind_ok.mp htake
  obtain ⟨start, -, htake⟩ := except_bind_ok.mp htake
  obtain ⟨stop, -, htake⟩ := except_bind_ok.mp htake
  obtain ⟨-, htake⟩ := refuse_bind_ok.mp htake
  obtain ⟨again, hagain, htake⟩ := except_bind_ok.mp htake
  obtain ⟨_, hloss, htake⟩ := except_bind_ok.mp htake
  cases htake
  rw [Bool.or_eq_false_iff, Bool.not_eq_false', List.contains_iff_mem,
    ← Bool.not_eq_true, List.contains_iff_mem] at hknown
  obtain ⟨hnew, hmem⟩ := hknown
  obtain ⟨ns, hns, htotal⟩ := h.bytes
  exact {
    ids := h.ids.concat hid
    nodup := List.nodup_append.mpr ⟨h.nodup, List.nodup_singleton id, fun a ha b hb => by
      rw [List.mem_singleton.mp hb]
      exact fun heq => hnew (heq ▸ ha)⟩
    known := fun a ha => by
      rcases List.mem_append.mp ha with ha | ha
      · exact h.known a ha
      · rw [List.mem_singleton.mp ha]
        exact hmem
    bytes := ⟨ns ++ [bytes], hns.concat hbytes, by
      rw [addChecked_ok hsum, htotal, total_append, total_cons, total_nil, Nat.add_zero]⟩
    retransmits := addRetransmits_ok h.retransmits hagain
    losses := fun hudp a ha => by
      rcases List.mem_append.mp ha with ha | ha
      · exact h.losses hudp a ha
      · rw [List.mem_singleton.mp ha]
        exact checkLoss_ok hloss hudp }

/-- All of them. -/
theorem Counted.run {spec : TestSpec} {outcomes : List StreamOutcome} {streams more : List Json}
    {acc acc' : PeerTotals} (h : Counted spec outcomes streams acc)
    (hrun : more.foldlM (takePeer spec outcomes) acc = .ok acc') :
    Counted spec outcomes (streams ++ more) acc' := by
  induction more generalizing streams acc with
  | nil =>
    cases hrun
    rw [List.append_nil]
    exact h
  | cons s more ih =>
    rw [List.foldlM_cons] at hrun
    obtain ⟨acc1, htake, hrest⟩ := except_bind_ok.mp hrun
    have hnext := ih (h.step htake) hrest
    rwa [List.append_assoc] at hnext

theorem peerTotals_ok {spec : TestSpec} {outcomes : List StreamOutcome} {streams : List Json}
    {peer : PeerTotals} (h : peerTotals spec outcomes streams = .ok peer) :
    streams.length = outcomes.length ∧ Counted spec outcomes streams peer := by
  unfold peerTotals at h
  obtain ⟨hlen, hrun⟩ := refuse_bind_ok.mp h
  have hstart : Counted spec outcomes [] ⟨[], 0, 0, none⟩ := {
    ids := .nil
    nodup := List.nodup_nil
    known := fun _ hmem => absurd hmem List.not_mem_nil
    bytes := ⟨[], .nil, rfl⟩
    retransmits := rfl
    losses := fun _ _ hmem => absurd hmem List.not_mem_nil }
  exact ⟨by simpa using hlen, hstart.run hrun⟩

/-- The peer reported on exactly the local streams. -/
theorem Counted.perm {spec : TestSpec} {outcomes : List StreamOutcome} {streams : List Json}
    {peer : PeerTotals} (h : Counted spec outcomes streams peer)
    (hlen : streams.length = outcomes.length) :
    peer.ids.Perm (outcomes.map StreamOutcome.id) := by
  have hids : peer.ids.length = streams.length := h.ids.length_eq.symm
  apply (List.subperm_of_subset h.nodup h.known).perm_of_length_le
  rw [List.length_map, hids, hlen]

/-! ## What a result should say -/

def ByteTotals (spec : TestSpec) (outcomes : List StreamOutcome) (peerBytes : Nat)
    (r : TestResult) : Prop :=
  match spec.direction with
  | .tx => r.bytesSent.toNat = total (localBytes outcomes true) ∧ r.bytesReceived.toNat = peerBytes
  | .rx => r.bytesSent.toNat = peerBytes ∧ r.bytesReceived.toNat = total (localBytes outcomes false)
  | .bidirectional =>
    r.bytesSent.toNat = total (localBytes outcomes true) ∧
      r.bytesReceived.toNat = total (localBytes outcomes false)

/-- The packets and losses that count: those of the peer when it only receives, and otherwise
those of the local receivers. -/
def LossCounts (spec : TestSpec) (outcomes : List StreamOutcome) (streams : List Json)
    (packets errors : List UInt64) : Prop :=
  if spec.direction = .tx then Reads "packets" streams packets ∧ Reads "errors" streams errors
  else packets = (receivers outcomes).map StreamOutcome.packets ∧
    errors = (receivers outcomes).map StreamOutcome.errors

theorem LossCounts.unique {spec : TestSpec} {outcomes : List StreamOutcome} {streams : List Json}
    {packets packets' errors errors' : List UInt64}
    (h : LossCounts spec outcomes streams packets errors)
    (h' : LossCounts spec outcomes streams packets' errors') :
    packets = packets' ∧ errors = errors' := by
  unfold LossCounts at h h'
  split at h
  · next htx =>
    rw [if_pos htx] at h'
    exact ⟨h.1.unique h'.1, h.2.unique h'.2⟩
  · next htx =>
    rw [if_neg htx] at h'
    exact ⟨h.1.trans h'.1.symm, h.2.trans h'.2.symm⟩

/-- The loss is the quotient of the two exact sums and lies between 0 and 100 percent. -/
def LossOf (packets errors : List UInt64) (loss : Option Float) : Prop :=
  total packets < 2 ^ 64 ∧ total errors ≤ total packets ∧
    loss = lossPercent (.ofNat (total errors)) (.ofNat (total packets)) ∧
    ∀ x ∈ loss, 0 ≤ x ∧ x ≤ 100

def LossSound (spec : TestSpec) (outcomes : List StreamOutcome) (streams : List Json)
    (loss : Option Float) : Prop :=
  if spec.protocol = .udp then
    ∃ packets errors, LossCounts spec outcomes streams packets errors ∧ LossOf packets errors loss
  else loss = none

structure Sound (spec : TestSpec) (outcomes : List StreamOutcome) (streams : List Json)
    (r : TestResult) : Prop where
  ids : ∃ ids, Reads "id" streams ids ∧ ids.Perm (outcomes.map StreamOutcome.id)
  bytes : ∃ bytes, Reads "bytes" streams bytes ∧ total bytes < 2 ^ 64 ∧
    ByteTotals spec outcomes (total bytes) r
  retransmits : r.retransmits.map UInt64.toNat = totalOf (retransmits streams)
  loss : LossSound spec outcomes streams r.lossPct

/-! ## A loss of at most 100 percent -/

/-- With `errors as f64`, `* 100.0` and `packets as f64` rounded, the quotient is beyond 100 by at
most `2 ^ -47`, which is half a unit, so that it is rounded to 100 or less. -/
def LossFits (errors packets : Nat) : Prop :=
  round53 (round53 errors * 100) * 2 ^ 47 ≤ round53 packets * (100 * 2 ^ 47 + 1)

instance (errors packets : Nat) : Decidable (LossFits errors packets) :=
  inferInstanceAs (Decidable (_ ≤ _))

/-- Counters that are not rounded fit. -/
theorem lossFits_of_le {errors packets : Nat} (hle : errors ≤ packets)
    (hsmall : packets ≤ 2 ^ 53 / 100) : LossFits errors packets := by
  unfold LossFits
  rw [round53_of_lt (n := errors) (by omega), round53_of_lt (by omega), round53_of_lt (by omega)]
  omega

theorem quotient_range_iff {e p : UInt64} (he : 0 < e) (hp : 0 < p) :
    (0 ≤ e.toFloat * 100 / p.toFloat ∧ e.toFloat * 100 / p.toFloat ≤ 100) ↔
      LossFits e.toNat p.toNat := by
  obtain ⟨m, f, hm, hf, hf', herrors⟩ := isNormal_toFloat he
  obtain ⟨n, g, hn, hg, hg', hpackets⟩ := isNormal_toFloat hp
  obtain ⟨r, h, hr, hh, hh', hproduct⟩ :=
    hm.mul isNormal_hundred (by omega) (by omega) herrors (b := 100) (by norm_num [scaled])
  obtain ⟨q, k, hq, hquotient⟩ := hr.div hn (by omega) (by omega)
  rw [hq.le_iff isNormal_hundred, hquotient _ _ isNormal_hundred.low isNormal_hundred.high
    (by decide), hproduct, hpackets, and_iff_right hq.nonneg]
  have hhalf : scaled (2 * (100 * 2 ^ 46) + 1) (-46) = (100 * 2 ^ 47 + 1) / 2 ^ 46 := by
    norm_num [scaled]
  unfold LossFits
  rw [hhalf, div_mul_eq_mul_div, le_div_iff₀ (by positivity), ← Nat.cast_le (α := ℚ)]
  push_cast
  constructor <;> intro <;> linarith

/-- The loss is in range exactly when the counters fit. -/
theorem lossPercent_range_iff {e p : UInt64} (hle : e.toNat ≤ p.toNat) :
    (∀ x ∈ lossPercent e p, 0 ≤ x ∧ x ≤ 100) ↔ LossFits e.toNat p.toNat := by
  unfold lossPercent
  split
  · next hp =>
    simp only [Option.mem_def, Option.some.injEq, forall_eq']
    by_cases he : 0 < e
    · exact quotient_range_iff he hp
    · have hzero : e = 0 := UInt64.le_zero_iff.mp (UInt64.not_lt.mp he)
      subst hzero
      obtain ⟨n, g, hn, -⟩ := isNormal_toFloat hp
      have hloss := (isZero_toFloat.mul isNormal_hundred).div hn
      exact iff_of_true ⟨hloss.nonneg, hloss.le isNormal_hundred⟩ (Nat.zero_le _)
  · next hp =>
    have hzero : p = 0 := UInt64.le_zero_iff.mp (UInt64.not_lt.mp hp)
    subst hzero
    have hnone : e.toNat = 0 := Nat.le_zero.mp hle
    rw [hnone]
    exact iff_of_true (fun x hx => by cases hx) (Nat.zero_le _)

/-- The counters of the receivers fit: in 64 bits, and in the arithmetic of the loss. -/
def CountersFit (spec : TestSpec) (outcomes : List StreamOutcome) (streams : List Json) : Prop :=
  spec.protocol = .udp → ∀ packets errors, LossCounts spec outcomes streams packets errors →
    total packets < 2 ^ 64 ∧ LossFits (total errors) (total packets)

/-- Where the local receivers are counted, it is their counters that have to fit. -/
theorem countersFit_iff_of_ne_tx {spec : TestSpec} {outcomes : List StreamOutcome}
    {streams : List Json} (hrx : spec.direction ≠ .tx) :
    CountersFit spec outcomes streams ↔ (spec.protocol = .udp →
      total ((receivers outcomes).map StreamOutcome.packets) < 2 ^ 64 ∧
        LossFits (total ((receivers outcomes).map StreamOutcome.errors))
          (total ((receivers outcomes).map StreamOutcome.packets))) := by
  unfold CountersFit LossCounts
  simp only [if_neg hrx]
  constructor
  · intro h hudp
    exact h hudp _ _ ⟨rfl, rfl⟩
  · rintro h hudp _ _ ⟨rfl, rfl⟩
    exact h hudp

theorem lossOf_iff {packets errors : List UInt64} {p e : UInt64} (hp : p.toNat = total packets)
    (he : e.toNat = total errors) (hle : total errors ≤ total packets) :
    LossOf packets errors (lossPercent e p) ↔ LossFits (total errors) (total packets) := by
  have hpp : UInt64.ofNat (total packets) = p := by rw [← hp]; exact UInt64.ofNat_toNat
  have hee : UInt64.ofNat (total errors) = e := by rw [← he]; exact UInt64.ofNat_toNat
  have hrange := lossPercent_range_iff (e := e) (p := p) (by omega)
  have hlt : total packets < 2 ^ 64 := by rw [← hp]; exact p.toNat_lt
  unfold LossOf
  rw [hrange, hpp, hee, ← hp, ← he]
  exact ⟨fun h => h.2.2.2, fun h => ⟨p.toNat_lt, by omega, rfl, h⟩⟩

/-- The losses of the peer are at most its packets. -/
theorem Counted.losses_le {spec : TestSpec} {outcomes : List StreamOutcome} {streams : List Json}
    {peer : PeerTotals} (h : Counted spec outcomes streams peer) (hudp : spec.protocol = .udp)
    {packets errors : List UInt64} (hpackets : Reads "packets" streams packets)
    (herrors : Reads "errors" streams errors) : total errors ≤ total packets := by
  have hlosses := h.losses hudp
  clear h
  induction hpackets generalizing errors with
  | nil =>
    cases herrors
    exact Nat.le_refl 0
  | cons hp _ ih =>
    cases herrors with
    | cons he herrors =>
      obtain ⟨p, e, hp', he', hle⟩ := hlosses _ List.mem_cons_self
      rw [hp'] at hp
      rw [he'] at he
      cases hp
      cases he
      have hrest := ih herrors fun s hs => hlosses s (List.mem_cons_of_mem _ hs)
      rw [total_cons, total_cons]
      omega

/-- So are those of the local receivers. -/
theorem receivers_losses_le {outcomes : List StreamOutcome} (h : ∀ o ∈ outcomes, Produced o) :
    total ((receivers outcomes).map StreamOutcome.errors) ≤
      total ((receivers outcomes).map StreamOutcome.packets) := by
  apply total_le_total
  rw [List.forall₂_map_left_iff, List.forall₂_map_right_iff, List.forall₂_same]
  intro o ho
  exact (h o (List.mem_of_mem_filter ho)).errors_le

theorem udpMetrics_sound {spec : TestSpec} {outcomes : List StreamOutcome} {streams : List Json}
    {peer : PeerTotals} {loss jitter : Option Float} (hproduced : ∀ o ∈ outcomes, Produced o)
    (hcounted : Counted spec outcomes streams peer) (hfit : CountersFit spec outcomes streams)
    (h : udpMetrics spec outcomes streams = .ok (loss, jitter)) :
    LossSound spec outcomes streams loss := by
  unfold udpMetrics at h
  unfold LossSound
  by_cases hudp : spec.protocol = .udp
  · rw [if_neg (not_not_intro hudp)] at h
    rw [if_pos hudp]
    by_cases htx : spec.direction = .tx
    · rw [if_neg (not_not_intro htx)] at h
      obtain ⟨packets, hpackets, h⟩ := except_bind_ok.mp h
      obtain ⟨errors, herrors, h⟩ := except_bind_ok.mp h
      obtain ⟨_, -, h⟩ := except_bind_ok.mp h
      cases h
      obtain ⟨ps, hps, hp⟩ := sumPeer_ok hpackets
      obtain ⟨es, hes, he⟩ := sumPeer_ok herrors
      have hcounts : LossCounts spec outcomes streams ps es := by
        unfold LossCounts
        rw [if_pos htx]
        exact ⟨hps, hes⟩
      exact ⟨ps, es, hcounts, (lossOf_iff hp.symm he.symm (hcounted.losses_le hudp hps hes)).mpr
        (hfit hudp ps es hcounts).2⟩
    · rw [if_pos htx] at h
      cases h
      have hcounts : LossCounts spec outcomes streams
          ((receivers outcomes).map StreamOutcome.packets)
          ((receivers outcomes).map StreamOutcome.errors) := by
        unfold LossCounts
        rw [if_neg htx]
        exact ⟨rfl, rfl⟩
      have hle := receivers_losses_le hproduced
      obtain ⟨hlt, hloss⟩ := hfit hudp _ _ hcounts
      exact ⟨_, _, hcounts, (lossOf_iff (sumUnchecked_toNat _ hlt)
        (sumUnchecked_toNat _ (Nat.lt_of_le_of_lt hle hlt)) hle).mpr hloss⟩
  · rw [if_pos hudp] at h
    cases h
    rw [if_neg hudp]

theorem volume_ok {spec : TestSpec} {outcomes : List StreamOutcome} {peer : PeerTotals}
    {v : Volume} (h : volume spec outcomes peer = .ok v) {r : TestResult}
    (hsent : r.bytesSent = v.bytesSent) (hreceived : r.bytesReceived = v.bytesReceived) :
    ByteTotals spec outcomes peer.bytes.toNat r := by
  unfold volume at h
  unfold ByteTotals
  rw [hsent, hreceived]
  cases hdir : spec.direction with
  | tx =>
    rw [hdir] at h
    obtain ⟨sent, hbytes, h⟩ := except_bind_ok.mp h
    obtain ⟨_, -, h⟩ := except_bind_ok.mp h
    cases h
    exact ⟨sumBytes_ok hbytes, rfl⟩
  | rx =>
    rw [hdir] at h
    obtain ⟨received, hbytes, h⟩ := except_bind_ok.mp h
    obtain ⟨_, -, h⟩ := except_bind_ok.mp h
    cases h
    exact ⟨rfl, sumBytes_ok hbytes⟩
  | bidirectional =>
    rw [hdir] at h
    obtain ⟨sent, htx, h⟩ := except_bind_ok.mp h
    obtain ⟨received, hrx, h⟩ := except_bind_ok.mp h
    obtain ⟨_, -, h⟩ := except_bind_ok.mp h
    obtain ⟨_, -, h⟩ := except_bind_ok.mp h
    cases h
    exact ⟨sumBytes_ok htx, sumBytes_ok hrx⟩

section
variable [Json.FloatText] {spec : TestSpec} {attempts : UInt8} {elapsedMs : Nat}
  {outcomes : List StreamOutcome} {serverResult : Json}

/-- The claim about results: whatever is reported is sound, and everything else is an error. -/
def ReportsSoundly (spec : TestSpec) (attempts : UInt8) (elapsedMs : Nat)
    (outcomes : List StreamOutcome) (serverResult : Json) : Prop :=
  ∀ r, buildResult spec attempts elapsedMs outcomes serverResult = .ok r →
    ∃ streams, peerStreams serverResult = .ok streams ∧ Sound spec outcomes streams r

/-- The document of the peer and the local byte counts pass every check. -/
def Admitted (spec : TestSpec) (outcomes : List StreamOutcome) (serverResult : Json)
    (streams : List Json) : Prop :=
  peerStreams serverResult = .ok streams ∧
    (∃ peer v, peerTotals spec outcomes streams = .ok peer ∧ volume spec outcomes peer = .ok v) ∧
    ∃ metrics, udpMetrics spec outcomes streams = .ok metrics

theorem buildResult_ok {r : TestResult}
    (h : buildResult spec attempts elapsedMs outcomes serverResult = .ok r) :
    ∃ streams peer v metrics, peerStreams serverResult = .ok streams ∧
      peerTotals spec outcomes streams = .ok peer ∧ volume spec outcomes peer = .ok v ∧
      udpMetrics spec outcomes streams = .ok metrics ∧ r.bytesSent = v.bytesSent ∧
      r.bytesReceived = v.bytesReceived ∧ r.retransmits = peer.retransmits ∧
      r.lossPct = metrics.1 := by
  unfold buildResult at h
  obtain ⟨streams, hstreams, h⟩ := except_bind_ok.mp h
  obtain ⟨peer, hpeer, h⟩ := except_bind_ok.mp h
  obtain ⟨v, hv, h⟩ := except_bind_ok.mp h
  obtain ⟨metrics, hmetrics, h⟩ := except_bind_ok.mp h
  cases h
  exact ⟨streams, peer, v, metrics, hstreams, hpeer, hv, hmetrics, rfl, rfl, rfl, rfl⟩

/-- What passes the checks is reported. -/
theorem Admitted.reports {streams : List Json} (h : Admitted spec outcomes serverResult streams) :
    ∃ r, buildResult spec attempts elapsedMs outcomes serverResult = .ok r := by
  obtain ⟨hstreams, ⟨peer, v, hpeer, hv⟩, metrics, hmetrics⟩ := h
  unfold buildResult
  rw [hstreams, except_ok_bind, hpeer, except_ok_bind, hv, except_ok_bind, hmetrics]
  exact ⟨_, rfl⟩

/-- A sound result comes from counters that fit. -/
theorem countersFit_of_reportsSoundly
    (h : ReportsSoundly spec attempts elapsedMs outcomes serverResult) {streams : List Json}
    (hadmitted : Admitted spec outcomes serverResult streams) :
    CountersFit spec outcomes streams := by
  intro hudp packets errors hcounts
  obtain ⟨r, hr⟩ := hadmitted.reports
  obtain ⟨streams', hstreams, hsound⟩ := h r hr
  rw [hadmitted.1] at hstreams
  cases hstreams
  have hloss := hsound.loss
  unfold LossSound at hloss
  rw [if_pos hudp] at hloss
  obtain ⟨packets', errors', hcounts', hof⟩ := hloss
  obtain ⟨rfl, rfl⟩ := hcounts.unique hcounts'
  obtain ⟨hlt, hle, hquotient, -⟩ := id hof
  rw [hquotient] at hof
  exact ⟨hlt, (lossOf_iff (UInt64.toNat_ofNat_of_lt' hlt)
    (UInt64.toNat_ofNat_of_lt' (Nat.lt_of_le_of_lt hle hlt)) hle).mp hof⟩

/-- Results are sound, and everything else is an error, exactly when the counters of the receivers
fit once the rest is accepted. -/
theorem buildResult_sound_iff (hproduced : ∀ o ∈ outcomes, Produced o) :
    ReportsSoundly spec attempts elapsedMs outcomes serverResult ↔
      ∀ streams, Admitted spec outcomes serverResult streams →
        CountersFit spec outcomes streams := by
  constructor
  · intro h streams hadmitted
    exact countersFit_of_reportsSoundly h hadmitted
  · intro hfit r hr
    obtain ⟨streams, peer, v, ⟨loss, jitter⟩, hstreams, hpeer, hv, hmetrics, hsent, hreceived,
      hretransmits, hlossPct⟩ := buildResult_ok hr
    obtain ⟨hlen, hcounted⟩ := peerTotals_ok hpeer
    obtain ⟨ns, hns, htotal⟩ := hcounted.bytes
    have hbytes := volume_ok hv hsent hreceived
    rw [htotal] at hbytes
    have hcounters := hfit streams ⟨hstreams, ⟨peer, v, hpeer, hv⟩, _, hmetrics⟩
    refine ⟨streams, hstreams, {
      ids := ⟨peer.ids, hcounted.ids, hcounted.perm hlen⟩
      bytes := ⟨ns, hns, by rw [← htotal]; exact peer.bytes.toNat_lt, hbytes⟩
      retransmits := by rw [hretransmits]; exact hcounted.retransmits
      loss := ?_ }⟩
    rw [hlossPct]
    exact udpMetrics_sound hproduced hcounted hcounters hmetrics

end

/-! ## Two receivers -/

/-- A UDP test in which the peer sends on two streams. -/
def twoReceivers : TestSpec where
  id := 1
  target := "192.0.2.1"
  port := 5201
  ipVersion := .auto
  protocol := .udp
  direction := .rx
  dscp := .cs0
  tos := 0
  streams := 2
  tcpWindowBytes := none
  udpRateBps := some 1000000
  durationSecs := 1
  omitSecs := 0
  phase := .single

/-- A datagram of 16 bytes with the sequence number in its last 8. -/
def datagramWith (sequence : Bytes) : UdpEvent := .received (.replicate 8 0 ++ sequence) 0

/-- What a receiver reports that got one datagram, with the highest sequence number there is. -/
def farAhead : StreamOutcome :=
  ⟨1, false, 16, 18446744073709551615, 18446744073709551614, 0, 1, 18446744073709551615,
    18446744073709551614⟩

/-- What a receiver reports that got the datagrams 1 and 2. -/
def inOrder (id : UInt64) : StreamOutcome := ⟨id, false, 32, 2, 0, 0, 1, 2, 0⟩

theorem produced_farAhead : Produced farAhead :=
  .udpReceive (show udpReceive 1 1 [] [datagramWith (.replicate 8 255)] = .ok farAhead by
    decide +kernel)

theorem produced_inOrder_one : Produced (inOrder 1) :=
  .udpReceive (show udpReceive 1 1 [] [datagramWith [0, 0, 0, 0, 0, 0, 0, 1],
      datagramWith [0, 0, 0, 0, 0, 0, 0, 2]] = .ok (inOrder 1) by
    decide +kernel)

theorem produced_inOrder_three : Produced (inOrder 3) :=
  .udpReceive (show udpReceive 3 1 [] [datagramWith [0, 0, 0, 0, 0, 0, 0, 1],
      datagramWith [0, 0, 0, 0, 0, 0, 0, 2]] = .ok (inOrder 3) by
    decide +kernel)

def peerStream (id : UInt64) : Json :=
  .ofFields
    [("id", .ofNat id), ("bytes", .ofNat 32), ("start_time", .ofNat 0), ("end_time", .ofNat 1),
     ("packets", .ofNat 2), ("errors", .ofNat 0), ("jitter", .ofNat 0)]

/-- What the peer says about the two streams. -/
def peerDocument : Json := .ofFields [("streams", .array [peerStream 1, peerStream 3])]

/-- Writes no float. -/
abbrev noFloatText : Json.FloatText where
  text := fun _ => "0.0"
  text_le := fun _ => by decide

theorem reportsSoundly_inOrder :
    @ReportsSoundly noFloatText twoReceivers 1 1000 [inOrder 1, inOrder 3] peerDocument := by
  apply (@buildResult_sound_iff noFloatText _ _ _ _ _ ?_).mpr
  · intro _ _
    exact (countersFit_iff_of_ne_tx (by decide)).mpr fun _ => by decide
  · intro o ho
    rcases List.mem_cons.mp ho with rfl | ho
    · exact produced_inOrder_one
    · rw [List.mem_singleton.mp ho]
      exact produced_inOrder_three

/-- The checks on the document, evaluated. -/
theorem admitted_of_isOk {outcomes : List StreamOutcome}
    (h : (do
      let peer ← peerTotals twoReceivers outcomes [peerStream 1, peerStream 3]
      volume twoReceivers outcomes peer).isOk = true) :
    Admitted twoReceivers outcomes peerDocument [peerStream 1, peerStream 3] := by
  refine ⟨rfl, ?_, _, rfl⟩
  cases hpeer : peerTotals twoReceivers outcomes [peerStream 1, peerStream 3] with
  | error e =>
    rw [hpeer] at h
    cases h
  | ok peer =>
    rw [hpeer, except_ok_bind] at h
    cases hv : volume twoReceivers outcomes peer with
    | error e =>
      rw [hv] at h
      cases h
    | ok v => exact ⟨peer, v, rfl, hv⟩

/-- The packets of the first stream leave no room for those of the second, and a result is
reported all the same. -/
theorem overflow_reported :
    Produced farAhead ∧ Produced (inOrder 3) ∧
      ¬ @ReportsSoundly noFloatText twoReceivers 1 1000 [farAhead, inOrder 3] peerDocument := by
  refine ⟨produced_farAhead, produced_inOrder_three, fun hsound => ?_⟩
  have hfit := @countersFit_of_reportsSoundly noFloatText _ _ _ _ _ hsound _
    (admitted_of_isOk (by decide +kernel))
  have hpackets := (countersFit_iff_of_ne_tx (by decide)).mp hfit rfl
  exact absurd hpackets (by decide)

/-- What a receiver reports that got one datagram, late enough for the rounding to show. -/
def nearlyAllLost : StreamOutcome :=
  ⟨1, false, 16, 2951546323991289856, 2951546323991289855, 0, 1, 2951546323991289856,
    2951546323991289855⟩

theorem produced_nearlyAllLost : Produced nearlyAllLost :=
  .udpReceive (show udpReceive 1 1 [] [datagramWith [40, 245, 255, 190, 99, 156, 96, 0]] =
      .ok nearlyAllLost by
    decide +kernel)

/-- A loss above 100 percent is reported. -/
theorem rounding_reported :
    Produced nearlyAllLost ∧ Produced (inOrder 3) ∧
      ¬ @ReportsSoundly noFloatText twoReceivers 1 1000 [nearlyAllLost, inOrder 3]
        peerDocument := by
  refine ⟨produced_nearlyAllLost, produced_inOrder_three, fun hsound => ?_⟩
  have hfit := @countersFit_of_reportsSoundly noFloatText _ _ _ _ _ hsound _
    (admitted_of_isOk (by decide +kernel))
  have hpackets := (countersFit_iff_of_ne_tx (by decide)).mp hfit rfl
  exact absurd hpackets (by decide +kernel)

end NetworkLantern.Throughput
