import NetworkLantern.Lib.SeenRing
import NetworkLantern.Throughput.Failure
import Mathlib.Order.Bounds.Basic
import Mathlib.Order.Interval.Finset.Nat

/-!
# Received datagrams

`observe` counts the datagrams of a stream by their sequence numbers.  What it
has seen it keeps in a ring of slots; a datagram from too far back is an error.
In every run that it accepts, the counters are exact (`datagram_statistics`):
each number above the baseline is counted once, and what is lost is missing.
-/

namespace NetworkLantern.Throughput

open NetworkLantern

abbrev REORDER_WINDOW : Nat := 65536

structure Datagram where
  sequence : UInt64
  bytes : Nat
  arrival : Float
  sent : Float

structure DatagramStats where
  baseline : UInt64
  highest : UInt64
  unique : UInt64
  seen : Fin REORDER_WINDOW → UInt64
  bytes : UInt64
  priorTransit : Option Float
  jitter : Float

namespace DatagramStats

def new (baseline : UInt64) : DatagramStats where
  baseline
  highest := baseline
  unique := 0
  seen := fun _ => 0
  bytes := 0
  priorTransit := none
  jitter := 0

def afterOmission (all : DatagramStats) : DatagramStats :=
  { new all.highest with priorTransit := all.priorTransit }

/-- `sequence as usize % REORDER_WINDOW`. -/
def slot (sequence : UInt64) : Fin REORDER_WINDOW := SeenRing.slot REORDER_WINDOW sequence.toNat

/-- What `observe` makes of a number it counts. -/
def count (s : DatagramStats) (d : Datagram) : DatagramStats :=
  let transit := d.arrival - d.sent
  { s with
    seen := Function.update s.seen (slot d.sequence) d.sequence
    highest := max s.highest d.sequence
    unique := s.unique + 1
    bytes := .ofNat (min (s.bytes.toNat + d.bytes) (2 ^ 64 - 1))
    jitter :=
      match s.priorTransit with
      | none => s.jitter
      | some previous => s.jitter + ((transit - previous).abs - s.jitter) / 16
    priorTransit := some transit }

def observe (s : DatagramStats) (d : Datagram) : Except TestFailure DatagramStats :=
  if d.sequence = 0 then .error (.malformedResult "UDP sequence zero")
  else if d.sequence ≤ s.baseline then .ok s
  else if REORDER_WINDOW ≤ s.highest.toNat - d.sequence.toNat then
    .error (.malformedResult "UDP reordering exceeds the bounded correlation window")
  else if s.seen (slot d.sequence) = d.sequence then .ok s
  else .ok (s.count d)

def expected (s : DatagramStats) : UInt64 := s.highest - s.baseline

/-- `expected().saturating_sub(unique)`. -/
def lost (s : DatagramStats) : UInt64 := .ofNat (s.expected.toNat - s.unique.toNat)

/-- A run of datagrams, all of them accepted. -/
def observeAll (s : DatagramStats) (ds : List Datagram) : Except TestFailure DatagramStats :=
  ds.foldlM observe s

end DatagramStats

/-! ## What the counters should be -/

/-- The sequence numbers above a baseline. -/
def numbersAbove (baseline : UInt64) (ds : List Datagram) : Finset Nat :=
  (ds.map fun d => d.sequence.toNat).toFinset.filter (baseline.toNat < ·)

/-- The numbers in `(baseline, highest]` that no datagram had. -/
def missing (baseline highest : UInt64) (ds : List Datagram) : Finset Nat :=
  Finset.Ioc baseline.toNat highest.toNat \ numbersAbove baseline ds

theorem mem_numbersAbove {baseline : UInt64} {ds : List Datagram} {n : Nat} :
    n ∈ numbersAbove baseline ds ↔ (∃ d ∈ ds, d.sequence.toNat = n) ∧ baseline.toNat < n := by
  simp [numbersAbove]

/-- What was seen stays seen. -/
theorem insert_numbersAbove_subset (baseline : UInt64) (ds more : List Datagram) :
    (insert baseline.toNat (numbersAbove baseline ds : Set Nat)) ⊆
      insert baseline.toNat (numbersAbove baseline (ds ++ more) : Set Nat) := by
  apply Set.insert_subset_insert
  intro n hn
  obtain ⟨⟨d, hd, hn⟩, hlt⟩ := mem_numbersAbove.mp hn
  exact mem_numbersAbove.mpr ⟨⟨d, List.mem_append_left more hd, hn⟩, hlt⟩

theorem numbersAbove_append_of_le {baseline : UInt64} (ds : List Datagram) {d : Datagram}
    (h : d.sequence ≤ baseline) : numbersAbove baseline (ds ++ [d]) = numbersAbove baseline ds := by
  have hle := UInt64.le_iff_toNat_le.mp h
  ext n
  simp only [mem_numbersAbove, List.mem_append, List.mem_singleton]
  constructor
  · rintro ⟨⟨e, he | rfl, rfl⟩, hlt⟩
    · exact ⟨⟨e, he, rfl⟩, hlt⟩
    · omega
  · rintro ⟨⟨e, he, rfl⟩, hlt⟩
    exact ⟨⟨e, .inl he, rfl⟩, hlt⟩

theorem numbersAbove_append_of_lt {baseline : UInt64} (ds : List Datagram) {d : Datagram}
    (h : baseline < d.sequence) :
    numbersAbove baseline (ds ++ [d]) = insert d.sequence.toNat (numbersAbove baseline ds) := by
  have hlt := UInt64.lt_iff_toNat_lt.mp h
  ext n
  simp only [mem_numbersAbove, List.mem_append, List.mem_singleton, Finset.mem_insert]
  constructor
  · rintro ⟨⟨e, he | rfl, rfl⟩, hn⟩
    · exact .inr ⟨⟨e, he, rfl⟩, hn⟩
    · exact .inl rfl
  · rintro (rfl | ⟨⟨e, he, rfl⟩, hn⟩)
    · exact ⟨⟨d, .inr rfl, rfl⟩, hlt⟩
    · exact ⟨⟨e, .inl he, rfl⟩, hn⟩

namespace DatagramStats

/-! ## One datagram -/

@[simp] theorem count_seen (s : DatagramStats) (d : Datagram) :
    (s.count d).seen = Function.update s.seen (slot d.sequence) d.sequence := rfl

theorem toNat_max (a b : UInt64) : (max a b).toNat = max a.toNat b.toNat := by
  show (if a ≤ b then b else a).toNat = _
  split
  · next h => exact (Nat.max_eq_right (UInt64.le_iff_toNat_le.mp h)).symm
  · next h =>
    have hlt := UInt64.lt_iff_toNat_lt.mp (UInt64.not_le.mp h)
    exact (Nat.max_eq_left hlt.le).symm

@[simp] theorem count_highest (s : DatagramStats) (d : Datagram) :
    (s.count d).highest.toNat = max s.highest.toNat d.sequence.toNat := toNat_max _ _

/-- Everything an accepted datagram can do. -/
theorem observe_ok {s s' : DatagramStats} {d : Datagram} (h : s.observe d = .ok s') :
    d.sequence ≠ 0 ∧
      (d.sequence ≤ s.baseline ∧ s' = s ∨
        s.baseline < d.sequence ∧ s.highest.toNat < d.sequence.toNat + REORDER_WINDOW ∧
          (s.seen (slot d.sequence) = d.sequence ∧ s' = s ∨
            s.seen (slot d.sequence) ≠ d.sequence ∧ s' = s.count d)) := by
  unfold observe at h
  split at h
  · cases h
  · next hzero =>
    refine ⟨hzero, ?_⟩
    split at h
    · next hle =>
      cases h
      exact .inl ⟨hle, rfl⟩
    · next hle =>
      split at h
      · cases h
      · next hfar =>
        refine .inr ⟨UInt64.not_le.mp hle, by omega, ?_⟩
        split at h
        · next hseen =>
          cases h
          exact .inl ⟨hseen, rfl⟩
        · next hseen =>
          cases h
          exact .inr ⟨hseen, rfl⟩

/-- A datagram that is counted changes the state. -/
theorem count_ne {s : DatagramStats} {d : Datagram} (h : s.seen (slot d.sequence) ≠ d.sequence) :
    s.count d ≠ s := by
  intro heq
  apply h
  have hseen := congrFun (congrArg seen heq) (slot d.sequence)
  rw [count_seen, Function.update_self] at hseen
  exact hseen.symm

/-- The counters say what they should about the datagrams so far. -/
structure Counts (baseline : UInt64) (ds : List Datagram) (s : DatagramStats) : Prop where
  baseline_eq : s.baseline = baseline
  highest : IsGreatest (insert baseline.toNat (numbersAbove baseline ds : Set Nat)) s.highest.toNat
  unique : s.unique.toNat = (numbersAbove baseline ds).card
  tracks : SeenRing.Tracks (fun i => (s.seen i).toNat) s.highest.toNat (numbersAbove baseline ds)

namespace Counts

variable {baseline : UInt64} {ds : List Datagram} {s s' : DatagramStats} {d : Datagram}

theorem new (baseline : UInt64) : Counts baseline [] (new baseline) where
  baseline_eq := rfl
  highest := by
    have hnone : numbersAbove baseline [] = ∅ := rfl
    rw [hnone, Finset.coe_empty, insert_empty_eq]
    exact isGreatest_singleton
  unique := rfl
  tracks := .empty baseline.toNat

/-- The ring tells whether a number near the highest one was seen. -/
theorem seen_iff (h : Counts baseline ds s) (hd : d.sequence ≠ 0)
    (hnear : s.highest.toNat < d.sequence.toNat + REORDER_WINDOW) :
    s.seen (slot d.sequence) = d.sequence ↔ d.sequence.toNat ∈ numbersAbove baseline ds := by
  rw [← h.tracks.holds_iff (fun hz => hd (UInt64.toNat_inj.mp hz)) hnear]
  exact UInt64.toNat_inj.symm

theorem subset_Ioc (h : Counts baseline ds s) :
    numbersAbove baseline ds ⊆ Finset.Ioc baseline.toNat s.highest.toNat := by
  intro n hn
  exact Finset.mem_Ioc.mpr ⟨(mem_numbersAbove.mp hn).2, h.highest.2 (Set.mem_insert_of_mem _ hn)⟩

theorem baseline_le (h : Counts baseline ds s) : baseline.toNat ≤ s.highest.toNat :=
  h.highest.2 (Set.mem_insert _ _)

/-- A new number above the baseline. -/
theorem count (h : Counts baseline ds s) (hlt : baseline < d.sequence)
    (hnear : s.highest.toNat < d.sequence.toNat + REORDER_WINDOW)
    (hnew : d.sequence.toNat ∉ numbersAbove baseline ds) :
    Counts baseline (ds ++ [d]) (s.count d) := by
  have hnumbers := numbersAbove_append_of_lt ds hlt
  have hmax := count_highest s d
  have hgreatest : IsGreatest
      (insert baseline.toNat (numbersAbove baseline (ds ++ [d]) : Set Nat))
      (s.count d).highest.toNat := by
    rw [hnumbers, Finset.coe_insert, Set.insert_comm, hmax, max_comm]
    exact h.highest.insert d.sequence.toNat
  refine ⟨h.baseline_eq, hgreatest, ?_, ?_⟩
  · have hcard := Finset.card_insert_of_notMem hnew
    -- the numbers counted fit between the baseline and a 64-bit number
    have hroom : (numbersAbove baseline ds).card + 1 ≤ (s.count d).highest.toNat := by
      rw [← hcard, ← hnumbers]
      refine (Finset.card_le_card (fun n hn => Finset.mem_Ioc.mpr
        ⟨(mem_numbersAbove.mp hn).2, hgreatest.2 (Set.mem_insert_of_mem _ hn)⟩)).trans ?_
      rw [Nat.card_Ioc]
      omega
    have hbound := (s.count d).highest.toNat_lt
    rw [hnumbers, hcard]
    show (s.unique + 1).toNat = _
    rw [UInt64.toNat_add, h.unique, UInt64.toNat_one, Nat.mod_eq_of_lt (by omega)]
  · rw [hnumbers, hmax]
    have hring : (fun i => ((s.count d).seen i).toNat) =
        SeenRing.enter (fun i => (s.seen i).toNat) d.sequence.toNat := by
      funext i
      show _ = Function.update (fun i => (s.seen i).toNat) (slot d.sequence) d.sequence.toNat i
      rw [count_seen]
      by_cases hi : i = slot d.sequence
      · rw [hi, Function.update_self, Function.update_self]
      · rw [Function.update_of_ne hi, Function.update_of_ne hi]
    rw [hring]
    exact h.tracks.enter hnear

/-- One datagram keeps the counters right. -/
theorem step (h : Counts baseline ds s) (hobserve : s.observe d = .ok s') :
    Counts baseline (ds ++ [d]) s' := by
  obtain ⟨hzero, ⟨hle, rfl⟩ | ⟨hlt, hnear, ⟨hseen, rfl⟩ | ⟨hseen, rfl⟩⟩⟩ := observe_ok hobserve
  · rw [h.baseline_eq] at hle
    have hnumbers := numbersAbove_append_of_le ds hle
    exact ⟨h.baseline_eq, hnumbers ▸ h.highest, hnumbers ▸ h.unique, hnumbers ▸ h.tracks⟩
  · rw [h.baseline_eq] at hlt
    have hmem := (h.seen_iff hzero hnear).mp hseen
    have hnumbers : numbersAbove baseline (ds ++ [d]) = numbersAbove baseline ds :=
      (numbersAbove_append_of_lt ds hlt).trans (Finset.insert_eq_of_mem hmem)
    exact ⟨h.baseline_eq, hnumbers ▸ h.highest, hnumbers ▸ h.unique, hnumbers ▸ h.tracks⟩
  · rw [h.baseline_eq] at hlt
    exact h.count hlt hnear fun hmem => hseen ((h.seen_iff hzero hnear).mpr hmem)

/-- And so does a run of them. -/
theorem run (h : Counts baseline ds s) {more : List Datagram}
    (hrun : s.observeAll more = .ok s') : Counts baseline (ds ++ more) s' := by
  induction more generalizing ds s with
  | nil =>
    cases hrun
    rw [List.append_nil]
    exact h
  | cons d more ih =>
    unfold observeAll at hrun
    rw [List.foldlM_cons] at hrun
    obtain ⟨s1, hobserve, hrest⟩ := except_bind_ok.mp hrun
    have hnext := ih (h.step hobserve) hrest
    rwa [List.append_assoc] at hnext

end Counts

/-! ## The counters -/

theorem Counts.expected {baseline : UInt64} {ds : List Datagram} {s : DatagramStats}
    (h : Counts baseline ds s) : s.expected.toNat = s.highest.toNat - baseline.toNat := by
  unfold DatagramStats.expected
  rw [h.baseline_eq, UInt64.toNat_sub_of_le _ _ (UInt64.le_iff_toNat_le.mpr h.baseline_le)]

/-- What is lost is missing between the baseline and the highest number. -/
theorem Counts.lost {baseline : UInt64} {ds : List Datagram} {s : DatagramStats}
    (h : Counts baseline ds s) : s.lost.toNat = (missing baseline s.highest ds).card := by
  have hlt := s.highest.toNat_lt
  unfold DatagramStats.lost missing
  rw [Finset.card_sdiff_of_subset h.subset_Ioc, Nat.card_Ioc, h.expected, h.unique,
    UInt64.toNat_ofNat_of_lt' (Nat.lt_of_le_of_lt (Nat.sub_le _ _) (Nat.lt_of_le_of_lt
      (Nat.sub_le _ _) hlt))]

/-- The state changes exactly at a new number above the baseline. -/
theorem Counts.changes_iff {baseline : UInt64} {ds : List Datagram} {s s' : DatagramStats}
    {d : Datagram} (h : Counts baseline ds s) (hobserve : s.observe d = .ok s') :
    s' ≠ s ↔ baseline < d.sequence ∧ d.sequence.toNat ∉ numbersAbove baseline ds := by
  obtain ⟨hzero, ⟨hle, rfl⟩ | ⟨hlt, hnear, hcases⟩⟩ := observe_ok hobserve
  · rw [h.baseline_eq] at hle
    exact ⟨fun hne => absurd rfl hne, fun hnew => absurd hnew.1 (UInt64.not_lt.mpr hle)⟩
  · rw [h.baseline_eq] at hlt
    have hiff := h.seen_iff hzero hnear
    obtain ⟨hseen, rfl⟩ | ⟨hseen, rfl⟩ := hcases
    · exact ⟨fun hne => absurd rfl hne, fun hnew => absurd (hiff.mp hseen) hnew.2⟩
    · exact ⟨fun _ => ⟨hlt, fun hmem => hseen (hiff.mpr hmem)⟩, fun _ => count_ne hseen⟩

/-! ## After the omission -/

/-- The counters without the transit times. -/
structure SameCounters (s t : DatagramStats) : Prop where
  baseline : s.baseline = t.baseline
  highest : s.highest = t.highest
  unique : s.unique = t.unique
  seen : s.seen = t.seen
  bytes : s.bytes = t.bytes

theorem SameCounters.symm {s t : DatagramStats} (h : SameCounters s t) : SameCounters t s :=
  ⟨h.baseline.symm, h.highest.symm, h.unique.symm, h.seen.symm, h.bytes.symm⟩

/-- Whether a datagram is accepted, and what it does to the counters, is up to the counters. -/
theorem SameCounters.observe {s t s' : DatagramStats} {d : Datagram} (h : SameCounters s t)
    (hobserve : s.observe d = .ok s') : ∃ t', t.observe d = .ok t' ∧ SameCounters s' t' := by
  have hcount : SameCounters (s.count d) (t.count d) :=
    ⟨h.baseline, by show max _ _ = max _ _; rw [h.highest],
      by show s.unique + 1 = t.unique + 1; rw [h.unique],
      by rw [count_seen, count_seen, h.seen],
      by show UInt64.ofNat _ = UInt64.ofNat _; rw [h.bytes]⟩
  unfold DatagramStats.observe at hobserve ⊢
  rw [← h.baseline, ← h.highest, ← h.seen]
  split at hobserve
  · cases hobserve
  · next hzero =>
    rw [if_neg hzero]
    split at hobserve
    · next hle =>
      cases hobserve
      exact ⟨t, if_pos hle, h⟩
    · next hle =>
      rw [if_neg hle]
      split at hobserve
      · cases hobserve
      · next hfar =>
        rw [if_neg hfar]
        split at hobserve
        · next hseen =>
          cases hobserve
          exact ⟨t, if_pos hseen, h⟩
        · next hseen =>
          cases hobserve
          exact ⟨_, if_neg hseen, hcount⟩

theorem SameCounters.observeAll {s t s' : DatagramStats} {ds : List Datagram}
    (h : SameCounters s t) (hrun : s.observeAll ds = .ok s') :
    ∃ t', t.observeAll ds = .ok t' ∧ SameCounters s' t' := by
  induction ds generalizing s t with
  | nil =>
    cases hrun
    exact ⟨t, rfl, h⟩
  | cons d ds ih =>
    unfold DatagramStats.observeAll at hrun
    rw [List.foldlM_cons] at hrun
    obtain ⟨s1, hobserve, hrest⟩ := except_bind_ok.mp hrun
    obtain ⟨t1, ht1, h1⟩ := h.observe hobserve
    obtain ⟨t', ht', h'⟩ := ih h1 hrest
    refine ⟨t', ?_, h'⟩
    show (d :: ds).foldlM DatagramStats.observe t = _
    rw [List.foldlM_cons, ht1, except_ok_bind]
    exact ht'

theorem observeAll_append (s : DatagramStats) (ds more : List Datagram) :
    s.observeAll (ds ++ more) = s.observeAll ds >>= fun t => t.observeAll more :=
  List.foldlM_append

/-- Numbers at or below the baseline are ignored. -/
theorem observeAll_below {s : DatagramStats} {ds : List Datagram}
    (h : ∀ d ∈ ds, d.sequence ≠ 0 ∧ d.sequence ≤ s.baseline) : s.observeAll ds = .ok s := by
  induction ds with
  | nil => rfl
  | cons d ds ih =>
    obtain ⟨hzero, hle⟩ := h d List.mem_cons_self
    have hstep : s.observe d = .ok s := by
      unfold DatagramStats.observe
      rw [if_neg hzero, if_pos hle]
    show (d :: ds).foldlM DatagramStats.observe s = _
    rw [List.foldlM_cons, hstep, except_ok_bind]
    exact ih fun e he => h e (List.mem_cons_of_mem d he)

/-- No number of an accepted run is zero. -/
theorem ne_zero_of_observeAll {s s' : DatagramStats} {ds : List Datagram}
    (h : s.observeAll ds = .ok s') : ∀ d ∈ ds, d.sequence ≠ 0 := by
  induction ds generalizing s with
  | nil =>
    intro d hd
    cases hd
  | cons e ds ih =>
    unfold DatagramStats.observeAll at h
    rw [List.foldlM_cons] at h
    obtain ⟨s1, hobserve, hrest⟩ := except_bind_ok.mp h
    intro d hd
    rcases List.mem_cons.mp hd with rfl | hd
    · exact (observe_ok hobserve).1
    · exact ih hrest d hd

/-- Statistics above a number seen have the highest number of the full ones. -/
theorem Counts.highest_eq {baseline above : UInt64} {ds : List Datagram} {a m : DatagramStats}
    (ha : Counts baseline ds a) (hm : Counts above ds m)
    (habove : above.toNat ∈ (insert baseline.toNat (numbersAbove baseline ds : Set Nat))) :
    a.highest = m.highest := by
  have hle : baseline.toNat ≤ above.toNat := by
    rcases Set.mem_insert_iff.mp habove with heq | hmem
    · exact heq.ge
    · exact (mem_numbersAbove.mp hmem).2.le
  apply UInt64.toNat_inj.mp
  apply IsGreatest.unique _ hm.highest
  constructor
  · rcases Nat.lt_or_ge above.toNat a.highest.toNat with hlt | hge
    · rcases Set.mem_insert_iff.mp ha.highest.1 with heq | hmem
      · omega
      · exact Set.mem_insert_of_mem _ (mem_numbersAbove.mpr ⟨(mem_numbersAbove.mp hmem).1, hlt⟩)
    · have heq := Nat.le_antisymm hge (ha.highest.2 habove)
      rw [heq]
      exact Set.mem_insert _ _
  · intro n hn
    rcases Set.mem_insert_iff.mp hn with rfl | hmem
    · exact ha.highest.2 habove
    · obtain ⟨hd, hlt⟩ := mem_numbersAbove.mp hmem
      exact ha.highest.2 (Set.mem_insert_of_mem _ (mem_numbersAbove.mpr ⟨hd, by omega⟩))

/-- What the full statistics accept, statistics of a later baseline accept too. -/
theorem observe_accepts {a a' m : DatagramStats} {d : Datagram} (hobserve : a.observe d = .ok a')
    (hbaseline : a.baseline.toNat ≤ m.baseline.toNat) (hhighest : a.highest = m.highest) :
    ∃ m', m.observe d = .ok m' := by
  obtain ⟨hzero, hcases⟩ := observe_ok hobserve
  unfold observe
  rw [if_neg hzero]
  by_cases hle : d.sequence ≤ m.baseline
  · exact ⟨m, if_pos hle⟩
  · rw [if_neg hle]
    have hnear : a.highest.toNat < d.sequence.toNat + REORDER_WINDOW := by
      rcases hcases with ⟨hbelow, -⟩ | ⟨-, hnear, -⟩
      · have hlt := UInt64.lt_iff_toNat_lt.mp (UInt64.not_le.mp hle)
        have hge := UInt64.le_iff_toNat_le.mp hbelow
        omega
      · exact hnear
    have hwindow : 0 < REORDER_WINDOW := by decide
    rw [← hhighest, if_neg (by omega)]
    by_cases hseen : m.seen (slot d.sequence) = d.sequence
    · exact ⟨m, if_pos hseen⟩
    · exact ⟨_, if_neg hseen⟩

/-- So a run that the full statistics accept is accepted above a number seen before it. -/
theorem Counts.restricted {baseline above : UInt64} {ds more : List Datagram}
    {a a' m : DatagramStats} (ha : Counts baseline ds a) (hm : Counts above ds m)
    (habove : above.toNat ∈ (insert baseline.toNat (numbersAbove baseline ds : Set Nat)))
    (hrun : a.observeAll more = .ok a') : ∃ m', m.observeAll more = .ok m' := by
  induction more generalizing ds a m with
  | nil => exact ⟨m, rfl⟩
  | cons d more ih =>
    unfold observeAll at hrun
    rw [List.foldlM_cons] at hrun
    obtain ⟨a1, hobserve, hrest⟩ := except_bind_ok.mp hrun
    have hle : a.baseline.toNat ≤ m.baseline.toNat := by
      rw [ha.baseline_eq, hm.baseline_eq]
      rcases Set.mem_insert_iff.mp habove with heq | hmem
      · exact heq.ge
      · exact (mem_numbersAbove.mp hmem).2.le
    obtain ⟨m1, hm1⟩ := observe_accepts hobserve hle (ha.highest_eq hm habove)
    obtain ⟨m', hm'⟩ := ih (ha.step hobserve) (hm.step hm1)
      (insert_numbersAbove_subset baseline ds [d] habove) hrest
    refine ⟨m', ?_⟩
    show (d :: more).foldlM observe m = _
    rw [List.foldlM_cons, hm1, except_ok_bind]
    exact hm'

/-- The statistics started after an omission are those of the whole run above the highest number
seen until then. -/
theorem afterOmission_observeAll {baseline : UInt64} {ds after : List Datagram}
    {s t : DatagramStats} (h : (new baseline).observeAll ds = .ok s)
    (hafter : s.observeAll after = .ok t) :
    ∃ m full, (afterOmission s).observeAll after = .ok m ∧
      (new s.highest).observeAll (ds ++ after) = .ok full ∧ SameCounters m full ∧
      m.highest = t.highest ∧
      m.unique.toNat = (numbersAbove s.highest (ds ++ after)).card ∧
      m.lost.toNat = (missing s.highest t.highest (ds ++ after)).card := by
  have hs : Counts baseline ds s := (Counts.new baseline).run h
  have hbelow : (new s.highest).observeAll ds = .ok (new s.highest) := by
    refine observeAll_below fun d hd => ⟨ne_zero_of_observeAll h d hd, ?_⟩
    rw [UInt64.le_iff_toNat_le]
    rcases Nat.lt_or_ge baseline.toNat d.sequence.toNat with hlt | hge
    · exact hs.highest.2 (Set.mem_insert_of_mem _ (mem_numbersAbove.mpr ⟨⟨d, hd, rfl⟩, hlt⟩))
    · exact hge.trans hs.baseline_le
  have hnew : Counts s.highest ds (new s.highest) := (Counts.new s.highest).run hbelow
  obtain ⟨full, hfull⟩ := hs.restricted hnew hs.highest.1 hafter
  have hsame : SameCounters (new s.highest) (afterOmission s) := ⟨rfl, rfl, rfl, rfl, rfl⟩
  obtain ⟨m, hm, hmfull⟩ := hsame.observeAll hfull
  have hall := hs.run hafter
  have hcounts : Counts s.highest (ds ++ after) full := hnew.run hfull
  have hhighest : t.highest = full.highest :=
    hall.highest_eq hcounts (insert_numbersAbove_subset baseline ds after hs.highest.1)
  have hlost : m.lost = full.lost := by
    unfold lost expected
    rw [hmfull.baseline, hmfull.highest, hmfull.unique]
  refine ⟨m, full, hm, ?_, hmfull.symm, ?_, ?_, ?_⟩
  · rw [observeAll_append, hbelow, except_ok_bind]
    exact hfull
  · rw [hhighest, hmfull.highest]
  · rw [← hmfull.unique]
    exact hcounts.unique
  · rw [hlost, hhighest]
    exact hcounts.lost

/-- In every run that is accepted, the numbers above the baseline are counted once each, and what
is lost is what is missing; the statistics started after an omission are those of the whole run
above the highest number seen until then. -/
theorem datagram_statistics {baseline : UInt64} {ds : List Datagram} {s : DatagramStats}
    (h : (new baseline).observeAll ds = .ok s) :
    s.unique.toNat = (numbersAbove baseline ds).card ∧
      IsGreatest (insert baseline.toNat (numbersAbove baseline ds : Set Nat)) s.highest.toNat ∧
      s.lost.toNat = (missing baseline s.highest ds).card ∧
      (∀ d s', s.observe d = .ok s' →
        (s' ≠ s ↔ baseline < d.sequence ∧ d.sequence.toNat ∉ numbersAbove baseline ds)) ∧
      ∀ after t, s.observeAll after = .ok t →
        ∃ m full, (afterOmission s).observeAll after = .ok m ∧
          (new s.highest).observeAll (ds ++ after) = .ok full ∧ SameCounters m full ∧
          m.highest = t.highest ∧
          m.unique.toNat = (numbersAbove s.highest (ds ++ after)).card ∧
          m.lost.toNat = (missing s.highest t.highest (ds ++ after)).card := by
  have hs : Counts baseline ds s := (Counts.new baseline).run h
  exact ⟨hs.unique, hs.highest, hs.lost, fun d s' hobserve => hs.changes_iff hobserve,
    fun after t hafter => afterOmission_observeAll h hafter⟩

/-- 101, 103, 103 again and 102 late, with 100 as the baseline. -/
def sampleDatagrams : List Datagram :=
  [⟨101, 16, 1.0, 0.9⟩, ⟨103, 16, 2.0, 1.9⟩, ⟨103, 16, 2.1, 2.0⟩, ⟨102, 16, 3.0, 2.9⟩]

theorem sample_statistics : ∃ s, (new 100).observeAll sampleDatagrams = .ok s ∧
    s.unique.toNat = 3 ∧ s.lost.toNat = 0 := by
  have hrun : ∃ s, (new 100).observeAll sampleDatagrams = .ok s := ⟨_, rfl⟩
  obtain ⟨s, hs⟩ := hrun
  obtain ⟨hunique, hhighest, hlost, -⟩ := datagram_statistics hs
  have hnumbers : numbersAbove 100 sampleDatagrams = {101, 102, 103} := by decide
  have h103 : s.highest.toNat = 103 := by
    refine hhighest.unique ⟨?_, ?_⟩
    · rw [hnumbers]
      simp
    · rw [hnumbers]
      intro n hn
      simp only [Finset.coe_insert, Finset.coe_singleton, Set.mem_insert_iff,
        Set.mem_singleton_iff] at hn
      have hbase : (100 : UInt64).toNat = 100 := rfl
      omega
  refine ⟨s, hs, ?_, ?_⟩
  · rw [hunique, hnumbers]
    rfl
  · rw [hlost]
    unfold missing
    rw [hnumbers, h103]
    decide

end DatagramStats

end NetworkLantern.Throughput
