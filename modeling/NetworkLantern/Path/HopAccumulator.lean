import NetworkLantern.Lib.FirstSeen
import NetworkLantern.Path.Statistics
import Std.Data.TreeMap.Lemmas

/-!
# Hop aggregation

What a hop keeps of its samples: at most 64 responders with their statistics, at
most 64 label stacks, and whether anything was left out (`hop_aggregation`).
-/

namespace NetworkLantern.Packet

open NetworkLantern

/-- Addresses are ordered by family, then by their octets. -/
def IpAddr.key : IpAddr → List UInt8
  | .v4 octets => 4 :: octets.val
  | .v6 octets => 6 :: octets.val

theorem IpAddr.key_injective : Function.Injective IpAddr.key := by
  intro a b h
  cases a with
  | v4 a =>
    cases b with
    | v4 b => rw [Subtype.ext (List.cons.inj h).2]
    | v6 b => exact absurd (List.cons.inj h).1 (by decide)
  | v6 a =>
    cases b with
    | v4 b => exact absurd (List.cons.inj h).1 (by decide)
    | v6 b => rw [Subtype.ext (List.cons.inj h).2]

instance : Ord IpAddr := ⟨compareOn IpAddr.key⟩

instance : Std.TransOrd IpAddr := inferInstanceAs (Std.TransCmp (compareOn IpAddr.key))

instance : Std.LawfulEqOrd IpAddr where
  eq_of_compare h := IpAddr.key_injective (Std.LawfulEqOrd.eq_of_compare h)

end NetworkLantern.Packet

namespace NetworkLantern.Path

open NetworkLantern Checked Packet

/-! ## The accumulator -/

structure HopAccumulator (K : Type) where
  totals : Moments K
  responders : Std.TreeMap IpAddr (Moments K) compare
  /-- `stacks` -/
  labelStacks : List (List MplsLabel)
  limited : Bool

structure TraceResponder (K : Type) where
  address : IpAddr
  statistics : Statistics K

structure TraceHop (K : Type) where
  ttl : UInt8
  address : Option IpAddr
  hostname : Option Str
  asn : Option Str
  mpls : List MplsLabel
  mplsStacks : List (List MplsLabel)
  responders : List (TraceResponder K)
  statistics : Statistics K

/-- One turn of the search for the responder with the most samples. -/
def overtake {K : Type} (best : Option (IpAddr × Nat)) (entry : IpAddr × Moments K) :
    Option (IpAddr × Nat) :=
  if best.any (fun leader => entry.2.sent ≤ leader.2) then best else some (entry.1, entry.2.sent)

/-- Strictly more, in the order of the addresses, keeps the lowest address on ties. -/
def dominant {K : Type} (responders : List (IpAddr × Moments K)) : Option IpAddr :=
  (responders.foldl overtake none).map Prod.fst

namespace HopAccumulator

section
variable {K : Type} [Zero K] [Add K] [Sub K] [Mul K] [Div K] [NatCast K] [Min K] [Max K]

/-- `HopAccumulator::default()`. -/
def default : HopAccumulator K := ⟨Moments.default, ∅, [], false⟩

/-- The sample of a responder: of one that is known, or of a new one where there is room. -/
def recordResponder (a : HopAccumulator K) (sample : Sample K) :
    Checked Empty (HopAccumulator K) :=
  match sample.hop with
  | none => .ok a
  | some address =>
    if a.responders.size < 64 ∨ address ∈ a.responders then do
      let moments ← (a.responders.getD address Moments.default).record sample
      return { a with responders := a.responders.insert address moments }
    else .ok { a with limited := true }

def recordStack (a : HopAccumulator K) (mpls : List MplsLabel) : HopAccumulator K :=
  if mpls ≠ [] ∧ mpls ∉ a.labelStacks then
    if a.labelStacks.length < 64 then { a with labelStacks := a.labelStacks ++ [mpls] }
    else { a with limited := true }
  else a

def record (a : HopAccumulator K) (sample : Sample K) : Checked Empty (HopAccumulator K) := do
  let totals ← a.totals.record sample
  let a ← { a with totals }.recordResponder sample
  return a.recordStack sample.mpls

/-- One sample at a time. -/
def recordAll (samples : List (Sample K)) : Checked Empty (HopAccumulator K) :=
  samples.foldlM record default

def finish (sqrt : K → K) (a : HopAccumulator K) (ttl : UInt8) :
    Checked Empty (Option (TraceHop K)) :=
  if a.totals.sent = 0 then .ok none
  else do
    let responders ← a.responders.toList.mapM fun entry => do
      let statistics ← entry.2.finish sqrt
      return { address := entry.1, statistics }
    let statistics ← a.totals.finish sqrt
    return some
      { ttl, address := dominant a.responders.toList, hostname := none, asn := none
        mpls := a.labelStacks.flatten, mplsStacks := a.labelStacks, responders, statistics }

end

end HopAccumulator

/-! ## What a sequence of samples has -/

section
variable {K : Type}

/-- The addresses that answered, one for each answer. -/
def addressesOf (samples : List (Sample K)) : List IpAddr := samples.filterMap (·.hop)

/-- The label stacks that were quoted, one for each quotation. -/
def stacksOf (samples : List (Sample K)) : List (List MplsLabel) :=
  (samples.map (·.mpls)).filter (· ≠ [])

/-- The samples of one responder. -/
def samplesOf (address : IpAddr) (samples : List (Sample K)) : List (Sample K) :=
  samples.filter fun sample => sample.hop = some address

theorem addressesOf_concat (samples : List (Sample K)) (sample : Sample K) :
    addressesOf (samples ++ [sample]) = addressesOf samples ++ sample.hop.toList := by
  rw [addressesOf, List.filterMap_append]
  cases h : sample.hop with
  | none => simp [addressesOf, h]
  | some address => simp [addressesOf, h]

theorem stacksOf_concat (samples : List (Sample K)) (sample : Sample K) :
    stacksOf (samples ++ [sample]) =
      stacksOf samples ++ if sample.mpls = [] then [] else [sample.mpls] := by
  rw [stacksOf, List.map_append, List.filter_append]
  congr 1
  by_cases h : sample.mpls = []
  · simp [h]
  · simp [h]

theorem samplesOf_concat_self {sample : Sample K} {address : IpAddr}
    (h : sample.hop = some address) (samples : List (Sample K)) :
    samplesOf address (samples ++ [sample]) = samplesOf address samples ++ [sample] := by
  simp [samplesOf, h]

theorem samplesOf_concat_ne {sample : Sample K} {address : IpAddr}
    (h : sample.hop ≠ some address) (samples : List (Sample K)) :
    samplesOf address (samples ++ [sample]) = samplesOf address samples := by
  simp [samplesOf, h]

theorem samplesOf_of_not_mem {address : IpAddr} {samples : List (Sample K)}
    (h : address ∉ addressesOf samples) : samplesOf address samples = [] := by
  refine List.filter_eq_nil_iff.mpr fun sample hsample heq => h ?_
  exact List.mem_filterMap.mpr ⟨sample, hsample, of_decide_eq_true heq⟩

end

namespace HopAccumulator

section
variable {K : Type} [Field K] [LinearOrder K]

/-- What is kept of the responders of `answered` and of the label stacks of `quoted`. -/
structure Of (answered quoted : List (Sample K)) (a : HopAccumulator K) : Prop where
  mem : ∀ x, x ∈ a.responders ↔ x ∈ keep 64 (addressesOf answered)
  size : a.responders.size = (keep 64 (addressesOf answered)).length
  moments : ∀ x m, a.responders[x]? = some m → Moments.Of (samplesOf x answered) m
  labelStacks : a.labelStacks = keep 64 (stacksOf quoted)
  limited : a.limited = true ↔
    ¬ KeptAll 64 (addressesOf answered) ∨ ¬ KeptAll 64 (stacksOf quoted)

variable {answered quoted : List (Sample K)} {a : HopAccumulator K}

/-- A quoted stack: a new one is kept where there is room. -/
theorem Of.recordStack (h : Of answered quoted a) (sample : Sample K) :
    Of answered (quoted ++ [sample]) (a.recordStack sample.mpls) := by
  have hquoted := stacksOf_concat quoted sample
  unfold HopAccumulator.recordStack
  rw [h.labelStacks]
  by_cases hempty : sample.mpls = []
  · rw [if_pos hempty, List.append_nil] at hquoted
    rw [if_neg fun hnew => hnew.1 hempty]
    exact { h with
      labelStacks := by rw [hquoted]; exact h.labelStacks
      limited := by rw [hquoted]; exact h.limited }
  rw [if_neg hempty] at hquoted
  by_cases hmem : sample.mpls ∈ keep 64 (stacksOf quoted)
  · rw [if_neg fun hnew => hnew.2 hmem]
    exact { h with
      labelStacks := by rw [hquoted, keep_concat_of_no_room (.inl hmem)]; exact h.labelStacks
      limited := by rw [hquoted, keptAll_concat_of_mem hmem]; exact h.limited }
  rw [if_pos ⟨hempty, hmem⟩]
  by_cases hroom : (keep 64 (stacksOf quoted)).length < 64
  · rw [if_pos hroom]
    exact { h with
      labelStacks := by rw [hquoted, keep_concat_of_room hmem hroom]
      limited := by rw [hquoted, keptAll_concat_of_room hmem hroom]; exact h.limited }
  · have hfull := Nat.not_lt.mp hroom
    rw [if_neg hroom]
    exact { h with
      labelStacks := by rw [hquoted, keep_concat_of_no_room (.inr hfull)]
      limited := by
        rw [hquoted]
        exact ⟨fun _ => .inr (not_keptAll_concat hmem hfull), fun _ => rfl⟩ }

/-- What is known of a responder before its next sample. -/
theorem Of.known (h : Of answered quoted a) {address : IpAddr}
    (hroom : a.responders.size < 64 ∨ address ∈ a.responders) :
    Moments.Of (samplesOf address answered) (a.responders.getD address Moments.default) := by
  rw [Std.TreeMap.getD_eq_getD_getElem?]
  cases hold : a.responders[address]? with
  | some m => exact h.moments address m hold
  | none =>
    have hnot : address ∉ a.responders := by
      rw [Std.TreeMap.mem_iff_isSome_getElem?, hold]
      exact nofun
    rw [h.size] at hroom
    have hnew : address ∉ addressesOf answered := fun hmem =>
      hnot ((h.mem address).mpr (mem_keep_of_room (hroom.resolve_right hnot) hmem))
    rw [samplesOf_of_not_mem hnew]
    exact Moments.Of.default

/-- A responder that is kept, or finds room, is kept with its new statistics. -/
theorem Of.insertResponder (h : Of answered quoted a) {sample : Sample K} {address : IpAddr}
    (hhop : sample.hop = some address) (hroom : a.responders.size < 64 ∨ address ∈ a.responders)
    {m : Moments K} (hm : Moments.Of (samplesOf address answered ++ [sample]) m) :
    Of (answered ++ [sample]) quoted
      { a with responders := a.responders.insert address m } := by
  have haddresses := addressesOf_concat answered sample
  rw [hhop, Option.toList_some] at haddresses
  have hmoments : ∀ x m', (a.responders.insert address m)[x]? = some m' →
      Moments.Of (samplesOf x (answered ++ [sample])) m' := by
    intro x m' hx
    rw [Std.TreeMap.getElem?_insert] at hx
    by_cases heq : address = x
    · rw [if_pos (Std.LawfulEqCmp.compare_eq_iff_eq.mpr heq), Option.some.injEq] at hx
      rw [← heq, ← hx, samplesOf_concat_self hhop]
      exact hm
    · rw [if_neg fun hc => heq (Std.LawfulEqCmp.compare_eq_iff_eq.mp hc)] at hx
      rw [samplesOf_concat_ne (by rw [hhop]; exact fun hs => heq (Option.some.inj hs))]
      exact h.moments x m' hx
  by_cases hmem : address ∈ a.responders
  · have hkept := (h.mem address).mp hmem
    refine ⟨fun x => ?_, ?_, hmoments, h.labelStacks, ?_⟩
    · rw [haddresses, keep_concat_of_no_room (.inl hkept), Std.TreeMap.mem_insert,
        Std.LawfulEqCmp.compare_eq_iff_eq, ← h.mem]
      exact ⟨fun hx => hx.elim (fun heq => heq ▸ hmem) id, .inr⟩
    · rw [haddresses, keep_concat_of_no_room (.inl hkept), Std.TreeMap.size_insert,
        if_pos (Std.TreeMap.contains_iff_mem.mpr hmem), h.size]
    · rw [haddresses, keptAll_concat_of_mem hkept]
      exact h.limited
  · have hnew := fun hkept => hmem ((h.mem address).mpr hkept)
    have hsize := hroom.resolve_right hmem
    rw [h.size] at hsize
    refine ⟨fun x => ?_, ?_, hmoments, h.labelStacks, ?_⟩
    · rw [haddresses, keep_concat_of_room hnew hsize, Std.TreeMap.mem_insert,
        Std.LawfulEqCmp.compare_eq_iff_eq, List.mem_append, List.mem_singleton, ← h.mem, or_comm,
        eq_comm]
    · rw [haddresses, keep_concat_of_room hnew hsize, Std.TreeMap.size_insert,
        if_neg fun hc => hmem (Std.TreeMap.contains_iff_mem.mp hc), List.length_append,
        List.length_singleton, h.size]
    · rw [haddresses, keptAll_concat_of_room hnew hsize]
      exact h.limited

/-- A responder that finds no room is left out. -/
theorem Of.dropResponder (h : Of answered quoted a) {sample : Sample K} {address : IpAddr}
    (hhop : sample.hop = some address) (hfull : 64 ≤ a.responders.size)
    (hnew : address ∉ a.responders) :
    Of (answered ++ [sample]) quoted { a with limited := true } := by
  have haddresses := addressesOf_concat answered sample
  rw [hhop, Option.toList_some] at haddresses
  have hnot : address ∉ keep 64 (addressesOf answered) := fun hk => hnew ((h.mem address).mpr hk)
  rw [h.size] at hfull
  refine ⟨?_, ?_, fun x m hx => ?_, h.labelStacks, ?_⟩
  · rw [haddresses, keep_concat_of_no_room (.inr hfull)]
    exact h.mem
  · rw [haddresses, keep_concat_of_no_room (.inr hfull)]
    exact h.size
  · have hne : sample.hop ≠ some x := by
      rw [hhop]
      intro heq
      cases heq
      exact hnew (Std.TreeMap.mem_iff_isSome_getElem?.mpr (by rw [hx]; rfl))
    rw [samplesOf_concat_ne hne]
    exact h.moments x m hx
  · rw [haddresses]
    exact ⟨fun _ => .inl (not_keptAll_concat hnot hfull), fun _ => rfl⟩

/-- A sample that nobody answered changes no responder. -/
theorem Of.unanswered (h : Of answered quoted a) {sample : Sample K} (hhop : sample.hop = none) :
    Of (answered ++ [sample]) quoted a := by
  have haddresses := addressesOf_concat answered sample
  rw [hhop, Option.toList_none, List.append_nil] at haddresses
  refine ⟨?_, ?_, fun x m hx => ?_, h.labelStacks, ?_⟩
  · rw [haddresses]
    exact h.mem
  · rw [haddresses]
    exact h.size
  · rw [samplesOf_concat_ne (by rw [hhop]; exact nofun)]
    exact h.moments x m hx
  · rw [haddresses]
    exact h.limited

variable [IsStrictOrderedRing K]

theorem Of.recordResponder (h : Of answered quoted a) (sample : Sample K)
    (hlen : answered.length + 1 < 2 ^ 32) :
    ∃ a', a.recordResponder sample = .ok a' ∧ a'.totals = a.totals ∧
      Of (answered ++ [sample]) quoted a' := by
  unfold HopAccumulator.recordResponder
  cases hhop : sample.hop with
  | none => exact ⟨a, rfl, rfl, h.unanswered hhop⟩
  | some address =>
    dsimp only
    by_cases hroom : a.responders.size < 64 ∨ address ∈ a.responders
    · have hlen' : (samplesOf address answered).length + 1 < 2 ^ 32 :=
        Nat.lt_of_le_of_lt (Nat.succ_le_succ (List.length_filter_le _ _)) hlen
      obtain ⟨m, hrecord, hm⟩ := (h.known hroom).record sample hlen'
      rw [if_pos hroom, hrecord]
      exact ⟨_, rfl, rfl, h.insertResponder hhop hroom hm⟩
    · rw [if_neg hroom]
      rw [not_or, Nat.not_lt] at hroom
      exact ⟨_, rfl, rfl, h.dropResponder hhop hroom.1 hroom.2⟩

/-- What is kept of all samples so far. -/
structure OfAll (samples : List (Sample K)) (a : HopAccumulator K) : Prop where
  totals : Moments.Of samples a.totals
  kept : Of samples samples a

omit [IsStrictOrderedRing K] in
theorem OfAll.default : OfAll [] (default : HopAccumulator K) where
  totals := Moments.Of.default
  kept :=
    { mem := fun x => by
        show x ∈ (∅ : Std.TreeMap IpAddr (Moments K) compare) ↔ _
        simp [addressesOf]
      size := rfl
      moments := fun x m hx => by
        have hnone : (∅ : Std.TreeMap IpAddr (Moments K) compare)[x]? = some m := hx
        simp at hnone
      labelStacks := rfl
      limited := by
        have hnone : KeptAll 64 (addressesOf ([] : List (Sample K))) := nofun
        have hnone' : KeptAll 64 (stacksOf ([] : List (Sample K))) := nofun
        exact ⟨nofun, fun h => (h.elim (· hnone) (· hnone')).elim⟩ }

theorem OfAll.record {samples : List (Sample K)} (h : OfAll samples a) (sample : Sample K)
    (hlen : samples.length + 1 < 2 ^ 32) :
    ∃ a', a.record sample = .ok a' ∧ OfAll (samples ++ [sample]) a' := by
  obtain ⟨totals, hrecord, htotals⟩ := h.totals.record sample hlen
  have hkept : Of samples samples { a with totals } :=
    ⟨h.kept.mem, h.kept.size, h.kept.moments, h.kept.labelStacks, h.kept.limited⟩
  obtain ⟨a', hanswer, hsame, hof⟩ := hkept.recordResponder sample hlen
  have hstack : (a'.recordStack sample.mpls).totals = totals := by
    rw [← show a'.totals = totals from hsame]
    unfold recordStack
    split
    · split
      · rfl
      · rfl
    · rfl
  refine ⟨a'.recordStack sample.mpls, ?_, ?_, hof.recordStack sample⟩
  · rw [HopAccumulator.record, hrecord, except_ok_bind, hanswer, except_ok_bind]
    rfl
  · rw [hstack]
    exact htotals

theorem recordAll_ok {samples : List (Sample K)} (h : samples.length < 2 ^ 32) :
    ∃ a, recordAll samples = .ok a ∧ OfAll samples a :=
  foldlM_ok (fun sample hof hlen => hof.record sample hlen) OfAll.default h

/-- The count of the samples overflows at the 2^32nd of them. -/
theorem recordAll_panic {samples : List (Sample K)} (h : 2 ^ 32 ≤ samples.length) :
    recordAll samples = panic := by
  refine foldlM_error (fun sample hof hlen => hof.record sample hlen) ?_ (by decide)
    OfAll.default h
  intro seen a sample hof hlen
  rw [HopAccumulator.record, hof.totals.overflow sample hlen]
  rfl

end

end HopAccumulator

/-! ## The responder that leads -/

section
variable {K : Type}

/-- A responder with the most samples, of the lowest address among those. -/
structure Leads (entries : List (IpAddr × Moments K)) (leader : IpAddr × Nat) : Prop where
  mem : ∃ m, (leader.1, m) ∈ entries ∧ m.sent = leader.2
  most : ∀ e ∈ entries, e.2.sent < leader.2 ∨
    e.2.sent = leader.2 ∧ (compare leader.1 e.1).isLE = true

theorem Leads.overtake {entries : List (IpAddr × Moments K)} {leader : IpAddr × Nat}
    (h : Leads entries leader) {entry : IpAddr × Moments K}
    (hlast : ∀ e ∈ entries, compare e.1 entry.1 = .lt) :
    ∃ next, overtake (some leader) entry = some next ∧ Leads (entries ++ [entry]) next := by
  obtain ⟨⟨m, hm, hsent⟩, hmost⟩ := h
  have hany : (some leader).any (fun leader => decide (entry.2.sent ≤ leader.2)) =
      decide (entry.2.sent ≤ leader.2) := rfl
  unfold Path.overtake
  rw [hany]
  by_cases hle : entry.2.sent ≤ leader.2
  · rw [if_pos (decide_eq_true hle)]
    refine ⟨leader, rfl, ⟨m, List.mem_append_left _ hm, hsent⟩, fun e he => ?_⟩
    rcases List.mem_append.mp he with he | he
    · exact hmost e he
    · rw [List.mem_singleton.mp he]
      rcases Nat.eq_or_lt_of_le hle with heq | hlt
      · exact .inr ⟨heq, by rw [hlast _ hm]; rfl⟩
      · exact .inl hlt
  · rw [if_neg fun hyes => hle (of_decide_eq_true hyes)]
    refine ⟨_, rfl, ⟨entry.2, List.mem_append_right _ (List.mem_singleton_self _), rfl⟩, ?_⟩
    intro e he
    rcases List.mem_append.mp he with he | he
    · rcases hmost e he with hlt | ⟨heq, -⟩
      · exact .inl (Nat.lt_trans hlt (Nat.not_le.mp hle))
      · exact .inl (heq ▸ Nat.not_le.mp hle)
    · rw [List.mem_singleton.mp he]
      exact .inr ⟨rfl, Std.ReflCmp.isLE_rfl⟩

/-- The search ends with the leader, if there is anyone. -/
theorem leads_of_sorted {entries : List (IpAddr × Moments K)}
    (h : entries.Pairwise fun e e' => compare e.1 e'.1 = .lt) :
    entries = [] ∧ entries.foldl overtake none = none ∨
      ∃ leader, entries.foldl overtake none = some leader ∧ Leads entries leader := by
  induction entries using List.reverseRecOn with
  | nil => exact .inl ⟨rfl, rfl⟩
  | append_singleton entries entry ih =>
    obtain ⟨hsorted, -, hlast⟩ := List.pairwise_append.mp h
    have hlast := fun e he => hlast e he entry (List.mem_singleton_self entry)
    right
    rw [List.foldl_append]
    rcases ih hsorted with ⟨rfl, -⟩ | ⟨leader, hfold, hleads⟩
    · refine ⟨_, rfl, ⟨entry.2, List.mem_singleton_self _, rfl⟩, fun e he => ?_⟩
      rw [List.mem_singleton.mp he]
      exact .inr ⟨rfl, Std.ReflCmp.isLE_rfl⟩
    · rw [hfold]
      exact hleads.overtake hlast

/-- Of the responders kept, the one with the most samples, and of these the one of the lowest
address. -/
def Dominant (samples : List (Sample K)) (kept : IpAddr → Prop) (x : IpAddr) : Prop :=
  kept x ∧ ∀ y, kept y → (samplesOf y samples).length < (samplesOf x samples).length ∨
    (samplesOf y samples).length = (samplesOf x samples).length ∧ (compare x y).isLE = true

theorem Dominant.unique {samples : List (Sample K)} {kept : IpAddr → Prop} {x y : IpAddr}
    (hx : Dominant samples kept x) (hy : Dominant samples kept y) : x = y := by
  have hxy := hx.2 y hy.1
  have hyx := hy.2 x hx.1
  have hle : (compare x y).isLE = true := by
    rcases hxy with hlt | ⟨-, hle⟩
    · omega
    · exact hle
  have hle' : (compare y x).isLE = true := by
    rcases hyx with hlt | ⟨-, hle'⟩
    · omega
    · exact hle'
  exact Std.LawfulEqOrd.eq_of_compare (Std.OrientedCmp.isLE_antisymm hle hle')

end

/-! ## The hop -/

section
variable {K : Type} [Field K] [LinearOrder K] {samples : List (Sample K)} {a : HopAccumulator K}

namespace HopAccumulator

/-- A responder that is kept, with the number of its samples. -/
theorem Of.mem_toList {answered quoted : List (Sample K)} (h : Of answered quoted a) {x : IpAddr}
    {m : Moments K} (hm : (x, m) ∈ a.responders.toList) :
    x ∈ a.responders ∧ m.sent = (samplesOf x answered).length := by
  rw [Std.TreeMap.mem_toList_iff_getElem?_eq_some] at hm
  refine ⟨?_, (h.moments x m hm).sent⟩
  rw [Std.TreeMap.mem_iff_isSome_getElem?, hm]
  rfl

omit [Field K] [LinearOrder K] in
theorem exists_mem_toList {x : IpAddr} (h : x ∈ a.responders) :
    ∃ m, (x, m) ∈ a.responders.toList := by
  rw [Std.TreeMap.mem_iff_isSome_getElem?, Option.isSome_iff_exists] at h
  obtain ⟨m, hm⟩ := h
  exact ⟨m, Std.TreeMap.mem_toList_iff_getElem?_eq_some.mpr hm⟩

/-- The address of the hop is its dominant responder. -/
theorem Of.dominant_iff {quoted : List (Sample K)} (h : Of samples quoted a) (x : IpAddr) :
    dominant a.responders.toList = some x ↔ Dominant samples (· ∈ a.responders) x := by
  have hleader : ∀ leader, Leads a.responders.toList leader →
      Dominant samples (· ∈ a.responders) leader.1 := by
    rintro leader ⟨⟨m, hm, hsent⟩, hmost⟩
    obtain ⟨hkept, hcount⟩ := h.mem_toList hm
    refine ⟨hkept, fun y hy => ?_⟩
    obtain ⟨m', hm'⟩ := exists_mem_toList hy
    have hy' := hmost (y, m') hm'
    rwa [(h.mem_toList hm').2, ← hsent, hcount] at hy'
  unfold dominant
  have hsorted : a.responders.toList.Pairwise fun e e' => compare e.1 e'.1 = .lt :=
    Std.TreeMap.ordered_keys_toList
  rcases leads_of_sorted hsorted with ⟨hempty, hfold⟩ | ⟨leader, hfold, hleads⟩
  · rw [hfold]
    constructor
    · exact nofun
    · intro hx
      obtain ⟨m, hm⟩ := exists_mem_toList hx.1
      rw [hempty] at hm
      cases hm
  · rw [hfold]
    have hdom := hleader leader hleads
    constructor
    · intro hx
      cases hx
      exact hdom
    · intro hx
      rw [hx.unique hdom]
      rfl

/-- What an accumulator says it kept, next to what there was. -/
structure Retained (samples : List (Sample K)) (a : HopAccumulator K) : Prop where
  responders : ∀ x, x ∈ a.responders ↔ x ∈ keep 64 (addressesOf samples)
  responders_le : a.responders.size ≤ 64
  labelStacks : a.labelStacks = keep 64 (stacksOf samples)
  labelStacks_le : a.labelStacks.length ≤ 64
  labelStacks_nodup : a.labelStacks.Nodup
  limited_iff : a.limited = true ↔ ∃ sample ∈ samples,
    (∃ x, sample.hop = some x ∧ x ∉ a.responders) ∨
      sample.mpls ≠ [] ∧ sample.mpls ∉ a.labelStacks
  limited_iff_more : a.limited = true ↔
    64 < (addressesOf samples).eraseDups.length ∨ 64 < (stacksOf samples).eraseDups.length

omit [Field K] [LinearOrder K] in
theorem mem_addressesOf {x : IpAddr} :
    x ∈ addressesOf samples ↔ ∃ sample ∈ samples, sample.hop = some x := List.mem_filterMap

omit [Field K] [LinearOrder K] in
theorem mem_stacksOf {labels : List MplsLabel} :
    labels ∈ stacksOf samples ↔ ∃ sample ∈ samples, sample.mpls = labels ∧ labels ≠ [] := by
  rw [stacksOf, List.mem_filter, List.mem_map]
  constructor
  · rintro ⟨⟨sample, hsample, rfl⟩, hne⟩
    exact ⟨sample, hsample, rfl, of_decide_eq_true hne⟩
  · rintro ⟨sample, hsample, rfl, hne⟩
    exact ⟨⟨sample, hsample, rfl⟩, decide_eq_true hne⟩

theorem Of.retained (h : Of samples samples a) : Retained samples a where
  responders := h.mem
  responders_le := h.size.trans_le (length_keep_le 64 _)
  labelStacks := h.labelStacks
  labelStacks_le := h.labelStacks ▸ length_keep_le 64 _
  labelStacks_nodup := h.labelStacks ▸ nodup_keep 64 _
  limited_iff := by
    rw [h.limited, h.labelStacks]
    constructor
    · rintro (hall | hall)
      · simp only [KeptAll, not_forall] at hall
        obtain ⟨x, hx, hnot⟩ := hall
        obtain ⟨sample, hsample, hhop⟩ := mem_addressesOf.mp hx
        exact ⟨sample, hsample, .inl ⟨x, hhop, fun hk => hnot ((h.mem x).mp hk)⟩⟩
      · simp only [KeptAll, not_forall] at hall
        obtain ⟨labels, hlabels, hnot⟩ := hall
        obtain ⟨sample, hsample, rfl, hne⟩ := mem_stacksOf.mp hlabels
        exact ⟨sample, hsample, .inr ⟨hne, hnot⟩⟩
    · rintro ⟨sample, hsample, ⟨x, hhop, hnot⟩ | ⟨hne, hnot⟩⟩
      · exact .inl fun hall =>
          hnot ((h.mem x).mpr (hall x (mem_addressesOf.mpr ⟨sample, hsample, hhop⟩)))
      · exact .inr fun hall => hnot (hall _ (mem_stacksOf.mpr ⟨sample, hsample, rfl, hne⟩))
  limited_iff_more := by rw [h.limited, keptAll_iff, keptAll_iff, Nat.not_le, Nat.not_le]

end HopAccumulator

/-- The hop that is reported of `samples`. -/
structure TraceHop.Reports (sqrt : K → K) (samples : List (Sample K)) (a : HopAccumulator K)
    (hop : TraceHop K) : Prop where
  statistics : Statistics.fromSamples sqrt samples = .ok hop.statistics
  responders : hop.responders.map (·.address) = a.responders.keys
  responder_statistics : ∀ r ∈ hop.responders,
    Statistics.fromSamples sqrt (samplesOf r.address samples) = .ok r.statistics
  address : ∀ x, hop.address = some x ↔ Dominant samples (· ∈ a.responders) x
  mplsStacks : hop.mplsStacks = a.labelStacks

variable [IsStrictOrderedRing K]

theorem HopAccumulator.OfAll.finish (h : OfAll samples a) (sqrt : K → K) (ttl : UInt8)
    (hlen : samples.length < 2 ^ 32) (hne : samples ≠ []) :
    ∃ hop, a.finish sqrt ttl = .ok (some hop) ∧ hop.Reports sqrt samples a ∧
      hop.address = dominant a.responders.toList := by
  have hsent : a.totals.sent ≠ 0 := by
    rw [h.totals.sent]
    exact fun hzero => hne (List.length_eq_zero_iff.mp hzero)
  obtain ⟨statistics, hfinish, hbatch⟩ := h.totals.finish sqrt hlen
  have heach : ∀ entry ∈ a.responders.toList, ∃ r, (do
      let statistics ← entry.2.finish sqrt
      return ⟨entry.1, statistics⟩ : Checked Empty (TraceResponder K)) = .ok r := by
    rintro ⟨x, m⟩ hm
    rw [Std.TreeMap.mem_toList_iff_getElem?_eq_some] at hm
    have hlen' : (samplesOf x samples).length < 2 ^ 32 :=
      Nat.lt_of_le_of_lt (List.length_filter_le _ _) hlen
    obtain ⟨s, hs, -⟩ := (h.kept.moments x m hm).finish sqrt hlen'
    exact ⟨⟨x, s⟩, by rw [hs]; rfl⟩
  obtain ⟨responders, hmap⟩ := mapM_isOk_iff.mpr heach
  have hall := mapM_eq_ok.mp hmap
  have haddress : responders.map (·.address) = a.responders.keys := by
    rw [← Std.TreeMap.map_fst_toList_eq_keys, ← List.forall₂_eq_eq_eq, List.forall₂_map_left_iff,
      List.forall₂_map_right_iff]
    refine hall.flip.imp fun r entry hr => ?_
    obtain ⟨s, -, hr⟩ := except_bind_ok.mp hr
    cases hr
    rfl
  have hstatistics : ∀ r ∈ responders,
      Statistics.fromSamples sqrt (samplesOf r.address samples) = .ok r.statistics := by
    intro r hr
    obtain ⟨⟨x, m⟩, hm, hentry⟩ := exists_of_forall₂ hall.flip r hr
    obtain ⟨s, hs, hentry⟩ := except_bind_ok.mp hentry
    cases hentry
    rw [Std.TreeMap.mem_toList_iff_getElem?_eq_some] at hm
    have hlen' : (samplesOf x samples).length < 2 ^ 32 :=
      Nat.lt_of_le_of_lt (List.length_filter_le _ _) hlen
    obtain ⟨s', hs', hfrom⟩ := (h.kept.moments x m hm).finish sqrt hlen'
    cases hs.symm.trans hs'
    exact hfrom
  refine ⟨{
    ttl, address := dominant a.responders.toList, hostname := none, asn := none
    mpls := a.labelStacks.flatten, mplsStacks := a.labelStacks, responders, statistics }, ?_, ?_, rfl⟩
  · rw [HopAccumulator.finish, if_neg hsent]
    exact except_bind_ok.mpr ⟨_, hmap, except_bind_ok.mpr ⟨_, hfinish, rfl⟩⟩
  · exact ⟨hbatch, haddress, hstatistics, h.kept.dominant_iff, rfl⟩

omit [IsStrictOrderedRing K] in
/-- What is few enough in one order is in another, and the hop has the same address. -/
theorem HopAccumulator.OfAll.perm {other : List (Sample K)} {b : HopAccumulator K}
    (ha : OfAll samples a) (hb : OfAll other b) (hperm : samples.Perm other)
    (haddresses64 : (addressesOf samples).eraseDups.length ≤ 64)
    (hstacks64 : (stacksOf samples).eraseDups.length ≤ 64) :
    b.limited = false ∧ dominant b.responders.toList = dominant a.responders.toList := by
  have haddresses : (addressesOf samples).Perm (addressesOf other) := hperm.filterMap _
  have hstacks : (stacksOf samples).Perm (stacksOf other) := (hperm.map _).filter _
  have hnot := And.intro (keptAll_iff.mpr haddresses64) (keptAll_iff.mpr hstacks64)
  have hnot' := And.intro (hnot.1.perm haddresses) (hnot.2.perm hstacks)
  refine ⟨?_, ?_⟩
  · rw [← Bool.not_eq_true, hb.kept.limited, not_or, not_not, not_not]
    exact hnot'
  · have hkept : ∀ x, x ∈ b.responders ↔ x ∈ a.responders := by
      intro x
      rw [ha.kept.mem, hb.kept.mem]
      constructor
      · intro hx
        exact hnot.1 x (haddresses.mem_iff.mpr (mem_of_mem_keep hx))
      · intro hx
        exact hnot'.1 x (haddresses.mem_iff.mp (mem_of_mem_keep hx))
    have hcount : ∀ x, (samplesOf x other).length = (samplesOf x samples).length :=
      fun x => (hperm.filter _).length_eq.symm
    refine Option.ext fun x => ?_
    rw [hb.kept.dominant_iff, ha.kept.dominant_iff]
    simp only [Dominant, hkept, hcount]

end

/-- One answer of 192.0.2.2, then one of 192.0.2.1. -/
def tiedSamples : List (Sample ℚ) :=
  [⟨0, some (.v4 ⟨[192, 0, 2, 2], rfl⟩), some 1, .timeExceeded, none, []⟩,
    ⟨1, some (.v4 ⟨[192, 0, 2, 1], rfl⟩), some 1, .timeExceeded, none, []⟩]

/-- The lowest address leads. -/
example : (do (← HopAccumulator.recordAll tiedSamples).finish id 1).toOption.map
    (Option.map TraceHop.address) = some (some (some (IpAddr.v4 ⟨[192, 0, 2, 1], rfl⟩))) := by
  decide +kernel

end NetworkLantern.Path
