import NetworkLantern.Lib.Collected
import NetworkLantern.Throughput.Control

/-!
# The data phase

The loops of the data streams run side by side.  What they report is the same in whatever order
they end, and it lists the streams by the identifiers that the server gave them.
-/

namespace NetworkLantern.Throughput

open NetworkLantern

/-! ## The four loops -/

theorem SendRun.result_ends (r : SendRun) (id : UInt64) (durationSeconds : Float)
    (o : StreamOutcome) (h : r.result id durationSeconds = .ok o) :
    o.id = id ∧ o.sender = true ∧ Produced o := by
  have hsome : UdpSender.udpSend r.interval r.omitEnd r.endAt r.origin r.wall r.packet r.events id
      durationSeconds = some (r.result id durationSeconds) := (Option.some_get _).symm
  exact UdpSender.udpSend_ok (hsome.trans (congrArg some h))

/-- Whichever loop a stream has, it reports the stream's identifier and role. -/
theorem LoopRun.result_ends (run : LoopRun) (stream : DataStream) (id : UInt64) :
    LoopEnds stream id (run.result stream id) := by
  intro o h
  obtain ⟨udp, sender⟩ := stream
  match udp, sender with
  | false, true =>
    obtain ⟨sent, rfl⟩ := tcpSend_ok h
    exact ⟨rfl, rfl, .tcp id true sent _⟩
  | false, false =>
    obtain ⟨received, rfl⟩ := tcpReceive_ok h
    exact ⟨rfl, rfl, .tcp id false received _⟩
  | true, true => exact run.send.result_ends id _ o h
  | true, false =>
    obtain ⟨hid, hsender⟩ := udpReceive_ends h
    exact ⟨hid, hsender, .udpReceive h⟩

theorem Net.loop_ends (net : Net) (index : Nat) (stream : DataStream) (id : UInt64) :
    LoopEnds stream id (net.loop index stream id) := (net.loops index).result_ends stream id

/-! ## What they report -/

/-- The outcome that the loop of each stream ends with, as the streams were opened. -/
def Reports (net : Net) (streams : List DataStream) (outcomes : List StreamOutcome) : Prop :=
  List.Forall₂ (fun s o => net.loop s.2 s.1 (streamId s.2) = .ok o) streams.zipIdx outcomes

theorem streamId_lt {i j : Nat} (h : i < j) (hj : j + 2 < 2 ^ 64) : streamId i < streamId j := by
  unfold streamId
  rw [if_neg (show j ≠ 0 by omega)]
  apply UInt64.lt_iff_toNat_lt.mpr
  have hlast : (UInt64.ofNat (j + 2)).toNat = j + 2 := UInt64.toNat_ofNat_of_lt' (by show _ < 2 ^ 64; omega)
  rw [hlast]
  split
  · show 1 < j + 2
    omega
  · rw [UInt64.toNat_ofNat_of_lt' (by show _ < 2 ^ 64; omega)]
    omega

/-- The outcomes of the streams increase with the identifiers. -/
theorem reports_increase {net : Net} {streams : List DataStream} {start : Nat}
    {outcomes : List StreamOutcome} (hsize : start + streams.length + 2 < 2 ^ 64)
    (h : List.Forall₂ (fun s o => net.loop s.2 s.1 (streamId s.2) = .ok o) (streams.zipIdx start) outcomes) :
    outcomes.Pairwise (Strictly fun a b => decide (a.id ≤ b.id)) ∧
      ∀ o ∈ outcomes, ∃ i, start ≤ i ∧ i < start + streams.length ∧ o.id = streamId i := by
  induction streams generalizing start outcomes with
  | nil =>
    cases h
    exact ⟨.nil, by simp⟩
  | cons stream streams ih =>
    rw [List.length_cons] at hsize ⊢
    cases h with
    | @cons _ o _ outcomes hfirst hrest =>
      obtain ⟨hpairs, hids⟩ := ih (by omega) hrest
      have hid := (net.loop_ends _ _ _ o hfirst).1
      refine ⟨List.pairwise_cons.mpr ⟨fun o' ho' => ?_, hpairs⟩, ?_⟩
      · obtain ⟨i, hlow, hhigh, hi⟩ := hids o' ho'
        have hlt : o.id < o'.id := by
          rw [hid, hi]
          exact streamId_lt (by omega) (by omega)
        exact ⟨decide_eq_true (UInt64.le_of_lt hlt), decide_eq_false (UInt64.not_le.mpr hlt)⟩
      · rw [List.forall_mem_cons]
        refine ⟨⟨start, Nat.le_refl start, by omega, hid⟩, fun o' ho' => ?_⟩
        obtain ⟨i, hlow, hhigh, hi⟩ := hids o' ho'
        exact ⟨i, by omega, by omega, hi⟩

theorem length_senders (spec : TestSpec) : (senders spec).length < 2 ^ 17 := by
  have hstreams := spec.streams.toNat_lt
  unfold senders roles
  cases spec.direction <;> simp <;> omega

/-- What the outcomes of the streams are, read off the streams. -/
theorem Reports.map_eq {net : Net} {streams : List DataStream} {outcomes : List StreamOutcome}
    (h : Reports net streams outcomes) {α : Type} {f : StreamOutcome → α} {g : DataStream × Nat → α}
    (hfg : ∀ s o, LoopEnds s.1 (streamId s.2) (.ok o) → f o = g s) :
    outcomes.map f = streams.zipIdx.map g := by
  have himp : List.Forall₂ (fun s o => g s = f o) streams.zipIdx outcomes := by
    refine h.imp fun s o hloop => (hfg s o ?_).symm
    rw [← hloop]
    exact net.loop_ends s.2 s.1 (streamId s.2)
  rw [← List.forall₂_map_left_iff (R := fun x o => x = f o), ← List.forall₂_map_right_iff (R := Eq),
    List.forall₂_eq_eq_eq] at himp
  exact himp.symm

theorem runData_ok (net : Net) (spec : TestSpec) (outcomes : List StreamOutcome) :
    runData net (dataStreams spec) = .ok outcomes ↔ Reports net (dataStreams spec) outcomes := by
  have hsize : 0 + (dataStreams spec).length + 2 < 2 ^ 64 := by
    have hsenders := length_senders spec
    unfold dataStreams
    rw [List.length_map]
    omega
  refine collected_iff (fun a b c hab hbc => ?_) (fun a b => ?_) (net.finished_perm _)
    (fun outcomes h => (reports_increase hsize h).1)
  · rw [decide_eq_true_eq] at hab hbc ⊢
    exact UInt64.le_trans hab hbc
  · rw [Bool.or_eq_true, decide_eq_true_eq, decide_eq_true_eq]
    exact UInt64.le_total a.id b.id

/-- **The order of the loops does not matter.**  Whatever the order in which the loops of a test end,
the data phase passes exactly if every loop does.  It reports their outcomes as the streams were
opened: under the identifiers 1, 3, 4, … that the server gives them, the sending ones first. -/
theorem runData_reports (net : Net) (spec : TestSpec) (outcomes : List StreamOutcome) :
    (runData net (dataStreams spec) = .ok outcomes ↔ Reports net (dataStreams spec) outcomes) ∧
      (runData net (dataStreams spec) = .ok outcomes →
        outcomes.map StreamOutcome.id = (List.range (senders spec).length).map streamId ∧
        outcomes.map StreamOutcome.sender = senders spec ∧ ∀ o ∈ outcomes, Produced o) := by
  refine ⟨runData_ok net spec outcomes, fun hrun => ?_⟩
  have h := (runData_ok net spec outcomes).mp hrun
  refine ⟨?_, ?_, fun o ho => ?_⟩
  · have hids := h.map_eq (g := fun s => streamId s.2) fun s o hloop => (hloop o rfl).1
    rw [hids, ← Function.comp_def streamId Prod.snd, ← List.map_map, List.zipIdx_map_snd,
      ← List.range_eq_range', dataStreams, List.length_map]
  · have hsenders := h.map_eq (g := fun s => s.1.sender) fun s o hloop => (hloop o rfl).2.1
    rw [hsenders, ← Function.comp_def DataStream.sender Prod.fst, ← List.map_map, List.zipIdx_map_fst,
      dataStreams, List.map_map]
    exact List.map_id _
  · obtain ⟨s, -, hloop⟩ := exists_of_forall₂ h.flip o ho
    exact (net.loop_ends _ _ _ o hloop).2.2

end NetworkLantern.Throughput
