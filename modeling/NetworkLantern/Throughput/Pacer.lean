import NetworkLantern.Lib.Checked
import NetworkLantern.Lib.Runs
import NetworkLantern.Lib.Spaced
import NetworkLantern.Throughput.Streams

/-!
# Pacing datagrams

The sender of datagrams waits for a deadline before each of them, and moves the
deadline on by an interval after each.  A sender that falls behind catches up, but
not for more than the interval or 10 ms.  Whatever the clock and the socket do,
the datagrams keep to the rate (`udp_pacing`).  Times are in nanoseconds.
-/

namespace NetworkLantern.Throughput

open NetworkLantern

/-- `PACER_MAX_BACKLOG`: the backlog tolerated before the schedule is reset to now. -/
def PACER_MAX_BACKLOG : Nat := 10000000

def nextDeadline (deadline interval now : Nat) : Nat :=
  let next := deadline + interval
  if max interval PACER_MAX_BACKLOG < now - next then now else next

theorem nextDeadline_ge (deadline interval now : Nat) :
    deadline + interval ≤ nextDeadline deadline interval now := by
  simp only [nextDeadline]
  split <;> omega

/-- What is left to catch up on. -/
theorem le_nextDeadline_add (deadline interval now : Nat) :
    now ≤ nextDeadline deadline interval now + max interval PACER_MAX_BACKLOG := by
  simp only [nextDeadline]
  split <;> omega

/-! ## The sender -/

inductive SendPhase
  /-- Waits for the deadline. -/
  | waiting
  /-- Waits for the socket. -/
  | sending
  /-- Out of the loop. -/
  | ended
  | failed (e : TestFailure)
deriving DecidableEq

structure UdpSender where
  /-- The last reading of the clock. -/
  clock : Nat
  deadline : Nat
  packet : Bytes
  sequence : UInt64
  bytes : UInt64
  packets : UInt64
  phase : SendPhase
deriving DecidableEq

/-- What the loop meets, with the clock after it. -/
inductive SendEvent
  | cancelled (now : Nat)
  /-- The end of the stream. -/
  | ended (now : Nat)
  /-- The deadline. -/
  | woke (now : Nat)
  /-- The socket sent `sent` bytes of the packet, at `time`. -/
  | sent (time sent now : Nat)
  | failed (e : IoError) (now : Nat)

/-- `u64::to_be_bytes`. -/
def u64ToBe (n : UInt64) : Bytes :=
  (List.range 8).reverse.map fun i => UInt8.ofNat (n.toNat / 256 ^ i)

/-- The clock of the stream, which its headers tell. -/
def timeHeader (timestamp : Nat) : Bytes :=
  u32ToBe (.ofNat (timestamp / 1000000000)) ++ u32ToBe (.ofNat (timestamp % 1000000000 / 1000))

namespace UdpSender

/-- `Instant::now()` before the loop; an interval of zero is refused, and so is a wall clock
before the epoch. -/
def start (interval : Nat) (packet : Bytes) (origin : Nat) (wall : Option Nat) :
    Except TestFailure UdpSender :=
  if interval = 0 then
    .error (.refused (.validation "UDP pacing interval rounded to zero"))
  else if wall.isNone then
    .error (.refused (.validation "System clock predates Unix epoch"))
  else
    .ok { clock := origin, deadline := origin, packet, sequence := 0, bytes := 0, packets := 0
          phase := .waiting }

def running (s : UdpSender) : Bool := s.phase = .waiting ∨ s.phase = .sending

/-- The header of the next datagram: the time, then its number. -/
def stamp (s : UdpSender) (timestamp : Nat) : UdpSender :=
  let packet := timeHeader timestamp ++ s.packet.drop 8
  if s.sequence.toNat + 1 < 2 ^ 64 then
    let sequence := s.sequence + 1
    { s with
      packet := packet.take 8 ++ u64ToBe sequence ++ packet.drop 16, sequence, phase := .sending }
  else
    { s with packet, phase := .failed (.refused (.validation "UDP sequence exhausted")) }

/-- What is counted after a datagram was sent, and the next deadline. -/
def account (interval omitEnd : Nat) (s : UdpSender) (sent : Nat) : UdpSender :=
  if sent ≠ s.packet.length then
    { s with phase := .failed (.io "UDP send" ⟨.writeZero, "write zero"⟩) }
  else
    let measured := omitEnd ≤ s.clock
    { s with
      bytes := if measured then .ofNat (min (s.bytes.toNat + sent) (2 ^ 64 - 1)) else s.bytes
      packets := if measured then s.packets + 1 else s.packets
      deadline := nextDeadline s.deadline interval s.clock
      phase := .waiting }

section
variable (interval omitEnd endAt origin wall : Nat)

/-- One event.  The clock never goes back, a wait never ends early, and no datagram leaves
before the socket was asked to send it. -/
def step (s : UdpSender) : SendEvent → Option UdpSender
  | .cancelled now =>
    if s.running ∧ s.clock ≤ now then some { s with clock := now, phase := .failed .cancelled }
    else none
  | .ended now =>
    if s.running ∧ s.clock ≤ now ∧ endAt ≤ now then some { s with clock := now, phase := .ended }
    else none
  | .woke now =>
    if s.phase = .waiting ∧ s.clock ≤ now ∧ s.deadline ≤ now then
      some ({ s with clock := now }.stamp (wall + (now - origin)))
    else none
  | .sent time sent now =>
    if s.phase = .sending ∧ s.clock ≤ time ∧ time ≤ now then
      some ({ s with clock := now }.account interval omitEnd sent)
    else none
  | .failed e now =>
    if s.phase = .sending ∧ s.clock ≤ now then
      some { s with clock := now, phase := .failed (.io "UDP send" e) }
    else none

end

/-- What `udp_send` returns. -/
def report (s : UdpSender) (id : UInt64) (durationSeconds : Float) :
    Option (Except TestFailure StreamOutcome) :=
  match s.phase with
  | .ended => some (.ok
      { outcome id true s.bytes durationSeconds with
        packets := s.packets, wirePackets := s.sequence })
  | .failed e => some (.error e)
  | .waiting | .sending => none

theorem report_produced {s : UdpSender} {id : UInt64} {durationSeconds : Float} {o : StreamOutcome}
    (h : s.report id durationSeconds = some (.ok o)) : o.id = id ∧ o.sender = true ∧ Produced o := by
  unfold report at h
  split at h
  · cases h
    exact ⟨rfl, rfl, .udpSend _ _ _ _ _⟩
  · cases h
  · cases h
  · cases h

/-- `udp_send`, on what it meets.  There is no report as long as the loop runs. -/
def udpSend (interval omitEnd endAt origin : Nat) (wall : Option Nat) (packet : Bytes)
    (events : List SendEvent) (id : UInt64) (durationSeconds : Float) :
    Option (Except TestFailure StreamOutcome) :=
  match start interval packet origin wall with
  | .error e => some (.error e)
  | .ok s => (runSteps (step interval omitEnd endAt origin (wall.getD 0)) s events).bind fun s =>
    s.report id durationSeconds

theorem udpSend_ok {interval omitEnd endAt origin : Nat} {wall : Option Nat} {packet : Bytes}
    {events : List SendEvent} {id : UInt64} {durationSeconds : Float} {o : StreamOutcome}
    (h : udpSend interval omitEnd endAt origin wall packet events id durationSeconds =
      some (.ok o)) : o.id = id ∧ o.sender = true ∧ Produced o := by
  unfold udpSend at h
  split at h
  · cases h
  · obtain ⟨s, -, hreport⟩ := Option.bind_eq_some_iff.mp h
    exact report_produced hreport

/-! ## What a datagram carries -/

theorem beValue_u32ToBe (n : UInt32) : beValue (u32ToBe n) = n.toNat := by
  have hn := n.toNat_lt
  simp only [beValue, u32ToBe, List.foldl_cons, List.foldl_nil, UInt8.toNat_ofNat']
  omega

/-- The lowest `k` bytes of a number, read back. -/
theorem beValue_digits (k n : Nat) :
    beValue ((List.range k).reverse.map fun i => UInt8.ofNat (n / 256 ^ i)) = n % 256 ^ k := by
  induction k generalizing n with
  | zero => rw [Nat.pow_zero, Nat.mod_one]; rfl
  | succ k ih =>
    have hdigits : (fun i => UInt8.ofNat (n / 256 ^ i)) ∘ Nat.succ =
        fun i => UInt8.ofNat (n / 256 / 256 ^ i) := by
      funext i
      rw [Function.comp_apply, Nat.pow_succ, Nat.mul_comm, Nat.div_div_eq_div_mul]
    have hlast : beValue ((List.range (k + 1)).reverse.map fun i => UInt8.ofNat (n / 256 ^ i)) =
        beValue ((List.range k).reverse.map fun i => UInt8.ofNat (n / 256 / 256 ^ i)) * 256 +
          n % 256 := by
      rw [List.range_succ_eq_map, List.reverse_cons, List.map_append, ← List.map_reverse,
        List.map_map, hdigits, beValue, List.foldl_append]
      simp [beValue]
    rw [hlast, ih, Nat.pow_succ', Nat.mod_mul]
    omega

theorem beValue_u64ToBe (n : UInt64) : beValue (u64ToBe n) = n.toNat := by
  rw [u64ToBe, beValue_digits]
  exact Nat.mod_eq_of_lt n.toNat_lt

@[simp] theorem length_u64ToBe (n : UInt64) : (u64ToBe n).length = 8 := rfl

@[simp] theorem length_timeHeader (timestamp : Nat) : (timeHeader timestamp).length = 8 := rfl

theorem stamp_packet {s : UdpSender} (hsequence : s.sequence.toNat + 1 < 2 ^ 64)
    (timestamp : Nat) :
    (s.stamp timestamp).sequence = s.sequence + 1 ∧
    (s.stamp timestamp).packet =
      timeHeader timestamp ++ (u64ToBe (s.sequence + 1) ++ s.packet.drop 16) := by
  have htake : (timeHeader timestamp ++ s.packet.drop 8).take 8 = timeHeader timestamp :=
    List.take_left' (length_timeHeader _)
  have hdrop : (timeHeader timestamp ++ s.packet.drop 8).drop 16 = s.packet.drop 16 := by
    rw [List.drop_append, length_timeHeader, List.drop_of_length_le (by simp), List.nil_append,
      List.drop_drop]
  rw [stamp, if_pos hsequence]
  refine ⟨rfl, ?_⟩
  show (timeHeader timestamp ++ s.packet.drop 8).take 8 ++ u64ToBe (s.sequence + 1) ++
    (timeHeader timestamp ++ s.packet.drop 8).drop 16 = _
  rw [htake, hdrop, List.append_assoc]

/-- The receiver accepts every datagram of the sender, and reads its number. -/
theorem datagramOf_stamp {s : UdpSender} (hlen : 16 ≤ s.packet.length)
    (hsequence : s.sequence.toNat + 1 < 2 ^ 64) (timestamp : Nat) (arrival : Float) :
    ∃ sent, datagramOf (s.stamp timestamp).packet arrival =
      .ok (some ⟨(s.stamp timestamp).sequence, s.packet.length, arrival, sent⟩) := by
  obtain ⟨hnumber, hpacket⟩ := stamp_packet hsequence timestamp
  have hmicros : timestamp % 1000000000 / 1000 < 1000000 := by omega
  have hlength : (s.stamp timestamp).packet.length = s.packet.length := by
    rw [hpacket, List.length_append, List.length_append, List.length_drop, length_timeHeader,
      length_u64ToBe]
    omega
  have hfraction : beValue (((s.stamp timestamp).packet.drop 4).take 4) =
      timestamp % 1000000000 / 1000 := by
    rw [hpacket, timeHeader, List.append_assoc, List.drop_left' (length_u32ToBe _),
      List.take_left' (length_u32ToBe _), beValue_u32ToBe, UInt32.toNat_ofNat']
    omega
  have hread : beValue (((s.stamp timestamp).packet.drop 8).take 8) =
      (s.sequence + 1).toNat := by
    rw [hpacket, List.drop_left' (length_timeHeader _), List.take_left' (length_u64ToBe _),
      beValue_u64ToBe]
  unfold datagramOf
  simp only [hlength, hfraction, hread, hnumber]
  rw [if_neg (Nat.not_lt.mpr hlen), if_neg (Nat.not_le.mpr hmicros), UInt64.ofNat_toNat]
  exact ⟨_, rfl⟩

/-! ## What is counted -/

/-- A datagram is numbered before it is counted. -/
structure Counted (s : UdpSender) : Prop where
  le : s.packets.toNat ≤ s.sequence.toNat
  lt : s.phase = .sending → s.packets.toNat < s.sequence.toNat

section
variable {interval omitEnd endAt origin wall : Nat} {s t : UdpSender}

theorem Counted.tick (h : Counted s) (now : Nat) : Counted { s with clock := now } := ⟨h.le, h.lt⟩

theorem Counted.stamp (h : Counted s) (timestamp : Nat) : Counted (s.stamp timestamp) := by
  have hle := h.le
  unfold UdpSender.stamp
  split
  · rename_i hlt
    have hnext : (s.sequence + 1).toNat = s.sequence.toNat + 1 := by
      rw [UInt64.toNat_add, UInt64.toNat_one, Nat.mod_eq_of_lt hlt]
    refine ⟨?_, fun _ => ?_⟩
    · show s.packets.toNat ≤ (s.sequence + 1).toNat
      omega
    · show s.packets.toNat < (s.sequence + 1).toNat
      omega
  · exact ⟨hle, nofun⟩

theorem Counted.account (h : Counted s) (hphase : s.phase = .sending) (interval omitEnd sent : Nat) :
    Counted (s.account interval omitEnd sent) := by
  have hlt := h.lt hphase
  have hsequence := s.sequence.toNat_lt
  unfold UdpSender.account
  split
  · exact ⟨h.le, nofun⟩
  · refine ⟨?_, nofun⟩
    show (if omitEnd ≤ s.clock then s.packets + 1 else s.packets).toNat ≤ s.sequence.toNat
    split
    · rw [UInt64.toNat_add, UInt64.toNat_one, Nat.mod_eq_of_lt (by omega)]
      exact hlt
    · exact h.le

theorem Counted.step (h : Counted s) {e : SendEvent}
    (hs : s.step interval omitEnd endAt origin wall e = some t) : Counted t := by
  cases e with
  | cancelled now =>
    obtain ⟨-, ht⟩ := Option.ite_none_right_eq_some.mp hs
    cases ht
    exact ⟨h.le, nofun⟩
  | ended now =>
    obtain ⟨-, ht⟩ := Option.ite_none_right_eq_some.mp hs
    cases ht
    exact ⟨h.le, nofun⟩
  | woke now =>
    obtain ⟨-, ht⟩ := Option.ite_none_right_eq_some.mp hs
    cases ht
    exact (h.tick now).stamp _
  | sent time sent now =>
    obtain ⟨⟨hphase, -⟩, ht⟩ := Option.ite_none_right_eq_some.mp hs
    cases ht
    exact (h.tick now).account hphase _ _ _
  | failed e now =>
    obtain ⟨-, ht⟩ := Option.ite_none_right_eq_some.mp hs
    cases ht
    exact ⟨h.le, nofun⟩

end

/-- A stream reports no more packets than it put on the wire. -/
theorem report_packets_le {interval omitEnd endAt origin wall : Nat} {packet : Bytes}
    {s₀ s : UdpSender} (hstart : start interval packet origin (some wall) = .ok s₀)
    {events : List SendEvent}
    (hrun : runSteps (step interval omitEnd endAt origin wall) s₀ events = some s) {id : UInt64}
    {durationSeconds : Float} {o : StreamOutcome}
    (h : s.report id durationSeconds = some (.ok o)) :
    o.packets.toNat ≤ o.wirePackets.toNat := by
  have hzero : Counted s₀ := by
    unfold start at hstart
    split at hstart
    · cases hstart
    · cases hstart
      exact ⟨Nat.le_refl _, nofun⟩
  have hcounted := run_invariant (fun _ _ _ hi hs => Counted.step hi hs) hzero hrun
  unfold report at h
  split at h
  · cases h
    exact hcounted.le
  · cases h
  · cases h
  · cases h

/-! ## The rate -/

/-- When a datagram left. -/
def sendTime : SendEvent → Option Nat
  | .sent time _ _ => some time
  | _ => none

/-- When the datagrams of a run left. -/
def sendTimes (events : List SendEvent) : List Nat := events.filterMap sendTime

theorem sendTimes_cons (e : SendEvent) (events : List SendEvent) :
    sendTimes (e :: events) = (sendTime e).toList ++ sendTimes events := by
  unfold sendTimes
  rw [List.filterMap_cons]
  cases sendTime e <;> rfl

/-- The datagrams of a run, and the deadline, are an interval apart. -/
structure Paced (origin interval : Nat) (times : List Nat) (s : UdpSender) : Prop where
  spaced : Spaced origin interval times
  deadline : s.running = true → origin + times.length * interval ≤ s.deadline
  due : s.phase = .sending → s.deadline ≤ s.clock
  backlog : s.phase = .waiting → s.clock ≤ s.deadline + max interval PACER_MAX_BACKLOG

section
variable {interval omitEnd endAt origin wall from₀ : Nat} {times : List Nat} {s t : UdpSender}

theorem running_iff : s.running = true ↔ s.phase = .waiting ∨ s.phase = .sending :=
  decide_eq_true_iff

/-- A sender that has stopped keeps what was sent. -/
theorem Paced.stop (h : Paced from₀ interval times s) {u : UdpSender} (hrun : u.running = false) :
    Paced from₀ interval times u where
  spaced := h.spaced
  deadline hu := by
    rw [hrun] at hu
    cases hu
  due hu := by
    rw [running, hu] at hrun
    cases hrun
  backlog hu := by
    rw [running, hu] at hrun
    cases hrun

/-- A sender that wakes is due. -/
theorem Paced.stamp (h : Paced from₀ interval times s) (hphase : s.phase = .waiting) {now : Nat}
    (hdue : s.deadline ≤ now) (timestamp : Nat) :
    Paced from₀ interval times ({ s with clock := now }.stamp timestamp) := by
  unfold UdpSender.stamp
  split
  · exact
      { spaced := h.spaced
        deadline := fun _ => h.deadline (running_iff.mpr (.inl hphase))
        due := fun _ => hdue
        backlog := nofun }
  · exact h.stop rfl

/-- The datagram that was sent was due. -/
theorem Paced.account (h : Paced from₀ interval times s) (hphase : s.phase = .sending)
    {time now : Nat} (htime : s.clock ≤ time) (omitEnd sent : Nat) :
    Paced from₀ interval (times ++ [time])
      (UdpSender.account interval omitEnd { s with clock := now } sent) := by
  have hdeadline := h.deadline (running_iff.mpr (.inr hphase))
  have hdue := h.due hphase
  have htime' : from₀ + times.length * interval ≤ time := by omega
  have hspaced := h.spaced.concat htime'
  unfold UdpSender.account
  split
  · exact { spaced := hspaced, deadline := nofun, due := nofun, backlog := nofun }
  · refine { spaced := hspaced, deadline := fun _ => ?_, due := nofun, backlog := fun _ => ?_ }
    · have hnext := nextDeadline_ge s.deadline interval now
      rw [List.length_append, List.length_singleton, Nat.add_mul, Nat.one_mul]
      show from₀ + (times.length * interval + interval) ≤ nextDeadline s.deadline interval now
      omega
    · exact le_nextDeadline_add s.deadline interval now

/-- One event keeps the pace. -/
theorem Paced.step (h : Paced from₀ interval times s) {e : SendEvent}
    (hs : s.step interval omitEnd endAt origin wall e = some t) :
    Paced from₀ interval (times ++ (sendTime e).toList) t := by
  cases e with
  | cancelled now =>
    obtain ⟨-, ht⟩ := Option.ite_none_right_eq_some.mp hs
    cases ht
    show Paced from₀ interval (times ++ []) _
    rw [List.append_nil]
    exact h.stop rfl
  | ended now =>
    obtain ⟨-, ht⟩ := Option.ite_none_right_eq_some.mp hs
    cases ht
    show Paced from₀ interval (times ++ []) _
    rw [List.append_nil]
    exact h.stop rfl
  | woke now =>
    obtain ⟨⟨hphase, -, hdue⟩, ht⟩ := Option.ite_none_right_eq_some.mp hs
    cases ht
    show Paced from₀ interval (times ++ []) _
    rw [List.append_nil]
    exact h.stamp hphase hdue _
  | sent time sent now =>
    obtain ⟨⟨hphase, htime, -⟩, ht⟩ := Option.ite_none_right_eq_some.mp hs
    cases ht
    exact h.account hphase htime omitEnd sent
  | failed e now =>
    obtain ⟨-, ht⟩ := Option.ite_none_right_eq_some.mp hs
    cases ht
    show Paced from₀ interval (times ++ []) _
    rw [List.append_nil]
    exact h.stop rfl

/-- A run keeps the pace. -/
theorem Paced.run (h : Paced from₀ interval times s) {events : List SendEvent}
    (hrun : runSteps (UdpSender.step interval omitEnd endAt origin wall) s events = some t) :
    Paced from₀ interval (times ++ sendTimes events) t := by
  induction events generalizing s times with
  | nil =>
    rw [runSteps_nil, Option.some.injEq] at hrun
    rw [sendTimes, List.filterMap_nil, List.append_nil]
    exact hrun ▸ h
  | cons e events ih =>
    obtain ⟨u, hu, hrun⟩ := runSteps_cons.mp hrun
    have hmore := ih (h.step hu) hrun
    rwa [List.append_assoc, ← sendTimes_cons] at hmore

/-- What a waiting sender sends from now on keeps to the rate, but for the backlog. -/
theorem Paced.countP_le_later (h : Paced from₀ interval times s) (hinterval : interval ≠ 0)
    (hphase : s.phase = .waiting) {later : List SendEvent}
    (hrun : runSteps (UdpSender.step interval omitEnd endAt origin wall) s later = some t)
    (d : Nat) :
    (sendTimes later).countP (· ≤ s.clock + d) ≤
      (d + max interval PACER_MAX_BACKLOG) / interval + 1 := by
  have hfresh : Paced s.deadline interval [] s :=
    { spaced := .nil
      deadline := fun _ => by rw [List.length_nil, Nat.zero_mul, Nat.add_zero]
      due := h.due
      backlog := h.backlog }
  have hspaced := (hfresh.run hrun).spaced
  rw [List.nil_append] at hspaced
  refine le_trans (List.countP_mono_left fun time _ hle => ?_)
    (hspaced.countP_le hinterval (d + max interval PACER_MAX_BACKLOG))
  have hbacklog := h.backlog hphase
  have hle := of_decide_eq_true hle
  exact decide_eq_true (by omega)

end

theorem start_ok {interval origin : Nat} {packet : Bytes} {wall : Option Nat} {s : UdpSender}
    (h : start interval packet origin wall = .ok s) :
    interval ≠ 0 ∧ Paced origin interval [] s := by
  unfold start at h
  by_cases hzero : interval = 0
  · rw [if_pos hzero] at h
    cases h
  · rw [if_neg hzero] at h
    split at h
    · cases h
    · cases h
      refine ⟨hzero, .nil, fun _ => ?_, nofun, fun _ => Nat.le_add_right _ _⟩
      rw [List.length_nil, Nat.zero_mul, Nat.add_zero]

/-- Whatever the clock and the socket do: a deadline is an interval after the one before, at most
one datagram more than the intervals since the origin has left at any time, and a sender that fell
behind has at most the interval or 10 ms to catch up on. -/
theorem udp_pacing {interval omitEnd endAt origin wall : Nat} {packet : Bytes}
    {s₀ s : UdpSender} (hstart : start interval packet origin (some wall) = .ok s₀)
    {events : List SendEvent}
    (hrun : runSteps (step interval omitEnd endAt origin wall) s₀ events = some s) :
    (∀ deadline gap now, deadline + gap ≤ nextDeadline deadline gap now ∧
      now ≤ nextDeadline deadline gap now + max gap PACER_MAX_BACKLOG) ∧
    (∀ t, (sendTimes events).countP (· ≤ origin + t) ≤ t / interval + 1) ∧
    (s.phase = .waiting →
      s.clock ≤ s.deadline + max interval PACER_MAX_BACKLOG ∧
      ∀ later s', runSteps (step interval omitEnd endAt origin wall) s later = some s' →
        ∀ t, (sendTimes later).countP (· ≤ s.clock + t) ≤
          (t + max interval PACER_MAX_BACKLOG) / interval + 1) := by
  obtain ⟨hinterval, hpaced⟩ := start_ok hstart
  have hpaced := hpaced.run hrun
  rw [List.nil_append] at hpaced
  refine ⟨fun deadline gap now => ⟨nextDeadline_ge deadline gap now,
    le_nextDeadline_add deadline gap now⟩, hpaced.spaced.countP_le hinterval, fun hphase => ⟨hpaced.backlog hphase, ?_⟩⟩
  intro later s' hlater
  exact hpaced.countP_le_later hinterval hphase hlater

/-- A packet every 4 ms; the socket stalls for 12 ms, and the next one leaves at once. -/
def stalledEvents : List SendEvent :=
  [.woke 100, .sent 100 16 12000000, .woke 12000000, .sent 12000000 16 12000000]

theorem udp_pacing_stalled :
    (sendTimes stalledEvents).countP (· ≤ 100 + 11999900) ≤ 11999900 / 4000000 + 1 :=
  (@udp_pacing 4000000 0 1000000000 100 7 (List.replicate 16 0) _ _ rfl stalledEvents rfl).2.1
    11999900

end UdpSender

end NetworkLantern.Throughput
