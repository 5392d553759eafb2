import NetworkLantern.Throughput.Datagrams

/-!
# Data streams

What the data loops report about a stream.  A receiver of datagrams keeps two
statistics, one of the whole run and one that starts with the first datagram
after the omission.  Both are exact (`udpReceive_exact`), so a stream never
reports more losses than packets (`Produced.errors_le`).
-/

namespace NetworkLantern.Throughput

open NetworkLantern

structure StreamOutcome where
  id : UInt64
  sender : Bool
  bytes : UInt64
  packets : UInt64
  errors : UInt64
  jitterSeconds : Float
  durationSeconds : Float
  wirePackets : UInt64
  wireErrors : UInt64
deriving DecidableEq

/-- `outcome`, with the time since the omission. -/
def outcome (id : UInt64) (sender : Bool) (bytes : UInt64) (durationSeconds : Float) :
    StreamOutcome where
  id
  sender
  bytes
  packets := 0
  errors := 0
  jitterSeconds := 0
  durationSeconds
  wirePackets := 0
  wireErrors := 0

/-! ## Bytes over TCP -/

/-- What one turn of a loop over a TCP connection meets.  `measured` says that the omission is
over, `early` that there are more than 20 ms left. -/
inductive TcpEvent
  | moved (bytes : Nat) (measured early : Bool)
  | failed (e : IoError)
  | cancelled

/-- The bytes that count, without overflow. -/
def countBytes (bytes : UInt64) (moved : Nat) (measured : Bool) : UInt64 :=
  if measured then .ofNat (min (bytes.toNat + moved) (2 ^ 64 - 1)) else bytes

section
variable (id : UInt64) (durationSeconds : Float)

/-- `tcp_send`, on what it meets until the end. -/
def tcpSend (bytes : UInt64) : List TcpEvent → Except TestFailure StreamOutcome
  | [] => .ok (outcome id true bytes durationSeconds)
  | .moved written measured _ :: events =>
    if written = 0 then .error (.io "TCP send" ⟨.writeZero, "write zero"⟩)
    else tcpSend (countBytes bytes written measured) events
  | .failed e :: _ => .error (.io "TCP send" e)
  | .cancelled :: _ => .error .cancelled

/-- `tcp_receive`.  A peer may close the connection at the end, but not before. -/
def tcpReceive (bytes : UInt64) : List TcpEvent → Except TestFailure StreamOutcome
  | [] => .ok (outcome id false bytes durationSeconds)
  | .moved read measured early :: events =>
    if read ≠ 0 then tcpReceive (countBytes bytes read measured) events
    else if early then .error (.io "TCP receive" ⟨.unexpectedEof, "unexpected end of file"⟩)
    else .ok (outcome id false bytes durationSeconds)
  | .failed e :: _ => .error (.io "TCP receive" e)
  | .cancelled :: _ => .error .cancelled

end

section
variable {id : UInt64} {durationSeconds : Float} {bytes : UInt64} {events : List TcpEvent}
  {o : StreamOutcome}

theorem tcpSend_ok (h : tcpSend id durationSeconds bytes events = .ok o) :
    ∃ sent, o = outcome id true sent durationSeconds := by
  induction events generalizing bytes with
  | nil =>
    cases h
    exact ⟨bytes, rfl⟩
  | cons e events ih =>
    cases e with
    | moved written measured early =>
      unfold tcpSend at h
      split at h
      · cases h
      · exact ih h
    | failed e => cases h
    | cancelled => cases h

theorem tcpReceive_ok (h : tcpReceive id durationSeconds bytes events = .ok o) :
    ∃ received, o = outcome id false received durationSeconds := by
  induction events generalizing bytes with
  | nil =>
    cases h
    exact ⟨bytes, rfl⟩
  | cons e events ih =>
    cases e with
    | moved read measured early =>
      unfold tcpReceive at h
      split at h
      · exact ih h
      · split at h
        · cases h
        · cases h
          exact ⟨bytes, rfl⟩
    | failed e => cases h
    | cancelled => cases h

end

/-! ## Receiving datagrams -/

/-- What one turn of the receiving loop meets. -/
inductive UdpEvent
  | received (bytes : Bytes) (arrival : Float)
  | failed (e : IoError)
  | cancelled

def beValue (bytes : Bytes) : Nat := bytes.foldl (fun n b => n * 256 + b.toNat) 0

/-- The datagram in a buffer; one of fewer than 16 bytes is skipped. -/
def datagramOf (bytes : Bytes) (arrival : Float) : Except TestFailure (Option Datagram) :=
  if bytes.length < 16 then .ok none
  else
    let micros := beValue ((bytes.drop 4).take 4)
    if 1000000 ≤ micros then .error (.malformedResult "Invalid UDP timestamp")
    else .ok (some {
      sequence := .ofNat (beValue ((bytes.drop 8).take 8))
      bytes := bytes.length
      arrival
      sent := Float.ofNat (beValue (bytes.take 4)) + Float.ofNat micros / 1000000 })

def readEvent : UdpEvent → Except TestFailure (Option Datagram)
  | .received bytes arrival => datagramOf bytes arrival
  | .failed e => .error (.io "UDP receive" e)
  | .cancelled => .error .cancelled

/-- The statistics of the whole run, and those after the omission once they have started. -/
structure Receiver where
  all : DatagramStats
  measured : Option DatagramStats

namespace Receiver

/-- The second statistics start with the first datagram after the omission. -/
def measure (r : Receiver) (measuring : Bool) (d : Datagram) :
    Except TestFailure (Option DatagramStats) :=
  if measuring then ((r.measured.getD (.afterOmission r.all)).observe d).map some
  else .ok r.measured

/-- One datagram; `measuring` says that the omission is over. -/
def take (r : Receiver) (measuring : Bool) (d : Datagram) : Except TestFailure Receiver := do
  let measured ← r.measure measuring d
  let all ← r.all.observe d
  return { all, measured }

def turn (measuring : Bool) (r : Receiver) (e : UdpEvent) : Except TestFailure Receiver := do
  match ← readEvent e with
  | none => return r
  | some d => r.take measuring d

end Receiver

/-- `udp_receive`, on what arrives before and after the omission. -/
def udpReceive (id : UInt64) (durationSeconds : Float) (before after : List UdpEvent) :
    Except TestFailure StreamOutcome := do
  let r ← before.foldlM (Receiver.turn false) ⟨.new 0, none⟩
  let r ← after.foldlM (Receiver.turn true) r
  let measured := r.measured.getD (.new r.all.highest)
  return {
    outcome id false measured.bytes durationSeconds with
    packets := measured.expected
    errors := measured.lost
    jitterSeconds := measured.jitter
    wirePackets := r.all.highest
    wireErrors := r.all.lost }

theorem udpReceive_ends {id : UInt64} {durationSeconds : Float} {before after : List UdpEvent}
    {o : StreamOutcome} (h : udpReceive id durationSeconds before after = .ok o) :
    o.id = id ∧ o.sender = false := by
  unfold udpReceive at h
  obtain ⟨r1, -, h⟩ := except_bind_ok.mp h
  obtain ⟨r2, -, h⟩ := except_bind_ok.mp h
  cases h
  exact ⟨rfl, rfl⟩

/-- An outcome that one of the data loops can report. -/
inductive Produced : StreamOutcome → Prop
  | tcp (id : UInt64) (sender : Bool) (bytes : UInt64) (durationSeconds : Float) :
      Produced (outcome id sender bytes durationSeconds)
  | udpSend (id : UInt64) (bytes packets sequence : UInt64) (durationSeconds : Float) :
      Produced { outcome id true bytes durationSeconds with packets, wirePackets := sequence }
  | udpReceive {id : UInt64} {durationSeconds : Float} {before after : List UdpEvent}
      {o : StreamOutcome} (h : udpReceive id durationSeconds before after = .ok o) : Produced o

/-! ## The statistics are exact -/

namespace Receiver

/-- The statistics after the datagrams before the omission and those after it. -/
structure Keeps (before after : List Datagram) (r : Receiver) : Prop where
  all : (DatagramStats.new 0).observeAll (before ++ after) = .ok r.all
  omitted : ∃ s, (DatagramStats.new 0).observeAll before = .ok s ∧
    (r.measured = none ∧ after = [] ∨
      ∃ m, r.measured = some m ∧ (DatagramStats.afterOmission s).observeAll after = .ok m)

theorem observeAll_concat {s t u : DatagramStats} {ds : List Datagram} {d : Datagram}
    (h : s.observeAll ds = .ok t) (hd : t.observe d = .ok u) :
    s.observeAll (ds ++ [d]) = .ok u := by
  rw [DatagramStats.observeAll_append, h, except_ok_bind]
  show [d].foldlM DatagramStats.observe t = .ok u
  rw [List.foldlM_cons, hd, except_ok_bind]
  rfl

theorem take_ok {r r' : Receiver} {measuring : Bool} {d : Datagram}
    (h : r.take measuring d = .ok r') :
    r.all.observe d = .ok r'.all ∧
      (measuring = false ∧ r'.measured = r.measured ∨
        measuring = true ∧ ∃ m, r'.measured = some m ∧
          (r.measured.getD (.afterOmission r.all)).observe d = .ok m) := by
  unfold take at h
  obtain ⟨measured, hmeasured, h⟩ := except_bind_ok.mp h
  obtain ⟨all, hall, h⟩ := except_bind_ok.mp h
  cases h
  refine ⟨hall, ?_⟩
  cases measuring with
  | false =>
    cases hmeasured
    exact .inl ⟨rfl, rfl⟩
  | true =>
    obtain ⟨m, hm, rfl⟩ := except_map_ok.mp hmeasured
    exact .inr ⟨rfl, m, rfl, hm⟩

theorem Keeps.before {before : List Datagram} {r r' : Receiver} {d : Datagram}
    (h : Keeps before [] r) (hnone : r.measured = none) (htake : r.take false d = .ok r') :
    Keeps (before ++ [d]) [] r' ∧ r'.measured = none := by
  obtain ⟨hall, ⟨-, hsame⟩ | ⟨hfalse, -⟩⟩ := take_ok htake
  · have hrun := h.all
    rw [List.append_nil] at hrun
    have hnext := observeAll_concat hrun hall
    have hnone' : r'.measured = none := hsame.trans hnone
    refine ⟨⟨?_, r'.all, hnext, .inl ⟨hnone', rfl⟩⟩, hnone'⟩
    rw [List.append_nil]
    exact hnext
  · cases hfalse

theorem Keeps.after {before after : List Datagram} {r r' : Receiver} {d : Datagram}
    (h : Keeps before after r) (htake : r.take true d = .ok r') :
    Keeps before (after ++ [d]) r' := by
  obtain ⟨hall, ⟨htrue, -⟩ | ⟨-, m, hm, hobserve⟩⟩ := take_ok htake
  · cases htrue
  · refine ⟨?_, ?_⟩
    · rw [← List.append_assoc]
      exact observeAll_concat h.all hall
    · obtain ⟨s, hs, ⟨hnone, hafter⟩ | ⟨m0, hsome, hm0⟩⟩ := h.omitted
      · have hrun := h.all
        rw [hafter, List.append_nil, hs] at hrun
        cases hrun
        rw [hnone] at hobserve
        subst hafter
        exact ⟨_, hs, .inr ⟨m, hm, observeAll_concat rfl hobserve⟩⟩
      · rw [hsome] at hobserve
        exact ⟨s, hs, .inr ⟨m, hm, observeAll_concat hm0 hobserve⟩⟩

/-- The datagrams among the events. -/
def datagrams (events : List UdpEvent) : List Datagram :=
  events.filterMap fun e =>
    match readEvent e with
    | .ok d => d
    | .error _ => none

theorem turn_ok {r r' : Receiver} {measuring : Bool} {e : UdpEvent}
    (h : turn measuring r e = .ok r') :
    datagrams [e] = [] ∧ r' = r ∨ ∃ d, datagrams [e] = [d] ∧ r.take measuring d = .ok r' := by
  unfold turn at h
  obtain ⟨d, hd, h⟩ := except_bind_ok.mp h
  cases d with
  | none =>
    cases h
    exact .inl ⟨by simp [datagrams, hd], rfl⟩
  | some d => exact .inr ⟨d, by simp [datagrams, hd], h⟩

theorem datagrams_cons (e : UdpEvent) (events : List UdpEvent) :
    datagrams (e :: events) = datagrams [e] ++ datagrams events :=
  List.filterMap_append (l := [e])

theorem run_before {events : List UdpEvent} {before : List Datagram} {r r' : Receiver}
    (h : Keeps before [] r) (hnone : r.measured = none)
    (hrun : events.foldlM (turn false) r = .ok r') :
    Keeps (before ++ datagrams events) [] r' ∧ r'.measured = none := by
  induction events generalizing before r with
  | nil =>
    cases hrun
    refine ⟨?_, hnone⟩
    rw [show datagrams [] = [] from rfl, List.append_nil]
    exact h
  | cons e events ih =>
    rw [List.foldlM_cons] at hrun
    obtain ⟨r1, hturn, hrest⟩ := except_bind_ok.mp hrun
    rw [datagrams_cons, ← List.append_assoc]
    obtain ⟨hnil, rfl⟩ | ⟨d, hd, htake⟩ := turn_ok hturn
    · rw [hnil, List.append_nil]
      exact ih h hnone hrest
    · rw [hd]
      obtain ⟨hnext, hnone'⟩ := h.before hnone htake
      exact ih hnext hnone' hrest

theorem run_after {events : List UdpEvent} {before after : List Datagram} {r r' : Receiver}
    (h : Keeps before after r) (hrun : events.foldlM (turn true) r = .ok r') :
    Keeps before (after ++ datagrams events) r' := by
  induction events generalizing after r with
  | nil =>
    cases hrun
    rw [show datagrams [] = [] from rfl, List.append_nil]
    exact h
  | cons e events ih =>
    rw [List.foldlM_cons] at hrun
    obtain ⟨r1, hturn, hrest⟩ := except_bind_ok.mp hrun
    rw [datagrams_cons, ← List.append_assoc]
    obtain ⟨hnil, rfl⟩ | ⟨d, hd, htake⟩ := turn_ok hturn
    · rw [hnil, List.append_nil]
      exact ih h hrest
    · rw [hd]
      exact ih (h.after htake) hrest

theorem Keeps.start : Keeps [] [] ⟨.new 0, none⟩ where
  all := rfl
  omitted := ⟨_, rfl, .inl ⟨rfl, rfl⟩⟩

end Receiver

open DatagramStats Receiver

/-- The receiver reports the numbers of the whole run, and those above the highest number that
arrived before the omission was over. -/
theorem udpReceive_exact {id : UInt64} {durationSeconds : Float} {before after : List UdpEvent}
    {o : StreamOutcome} (h : udpReceive id durationSeconds before after = .ok o) :
    ∃ s t, Counts 0 (datagrams before) s ∧ Counts 0 (datagrams before ++ datagrams after) t ∧
      o.packets.toNat = t.highest.toNat - s.highest.toNat ∧
      o.errors.toNat =
        (missing s.highest t.highest (datagrams before ++ datagrams after)).card ∧
      o.wirePackets = t.highest ∧
      o.wireErrors.toNat = (missing 0 t.highest (datagrams before ++ datagrams after)).card := by
  unfold udpReceive at h
  obtain ⟨r1, hbefore, h⟩ := except_bind_ok.mp h
  obtain ⟨r2, hafter, h⟩ := except_bind_ok.mp h
  cases h
  obtain ⟨hkeep1, hnone⟩ := run_before Keeps.start rfl hbefore
  have hkeep2 := run_after hkeep1 hafter
  rw [List.nil_append, List.nil_append] at hkeep2
  obtain ⟨s, hs, hmeasured⟩ := hkeep2.omitted
  have hcounts : Counts 0 (datagrams before) s := (Counts.new 0).run hs
  have hall : Counts 0 (datagrams before ++ datagrams after) r2.all :=
    (Counts.new 0).run hkeep2.all
  refine ⟨s, r2.all, hcounts, hall, ?_⟩
  obtain ⟨hnone', hempty⟩ | ⟨m, hsome, hm⟩ := hmeasured
  · -- nothing arrived after the omission: the second statistics start at the end
    have hsame := hkeep2.all
    rw [hempty, List.append_nil, hs] at hsame
    have hsame : s = r2.all := Except.ok.inj hsame
    rw [hsame] at hcounts ⊢
    have hlost : (DatagramStats.new r2.all.highest).lost = 0 := by
      unfold lost expected
      show UInt64.ofNat ((r2.all.highest - r2.all.highest).toNat - 0) = 0
      rw [UInt64.sub_self]
      rfl
    have hmissing : missing r2.all.highest r2.all.highest
        (datagrams before ++ datagrams after) = ∅ := by
      unfold missing
      rw [Finset.Ioc_self, Finset.empty_sdiff]
    rw [hnone', Option.getD_none]
    refine ⟨?_, ?_, rfl, hall.lost⟩
    · show (r2.all.highest - r2.all.highest).toNat = _
      rw [UInt64.sub_self, Nat.sub_self]
      rfl
    · rw [hlost, hmissing]
      rfl
  · have hrun : s.observeAll (datagrams after) = .ok r2.all := by
      have hall := hkeep2.all
      rw [observeAll_append, hs, except_ok_bind] at hall
      exact hall
    obtain ⟨m', full, hm', hfull, hsame, hhighest, -, hlost⟩ := afterOmission_observeAll hs hrun
    rw [hm] at hm'
    have hm' : m = m' := Except.ok.inj hm'
    subst hm'
    rw [hsome, Option.getD_some]
    have hfullCounts : Counts s.highest (datagrams before ++ datagrams after) full :=
      (Counts.new s.highest).run hfull
    refine ⟨?_, hlost, rfl, hall.lost⟩
    show m.expected.toNat = _
    have hexpected : m.expected = full.expected := by
      unfold expected
      rw [hsame.highest, hsame.baseline]
    rw [hexpected, hfullCounts.expected, ← hsame.highest, hhighest]

/-- No stream reports more losses than packets. -/
theorem Produced.errors_le {o : StreamOutcome} (h : Produced o) :
    o.errors.toNat ≤ o.packets.toNat := by
  cases h with
  | tcp => exact Nat.le_refl 0
  | udpSend => exact Nat.zero_le _
  | udpReceive h =>
    obtain ⟨s, t, -, -, hpackets, herrors, -⟩ := udpReceive_exact h
    rw [hpackets, herrors, ← Nat.card_Ioc]
    exact Finset.card_le_card Finset.sdiff_subset

end NetworkLantern.Throughput
