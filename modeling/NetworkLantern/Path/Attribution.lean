import NetworkLantern.Path.Answers

/-!
# Samples and the probes they are for

Every raw socket hears the answers to all probes of the host.  Whatever the sockets bring, a
sample names only somebody who answered its own probe: for datagrams always
(`udp_told`), for echo requests exactly when their identities differ (`echo_told_iff`).
-/

namespace NetworkLantern.Path.Native

open NetworkLantern Packet

section
variable {K : Type}

/-- A sample names nobody, or somebody who sent a response. -/
def Told (status : Response → SampleStatus) (sent : Response → Prop) (sample : Sample K) : Prop :=
  (sample.hop = none ∧ sample.elapsedMs = none ∧
    sample.status ∈ [.timeout, .cancelled, .unreachable]) ∨
  ∃ response, sent response ∧ sample.hop = some response.who ∧ sample.status = status response

theorem Told.mono {status : Response → SampleStatus} {sent sent' : Response → Prop}
    (hsent : ∀ response, sent response → sent' response) {sample : Sample K}
    (h : Told status sent sample) : Told status sent' sample := by
  rcases h with h | ⟨response, hresponse, hrest⟩
  · exact Or.inl h
  · exact Or.inr ⟨response, hsent response hresponse, hrest⟩

theorem told_timeout {status : Response → SampleStatus} {sent : Response → Prop}
    (sequence : UInt16) : Told status sent (timeoutSample sequence : Sample K) := by
  refine Or.inl ⟨rfl, rfl, ?_⟩
  show SampleStatus.timeout ∈ _
  decide

theorem told_cancelled {status : Response → SampleStatus} {sent : Response → Prop}
    (sequence : UInt16) : Told status sent (cancelledSample sequence : Sample K) := by
  refine Or.inl ⟨rfl, rfl, ?_⟩
  show SampleStatus.cancelled ∈ _
  decide

theorem told_unreachable {status : Response → SampleStatus} {sent : Response → Prop}
    (sequence : UInt16) : Told status sent (unreachableSample sequence : Sample K) := by
  refine Or.inl ⟨rfl, rfl, ?_⟩
  show SampleStatus.unreachable ∈ _
  decide

/-! ## What a turn brings -/

/-- An error that the kernel queues was sent. -/
def QueuedError.Tells (sent : Response → Prop) (e : QueuedError) : Prop :=
  ∀ kind, e.kind = some kind → ∃ who, e.offender = some who ∧ sent ⟨who, kind, e.code⟩

structure Turn.Hears (family : AddressFamily) (sent : ProbeKey → Response → Prop)
    (queued : QueuedError → Prop) (turn : Turn K) : Prop where
  packets : ∀ bytes source elapsedMs, .ok (bytes, source, elapsedMs) ∈ turn.packets →
    Heard family sent bytes source
  queue : ∀ e elapsedMs, .ok (e, elapsedMs) ∈ turn.queue → queued e

theorem Turn.mem_arrived {turn : Turn K} {queue packets : Bool} {a : Arrival K}
    (h : .ok a ∈ (turn.poll queue packets).arrived) :
    (∃ e elapsedMs, a = .queued e elapsedMs ∧ queue = true ∧ .ok (e, elapsedMs) ∈ turn.queue) ∨
    ∃ bytes source elapsedMs, a = .packet bytes source elapsedMs ∧ packets = true ∧
      .ok (bytes, source, elapsedMs) ∈ turn.packets := by
  rcases List.mem_append.mp h with h | h
  · left
    cases queue with
    | false => cases h
    | true =>
      obtain ⟨r, hr, heq⟩ := List.mem_map.mp h
      cases r with
      | error e => cases heq
      | ok v =>
        cases heq
        exact ⟨v.1, v.2, rfl, rfl, hr⟩
  · right
    cases packets with
    | false => cases h
    | true =>
      obtain ⟨r, hr, heq⟩ := List.mem_map.mp h
      cases r with
      | error e => cases heq
      | ok v =>
        cases heq
        exact ⟨v.1, v.2.1, v.2.2, rfl, rfl, hr⟩

/-! ## Echo requests -/

theorem acceptEcho_queued {expected : ProbeKey} {sequence : UInt16} {e : QueuedError} {elapsedMs : K}
    {sample : Sample K} (h : acceptEcho expected sequence (.queued e elapsedMs) = some sample) :
    ∃ kind, e.kind = some kind ∧
      sample = icmpSample sequence kind e.offender elapsedMs e.nextHopMtu [] := by
  unfold acceptEcho at h
  dsimp only at h
  cases hkind : e.kind with
  | none =>
    rw [hkind] at h
    cases h
  | some kind =>
    rw [hkind] at h
    dsimp only at h
    split at h
    · cases h
      exact ⟨kind, rfl, rfl⟩
    · cases h

theorem acceptEcho_told {sent : ProbeKey → Response → Prop} {family : AddressFamily}
    {identifier sequence : UInt16} {queues : Bool} {turn : Turn K}
    (hears : turn.Hears family sent
      fun e => queues = true → e.Tells (sent (ProbeKey.icmp family identifier sequence)))
    {a : Arrival K} (ha : .ok a ∈ (turn.poll queues true).arrived) {sample : Sample K}
    (h : acceptEcho (ProbeKey.icmp family identifier sequence) sequence a = some sample) :
    Told (fun response => statusOf response.kind) (sent (ProbeKey.icmp family identifier sequence))
      sample := by
  rcases Turn.mem_arrived ha with ⟨e, elapsedMs, rfl, hqueues, hmem⟩ | ⟨bytes, source, elapsedMs, rfl, -, hmem⟩
  · obtain ⟨kind, hkind, rfl⟩ := acceptEcho_queued h
    obtain ⟨who, hoffender, hsent⟩ := hears.queue e elapsedMs hmem hqueues kind hkind
    exact Or.inr ⟨⟨who, kind, e.code⟩, hsent, hoffender, rfl⟩
  · obtain ⟨r, hr, rfl⟩ := Option.map_eq_some_iff.mp h
    obtain ⟨response, hsent, hkind, -, hsource⟩ :=
      readResponse_heard (.echo family identifier sequence)
        (hears.packets bytes source elapsedMs hmem) hr
    exact Or.inr ⟨response, hsent, hsource, congrArg statusOf hkind⟩

/-- The identifier that a probe goes out with. -/
def EchoSystem.SendsWith (s : EchoSystem K) (identifier used : UInt16) (queues : Bool) : Prop :=
  ∃ kind, s.socket = .ok kind ∧ s.prepareEcho kind identifier = .ok used ∧ s.queues kind = queues

/-- A sample names only somebody who answered the key of the probe. -/
theorem probeOnce_told {s : EchoSystem K} {target : IpAddr} {identifier sequence : UInt16}
    {ttl : Option UInt8} {parameters : RoundParameters} {sent : ProbeKey → Response → Prop}
    (hears : ∀ used queues, s.SendsWith identifier used queues → ∀ packet, ∀ turn ∈ s.turns ttl packet,
      turn.Hears (familyOf target) sent fun e =>
        queues = true → e.Tells (sent (ProbeKey.icmp (familyOf target) used sequence)))
    {sample : Sample K} (h : probeOnce s target identifier sequence ttl parameters = .ok sample) :
    ∃ used queues, s.SendsWith identifier used queues ∧
      Told (fun response => statusOf response.kind)
        (sent (ProbeKey.icmp (familyOf target) used sequence)) sample := by
  obtain ⟨kind, hkind, h⟩ := except_bind_ok.mp h
  obtain ⟨used, hused, h⟩ := except_bind_ok.mp h
  obtain ⟨-, -, h⟩ := except_bind_ok.mp h
  obtain ⟨packet, -, h⟩ := except_bind_ok.mp h
  obtain ⟨outcome, -, h⟩ := except_bind_ok.mp h
  have huses : s.SendsWith identifier used (s.queues kind) := ⟨kind, hkind, hused, rfl⟩
  refine ⟨used, s.queues kind, huses, ?_⟩
  cases outcome with
  | unreachable =>
    cases h
    exact told_unreachable sequence
  | sent =>
    obtain ⟨waited, hwaited, h⟩ := except_bind_ok.mp h
    cases h
    cases waited with
    | cancelled => exact told_cancelled sequence
    | timedOut => exact told_timeout sequence
    | answered sample =>
      obtain ⟨poll, hpoll, a, ha, haccept⟩ := exists_of_answered hwaited
      obtain ⟨turn, hturn, rfl⟩ := List.mem_map.mp hpoll
      exact acceptEcho_told (hears used _ huses packet turn hturn) ha haccept

/-! ## The echo requests of a run -/

/-- What was sent for a key: to the probe of the run that has it, or to a probe of somebody
else. -/
def SentTo (s : TraceSettings) (key : UInt16 → UInt8 → ProbeKey)
    (sent : UInt16 → UInt8 → Response → Prop) (k : ProbeKey) (response : Response) : Prop :=
  (∃ cycle ttl, s.Planned cycle ttl ∧ k = key cycle ttl ∧ sent cycle ttl response) ∨
  ∀ cycle ttl, s.Planned cycle ttl → k ≠ key cycle ttl

/-- Where no other probe has its key, it was sent to the probe. -/
theorem SentTo.own {s : TraceSettings} {key : UInt16 → UInt8 → ProbeKey}
    {sent : UInt16 → UInt8 → Response → Prop} {cycle : UInt16} {ttl : UInt8} {response : Response}
    (hp : s.Planned cycle ttl)
    (hkey : ∀ cycle' ttl', s.Planned cycle' ttl' → key cycle ttl = key cycle' ttl' →
      cycle = cycle' ∧ ttl = ttl')
    (h : SentTo s key sent (key cycle ttl) response) : sent cycle ttl response := by
  rcases h with ⟨cycle', ttl', hp', heq, hsent⟩ | hforeign
  · obtain ⟨rfl, rfl⟩ := hkey cycle' ttl' hp' heq
    exact hsent
  · exact absurd rfl (hforeign cycle ttl hp)

def echoKey (s : TraceSettings) (nonce : UInt32) (family : AddressFamily) (cycle : UInt16)
    (ttl : UInt8) : ProbeKey :=
  ProbeKey.icmp family (s.identity nonce cycle ttl).icmp.1 (s.identity nonce cycle ttl).icmp.2

theorem icmp_of_echoKey {s : TraceSettings} {nonce : UInt32} {family : AddressFamily}
    {cycle cycle' : UInt16} {ttl ttl' : UInt8}
    (h : echoKey s nonce family cycle ttl = echoKey s nonce family cycle' ttl') :
    (s.identity nonce cycle ttl).icmp = (s.identity nonce cycle' ttl').icmp := by
  have hi := Option.some.inj (congrArg ProbeKey.identifier h)
  have hs := Option.some.inj (congrArg ProbeKey.sequence h)
  exact Prod.ext hi hs

/-- The sockets of a run are raw; every answer that they bring was sent for its key. -/
structure EchoRun (s : TraceSettings) (nonce : UInt32) (family : AddressFamily)
    (sent : UInt16 → UInt8 → Response → Prop) (systems : UInt16 → UInt8 → EchoSystem K) : Prop where
  raw : ∀ cycle ttl kind, (systems cycle ttl).socket = .ok kind →
    (systems cycle ttl).queues kind = false
  hears : ∀ cycle ttl limit packet, ∀ turn ∈ (systems cycle ttl).turns limit packet,
    ∀ bytes source elapsedMs, .ok (bytes, source, elapsedMs) ∈ turn.packets →
      Heard family (SentTo s (echoKey s nonce family) sent) bytes source

/-- With identities that differ, a probe names only somebody who answered it. -/
theorem traceProbeScoped_told {s : TraceSettings} {nonce : UInt32} {target : IpAddr}
    {parameters : RoundParameters} {sent : UInt16 → UInt8 → Response → Prop}
    {systems : UInt16 → UInt8 → EchoSystem K} (hrun : EchoRun s nonce (familyOf target) sent systems)
    (hinj : s.IcmpInjective nonce) {cycle : UInt16} {ttl : UInt8} (hp : s.Planned cycle ttl)
    {hop : HopResult K}
    (h : traceProbeScoped (systems cycle ttl) target ttl parameters (s.identity nonce cycle ttl) =
      .ok hop) :
    ∃ sample, hop = .ofSample ttl sample (decide (sample.status = .reply)) ∧
      Told (fun response => statusOf response.kind) (sent cycle ttl) sample := by
  obtain ⟨sample, hsample, h⟩ := except_bind_ok.mp h
  cases h
  refine ⟨sample, rfl, ?_⟩
  have hears : ∀ used queues, (systems cycle ttl).SendsWith (s.identity nonce cycle ttl).icmp.1 used
      queues → ∀ packet, ∀ turn ∈ (systems cycle ttl).turns (some ttl) packet,
      turn.Hears (familyOf target) (SentTo s (echoKey s nonce (familyOf target)) sent) fun e =>
        queues = true → e.Tells (SentTo s (echoKey s nonce (familyOf target)) sent
          (ProbeKey.icmp (familyOf target) used (s.identity nonce cycle ttl).icmp.2)) := by
    rintro used queues ⟨kind, hkind, -, rfl⟩ packet turn hturn
    refine ⟨hrun.hears cycle ttl (some ttl) packet turn hturn, ?_⟩
    intro e elapsedMs _ hqueues
    rw [hrun.raw cycle ttl kind hkind] at hqueues
    cases hqueues
  obtain ⟨used, queues, ⟨kind, hkind, hused, -⟩, htold⟩ := probeOnce_told hears hsample
  unfold EchoSystem.prepareEcho at hused
  rw [hrun.raw cycle ttl kind hkind, if_neg Bool.false_ne_true] at hused
  cases hused
  apply htold.mono
  intro response hresponse
  apply SentTo.own hp _ hresponse
  intro cycle' ttl' hp' heq
  exact hinj cycle ttl cycle' ttl' hp hp' (icmp_of_echoKey heq)

/-! A run whose sockets all bring one packet. -/

def bringing (bytes : Bytes) (source : Option IpAddr) : EchoSystem Unit where
  linux := true
  socket := .ok .raw
  localPort := .ok 0
  setHopLimit := fun _ => .ok ()
  setTrafficClass := fun _ => .ok ()
  setDoNotFragment := .ok ()
  ipv6SourceFor := fun destination => .ok destination
  cancelled := false
  sendTo := fun _ _ => .ok .sent
  turns := fun _ _ => [⟨false, .ok (), false, [], [.ok (bytes, source, ())]⟩]
  cancelledLate := false

theorem setOptions_bringing (bytes : Bytes) (source : Option IpAddr) (family : AddressFamily)
    (ttl : Option UInt8) (parameters : RoundParameters) :
    (bringing bytes source).setOptions family ttl parameters = .ok () := by
  have hlimit : ttl.forM (bringing bytes source).setHopLimit = .ok () := by
    cases ttl <;> rfl
  have hclass : parameters.trafficClass.forM (bringing bytes source).setTrafficClass = .ok () := by
    cases parameters.trafficClass <;> rfl
  unfold EchoSystem.setOptions
  rw [hlimit, except_ok_bind, hclass, except_ok_bind]
  split
  · rfl
  · rfl

/-- A probe takes the packet when it answers its key. -/
theorem probeOnce_bringing {bytes : Bytes} {source : Option IpAddr} {target : IpAddr}
    {identifier sequence : UInt16} {r : ParsedIcmp}
    (h : readResponse (ProbeKey.icmp (familyOf target) identifier sequence) bytes source = some r)
    (ttl : Option UInt8) (parameters : RoundParameters) :
    probeOnce (bringing bytes source) target identifier sequence ttl parameters =
      .ok (icmpSample sequence r.kind r.source () r.nextHopMtu r.mplsLabels) := by
  have hsocket : (bringing bytes source).socket = .ok .raw := rfl
  have hprepare : (bringing bytes source).prepareEcho .raw identifier = .ok identifier := rfl
  obtain ⟨packet, hpacket⟩ : ∃ packet, (bringing bytes source).buildEcho target identifier sequence
      (List.replicate parameters.payloadSize 0x4c) = .ok packet := by
    cases target <;> exact ⟨_, rfl⟩
  have hbegin : beginProbe (bringing bytes source).cancelled ((bringing bytes source).sendTo ttl packet) =
      .ok .sent := rfl
  have haccept : acceptEcho (ProbeKey.icmp (familyOf target) identifier sequence) sequence
      (.packet bytes source ()) = some (icmpSample sequence r.kind r.source () r.nextHopMtu r.mplsLabels) := by
    show (readResponse _ bytes source).map _ = _
    rw [h]
    rfl
  have hfirst : firstAccepted (acceptEcho (ProbeKey.icmp (familyOf target) identifier sequence) sequence)
      [(.ok (.packet bytes source ()) : Except ProbeError (Arrival Unit))] =
        .ok (some (icmpSample sequence r.kind r.source () r.nextHopMtu r.mplsLabels)) := by
    unfold firstAccepted
    rw [haccept]
  have hwait : waitFor (acceptEcho (ProbeKey.icmp (familyOf target) identifier sequence) sequence)
      (bringing bytes source).cancelledLate (((bringing bytes source).turns ttl packet).map
        (Turn.poll ((bringing bytes source).queues .raw) true)) =
        .ok (.answered (icmpSample sequence r.kind r.source () r.nextHopMtu r.mplsLabels)) := by
    show waitFor _ _ (Turn.poll ((bringing bytes source).queues .raw) true
      ⟨false, .ok (), false, [], [.ok (bytes, source, ())]⟩ :: []) = _
    exact waitFor_first ⟨rfl, rfl, rfl⟩ hfirst
  unfold probeOnce
  dsimp only
  rw [hsocket, except_ok_bind, hprepare, except_ok_bind, setOptions_bringing, except_ok_bind, hpacket,
    except_ok_bind, hbegin, except_ok_bind]
  dsimp only
  rw [hwait]
  rfl

/-- Every key of an echo request is that of a packet. -/
theorem exists_echo (family : AddressFamily) (identifier sequence : UInt16) :
    ∃ p : Probe, p.family = family ∧ p.key = ProbeKey.icmp family identifier sequence := by
  cases family with
  | ipv4 => exact ⟨.echoIpv4 routerHeader rfl identifier sequence [], rfl, rfl⟩
  | ipv6 =>
    have hlength : (List.replicate 16 (0 : UInt8)).length = 16 := rfl
    have htransport : IsTransport 58 := by
      unfold IsTransport
      decide
    let address : Octets 16 := ⟨List.replicate 16 0, hlength⟩
    exact ⟨.echoIpv6 ⟨0, 0, 0, 8, 64, address, address, [], 58, fun _ he => absurd he List.not_mem_nil,
        Nat.zero_le 15, htransport⟩ rfl
      address address identifier sequence [], rfl, rfl⟩

/-- Every probe that has a key for it can be echoed. -/
theorem exists_reply (who : IpAddr) {p : Probe} {family : AddressFamily} {identifier sequence : UInt16}
    (hfamily : p.family = family) (hkey : p.key = ProbeKey.icmp family identifier sequence) :
    ∃ bytes, Answer p ⟨who, .echoReply, 0⟩ bytes (some who) := by
  subst hfamily
  exact ⟨_, .reply ⟨0, 0, identifier, sequence, []⟩ hkey (.bare p.family) rfl⟩

/-- The target has no listener at the port of the probe. -/
def Arrives (target : IpAddr) (response : Response) : Prop :=
  response.kind = .destinationUnreachable ∧ response.who = target ∧
    response.code = portUnreachable (familyOf target)

instance (target : IpAddr) (response : Response) : Decidable (Arrives target response) :=
  inferInstanceAs (Decidable (_ ∧ _ ∧ _))

def udpStatus (target : IpAddr) (response : Response) : SampleStatus :=
  if Arrives target response then .reply else statusOf response.kind

theorem udpTraceSample_told {sent : Response → Prop} {response : Response} (hsent : sent response)
    (ttl : UInt8) (target : IpAddr) (elapsedMs : K) (mtu : Option UInt32) (mpls : List MplsLabel) :
    Told (udpStatus target) sent (udpTraceSample ttl target response.kind response.code
      (some response.who) elapsedMs mtu mpls).1 := by
  refine Or.inr ⟨response, hsent, ?_⟩
  unfold udpTraceSample udpStatus
  dsimp only
  by_cases harrives : Arrives target response
  · obtain ⟨hkind, hwho, hcode⟩ := harrives
    rw [if_pos ⟨hkind, congrArg some hwho, hcode⟩, if_pos ⟨hkind, hwho, hcode⟩]
    exact ⟨rfl, rfl⟩
  · have hnot : ¬ (response.kind = .destinationUnreachable ∧ some response.who = some target ∧
        response.code = portUnreachable (familyOf target)) := by
      rintro ⟨hkind, hwho, hcode⟩
      exact harrives ⟨hkind, Option.some.inj hwho, hcode⟩
    rw [if_neg hnot, if_neg harrives]
    exact ⟨rfl, rfl⟩

/-- What a sender or its listener brings. -/
structure UdpSystem.Hears (s : UdpSystem K) (target : IpAddr) (ttl : UInt8) (port : UInt16)
    (sent : ProbeKey → Response → Prop) : Prop where
  packets : s.listens = true → ∀ turn ∈ s.turns ttl port, ∀ bytes source elapsedMs,
    .ok (bytes, source, elapsedMs) ∈ turn.packets → Heard (familyOf target) sent bytes source
  queue : s.listens = false → ∀ turn ∈ s.turns ttl port, ∀ e elapsedMs,
    .ok (e, elapsedMs) ∈ turn.queue → e.destination = some (target, port) →
      e.Tells (sent (ProbeKey.ports (familyOf target) .udp s.sourcePort port))

theorem acceptUdp_queued {key : ProbeKey} {target : IpAddr} {ttl : UInt8} {port : UInt16}
    {e : QueuedError} {elapsedMs : K} {found : Sample K × Bool}
    (h : acceptUdp key target ttl port (.queued e elapsedMs) = some found) :
    ∃ kind, e.kind = some kind ∧ e.destination = some (target, port) ∧
      found = udpTraceSample ttl target kind e.code e.offender elapsedMs e.nextHopMtu [] := by
  unfold acceptUdp at h
  dsimp only at h
  cases hkind : e.kind with
  | none =>
    rw [hkind] at h
    cases h
  | some kind =>
    rw [hkind] at h
    dsimp only at h
    split at h
    · next hdestination =>
      cases h
      exact ⟨kind, rfl, hdestination, rfl⟩
    · cases h

theorem acceptUdp_told {s : UdpSystem K} {target : IpAddr} {ttl : UInt8} {port : UInt16}
    {sent : ProbeKey → Response → Prop} (hears : s.Hears target ttl port sent) {turn : Turn K}
    (hturn : turn ∈ s.turns ttl port) {a : Arrival K}
    (ha : .ok a ∈ (turn.poll (!s.listens) s.listens).arrived) {found : Sample K × Bool}
    (h : acceptUdp (ProbeKey.ports (familyOf target) .udp s.sourcePort port) target ttl port a =
      some found) :
    Told (udpStatus target) (sent (ProbeKey.ports (familyOf target) .udp s.sourcePort port))
      found.1 := by
  rcases Turn.mem_arrived ha with ⟨e, elapsedMs, rfl, hqueue, hmem⟩ |
    ⟨bytes, source, elapsedMs, rfl, hlistens, hmem⟩
  · obtain ⟨kind, hkind, hdestination, rfl⟩ := acceptUdp_queued h
    rw [Bool.not_eq_true'] at hqueue
    obtain ⟨who, hoffender, hsent⟩ :=
      hears.queue hqueue turn hturn e elapsedMs hmem hdestination kind hkind
    rw [hoffender]
    exact udpTraceSample_told hsent ttl target elapsedMs _ _
  · obtain ⟨r, hr, rfl⟩ := Option.map_eq_some_iff.mp h
    obtain ⟨response, hsent, hkind, hcode, hsource⟩ :=
      readResponse_heard (.udp (familyOf target) s.sourcePort port)
        (hears.packets hlistens turn hturn bytes source elapsedMs hmem) hr
    rw [hkind, hcode, hsource]
    exact udpTraceSample_told hsent ttl target elapsedMs _ _

/-- A sample names only somebody who answered the ports of the probe. -/
theorem udpProbe_told {s : UdpSystem K} {target : IpAddr} {parameters : RoundParameters}
    {ttl : UInt8} {port : UInt16} {sent : ProbeKey → Response → Prop}
    (hears : s.Hears target ttl port sent) {hop : HopResult K} {last : Bool}
    (h : udpProbe s target parameters ttl port = .ok (hop, last)) :
    ∃ sample reached, hop = .ofSample ttl sample reached ∧
      Told (udpStatus target) (sent (ProbeKey.ports (familyOf target) .udp s.sourcePort port))
        sample := by
  obtain ⟨outcome, -, h⟩ := except_bind_ok.mp h
  cases outcome with
  | unreachable =>
    cases h
    exact ⟨_, _, rfl, told_unreachable ttl.toUInt16⟩
  | sent =>
    dsimp only at h
    obtain ⟨⟨sample, reached, last'⟩, hsample, h⟩ := except_bind_ok.mp h
    cases h
    refine ⟨sample, reached, rfl, ?_⟩
    cases hwaited : waitFor (acceptUdp (ProbeKey.ports (familyOf target) .udp s.sourcePort port)
        target ttl port) false ((s.turns ttl port).map (Turn.poll (!s.listens) s.listens)) with
    | error e =>
      rw [hwaited] at hsample
      cases hsample
    | ok waited =>
      rw [hwaited] at hsample
      cases waited with
      | cancelled =>
        cases hsample
        exact told_cancelled ttl.toUInt16
      | timedOut =>
        cases hsample
        exact told_timeout ttl.toUInt16
      | answered found =>
        obtain ⟨poll, hpoll, a, ha, haccept⟩ := exists_of_answered hwaited
        obtain ⟨turn, hturn, rfl⟩ := List.mem_map.mp hpoll
        cases hsample
        exact acceptUdp_told hears hturn ha haccept

def udpKey (s : TraceSettings) (nonce : UInt32) (target : IpAddr)
    (systems : UInt16 → UInt8 → UdpSystem K) (cycle : UInt16) (ttl : UInt8) : ProbeKey :=
  ProbeKey.ports (familyOf target) .udp (systems cycle ttl).sourcePort (s.udpPort nonce cycle ttl)

/-- At the first hop limit the router answers, at the second one the target. -/
def pathResponse (ttl : UInt8) : Response :=
  if ttl = 1 then ⟨.v4 (routerAddress 1), .timeExceeded, 0⟩
  else ⟨.v4 (routerAddress 2), .destinationUnreachable, 3⟩

def pathQueued (ttl : UInt8) (port : UInt16) : QueuedError where
  origin := 2
  icmpType := if ttl = 1 then 11 else 3
  code := (pathResponse ttl).code
  info := 0
  offender := some (pathResponse ttl).who
  destination := some (.v4 (routerAddress 2), port)
  payload := []

theorem pathQueued_kind (ttl : UInt8) (port : UInt16) :
    (pathQueued ttl port).kind = some (pathResponse ttl).kind := by
  unfold pathQueued pathResponse
  by_cases h : ttl = 1
  · rw [if_pos h, if_pos h]
    rfl
  · rw [if_neg h, if_neg h]
    rfl

/-- The answers of the path come in through the error queue of the sender. -/
def onPath (cycle : UInt16) (limit : UInt8) : UdpSystem Unit where
  bind := .ok ()
  sourcePort := 50000
  listens := false
  cancelled := fun _ => false
  discardErrorQueue := fun _ => .ok ()
  setHopLimit := fun _ => .ok ()
  setTrafficClass := fun _ _ => .ok ()
  cancelledThen := fun _ => false
  sendTo := fun _ _ _ => .ok .sent
  turns := fun _ port =>
    if cycle = 0 ∧ (limit = 1 ∨ limit = 2) then
      [⟨false, .ok (), false, [.ok (pathQueued limit port, ())], []⟩]
    else []

def pathSent (cycle : UInt16) (ttl : UInt8) (response : Response) : Prop :=
  cycle = 0 ∧ response = pathResponse ttl

theorem planned_onPath {ttl : UInt8} (h : ttl = 1 ∨ ttl = 2) : TraceSettings.default.Planned 0 ttl := by
  rcases h with rfl | rfl
  · exact ⟨by decide, by decide, by decide⟩
  · exact ⟨by decide, by decide, by decide⟩

theorem onPath_hears (cycle : UInt16) (ttl : UInt8) :
    (onPath cycle ttl).Hears (.v4 (routerAddress 2)) ttl (TraceSettings.default.udpPort 0 cycle ttl)
      (SentTo .default (udpKey .default 0 (.v4 (routerAddress 2)) onPath) pathSent) := by
  refine ⟨fun hlistens => (by cases hlistens), ?_⟩
  intro _ turn hturn e elapsedMs hmem _ kind hkind
  replace hturn : turn ∈ if cycle = 0 ∧ (ttl = 1 ∨ ttl = 2) then _ else _ := hturn
  split at hturn
  · rename_i hanswered
    obtain ⟨rfl, httl⟩ := hanswered
    obtain rfl := List.mem_singleton.mp hturn
    cases List.mem_singleton.mp hmem
    rw [pathQueued_kind] at hkind
    cases hkind
    exact ⟨_, rfl, Or.inl ⟨0, ttl, planned_onPath httl, rfl, rfl, rfl⟩⟩
  · cases hturn

end

end NetworkLantern.Path.Native
