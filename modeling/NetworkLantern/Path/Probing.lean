import NetworkLantern.Lib.Waiting
import NetworkLantern.Packet.Build
import NetworkLantern.Packet.Parse
import NetworkLantern.Path.Identity
import NetworkLantern.Path.Statistics

/-!
# Probes on native sockets

An echo request or a UDP datagram for each hop limit, and the sample that is made of what
its sockets bring before the deadline.  What they bring, and when, is a parameter.
-/

namespace NetworkLantern.Path.Native

open NetworkLantern Packet

structure RoundParameters where
  payloadSize : Nat
  dontFragment : Bool
  maxHops : UInt8
  trafficClass : Option UInt8

structure HopResult (K : Type) where
  ttl : UInt8
  address : Option IpAddr
  reachedDestination : Bool
  samples : List (Sample K)
deriving DecidableEq

inductive SendOutcome
  | sent
  /-- The kernel has no route to the target. -/
  | unreachable
deriving DecidableEq

inductive SocketKind
  | raw | datagram
deriving DecidableEq

def familyOf : IpAddr → AddressFamily
  | .v4 _ => .ipv4
  | .v6 _ => .ipv6

/-! ## The error queue of a Linux socket -/

structure QueuedError where
  origin : UInt8
  icmpType : UInt8
  code : UInt8
  info : UInt32
  /-- Who sent the error. -/
  offender : Option IpAddr
  /-- Where the probe went. -/
  destination : Option (IpAddr × UInt16)
  /-- The start of what the probe carried. -/
  payload : Bytes

namespace QueuedError

/-- The origins 2 and 3 are ICMP and ICMPv6. -/
def kind (e : QueuedError) : Option IcmpKind :=
  match e.origin.toNat, e.icmpType.toNat with
  | 2, 11 | 3, 3 => some .timeExceeded
  | 2, 3 | 3, 1 => some .destinationUnreachable
  | 3, 2 => some .packetTooBig
  | 2, 12 | 3, 4 => some .parameterProblem
  | _, _ => none

def nextHopMtu (e : QueuedError) : Option UInt32 :=
  match e.origin.toNat, e.icmpType.toNat, e.code.toNat with
  | 2, 3, 4 | 3, 2, _ => some e.info
  | _, _, _ => none

end QueuedError

/-- The sequence number of an echo request. -/
def quotedEchoSequence (payload : Bytes) (family : AddressFamily) : Option UInt16 :=
  let request : UInt8 := match family with | .ipv4 => 8 | .ipv6 => 128
  match payload with
  | type :: _ :: _ :: _ :: _ :: _ :: a :: b :: _ => if type = request then some (u16OfBe a b) else none
  | _ => none

/-! ## Samples -/

section
variable {K : Type}

def timeoutSample (sequence : UInt16) : Sample K := ⟨sequence, none, none, .timeout, none, []⟩

def cancelledSample (sequence : UInt16) : Sample K := ⟨sequence, none, none, .cancelled, none, []⟩

def unreachableSample (sequence : UInt16) : Sample K :=
  ⟨sequence, none, none, .unreachable, none, []⟩

/-- The status in `icmp_sample`. -/
def statusOf : IcmpKind → SampleStatus
  | .echoReply => .reply
  | .timeExceeded => .timeExceeded
  | .destinationUnreachable | .packetTooBig | .parameterProblem | .other => .unreachable

def icmpSample (sequence : UInt16) (kind : IcmpKind) (hop : Option IpAddr) (elapsedMs : K)
    (nextHopMtu : Option UInt32) (mpls : List MplsLabel) : Sample K where
  sequence
  hop
  elapsedMs := some elapsedMs
  status := statusOf kind
  nextHopMtu
  mpls

/-- The hop of one sample. -/
def HopResult.ofSample (ttl : UInt8) (sample : Sample K) (reached : Bool) : HopResult K where
  ttl
  address := sample.hop
  reachedDestination := reached
  samples := [sample]

/-- The code of an unreachable port. -/
def portUnreachable : AddressFamily → UInt8
  | .ipv4 => 3
  | .ipv6 => 4

/-- Port unreachable from the target is arrival. -/
def udpTraceSample (ttl : UInt8) (target : IpAddr) (kind : IcmpKind) (code : UInt8)
    (hop : Option IpAddr) (elapsedMs : K) (nextHopMtu : Option UInt32) (mpls : List MplsLabel) :
    Sample K × Bool :=
  let reached := kind = .destinationUnreachable ∧ hop = some target ∧
    code = portUnreachable (familyOf target)
  let sample := icmpSample ttl.toUInt16 kind hop elapsedMs nextHopMtu mpls
  if reached then ({ sample with status := .reply }, true) else (sample, false)

/-! ## What the sockets bring -/

/-- Something read, the time since the probe was sent with it. -/
inductive Arrival (K : Type)
  | queued (error : QueuedError) (elapsedMs : K)
  | packet (bytes : Bytes) (source : Option IpAddr) (elapsedMs : K)

/-- One turn of a wait.  The queue is read before the packets. -/
structure Turn (K : Type) where
  cancelled : Bool
  polled : Except ProbeError Unit
  cancelledThen : Bool
  queue : List (Except ProbeError (QueuedError × K))
  packets : List (Except ProbeError (Bytes × Option IpAddr × K))

/-- A turn that reads what its sockets are for. -/
def Turn.poll (queue packets : Bool) (turn : Turn K) : Poll ProbeError (Arrival K) where
  cancelled := turn.cancelled
  result := turn.polled
  cancelledThen := turn.cancelledThen
  arrived :=
    (if queue then turn.queue.map fun r => r.map fun (e, elapsedMs) => .queued e elapsedMs else []) ++
    (if packets then
      turn.packets.map fun r => r.map fun (bytes, source, elapsedMs) => .packet bytes source elapsedMs
    else [])

/-- A response to a probe; the socket tells its source where it does not. -/
def readResponse (key : ProbeKey) (bytes : Bytes) (source : Option IpAddr) : Option ParsedIcmp :=
  match parseIcmpResponse bytes key.family with
  | .error _ => none
  | .ok response =>
    if response.correlates key then some { response with source := response.source.or source }
    else none

def beginProbe {α : Type} (cancelled : Bool) (send : Except ProbeError α) : Except ProbeError α := do
  refuse cancelled .cancelled
  send

/-! ## Echo requests -/

/-- What the system does for one echo request, on Linux or on another Unix.  What comes back
may depend on the hop limit that was set and on the packet. -/
structure EchoSystem (K : Type) where
  linux : Bool
  /-- How the socket opens, with its receive timeout. -/
  socket : Except ProbeError SocketKind
  /-- The error queue and the local port of a Linux datagram socket. -/
  localPort : Except ProbeError UInt16
  setHopLimit : UInt8 → Except ProbeError Unit
  setTrafficClass : UInt8 → Except ProbeError Unit
  setDoNotFragment : Except ProbeError Unit
  ipv6SourceFor : Octets 16 → Except ProbeError (Octets 16)
  cancelled : Bool
  sendTo : Option UInt8 → Bytes → Except ProbeError SendOutcome
  /-- The turns before the deadline. -/
  turns : Option UInt8 → Bytes → List (Turn K)
  cancelledLate : Bool

namespace EchoSystem

/-- A Linux datagram socket has an error queue and an identifier of its own. -/
def queues (s : EchoSystem K) (kind : SocketKind) : Bool := s.linux && kind = .datagram

def prepareEcho (s : EchoSystem K) (kind : SocketKind) (identifier : UInt16) :
    Except ProbeError UInt16 :=
  if s.queues kind then s.localPort else .ok identifier

def setOptions (s : EchoSystem K) (family : AddressFamily) (ttl : Option UInt8)
    (parameters : RoundParameters) : Except ProbeError Unit := do
  ttl.forM s.setHopLimit
  parameters.trafficClass.forM s.setTrafficClass
  if parameters.dontFragment && family = .ipv4 then s.setDoNotFragment else .ok ()

def buildEcho (s : EchoSystem K) (target : IpAddr) (identifier sequence : UInt16)
    (payload : Bytes) : Except ProbeError Bytes :=
  match target with
  | .v4 _ => .ok (buildIcmpv4Echo identifier sequence payload)
  | .v6 destination => do
    let source ← s.ipv6SourceFor destination
    return buildIcmpv6Echo source destination identifier sequence payload

end EchoSystem

/-- The probe that an arrival on an echo socket answers is told by its key, that of a queued
error by its sequence number. -/
def acceptEcho (expected : ProbeKey) (sequence : UInt16) : Arrival K → Option (Sample K)
  | .queued error elapsedMs =>
    match error.kind with
    | none => none
    | some kind =>
      if quotedEchoSequence error.payload expected.family = some sequence then
        some (icmpSample sequence kind error.offender elapsedMs error.nextHopMtu [])
      else none
  | .packet bytes source elapsedMs =>
    (readResponse expected bytes source).map fun response =>
      icmpSample sequence response.kind response.source elapsedMs response.nextHopMtu
        response.mplsLabels

/-- The sample of a wait. -/
def sampleOf (sequence : UInt16) : Waited (Sample K) → Sample K
  | .answered sample => sample
  | .cancelled => cancelledSample sequence
  | .timedOut => timeoutSample sequence

def probeOnce (s : EchoSystem K) (target : IpAddr) (identifier sequence : UInt16)
    (ttl : Option UInt8) (parameters : RoundParameters) : Except ProbeError (Sample K) := do
  let family := familyOf target
  let kind ← s.socket
  let identifier ← s.prepareEcho kind identifier
  s.setOptions family ttl parameters
  let packet ← s.buildEcho target identifier sequence (List.replicate parameters.payloadSize 0x4c)
  match ← beginProbe s.cancelled (s.sendTo ttl packet) with
  | .unreachable => return unreachableSample sequence
  | .sent =>
    let expected := ProbeKey.icmp family identifier sequence
    let waited ← waitFor (acceptEcho expected sequence) s.cancelledLate
      ((s.turns ttl packet).map (Turn.poll (s.queues kind) true))
    return sampleOf sequence waited

/-- The turns of the loop over TTLs: a probe for each one, whether the run is cancelled
before it. -/
def traceLoop (probe : UInt8 → Except ProbeError (Sample K)) (cancelled : UInt8 → Bool)
    (hops : List (HopResult K)) : List UInt8 → Except ProbeError (List (HopResult K))
  | [] => .ok hops
  | ttl :: ttls =>
    if cancelled ttl then
      if hops.isEmpty then .error .cancelled else .ok hops
    else
      match probe ttl with
      | .error .cancelled => if hops.isEmpty then .error .cancelled else .ok hops
      | .error e => .error e
      | .ok sample =>
        let reached := decide (sample.status = .reply)
        let hops := hops ++ [.ofSample ttl sample reached]
        if reached then .ok hops else traceLoop probe cancelled hops ttls

/-- Every probe has a socket of its own. -/
def traceScoped (systems : UInt8 → EchoSystem K) (cancelled : UInt8 → Bool) (target : IpAddr)
    (identifier : UInt16) (firstTtl : UInt8) (parameters : RoundParameters) :
    Except ProbeError (List (HopResult K)) := do
  refuse (firstTtl == 0 || decide (parameters.maxHops < firstTtl))
    (.invalidPlan "first TTL must be between 1 and max hops")
  traceLoop
    (fun ttl => probeOnce (systems ttl) target identifier ttl.toUInt16 (some ttl) parameters)
    cancelled [] (ttlRange firstTtl parameters.maxHops)

def traceProbeScoped (s : EchoSystem K) (target : IpAddr) (ttl : UInt8)
    (parameters : RoundParameters) (identity : ProbeIdentity) : Except ProbeError (HopResult K) := do
  let (identifier, sequence) := identity.icmp
  let sample ← probeOnce s target identifier sequence (some ttl) parameters
  return .ofSample ttl sample (decide (sample.status = .reply))

/-! ## UDP datagrams -/

/-- What the system does for a UDP trace: it has one sender, and a listener or, on Linux, the
error queue of the sender. -/
structure UdpSystem (K : Type) where
  /-- How the sockets open. -/
  bind : Except ProbeError Unit
  sourcePort : UInt16
  listens : Bool
  cancelled : UInt8 → Bool
  discardErrorQueue : UInt8 → Except ProbeError Unit
  setHopLimit : UInt8 → Except ProbeError Unit
  setTrafficClass : UInt8 → UInt8 → Except ProbeError Unit
  cancelledThen : UInt8 → Bool
  sendTo : UInt8 → Bytes → UInt16 → Except ProbeError SendOutcome
  /-- The turns before the deadline. -/
  turns : UInt8 → UInt16 → List (Turn K)

/-- A queued error tells where its probe went. -/
def acceptUdp (key : ProbeKey) (target : IpAddr) (ttl : UInt8) (port : UInt16) :
    Arrival K → Option (Sample K × Bool)
  | .queued error elapsedMs =>
    match error.kind with
    | none => none
    | some kind =>
      if error.destination = some (target, port) then
        some (udpTraceSample ttl target kind error.code error.offender elapsedMs error.nextHopMtu [])
      else none
  | .packet bytes source elapsedMs =>
    (readResponse key bytes source).map fun response =>
      udpTraceSample ttl target response.kind response.code response.source elapsedMs
        response.nextHopMtu response.mplsLabels

/-- The sample of a wait, whether the target was reached, and whether the run ends. -/
def udpSampleOf (ttl : UInt8) : Waited (Sample K × Bool) → Sample K × Bool × Bool
  | .answered (sample, reached) => (sample, reached, reached)
  | .cancelled => (cancelledSample ttl.toUInt16, false, true)
  | .timedOut => (timeoutSample ttl.toUInt16, false, false)

def udpProbe (s : UdpSystem K) (target : IpAddr) (parameters : RoundParameters) (ttl : UInt8)
    (port : UInt16) : Except ProbeError (HopResult K × Bool) := do
  let payload := List.replicate parameters.payloadSize 0x4c
  let outcome ← beginProbe (s.cancelledThen ttl) (s.sendTo ttl payload port)
  let key := ProbeKey.ports (familyOf target) .udp s.sourcePort port
  let (sample, reached, last) ← match outcome with
    | .unreachable => .ok (unreachableSample ttl.toUInt16, false, false)
    | .sent =>
      (waitFor (acceptUdp key target ttl port) false
        ((s.turns ttl port).map (Turn.poll (!s.listens) s.listens))).map (udpSampleOf ttl)
  return (.ofSample ttl sample reached, last)

/-- The sockets of `udp_trace_scoped`. -/
def UdpSystem.sockets (s : UdpSystem K) (target : IpAddr) (parameters : RoundParameters) :
    UdpSockets (HopResult K) where
  bind := s.bind
  cancelled := s.cancelled
  prepare := fun ttl => do
    if s.listens then .ok () else s.discardErrorQueue ttl
    s.setHopLimit ttl
    parameters.trafficClass.forM (s.setTrafficClass ttl)
  probe := udpProbe s target parameters

end

end NetworkLantern.Path.Native
