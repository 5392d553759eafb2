import NetworkLantern.Lib.Checked
import NetworkLantern.Path.Types

/-!
# Probes and responses

The key of a probe, what a response carries, and when a response answers a
probe.
-/

namespace NetworkLantern.Packet

open NetworkLantern Path

inductive TransportProtocol
  | icmp | udp | tcp
deriving DecidableEq, Repr

structure ProbeKey where
  family : AddressFamily
  protocol : TransportProtocol
  identifier : Option UInt16
  sequence : Option UInt16
  sourcePort : Option UInt16
  destinationPort : Option UInt16
  /-- The TCP sequence number when the sender controls it. -/
  transportSequence : Option UInt32
deriving DecidableEq, Repr

namespace ProbeKey

def icmp (family : AddressFamily) (identifier sequence : UInt16) : ProbeKey where
  family
  protocol := .icmp
  identifier := some identifier
  sequence := some sequence
  sourcePort := none
  destinationPort := none
  transportSequence := none

def ports (family : AddressFamily) (protocol : TransportProtocol)
    (sourcePort destinationPort : UInt16) : ProbeKey where
  family
  protocol
  identifier := none
  sequence := none
  sourcePort := some sourcePort
  destinationPort := some destinationPort
  transportSequence := none

def tcp (family : AddressFamily) (sourcePort destinationPort : UInt16) (sequence : Option UInt32) :
    ProbeKey :=
  { ports family .tcp sourcePort destinationPort with transportSequence := sequence }

end ProbeKey

inductive IcmpKind
  | echoReply | timeExceeded | destinationUnreachable | packetTooBig | parameterProblem | other
deriving DecidableEq, Repr

structure MplsLabel where
  label : UInt32
  trafficClass : UInt8
  bottomOfStack : Bool
  ttl : UInt8
deriving DecidableEq, Repr

/-- The labels retained from one response. -/
def MAX_MPLS_LABELS_PER_RESPONSE : Nat := 64

/-- An address, as its octets. -/
inductive IpAddr
  | v4 (octets : { b : Bytes // b.length = 4 })
  | v6 (octets : { b : Bytes // b.length = 16 })
deriving DecidableEq

structure ParsedIcmp where
  family : AddressFamily
  source : Option IpAddr
  kind : IcmpKind
  code : UInt8
  echoedIdentifier : Option UInt16
  echoedSequence : Option UInt16
  quotedProbe : Option ProbeKey
  nextHopMtu : Option UInt32
  mplsLabels : List MplsLabel
deriving DecidableEq

structure ParsedTcp where
  family : AddressFamily
  source : Option IpAddr
  sourcePort : UInt16
  destinationPort : UInt16
  sequence : UInt32
  acknowledgment : UInt32
  syn : Bool
  rst : Bool
  ack : Bool
deriving DecidableEq

def ParsedIcmp.correlates (r : ParsedIcmp) (key : ProbeKey) : Bool :=
  if r.family ≠ key.family then false
  else
    match key.protocol with
    | .icmp =>
      match r.quotedProbe with
      | none =>
        r.echoedIdentifier == key.identifier && r.echoedSequence == key.sequence &&
          r.echoedIdentifier.isSome
      | some candidate => candidate == key
    | .udp => r.quotedProbe.any fun candidate => candidate == key
    | .tcp =>
      r.quotedProbe.any fun candidate =>
        candidate.family == key.family && candidate.protocol == key.protocol &&
          candidate.sourcePort == key.sourcePort &&
          candidate.destinationPort == key.destinationPort &&
          key.transportSequence.all fun sequence => candidate.transportSequence == some sequence

inductive PacketError
  | truncated (needed actual : Nat)
  | unsupportedIpVersion (version : Nat)
  | notIcmp (protocol : UInt8)
  | malformed (what : Str)
deriving DecidableEq

end NetworkLantern.Packet
