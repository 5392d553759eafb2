import NetworkLantern.Packet.Checksum
import NetworkLantern.Packet.Types

/-!
# Parsing responses

Every function here reads bytes that anyone may have sent.  Each comes with what
it returns on any input: no read is out of range.
-/

namespace NetworkLantern.Packet

open NetworkLantern Path Checked

/-- `b >> 4`. -/
def high (b : UInt8) : Nat := b.toNat / 16

/-- `b & 0x0f`. -/
def low (b : UInt8) : Nat := b.toNat % 16

abbrev Parse (α : Type) := Checked PacketError α

def malformed {α : Type} (what : Str) : Parse α := fail (.malformed what)

def need (bytes : Bytes) (needed : Nat) : Parse Unit :=
  if bytes.length < needed then fail (.truncated needed bytes.length) else .ok ()

def beU16 (bytes : Bytes) : Parse UInt16 := do
  let a ← index bytes 0
  let b ← index bytes 1
  return u16OfBe a b

def beU32 (bytes : Bytes) : Parse UInt32 := do
  let a ← index bytes 0
  let b ← index bytes 1
  let c ← index bytes 2
  let d ← index bytes 3
  return u32OfBe a b c d

/-! ## IPv6 extension headers -/

/-- The length of the extension header at `offset`, and the header after it;
none when the header is a transport. -/
def extension (bytes : Bytes) (next : UInt8) (offset : Nat) : Parse (Option (Nat × UInt8)) :=
  if next = 0 ∨ next = 43 ∨ next = 60 then do
    need bytes (offset + 2)
    let units ← index bytes (offset + 1)
    let following ← index bytes offset
    return some ((units.toNat + 1) * 8, following)
  else if next = 44 then do
    need bytes (offset + 8)
    let fragment ← beU16 (← slice bytes (offset + 2) (offset + 4))
    if 8 ≤ fragment.toNat then malformed "non-first IPv6 fragment"
    else
      let following ← index bytes offset
      return some (8, following)
  else if next = 51 then do
    need bytes (offset + 2)
    let units ← index bytes (offset + 1)
    let following ← index bytes offset
    return some ((units.toNat + 2) * 4, following)
  else return none

/-- The turns of the loop over extension headers. -/
def walkExtensions (bytes : Bytes) (next : UInt8) (offset : Nat) : Nat → Parse (UInt8 × Nat)
  | 0 => malformed "too many IPv6 extension headers"
  | turns + 1 => do
    match ← extension bytes next offset with
    | none => return (next, offset)
    | some (length, following) =>
      if length = 0 then malformed "zero-length IPv6 extension"
      else
        match checkedAdd offset length with
        | none => malformed "IPv6 extension length overflow"
        | some offset => do
          need bytes offset
          walkExtensions bytes following offset turns

/-- The final next-header value and the transport offset. -/
def ipv6Transport (bytes : Bytes) : Parse (UInt8 × Nat) := do
  need bytes 40
  let next ← index bytes 6
  walkExtensions bytes next 40 16

/-! ## Quoted probes -/

def parseTransport (family : AddressFamily) (protocol : UInt8) (bytes : Bytes) (offset : Nat) :
    Parse ProbeKey := do
  need bytes (offset + 8)
  if protocol = 1 ∨ protocol = 58 then do
    let identifier ← beU16 (← slice bytes (offset + 4) (offset + 6))
    let sequence ← beU16 (← slice bytes (offset + 6) (offset + 8))
    return ProbeKey.icmp family identifier sequence
  else if protocol = 17 then do
    let source ← beU16 (← slice bytes offset (offset + 2))
    let destination ← beU16 (← slice bytes (offset + 2) (offset + 4))
    return ProbeKey.ports family .udp source destination
  else if protocol = 6 then do
    let source ← beU16 (← slice bytes offset (offset + 2))
    let destination ← beU16 (← slice bytes (offset + 2) (offset + 4))
    let sequence ← beU32 (← slice bytes (offset + 4) (offset + 8))
    return ProbeKey.tcp family source destination (some sequence)
  else malformed "unsupported quoted transport protocol"

def parseQuotedProbe (bytes : Bytes) : Parse ProbeKey := do
  need bytes 1
  let first ← index bytes 0
  if high first = 4 then do
    need bytes 20
    let headerLen := low first * 4
    if headerLen < 20 then malformed "invalid quoted IPv4 header length"
    else do
      let protocol ← index bytes 9
      parseTransport .ipv4 protocol bytes headerLen
  else if high first = 6 then do
    need bytes 40
    let (protocol, offset) ← ipv6Transport bytes
    parseTransport .ipv6 protocol bytes offset
  else fail (.unsupportedIpVersion (high first))

/-! ## MPLS labels -/

def mplsLabel (word : UInt32) : MplsLabel where
  label := UInt32.ofNat (word.toNat / 4096)
  trafficClass := UInt8.ofNat (word.toNat / 512 % 8)
  bottomOfStack := word.toNat / 256 % 2 == 1
  ttl := UInt8.ofNat word.toNat

/-- `as_chunks::<4>`: the words, without a remainder. -/
def words : Bytes → List UInt32
  | a :: b :: c :: d :: rest => u32OfBe a b c d :: words rest
  | _ => []

/-- The labels with those of one object, and whether there was one too many. -/
def pushLabels (labels : List MplsLabel) : List UInt32 → List MplsLabel × Bool
  | [] => (labels, false)
  | word :: rest =>
    if labels.length = MAX_MPLS_LABELS_PER_RESPONSE then (labels, true)
    else pushLabels (labels ++ [mplsLabel word]) rest

/-- The loop over the objects.  An object has at least four bytes, so there are
fewer turns than bytes: no input uses them up. -/
def mplsObjects (bytes : Bytes) (labels : List MplsLabel) (offset : Nat) :
    Nat → Parse (List MplsLabel)
  | 0 => panic
  | turns + 1 => do
    let remaining ← sub bytes.length offset
    if 4 ≤ remaining then do
      let length ← beU16 (← slice bytes offset (offset + 2))
      if length.toNat < 4 ∨ bytes.length < offset + length.toNat then
        malformed "invalid ICMP extension object length"
      else do
        let classNum ← index bytes (offset + 2)
        let cType ← index bytes (offset + 3)
        if classNum = 1 ∧ cType = 1 then do
          let entries ← slice bytes (offset + 4) (offset + length.toNat)
          match pushLabels labels (words entries) with
          | (labels, true) => return labels
          | (labels, false) => mplsObjects bytes labels (offset + length.toNat) turns
        else mplsObjects bytes labels (offset + length.toNat) turns
    else return labels

def parseMplsExtensions (bytes : Bytes) : Parse (List MplsLabel) := do
  need bytes 4
  let first ← index bytes 0
  let second ← index bytes 1
  if high first ≠ 2 ∨ low first ≠ 0 ∨ second ≠ 0 then
    malformed "ICMP extension version is not 2"
  else do
    let transmitted ← beU16 (← slice bytes 2 4)
    if transmitted ≠ 0 ∧ internetChecksum bytes ≠ 0 then malformed "invalid ICMP extension checksum"
    else mplsObjects bytes [] 4 bytes.length

def findMplsExtension (family : AddressFamily) (kind : IcmpKind) (icmp : Bytes) :
    Parse (List MplsLabel) :=
  if kind ≠ .timeExceeded ∧ kind ≠ .destinationUnreachable then .ok []
  else
    let units := (icmp[if family = .ipv4 then 5 else 4]?).getD 0
    let unitSize := if family = .ipv4 then 4 else 8
    let originalLength := if units = 0 then 128 else units.toNat * unitSize
    if originalLength < 128 then .ok []
    else if icmp.length < 8 + originalLength then .ok []
    else do
      let labels ← attempt (parseMplsExtensions (icmp.drop (8 + originalLength)))
      return labels.getD []

/-! ## Responses -/

def ipv4Source (bytes : Bytes) : Parse IpAddr := do
  let a ← index bytes 12
  let b ← index bytes 13
  let c ← index bytes 14
  let d ← index bytes 15
  return .v4 ⟨[a, b, c, d], rfl⟩

def ipv6Source (bytes : Bytes) : Parse IpAddr := do
  let octets ← exactly 16 (← slice bytes 8 24)
  return .v6 octets

def parseTcpSegment (family : AddressFamily) (source : Option IpAddr) (segment : Bytes) :
    Parse ParsedTcp := do
  need segment 20
  let sourcePort ← beU16 (← slice segment 0 2)
  let destinationPort ← beU16 (← slice segment 2 4)
  let sequence ← beU32 (← slice segment 4 8)
  let acknowledgment ← beU32 (← slice segment 8 12)
  let flags ← index segment 13
  return { family
           source
           sourcePort
           destinationPort
           sequence
           acknowledgment
           syn := flags &&& 2 != 0
           rst := flags &&& 4 != 0
           ack := flags &&& 16 != 0 }

def parseTcpResponse (bytes : Bytes) (expected : AddressFamily) : Parse ParsedTcp := do
  need bytes 20
  let first ← index bytes 0
  if high first = 4 then do
    let headerLen := low first * 4
    if headerLen < 20 then malformed "invalid IPv4 header length"
    else do
      need bytes (headerLen + 20)
      let protocol ← index bytes 9
      if protocol ≠ 6 then malformed "outer IPv4 packet is not TCP"
      else do
        let source ← ipv4Source bytes
        parseTcpSegment .ipv4 (some source) (← sliceFrom bytes headerLen)
  else if high first = 6 then do
    need bytes 40
    let (protocol, offset) ← ipv6Transport bytes
    if protocol ≠ 6 then malformed "outer IPv6 packet is not TCP"
    else do
      need bytes (offset + 20)
      let source ← ipv6Source bytes
      parseTcpSegment .ipv6 (some source) (← sliceFrom bytes offset)
  else parseTcpSegment expected none bytes

def stripOuterIp (bytes : Bytes) (expected : AddressFamily) :
    Parse (AddressFamily × Option IpAddr × Bytes) := do
  need bytes 1
  let first ← index bytes 0
  if high first = 4 then do
    need bytes 20
    let headerLen := low first * 4
    if headerLen < 20 then malformed "invalid IPv4 header length"
    else do
      need bytes (headerLen + 8)
      let protocol ← index bytes 9
      if protocol ≠ 1 then fail (.notIcmp protocol)
      else do
        let source ← ipv4Source bytes
        return (.ipv4, some source, ← sliceFrom bytes headerLen)
  else if high first = 6 then do
    need bytes 40
    let (protocol, offset) ← ipv6Transport bytes
    if protocol ≠ 58 then fail (.notIcmp protocol)
    else do
      need bytes (offset + 8)
      let source ← ipv6Source bytes
      return (.ipv6, some source, ← sliceFrom bytes offset)
  else if 8 ≤ bytes.length then return (expected, none, bytes)
  else fail (.unsupportedIpVersion (high first))

def icmpKind (family : AddressFamily) (type : UInt8) : IcmpKind :=
  match family, type.toNat with
  | .ipv4, 0 | .ipv6, 129 => .echoReply
  | .ipv4, 11 | .ipv6, 3 => .timeExceeded
  | .ipv4, 3 | .ipv6, 1 => .destinationUnreachable
  | .ipv6, 2 => .packetTooBig
  | .ipv4, 12 | .ipv6, 4 => .parameterProblem
  | _, _ => .other

def IcmpKind.quotes : IcmpKind → Bool
  | .timeExceeded | .destinationUnreachable | .packetTooBig | .parameterProblem => true
  | .echoReply | .other => false

/-- The identifier and sequence number of an echo reply. -/
def echoed (kind : IcmpKind) (icmp : Bytes) : Parse (Option UInt16 × Option UInt16) :=
  if kind = .echoReply then do
    let identifier ← beU16 (← slice icmp 4 6)
    let sequence ← beU16 (← slice icmp 6 8)
    return (some identifier, some sequence)
  else .ok (none, none)

def nextHopMtu (family : AddressFamily) (type code : UInt8) (icmp : Bytes) :
    Parse (Option UInt32) :=
  if family = .ipv4 ∧ type = 3 ∧ code = 4 then do
    let mtu ← beU16 (← slice icmp 6 8)
    return some mtu.toUInt32
  else if family = .ipv6 ∧ type = 2 then do
    let mtu ← beU32 (← slice icmp 4 8)
    return some mtu
  else .ok none

/-- The probe that an error message quotes, if it can be read. -/
def quoted (kind : IcmpKind) (icmp : Bytes) : Parse (Option ProbeKey) :=
  if kind.quotes then do
    let quote ← sliceFrom icmp 8
    attempt (parseQuotedProbe quote)
  else .ok none

/-- The message once it is free of an outer header. -/
def parseIcmpMessage (family : AddressFamily) (source : Option IpAddr) (icmp : Bytes) :
    Parse ParsedIcmp := do
  need icmp 8
  let type ← index icmp 0
  let code ← index icmp 1
  let kind := icmpKind family type
  let (echoedIdentifier, echoedSequence) ← echoed kind icmp
  let nextHopMtu ← nextHopMtu family type code icmp
  let quotedProbe ← quoted kind icmp
  let mplsLabels ← findMplsExtension family kind icmp
  return { family, source, kind, code, echoedIdentifier, echoedSequence, quotedProbe, nextHopMtu,
           mplsLabels }

def parseIcmpResponse (bytes : Bytes) (expectedFamily : AddressFamily) : Parse ParsedIcmp := do
  let (family, source, icmp) ← stripOuterIp bytes expectedFamily
  parseIcmpMessage family source icmp

end NetworkLantern.Packet
