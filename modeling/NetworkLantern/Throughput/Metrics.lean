import NetworkLantern.Lib.Serde
import NetworkLantern.Runtime.Contracts
import NetworkLantern.Throughput.Streams

/-!
# Results

`buildResult` puts the result of a measurement together from the outcomes of the
local streams and the document the peer sends.  Counters of the peer are summed
with a check; the packets of the local receivers are summed without one, so
that a result is sound exactly when these fit in 64 bits
(`buildResult_sound_iff`).
-/

namespace NetworkLantern.Throughput

open NetworkLantern

structure TestResult where
  spec : TestSpec
  attempts : UInt8
  elapsedMs : UInt64
  bytesSent : UInt64
  bytesReceived : UInt64
  txMbps : Option Float
  rxMbps : Option Float
  retransmits : Option UInt64
  lossPct : Option Float
  lossScope : Option Str
  jitterMs : Option Float
  serverResult : Str
  serverResultTruncated : Bool
  unavailableMetrics : List Str

def bad (message : Str) : TestFailure := .malformedResult message

def integer (value : Json) (key : Str) : Except TestFailure UInt64 :=
  match (value.get? key).bind Json.asU64 with
  | some n => .ok n
  | none => .error (bad ("Invalid ".toList ++ key ++ " counter".toList))

def number (value : Json) (key : Str) : Except TestFailure Float :=
  match ((value.get? key).bind Json.toFloat).filter fun x => x.isFinite && 0 ≤ x with
  | some x => .ok x
  | none => .error (bad ("Invalid ".toList ++ key ++ " metric".toList))

/-- `checked_add`. -/
def addChecked (a b : UInt64) (e : TestFailure) : Except TestFailure UInt64 :=
  if a.toNat + b.toNat < 2 ^ 64 then .ok (a + b) else .error e

/-- The rate of a number of bytes over a time. -/
def mbps (bytes : UInt64) (seconds : Float) : Float := bytes.toFloat * 8 / seconds / 1000000

/-! ## The streams of the peer -/

/-- What the loop over the streams of the peer keeps. -/
structure PeerTotals where
  ids : List UInt64
  bytes : UInt64
  rate : Float
  retransmits : Option UInt64

/-- `as_i64`, where it is not negative. -/
def retransmitsOf (stream : Json) : Option UInt64 :=
  ((stream.get? "retransmits").bind Json.asU64).filter fun n => n.toNat < 2 ^ 63

def addRetransmits (total : Option UInt64) (stream : Json) :
    Except TestFailure (Option UInt64) :=
  match retransmitsOf stream with
  | none => .ok total
  | some n => (addChecked (total.getD 0) n (bad "Retransmit counter overflow")).map some

/-- The loss counters of a stream, which only datagrams have. -/
def checkLoss (spec : TestSpec) (stream : Json) : Except TestFailure Unit :=
  if spec.protocol = .udp then do
    let packets ← integer stream "packets"
    let errors ← integer stream "errors"
    refuse (decide (packets < errors)) (bad "Peer loss count exceeds packets")
    let _ ← number stream "jitter"
    return ()
  else .ok ()

def takePeer (spec : TestSpec) (outcomes : List StreamOutcome) (acc : PeerTotals) (stream : Json) :
    Except TestFailure PeerTotals := do
  let id ← integer stream "id"
  refuse (acc.ids.contains id || !(outcomes.map StreamOutcome.id).contains id)
    (bad "Unknown or duplicate stream ID")
  let bytes ← integer stream "bytes"
  let total ← addChecked acc.bytes bytes (bad "Peer byte count overflow")
  let start ← number stream "start_time"
  let stop ← number stream "end_time"
  refuse (decide (stop ≤ start)) (bad "Non-positive peer measurement duration")
  let retransmits ← addRetransmits acc.retransmits stream
  checkLoss spec stream
  return {
    ids := acc.ids ++ [id]
    bytes := total
    rate := acc.rate + mbps bytes (stop - start)
    retransmits }

def peerStreams (serverResult : Json) : Except TestFailure (List Json) :=
  match (serverResult.get? "streams").bind Json.asArray with
  | some streams => .ok streams
  | none => .error (bad "Missing streams array")

def peerTotals (spec : TestSpec) (outcomes : List StreamOutcome) (streams : List Json) :
    Except TestFailure PeerTotals := do
  refuse (streams.length != outcomes.length)
    (bad "Peer stream count does not match established streams")
  streams.foldlM (takePeer spec outcomes) ⟨[], 0, 0, none⟩

/-! ## The local streams -/

def sumBytes (outcomes : List StreamOutcome) (sender : Bool) : Except TestFailure UInt64 :=
  (outcomes.filter fun o => o.sender == sender).foldlM
    (fun sum o => addChecked sum o.bytes (bad "Local byte count overflow")) 0

def sumRate (outcomes : List StreamOutcome) (sender : Bool) : Except TestFailure Float :=
  (outcomes.filter fun o => o.sender == sender).foldlM
    (fun sum o =>
      if !o.durationSeconds.isFinite || o.durationSeconds ≤ 0 then
        .error (bad "Invalid local measurement duration")
      else .ok (sum + mbps o.bytes o.durationSeconds)) 0

/-- Bytes and rates in both directions. -/
structure Volume where
  bytesSent : UInt64
  bytesReceived : UInt64
  txMbps : Float
  rxMbps : Float

def volume (spec : TestSpec) (outcomes : List StreamOutcome) (peer : PeerTotals) :
    Except TestFailure Volume :=
  match spec.direction with
  | .tx => do
    let sent ← sumBytes outcomes true
    return ⟨sent, peer.bytes, ← sumRate outcomes true, peer.rate⟩
  | .rx => do
    let received ← sumBytes outcomes false
    return ⟨peer.bytes, received, peer.rate, ← sumRate outcomes false⟩
  | .bidirectional => do
    let sent ← sumBytes outcomes true
    let received ← sumBytes outcomes false
    return ⟨sent, received, ← sumRate outcomes true, ← sumRate outcomes false⟩

/-! ## Loss and jitter -/

/-- `f64::max`. -/
def maxFloat (a b : Float) : Float :=
  if a.isNaN then b else if b.isNaN then a else if a < b then b else a

/-- `reduce(f64::max)`. -/
def maxOf : List Float → Option Float
  | [] => none
  | x :: xs => some (xs.foldl maxFloat x)

/-- `errors as f64 * 100.0 / packets as f64`, of at least one packet. -/
def lossPercent (errors packets : UInt64) : Option Float :=
  if 0 < packets then some (errors.toFloat * 100 / packets.toFloat) else none

/-- A checked sum over the streams of the peer. -/
def sumPeer (streams : List Json) (key message : Str) : Except TestFailure UInt64 :=
  streams.foldlM (fun sum s => do addChecked sum (← integer s key) (bad message)) 0

def receivers (outcomes : List StreamOutcome) : List StreamOutcome :=
  outcomes.filter fun o => !o.sender

/-- `sum::<u64>()`, which wraps around in a release build. -/
def sumUnchecked (counter : StreamOutcome → UInt64) (outcomes : List StreamOutcome) : UInt64 :=
  (outcomes.map counter).foldl (· + ·) 0

/-- `udp_metrics`: the percentage lost, and the jitter in milliseconds. -/
def udpMetrics (spec : TestSpec) (outcomes : List StreamOutcome) (remote : List Json) :
    Except TestFailure (Option Float × Option Float) :=
  if spec.protocol ≠ .udp then .ok (none, none)
  else if spec.direction ≠ .tx then
    .ok (lossPercent (sumUnchecked StreamOutcome.errors (receivers outcomes))
        (sumUnchecked StreamOutcome.packets (receivers outcomes)),
      (maxOf ((receivers outcomes).map StreamOutcome.jitterSeconds)).map (· * 1000))
  else do
    let packets ← sumPeer remote "packets" "Packet count overflow"
    let errors ← sumPeer remote "errors" "Loss count overflow"
    let jitter ← remote.mapM fun s => number s "jitter"
    return (lossPercent errors packets, (maxOf jitter).map (· * 1000))

/-! ## The result -/

def boundedDiagnostic (text : Str) (maximum : Nat) : Str × Bool :=
  if text.byteLen ≤ maximum then (text, false) else (Runtime.boundedText text maximum, true)

def lossScope (spec : TestSpec) : Option Str :=
  if spec.protocol = .udp then some (if spec.direction = .tx then "whole_run" else "post_omit")
  else none

def unavailableMetrics (spec : TestSpec) (retransmits : Option UInt64) : List Str :=
  (if spec.protocol = .udp ∧ spec.direction = .tx ∧ 0 < spec.omitSecs then
    ["Post-omission receiver loss: iperf3 control results omit the receiver's warm-up loss baseline"]
  else []) ++
  (if spec.protocol = .tcp ∧ retransmits = none then
    ["TCP sender retransmit counter not supplied by the peer"]
  else [])

variable [Json.FloatText]

def buildResult (spec : TestSpec) (attempts : UInt8) (elapsedMs : Nat)
    (outcomes : List StreamOutcome) (serverResult : Json) : Except TestFailure TestResult := do
  let streams ← peerStreams serverResult
  let peer ← peerTotals spec outcomes streams
  let volume ← volume spec outcomes peer
  let (lossPct, jitterMs) ← udpMetrics spec outcomes streams
  let diagnostic := boundedDiagnostic serverResult.render (16 * 1024)
  return {
    spec
    attempts
    elapsedMs := .ofNat (min elapsedMs (2 ^ 64 - 1))
    bytesSent := volume.bytesSent
    bytesReceived := volume.bytesReceived
    txMbps := some volume.txMbps
    rxMbps := some volume.rxMbps
    retransmits := peer.retransmits
    lossPct
    lossScope := lossScope spec
    jitterMs
    serverResult := diagnostic.1
    serverResultTruncated := diagnostic.2
    unavailableMetrics := unavailableMetrics spec peer.retransmits }

end NetworkLantern.Throughput
