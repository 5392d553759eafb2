import NetworkLantern.Lib.Dialogue
import NetworkLantern.Packet.Types
import NetworkLantern.Throughput.Metrics
import NetworkLantern.Throughput.Pacer

/-!
# The control connection

One measurement against an iperf3 server: the states that the server announces on the
control connection, the two documents in each direction, the data streams that are opened
in between and the outcomes of their loops.  `runTestOnce` is the whole of it.
-/

namespace NetworkLantern.Throughput

open NetworkLantern Act

def COOKIE_SIZE : Nat := 37
def PARAM_EXCHANGE : Int8 := 9
def CREATE_STREAMS : Int8 := 10
def SERVER_TERMINATE : Int8 := 11
def CLIENT_TERMINATE : Int8 := 12
def EXCHANGE_RESULTS : Int8 := 13
def DISPLAY_RESULTS : Int8 := 14
def IPERF_DONE : Int8 := 16
def ACCESS_DENIED : Int8 := -1
def SERVER_ERROR : Int8 := -2
def TEST_START : Int8 := 1
def TEST_RUNNING : Int8 := 2
def TEST_END : Int8 := 4
def UDP_CONNECT_REPLY : Bytes := [0x36, 0x37, 0x38, 0x39]
def UDP_LEGACY_REPLY_LE : Bytes := [0xb1, 0x68, 0xde, 0x3a]
def TCP_BLOCK_SIZE : Nat := 128 * 1024
def UDP_BLOCK_SIZE_V4 : Nat := 1460
def UDP_BLOCK_SIZE_V6 : Nat := 1440

def stateName (state : Int8) : Str :=
  if state = PARAM_EXCHANGE then "PARAM_EXCHANGE"
  else if state = CREATE_STREAMS then "CREATE_STREAMS"
  else if state = TEST_START then "TEST_START"
  else if state = TEST_RUNNING then "TEST_RUNNING"
  else if state = EXCHANGE_RESULTS then "EXCHANGE_RESULTS"
  else if state = DISPLAY_RESULTS then "DISPLAY_RESULTS"
  else if state = IPERF_DONE then "IPERF_DONE"
  else "known state"

/-- The limits of a client, which `with_limits` has checked. -/
structure Iperf3Client where
  connectTimeout : UInt64
  controlTimeout : UInt64
  maxControlJsonBytes : UInt64
  checked : checkLimits connectTimeout controlTimeout maxControlJsonBytes = .ok ()

namespace Iperf3Client

theorem new_checked : checkLimits 60000 60000 1048576 = .ok () := by decide

def new : Iperf3Client := ⟨60000, 60000, 1048576, new_checked⟩

def withLimits (connectTimeoutMs controlTimeoutMs maxControlJsonBytes : UInt64) :
    Except ThroughputError Iperf3Client :=
  match h : checkLimits connectTimeoutMs controlTimeoutMs maxControlJsonBytes with
  | .ok () => .ok ⟨connectTimeoutMs, controlTimeoutMs, maxControlJsonBytes, h⟩
  | .error e => .error e

theorem maximum_le (c : Iperf3Client) : c.maxControlJsonBytes.toNat ≤ 1048576 := by
  have h := (refuse_eq_ok _ _).mp c.checked
  simp only [Bool.or_eq_false_iff, Bool.not_eq_false', Bool.and_eq_true, decide_eq_true_eq] at h
  exact h.2.2

end Iperf3Client

/-- Why a phase ends before its reads and writes are done. -/
inductive Cut
  | cancelled
  | elapsed
  | failed (e : IoError)

/-- A data stream that stands. -/
structure DataStream where
  udp : Bool
  sender : Bool
deriving DecidableEq, Repr

/-- What the data loop of a stream may end with. -/
def LoopEnds (stream : DataStream) (id : UInt64) (r : Except TestFailure StreamOutcome) : Prop :=
  ∀ o, r = .ok o → o.id = id ∧ o.sender = stream.sender ∧ Produced o

/-- A run of `udp_send` that has come to its end. -/
structure SendRun where
  interval : Nat
  omitEnd : Nat
  endAt : Nat
  origin : Nat
  wall : Option Nat
  packet : Bytes
  events : List SendEvent
  ends : ∀ id durationSeconds, (UdpSender.udpSend interval omitEnd endAt origin wall packet events
    id durationSeconds).isSome = true

def SendRun.result (r : SendRun) (id : UInt64) (durationSeconds : Float) :
    Except TestFailure StreamOutcome :=
  (UdpSender.udpSend r.interval r.omitEnd r.endAt r.origin r.wall r.packet r.events id
    durationSeconds).get (r.ends id durationSeconds)

/-- What the data loop of a stream meets, whichever of the four it is. -/
structure LoopRun where
  tcp : List TcpEvent
  send : SendRun
  /-- What arrives before the omission is over. -/
  before : List UdpEvent
  after : List UdpEvent
  /-- The time since the omission when the loop ends. -/
  durationSeconds : Float

/-- The `match` on a stream in `run_data`. -/
def LoopRun.result (run : LoopRun) (stream : DataStream) (id : UInt64) :
    Except TestFailure StreamOutcome :=
  match stream.udp, stream.sender with
  | false, true => tcpSend id run.durationSeconds 0 run.tcp
  | false, false => tcpReceive id run.durationSeconds 0 run.tcp
  | true, true => run.send.result id run.durationSeconds
  | true, false => udpReceive id run.durationSeconds run.before run.after

/-- What a measurement meets besides the control connection. -/
structure Net where
  windows : Bool
  /-- The addresses that `lookup_host` finds. -/
  resolved : List Packet.IpAddr
  /-- The datagrams that arrive on the socket of the stream at an index. -/
  datagrams : Nat → List Bytes
  /-- What the data loop of the stream at an index meets. -/
  loops : Nat → LoopRun
  /-- The order in which the loops end. -/
  finished : List (DataStream × Nat) → List (DataStream × Nat)
  finished_perm : ∀ streams, (finished streams).Perm streams
  /-- `serde_json::from_slice`. -/
  fromSlice : Bytes → Except Str Json
  elapsedMs : Nat

/-- What the data loop of the stream at an index ends with, by its identifier. -/
def Net.loop (net : Net) (index : Nat) (stream : DataStream) (id : UInt64) :
    Except TestFailure StreamOutcome := (net.loops index).result stream id

abbrev Talk (α : Type) : Type := Act (Link Cut) TestFailure α

/-! ## Phases -/

/-- The failure of a phase under a time limit. -/
def Cut.failure (phase : Str) (timeoutMs : UInt64) (operation : Str) : Cut → TestFailure
  | cancelled => .cancelled
  | elapsed => .timeout phase timeoutMs
  | failed e => .io operation e

/-- A call of the system that is not waited for. -/
def sys (operation : Str) : Talk Unit :=
  call fun
    | .failed e => some (.io operation e)
    | _ => none

/-- `i32::from_be_bytes`. -/
def i32OfBe (bytes : Bytes) : Int32 := (UInt32.ofNat (beValue bytes)).toInt32

def serverError (codes : Bytes) : TestFailure :=
  .server (i32OfBe (codes.take 4)) (i32OfBe (codes.drop 4))

/-- `byte[0] as i8`. -/
def stateOf (byte : Bytes) : Int8 := (byte.headD 0).toInt8

def isConnectReply (datagram : Bytes) : Bool :=
  datagram == UDP_CONNECT_REPLY || datagram == UDP_LEGACY_REPLY_LE

def noReply : TestFailure := .unexpectedState 0 "UDP connect reply"

/-- Whether the client sends, for each group of streams. -/
def roles : Direction → List Bool
  | .tx => [true]
  | .rx => [false]
  | .bidirectional => [true, false]

def senders (spec : TestSpec) : List Bool :=
  (roles spec.direction).flatMap fun sender => List.replicate spec.streams.toNat sender

namespace Iperf3Client

variable (c : Iperf3Client) (net : Net)

/-- Waiting, in a phase, for something that is not on the control connection. -/
def wait (phase : Str) : Talk Unit := call fun k => some (k.failure phase c.controlTimeout phase)

def write (phase : Str) (bytes : Bytes) : Talk Unit :=
  writeAll (fun k => k.failure phase c.controlTimeout phase) bytes

def read (phase operation : Str) (n : Nat) : Talk Bytes :=
  readExact (fun
    | some k => k.failure phase c.controlTimeout operation
    | none => .io operation ⟨.unexpectedEof, "early eof"⟩) n

def expectState (expected : Int8) : Talk Unit := do
  let state := stateOf (← c.read "control state" "control state" 1)
  if state = ACCESS_DENIED then fail .serverBusy
  else if state = SERVER_TERMINATE then fail (.server SERVER_TERMINATE.toInt32 0)
  else if state = SERVER_ERROR then do
    let codes ← c.read "server error" "server error" 8
    fail (serverError codes)
  else if state = expected then pure ()
  else fail (.unexpectedState state (stateName expected))

def writeJson [Json.FloatText] (value : Json) : Talk Unit :=
  let encoded := value.render.bytes
  if c.maxControlJsonBytes.toNat < encoded.length ∨ 2 ^ 32 - 1 < encoded.length then
    fail (.controlMessageTooLarge encoded.length c.maxControlJsonBytes.toNat)
  else do
    c.write "control JSON write" (u32ToBe (.ofNat encoded.length))
    c.write "control JSON write" encoded

def readJson : Talk Json := do
  let first ← c.read "control JSON read" "control JSON read" 1
  if stateOf first = SERVER_ERROR then do
    let codes ← c.read "control JSON read" "server error" 8
    fail (serverError codes)
  else if stateOf first = ACCESS_DENIED then fail .serverBusy
  else do
    let rest ← c.read "control JSON read" "control JSON read" 3
    let length := beValue (first ++ rest)
    if c.maxControlJsonBytes.toNat < length then
      fail (.controlMessageTooLarge length c.maxControlJsonBytes.toNat)
    else do
      let encoded ← c.read "control JSON read" "control JSON read" length
      lift ((net.fromSlice encoded).mapError .invalidControlJson)

/-! ## Data streams -/

/-- `connect_tcp`. -/
def connectTcp (tos : UInt8) (window : Option UInt32) (phase : Str) : Talk Unit := do
  sys phase
  when (!net.windows && tos != 0) (sys "DSCP socket setup")
  when window.isSome do
    sys "TCP window setup"
    sys "TCP window setup"
  call fun k => some (k.failure phase c.connectTimeout phase)
  when (net.windows && tos != 0) (sys "Windows qWAVE DSCP setup")

/-- The receiving loop of `udp_handshake`, with the turns that are left. -/
def awaitReply (reverse : Bool) : Nat → List Bytes → Talk Unit
  | 0, _ => pure ()
  | turns + 1, datagrams => do
    c.wait "UDP stream handshake"
    match datagrams with
    | [] => fail (.timeout "UDP stream handshake" c.controlTimeout)
    | datagram :: datagrams =>
      if isConnectReply datagram then pure ()
      else if !reverse || decide (datagram.length < 16) || turns == 0 then fail noReply
      else awaitReply reverse turns datagrams

def udpHandshake (reverse : Bool) (datagrams : List Bytes) : Talk Unit := do
  c.wait "UDP stream handshake"
  c.awaitReply reverse (if reverse then 3 else 1) datagrams

def createStream (spec : TestSpec) (sender : Bool) (index : Nat) : Talk DataStream :=
  match spec.protocol with
  | .tcp => do
    c.connectTcp net spec.tos spec.tcpWindowBytes "TCP data connection"
    c.wait "TCP stream cookie"
    pure ⟨false, sender⟩
  | .udp => do
    sys "UDP bind"
    when (!net.windows && spec.tos != 0) (sys "DSCP socket setup")
    sys "UDP data connection"
    when (net.windows && spec.tos != 0) (sys "Windows qWAVE DSCP setup")
    c.udpHandshake (!sender) (net.datagrams index)
    pure ⟨true, sender⟩
  | .both => fail (.refused (.validation "a concrete TestSpec protocol cannot be both"))

def createStreams (spec : TestSpec) : Talk (List DataStream) :=
  collect (senders spec).zipIdx fun (sender, index) => c.createStream net spec sender index

end Iperf3Client

/-- The data streams of a test, the sending ones first. -/
def dataStreams (spec : TestSpec) : List DataStream :=
  (senders spec).map fun sender => ⟨decide (spec.protocol = .udp), sender⟩

/-- The identifier that the server gives the stream at an index. -/
def streamId (index : Nat) : UInt64 := if index = 0 then 1 else .ofNat (index + 2)

/-- `run_data`: the outcomes of the loops as these end, by identifier. -/
def runData (net : Net) (streams : List DataStream) : Except TestFailure (List StreamOutcome) := do
  let outcomes ← (net.finished streams.zipIdx).mapM fun (stream, index) =>
    net.loop index stream (streamId index)
  return outcomes.mergeSort fun a b => decide (a.id ≤ b.id)

/-! ## Documents -/

def udpBlockSize : Packet.IpAddr → Nat
  | .v4 _ => UDP_BLOCK_SIZE_V4
  | .v6 _ => UDP_BLOCK_SIZE_V6

def directionFields : Direction → List (Str × Json)
  | .tx => []
  | .rx => [("reverse", .bool true)]
  | .bidirectional => [("bidirectional", .bool true)]

def tosFields (tos : UInt8) : List (Str × Json) := if tos ≠ 0 then [("TOS", .ofU8 tos)] else []

def windowFields : Option UInt32 → List (Str × Json)
  | none => []
  | some window => [("window", .ofU32 window)]

def protocolFields (spec : TestSpec) (udpBlockSize : Nat) : List (Str × Json) :=
  if spec.protocol = .udp then
    [("udp", .bool true), ("bandwidth", .ofNat (spec.udpRateBps.getD 1000000)),
      ("len", .ofNat (.ofNat udpBlockSize)), ("udp_counters_64bit", .ofNat 1)]
  else [("tcp", .bool true), ("len", .ofNat (.ofNat TCP_BLOCK_SIZE))]

def commonFields (spec : TestSpec) : List (Str × Json) :=
  [("omit", .ofNat spec.omitSecs), ("time", .ofNat spec.durationSecs), ("num", .ofNat 0),
    ("blockcount", .ofNat 0), ("parallel", .ofU16 spec.streams),
    ("client_version", .string "network-lantern/0.1.0-alpha.1")]

def parameters (spec : TestSpec) (udpBlockSize : Nat) : Json :=
  .ofFields (commonFields spec ++ directionFields spec.direction ++ tosFields spec.tos ++
    windowFields spec.tcpWindowBytes ++ protocolFields spec udpBlockSize)

theorem minusOne_range : (-2 : Int) ^ 63 ≤ -1 ∧ (-1 : Int) < 0 := by decide

def minusOne : Json := .number (.negInt ⟨-1, minusOne_range⟩)

def StreamOutcome.toJson (o : StreamOutcome) : Json :=
  .ofFields
    [("id", .ofNat o.id), ("bytes", .ofNat o.bytes), ("retransmits", minusOne),
      ("jitter", .ofFloat o.jitterSeconds), ("errors", .ofNat o.wireErrors),
      ("packets", .ofNat o.wirePackets), ("start_time", .ofFloat 0),
      ("end_time", .ofFloat o.durationSeconds)]

def clientResults (outcomes : List StreamOutcome) : Json :=
  .ofFields
    [("cpu_util_total", .ofFloat (-1)), ("cpu_util_user", .ofFloat (-1)),
      ("cpu_util_system", .ofFloat (-1)), ("sender_has_retransmits", minusOne),
      ("streams", .array (outcomes.map StreamOutcome.toJson))]

def cookieAlphabet : Bytes := Str.bytes "abcdefghijklmnopqrstuvwxyz234567"

/-- `random_cookie`, with the draws of the generator. -/
def randomCookie (draws : Fin (COOKIE_SIZE - 1) → Fin 32) : Bytes :=
  List.ofFn (fun i => cookieAlphabet.getD (draws i) 0) ++ [0]

/-! ## A measurement -/

def noAddress (spec : TestSpec) : TestFailure :=
  .refused (.validation ("target '".toList ++ spec.target ++ "' has no address matching ".toList ++
    match spec.ipVersion with
    | .auto => "Auto".toList
    | .ipv4 => "Ipv4".toList
    | .ipv6 => "Ipv6".toList))

def matchesVersion (version : IpVersion) : Packet.IpAddr → Bool
  | .v4 _ => version != .ipv6
  | .v6 _ => version != .ipv4

namespace Iperf3Client

variable (c : Iperf3Client) (net : Net)

def resolve (spec : TestSpec) : Talk (List Packet.IpAddr) := do
  c.wait "name resolution"
  let addresses := net.resolved.filter (matchesVersion spec.ipVersion)
  if addresses = [] then fail (noAddress spec) else pure addresses

/-- The attempts to reach one address after the other, with the last failure. -/
def connectControl (spec : TestSpec) (last : Option TestFailure) :
    List Packet.IpAddr → Talk Packet.IpAddr
  | [] => fail (last.getD (noAddress spec))
  | address :: addresses => do
    match ← attempt (c.connectTcp net 0 none "control connection") with
    | .ok () => pure address
    | .error .cancelled => fail .cancelled
    | .error e => connectControl spec (some e) addresses

/-- The data phase.  The server learns that it failed, where it still listens. -/
def data (streams : List DataStream) : Talk (List StreamOutcome) :=
  match runData net streams with
  | .ok outcomes => pure outcomes
  | .error e => do
    let _ ← attempt (c.write "client terminate" [CLIENT_TERMINATE.toUInt8])
    fail e

variable [Json.FloatText]

def exchange (outcomes : List StreamOutcome) : Talk Json := do
  c.expectState EXCHANGE_RESULTS
  c.writeJson (clientResults outcomes)
  let serverResult ← c.readJson net
  c.expectState DISPLAY_RESULTS
  pure serverResult

/-- From the cookie to the running test. -/
def establish (spec : TestSpec) (cookie : Bytes) (address : Packet.IpAddr) :
    Talk (List DataStream) := do
  sys "control socket setup"
  c.write "control cookie" cookie
  c.expectState PARAM_EXCHANGE
  c.writeJson (parameters spec (udpBlockSize address))
  c.expectState CREATE_STREAMS
  let streams ← c.createStreams net spec
  c.expectState TEST_START
  c.expectState TEST_RUNNING
  pure streams

/-- From the end of the test to the result. -/
def conclude (spec : TestSpec) (retry : UInt8) (outcomes : List StreamOutcome) : Talk TestResult := do
  c.write "test end" [TEST_END.toUInt8]
  let serverResult ← c.exchange net outcomes
  c.write "completion state" [IPERF_DONE.toUInt8]
  lift (buildResult spec retry net.elapsedMs outcomes serverResult)

/-- `run_test_once`. -/
def runTestOnce (spec : TestSpec) (cookie : Bytes) (retry : UInt8) : Talk TestResult := do
  lift (spec.validate.mapError .refused)
  let addresses ← c.resolve net spec
  let address ← c.connectControl net spec none addresses
  let streams ← c.establish net spec cookie address
  let outcomes ← c.data net streams
  c.conclude net spec retry outcomes

end Iperf3Client

end NetworkLantern.Throughput
