import NetworkLantern.Throughput.Config

/-!
# The throughput planner

`plan` checks a configuration and counts the measurements it stands for; the
measurements themselves are enumerated one at a time (`TestPlanIter`).
-/

namespace NetworkLantern.Throughput

open NetworkLantern

inductive ThroughputError
  | validation (message : Str)
  | budgetExceeded (planned maximum : Nat)
deriving DecidableEq

def ThroughputError.display : ThroughputError → Str
  | .validation message => "invalid throughput configuration: ".toList ++ message
  | .budgetExceeded planned maximum =>
    "planned test count ".toList ++ decimal planned ++ " exceeds MaxTotalTests ".toList ++
      decimal maximum

inductive TestPhase
  | tcpMatrix | udpFixed | udpSaturation | single
deriving DecidableEq, Repr

structure TestSpec where
  id : UInt64
  target : Str
  port : UInt16
  ipVersion : IpVersion
  protocol : Protocol
  direction : Direction
  dscp : DscpClass
  tos : UInt8
  streams : UInt16
  tcpWindowBytes : Option UInt32
  udpRateBps : Option UInt64
  durationSecs : UInt64
  omitSecs : UInt64
  phase : TestPhase
deriving DecidableEq

def Direction.name : Direction → Str
  | .tx => "tx"
  | .rx => "rx"
  | .bidirectional => "bidirectional"

def TestPhase.name : TestPhase → Str
  | .tcpMatrix => "tcp_matrix"
  | .udpFixed => "udp_fixed"
  | .udpSaturation => "udp_saturation"
  | .single => "single"

def TestSpec.toJson (s : TestSpec) : Json :=
  .object
    [("id", .ofNat s.id),
     ("target", .string s.target),
     ("port", .ofU16 s.port),
     ("ip_version", .string s.ipVersion.name),
     ("protocol", .string s.protocol.name),
     ("direction", .string s.direction.name),
     ("dscp", .string s.dscp.name),
     ("tos", .ofU8 s.tos),
     ("streams", .ofU16 s.streams),
     ("tcp_window_bytes", .ofOption .ofU32 s.tcpWindowBytes),
     ("udp_rate_bps", .ofOption .ofNat s.udpRateBps),
     ("duration_secs", .ofNat s.durationSecs),
     ("omit_secs", .ofNat s.omitSecs),
     ("phase", .string s.phase.name)]

structure ThroughputPlan where
  config : SuiteConfig
  capabilities : ServerCapabilities
  totalTests : Nat
  estimatedTestSeconds : Nat
  maxTotalTests : Option UInt64
  withinBudget : Bool
deriving DecidableEq

def validTarget (target : Str) : Bool :=
  !target.isEmpty && decide (target.byteLen ≤ 253) &&
    !target.any fun c => Str.isWhitespace c || Str.isControl c ||
      ['/', '\\', ';', '&', '|', '`', '$'].contains c

/-- `validate_spec`. -/
def TestSpec.validate (s : TestSpec) : Except ThroughputError Unit := do
  refuse (s.id == 0 || Str.isBlank s.target || !validTarget s.target || s.port == 0 ||
      !(decide (1 ≤ s.durationSecs) && decide (s.durationSecs ≤ 3600)) ||
      decide (60 < s.omitSecs) || s.streams == 0 || decide (128 < s.streams) || s.tos != s.dscp.tos)
    (.validation "invalid concrete test specification")
  refuse (s.protocol = .both) (.validation "a concrete test cannot use protocol both")
  refuse (s.protocol = .udp &&
      (s.udpRateBps.getD 0 == 0 || decide (MAX_UDP_RATE_BPS < s.udpRateBps.getD 0)))
    (.validation ("UDP tests require a rate between 1 and ".toList ++
      decimal MAX_UDP_RATE_BPS.toNat ++ " bits per second".toList))

/-- The checks of `Iperf3Client::with_limits`. -/
def checkLimits (connectTimeoutMs controlTimeoutMs maxControlJsonBytes : UInt64) :
    Except ThroughputError Unit :=
  refuse (!(decide (1 ≤ connectTimeoutMs) && decide (connectTimeoutMs ≤ MAX_CLIENT_TIMEOUT_MS)) ||
      !(decide (1 ≤ controlTimeoutMs) && decide (controlTimeoutMs ≤ MAX_CLIENT_TIMEOUT_MS)) ||
      !(decide (2 ≤ maxControlJsonBytes) && decide (maxControlJsonBytes ≤ 1048576)))
    (.validation ("client timeouts must be between 1 and ".toList ++
      decimal MAX_CLIENT_TIMEOUT_MS.toNat ++
      " ms and max_control_json_bytes between 2 and 1048576".toList))

def validate (config : SuiteConfig) : Except ThroughputError Unit := do
  refuse (!validTarget config.target)
    (.validation "target must be a valid hostname or IP address up to 253 bytes")
  refuse (config.port == 0) (.validation "port must be between 1 and 65535")
  refuse (!(decide (1 ≤ config.durationSecs) && decide (config.durationSecs ≤ 3600)))
    (.validation "duration_secs must be between 1 and 3600")
  refuse (config.maxTotalTests.any fun n => decide (1000000 < n))
    (.validation "max_total_tests must be in 0..=1000000")
  refuse (decide (60 < config.omitSecs)) (.validation "omit_secs must be at most 60")
  refuse (config.mtuSizes.isEmpty || decide (128 < config.mtuSizes.length) ||
      config.mtuSizes.any fun n => n == 0 || decide (65500 < n))
    (.validation "mtu_sizes must contain 1–128 payload sizes in 1..=65500")
  refuse config.dscpClasses.isEmpty (.validation "at least one DSCP class is required")
  refuse (config.tcpStreams.isEmpty || decide (128 < config.tcpStreams.length) ||
      config.tcpStreams.any fun n => !(decide (1 ≤ n) && decide (n ≤ 128)))
    (.validation "tcp_streams must contain values between 1 and 128")
  refuse (config.tcpWindowsBytes.isEmpty || decide (128 < config.tcpWindowsBytes.length))
    (.validation "tcp_windows_bytes must not be empty")
  refuse (config.udpStartBps == 0 || config.udpStepBps == 0)
    (.validation "UDP start and step rates must be greater than zero")
  refuse (decide (MAX_UDP_RATE_BPS < config.udpStartBps) ||
      decide (MAX_UDP_RATE_BPS < config.udpMaxBps) || decide (MAX_UDP_RATE_BPS < config.udpStepBps))
    (.validation ("UDP rates must not exceed ".toList ++ decimal MAX_UDP_RATE_BPS.toNat ++
      " bits per second".toList))
  refuse (!config.udpLossThresholdPct.isFinite ||
      !(decide (0.0 ≤ config.udpLossThresholdPct) && decide (config.udpLossThresholdPct ≤ 100.0)))
    (.validation "udp_loss_threshold_pct must be finite and between 0 and 100")
  refuse (decide (5 < config.retry.maxRetries)) (.validation "retry.max_retries must be at most 5")
  refuse (decide (21 < config.dscpClasses.length))
    (.validation "dscp_classes contains more values than the 21 supported classes")
  refuse (!(decide (1 ≤ config.connectTimeoutMs) &&
        decide (config.connectTimeoutMs ≤ MAX_CLIENT_TIMEOUT_MS)) ||
      !(decide (1 ≤ config.controlTimeoutMs) &&
        decide (config.controlTimeoutMs ≤ MAX_CLIENT_TIMEOUT_MS)) ||
      !(decide (2 ≤ config.maxControlJsonBytes) && decide (config.maxControlJsonBytes ≤ 1048576)))
    (.validation ("timeouts must be between 1 and ".toList ++ decimal MAX_CLIENT_TIMEOUT_MS.toNat ++
      " ms and max_control_json_bytes between 2 and 1048576".toList))

/-! ## Counting

No product below can leave the range of 64 bits: each list has at most 128
entries, and there are at most 21 classes and 1000 steps. -/

def directionCount (capabilities : ServerCapabilities) : Nat :=
  if capabilities.bidirectional then 3 else 2

def dscpCount (config : SuiteConfig) : Nat :=
  if config.singleTest then 1 else config.dscpClasses.length

def tcpPerDscp (config : SuiteConfig) (capabilities : ServerCapabilities) : Nat :=
  if config.protocol = .udp || config.singleTest then 0
  else directionCount capabilities * config.tcpStreams.length * config.tcpWindowsBytes.length

def saturationSteps (config : SuiteConfig) : Nat :=
  if config.protocol = .tcp || config.singleTest || decide (config.udpMaxBps ≤ config.udpStartBps)
  then 0
  else min ((config.udpMaxBps.toNat - config.udpStartBps.toNat) / config.udpStepBps.toNat + 1) 1000

def udpPerDscp (config : SuiteConfig) : Nat :=
  if config.protocol = .tcp || config.singleTest then 0 else 2 + 2 * saturationSteps config

def totalTests (config : SuiteConfig) (capabilities : ServerCapabilities) : Nat :=
  if config.singleTest then 1
  else dscpCount config * (tcpPerDscp config capabilities + udpPerDscp config)

/-- The budget, where 0 stands for none. -/
def budget (config : SuiteConfig) : Option UInt64 := config.maxTotalTests.filter (· ≠ 0)

def u64Max : Nat := 2 ^ 64 - 1

def plan (config : SuiteConfig) (capabilities : ServerCapabilities) :
    Except ThroughputError ThroughputPlan := do
  validate config
  let total := totalTests config capabilities
  refuse ((budget config).any fun maximum => decide (maximum.toNat < total))
    (.budgetExceeded total ((budget config).getD 0).toNat)
  return { config
           capabilities
           totalTests := total
           estimatedTestSeconds :=
             min (total * min (config.durationSecs.toNat + config.omitSecs.toNat) u64Max) u64Max
           maxTotalTests := budget config
           withinBudget := true }

theorem plan_ok {config : SuiteConfig} {capabilities : ServerCapabilities} {p : ThroughputPlan}
    (h : plan config capabilities = .ok p) :
    validate config = .ok () ∧ p.config = config ∧ p.capabilities = capabilities := by
  obtain ⟨_, hvalid, h⟩ := except_bind_ok.mp h
  obtain ⟨_, h⟩ := refuse_bind_ok.mp h
  cases h
  exact ⟨hvalid, rfl, rfl⟩

/-- An accepted loss threshold is a number. -/
theorem validate_finite {config : SuiteConfig} (h : validate config = .ok ()) :
    config.udpLossThresholdPct.isFinite = true := by
  iterate 11 obtain ⟨-, h⟩ := refuse_bind_ok.mp h
  obtain ⟨hloss, -⟩ := refuse_bind_ok.mp h
  rw [Bool.or_eq_false_iff, Bool.not_eq_false'] at hloss
  exact hloss.1

/-! ## Enumeration -/

structure TestPlanIter where
  plan : ThroughputPlan
  nextId : Nat
  dscp : Nat
  stage : Nat
  direction : Nat
  stream : Nat
  window : Nat
  saturationStep : Nat
  emittedSingle : Bool

/-- `ThroughputPlan::tests`. -/
def ThroughputPlan.tests (p : ThroughputPlan) : TestPlanIter := ⟨p, 1, 0, 0, 0, 0, 0, 0, false⟩

structure PlanCase where
  protocol : Protocol
  direction : Direction
  dscp : DscpClass
  streams : UInt16
  window : Option UInt32
  udpRate : Option UInt64
  phase : TestPhase

namespace TestPlanIter

def spec (it : TestPlanIter) (c : PlanCase) : TestSpec × TestPlanIter :=
  ({ id := UInt64.ofNat it.nextId
     target := it.plan.config.target
     port := it.plan.config.port
     ipVersion := it.plan.config.ipVersion
     protocol := c.protocol
     direction := c.direction
     dscp := c.dscp
     tos := c.dscp.tos
     streams := c.streams
     tcpWindowBytes := c.window
     udpRateBps := c.udpRate
     durationSecs := it.plan.config.durationSecs
     omitSecs := it.plan.config.omitSecs
     phase := c.phase },
   { it with nextId := it.nextId + 1 })

def directions (it : TestPlanIter) : List Direction :=
  if it.plan.capabilities.bidirectional then [.tx, .rx, .bidirectional] else [.tx, .rx]

/-- `[Direction::Tx, Direction::Rx]`, indexed. -/
def udpDirection : Nat → Direction
  | 0 => .tx
  | _ => .rx

/-- The matrix counters after one TCP test: windows within streams within directions. -/
def advanceMatrix (it : TestPlanIter) : TestPlanIter :=
  let cfg := it.plan.config
  if it.window + 1 = cfg.tcpWindowsBytes.length then
    if it.stream + 1 = cfg.tcpStreams.length then
      { it with window := 0, stream := 0, direction := it.direction + 1 }
    else { it with window := 0, stream := it.stream + 1 }
  else { it with window := it.window + 1 }

/-- The rate of a saturation step, in `u64` with saturation. -/
def saturationRate (cfg : SuiteConfig) (step : Nat) : UInt64 :=
  UInt64.ofNat (min (cfg.udpStartBps.toNat + min (cfg.udpStepBps.toNat * step) u64Max) u64Max)

/-- The saturation steps of a class, both directions at each rate; then the next class. -/
def saturationTurn (it : TestPlanIter) (dscp : DscpClass) : Option TestSpec × TestPlanIter :=
  let cfg := it.plan.config
  let steps :=
    min ((cfg.udpMaxBps.toNat - cfg.udpStartBps.toNat) / cfg.udpStepBps.toNat + 1) 1000
  if cfg.protocol ≠ .tcp ∧ cfg.udpStartBps < cfg.udpMaxBps ∧ it.saturationStep < steps then
    let advanced := if it.direction + 1 = 2
      then { it with direction := 0, saturationStep := it.saturationStep + 1 }
      else { it with direction := it.direction + 1 }
    let (spec, rest) := advanced.spec
      { protocol := .udp
        direction := udpDirection it.direction
        dscp
        streams := 1
        window := none
        udpRate := some (saturationRate cfg it.saturationStep)
        phase := .udpSaturation }
    (some spec, rest)
  else (none, { it with dscp := it.dscp + 1, stage := 0, direction := 0, saturationStep := 0 })

/-- The fixed-rate tests of a class, then its saturation steps. -/
def udpTurn (it : TestPlanIter) (dscp : DscpClass) : Option TestSpec × TestPlanIter :=
  let cfg := it.plan.config
  if it.stage = 1 ∧ cfg.protocol ≠ .tcp ∧ it.direction < 2 then
    let (spec, rest) := { it with direction := it.direction + 1 }.spec
      { protocol := .udp
        direction := udpDirection it.direction
        dscp
        streams := 1
        window := none
        udpRate := some cfg.udpStartBps
        phase := .udpFixed }
    (some spec, rest)
  else saturationTurn (if it.stage = 1 then { it with stage := 2, direction := 0 } else it) dscp

/-- What one turn of the loop in `next` does at DSCP class `dscp`: a test, or
on to the next stage or class. -/
def turn (it : TestPlanIter) (dscp : DscpClass) : Option TestSpec × TestPlanIter :=
  let cfg := it.plan.config
  if it.stage = 0 ∧ cfg.protocol ≠ .udp ∧ it.direction < it.directions.length then
    let (spec, rest) := it.spec
      { protocol := .tcp
        direction := it.directions.getD it.direction .tx
        dscp
        streams := cfg.tcpStreams.getD it.stream 0
        window := cfg.tcpWindowsBytes.getD it.window none
        udpRate := none
        phase := .tcpMatrix }
    (some spec, rest.advanceMatrix)
  else udpTurn (if it.stage = 0 then { it with stage := 1, direction := 0 } else it) dscp

/-- The loop of `next`; a class can be left once for each class that remains. -/
def nextFrom (it : TestPlanIter) : Nat → Option TestSpec × TestPlanIter
  | 0 => (none, it)
  | classes + 1 =>
    match it.plan.config.dscpClasses[it.dscp]? with
    | none => (none, it)
    | some dscp =>
      match it.turn dscp with
      | (some spec, it) => (some spec, it)
      | (none, it) => it.nextFrom classes

/-- `Iterator::next`. -/
def next (it : TestPlanIter) : Option TestSpec × TestPlanIter :=
  let cfg := it.plan.config
  if cfg.singleTest then
    if it.emittedSingle then (none, it)
    else
      let protocol : Protocol := if cfg.protocol = .udp then .udp else .tcp
      let (spec, it) := { it with emittedSingle := true }.spec
        { protocol
          direction := .tx
          dscp := cfg.dscpClasses.headD .cs0
          streams := 1
          window := none
          udpRate := if cfg.protocol = Protocol.udp then some cfg.udpStartBps else none
          phase := .single }
      (some spec, it)
  else it.nextFrom (cfg.dscpClasses.length + 1)

/-- At most `n` items. -/
def take (it : TestPlanIter) : Nat → List TestSpec
  | 0 => []
  | n + 1 =>
    match it.next with
    | (some spec, it) => spec :: it.take n
    | (none, _) => []

end TestPlanIter

end NetworkLantern.Throughput
