import NetworkLantern.Lib.Serde

/-!
# Throughput configurations

The configuration of a measurement suite, its defaults, and how it is written
as JSON and read back.
-/

namespace NetworkLantern.Throughput

open NetworkLantern

def MAX_UDP_RATE_BPS : UInt64 := 10000000000
def MAX_CLIENT_TIMEOUT_MS : UInt64 := 300000

inductive Protocol
  | tcp | udp | both
deriving DecidableEq, Repr

inductive Direction
  | tx | rx | bidirectional
deriving DecidableEq, Repr

inductive DscpClass
  | cs0 | cs1 | cs2 | cs3 | cs4
  | af11 | af12 | af13 | af21 | af22 | af23 | af31 | af32 | af33 | af41 | af42 | af43
  | cs5 | cs6 | cs7 | ef
deriving DecidableEq, Repr

def DscpClass.tos : DscpClass → UInt8
  | .cs0 => 0
  | .cs1 => 32
  | .cs2 => 64
  | .cs3 => 96
  | .cs4 => 128
  | .af11 => 40
  | .af12 => 48
  | .af13 => 56
  | .af21 => 72
  | .af22 => 80
  | .af23 => 88
  | .af31 => 104
  | .af32 => 112
  | .af33 => 120
  | .af41 => 136
  | .af42 => 144
  | .af43 => 152
  | .cs5 => 160
  | .cs6 => 192
  | .cs7 => 224
  | .ef => 184

inductive IpVersion
  | auto | ipv4 | ipv6
deriving DecidableEq, Repr

structure RetryPolicy where
  maxRetries : UInt8
  backoffMs : UInt64
deriving DecidableEq

/-- `RetryPolicy::default()`. -/
def RetryPolicy.default : RetryPolicy := ⟨0, 2000⟩

structure ServerCapabilities where
  bidirectional : Bool
deriving DecidableEq, Repr

/-- `ServerCapabilities::default()`. -/
def ServerCapabilities.default : ServerCapabilities := ⟨true⟩

structure SuiteConfig where
  target : Str
  skipReachabilityCheck : Bool
  disableMtuProbe : Bool
  mtuSizes : List UInt16
  port : UInt16
  durationSecs : UInt64
  omitSecs : UInt64
  protocol : Protocol
  singleTest : Bool
  udpStartBps : UInt64
  udpMaxBps : UInt64
  udpStepBps : UInt64
  udpLossThresholdPct : Float
  tcpStreams : List UInt16
  tcpWindowsBytes : List (Option UInt32)
  dscpClasses : List DscpClass
  ipVersion : IpVersion
  retry : RetryPolicy
  maxTotalTests : Option UInt64
  connectTimeoutMs : UInt64
  controlTimeoutMs : UInt64
  maxControlJsonBytes : UInt64
deriving DecidableEq

/-- `SuiteConfig::default()`. -/
def SuiteConfig.default : SuiteConfig where
  target := []
  skipReachabilityCheck := false
  disableMtuProbe := false
  mtuSizes := [1400, 1472, 1600]
  port := 5201
  durationSecs := 10
  omitSecs := 1
  protocol := .both
  singleTest := false
  udpStartBps := 1000000
  udpMaxBps := 1000000000
  udpStepBps := 10000000
  udpLossThresholdPct := 5.0
  tcpStreams := [1, 4, 8]
  tcpWindowsBytes := [none, some (128 * 1024), some (256 * 1024)]
  dscpClasses := [.cs0, .af11, .cs5, .ef, .af41]
  ipVersion := .auto
  retry := .default
  maxTotalTests := none
  connectTimeoutMs := 60000
  controlTimeoutMs := 60000
  maxControlJsonBytes := 1024 * 1024

/-! ## JSON -/

def Protocol.name : Protocol → Str
  | .tcp => "tcp"
  | .udp => "udp"
  | .both => "both"

def Protocol.names : List (Str × Protocol) := [.tcp, .udp, .both].map fun p => (p.name, p)

def IpVersion.name : IpVersion → Str
  | .auto => "auto"
  | .ipv4 => "ipv4"
  | .ipv6 => "ipv6"

def IpVersion.names : List (Str × IpVersion) := [.auto, .ipv4, .ipv6].map fun v => (v.name, v)

def DscpClass.name : DscpClass → Str
  | .cs0 => "CS0"
  | .cs1 => "CS1"
  | .cs2 => "CS2"
  | .cs3 => "CS3"
  | .cs4 => "CS4"
  | .af11 => "AF11"
  | .af12 => "AF12"
  | .af13 => "AF13"
  | .af21 => "AF21"
  | .af22 => "AF22"
  | .af23 => "AF23"
  | .af31 => "AF31"
  | .af32 => "AF32"
  | .af33 => "AF33"
  | .af41 => "AF41"
  | .af42 => "AF42"
  | .af43 => "AF43"
  | .cs5 => "CS5"
  | .cs6 => "CS6"
  | .cs7 => "CS7"
  | .ef => "EF"

def DscpClass.all : List DscpClass :=
  [.cs0, .cs1, .cs2, .cs3, .cs4, .af11, .af12, .af13, .af21, .af22, .af23, .af31, .af32, .af33,
    .af41, .af42, .af43, .cs5, .cs6, .cs7, .ef]

def DscpClass.names : List (Str × DscpClass) := DscpClass.all.map fun c => (c.name, c)

def RetryPolicy.fields (r : RetryPolicy) : List (Str × Json) :=
  [("max_retries", .ofU8 r.maxRetries), ("backoff_ms", .ofNat r.backoffMs)]

def RetryPolicy.toJson (r : RetryPolicy) : Json := .ofFields r.fields

/-- From an object, or from a sequence of the two fields. -/
def RetryPolicy.ofJson : Json → Option RetryPolicy
  | .object entries => do
    let maxRetries ← Json.required Json.toU8 entries "max_retries"
    let backoffMs ← Json.required Json.asU64 entries "backoff_ms"
    return ⟨maxRetries, backoffMs⟩
  | .array [maxRetries, backoffMs] => do return ⟨← maxRetries.toU8, ← backoffMs.asU64⟩
  | _ => none

def SuiteConfig.fields (c : SuiteConfig) : List (Str × Json) :=
  [("target", .string c.target),
   ("skip_reachability_check", .bool c.skipReachabilityCheck),
   ("disable_mtu_probe", .bool c.disableMtuProbe),
   ("mtu_sizes", .ofList .ofU16 c.mtuSizes),
   ("port", .ofU16 c.port),
   ("duration_secs", .ofNat c.durationSecs),
   ("omit_secs", .ofNat c.omitSecs),
   ("protocol", .string c.protocol.name),
   ("single_test", .bool c.singleTest),
   ("udp_start_bps", .ofNat c.udpStartBps),
   ("udp_max_bps", .ofNat c.udpMaxBps),
   ("udp_step_bps", .ofNat c.udpStepBps),
   ("udp_loss_threshold_pct", .ofFloat c.udpLossThresholdPct),
   ("tcp_streams", .ofList .ofU16 c.tcpStreams),
   ("tcp_windows_bytes", .ofList (.ofOption .ofU32) c.tcpWindowsBytes),
   ("dscp_classes", .ofList (fun d => .string d.name) c.dscpClasses),
   ("ip_version", .string c.ipVersion.name),
   ("retry", c.retry.toJson),
   ("max_total_tests", .ofOption .ofNat c.maxTotalTests),
   ("connect_timeout_ms", .ofNat c.connectTimeoutMs),
   ("control_timeout_ms", .ofNat c.controlTimeoutMs),
   ("max_control_json_bytes", .ofNat c.maxControlJsonBytes)]

/-- `serde_json::to_value`. -/
def SuiteConfig.toEntries (c : SuiteConfig) : Entries Json := Entries.ofFields c.fields

/-- `serde_json::from_value` of an object. -/
def SuiteConfig.ofEntries (e : Entries Json) : Option SuiteConfig := do
  let target ← Json.required Json.asStr e "target"
  let skipReachabilityCheck ← Json.required Json.asBool e "skip_reachability_check"
  let disableMtuProbe ← Json.required Json.asBool e "disable_mtu_probe"
  let mtuSizes ← Json.required (Json.toList Json.toU16) e "mtu_sizes"
  let port ← Json.required Json.toU16 e "port"
  let durationSecs ← Json.required Json.asU64 e "duration_secs"
  let omitSecs ← Json.required Json.asU64 e "omit_secs"
  let protocol ← Json.required (Json.toVariant Protocol.names) e "protocol"
  let singleTest ← Json.required Json.asBool e "single_test"
  let udpStartBps ← Json.required Json.asU64 e "udp_start_bps"
  let udpMaxBps ← Json.required Json.asU64 e "udp_max_bps"
  let udpStepBps ← Json.required Json.asU64 e "udp_step_bps"
  let udpLossThresholdPct ← Json.required Json.toFloat e "udp_loss_threshold_pct"
  let tcpStreams ← Json.required (Json.toList Json.toU16) e "tcp_streams"
  let tcpWindowsBytes ← Json.required (Json.toList (Json.toOption Json.toU32)) e "tcp_windows_bytes"
  let dscpClasses ← Json.required (Json.toList (Json.toVariant DscpClass.names)) e "dscp_classes"
  let ipVersion ← Json.required (Json.toVariant IpVersion.names) e "ip_version"
  let retry ← Json.required RetryPolicy.ofJson e "retry"
  let maxTotalTests ← Json.required (Json.toOption Json.asU64) e "max_total_tests"
  let connectTimeoutMs ← Json.required Json.asU64 e "connect_timeout_ms"
  let controlTimeoutMs ← Json.required Json.asU64 e "control_timeout_ms"
  let maxControlJsonBytes ← Json.required Json.asU64 e "max_control_json_bytes"
  return { target, skipReachabilityCheck, disableMtuProbe, mtuSizes, port, durationSecs, omitSecs,
           protocol, singleTest, udpStartBps, udpMaxBps, udpStepBps, udpLossThresholdPct,
           tcpStreams, tcpWindowsBytes, dscpClasses, ipVersion, retry, maxTotalTests,
           connectTimeoutMs, controlTimeoutMs, maxControlJsonBytes }

/-- What `max_total_tests` is read from. -/
theorem SuiteConfig.ofEntries_maxTotalTests {e : Entries Json} {c : SuiteConfig}
    (h : ofEntries e = some c) :
    Json.required (Json.toOption Json.asU64) e "max_total_tests" = some c.maxTotalTests := by
  unfold ofEntries at h
  iterate 18 obtain ⟨_, -, h⟩ := Option.bind_eq_some_iff.mp h
  obtain ⟨_, hmax, h⟩ := Option.bind_eq_some_iff.mp h
  iterate 3 obtain ⟨_, -, h⟩ := Option.bind_eq_some_iff.mp h
  cases h
  exact hmax

/-! ## Round trips -/

theorem toVariant_protocol (p : Protocol) :
    Json.toVariant Protocol.names (.string p.name) = some p := by
  cases p <;> rfl

theorem toVariant_ipVersion (v : IpVersion) :
    Json.toVariant IpVersion.names (.string v.name) = some v := by
  cases v <;> rfl

theorem toVariant_dscpClass (d : DscpClass) :
    Json.toVariant DscpClass.names (.string d.name) = some d := by
  cases d <;> rfl

theorem RetryPolicy.ofJson_toJson (r : RetryPolicy) : ofJson r.toJson = some r := by
  have hn : (r.fields.map Prod.fst).Nodup := by
    have hkeys : r.fields.map Prod.fst = ["max_retries".toList, "backoff_ms".toList] := rfl
    rw [hkeys]
    decide
  show (Json.required Json.toU8 (Entries.ofFields r.fields) "max_retries").bind (fun maxRetries =>
    (Json.required Json.asU64 (Entries.ofFields r.fields) "backoff_ms").bind fun backoffMs =>
      some ⟨maxRetries, backoffMs⟩) = some r
  rw [Json.required_ofFields hn rfl (Json.toU8_ofU8 r.maxRetries),
    Json.required_ofFields hn rfl (Json.asU64_ofNat r.backoffMs)]
  rfl

theorem SuiteConfig.fields_nodup (c : SuiteConfig) : (c.fields.map Prod.fst).Nodup := by
  have hkeys : c.fields.map Prod.fst = SuiteConfig.default.fields.map Prod.fst := rfl
  rw [hkeys]
  decide

/-- A map that holds the fields of a configuration reads as that configuration. -/
theorem SuiteConfig.ofEntries_of_fields {c : SuiteConfig} {e : Entries Json}
    (h : c.udpLossThresholdPct.isFinite = true)
    (he : ∀ k v, List.lookup k c.fields = some v → Entries.get? e k = some v) :
    ofEntries e = some c := by
  have hu32 : ∀ o ∈ c.tcpWindowsBytes,
      Json.toOption Json.toU32 (Json.ofOption Json.ofU32 o) = some o := by
    intro o _
    exact Json.toOption_ofOption fun x _ => ⟨Json.toU32_ofU32 x, nofun⟩
  have hmax : Json.toOption Json.asU64 (Json.ofOption Json.ofNat c.maxTotalTests) =
      some c.maxTotalTests := Json.toOption_ofOption fun x _ => ⟨rfl, nofun⟩
  have hu16 : ∀ ns : List UInt16, Json.toList Json.toU16 (Json.ofList Json.ofU16 ns) = some ns :=
    fun ns => Json.toList_ofList fun x _ => Json.toU16_ofU16 x
  have hdscp : Json.toList (Json.toVariant DscpClass.names)
      (Json.ofList (fun d => .string d.name) c.dscpClasses) = some c.dscpClasses :=
    Json.toList_ofList fun x _ => toVariant_dscpClass x
  have hbool : ∀ b, (Json.bool b).asBool = some b := fun _ => rfl
  have hu64 : ∀ n, (Json.ofNat n).asU64 = some n := fun _ => rfl
  unfold ofEntries
  rw [Json.required_of_get? (he _ _ rfl) (Json.asStr_string c.target),
    Json.required_of_get? (he _ _ rfl) (hbool c.skipReachabilityCheck),
    Json.required_of_get? (he _ _ rfl) (hbool c.disableMtuProbe),
    Json.required_of_get? (he _ _ rfl) (hu16 c.mtuSizes),
    Json.required_of_get? (he _ _ rfl) (Json.toU16_ofU16 c.port),
    Json.required_of_get? (he _ _ rfl) (hu64 c.durationSecs),
    Json.required_of_get? (he _ _ rfl) (hu64 c.omitSecs),
    Json.required_of_get? (he _ _ rfl) (toVariant_protocol c.protocol),
    Json.required_of_get? (he _ _ rfl) (hbool c.singleTest),
    Json.required_of_get? (he _ _ rfl) (hu64 c.udpStartBps),
    Json.required_of_get? (he _ _ rfl) (hu64 c.udpMaxBps),
    Json.required_of_get? (he _ _ rfl) (hu64 c.udpStepBps),
    Json.required_of_get? (he _ _ rfl) (Json.toFloat_ofFloat h),
    Json.required_of_get? (he _ _ rfl) (hu16 c.tcpStreams),
    Json.required_of_get? (he _ _ rfl) (Json.toList_ofList hu32),
    Json.required_of_get? (he _ _ rfl) hdscp,
    Json.required_of_get? (he _ _ rfl) (toVariant_ipVersion c.ipVersion),
    Json.required_of_get? (he _ _ rfl) c.retry.ofJson_toJson,
    Json.required_of_get? (he _ _ rfl) hmax,
    Json.required_of_get? (he _ _ rfl) (hu64 c.connectTimeoutMs),
    Json.required_of_get? (he _ _ rfl) (hu64 c.controlTimeoutMs),
    Json.required_of_get? (he _ _ rfl) (hu64 c.maxControlJsonBytes)]
  rfl

end NetworkLantern.Throughput
