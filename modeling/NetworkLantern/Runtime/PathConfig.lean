import NetworkLantern.Lib.Ipv6Text
import NetworkLantern.Path.Trace
import NetworkLantern.Runtime.Layers

/-!
# Path configurations

One configuration serves the basic and the trace capability.  A layer is
translated first: `target` stands for one host and its family, and empty
selections keep what the layers before them chose.
-/

namespace NetworkLantern.Runtime

open NetworkLantern Path

structure PathConfig where
  hostsIpv4 : List Str
  hostsIpv6 : List Str
  protocols : List Str
  rounds : List Str
  types : List Str
  skipPathping : Bool
  pingCount : UInt16
  maxHops : UInt8
  timeoutMs : UInt64
  pathpingProbes : UInt16
  pathpingTimeoutMs : UInt64
  tcpPort : UInt16
  cycles : UInt16
  intervalMs : UInt64
  runTimeoutMs : UInt64
deriving DecidableEq

namespace PathConfig

/-- `PathConfig::default()`. -/
def default : PathConfig where
  hostsIpv4 := ["cloudflare.com", "google.com", "wikipedia.org", "amazon.com"]
  hostsIpv6 := ["cloudflare.com", "google.com", "wikipedia.org"]
  protocols := ["IPv4", "IPv6"]
  rounds := []
  types := TraceType.defaults.map TraceType.name
  skipPathping := false
  pingCount := 5
  maxHops := 30
  timeoutMs := 5000
  pathpingProbes := 50
  pathpingTimeoutMs := 3000
  tcpPort := 443
  cycles := 300
  intervalMs := 1000
  runTimeoutMs := 360000

/-! ## JSON -/

def fields (c : PathConfig) : List (Str × Json) :=
  [("hosts_ipv4", .ofList .string c.hostsIpv4),
   ("hosts_ipv6", .ofList .string c.hostsIpv6),
   ("protocols", .ofList .string c.protocols),
   ("rounds", .ofList .string c.rounds),
   ("types", .ofList .string c.types),
   ("skip_pathping", .bool c.skipPathping),
   ("ping_count", .ofU16 c.pingCount),
   ("max_hops", .ofU8 c.maxHops),
   ("timeout_ms", .ofNat c.timeoutMs),
   ("pathping_probes", .ofU16 c.pathpingProbes),
   ("pathping_timeout_ms", .ofNat c.pathpingTimeoutMs),
   ("tcp_port", .ofU16 c.tcpPort),
   ("cycles", .ofU16 c.cycles),
   ("interval_ms", .ofNat c.intervalMs),
   ("run_timeout_ms", .ofNat c.runTimeoutMs)]

/-- `serde_json::to_value`. -/
def toEntries (c : PathConfig) : Entries Json := Entries.ofFields c.fields

/-- `serde_json::from_value` of an object. -/
def ofEntries (e : Entries Json) : Option PathConfig := do
  let hostsIpv4 ← Json.required (Json.toList Json.asStr) e "hosts_ipv4"
  let hostsIpv6 ← Json.required (Json.toList Json.asStr) e "hosts_ipv6"
  let protocols ← Json.required (Json.toList Json.asStr) e "protocols"
  let rounds ← Json.required (Json.toList Json.asStr) e "rounds"
  let types ← Json.required (Json.toList Json.asStr) e "types"
  let skipPathping ← Json.required Json.asBool e "skip_pathping"
  let pingCount ← Json.required Json.toU16 e "ping_count"
  let maxHops ← Json.required Json.toU8 e "max_hops"
  let timeoutMs ← Json.required Json.asU64 e "timeout_ms"
  let pathpingProbes ← Json.required Json.toU16 e "pathping_probes"
  let pathpingTimeoutMs ← Json.required Json.asU64 e "pathping_timeout_ms"
  let tcpPort ← Json.required Json.toU16 e "tcp_port"
  let cycles ← Json.required Json.toU16 e "cycles"
  let intervalMs ← Json.required Json.asU64 e "interval_ms"
  let runTimeoutMs ← Json.required Json.asU64 e "run_timeout_ms"
  return { hostsIpv4, hostsIpv6, protocols, rounds, types, skipPathping, pingCount, maxHops,
           timeoutMs, pathpingProbes, pathpingTimeoutMs, tcpPort, cycles, intervalMs,
           runTimeoutMs }

theorem fields_nodup (c : PathConfig) : (c.fields.map Prod.fst).Nodup := by
  have hkeys : c.fields.map Prod.fst = default.fields.map Prod.fst := rfl
  rw [hkeys]
  decide

/-- What is written of a configuration reads as that configuration. -/
theorem ofEntries_toEntries (c : PathConfig) : ofEntries c.toEntries = some c := by
  have hn := c.fields_nodup
  have hstrings : ∀ ss : List Str, Json.toList Json.asStr (Json.ofList Json.string ss) = some ss :=
    fun ss => Json.toList_ofList fun x _ => rfl
  have hu64 : ∀ n, (Json.ofNat n).asU64 = some n := fun _ => rfl
  unfold ofEntries
  rw [show c.toEntries = Entries.ofFields c.fields from rfl,
    Json.required_ofFields hn rfl (hstrings c.hostsIpv4),
    Json.required_ofFields hn rfl (hstrings c.hostsIpv6),
    Json.required_ofFields hn rfl (hstrings c.protocols),
    Json.required_ofFields hn rfl (hstrings c.rounds),
    Json.required_ofFields hn rfl (hstrings c.types),
    Json.required_ofFields hn rfl (Json.asBool_bool c.skipPathping),
    Json.required_ofFields hn rfl (Json.toU16_ofU16 c.pingCount),
    Json.required_ofFields hn rfl (Json.toU8_ofU8 c.maxHops),
    Json.required_ofFields hn rfl (hu64 c.timeoutMs),
    Json.required_ofFields hn rfl (Json.toU16_ofU16 c.pathpingProbes),
    Json.required_ofFields hn rfl (hu64 c.pathpingTimeoutMs),
    Json.required_ofFields hn rfl (Json.toU16_ofU16 c.tcpPort),
    Json.required_ofFields hn rfl (Json.toU16_ofU16 c.cycles),
    Json.required_ofFields hn rfl (hu64 c.intervalMs),
    Json.required_ofFields hn rfl (hu64 c.runTimeoutMs)]
  rfl

/-! ## Plans -/

def validate (c : PathConfig) : Except Error Unit := do
  refuse (decide (1024 < c.hostsIpv4.length + c.hostsIpv6.length) ||
      decide (256 < c.rounds.length) || decide (256 < c.types.length) ||
      decide (256 < c.protocols.length))
    (.validation "Path matrix input exceeds bounded list limits")
  refuse (c.maxHops == 0 || c.tcpPort == 0 || c.pingCount == 0 || decide (1000 < c.pingCount) ||
      decide (1000 < c.pathpingProbes) || c.cycles == 0 || decide (10000 < c.cycles))
    (.validation "Path counts, hops or port outside supported limits")
  refuse (c.timeoutMs == 0 || decide (300000 < c.timeoutMs) || c.pathpingTimeoutMs == 0 ||
      decide (300000 < c.pathpingTimeoutMs) || c.intervalMs == 0 || decide (60000 < c.intervalMs) ||
      c.runTimeoutMs == 0 || decide (86400000 < c.runTimeoutMs))
    (.validation "Path timing outside supported limits")

/-- `map_err(|e| Error::validation(e.to_string()))`. -/
def probeError (e : ProbeError) : Error := .validation e.display

/-- The entry of a table that a name stands for, without case. -/
def findNamed {α : Type} (all : List α) (name : α → Str) (message s : Str) : Except Error α :=
  match all.find? fun x => Str.eqCI (name x) s with
  | some x => .ok x
  | none => .error (.validation (message ++ s))

def basicRounds (c : PathConfig) : Except Error (List BasicRound) :=
  if c.rounds.isEmpty then .ok [.standard]
  else c.rounds.mapM (findNamed BasicRound.all BasicRound.name "Unknown basic round ")

def family (protocol : Str) : Except Error AddressFamily :=
  if Str.lower protocol = "ipv4".toList then .ok .ipv4
  else if Str.lower protocol = "ipv6".toList then .ok .ipv6
  else .error (.validation "Unknown IP family")

def basicSettings (c : PathConfig) : BasicSettings where
  pingCount := c.pingCount
  traceMaxHops := c.maxHops
  traceTimeout := fromMillis c.timeoutMs
  pathpingProbes := c.pathpingProbes
  pathpingTimeout := fromMillis c.pathpingTimeoutMs
  tcpPort := c.tcpPort
  skipPathping := c.skipPathping

def basic (c : PathConfig) : Except Error (BasicPlan × BasicSettings) := do
  c.validate
  let rounds ← c.basicRounds
  let families ← c.protocols.mapM family
  let plan ← (buildBasicPlan rounds families c.hostsIpv4 c.hostsIpv6).mapError probeError
  c.basicSettings.validate.mapError probeError
  return (plan, c.basicSettings)

def traceRounds (c : PathConfig) : Except Error (List TraceRound) :=
  if c.rounds.isEmpty then .ok [.standard]
  else c.rounds.mapM (findNamed TraceRound.all TraceRound.name "Unknown trace round ")

def traceSettings (c : PathConfig) : TraceSettings :=
  { TraceSettings.default with
    cycles := c.cycles
    interval := fromMillis c.intervalMs
    runTimeout := fromMillis c.runTimeoutMs
    probeTimeout := fromMillis c.timeoutMs
    maxHops := c.maxHops
    tcpPort := c.tcpPort }

def trace (c : PathConfig) : Except Error (TracePlan × TraceSettings) := do
  c.validate
  let rounds ← c.traceRounds
  let types ← c.types.mapM (findNamed TraceType.all TraceType.name "Unknown trace type ")
  let plan ← (buildTracePlan rounds types c.hostsIpv4 c.hostsIpv6).mapError probeError
  rounds.forM fun round => types.forM fun probeType =>
    ((round.apply c.traceSettings).validateForType probeType).mapError probeError
  return (plan, c.traceSettings)

end PathConfig

/-! ## Layers -/

/-- The native name of a path key. -/
def pathName (key : Str) : Str :=
  if Str.lower key = "hostsipv4".toList then "hosts_ipv4"
  else if Str.lower key = "hostsipv6".toList then "hosts_ipv6"
  else if Str.lower key = "skippathping".toList then "skip_pathping"
  else key

/-- The settings that one `target` stands for. -/
def targetFields (host : Str) : List (Str × Json) :=
  let one := Json.array [.string host]
  let none := Json.array []
  if isIpv6 host then
    [("hosts_ipv4", none), ("hosts_ipv6", one), ("protocols", .array [.string "IPv6"])]
  else [("hosts_ipv4", one), ("hosts_ipv6", none), ("protocols", .array [.string "IPv4"])]

/-- The keys under which an empty list selects nothing of its own. -/
def keepsFallback (key : Str) : Bool :=
  Str.lower key = "hostsipv4".toList || Str.lower key = "hostsipv6".toList ||
    pathName key = "rounds".toList || pathName key = "protocols".toList

def isEmptyArray : Json → Bool
  | .array [] => true
  | _ => false

def translateEntry (out : Entries Json) (e : Str × Json) : Except Error (Entries Json) :=
  if e.1 = "target".toList then
    match e.2.asStr with
    | none => .error (.validation "target must be a string")
    | some host => .ok ((targetFields host).foldl (fun es f => Entries.insert f.1 f.2 es) out)
  else if keepsFallback e.1 && isEmptyArray e.2 then .ok out
  else .ok (Entries.insert (pathName e.1) e.2 out)

def translate (layer : Json) : Except Error Json :=
  match layer.asObject with
  | none => .error (.validation "Path settings must be an object")
  | some entries => (entries.foldlM translateEntry []).map .object

/-- The defaults of a capability: a trace waits longer. -/
def pathDefaults (trace : Bool) : PathConfig :=
  if trace then { PathConfig.default with timeoutMs := 10000 } else .default

theorem pathDefaults_nodup (trace : Bool) :
    ((Entries.keys (pathDefaults trace).toEntries).map Str.lower).Nodup := by
  cases trace <;> decide

variable [Refusals]

/-- `path_config::resolve`. -/
def resolve (layers : List Json) (strict trace : Bool) : Except Error (PathConfig × List Str) := do
  let layers ← layers.mapM translate
  let (merged, warnings) ← mergeLayers (pathDefaults trace).toEntries layers strict
  let config ← decoded "PathConfig" (.object merged) (PathConfig.ofEntries merged)
  return (config, warnings)

end NetworkLantern.Runtime
