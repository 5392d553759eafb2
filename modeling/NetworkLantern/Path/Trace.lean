import NetworkLantern.Path.Basic

/-!
# The path trace planner

Rounds, probe types and hosts, less the pairs a round does not apply to.
-/

namespace NetworkLantern.Path

open NetworkLantern

inductive TraceType
  | icmp4 | icmp6 | udp4 | udp6 | tcp4 | tcp6 | mpls4 | mpls6 | as4 | as6
deriving DecidableEq, Repr

namespace TraceType

def all : List TraceType := [.icmp4, .icmp6, .udp4, .udp6, .tcp4, .tcp6, .mpls4, .mpls6, .as4, .as6]

def defaults : List TraceType := [.icmp4, .icmp6, .tcp4, .tcp6]

def family : TraceType → AddressFamily
  | .icmp4 | .udp4 | .tcp4 | .mpls4 | .as4 => .ipv4
  | _ => .ipv6

def name : TraceType → Str
  | .icmp4 => "ICMP4"
  | .icmp6 => "ICMP6"
  | .udp4 => "UDP4"
  | .udp6 => "UDP6"
  | .tcp4 => "TCP4"
  | .tcp6 => "TCP6"
  | .mpls4 => "MPLS4"
  | .mpls6 => "MPLS6"
  | .as4 => "AS4"
  | .as6 => "AS6"

end TraceType

inductive TraceRound
  | standard | mtu1400 | tosCs5 | tosAf11 | ttl10 | ttl64 | firstTtl3 | timeout5
deriving DecidableEq, Repr

namespace TraceRound

def all : List TraceRound :=
  [.standard, .mtu1400, .tosCs5, .tosAf11, .ttl10, .ttl64, .firstTtl3, .timeout5]

def name : TraceRound → Str
  | .standard => "Standard"
  | .mtu1400 => "MTU1400"
  | .tosCs5 => "TOS_CS5"
  | .tosAf11 => "TOS_AF11"
  | .ttl10 => "TTL10"
  | .ttl64 => "TTL64"
  | .firstTtl3 => "FirstTTL3"
  | .timeout5 => "Timeout5"

end TraceRound

structure TraceSettings where
  cycles : UInt16
  interval : Duration
  runTimeout : Duration
  probeTimeout : Duration
  maxHops : UInt8
  firstTtl : UInt8
  packetSize : UInt64
  tcpPort : UInt16
  udpBasePort : UInt16
  /-- The address of a resolver, as it is written. -/
  dnsResolver : Option Str
  dnsTimeout : Duration
deriving DecidableEq

namespace TraceSettings

/-- `TraceSettings::default()`. -/
def default : TraceSettings where
  cycles := 300
  interval := fromSecs 1
  runTimeout := fromSecs 360
  probeTimeout := fromSecs 10
  maxHops := 30
  firstTtl := 1
  packetSize := 64
  tcpPort := 443
  udpBasePort := 33434
  dnsResolver := none
  dnsTimeout := fromSecs 2

def validate (s : TraceSettings) : Except ProbeError Unit := do
  refuse (decide (10000 < s.cycles) || decide (fromSecs 60 < s.interval) ||
      decide (fromSecs 86400 < s.runTimeout) || decide (fromSecs 300 < s.probeTimeout) ||
      decide (fromSecs 300 < s.dnsTimeout) || decide (65535 < s.packetSize))
    (.invalidPlan "trace counts, payload or timeouts exceed supported bounds")
  refuse (s.cycles == 0 || s.maxHops == 0 || s.firstTtl == 0)
    (.invalidPlan "cycles and hop limits must be positive")
  refuse (decide (s.maxHops < s.firstTtl)) (.invalidPlan "first TTL must not exceed max hops")
  refuse (s.interval == 0 || s.runTimeout == 0 || s.probeTimeout == 0 || s.dnsTimeout == 0)
    (.invalidPlan "trace intervals and timeouts must be positive")
  refuse (decide (s.packetSize < 64) || s.tcpPort == 0 || s.udpBasePort == 0)
    (.invalidPlan "payload size and destination ports must be positive")

/-- The destination ports from the base on. -/
def availablePorts (s : TraceSettings) : Nat := 65535 - s.udpBasePort.toNat + 1

/-- The number of the last probe, unless it leaves 32 bits. -/
def lastIdentity (s : TraceSettings) : Option Nat :=
  let last := (s.cycles.toNat - 1) * (s.maxHops.toNat + 1) + s.maxHops.toNat
  if last < 2 ^ 32 then some last else none

def validateForType (s : TraceSettings) (probeType : TraceType) : Except ProbeError Unit := do
  s.validate
  if probeType = .udp4 ∨ probeType = .udp6 then
    match s.lastIdentity with
    | none => .error (.invalidPlan "trace probe identity overflow")
    | some last =>
      refuse (decide (s.availablePorts ≤ last))
        (.invalidPlan "UDP destination port range cannot uniquely encode every planned probe")
  else .ok ()

end TraceSettings

/-- `TraceRound::apply`. -/
def TraceRound.apply (round : TraceRound) (defaults : TraceSettings) : TraceSettings :=
  match round with
  | .standard | .tosCs5 | .tosAf11 => defaults
  | .mtu1400 => { defaults with packetSize := 1400 }
  | .ttl10 => { defaults with maxHops := 10 }
  | .ttl64 => { defaults with maxHops := 64 }
  | .firstTtl3 => { defaults with firstTtl := 3 }
  | .timeout5 => { defaults with probeTimeout := fromSecs 5 }

structure TracePlanItem where
  round : TraceRound
  probeType : TraceType
  host : Str
deriving DecidableEq

def TraceSettings.toJson (s : TraceSettings) : Json :=
  .object
    [("cycles", .ofU16 s.cycles),
     ("interval", durationJson s.interval),
     ("run_timeout", durationJson s.runTimeout),
     ("probe_timeout", durationJson s.probeTimeout),
     ("max_hops", .ofU8 s.maxHops),
     ("first_ttl", .ofU8 s.firstTtl),
     ("packet_size", .ofNat s.packetSize),
     ("tcp_port", .ofU16 s.tcpPort),
     ("udp_base_port", .ofU16 s.udpBasePort),
     ("dns_resolver", .ofOption .string s.dnsResolver),
     ("dns_timeout", durationJson s.dnsTimeout)]

def TracePlanItem.toJson (i : TracePlanItem) : Json :=
  .object
    [("round", .string i.round.name), ("probe_type", .string i.probeType.name),
     ("host", .string i.host)]

structure TracePlan where
  rounds : List TraceRound
  types : List TraceType
  ipv4Hosts : List Str
  ipv6Hosts : List Str
  totalItems : Nat
  warnings : List Str
deriving DecidableEq

def isTcp (probeType : TraceType) : Bool := probeType = .tcp4 || probeType = .tcp6

/-- TCP SYN probes have a fixed size, so the MTU1400 round would repeat Standard. -/
def roundApplies (round : TraceRound) (probeType : TraceType) : Bool :=
  !(round = .mtu1400 && isTcp probeType)

def TracePlan.items (p : TracePlan) : List TracePlanItem :=
  p.rounds.flatMap fun round => p.types.flatMap fun probeType =>
    ((hostsOf p.ipv4Hosts p.ipv6Hosts probeType.family).filter fun _ =>
      roundApplies round probeType).map fun host => ⟨round, probeType, host⟩

def traceTotal (rounds : List TraceRound) (types : List TraceType)
    (ipv4Hosts ipv6Hosts : List Str) : Option Nat :=
  rounds.foldlM (fun total round => types.foldlM
    (fun total probeType =>
      if roundApplies round probeType then
        checkedAdd total (hostsOf ipv4Hosts ipv6Hosts probeType.family).length
      else some total) total) 0

def mtuWarning : Str := "MTU1400 round skipped for TCP trace: SYN probes have a fixed size"

def buildTracePlan (rounds : List TraceRound) (types : List TraceType)
    (ipv4Hosts ipv6Hosts : List Str) : Except ProbeError TracePlan := do
  refuse (rounds.isEmpty || types.isEmpty)
    (.invalidPlan "rounds and probe types must not be empty")
  (ipv4Hosts ++ ipv6Hosts).forM validateHost
  match traceTotal rounds types ipv4Hosts ipv6Hosts with
  | none => .error (.invalidPlan "trace plan cardinality overflow")
  | some totalItems =>
    refuse (totalItems == 0) (.invalidPlan "no trace runs planned")
    return { rounds, types, ipv4Hosts, ipv6Hosts, totalItems
             warnings := if rounds.contains .mtu1400 && types.any isTcp then [mtuWarning] else [] }

/-- The total is the number of items, whatever the plan says it is. -/
theorem traceTotal_eq (rounds : List TraceRound) (types : List TraceType)
    (ipv4Hosts ipv6Hosts : List Str) (total : Nat) (warnings : List Str) :
    traceTotal rounds types ipv4Hosts ipv6Hosts =
      checkedAdd 0
        (TracePlan.items ⟨rounds, types, ipv4Hosts, ipv6Hosts, total, warnings⟩).length := by
  have hpair : ∀ {round : TraceRound} {sum : Nat} {probeType : TraceType}, sum < 2 ^ 64 →
      (if roundApplies round probeType then
        checkedAdd sum (hostsOf ipv4Hosts ipv6Hosts probeType.family).length
      else some sum) =
        checkedAdd sum ((hostsOf ipv4Hosts ipv6Hosts probeType.family).filter fun _ =>
          roundApplies round probeType).length := by
    intro round sum probeType hsum
    by_cases happlies : roundApplies round probeType = true
    · rw [if_pos happlies, happlies, List.filter_true]
    · rw [if_neg happlies, Bool.eq_false_iff.mpr happlies, List.filter_false, List.length_nil,
        checkedAdd_zero hsum]
  have hround : ∀ {sum : Nat} {round : TraceRound}, sum < 2 ^ 64 →
      types.foldlM (fun sum probeType =>
        if roundApplies round probeType then
          checkedAdd sum (hostsOf ipv4Hosts ipv6Hosts probeType.family).length
        else some sum) sum =
      checkedAdd sum (types.map fun probeType =>
        ((hostsOf ipv4Hosts ipv6Hosts probeType.family).filter fun _ =>
          roundApplies round probeType).length).sum := by
    intro sum round hsum
    exact foldlM_checkedAdd
      (fun probeType => ((hostsOf ipv4Hosts ipv6Hosts probeType.family).filter fun _ =>
        roundApplies round probeType).length) hpair hsum
  unfold traceTotal
  rw [foldlM_checkedAdd
    (fun round => (types.map fun probeType =>
      ((hostsOf ipv4Hosts ipv6Hosts probeType.family).filter fun _ =>
        roundApplies round probeType).length).sum)
    hround (by decide)]
  simp only [TracePlan.items, List.length_flatMap, List.length_map]

/-- When a plan is built, and which one. -/
theorem buildTracePlan_iff {rounds : List TraceRound} {types : List TraceType}
    {ipv4Hosts ipv6Hosts : List Str} {plan : TracePlan} :
    buildTracePlan rounds types ipv4Hosts ipv6Hosts = .ok plan ↔
      (rounds ≠ [] ∧ types ≠ []) ∧ (∀ host ∈ ipv4Hosts ++ ipv6Hosts, validHost host = true) ∧
      ∃ total, traceTotal rounds types ipv4Hosts ipv6Hosts = some total ∧ total ≠ 0 ∧
        plan = ⟨rounds, types, ipv4Hosts, ipv6Hosts, total,
          if rounds.contains .mtu1400 && types.any isTcp then [mtuWarning] else []⟩ := by
  have hempty : (rounds.isEmpty || types.isEmpty) = false ↔ rounds ≠ [] ∧ types ≠ [] := by
    simp
  unfold buildTracePlan
  rw [refuse_bind_ok, hempty, except_bind_ok]
  apply and_congr_right
  intro _
  cases traceTotal rounds types ipv4Hosts ipv6Hosts with
  | none => simp
  | some total =>
    constructor
    · rintro ⟨_, hhosts, hplan⟩
      exact ⟨validateHosts_ok.mp hhosts, total, rfl, refuse_zero_ok.mp hplan⟩
    · rintro ⟨hhosts, _, htotal, hplan⟩
      cases htotal
      exact ⟨(), validateHosts_ok.mpr hhosts, refuse_zero_ok.mpr hplan⟩

theorem buildTracePlan_ok {rounds : List TraceRound} {types : List TraceType}
    {ipv4Hosts ipv6Hosts : List Str} {plan : TracePlan}
    (h : buildTracePlan rounds types ipv4Hosts ipv6Hosts = .ok plan) :
    plan.rounds = rounds ∧ plan.types = types := by
  obtain ⟨-, -, total, -, -, rfl⟩ := buildTracePlan_iff.mp h
  exact ⟨rfl, rfl⟩

/-- A plan counts the items it lists. -/
theorem buildTracePlan_counted {rounds : List TraceRound} {types : List TraceType}
    {ipv4Hosts ipv6Hosts : List Str} {plan : TracePlan}
    (h : buildTracePlan rounds types ipv4Hosts ipv6Hosts = .ok plan) :
    plan.items.length = plan.totalItems := by
  obtain ⟨-, -, total, htotal, -, rfl⟩ := buildTracePlan_iff.mp h
  rw [traceTotal_eq _ _ _ _ total] at htotal
  have hcount := checkedAdd_eq htotal
  rw [Nat.zero_add] at hcount
  exact hcount.symm

end NetworkLantern.Path
