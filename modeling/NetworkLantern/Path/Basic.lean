import NetworkLantern.Lib.Serde
import NetworkLantern.Path.Types

/-!
# The basic path planner

Rounds, address families and hosts, multiplied out.
-/

namespace NetworkLantern.Path

open NetworkLantern

inductive BasicRound
  | standard | mtu1400Df | ttl64Timeout5s
deriving DecidableEq, Repr

def BasicRound.all : List BasicRound := [.standard, .mtu1400Df, .ttl64Timeout5s]

def BasicRound.name : BasicRound → Str
  | .standard => "Standard"
  | .mtu1400Df => "MTU1400_DF"
  | .ttl64Timeout5s => "TTL64_Timeout5s"

structure BasicSettings where
  pingCount : UInt16
  traceMaxHops : UInt8
  traceTimeout : Duration
  pathpingProbes : UInt16
  pathpingTimeout : Duration
  tcpPort : UInt16
  skipPathping : Bool
deriving DecidableEq

def BasicSettings.validate (s : BasicSettings) : Except ProbeError Unit := do
  refuse (decide (1000 < s.pingCount) || decide (1000 < s.pathpingProbes) ||
      decide (fromSecs 300 < s.traceTimeout) || decide (fromSecs 300 < s.pathpingTimeout))
    (.invalidPlan "basic counts or timeouts exceed supported bounds")
  refuse (s.pingCount == 0) (.invalidPlan "ping count must be positive")
  refuse (s.traceMaxHops == 0) (.invalidPlan "trace max hops must be positive")
  refuse (s.traceTimeout == 0) (.invalidPlan "trace timeout must be positive")
  refuse (!s.skipPathping && s.pathpingProbes == 0)
    (.invalidPlan "path statistics probe count must be positive")
  refuse (!s.skipPathping && s.pathpingTimeout == 0)
    (.invalidPlan "path statistics timeout must be positive")
  refuse (s.tcpPort == 0) (.invalidPlan "TCP port must be positive")

structure BasicPlanItem where
  round : BasicRound
  family : AddressFamily
  host : Str
deriving DecidableEq

def BasicSettings.toJson (s : BasicSettings) : Json :=
  .object
    [("ping_count", .ofU16 s.pingCount),
     ("trace_max_hops", .ofU8 s.traceMaxHops),
     ("trace_timeout", durationJson s.traceTimeout),
     ("pathping_probes", .ofU16 s.pathpingProbes),
     ("pathping_timeout", durationJson s.pathpingTimeout),
     ("tcp_port", .ofU16 s.tcpPort),
     ("skip_pathping", .bool s.skipPathping)]

def BasicPlanItem.toJson (i : BasicPlanItem) : Json :=
  .object
    [("round", .string i.round.name), ("family", .string i.family.name), ("host", .string i.host)]

structure BasicPlan where
  rounds : List BasicRound
  families : List AddressFamily
  ipv4Hosts : List Str
  ipv6Hosts : List Str
  totalItems : Nat
deriving DecidableEq

/-- The hosts of a family. -/
def hostsOf (ipv4Hosts ipv6Hosts : List Str) : AddressFamily → List Str
  | .ipv4 => ipv4Hosts
  | .ipv6 => ipv6Hosts

def BasicPlan.items (p : BasicPlan) : List BasicPlanItem :=
  p.rounds.flatMap fun round => p.families.flatMap fun family =>
    (hostsOf p.ipv4Hosts p.ipv6Hosts family).map fun host => ⟨round, family, host⟩

/-- The count, unless it leaves 64 bits. -/
def basicTotal (rounds : List BasicRound) (families : List AddressFamily)
    (ipv4Hosts ipv6Hosts : List Str) : Option Nat :=
  rounds.foldlM (fun total _ => families.foldlM
    (fun total family => checkedAdd total (hostsOf ipv4Hosts ipv6Hosts family).length) total) 0

def buildBasicPlan (rounds : List BasicRound) (families : List AddressFamily)
    (ipv4Hosts ipv6Hosts : List Str) : Except ProbeError BasicPlan := do
  refuse (rounds.isEmpty || families.isEmpty)
    (.invalidPlan "rounds and families must not be empty")
  (ipv4Hosts ++ ipv6Hosts).forM validateHost
  match basicTotal rounds families ipv4Hosts ipv6Hosts with
  | none => .error (.invalidPlan "diagnostic plan cardinality overflow")
  | some totalItems =>
    refuse (totalItems == 0) (.invalidPlan "no diagnostic runs planned")
    return { rounds, families, ipv4Hosts, ipv6Hosts, totalItems }

/-- The total is the number of items, whatever the plan says it is. -/
theorem basicTotal_eq (rounds : List BasicRound) (families : List AddressFamily)
    (ipv4Hosts ipv6Hosts : List Str) (total : Nat) :
    basicTotal rounds families ipv4Hosts ipv6Hosts =
      checkedAdd 0 (BasicPlan.items ⟨rounds, families, ipv4Hosts, ipv6Hosts, total⟩).length := by
  have hround : ∀ {sum : Nat}, sum < 2 ^ 64 →
      families.foldlM (fun sum family =>
        checkedAdd sum (hostsOf ipv4Hosts ipv6Hosts family).length) sum =
      checkedAdd sum
        (families.map fun family => (hostsOf ipv4Hosts ipv6Hosts family).length).sum :=
    foldlM_checkedAdd _ fun _ => rfl
  unfold basicTotal
  rw [foldlM_checkedAdd
    (fun _ => (families.map fun family => (hostsOf ipv4Hosts ipv6Hosts family).length).sum)
    hround (by decide)]
  simp only [BasicPlan.items, List.length_flatMap, List.length_map]

/-- When a plan is built, and which one. -/
theorem buildBasicPlan_ok {rounds : List BasicRound} {families : List AddressFamily}
    {ipv4Hosts ipv6Hosts : List Str} {plan : BasicPlan} :
    buildBasicPlan rounds families ipv4Hosts ipv6Hosts = .ok plan ↔
      (rounds ≠ [] ∧ families ≠ []) ∧ (∀ host ∈ ipv4Hosts ++ ipv6Hosts, validHost host = true) ∧
      ∃ total, basicTotal rounds families ipv4Hosts ipv6Hosts = some total ∧ total ≠ 0 ∧
        plan = ⟨rounds, families, ipv4Hosts, ipv6Hosts, total⟩ := by
  have hempty : (rounds.isEmpty || families.isEmpty) = false ↔ rounds ≠ [] ∧ families ≠ [] := by
    simp
  unfold buildBasicPlan
  rw [refuse_bind_ok, hempty, except_bind_ok]
  apply and_congr_right
  intro _
  cases basicTotal rounds families ipv4Hosts ipv6Hosts with
  | none => simp
  | some total =>
    constructor
    · rintro ⟨_, hhosts, hplan⟩
      exact ⟨validateHosts_ok.mp hhosts, total, rfl, refuse_zero_ok.mp hplan⟩
    · rintro ⟨hhosts, _, htotal, hplan⟩
      cases htotal
      exact ⟨(), validateHosts_ok.mpr hhosts, refuse_zero_ok.mpr hplan⟩

/-- A plan counts the items it lists. -/
theorem buildBasicPlan_counted {rounds : List BasicRound} {families : List AddressFamily}
    {ipv4Hosts ipv6Hosts : List Str} {plan : BasicPlan}
    (h : buildBasicPlan rounds families ipv4Hosts ipv6Hosts = .ok plan) :
    plan.items.length = plan.totalItems := by
  obtain ⟨-, -, total, htotal, -, rfl⟩ := buildBasicPlan_ok.mp h
  rw [basicTotal_eq _ _ _ _ total] at htotal
  have hcount := checkedAdd_eq htotal
  rw [Nat.zero_add] at hcount
  exact hcount.symm

end NetworkLantern.Path
