import NetworkLantern.Path.Settings
import NetworkLantern.Runtime.Execution

/-!
# Accepted trace plans, when they run

The planner and the helper check the settings with the values of the round.  A
run checks the settings as they are first, so a value that the round replaces
can still stop it.
-/

namespace NetworkLantern.Runtime

open NetworkLantern Path

/-- The settings of a planned item pass with the values of its round. -/
theorem PathConfig.trace_item {c : PathConfig} {plan : TracePlan} {settings : TraceSettings}
    (h : c.trace = .ok (plan, settings)) {item : TracePlanItem} (hi : item ∈ plan.items) :
    (item.round.apply settings).validateForType item.probeType = .ok () := by
  unfold trace at h
  obtain ⟨_, -, h⟩ := except_bind_ok.mp h
  obtain ⟨rounds, -, h⟩ := except_bind_ok.mp h
  obtain ⟨types, -, h⟩ := except_bind_ok.mp h
  obtain ⟨built, hbuilt, h⟩ := except_bind_ok.mp h
  obtain ⟨_, hchecks, h⟩ := except_bind_ok.mp h
  cases h
  obtain ⟨hrounds, htypes⟩ := buildTracePlan_ok (mapError_eq_ok.mp hbuilt)
  obtain ⟨round, hround, hi⟩ := List.mem_flatMap.mp hi
  obtain ⟨probeType, htype, hi⟩ := List.mem_flatMap.mp hi
  obtain ⟨host, -, rfl⟩ := List.mem_map.mp hi
  rw [hrounds] at hround
  rw [htypes] at htype
  exact mapError_eq_ok.mp (forM_eq_ok.mp (forM_eq_ok.mp hchecks round hround) probeType htype)

open Helper in
theorem tracePath_item [Crates] {r : AuthorizedRequest} {item : TracePlanItem}
    {settings : TraceSettings} (hop : r.operation = .tracePath item settings)
    (h : r.validate = .ok ()) :
    (item.round.apply settings).validateForType item.probeType = .ok () := by
  unfold AuthorizedRequest.validate at h
  rw [hop] at h
  obtain ⟨-, h⟩ := refuse_bind_ok.mp h
  obtain ⟨_, hcheck, -⟩ := except_bind_ok.mp h
  obtain ⟨_, -, hcheck⟩ := except_bind_ok.mp hcheck
  exact mapError_eq_ok.mp hcheck

/-- An item with the settings it runs under, accepted by the planner or by the
helper. -/
inductive Accepted [Helper.Crates] (item : TracePlanItem) (settings : TraceSettings) : Prop
  | planned {c : PathConfig} {plan : TracePlan} (h : c.trace = .ok (plan, settings))
    (hi : item ∈ plan.items)
  | authorized {r : Helper.AuthorizedRequest} (hop : r.operation = .tracePath item settings)
    (h : r.validate = .ok ())

/-- An accepted item passes the checks of its run exactly when the value that its
round replaces is within its bounds as well. -/
theorem accepted_passes_iff [Helper.Crates] {item : TracePlanItem} {settings : TraceSettings}
    (h : Accepted item settings) :
    SettingsPass item settings ↔ item.round.BaseFits settings item.probeType := by
  have hround : (item.round.apply settings).validateForType item.probeType = .ok () := by
    cases h with
    | planned h hi => exact PathConfig.trace_item h hi
    | authorized hop h => exact tracePath_item hop h
  rw [settingsPass_iff, TraceRound.validateForType_base_iff hround]
  exact ⟨fun h => h.1, fun h => ⟨h, hround⟩⟩

/-- One host, one type, up to ten hops. -/
def ttl10Config (maxHops : UInt8) : PathConfig :=
  { PathConfig.default with
    hostsIpv4 := ["h"], hostsIpv6 := [], rounds := ["TTL10"], types := ["UDP4"], maxHops }

def ttl10Plan : TracePlan where
  rounds := [.ttl10]
  types := [.udp4]
  ipv4Hosts := ["h"]
  ipv6Hosts := []
  totalItems := 1
  warnings := []

def ttl10Item : TracePlanItem where
  round := .ttl10
  probeType := .udp4
  host := "h"

/-- 300 cycles of up to 64 hops fit into the ports above 33434. -/
theorem accepted_passes_ttl10 :
    SettingsPass ttl10Item (ttl10Config 64).traceSettings :=
  (@accepted_passes_iff sampleCrates ttl10Item (ttl10Config 64).traceSettings
    (@Accepted.planned sampleCrates _ _ (ttl10Config 64) ttl10Plan (by decide +kernel)
      (by decide))).mpr ⟨by decide, fun _ => by decide⟩

/-- 300 cycles of up to 255 hops do not, though those of ten hops do. -/
theorem ttl10_accepted_fails :
    ∃ plan settings, (ttl10Config 255).trace = .ok (plan, settings) ∧ ttl10Item ∈ plan.items ∧
      configure ttl10Item settings false = .error (.invalidPlan
        "UDP destination port range cannot uniquely encode every planned probe") :=
  ⟨ttl10Plan, (ttl10Config 255).traceSettings, by decide +kernel, by decide, by decide⟩

end NetworkLantern.Runtime
