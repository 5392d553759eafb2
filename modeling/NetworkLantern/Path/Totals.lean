import NetworkLantern.Path.Trace

/-!
# Counted plans

Both planners announce how many items they yield.  Each announces the number it
does yield (`plan_totals`), and refuses a configuration that yields none or more
than 64 bits can count.
-/

namespace NetworkLantern.Path

open NetworkLantern

/-- What the basic planner yields for a configuration, accepted or not. -/
def basicItems (rounds : List BasicRound) (families : List AddressFamily)
    (ipv4Hosts ipv6Hosts : List Str) : List BasicPlanItem :=
  BasicPlan.items ⟨rounds, families, ipv4Hosts, ipv6Hosts, 0⟩

/-- What the trace planner yields for a configuration, accepted or not. -/
def traceItems (rounds : List TraceRound) (types : List TraceType)
    (ipv4Hosts ipv6Hosts : List Str) : List TracePlanItem :=
  TracePlan.items ⟨rounds, types, ipv4Hosts, ipv6Hosts, 0, []⟩

theorem mem_basicItems {rounds : List BasicRound} {families : List AddressFamily}
    {ipv4Hosts ipv6Hosts : List Str} {item : BasicPlanItem} :
    item ∈ basicItems rounds families ipv4Hosts ipv6Hosts ↔
      item.round ∈ rounds ∧ item.family ∈ families ∧
      item.host ∈ hostsOf ipv4Hosts ipv6Hosts item.family := by
  simp only [basicItems, BasicPlan.items, List.mem_flatMap, List.mem_map]
  constructor
  · rintro ⟨round, hround, family, hfamily, host, hhost, rfl⟩
    exact ⟨hround, hfamily, hhost⟩
  · rintro ⟨hround, hfamily, hhost⟩
    exact ⟨_, hround, _, hfamily, _, hhost, rfl⟩

theorem mem_traceItems {rounds : List TraceRound} {types : List TraceType}
    {ipv4Hosts ipv6Hosts : List Str} {item : TracePlanItem} :
    item ∈ traceItems rounds types ipv4Hosts ipv6Hosts ↔
      item.round ∈ rounds ∧ item.probeType ∈ types ∧
      item.host ∈ hostsOf ipv4Hosts ipv6Hosts item.probeType.family ∧
      roundApplies item.round item.probeType = true := by
  simp only [traceItems, TracePlan.items, List.mem_flatMap, List.mem_map, List.mem_filter]
  constructor
  · rintro ⟨round, hround, probeType, htype, host, ⟨hhost, happlies⟩, rfl⟩
    exact ⟨hround, htype, hhost, happlies⟩
  · rintro ⟨hround, htype, hhost, happlies⟩
    exact ⟨_, hround, _, htype, _, ⟨hhost, happlies⟩, rfl⟩

/-! ## When a planner refuses -/

section Refusals

variable {α β γ : Type}

/-- What a planner accepts, over its two lists, its hosts and the number of its items. -/
def Plannable (rounds : List α) (kinds : List β) (hosts : List Str) (count : Nat) : Prop :=
  (rounds ≠ [] ∧ kinds ≠ []) ∧ (∀ host ∈ hosts, validHost host = true) ∧ count ≠ 0 ∧ count < 2 ^ 64

theorem counted_iff {count : Nat} :
    (∃ total, checkedAdd 0 count = some total ∧ total ≠ 0) ↔ count ≠ 0 ∧ count < 2 ^ 64 := by
  unfold checkedAdd
  rw [Nat.zero_add]
  constructor
  · rintro ⟨total, htotal, hne⟩
    by_cases h : count < 2 ^ 64
    · rw [if_pos h] at htotal
      cases htotal
      exact ⟨hne, h⟩
    · rw [if_neg h] at htotal
      cases htotal
  · rintro ⟨hne, h⟩
    exact ⟨count, if_pos h, hne⟩

theorem refused_iff {rounds : List α} {kinds : List β} {hosts : List Str} {count : Nat}
    {built : Except ProbeError γ}
    (h : (∃ plan, built = .ok plan) ↔ Plannable rounds kinds hosts count) :
    (∃ e, built = .error e) ↔
      rounds = [] ∨ kinds = [] ∨ (∃ host ∈ hosts, validHost host = false) ∨
      count = 0 ∨ 2 ^ 64 ≤ count := by
  have hrefused : (∃ e, built = .error e) ↔ ¬ ∃ plan, built = .ok plan := by
    cases built with
    | ok plan => simp
    | error e => simp
  have hhosts : (∃ host ∈ hosts, validHost host = false) ↔
      ¬ ∀ host ∈ hosts, validHost host = true := by
    simp
  rw [hrefused, h, hhosts, Plannable, ← Nat.not_lt]
  tauto

end Refusals

theorem basic_plannable (rounds : List BasicRound) (families : List AddressFamily)
    (ipv4Hosts ipv6Hosts : List Str) :
    (∃ plan, buildBasicPlan rounds families ipv4Hosts ipv6Hosts = .ok plan) ↔
      Plannable rounds families (ipv4Hosts ++ ipv6Hosts)
        (basicItems rounds families ipv4Hosts ipv6Hosts).length := by
  rw [Plannable, ← counted_iff, basicItems, ← basicTotal_eq]
  constructor
  · rintro ⟨plan, h⟩
    obtain ⟨hne, hhosts, total, htotal, hzero, -⟩ := buildBasicPlan_ok.mp h
    exact ⟨hne, hhosts, total, htotal, hzero⟩
  · rintro ⟨hne, hhosts, total, htotal, hzero⟩
    exact ⟨_, buildBasicPlan_ok.mpr ⟨hne, hhosts, total, htotal, hzero, rfl⟩⟩

theorem trace_plannable (rounds : List TraceRound) (types : List TraceType)
    (ipv4Hosts ipv6Hosts : List Str) :
    (∃ plan, buildTracePlan rounds types ipv4Hosts ipv6Hosts = .ok plan) ↔
      Plannable rounds types (ipv4Hosts ++ ipv6Hosts)
        (traceItems rounds types ipv4Hosts ipv6Hosts).length := by
  rw [Plannable, ← counted_iff, traceItems, ← traceTotal_eq]
  constructor
  · rintro ⟨plan, h⟩
    obtain ⟨hne, hhosts, total, htotal, hzero, -⟩ := buildTracePlan_iff.mp h
    exact ⟨hne, hhosts, total, htotal, hzero⟩
  · rintro ⟨hne, hhosts, total, htotal, hzero⟩
    exact ⟨_, buildTracePlan_iff.mpr ⟨hne, hhosts, total, htotal, hzero, rfl⟩⟩

/-! ## Both planners -/

/-- A plan yields the items of its configuration, and counts them. -/
theorem buildBasicPlan_items {rounds : List BasicRound} {families : List AddressFamily}
    {ipv4Hosts ipv6Hosts : List Str} {plan : BasicPlan}
    (h : buildBasicPlan rounds families ipv4Hosts ipv6Hosts = .ok plan) :
    plan.items = basicItems rounds families ipv4Hosts ipv6Hosts ∧
      plan.totalItems = plan.items.length := by
  refine ⟨?_, (buildBasicPlan_counted h).symm⟩
  obtain ⟨-, -, total, -, -, rfl⟩ := buildBasicPlan_ok.mp h
  rfl

theorem buildTracePlan_items {rounds : List TraceRound} {types : List TraceType}
    {ipv4Hosts ipv6Hosts : List Str} {plan : TracePlan}
    (h : buildTracePlan rounds types ipv4Hosts ipv6Hosts = .ok plan) :
    plan.items = traceItems rounds types ipv4Hosts ipv6Hosts ∧
      plan.totalItems = plan.items.length := by
  refine ⟨?_, (buildTracePlan_counted h).symm⟩
  obtain ⟨-, -, total, -, -, rfl⟩ := buildTracePlan_iff.mp h
  rfl

/-- What a planner announces is what it yields, every item on a host of its family and in a round
that applies to it; and exactly when a planner refuses. -/
theorem plan_totals (ipv4Hosts ipv6Hosts : List Str) :
    (∀ rounds families,
      (∀ plan, buildBasicPlan rounds families ipv4Hosts ipv6Hosts = .ok plan →
        plan.totalItems = plan.items.length ∧
        ∀ item, item ∈ plan.items ↔
          item.round ∈ rounds ∧ item.family ∈ families ∧
          item.host ∈ hostsOf ipv4Hosts ipv6Hosts item.family) ∧
      ((∃ e, buildBasicPlan rounds families ipv4Hosts ipv6Hosts = .error e) ↔
        rounds = [] ∨ families = [] ∨ (∃ host ∈ ipv4Hosts ++ ipv6Hosts, validHost host = false) ∨
        (basicItems rounds families ipv4Hosts ipv6Hosts).length = 0 ∨
        2 ^ 64 ≤ (basicItems rounds families ipv4Hosts ipv6Hosts).length)) ∧
    (∀ rounds types,
      (∀ plan, buildTracePlan rounds types ipv4Hosts ipv6Hosts = .ok plan →
        plan.totalItems = plan.items.length ∧
        ∀ item, item ∈ plan.items ↔
          item.round ∈ rounds ∧ item.probeType ∈ types ∧
          item.host ∈ hostsOf ipv4Hosts ipv6Hosts item.probeType.family ∧
          roundApplies item.round item.probeType = true) ∧
      ((∃ e, buildTracePlan rounds types ipv4Hosts ipv6Hosts = .error e) ↔
        rounds = [] ∨ types = [] ∨ (∃ host ∈ ipv4Hosts ++ ipv6Hosts, validHost host = false) ∨
        (traceItems rounds types ipv4Hosts ipv6Hosts).length = 0 ∨
        2 ^ 64 ≤ (traceItems rounds types ipv4Hosts ipv6Hosts).length)) := by
  constructor
  · intro rounds families
    refine ⟨fun plan h => ?_, refused_iff (basic_plannable rounds families ipv4Hosts ipv6Hosts)⟩
    obtain ⟨hitems, htotal⟩ := buildBasicPlan_items h
    refine ⟨htotal, fun item => ?_⟩
    rw [hitems, mem_basicItems]
  · intro rounds types
    refine ⟨fun plan h => ?_, refused_iff (trace_plannable rounds types ipv4Hosts ipv6Hosts)⟩
    obtain ⟨hitems, htotal⟩ := buildTracePlan_items h
    refine ⟨htotal, fun item => ?_⟩
    rw [hitems, mem_traceItems]

/-- Two rounds and two types on one host: the pair that does not apply is not counted. -/
theorem plan_totals_three :
    ∃ plan, buildTracePlan [.mtu1400, .standard] [.tcp4, .icmp4] ["a".toList] [] = .ok plan ∧
      plan.totalItems = plan.items.length ∧ plan.totalItems = 3 :=
  ⟨_, rfl, (((plan_totals ["a".toList] []).2 [.mtu1400, .standard] [.tcp4, .icmp4]).1 _ rfl).1, rfl⟩

/-- A round that applies to none of its probe types plans nothing. -/
example : (traceItems [.mtu1400] [.tcp4, .tcp6] ["a".toList] ["b".toList]).length = 0 := by decide

end NetworkLantern.Path
