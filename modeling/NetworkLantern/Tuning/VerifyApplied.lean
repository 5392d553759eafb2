import NetworkLantern.Tuning.Unmanaged

/-!
# Verifying what was applied

A Verify that follows a passed Apply lists the applied policies, and misses the
ports that were not applied (`verify_applied`).  It can read the machine exactly
when every application path of the plan has a backslash behind its drive
(`verify_passes_iff`).
-/

namespace NetworkLantern.Tuning

open NetworkLantern Act

variable {env : Env}

/-! ## Reading the policies back -/

/-- A policy that the inventory reads once it is created can be read as it is. -/
theorem readable_of_created {policy q : QosPolicySpec} {restoreNames : List Str}
    (hprotocol : ∀ name protocol port dscp, policy = .port name protocol port dscp →
      protocol = "TCP".toList ∨ protocol = "UDP".toList)
    (h : readPolicy restoreNames (createdPolicy policy) = .ok (some q)) :
    Readable restoreNames policy := by
  obtain ⟨hname, -, hm, hblank, -⟩ := parseQosRow_some h
  have hname : q.name = policy.name := (Option.some.inj hname).symm
  refine ⟨hname ▸ hm, hname ▸ hblank, ?_⟩
  have hrow : ∀ k ∈ qosFields, k ≠ "__PATH" →
      (Row.mk 0 ((createdPolicy policy).select qosFields)).fields k = createdFields policy k := by
    intro k hk hne
    rw [show (Row.mk 0 ((createdPolicy policy).select qosFields)).fields k = createdPolicy policy k from
      Fields.select_of_mem hk _]
    exact Fields.put_of_ne _ _ hne
  unfold readPolicy parseQosRow at h
  split at h
  · cases h
  · split at h
    · cases h
    · split at h
      · cases h
      · split at h
        · cases h
        · next dscp' hdscp =>
          have hbound := boundedNumber_le hdscp
          obtain ⟨read, hmatch, -⟩ := except_map_ok.mp h
          unfold boundedNumber at hdscp
          cases policy with
          | port name protocol port dscp =>
            rw [Row.number_of (hrow "DSCPAction" (by decide) (by decide)), Option.bind_some] at hdscp
            refine ⟨hprotocol _ _ _ _ rfl, ?_, ?_⟩
            · rintro rfl
              rw [Row.string_none (hrow "AppPathNameMatchCondition" (by decide) (by decide)),
                Row.number_of (hrow "IPPortMatchCondition" (by decide) (by decide)),
                Row.number_of (hrow "IPProtocolMatchCondition" (by decide) (by decide))] at hmatch
              simp only [Option.filter_none, parseMatch] at hmatch
              rw [if_neg (by decide)] at hmatch
              cases hmatch
            · split at hdscp
              · next hle => exact hle.2
              · cases hdscp
          | app name appPath dscp =>
            rw [Row.number_of (hrow "DSCPAction" (by decide) (by decide)), Option.bind_some] at hdscp
            refine ⟨?_, ?_⟩
            · rw [Row.string_of (hrow "AppPathNameMatchCondition" (by decide) (by decide)),
                Row.number_none (hrow "IPPortMatchCondition" (by decide) (by decide)),
                Row.number_none (hrow "IPProtocolMatchCondition" (by decide) (by decide))] at hmatch
              by_cases hempty : appPath.isEmpty = true
              · simp only [Option.filter_some, hempty, Bool.not_true, Bool.false_eq_true, if_false,
                  parseMatch] at hmatch
                cases hmatch
              · simp only [Option.filter_some, hempty, Bool.not_false, if_true, parseMatch] at hmatch
                split at hmatch
                · next hv => exact hv
                · cases hmatch
            · split at hdscp
              · next hle => exact hle.2
              · cases hdscp

/-- Reading a part that is not managed gives no policies. -/
theorem inventory_filter_unmanaged {restoreNames : List Str} {l : List Fields}
    {policies : List QosPolicySpec} (h : inventory restoreNames l = .ok policies) :
    inventory restoreNames (l.filter fun f => !isManaged restoreNames f) = .ok [] := by
  induction l generalizing policies with
  | nil => rfl
  | cons f l ih =>
    obtain ⟨policy, hread, h1⟩ := except_bind_ok.mp h
    obtain ⟨rest, hrest, -⟩ := except_bind_ok.mp h1
    have hm := (readPolicy_ok hread).2
    cases policy with
    | some p =>
      rw [List.filter_cons_of_neg (by rw [hm]; exact Bool.false_ne_true)]
      exact ih hrest
    | none =>
      rw [List.filter_cons_of_pos (by rw [hm]; rfl)]
      exact except_bind_ok.mpr ⟨none, hread, except_bind_ok.mpr ⟨[], ih hrest, rfl⟩⟩

/-- The names in an inventory of created policies that are managed. -/
theorem inventory_created_names {restoreNames : List Str} {policies result : List QosPolicySpec}
    (hm : ∀ policy ∈ policies, managedQosName policy.name restoreNames = true)
    (h : inventory restoreNames (policies.map createdPolicy) = .ok result) :
    qosNames result = qosNames policies := by
  induction policies generalizing result with
  | nil => cases h; rfl
  | cons policy policies ih =>
    rw [List.forall_mem_cons] at hm
    obtain ⟨read, hread, h1⟩ := except_bind_ok.mp h
    obtain ⟨rest, hrest, h2⟩ := except_bind_ok.mp h1
    cases h2
    have hsome := (readPolicy_ok hread).2
    rw [isManaged_createdPolicy, hm.1] at hsome
    cases read with
    | none => cases hsome
    | some q =>
      have hname : some q.name = some policy.name := (parseQosRow_some hread).1.symm
      show q.name :: qosNames rest = policy.name :: qosNames policies
      rw [ih hm.2 hrest, Option.some.inj hname]

/-- A read of the policies lists the inventory of the machine. -/
theorem readQos_inventory {names : List Str} {policies : List QosPolicySpec} {w w' : World}
    (h : readQos names w = (.ok policies, w')) :
    inventory names w.machine.qos.rows = .ok policies := by
  obtain ⟨rows, w1, hquery, h1⟩ := bind_ok.mp h
  obtain ⟨-, -, hrows⟩ := query_ok hquery
  obtain ⟨managed, w2, hlift, h2⟩ := bind_ok.mp h1
  cases h2
  rw [← parseRows_map (hrows ▸ rows_all w.machine.qos.rows qosFields), (lift_ok.mp hlift).1]
  rfl

/-! ## Ports -/

theorem lower_portName (port : UInt16) :
    Str.lower ("NETWORK_LANTERN_QOS_PORT_".toList ++ decimal port.toNat) =
      "network_lantern_qos_port_".toList ++ decimal port.toNat := by
  rw [Str.lower_append, lower_decimal]
  rfl

theorem lower_legacyName (port : UInt16) :
    Str.lower ("NDS_QOS_PORT_".toList ++ decimal port.toNat) =
      "nds_qos_port_".toList ++ decimal port.toNat := by
  rw [Str.lower_append, lower_decimal]
  rfl

theorem lower_appName (index : Nat) :
    Str.lower ("NETWORK_LANTERN_QOS_APP_".toList ++ decimal index) =
      "network_lantern_qos_app_".toList ++ decimal index := by
  rw [Str.lower_append, lower_decimal]
  rfl

/-- The names of a plan cover a port exactly when the plan has it. -/
theorem hasPortPolicy_desired {plan : TuningPlan} {port : UInt16} :
    hasPortPolicy (qosNames (desiredQos plan)) port = true ↔ port ∈ plan.config.udpPorts := by
  unfold hasPortPolicy
  simp only [List.any_eq_true, Bool.or_eq_true, Str.eqCI_iff, lower_portName, lower_legacyName]
  constructor
  · rintro ⟨name, hn, hname⟩
    obtain ⟨policy, hp, rfl⟩ := List.mem_map.mp hn
    unfold desiredQos at hp
    rcases List.mem_append.mp hp with hp | hp
    · obtain ⟨p, hmem, rfl⟩ := List.mem_map.mp hp
      rw [show Str.lower (portPolicy plan.config.dscp p).name = _ from lower_portName p] at hname
      rcases hname with hname | hname
      · rw [List.append_cancel_left_eq] at hname
        rw [← UInt16.toNat.inj (decimal_injective hname)]
        exact hmem
      · exact absurd (congrArg (fun s => s[1]?) hname) (by simp)
    · split at hp
      · obtain ⟨index, hlt, rfl⟩ := List.mem_mapIdx.mp hp
        rw [show Str.lower (appPolicy plan.config.dscp index _).name = _ from lower_appName index] at hname
        rcases hname with hname | hname
        · exact absurd (congrArg (fun s => s[20]?) hname) (by simp)
        · exact absurd (congrArg (fun s => s[1]?) hname) (by simp)
      · cases hp
  · intro hmem
    refine ⟨(portPolicy plan.config.dscp port).name, ?_, Or.inl (lower_portName port)⟩
    refine List.mem_map_of_mem (List.mem_append_left _ ?_)
    exact List.mem_map_of_mem hmem

/-! ## Verifying after an Apply -/

/-- What a verification reports. -/
theorem evaluate_eq (config : TuningConfig) (names : List Str) (enabled : Option Bool) :
    (evaluate config names enabled).managedPolicies = names ∧
      (evaluate config names enabled).missingPorts =
        config.udpPorts.filter (fun port => !hasPortPolicy names port) ∧
      ((evaluate config names enabled).success = true ↔
        enabled = some true ∧ (evaluate config names enabled).missingPorts = []) := by
  unfold evaluate
  by_cases hmissing : (config.udpPorts.filter fun port => !hasPortPolicy names port) = []
  · simp only [hmissing, List.isEmpty_nil, if_true]
    rcases enabled with _ | _ | _ <;> simp [TuningResult.insert]
  · have hempty : (config.udpPorts.filter fun port => !hasPortPolicy names port).isEmpty = false :=
      List.isEmpty_eq_false_iff.mpr hmissing
    simp only [hempty, Bool.false_eq_true, if_false]
    rcases enabled with _ | _ | _ <;> simp [TuningResult.insert, TuningResult.warn, hmissing]

/-- A verification reads. -/
theorem execute_reads {q : TuningPlan} {inspectOnly : Bool} (hdry : q.config.dryRun = false)
    (hverify : inspectOnly = true ∨ q.config.action = .verify) :
    Keeps Reads (execute env q inspectOnly) := by
  refine Keeps.bind Reads.trans checkCancel_reads fun _ => ?_
  simp only [hdry, Bool.false_eq_true, if_false]
  refine Keeps.bind Reads.trans checkCancel_reads fun _ => ?_
  refine Keeps.bind Reads.trans (inspect_reads _ _) fun _ => ?_
  refine Keeps.bind Reads.trans (readQos_reads []) fun currentQos => ?_
  rw [if_pos hverify]
  refine Keeps.bind Reads.trans inspectLocalQosEnabled_reads fun _ => ?_
  exact Keeps.bind Reads.trans (backupFolder_reads q) fun _ => Keeps.pure Reads.refl _

/-- What a passed Apply is, seen from its world before and after. -/
structure AppliedRun (env : Env) (plan : TuningPlan) (w w' : World) : Prop where
  ready : ∃ folder bundle, Stands env (.configured folder) bundle w' ∧
    Applied plan bundle w.machine w'.machine
  readable : ∃ policies, inventory [] w.machine.qos.rows = .ok policies

theorem execute_applied {plan : TuningPlan} (ha : plan.config.action = .apply)
    (hdry : plan.config.dryRun = false) {w w' : World} {result : TuningResult}
    (h : execute env plan false w = (.ok result, w')) : AppliedRun env plan w w' := by
  obtain ⟨_, w1, hcancel, h1⟩ := bind_ok.mp h
  simp only [hdry, Bool.false_eq_true, if_false] at h1
  obtain ⟨_, w2, hcancel2, h2⟩ := bind_ok.mp h1
  obtain ⟨_, w3, hconnect, h3⟩ := bind_ok.mp h2
  obtain ⟨currentQos, w4, hread, h4⟩ := bind_ok.mp h3
  have m1 := (checkCancel_reads.run hcancel).machine
  have m2 := (checkCancel_reads.run hcancel2).machine
  have m3 := ((inspect_reads _ _).run hconnect).machine
  have m4 := ((readQos_reads []).run hread).machine
  have hmachine3 : w3.machine = w.machine := m3.trans (m2.trans m1)
  rw [if_neg (by simp [ha])] at h4
  obtain ⟨folder, w5, hfolder, h5⟩ := bind_ok.mp h4
  have m5 := ((backupFolder_reads plan).run hfolder).machine
  simp only [ha] at h5
  obtain ⟨result1, w6, hrun, h6⟩ := bind_ok.mp h5
  have hw6 : w6 = w' := (Prod.mk.inj h6).2
  obtain ⟨bundle, hstands, happlied, -⟩ := executeApply_ok hrun
  rw [hw6] at hstands happlied
  rw [show w5.machine = w.machine from m5.trans (m4.trans hmachine3)] at happlied
  exact ⟨⟨folder, bundle, hstands, happlied⟩, currentQos, hmachine3 ▸ readQos_inventory hread⟩

/-- A passed verification, from its reads. -/
theorem execute_verified {q : TuningPlan} {inspectOnly : Bool} (hdry : q.config.dryRun = false)
    (hverify : inspectOnly = true ∨ q.config.action = .verify) {w w' : World} {v : TuningResult}
    (h : execute env q inspectOnly w = (.ok v, w')) :
    w'.machine = w.machine ∧ ∃ policies, inventory [] w.machine.qos.rows = .ok policies ∧
      v.managedPolicies = qosNames policies ∧
        v.missingPorts = q.config.udpPorts.filter fun port => !hasPortPolicy (qosNames policies) port := by
  obtain ⟨_, w1, hcancel, h1⟩ := bind_ok.mp h
  simp only [hdry, Bool.false_eq_true, if_false] at h1
  obtain ⟨_, w2, hcancel2, h2⟩ := bind_ok.mp h1
  obtain ⟨_, w3, hconnect, h3⟩ := bind_ok.mp h2
  obtain ⟨policies, w4, hread, h4⟩ := bind_ok.mp h3
  have m1 := (checkCancel_reads.run hcancel).machine
  have m2 := (checkCancel_reads.run hcancel2).machine
  have m3 := ((inspect_reads _ _).run hconnect).machine
  have hmachine3 : w3.machine = w.machine := m3.trans (m2.trans m1)
  rw [if_pos hverify] at h4
  obtain ⟨enabled, w5, hinspect, h5⟩ := bind_ok.mp h4
  obtain ⟨folder, w6, hfolder, h6⟩ := bind_ok.mp h5
  have hv : { evaluate q.config (qosNames policies) enabled with
      backupFolder := some (.configured folder) } = v := Except.ok.inj (Prod.mk.inj h6).1
  refine ⟨((execute_reads hdry hverify).run h).machine, policies, hmachine3 ▸ readQos_inventory hread,
    ?_, ?_⟩
  · rw [← hv]
    exact (evaluate_eq _ _ _).1
  · rw [← hv]
    exact (evaluate_eq _ _ _).2.1

theorem applied_verified {p q : TuningPlan} {inspectOnly : Bool} {w w' w'' : World}
    {result v : TuningResult} (ha : p.config.action = .apply) (hp : p.config.dryRun = false)
    (hq : q.config.dryRun = false) (hverify : inspectOnly = true ∨ q.config.action = .verify)
    (hrun : execute env p false w = (.ok result, w'))
    (hv : execute env q inspectOnly w' = (.ok v, w'')) :
    v.managedPolicies = qosNames (desiredQos p) ∧
      (∀ port, port ∈ v.missingPorts ↔ port ∈ q.config.udpPorts ∧ port ∉ p.config.udpPorts) ∧
      w''.machine = w'.machine := by
  obtain ⟨⟨folder, bundle, -, happlied⟩, before, hbefore⟩ := execute_applied ha hp hrun
  obtain ⟨hmachine, policies, hinventory, hnames, hmissing⟩ := execute_verified hq hverify hv
  rw [happlied.qos] at hinventory
  obtain ⟨x, y, hx, hy, rfl⟩ := inventory_append.mp hinventory
  rw [inventory_filter_unmanaged hbefore] at hx
  cases hx
  rw [List.nil_append] at hnames hmissing
  rw [inventory_created_names (fun policy hp => (desiredQos_managed hp []).1) hy] at hnames hmissing
  refine ⟨hnames, fun port => ?_, hmachine⟩
  rw [hmissing, List.mem_filter, Bool.not_eq_true', Bool.eq_false_iff, Ne, hasPortPolicy_desired]

/-- **Verified.**  A Verify after a passed Apply changes nothing; when it passes it lists the
policies of the plan, and misses of its own ports exactly those that the plan did not have. -/
theorem verify_applied {p q : TuningPlan} {inspectOnly : Bool} (ha : p.config.action = .apply)
    (hp : p.config.dryRun = false) (hq : q.config.dryRun = false)
    (hverify : inspectOnly = true ∨ q.config.action = .verify) (w : World) :
    Act.Ends (execute env p false) w
      (fun _ w' => Act.Ends (execute env q inspectOnly) w'
        (fun v w'' => v.managedPolicies = qosNames (desiredQos p) ∧
          (∀ port, port ∈ v.missingPorts ↔ port ∈ q.config.udpPorts ∧ port ∉ p.config.udpPorts) ∧
          w''.machine = w'.machine)
        (fun _ w'' => w''.machine = w'.machine))
      (fun _ _ => True) := by
  refine ⟨fun result w' hrun => ?_, fun _ _ _ => trivial⟩
  refine ⟨fun v w'' hv => applied_verified ha hp hq hverify hrun hv, fun e w'' hv => ?_⟩
  exact ((execute_reads hq hverify).run hv).machine

/-- A Verify of two ports, of which one has been applied. -/
def verifyPlan : TuningPlan where
  config := { portsConfig with action := .verify, udpPorts := [5004, 5006] }
  steps := [.inspectManagedState]
  mutating := false
  requiresHelper := false

theorem verify_applied_ports :
    Act.Ends (execute (plainEnv bareDigests) portsPlan false) (bareWorld [])
      (fun _ w' => Act.Ends (execute (plainEnv bareDigests) verifyPlan false) w'
        (fun v w'' => v.managedPolicies = qosNames (desiredQos portsPlan) ∧
          (∀ port, port ∈ v.missingPorts ↔
            port ∈ verifyPlan.config.udpPorts ∧ port ∉ portsPlan.config.udpPorts) ∧
          w''.machine = w'.machine)
        (fun _ w'' => w''.machine = w'.machine))
      (fun _ _ => True) :=
  verify_applied rfl rfl rfl (Or.inr rfl) (bareWorld [])

/-! ## When a verification passes -/

/-- No coming call fails. -/
def Quiet (w : World) : Prop := ∀ entry ∈ w.script, entry = none

theorem Quiet.next {w : World} (h : Quiet w) : w.nextFailure = none := by
  unfold World.nextFailure
  cases hs : w.script with
  | nil => rfl
  | cons entry script =>
    rw [List.head?_cons, h entry (by rw [hs]; exact List.mem_cons_self)]
    rfl

theorem Quiet.advance {w : World} (h : Quiet w) : Quiet w.advance :=
  fun entry he => h entry (List.mem_of_mem_tail he)

theorem Quiet.inspect {α : Type} {failure : Failure → TuningError}
    {read : World → Except TuningError α} {a : α} {w : World} (h : Quiet w)
    (hread : read w.advance = .ok a) : Tuning.inspect failure read w = (.ok a, w.advance) :=
  inspect_ok.mpr ⟨h.next, rfl, hread⟩

/-- Once its query has passed, the inventory is that of the store. -/
theorem readQos_of_query {names : List Str} {policies : List QosPolicySpec} {rows : List Row}
    {w w' : World} (h : Session.query .netQosPolicy qosFields w = (.ok rows, w'))
    (hinventory : inventory names w.machine.qos.rows = .ok policies) :
    readQos names w = (.ok policies, w') := by
  obtain ⟨-, -, rfl⟩ := query_ok h
  have hmap : (parseRows names _).map (List.map Prod.snd) = inventory names _ :=
    parseRows_map (rows_all w.machine.qos.rows qosFields)
  rw [hinventory] at hmap
  obtain ⟨managed, hparse, hpolicies⟩ := except_map_ok.mp hmap
  refine bind_ok.mpr ⟨_, _, h, bind_ok.mpr ⟨managed, _, lift_ok.mpr ⟨hparse, rfl⟩, ?_⟩⟩
  rw [← hpolicies]
  rfl

theorem readQos_quiet {names : List Str} {policies : List QosPolicySpec} {w : World} (h : Quiet w)
    (hrows : w.machine.qos.rows.length ≤ Session.maxRows)
    (hinventory : inventory names w.machine.qos.rows = .ok policies) :
    readQos names w = (.ok policies, w.advance) :=
  readQos_of_query (query_passes qosFields h.next hrows) hinventory

theorem inspectLocalQos_quiet {w : World} (h : Quiet w)
    (hvalue : w.machine.registry tcpipQosKey doNotUseNla = some (encodeString "1")) :
    ∃ w', inspectLocalQosEnabled w = (.ok (some true), w') := by
  have hread : readRegistryRaw tcpipQosKey doNotUseNla w =
      (.ok (some (encodeString "1")), w.advance.advance.advance) := by
    refine bind_ok.mpr ⟨_, _, h.inspect rfl, ?_⟩
    refine bind_ok.mpr ⟨_, _, h.advance.inspect rfl, ?_⟩
    simp only [World.advance_machine, hvalue, Option.map_some]
    rw [if_neg (by decide)]
    exact h.advance.advance.inspect (by rw [World.advance_machine, World.advance_machine,
      World.advance_machine, hvalue])
  refine ⟨w.advance.advance.advance, bind_ok.mpr ⟨_, _, attempt_ok.mpr hread, ?_⟩⟩
  show (Except.ok (if _ then _ else _), _) = _
  have hlast : ∀ c ∈ ("1" : Str).getLast?, c ≠ '\x00' := by
    intro c hc
    cases hc
    decide
  rw [if_pos (by decide), decodeString_encodeString hlast]
  rfl

/-- Inspecting the local QoS never fails. -/
theorem inspectLocalQosEnabled_passes (w : World) :
    ∃ enabled w', inspectLocalQosEnabled w = (.ok enabled, w') := by
  rcases hread : readRegistryRaw tcpipQosKey doNotUseNla w with ⟨r, w1⟩
  unfold inspectLocalQosEnabled
  rw [attempt_bind hread]
  cases r with
  | error e => exact ⟨_, _, rfl⟩
  | ok data => cases data <;> exact ⟨_, _, rfl⟩

theorem backupFolder_passes (q : TuningPlan) (w : World) :
    ∃ folder w', backupFolder env q w = (.ok folder, w') := by
  unfold backupFolder
  cases q.config.backupFolder with
  | some folder => exact ⟨_, _, rfl⟩
  | none => exact ⟨_, _, rfl⟩

theorem executeVerify_passes (q : TuningPlan) (names : List Str) (w : World) :
    ∃ v w', executeVerify env q names w = (.ok v, w') := by
  obtain ⟨enabled, w1, hinspect⟩ := inspectLocalQosEnabled_passes w
  obtain ⟨folder, w2, hfolder⟩ := @backupFolder_passes env q w1
  exact ⟨_, _, bind_ok.mpr ⟨_, _, hinspect, bind_ok.mpr ⟨_, _, hfolder, rfl⟩⟩⟩

/-- The calls before the local QoS is inspected. -/
theorem execute_quiet {q : TuningPlan} {inspectOnly : Bool} (hdry : q.config.dryRun = false)
    (hverify : inspectOnly = true ∨ q.config.action = .verify) {w : World} (hquiet : Quiet w)
    (hrows : w.machine.qos.rows.length ≤ Session.maxRows) {policies : List QosPolicySpec}
    (hinventory : inventory [] w.machine.qos.rows = .ok policies) :
    execute env q inspectOnly w =
      executeVerify env q (qosNames policies) w.advance.advance.advance.advance := by
  have h1 := hquiet.advance
  have h2 := h1.advance
  have h3 := h2.advance
  have hcancel : ∀ {v : World}, Quiet v → checkCancel v = (.ok (), v.advance) := fun h => h.inspect rfl
  have hread : readQos [] w.advance.advance.advance = (.ok policies, w.advance.advance.advance.advance) :=
    readQos_quiet h3 hrows hinventory
  unfold execute executeSync
  rw [bind_of_ok (hcancel hquiet)]
  simp only [hdry, Bool.false_eq_true, if_false]
  have hconnect : inspect (nativeFailure "connect native CIM provider") (fun _ => .ok ())
      w.advance.advance = (.ok (), w.advance.advance.advance) := h2.inspect rfl
  rw [bind_of_ok (hcancel h1), bind_of_ok hconnect, bind_of_ok hread, if_pos hverify]

/-- The port policies of a plan are for UDP. -/
theorem desiredQos_protocol {plan : TuningPlan} {name protocol : Str} {port : UInt16} {dscp : UInt8}
    (h : .port name protocol port dscp ∈ desiredQos plan) : protocol = "UDP".toList := by
  unfold desiredQos at h
  rcases List.mem_append.mp h with h | h
  · obtain ⟨_, -, heq⟩ := List.mem_map.mp h
    cases heq
    rfl
  · split at h
    · obtain ⟨_, _, heq⟩ := List.mem_mapIdx.mp h
      cases heq
    · cases h

/-- **A verification of what was applied**, of which no call fails, can read the machine exactly
when every application path of the plan has a backslash behind its drive; and it succeeds when
no port is missing, if the backup could restore "Do not use NLA". -/
theorem verify_passes_iff {config : TuningConfig} {p q : TuningPlan} {inspectOnly : Bool}
    (h : plan config = .ok p) (ha : p.config.action = .apply) (hp : p.config.dryRun = false)
    (hq : q.config.dryRun = false) (hverify : inspectOnly = true ∨ q.config.action = .verify)
    (w : World) :
    Act.Ends (execute env p false) w
      (fun _ w' => Quiet w' → w'.machine.qos.rows.length ≤ Session.maxRows →
        ((∃ v w'', execute env q inspectOnly w' = (.ok v, w'')) ↔ BackslashPaths config) ∧
        ∃ folder bundle, Stands env (.configured folder) bundle w' ∧
          (bundle.manifest.components.tcpipQos = true → ∀ v w'',
            execute env q inspectOnly w' = (.ok v, w'') → (v.success = true ↔ v.missingPorts = [])))
      (fun _ _ => True) := by
  refine ⟨fun result w' hrun hquiet hrows => ?_, fun _ _ _ => trivial⟩
  obtain ⟨⟨folder, bundle, hstands, happlied⟩, policies, hbefore⟩ := execute_applied ha hp hrun
  have hunmanaged := inventory_filter_unmanaged hbefore
  refine ⟨⟨?_, fun hpaths => ?_⟩, folder, bundle, hstands, fun htcpip v w'' hv => ?_⟩
  · rintro ⟨v, w'', hv⟩
    obtain ⟨-, policies', hinventory, -⟩ := execute_verified hq hverify hv
    rw [happlied.qos] at hinventory
    obtain ⟨x, y, -, hy, -⟩ := inventory_append.mp hinventory
    refine (desiredQos_readable_iff h).mp fun policy hmem => ?_
    obtain ⟨read, hread, -⟩ := inventory_mem hy (List.mem_map_of_mem hmem)
    have hsome := (readPolicy_ok hread).2
    rw [isManaged_createdPolicy, (desiredQos_managed hmem []).1] at hsome
    obtain ⟨r, rfl⟩ := Option.isSome_iff_exists.mp hsome.symm
    refine readable_of_created (fun name protocol port dscp heq => Or.inr ?_) hread
    subst heq
    exact desiredQos_protocol hmem
  · have hinventory : inventory [] w'.machine.qos.rows = .ok (desiredQos p) := by
      rw [happlied.qos]
      exact inventory_append.mpr ⟨[], desiredQos p, hunmanaged,
        inventory_created ((desiredQos_readable_iff h).mpr hpaths), rfl⟩
    rw [execute_quiet hq hverify hquiet hrows hinventory]
    exact executeVerify_passes _ _ _
  · obtain ⟨-, policies', hinventory, -⟩ := execute_verified hq hverify hv
    rw [execute_quiet hq hverify hquiet hrows hinventory] at hv
    have hvalue : w'.machine.registry tcpipQosKey doNotUseNla = some (encodeString "1") := by
      rw [happlied.registry, if_pos ⟨htcpip, rfl, rfl⟩]
    obtain ⟨v1, hinspect⟩ := inspectLocalQos_quiet hquiet.advance.advance.advance.advance hvalue
    obtain ⟨enabled, w1, hinspect', h1⟩ := bind_ok.mp hv
    rw [hinspect] at hinspect'
    cases hinspect'
    obtain ⟨found, w2, -, h2⟩ := bind_ok.mp h1
    cases h2
    rw [show _ ↔ _ from (evaluate_eq q.config (qosNames policies') (some true)).2.2]
    exact ⟨fun hand => hand.2, fun hmissing => ⟨rfl, hmissing⟩⟩

theorem verify_passes_iff_ports :
    Act.Ends (execute (plainEnv bareDigests) portsPlan false) (bareWorld [])
      (fun _ w' => Quiet w' → w'.machine.qos.rows.length ≤ Session.maxRows →
        ((∃ v w'', execute (plainEnv bareDigests) verifyPlan false w' = (.ok v, w'')) ↔
          BackslashPaths portsConfig) ∧
        ∃ folder bundle, Stands (plainEnv bareDigests) (.configured folder) bundle w' ∧
          (bundle.manifest.components.tcpipQos = true → ∀ v w'',
            execute (plainEnv bareDigests) verifyPlan false w' = (.ok v, w'') →
              (v.success = true ↔ v.missingPorts = [])))
      (fun _ _ => True) :=
  verify_passes_iff plan_ports rfl rfl rfl (Or.inr rfl) (bareWorld [])

end NetworkLantern.Tuning
