import NetworkLantern.Lib.Blocks
import NetworkLantern.Throughput.PlanCount

/-!
# The tests of a plan, in order

`reference` writes the tests of a configuration down as a cross product: class by
class, the TCP matrix (directions, then streams, then windows), the two tests at
the fixed rate, and the saturation steps, both ways at each rate.

`TestPlanIter` lists exactly these (`plan_enumerates`): what is pending at its
counters is the reference from there on, and a call takes the first of it.
-/

namespace NetworkLantern.Throughput

open NetworkLantern

/-! ## The reference -/

def matrixDirections (capabilities : ServerCapabilities) : List Direction :=
  if capabilities.bidirectional then [.tx, .rx, .bidirectional] else [.tx, .rx]

def matrixCase (dscp : DscpClass) (direction : Direction) (streams : UInt16)
    (window : Option UInt32) : PlanCase where
  protocol := .tcp
  direction := direction
  dscp := dscp
  streams := streams
  window := window
  udpRate := none
  phase := .tcpMatrix

def udpCase (phase : TestPhase) (dscp : DscpClass) (rate : UInt64) (direction : Direction) :
    PlanCase where
  protocol := .udp
  direction := direction
  dscp := dscp
  streams := 1
  window := none
  udpRate := some rate
  phase := phase

def tcpMatrix (config : SuiteConfig) (capabilities : ServerCapabilities) (dscp : DscpClass) :
    List PlanCase :=
  (matrixDirections capabilities).flatMap fun direction =>
    config.tcpStreams.flatMap fun streams =>
      config.tcpWindowsBytes.map fun window => matrixCase dscp direction streams window

def udpFixed (config : SuiteConfig) (dscp : DscpClass) : List PlanCase :=
  [.tx, .rx].map (udpCase .udpFixed dscp config.udpStartBps)

/-- The rate of a step, without a bound. -/
def stepRate (config : SuiteConfig) (step : Nat) : UInt64 :=
  UInt64.ofNat (config.udpStartBps.toNat + config.udpStepBps.toNat * step)

def udpSaturation (config : SuiteConfig) (dscp : DscpClass) : List PlanCase :=
  (List.range (saturationSteps config)).flatMap fun step =>
    [.tx, .rx].map (udpCase .udpSaturation dscp (stepRate config step))

def udpCases (config : SuiteConfig) (dscp : DscpClass) : List PlanCase :=
  (if config.protocol = .tcp then [] else udpFixed config dscp) ++ udpSaturation config dscp

def classCases (config : SuiteConfig) (capabilities : ServerCapabilities) (dscp : DscpClass) :
    List PlanCase :=
  (if config.protocol = .udp then [] else tcpMatrix config capabilities dscp) ++ udpCases config dscp

def singleCase (config : SuiteConfig) : PlanCase where
  protocol := if config.protocol = .udp then .udp else .tcp
  direction := .tx
  dscp := config.dscpClasses.headD .cs0
  streams := 1
  window := none
  udpRate := if config.protocol = .udp then some config.udpStartBps else none
  phase := .single

def planCases (config : SuiteConfig) (capabilities : ServerCapabilities) : List PlanCase :=
  if config.singleTest then [singleCase config]
  else config.dscpClasses.flatMap (classCases config capabilities)

def specOf (config : SuiteConfig) (id : Nat) (c : PlanCase) : TestSpec where
  id := UInt64.ofNat id
  target := config.target
  port := config.port
  ipVersion := config.ipVersion
  protocol := c.protocol
  direction := c.direction
  dscp := c.dscp
  tos := c.dscp.tos
  streams := c.streams
  tcpWindowBytes := c.window
  udpRateBps := c.udpRate
  durationSecs := config.durationSecs
  omitSecs := config.omitSecs
  phase := c.phase

/-- The tests for some cases, numbered from `id` on. -/
def numbered (config : SuiteConfig) (id : Nat) : List PlanCase → List TestSpec
  | [] => []
  | c :: cases => specOf config id c :: numbered config (id + 1) cases

def reference (config : SuiteConfig) (capabilities : ServerCapabilities) : List TestSpec :=
  numbered config 1 (planCases config capabilities)

/-! ## Rates -/

/-- Each step stays between the configured rates. -/
theorem stepRate_le {config : SuiteConfig} {step : Nat} (h : step < saturationSteps config) :
    config.udpStartBps.toNat + config.udpStepBps.toNat * step ≤ config.udpMaxBps.toNat := by
  unfold saturationSteps at h
  split at h
  · omega
  · next hsome =>
    have hrates : config.udpStartBps.toNat < config.udpMaxBps.toNat := by
      simp only [Bool.or_eq_true, decide_eq_true_eq, not_or] at hsome
      exact UInt64.lt_iff_toNat_lt.mp (UInt64.not_le.mp hsome.2)
    have hstep : step ≤ (config.udpMaxBps.toNat - config.udpStartBps.toNat) /
        config.udpStepBps.toNat := by omega
    have hproduct := Nat.le_trans (Nat.mul_le_mul_left config.udpStepBps.toNat hstep)
      (Nat.mul_div_le _ _)
    omega

theorem toNat_stepRate {config : SuiteConfig} {step : Nat} (h : step < saturationSteps config) :
    (stepRate config step).toNat = config.udpStartBps.toNat + config.udpStepBps.toNat * step := by
  have hle := stepRate_le h
  have hmax := config.udpMaxBps.toNat_lt
  exact UInt64.toNat_ofNat_of_lt' (by show _ < 2 ^ 64; omega)

/-- No step saturates. -/
theorem saturationRate_eq {config : SuiteConfig} {step : Nat} (h : step < saturationSteps config) :
    TestPlanIter.saturationRate config step = stepRate config step := by
  have hle := stepRate_le h
  have hmax := config.udpMaxBps.toNat_lt
  unfold TestPlanIter.saturationRate stepRate u64Max
  rw [Nat.min_eq_left (by omega), Nat.min_eq_left (by omega)]

/-! ## Positions -/

section
variable {config : SuiteConfig} {capabilities : ServerCapabilities} {dscp : DscpClass}

theorem length_tcpMatrix : (tcpMatrix config capabilities dscp).length =
    directionCount capabilities * config.tcpStreams.length * config.tcpWindowsBytes.length := by
  have hrow : ∀ direction, (config.tcpStreams.flatMap fun streams =>
      config.tcpWindowsBytes.map fun window => matrixCase dscp direction streams window).length =
        config.tcpStreams.length * config.tcpWindowsBytes.length := fun direction =>
    length_blocks (fun streams => List.length_map _) config.tcpStreams
  have hdirections : (matrixDirections capabilities).length = directionCount capabilities := by
    unfold matrixDirections directionCount
    split <;> rfl
  unfold tcpMatrix
  rw [length_blocks hrow, hdirections, Nat.mul_assoc]

/-- The entry of the matrix for a direction, a stream count and a window. -/
theorem getElem?_tcpMatrix {d s w : Nat} (hd : d < (matrixDirections capabilities).length)
    (hs : s < config.tcpStreams.length) (hw : w < config.tcpWindowsBytes.length) :
    (tcpMatrix config capabilities dscp)[(d * config.tcpStreams.length + s) *
        config.tcpWindowsBytes.length + w]? =
      some (matrixCase dscp ((matrixDirections capabilities).getD d .tx)
        (config.tcpStreams.getD s 0) (config.tcpWindowsBytes.getD w none)) := by
  have hrow : ∀ direction, (config.tcpStreams.flatMap fun streams =>
      config.tcpWindowsBytes.map fun window => matrixCase dscp direction streams window).length =
        config.tcpStreams.length * config.tcpWindowsBytes.length := fun direction =>
    length_blocks (fun streams => List.length_map _) config.tcpStreams
  have hinner : s * config.tcpWindowsBytes.length + w <
      config.tcpStreams.length * config.tcpWindowsBytes.length :=
    calc s * config.tcpWindowsBytes.length + w
        < (s + 1) * config.tcpWindowsBytes.length := by rw [Nat.succ_mul]; omega
      _ ≤ config.tcpStreams.length * config.tcpWindowsBytes.length := Nat.mul_le_mul_right _ hs
  have hindex : (d * config.tcpStreams.length + s) * config.tcpWindowsBytes.length + w =
      d * (config.tcpStreams.length * config.tcpWindowsBytes.length) +
        (s * config.tcpWindowsBytes.length + w) := by
    rw [Nat.add_mul, Nat.mul_assoc, Nat.add_assoc]
  unfold tcpMatrix
  rw [hindex, getElem?_blocks hrow _ _ hinner, List.getElem?_eq_getElem hd, Option.bind_some,
    getElem?_blocks (fun streams => List.length_map _) _ _ hw, List.getElem?_eq_getElem hs,
    Option.bind_some, List.getElem?_map, List.getElem?_eq_getElem hw]
  simp only [Option.map_some, List.getD_eq_getElem?_getD, List.getElem?_eq_getElem hd,
    List.getElem?_eq_getElem hs, List.getElem?_eq_getElem hw, Option.getD_some]

theorem length_udpSaturation :
    (udpSaturation config dscp).length = 2 * saturationSteps config := by
  have hblock : ∀ step, ([Direction.tx, .rx].map
      (udpCase .udpSaturation dscp (stepRate config step))).length = 2 := fun _ => rfl
  unfold udpSaturation
  rw [length_blocks hblock, List.length_range, Nat.mul_comm]

/-- The entry of a saturation step and a direction. -/
theorem getElem?_udpSaturation {step d : Nat} (hstep : step < saturationSteps config) (hd : d < 2) :
    (udpSaturation config dscp)[2 * step + d]? =
      some (udpCase .udpSaturation dscp (stepRate config step) (TestPlanIter.udpDirection d)) := by
  have hblock : ∀ step, ([Direction.tx, .rx].map
      (udpCase .udpSaturation dscp (stepRate config step))).length = 2 := fun _ => rfl
  unfold udpSaturation
  rw [Nat.mul_comm, getElem?_blocks hblock _ _ hd, List.getElem?_range hstep]
  match d with
  | 0 => rfl
  | 1 => rfl

theorem getElem?_udpFixed {d : Nat} (hd : d < 2) :
    (udpFixed config dscp)[d]? =
      some (udpCase .udpFixed dscp config.udpStartBps (TestPlanIter.udpDirection d)) := by
  match d with
  | 0 => rfl
  | 1 => rfl

theorem length_classCases (hmany : config.singleTest = false) :
    (classCases config capabilities dscp).length =
      tcpPerDscp config capabilities + udpPerDscp config := by
  unfold classCases udpCases
  rw [udpPerDscp_eq hmany, List.length_append, List.length_append, length_udpSaturation]
  by_cases hudp : config.protocol = .udp
  · rw [if_pos hudp, tcpPerDscp_udp hudp]
    by_cases htcp : config.protocol = .tcp
    · rw [if_pos htcp, if_pos htcp]
      rfl
    · rw [if_neg htcp, if_neg htcp]
      rfl
  · rw [if_neg hudp, tcpPerDscp_eq hmany hudp, length_tcpMatrix]
    by_cases htcp : config.protocol = .tcp
    · rw [if_pos htcp, if_pos htcp]
      rfl
    · rw [if_neg htcp, if_neg htcp]
      rfl

end

/-- The closed form counts the cases. -/
theorem length_planCases (config : SuiteConfig) (capabilities : ServerCapabilities) :
    (planCases config capabilities).length = totalTests config capabilities := by
  unfold planCases totalTests dscpCount
  by_cases hsingle : config.singleTest = true
  · rw [if_pos hsingle, if_pos hsingle]
    rfl
  · rw [if_neg hsingle, if_neg hsingle, if_neg hsingle]
    exact length_blocks (fun dscp => length_classCases (Bool.eq_false_iff.mpr hsingle)) _

/-! ## Numbering -/

theorem length_numbered (config : SuiteConfig) (id : Nat) (cases : List PlanCase) :
    (numbered config id cases).length = cases.length := by
  induction cases generalizing id with
  | nil => rfl
  | cons c cases ih => exact congrArg (· + 1) (ih (id + 1))

theorem take_numbered (config : SuiteConfig) (id n : Nat) (cases : List PlanCase) :
    (numbered config id cases).take n = numbered config id (cases.take n) := by
  induction cases generalizing id n with
  | nil => simp [numbered]
  | cons c cases ih =>
    match n with
    | 0 => rfl
    | n + 1 => exact congrArg (specOf config id c :: ·) (ih (id + 1) n)

theorem drop_numbered (config : SuiteConfig) (id n : Nat) (cases : List PlanCase) :
    (numbered config id cases).drop n = numbered config (id + n) (cases.drop n) := by
  induction cases generalizing id n with
  | nil => simp [numbered]
  | cons c cases ih =>
    match n with
    | 0 => rfl
    | n + 1 =>
      show (numbered config (id + 1) cases).drop n = _
      rw [ih, Nat.add_right_comm]
      rfl

/-- The numbers are consecutive. -/
theorem numbered_ids (config : SuiteConfig) (id : Nat) (cases : List PlanCase)
    (h : id + cases.length ≤ 2 ^ 64) :
    (numbered config id cases).map (fun spec => spec.id.toNat) =
      List.range' id cases.length := by
  induction cases generalizing id with
  | nil => rfl
  | cons c cases ih =>
    rw [List.length_cons] at h ⊢
    show (UInt64.ofNat id).toNat :: _ = _
    rw [ih (id + 1) (by omega), UInt64.toNat_ofNat_of_lt' (by show _ < 2 ^ 64; omega),
      List.range'_succ]

/-! ## What is pending -/

namespace TestPlanIter

/-- The cases of a class from the counters on. -/
def pending (it : TestPlanIter) (dscp : DscpClass) : List PlanCase :=
  if it.stage = 0 then
    (if it.plan.config.protocol = .udp then []
      else (tcpMatrix it.plan.config it.plan.capabilities dscp).drop it.matrixIndex) ++
    udpCases it.plan.config dscp
  else if it.stage = 1 then
    (if it.plan.config.protocol = .tcp then []
      else (udpFixed it.plan.config dscp).drop it.direction) ++ udpSaturation it.plan.config dscp
  else (udpSaturation it.plan.config dscp).drop (2 * it.saturationStep + it.direction)

/-- What a turn at a class lists: the first pending case, or nothing where none is pending;
then the next class begins. -/
def Listed (it : TestPlanIter) (dscp : DscpClass) : Option TestSpec × TestPlanIter → Prop
  | (some spec, rest) => ∃ c, it.pending dscp = c :: rest.pending dscp ∧
      spec = specOf it.plan.config it.nextId c ∧ rest.nextId = it.nextId + 1
  | (none, rest) => it.pending dscp = [] ∧ rest.nextId = it.nextId ∧
      ∀ next, rest.pending next = classCases it.plan.config it.plan.capabilities next

section
variable {it : TestPlanIter} {dscp : DscpClass}

theorem pending_matrix (h : it.stage = 0) : it.pending dscp =
    (if it.plan.config.protocol = .udp then []
      else (tcpMatrix it.plan.config it.plan.capabilities dscp).drop it.matrixIndex) ++
    udpCases it.plan.config dscp := if_pos h

theorem pending_fixed (h : it.stage = 1) : it.pending dscp =
    (if it.plan.config.protocol = .tcp then []
      else (udpFixed it.plan.config dscp).drop it.direction) ++
    udpSaturation it.plan.config dscp := by
  unfold pending
  rw [if_neg (by omega), if_pos h]

theorem pending_saturation (h : it.stage = 2) : it.pending dscp =
    (udpSaturation it.plan.config dscp).drop (2 * it.saturationStep + it.direction) := by
  unfold pending
  rw [if_neg (by omega), if_neg (by omega)]

/-- A class that begins is pending as a whole. -/
theorem pending_begin (hstage : it.stage = 0) (hdirection : it.direction = 0)
    (hinner : it.stream = 0 ∧ it.window = 0) :
    it.pending dscp = classCases it.plan.config it.plan.capabilities dscp := by
  have hindex : it.matrixIndex = 0 := by
    unfold matrixIndex
    rw [hdirection, hinner.1, hinner.2, Nat.zero_mul, Nat.zero_add, Nat.zero_mul]
  rw [pending_matrix hstage, hindex, List.drop_zero]
  rfl

/-- A turn that lists a case. -/
theorem listed_spec {rest : TestPlanIter} {c : PlanCase}
    (hcons : it.pending dscp = c :: rest.pending dscp) (hplan : rest.plan = it.plan)
    (hid : rest.nextId = it.nextId) : it.Listed dscp (some (rest.spec c).1, (rest.spec c).2) := by
  refine ⟨c, hcons, ?_, ?_⟩
  · show specOf rest.plan.config rest.nextId c = _
    rw [hplan, hid]
  · show rest.nextId + 1 = _
    rw [hid]

/-- A turn that goes on in the same class without a test. -/
theorem Listed.of_eq {rest : TestPlanIter} {x : Option TestSpec × TestPlanIter}
    (h : rest.Listed dscp x) (hplan : rest.plan = it.plan) (hid : rest.nextId = it.nextId)
    (hpending : it.pending dscp = rest.pending dscp) : it.Listed dscp x := by
  rcases x with ⟨_ | spec, next⟩
  · obtain ⟨hnil, hnext, hbegin⟩ := h
    exact ⟨hpending.trans hnil, hnext.trans hid, by rw [← hplan]; exact hbegin⟩
  · obtain ⟨c, hcons, hspec, hnext⟩ := h
    exact ⟨c, hpending.trans hcons, by rw [hspec, hplan, hid], by rw [hnext, hid]⟩

theorem saturationTurn_listed (hp : it.plan.Many) (hstage : it.stage = 2)
    (hinner : it.stream = 0 ∧ it.window = 0) (hdirection : it.direction < 2) :
    it.Listed dscp (it.saturationTurn dscp) := by
  have hpending := @pending_saturation it dscp hstage
  unfold saturationTurn
  dsimp only
  by_cases hstep : it.saturationStep < saturationSteps it.plan.config
  · rw [if_pos ((saturates_iff hp.many).mpr hstep)]
    have hfirst := drop_of_getElem? (@getElem?_udpSaturation _ dscp _ _ hstep hdirection)
    rw [← saturationRate_eq hstep] at hfirst
    by_cases hlast : it.direction + 1 = 2
    · rw [if_pos hlast]
      refine listed_spec (hpending.trans (hfirst.trans ?_)) rfl rfl
      rw [@pending_saturation
        { it with direction := 0, saturationStep := it.saturationStep + 1 } dscp hstage,
        show 2 * it.saturationStep + it.direction + 1 = 2 * (it.saturationStep + 1) + 0 by omega]
      rfl
    · rw [if_neg hlast]
      refine listed_spec (hpending.trans (hfirst.trans ?_)) rfl rfl
      rw [@pending_saturation { it with direction := it.direction + 1 } dscp hstage]
      rfl
  · rw [if_neg fun h => hstep ((saturates_iff hp.many).mp h)]
    refine ⟨?_, rfl, fun next => pending_begin rfl rfl hinner⟩
    rw [hpending, List.drop_eq_nil_iff, length_udpSaturation]
    omega

theorem udpTurn_listed (hp : it.plan.Many) (h : it.Sound) (hstage : it.stage ≠ 0) :
    it.Listed dscp (it.udpTurn dscp) := by
  unfold udpTurn
  dsimp only
  cases h with
  | matrix stage => exact absurd stage hstage
  | fixed stage inner direction saturationStep =>
    have hpending := @pending_fixed it dscp stage
    by_cases hmore : it.plan.config.protocol ≠ .tcp ∧ it.direction < 2
    · rw [if_pos ⟨stage, hmore⟩]
      obtain ⟨htcp, hlt⟩ := hmore
      have hfirst := drop_of_getElem? (@getElem?_udpFixed it.plan.config dscp _ hlt)
      rw [if_neg htcp, hfirst] at hpending
      refine listed_spec (hpending.trans ?_) rfl rfl
      rw [@pending_fixed { it with direction := it.direction + 1 } dscp stage, if_neg htcp]
      rfl
    · rw [if_neg fun h => hmore h.2, if_pos stage]
      have hlisted : Listed { it with stage := 2, direction := 0 } dscp
          (saturationTurn { it with stage := 2, direction := 0 } dscp) := by
        apply saturationTurn_listed
        · exact hp
        · rfl
        · exact inner
        · exact Nat.zero_lt_two
      refine hlisted.of_eq rfl rfl ?_
      rw [hpending, @pending_saturation { it with stage := 2, direction := 0 } dscp rfl]
      show _ = (udpSaturation it.plan.config dscp).drop (2 * it.saturationStep + 0)
      rw [saturationStep, Nat.mul_zero, Nat.add_zero, List.drop_zero]
      by_cases htcp : it.plan.config.protocol = .tcp
      · rw [if_pos htcp]
        rfl
      · have hlast : 2 ≤ it.direction := by
          by_contra hlt
          exact hmore ⟨htcp, by omega⟩
        rw [if_neg htcp, List.drop_eq_nil_of_le hlast]
        rfl
  | saturation stage inner direction steps =>
    rw [if_neg fun h => by omega, if_neg (by omega)]
    exact saturationTurn_listed hp stage inner direction

theorem turn_listed (hp : it.plan.Many) (h : it.Sound) : it.Listed dscp (it.turn dscp) := by
  unfold turn
  dsimp only
  by_cases hstage : it.stage = 0
  · cases h with
    | fixed stage => omega
    | saturation stage => omega
    | matrix stage direction stream window outside saturationStep =>
      have hpending := @pending_matrix it dscp hstage
      by_cases hmore : it.plan.config.protocol ≠ .udp ∧ it.direction < it.directions.length
      · rw [if_pos ⟨hstage, hmore⟩]
        obtain ⟨hudp, hlt⟩ := hmore
        have hfirst := drop_of_getElem?
          (@getElem?_tcpMatrix _ it.plan.capabilities dscp _ _ _ hlt stream window)
        obtain ⟨-, hplan, -, hstage', hnext⟩ :=
          @advanceMatrix_turned (it.spec _).2 hp hstage hudp hlt stream window saturationStep
        rw [if_neg hudp] at hpending
        refine ⟨_, hpending.trans ?_, rfl, ?_⟩
        · rw [pending_matrix hstage', hnext, hplan]
          show List.drop it.matrixIndex _ ++ _ = _ :: ((if it.plan.config.protocol = .udp then []
            else (tcpMatrix it.plan.config it.plan.capabilities dscp).drop (it.matrixIndex + 1)) ++
              udpCases it.plan.config dscp)
          rw [if_neg hudp, show it.matrixIndex = (it.direction * it.plan.config.tcpStreams.length +
            it.stream) * it.plan.config.tcpWindowsBytes.length + it.window from rfl, hfirst]
          rfl
        · unfold advanceMatrix
          dsimp only
          split
          · split <;> rfl
          · rfl
      · rw [if_neg fun h => hmore h.2, if_pos hstage]
        have hinner : it.stream = 0 ∧ it.window = 0 := by
          apply outside
          by_cases hudp : it.plan.config.protocol = .udp
          · exact .inl hudp
          · have hnot : ¬ it.direction < it.directions.length := fun hlt => hmore ⟨hudp, hlt⟩
            exact .inr (by omega)
        have hlisted : Listed { it with stage := 1, direction := 0 } dscp
            (udpTurn { it with stage := 1, direction := 0 } dscp) := by
          apply udpTurn_listed
          · exact hp
          · exact .fixed rfl hinner (Nat.zero_le 2) saturationStep
          · exact Nat.one_ne_zero
        refine hlisted.of_eq rfl rfl ?_
        rw [hpending, @pending_fixed { it with stage := 1, direction := 0 } dscp rfl]
        show _ = (if it.plan.config.protocol = .tcp then []
          else (udpFixed it.plan.config dscp).drop 0) ++ udpSaturation it.plan.config dscp
        rw [List.drop_zero]
        by_cases hudp : it.plan.config.protocol = .udp
        · rw [if_pos hudp]
          rfl
        · have hlast : it.direction = it.directions.length := by
            have hnot : ¬ it.direction < it.directions.length := fun hlt => hmore ⟨hudp, hlt⟩
            omega
          have hpast : (tcpMatrix it.plan.config it.plan.capabilities dscp).length ≤
              it.matrixIndex := by
            unfold matrixIndex
            rw [length_tcpMatrix, ← length_directions, hlast, hinner.1, hinner.2, Nat.add_zero,
              Nat.add_zero]
          rw [if_neg hudp, List.drop_eq_nil_of_le hpast]
          rfl
  · rw [if_neg fun h => hstage h.1, if_neg hstage]
    exact udpTurn_listed hp h hstage

end

/-! ## Whole walks -/

/-- The cases that are still to come. -/
def queue (it : TestPlanIter) : List PlanCase :=
  if it.plan.config.singleTest then
    if it.emittedSingle then [] else [singleCase it.plan.config]
  else
    match it.plan.config.dscpClasses[it.dscp]? with
    | none => []
    | some dscp => it.pending dscp ++ (it.plan.config.dscpClasses.drop (it.dscp + 1)).flatMap
        (classCases it.plan.config it.plan.capabilities)

/-- A state of the walk through a plan. -/
def Walking (it : TestPlanIter) : Prop :=
  it.plan.config.singleTest = true ∨ it.plan.Many ∧ it.Sound

/-- What a call yields: the next case, or nothing at the end, and it stays there. -/
def Yields (it : TestPlanIter) : Option TestSpec × TestPlanIter → Prop
  | (some spec, rest) => rest.Walking ∧ rest.plan = it.plan ∧ ∃ c, it.queue = c :: rest.queue ∧
      spec = specOf it.plan.config it.nextId c ∧ rest.nextId = it.nextId + 1
  | (none, rest) => rest.Walking ∧ rest.plan = it.plan ∧ it.queue = [] ∧ rest.queue = [] ∧
      rest.nextId = it.nextId

section
variable {it : TestPlanIter}

theorem queue_emitted (h : it.plan.config.singleTest = true) (he : it.emittedSingle = true) :
    it.queue = [] := by
  unfold queue
  rw [if_pos h, if_pos he]

theorem queue_single (h : it.plan.config.singleTest = true) (he : ¬ it.emittedSingle = true) :
    it.queue = [singleCase it.plan.config] := by
  unfold queue
  rw [if_pos h, if_neg he]

theorem queue_none (hmany : it.plan.config.singleTest = false)
    (h : it.plan.config.dscpClasses[it.dscp]? = none) : it.queue = [] := by
  unfold queue
  rw [if_neg (Bool.eq_false_iff.mp hmany), h]

theorem queue_some {dscp : DscpClass} (hmany : it.plan.config.singleTest = false)
    (h : it.plan.config.dscpClasses[it.dscp]? = some dscp) :
    it.queue = it.pending dscp ++ (it.plan.config.dscpClasses.drop (it.dscp + 1)).flatMap
      (classCases it.plan.config it.plan.capabilities) := by
  unfold queue
  rw [if_neg (Bool.eq_false_iff.mp hmany), h]

/-- At a class that begins, the classes from there on are to come. -/
theorem queue_begin (hmany : it.plan.config.singleTest = false)
    (h : ∀ dscp, it.pending dscp = classCases it.plan.config it.plan.capabilities dscp) :
    it.queue = (it.plan.config.dscpClasses.drop it.dscp).flatMap
      (classCases it.plan.config it.plan.capabilities) := by
  by_cases hlt : it.dscp < it.plan.config.dscpClasses.length
  · rw [queue_some hmany (List.getElem?_eq_getElem hlt), h, List.drop_eq_getElem_cons hlt,
      List.flatMap_cons]
  · have hend : it.plan.config.dscpClasses.length ≤ it.dscp := Nat.le_of_not_lt hlt
    rw [queue_none hmany (List.getElem?_eq_none hend), List.drop_eq_nil_of_le hend]
    rfl

theorem nextFrom_yields {classes : Nat} (hp : it.plan.Many) (h : it.Sound)
    (hclasses : it.plan.config.dscpClasses.length < it.dscp + classes) (hpos : 0 < classes) :
    it.Yields (it.nextFrom classes) := by
  induction classes generalizing it with
  | zero => exact absurd hpos (Nat.lt_irrefl 0)
  | succ classes ih =>
    unfold nextFrom
    cases hdscp : it.plan.config.dscpClasses[it.dscp]? with
    | none =>
      have hend := queue_none hp.many hdscp
      exact ⟨.inr ⟨hp, h⟩, rfl, hend, hend, rfl⟩
    | some dscp =>
      obtain ⟨hlt, -⟩ := List.getElem?_eq_some_iff.mp hdscp
      have hturn := turn_turned hp h dscp
      have hlisted := @turn_listed _ dscp hp h
      have hqueue := queue_some hp.many hdscp
      dsimp only
      rcases hx : it.turn dscp with ⟨_ | spec, rest⟩
      · rw [hx] at hturn hlisted
        obtain ⟨hsound, hplan, hnext, -, -⟩ := hturn
        obtain ⟨hnil, hid, hbegin⟩ := hlisted
        have hpRest : rest.plan.Many := by rw [hplan]; exact hp
        -- the class is spent, and the next one is whole
        have hsame : it.queue = rest.queue := by
          rw [hqueue, hnil, queue_begin hpRest.many (by rw [hplan]; exact hbegin), hplan, hnext]
          rfl
        have hyields : rest.Yields (rest.nextFrom classes) := by
          apply ih hpRest hsound
          · rw [hplan, hnext]
            omega
          · omega
        dsimp only
        rcases hy : rest.nextFrom classes with ⟨_ | spec, last⟩
        · rw [hy] at hyields
          obtain ⟨hwalk, hp', hnone, hstay, hlast⟩ := hyields
          exact ⟨hwalk, hp'.trans hplan, hsame.trans hnone, hstay, hlast.trans hid⟩
        · rw [hy] at hyields
          obtain ⟨hwalk, hp', c, hcons, hspec, hlast⟩ := hyields
          exact ⟨hwalk, hp'.trans hplan, c, hsame.trans hcons, by rw [hspec, hplan, hid],
            by rw [hlast, hid]⟩
      · rw [hx] at hturn hlisted
        obtain ⟨hsound, hplan, hstay, -⟩ := hturn
        obtain ⟨c, hcons, hspec, hid⟩ := hlisted
        have hpRest : rest.plan.Many := by rw [hplan]; exact hp
        refine ⟨.inr ⟨hpRest, hsound⟩, hplan, c, ?_, hspec, hid⟩
        rw [hqueue, hcons, queue_some hpRest.many (by rw [hplan, hstay]; exact hdscp), hplan, hstay]
        rfl

theorem next_single (h : it.plan.config.singleTest = true) : it.Yields it.next := by
  unfold next
  dsimp only
  rw [if_pos h]
  by_cases hemitted : it.emittedSingle = true
  · have hend := queue_emitted h hemitted
    rw [if_pos hemitted]
    exact ⟨.inl h, rfl, hend, hend, rfl⟩
  · rw [if_neg hemitted]
    refine ⟨.inl h, rfl, singleCase it.plan.config, ?_, rfl, rfl⟩
    rw [queue_single h hemitted]
    exact congrArg (singleCase it.plan.config :: ·)
      (@queue_emitted (spec { it with emittedSingle := true } _).2 h rfl).symm

theorem next_yields (h : it.Walking) : it.Yields it.next := by
  rcases h with hsingle | ⟨hp, hsound⟩
  · exact next_single hsingle
  · unfold next
    dsimp only
    rw [if_neg (Bool.eq_false_iff.mp hp.many)]
    apply nextFrom_yields hp hsound
    · omega
    · omega

theorem take_eq (h : it.Walking) (n : Nat) :
    it.take n = numbered it.plan.config it.nextId (it.queue.take n) := by
  induction n generalizing it with
  | zero => rfl
  | succ n ih =>
    have hyields := next_yields h
    unfold take
    rcases hx : it.next with ⟨_ | spec, rest⟩
    · rw [hx] at hyields
      obtain ⟨-, -, hnil, -⟩ := hyields
      rw [hnil]
      rfl
    · rw [hx] at hyields
      obtain ⟨hwalk, hplan, c, hcons, hspec, hid⟩ := hyields
      rw [hcons, List.take_succ_cons]
      show spec :: rest.take n = specOf it.plan.config it.nextId c :: _
      rw [hspec, ih hwalk, hplan, hid]

end

/-- The state after some calls. -/
def after (it : TestPlanIter) : Nat → TestPlanIter
  | 0 => it
  | n + 1 => it.next.2.after n

/-- `Iterator::size_hint`, where `usize` has 64 bits. -/
def sizeHint (it : TestPlanIter) : Nat × Option Nat :=
  let remaining := it.plan.totalTests - (it.nextId - 1)
  let count := min remaining u64Max
  (count, some count)

/-- What calls leave: they take from the front of the queue, and stop at its end. -/
theorem after_spec {it : TestPlanIter} (h : it.Walking) (n : Nat) :
    (it.after n).Walking ∧ (it.after n).plan = it.plan ∧
      (it.after n).queue = it.queue.drop n ∧
      (it.after n).nextId = it.nextId + min n it.queue.length := by
  induction n generalizing it with
  | zero => exact ⟨h, rfl, rfl, by rw [Nat.zero_min]; rfl⟩
  | succ n ih =>
    have hyields := next_yields h
    show (it.next.2.after n).Walking ∧ (it.next.2.after n).plan = it.plan ∧
      (it.next.2.after n).queue = _ ∧ (it.next.2.after n).nextId = _
    rcases hx : it.next with ⟨_ | spec, rest⟩
    · rw [hx] at hyields
      obtain ⟨hwalk, hplan, hnil, hstay, hid⟩ := hyields
      obtain ⟨hw, hp, hq, hn⟩ := ih hwalk
      refine ⟨hw, hp.trans hplan, ?_, ?_⟩
      · rw [hq, hstay, hnil, List.drop_nil, List.drop_nil]
      · rw [hn, hstay, hnil, hid]
        simp
    · rw [hx] at hyields
      obtain ⟨hwalk, hplan, c, hcons, -, hid⟩ := hyields
      obtain ⟨hw, hp, hq, hn⟩ := ih hwalk
      refine ⟨hw, hp.trans hplan, ?_, ?_⟩
      · rw [hq, hcons]
        rfl
      · rw [hn, hid, hcons, List.length_cons]
        omega

end TestPlanIter

/-! ## The tests of a plan -/

theorem tests_walking {config : SuiteConfig} {capabilities : ServerCapabilities} {p : ThroughputPlan}
    (h : plan config capabilities = .ok p) : p.tests.Walking := by
  obtain ⟨hvalid, rfl, -⟩ := plan_ok h
  by_cases hsingle : p.config.singleTest = true
  · exact .inl hsingle
  · obtain ⟨hstreams, hwindows⟩ := validate_lists hvalid
    have hp : p.Many := ⟨Bool.eq_false_iff.mpr hsingle, hstreams, hwindows⟩
    exact .inr ⟨hp, tests_sound hp⟩

theorem tests_queue (p : ThroughputPlan) :
    p.tests.queue = planCases p.config p.capabilities := by
  by_cases hsingle : p.config.singleTest = true
  · unfold TestPlanIter.queue planCases
    rw [if_pos hsingle, if_pos (show p.tests.plan.config.singleTest = true from hsingle)]
    rfl
  · have hmany : p.tests.plan.config.singleTest = false := Bool.eq_false_iff.mpr hsingle
    rw [TestPlanIter.queue_begin hmany fun dscp => TestPlanIter.pending_begin rfl rfl ⟨rfl, rfl⟩]
    unfold planCases
    rw [if_neg hsingle]
    rfl

theorem length_reference (config : SuiteConfig) (capabilities : ServerCapabilities) :
    (reference config capabilities).length = totalTests config capabilities := by
  unfold reference
  rw [length_numbered, length_planCases]

/-- The limits of an accepted configuration keep the count far below 64 bits. -/
theorem totalTests_bound {config : SuiteConfig} (h : validate config = .ok ())
    (capabilities : ServerCapabilities) : totalTests config capabilities ≤ 1074235 := by
  iterate 7 obtain ⟨-, h⟩ := refuse_bind_ok.mp h
  obtain ⟨hstreams, h⟩ := refuse_bind_ok.mp h
  obtain ⟨hwindows, h⟩ := refuse_bind_ok.mp h
  iterate 4 obtain ⟨-, h⟩ := refuse_bind_ok.mp h
  obtain ⟨hclasses, -⟩ := refuse_bind_ok.mp h
  have hs : config.tcpStreams.length ≤ 128 := by
    have := (Bool.or_eq_false_iff.mp (Bool.or_eq_false_iff.mp hstreams).1).2
    simpa using this
  have hw : config.tcpWindowsBytes.length ≤ 128 := by
    simpa using (Bool.or_eq_false_iff.mp hwindows).2
  have hc : config.dscpClasses.length ≤ 21 := by simpa using hclasses
  have hmatrix : 3 * config.tcpStreams.length * config.tcpWindowsBytes.length ≤ 3 * 128 * 128 :=
    Nat.mul_le_mul (Nat.mul_le_mul_left 3 hs) hw
  have hlimit : config.dscpClasses.length *
      (3 * config.tcpStreams.length * config.tcpWindowsBytes.length + 2002) ≤ 21 * 51154 :=
    Nat.mul_le_mul hc (by omega)
  have hlt := totalTests_lt_limit ⟨config, capabilities, 0, 0, none, true⟩
  unfold ThroughputPlan.limit at hlt
  dsimp only at hlt
  omega

/-- A plan is refused for its budget exactly when the budget is below its count. -/
theorem budget_refused {config : SuiteConfig} (h : validate config = .ok ())
    (capabilities : ServerCapabilities) :
    (∃ planned maximum, plan config capabilities = .error (.budgetExceeded planned maximum)) ↔
      ∃ maximum, config.maxTotalTests = some maximum ∧ maximum ≠ 0 ∧
        maximum.toNat < totalTests config capabilities := by
  have hbudget : ∀ maximum, budget config = some maximum ↔
      config.maxTotalTests = some maximum ∧ maximum ≠ 0 := by
    intro maximum
    unfold budget
    rw [Option.filter_eq_some_iff]
    simp
  unfold plan
  rw [h, except_ok_bind]
  dsimp only
  by_cases hover : (budget config).any
      (fun maximum => decide (maximum.toNat < totalTests config capabilities)) = true
  · rw [hover]
    obtain ⟨maximum, hsome, hlt⟩ := (Option.any_eq_true _ _).mp hover
    obtain ⟨hmax, hne⟩ := (hbudget maximum).mp hsome
    exact ⟨fun _ => ⟨maximum, hmax, hne, of_decide_eq_true hlt⟩, fun _ => ⟨_, _, rfl⟩⟩
  · rw [Bool.eq_false_iff.mpr hover]
    constructor
    · rintro ⟨planned, maximum, hplan⟩
      cases hplan
    · rintro ⟨maximum, hmax, hne, hlt⟩
      refine absurd ?_ hover
      rw [(hbudget maximum).mpr ⟨hmax, hne⟩]
      exact decide_eq_true hlt

/-- **Enumeration.**  A plan lists the reference, numbered from 1, and counts it; at every
step the size hint is what is left; the budget refuses exactly the plans above it. -/
theorem plan_enumerates {config : SuiteConfig} (h : validate config = .ok ())
    (capabilities : ServerCapabilities) :
    ((∃ planned maximum, plan config capabilities = .error (.budgetExceeded planned maximum)) ↔
      ∃ maximum, config.maxTotalTests = some maximum ∧ maximum ≠ 0 ∧
        maximum.toNat < (reference config capabilities).length) ∧
    ∀ p, plan config capabilities = .ok p →
      p.totalTests = (reference config capabilities).length ∧ p.totalTests < 2 ^ 64 ∧
      (reference config capabilities).map (fun spec => spec.id.toNat) =
        List.range' 1 p.totalTests ∧
      ∀ k, (∀ n, (p.tests.after k).take n = ((reference config capabilities).drop k).take n) ∧
        (p.tests.after k).sizeHint = (((reference config capabilities).drop k).length,
          some ((reference config capabilities).drop k).length) := by
  have hbound := totalTests_bound h capabilities
  rw [length_reference]
  refine ⟨budget_refused h capabilities, fun p hp => ?_⟩
  have htotal : p.totalTests = totalTests config capabilities := by
    obtain ⟨-, hc, hcap⟩ := plan_ok hp
    rw [plan_counted hp, hc, hcap]
  have hqueue : p.tests.queue = planCases config capabilities := by
    obtain ⟨-, hc, hcap⟩ := plan_ok hp
    rw [tests_queue, hc, hcap]
  refine ⟨htotal, by omega, ?_, fun k => ?_⟩
  · have hids := numbered_ids config 1 (planCases config capabilities)
    rw [length_planCases] at hids
    rw [htotal]
    exact hids (by omega)
  · obtain ⟨hwalk, hplan, hrest, hid⟩ := TestPlanIter.after_spec (tests_walking hp) k
    have hconfig : (p.tests.after k).plan.config = config := by
      rw [hplan]
      exact (plan_ok hp).2.1
    rw [hqueue, length_planCases] at hid
    rw [hqueue] at hrest
    have hstart : p.tests.nextId = 1 := rfl
    refine ⟨fun n => ?_, ?_⟩
    · rw [TestPlanIter.take_eq hwalk, hrest, hconfig]
      unfold reference
      rw [drop_numbered, take_numbered]
      -- past the end no number is used
      by_cases hlast : k ≤ totalTests config capabilities
      · rw [hid, hstart, Nat.min_eq_left hlast]
      · rw [List.drop_eq_nil_of_le (by rw [length_planCases]; omega)]
        simp [numbered]
    · have hleft : ((reference config capabilities).drop k).length =
          totalTests config capabilities - k := by
        rw [List.length_drop, length_reference]
      have hcount : (p.tests.after k).plan.totalTests - ((p.tests.after k).nextId - 1) =
          totalTests config capabilities - k := by
        rw [hplan, hid, hstart]
        show p.totalTests - _ = _
        rw [htotal]
        omega
      unfold TestPlanIter.sizeHint
      dsimp only
      rw [hcount, hleft, Nat.min_eq_left (by unfold u64Max; omega)]

/-- The defaults, with a target. -/
def localSuite : SuiteConfig := { SuiteConfig.default with target := "127.0.0.1" }

theorem plan_enumerates_local :
    ∃ p, plan localSuite ⟨true⟩ = .ok p ∧ p.totalTests = 1145 ∧
      (reference localSuite ⟨true⟩).length = 1145 ∧ p.tests.take 1145 = reference localSuite ⟨true⟩ := by
  have hvalid : validate localSuite = .ok () := by decide +kernel
  have hall := (plan_enumerates hvalid ⟨true⟩).2
  have hlength : (reference localSuite ⟨true⟩).length = 1145 := by
    rw [length_reference]
    decide +kernel
  obtain ⟨p, hp⟩ : ∃ p, plan localSuite ⟨true⟩ = .ok p := by
    unfold plan
    rw [hvalid, except_ok_bind, show budget localSuite = none from rfl]
    exact ⟨_, rfl⟩
  obtain ⟨htotal, -, -, hsteps⟩ := hall p hp
  refine ⟨p, hp, htotal.trans hlength, hlength, ?_⟩
  have htake := (hsteps 0).1 1145
  rw [List.drop_zero, List.take_of_length_le (Nat.le_of_eq hlength)] at htake
  exact htake

end NetworkLantern.Throughput
