import NetworkLantern.Throughput.Plan

/-!
# The tests a plan counts are the tests it lists

`totalTests` multiplies out what `TestPlanIter` walks through.  The counters of
the walk are in range, and each test takes one from what is left.

    take_length        n calls give the smaller of n and what is left
    testList_length    an accepted plan lists as many tests as it counts
-/

namespace NetworkLantern.Throughput

open NetworkLantern

/-- The tests of one class. -/
def perDscp (p : ThroughputPlan) : Nat := tcpPerDscp p.config p.capabilities + udpPerDscp p.config

/-- More than one test, and values to make them from. -/
structure ThroughputPlan.Many (p : ThroughputPlan) : Prop where
  many : p.config.singleTest = false
  streams : 0 < p.config.tcpStreams.length
  windows : 0 < p.config.tcpWindowsBytes.length

/-! ## The parts of a class -/

section
variable {config : SuiteConfig}

theorem tcpPerDscp_udp {capabilities : ServerCapabilities} (h : config.protocol = .udp) :
    tcpPerDscp config capabilities = 0 := by
  unfold tcpPerDscp
  rw [h]
  rfl

theorem tcpPerDscp_eq {capabilities : ServerCapabilities} (hmany : config.singleTest = false)
    (h : config.protocol ≠ .udp) :
    tcpPerDscp config capabilities =
      directionCount capabilities * config.tcpStreams.length * config.tcpWindowsBytes.length := by
  unfold tcpPerDscp
  rw [hmany, Bool.or_false, if_neg (by simpa using h)]

theorem saturationSteps_tcp (h : config.protocol = .tcp) : saturationSteps config = 0 := by
  unfold saturationSteps
  rw [h]
  rfl

theorem saturationSteps_flat (h : ¬ config.udpStartBps < config.udpMaxBps) :
    saturationSteps config = 0 := by
  unfold saturationSteps
  rw [if_pos]
  simpa using Or.inr h

theorem saturationSteps_eq (hmany : config.singleTest = false) (htcp : config.protocol ≠ .tcp)
    (hrates : config.udpStartBps < config.udpMaxBps) :
    saturationSteps config =
      min ((config.udpMaxBps.toNat - config.udpStartBps.toNat) / config.udpStepBps.toNat + 1)
        1000 := by
  unfold saturationSteps
  rw [hmany, Bool.or_false, if_neg]
  simpa [htcp] using hrates

/-- The guard of a saturation turn: there are steps left. -/
theorem saturates_iff (hmany : config.singleTest = false) {step : Nat} :
    (config.protocol ≠ .tcp ∧ config.udpStartBps < config.udpMaxBps ∧
      step < min ((config.udpMaxBps.toNat - config.udpStartBps.toNat) / config.udpStepBps.toNat + 1)
        1000) ↔ step < saturationSteps config := by
  constructor
  · rintro ⟨htcp, hrates, hstep⟩
    rw [saturationSteps_eq hmany htcp hrates]
    exact hstep
  · intro hstep
    by_cases htcp : config.protocol = .tcp
    · rw [saturationSteps_tcp htcp] at hstep
      omega
    by_cases hrates : config.udpStartBps < config.udpMaxBps
    · rw [saturationSteps_eq hmany htcp hrates] at hstep
      exact ⟨htcp, hrates, hstep⟩
    · rw [saturationSteps_flat hrates] at hstep
      omega

theorem udpPerDscp_eq (hmany : config.singleTest = false) :
    udpPerDscp config = (if config.protocol = .tcp then 0 else 2) + 2 * saturationSteps config := by
  unfold udpPerDscp
  rw [hmany, Bool.or_false]
  by_cases htcp : config.protocol = .tcp
  · rw [if_pos (decide_eq_true htcp), if_pos htcp, saturationSteps_tcp htcp]
  · rw [if_neg (by simpa using htcp), if_neg htcp]

end

namespace TestPlanIter

/-! ## The walk -/

/-- The tests of the matrix before the counters. -/
def matrixIndex (it : TestPlanIter) : Nat :=
  (it.direction * it.plan.config.tcpStreams.length + it.stream) *
    it.plan.config.tcpWindowsBytes.length + it.window

/-- The counters, in range; the inner ones of the matrix are at zero outside it. -/
inductive Sound (it : TestPlanIter) : Prop
  | matrix (stage : it.stage = 0) (direction : it.direction ≤ it.directions.length)
    (stream : it.stream < it.plan.config.tcpStreams.length)
    (window : it.window < it.plan.config.tcpWindowsBytes.length)
    (outside : it.plan.config.protocol = .udp ∨ it.direction = it.directions.length →
      it.stream = 0 ∧ it.window = 0)
    (saturationStep : it.saturationStep = 0)
  | fixed (stage : it.stage = 1) (inner : it.stream = 0 ∧ it.window = 0)
    (direction : it.direction ≤ 2) (saturationStep : it.saturationStep = 0)
  | saturation (stage : it.stage = 2) (inner : it.stream = 0 ∧ it.window = 0)
    (direction : it.direction < 2)
    (steps : 2 * it.saturationStep + it.direction ≤ 2 * saturationSteps it.plan.config)

/-- The tests left in the class. -/
def left (it : TestPlanIter) : Nat :=
  if it.stage = 0 then
    tcpPerDscp it.plan.config it.plan.capabilities - it.matrixIndex + udpPerDscp it.plan.config
  else if it.stage = 1 then
    (if it.plan.config.protocol = .tcp then 0 else 2 - it.direction) +
      2 * saturationSteps it.plan.config
  else 2 * saturationSteps it.plan.config - (2 * it.saturationStep + it.direction)

/-- The tests left. -/
def remaining (it : TestPlanIter) : Nat :=
  if it.dscp < it.plan.config.dscpClasses.length then
    it.left + (it.plan.config.dscpClasses.length - (it.dscp + 1)) * perDscp it.plan
  else 0

/-- What a turn at a class leaves: one test less, or the next class, all of it. -/
def Turned (it : TestPlanIter) : Option TestSpec × TestPlanIter → Prop
  | (some _, rest) =>
    rest.Sound ∧ rest.plan = it.plan ∧ rest.dscp = it.dscp ∧ it.left = rest.left + 1
  | (none, rest) =>
    rest.Sound ∧ rest.plan = it.plan ∧ rest.dscp = it.dscp + 1 ∧ it.left = 0 ∧
      rest.left = perDscp it.plan

section
variable {it : TestPlanIter}

theorem length_directions (it : TestPlanIter) :
    it.directions.length = directionCount it.plan.capabilities := by
  unfold directions directionCount
  split <;> rfl

theorem left_matrix (h : it.stage = 0) :
    it.left = tcpPerDscp it.plan.config it.plan.capabilities - it.matrixIndex +
      udpPerDscp it.plan.config := if_pos h

theorem left_fixed (h : it.stage = 1) :
    it.left = (if it.plan.config.protocol = .tcp then 0 else 2 - it.direction) +
      2 * saturationSteps it.plan.config := by
  unfold left
  rw [if_neg (by omega), if_pos h]

theorem left_saturation (h : it.stage = 2) :
    it.left = 2 * saturationSteps it.plan.config - (2 * it.saturationStep + it.direction) := by
  unfold left
  rw [if_neg (by omega), if_neg (by omega)]

theorem Sound.spec (h : it.Sound) (c : PlanCase) : (it.spec c).2.Sound := by
  cases h with
  | matrix stage direction stream window outside saturationStep =>
    exact .matrix stage direction stream window outside saturationStep
  | fixed stage inner direction saturationStep => exact .fixed stage inner direction saturationStep
  | saturation stage inner direction steps => exact .saturation stage inner direction steps

/-- A turn that makes a test. -/
theorem turned_spec {rest : TestPlanIter} (h : rest.Sound) (hplan : rest.plan = it.plan)
    (hdscp : rest.dscp = it.dscp) (hleft : it.left = rest.left + 1) (c : PlanCase) :
    it.Turned (some (rest.spec c).1, (rest.spec c).2) :=
  ⟨h.spec c, hplan, hdscp, hleft⟩

/-- A turn that goes on in the same class without a test. -/
theorem Turned.of_eq {rest : TestPlanIter} {x : Option TestSpec × TestPlanIter}
    (h : rest.Turned x) (hplan : rest.plan = it.plan) (hdscp : rest.dscp = it.dscp)
    (hleft : it.left = rest.left) : it.Turned x := by
  rcases x with ⟨_ | spec, next⟩
  · obtain ⟨hsound, hp, hd, h0, hper⟩ := h
    exact ⟨hsound, hp.trans hplan, by rw [hd, hdscp], hleft.trans h0, by rw [hper, hplan]⟩
  · obtain ⟨hsound, hp, hd, h1⟩ := h
    exact ⟨hsound, hp.trans hplan, hd.trans hdscp, hleft.trans h1⟩

/-- A class that begins. -/
theorem left_begin (hstage : it.stage = 0) (hdirection : it.direction = 0)
    (hinner : it.stream = 0 ∧ it.window = 0) : it.left = perDscp it.plan := by
  rw [left_matrix hstage]
  unfold matrixIndex perDscp
  rw [hdirection, hinner.1, hinner.2, Nat.zero_mul, Nat.zero_add, Nat.zero_mul, Nat.sub_zero]

/-! ## One turn -/

theorem saturationTurn_turned (hp : it.plan.Many) (hstage : it.stage = 2)
    (hinner : it.stream = 0 ∧ it.window = 0) (hdirection : it.direction < 2)
    (hsteps : 2 * it.saturationStep + it.direction ≤ 2 * saturationSteps it.plan.config)
    (dscp : DscpClass) : it.Turned (it.saturationTurn dscp) := by
  have hleft := left_saturation hstage
  unfold saturationTurn
  dsimp only
  by_cases hstep : it.saturationStep < saturationSteps it.plan.config
  · rw [if_pos ((saturates_iff hp.many).mpr hstep)]
    by_cases hlast : it.direction + 1 = 2
    · rw [if_pos hlast]
      have hnext : 2 * (it.saturationStep + 1) + 0 ≤ 2 * saturationSteps it.plan.config := by omega
      refine turned_spec ?_ ?_ ?_ ?_ _
      · exact .saturation hstage hinner Nat.zero_lt_two hnext
      · rfl
      · rfl
      · rw [hleft, @left_saturation
          { it with direction := 0, saturationStep := it.saturationStep + 1 } hstage]
        dsimp only
        omega
    · rw [if_neg hlast]
      have hnext : 2 * it.saturationStep + (it.direction + 1) ≤
          2 * saturationSteps it.plan.config := by omega
      have hnot : it.direction + 1 < 2 := by omega
      refine turned_spec ?_ ?_ ?_ ?_ _
      · exact .saturation hstage hinner hnot hnext
      · rfl
      · rfl
      · rw [hleft, @left_saturation { it with direction := it.direction + 1 } hstage]
        dsimp only
        omega
  · rw [if_neg fun h => hstep ((saturates_iff hp.many).mp h)]
    refine ⟨.matrix rfl (Nat.zero_le _) ?_ ?_ (fun _ => hinner) rfl, rfl, rfl, ?_,
      left_begin rfl rfl hinner⟩
    · rw [hinner.1]
      exact hp.streams
    · rw [hinner.2]
      exact hp.windows
    · rw [hleft]
      omega

theorem udpTurn_turned (hp : it.plan.Many) (h : it.Sound) (hstage : it.stage ≠ 0)
    (dscp : DscpClass) : it.Turned (it.udpTurn dscp) := by
  unfold udpTurn
  dsimp only
  cases h with
  | matrix stage => exact absurd stage hstage
  | fixed stage inner direction saturationStep =>
    have hleft := left_fixed stage
    by_cases hmore : it.plan.config.protocol ≠ .tcp ∧ it.direction < 2
    · rw [if_pos ⟨stage, hmore⟩]
      obtain ⟨htcp, hlt⟩ := hmore
      have hnext : it.direction + 1 ≤ 2 := hlt
      refine turned_spec ?_ ?_ ?_ ?_ _
      · exact .fixed stage inner hnext saturationStep
      · rfl
      · rfl
      · rw [hleft, @left_fixed { it with direction := it.direction + 1 } stage]
        dsimp only
        rw [if_neg htcp, if_neg htcp]
        omega
    · rw [if_neg fun h => hmore h.2, if_pos stage]
      have hsteps : 2 * it.saturationStep + 0 ≤ 2 * saturationSteps it.plan.config := by omega
      have hturned : Turned { it with stage := 2, direction := 0 }
          (saturationTurn { it with stage := 2, direction := 0 } dscp) := by
        apply saturationTurn_turned
        · exact hp
        · rfl
        · exact inner
        · exact Nat.zero_lt_two
        · exact hsteps
      refine hturned.of_eq rfl rfl ?_
      rw [hleft, @left_saturation { it with stage := 2, direction := 0 } rfl]
      dsimp only
      rw [saturationStep]
      by_cases htcp : it.plan.config.protocol = .tcp
      · rw [if_pos htcp]
        omega
      · have hlast : ¬ it.direction < 2 := fun hlt => hmore ⟨htcp, hlt⟩
        rw [if_neg htcp]
        omega
  | saturation stage inner direction steps =>
    rw [if_neg fun h => by omega, if_neg (by omega)]
    exact saturationTurn_turned hp stage inner direction steps dscp

/-- The counters of the matrix advance by one. -/
theorem advanceMatrix_turned (hp : it.plan.Many) (hstage : it.stage = 0)
    (hudp : it.plan.config.protocol ≠ .udp) (hdirection : it.direction < it.directions.length)
    (hstream : it.stream < it.plan.config.tcpStreams.length)
    (hwindow : it.window < it.plan.config.tcpWindowsBytes.length)
    (hstep : it.saturationStep = 0) :
    it.advanceMatrix.Sound ∧ it.advanceMatrix.plan = it.plan ∧
      it.advanceMatrix.dscp = it.dscp ∧ it.advanceMatrix.stage = 0 ∧
      it.advanceMatrix.matrixIndex = it.matrixIndex + 1 := by
  have houtside : ∀ {d : Nat}, d < it.directions.length →
      ¬ (it.plan.config.protocol = .udp ∨ d = it.directions.length) := by
    rintro d hd (h | h)
    · exact hudp h
    · omega
  unfold advanceMatrix
  dsimp only
  by_cases hlastWindow : it.window + 1 = it.plan.config.tcpWindowsBytes.length
  · rw [if_pos hlastWindow]
    by_cases hlastStream : it.stream + 1 = it.plan.config.tcpStreams.length
    · rw [if_pos hlastStream]
      refine ⟨.matrix hstage hdirection hp.streams hp.windows (fun _ => ⟨rfl, rfl⟩) hstep, rfl, rfl,
        hstage, ?_⟩
      unfold matrixIndex
      dsimp only
      rw [← hlastStream, Nat.add_zero, Nat.add_zero, Nat.add_assoc _ it.window 1, hlastWindow,
        Nat.succ_mul it.direction, ← Nat.add_assoc, Nat.succ_mul]
    · rw [if_neg hlastStream]
      have hnext : it.stream + 1 < it.plan.config.tcpStreams.length := by omega
      refine ⟨.matrix hstage hdirection.le hnext hp.windows
        (fun h => absurd h (houtside hdirection)) hstep, rfl, rfl, hstage, ?_⟩
      unfold matrixIndex
      dsimp only
      rw [Nat.add_zero, Nat.add_assoc _ it.window 1, hlastWindow, ← Nat.add_assoc, Nat.succ_mul]
  · rw [if_neg hlastWindow]
    have hnext : it.window + 1 < it.plan.config.tcpWindowsBytes.length := by omega
    exact ⟨.matrix hstage hdirection.le hstream hnext (fun h => absurd h (houtside hdirection)) hstep,
      rfl, rfl, hstage, rfl⟩

theorem matrixIndex_lt (hdirection : it.direction < it.directions.length)
    (hstream : it.stream < it.plan.config.tcpStreams.length)
    (hwindow : it.window < it.plan.config.tcpWindowsBytes.length) :
    it.matrixIndex < it.directions.length * it.plan.config.tcpStreams.length *
      it.plan.config.tcpWindowsBytes.length := by
  have hrow : it.direction * it.plan.config.tcpStreams.length + it.stream + 1 ≤
      it.directions.length * it.plan.config.tcpStreams.length :=
    calc it.direction * it.plan.config.tcpStreams.length + it.stream + 1
        ≤ (it.direction + 1) * it.plan.config.tcpStreams.length := by rw [Nat.succ_mul]; omega
      _ ≤ it.directions.length * it.plan.config.tcpStreams.length :=
        Nat.mul_le_mul_right _ hdirection
  calc it.matrixIndex
      < (it.direction * it.plan.config.tcpStreams.length + it.stream + 1) *
          it.plan.config.tcpWindowsBytes.length := by
        unfold matrixIndex
        rw [Nat.succ_mul]
        omega
    _ ≤ _ := Nat.mul_le_mul_right _ hrow

theorem turn_turned (hp : it.plan.Many) (h : it.Sound) (dscp : DscpClass) :
    it.Turned (it.turn dscp) := by
  unfold turn
  dsimp only
  by_cases hstage : it.stage = 0
  · cases h with
    | fixed stage => omega
    | saturation stage => omega
    | matrix stage direction stream window outside saturationStep =>
      have hleft := left_matrix hstage
      by_cases hmore : it.plan.config.protocol ≠ .udp ∧ it.direction < it.directions.length
      · rw [if_pos ⟨hstage, hmore⟩]
        obtain ⟨hudp, hlt⟩ := hmore
        have hindex := matrixIndex_lt hlt stream window
        rw [length_directions, ← tcpPerDscp_eq hp.many hudp] at hindex
        obtain ⟨hsound, hplan, hdscp, hstage', hnext⟩ :=
          @advanceMatrix_turned (it.spec _).2 hp hstage hudp hlt stream window saturationStep
        refine ⟨hsound, hplan, hdscp, ?_⟩
        rw [hleft, left_matrix hstage', hnext, hplan]
        show _ = tcpPerDscp it.plan.config it.plan.capabilities - (it.matrixIndex + 1) +
          udpPerDscp it.plan.config + 1
        omega
      · rw [if_neg fun h => hmore h.2, if_pos hstage]
        have hinner : it.stream = 0 ∧ it.window = 0 := by
          apply outside
          by_cases hudp : it.plan.config.protocol = .udp
          · exact .inl hudp
          · have hnot : ¬ it.direction < it.directions.length := fun hlt => hmore ⟨hudp, hlt⟩
            exact .inr (by omega)
        have hspent : tcpPerDscp it.plan.config it.plan.capabilities - it.matrixIndex = 0 := by
          by_cases hudp : it.plan.config.protocol = .udp
          · rw [tcpPerDscp_udp hudp, Nat.zero_sub]
          · have hlast : it.direction = it.directions.length := by
              have hnot : ¬ it.direction < it.directions.length := fun hlt => hmore ⟨hudp, hlt⟩
              omega
            unfold matrixIndex
            rw [tcpPerDscp_eq hp.many hudp, ← length_directions, hinner.1, hinner.2, hlast,
              Nat.add_zero, Nat.add_zero, Nat.sub_self]
        have hturned : Turned { it with stage := 1, direction := 0 }
            (udpTurn { it with stage := 1, direction := 0 } dscp) := by
          apply udpTurn_turned
          · exact hp
          · exact .fixed rfl hinner (Nat.zero_le 2) saturationStep
          · exact Nat.one_ne_zero
        refine hturned.of_eq rfl rfl ?_
        rw [hleft, @left_fixed { it with stage := 1, direction := 0 } rfl, hspent, Nat.zero_add,
          udpPerDscp_eq hp.many]
        rfl
  · rw [if_neg fun h => hstage h.1, if_neg hstage]
    exact udpTurn_turned hp h hstage dscp

/-! ## Whole walks -/

theorem remaining_eq (h : it.dscp < it.plan.config.dscpClasses.length) :
    it.remaining =
      it.left + (it.plan.config.dscpClasses.length - (it.dscp + 1)) * perDscp it.plan :=
  if_pos h

/-- What a call gives: a test, with one less to come, or nothing where none is left. -/
def Given (it : TestPlanIter) : Option TestSpec × TestPlanIter → Prop
  | (some _, rest) => rest.Sound ∧ rest.plan = it.plan ∧ it.remaining = rest.remaining + 1
  | (none, _) => it.remaining = 0

theorem nextFrom_given {classes : Nat} (hp : it.plan.Many) (h : it.Sound)
    (hclasses : it.plan.config.dscpClasses.length < it.dscp + classes)
    (hpos : 0 < classes) : it.Given (it.nextFrom classes) := by
  induction classes generalizing it with
  | zero => exact absurd hpos (Nat.lt_irrefl 0)
  | succ classes ih =>
    unfold nextFrom
    match hdscp : it.plan.config.dscpClasses[it.dscp]? with
    | none =>
      have hend := List.getElem?_eq_none_iff.mp hdscp
      exact if_neg (by omega)
    | some dscp =>
      obtain ⟨hlt, -⟩ := List.getElem?_eq_some_iff.mp hdscp
      have hturn := turn_turned hp h dscp
      dsimp only
      rcases hx : it.turn dscp with ⟨_ | spec, rest⟩
      · rw [hx] at hturn
        obtain ⟨hsound, hplan, hnext, h0, hper⟩ := hturn
        -- the class is spent, and the next one is whole
        have hremaining : it.remaining = rest.remaining := by
          rw [remaining_eq hlt, h0, Nat.zero_add]
          unfold remaining
          rw [hplan, hnext, hper]
          by_cases hmore : it.dscp + 1 < it.plan.config.dscpClasses.length
          · rw [if_pos hmore, Nat.add_comm (perDscp it.plan), ← Nat.succ_mul]
            congr 1
            omega
          · rw [if_neg hmore, Nat.sub_eq_zero_of_le (Nat.le_of_not_lt hmore), Nat.zero_mul]
        have hgiven : rest.Given (rest.nextFrom classes) := by
          rw [← hplan] at hp hclasses hlt
          exact ih hp hsound (by omega) (by omega)
        dsimp only
        rcases hy : rest.nextFrom classes with ⟨_ | spec, last⟩
        · rw [hy] at hgiven
          exact hremaining.trans hgiven
        · rw [hy] at hgiven
          obtain ⟨hlast, hp, hcount⟩ := hgiven
          exact ⟨hlast, hp.trans hplan, hremaining.trans hcount⟩
      · rw [hx] at hturn
        obtain ⟨hsound, hplan, hsame, h1⟩ := hturn
        refine ⟨hsound, hplan, ?_⟩
        rw [remaining_eq hlt, remaining_eq (by rw [hplan, hsame]; exact hlt), h1, hplan, hsame]
        omega

theorem next_given (hp : it.plan.Many) (h : it.Sound) : it.Given it.next := by
  unfold next
  dsimp only
  rw [if_neg (Bool.eq_false_iff.mp hp.many)]
  exact nextFrom_given hp h (by omega) (Nat.succ_pos _)

theorem take_length (hp : it.plan.Many) (h : it.Sound) (n : Nat) :
    (it.take n).length = min n it.remaining := by
  induction n generalizing it with
  | zero => exact (Nat.zero_min _).symm
  | succ n ih =>
    have hgiven := next_given hp h
    unfold take
    rcases hx : it.next with ⟨_ | spec, rest⟩
    · rw [hx] at hgiven
      rw [show it.remaining = 0 from hgiven]
      rfl
    · rw [hx] at hgiven
      obtain ⟨hsound, hplan, hcount⟩ := hgiven
      rw [← hplan] at hp
      rw [hcount, Nat.succ_min_succ, ← ih hp hsound]
      rfl

theorem take_of_none (h : it.next.1 = none) (n : Nat) : it.take n = [] := by
  match n with
  | 0 => rfl
  | n + 1 =>
    unfold take
    rcases hx : it.next with ⟨_ | spec, rest⟩
    · rfl
    · rw [hx] at h
      cases h

theorem take_take (it : TestPlanIter) (m n : Nat) : (it.take n).take m = it.take (min m n) := by
  induction n generalizing it m with
  | zero => rw [Nat.min_zero]; exact List.take_nil
  | succ n ih =>
    match m with
    | 0 => rw [Nat.zero_min]; rfl
    | m + 1 =>
      rw [Nat.succ_min_succ]
      unfold take
      rcases it.next with ⟨_ | spec, rest⟩
      · exact List.take_nil
      · exact congrArg (spec :: ·) (ih rest m)

end

end TestPlanIter

/-! ## The tests of a plan -/

/-- More calls than a plan within its limits has tests. -/
def ThroughputPlan.limit (p : ThroughputPlan) : Nat :=
  p.config.dscpClasses.length *
    (3 * p.config.tcpStreams.length * p.config.tcpWindowsBytes.length + 2002) + 2

/-- The tests, one call of `next` after another. -/
def ThroughputPlan.testList (p : ThroughputPlan) : List TestSpec := p.tests.take p.limit

theorem plan_counted {config : SuiteConfig} {capabilities : ServerCapabilities} {p : ThroughputPlan}
    (h : plan config capabilities = .ok p) : p.totalTests = totalTests p.config p.capabilities := by
  obtain ⟨_, -, h⟩ := except_bind_ok.mp h
  obtain ⟨_, h⟩ := refuse_bind_ok.mp h
  cases h
  rfl

theorem validate_lists {config : SuiteConfig} (h : validate config = .ok ()) :
    0 < config.tcpStreams.length ∧ 0 < config.tcpWindowsBytes.length := by
  iterate 7 obtain ⟨-, h⟩ := refuse_bind_ok.mp h
  obtain ⟨hstreams, h⟩ := refuse_bind_ok.mp h
  obtain ⟨hwindows, -⟩ := refuse_bind_ok.mp h
  have hempty := (Bool.or_eq_false_iff.mp (Bool.or_eq_false_iff.mp hstreams).1).1
  exact ⟨List.length_pos_iff.mpr (List.isEmpty_eq_false_iff.mp hempty),
    List.length_pos_iff.mpr (List.isEmpty_eq_false_iff.mp (Bool.or_eq_false_iff.mp hwindows).1)⟩

theorem tests_sound {p : ThroughputPlan} (hp : p.Many) : p.tests.Sound :=
  .matrix rfl (Nat.zero_le _) hp.streams hp.windows (fun _ => ⟨rfl, rfl⟩) rfl

theorem tests_remaining {p : ThroughputPlan} (hp : p.Many) :
    p.tests.remaining = totalTests p.config p.capabilities := by
  unfold TestPlanIter.remaining totalTests dscpCount
  rw [TestPlanIter.left_begin rfl rfl ⟨rfl, rfl⟩, if_neg (Bool.eq_false_iff.mp hp.many),
    if_neg (Bool.eq_false_iff.mp hp.many)]
  show (if 0 < p.config.dscpClasses.length then
    perDscp p + (p.config.dscpClasses.length - (0 + 1)) * perDscp p else 0) =
      p.config.dscpClasses.length * perDscp p
  by_cases h : 0 < p.config.dscpClasses.length
  · rw [if_pos h, Nat.add_comm (perDscp p), ← Nat.succ_mul]
    congr 1
    omega
  · rw [if_neg h, Nat.eq_zero_of_not_pos h, Nat.zero_mul]

theorem single_take_length {p : ThroughputPlan} (h : p.config.singleTest = true) (n : Nat) :
    (p.tests.take n).length = min n 1 := by
  have hnext : ∃ spec, p.tests.next =
      (some spec, { p.tests with nextId := 2, emittedSingle := true }) := by
    unfold TestPlanIter.next
    dsimp only
    rw [if_pos (show p.tests.plan.config.singleTest = true from h)]
    exact ⟨_, rfl⟩
  have hlast : (TestPlanIter.next { p.tests with nextId := 2, emittedSingle := true }).1 = none := by
    unfold TestPlanIter.next
    dsimp only
    rw [if_pos (show p.tests.plan.config.singleTest = true from h)]
    rfl
  obtain ⟨spec, hnext⟩ := hnext
  match n with
  | 0 => rfl
  | n + 1 =>
    unfold TestPlanIter.take
    rw [hnext]
    dsimp only
    rw [TestPlanIter.take_of_none hlast, Nat.succ_min_succ, Nat.min_zero]
    rfl

/-- The walk through a plan gives the tests that the plan counts, and no more. -/
theorem tests_take_length {config : SuiteConfig} {capabilities : ServerCapabilities}
    {p : ThroughputPlan} (h : plan config capabilities = .ok p) (n : Nat) :
    (p.tests.take n).length = min n p.totalTests := by
  obtain ⟨hvalid, rfl, -⟩ := plan_ok h
  rw [plan_counted h]
  by_cases hsingle : p.config.singleTest = true
  · rw [single_take_length hsingle]
    unfold totalTests
    rw [if_pos hsingle]
  · obtain ⟨hstreams, hwindows⟩ := validate_lists hvalid
    have hp : p.Many := ⟨Bool.eq_false_iff.mpr hsingle, hstreams, hwindows⟩
    rw [TestPlanIter.take_length hp (tests_sound hp), tests_remaining hp]

theorem totalTests_lt_limit (p : ThroughputPlan) :
    totalTests p.config p.capabilities < p.limit := by
  unfold totalTests ThroughputPlan.limit
  by_cases hsingle : p.config.singleTest = true
  · rw [if_pos hsingle]
    omega
  · have htcp : tcpPerDscp p.config p.capabilities ≤
        3 * p.config.tcpStreams.length * p.config.tcpWindowsBytes.length := by
      unfold tcpPerDscp directionCount
      split
      · exact Nat.zero_le _
      · split
        · exact Nat.le_refl _
        · exact Nat.mul_le_mul_right _ (Nat.mul_le_mul_right _ (by decide))
    have hudp : udpPerDscp p.config ≤ 2002 := by
      have hsteps : saturationSteps p.config ≤ 1000 := by
        unfold saturationSteps
        split
        · exact Nat.zero_le _
        · exact Nat.min_le_right _ _
      unfold udpPerDscp
      split <;> omega
    have hclass := Nat.mul_le_mul_left p.config.dscpClasses.length (Nat.add_le_add htcp hudp)
    unfold dscpCount
    rw [if_neg hsingle, if_neg hsingle]
    omega

theorem testList_length {config : SuiteConfig} {capabilities : ServerCapabilities}
    {p : ThroughputPlan} (h : plan config capabilities = .ok p) :
    p.testList.length = p.totalTests := by
  have hlimit := totalTests_lt_limit p
  rw [← plan_counted h] at hlimit
  unfold ThroughputPlan.testList
  rw [tests_take_length h]
  omega

/-- The walk has ended: more calls give no more tests. -/
theorem take_eq_testList {config : SuiteConfig} {capabilities : ServerCapabilities}
    {p : ThroughputPlan} (h : plan config capabilities = .ok p) {n : Nat} (hn : p.limit ≤ n) :
    p.tests.take n = p.testList := by
  have hlimit := totalTests_lt_limit p
  rw [← plan_counted h] at hlimit
  have htake := TestPlanIter.take_take p.tests p.limit n
  rw [Nat.min_eq_left hn, List.take_of_length_le (by rw [tests_take_length h]; omega)] at htake
  exact htake

end NetworkLantern.Throughput
