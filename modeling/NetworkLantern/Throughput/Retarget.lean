import NetworkLantern.Throughput.Plan

/-!
# The resolved address

Before a suite runs, its target becomes the address that was resolved.  The
tests stay the same but for that address.
-/

namespace NetworkLantern.Throughput

open NetworkLantern

/-- The address of the server, and its version. -/
structure Resolved where
  address : Str
  ipVersion : IpVersion

/-- `plan.config.target = ..; plan.config.ip_version = ..`. -/
def ThroughputPlan.retarget (p : ThroughputPlan) (r : Resolved) : ThroughputPlan :=
  { p with config := { p.config with target := r.address, ipVersion := r.ipVersion } }

def TestSpec.retarget (s : TestSpec) (r : Resolved) : TestSpec :=
  { s with target := r.address, ipVersion := r.ipVersion }

namespace TestPlanIter

def retarget (it : TestPlanIter) (r : Resolved) : TestPlanIter :=
  { it with plan := it.plan.retarget r }

theorem advanceMatrix_retarget (it : TestPlanIter) (r : Resolved) :
    (it.retarget r).advanceMatrix = it.advanceMatrix.retarget r := by
  simp only [advanceMatrix, apply_ite (retarget · r)]
  rfl

/-- What a turn made, retargeted. -/
def retargetTurn (r : Resolved) (x : Option TestSpec × TestPlanIter) :
    Option TestSpec × TestPlanIter :=
  (x.1.map (·.retarget r), x.2.retarget r)

theorem saturationTurn_retarget (it : TestPlanIter) (r : Resolved) (dscp : DscpClass) :
    (it.retarget r).saturationTurn dscp = retargetTurn r (it.saturationTurn dscp) := by
  simp only [saturationTurn, apply_ite (retargetTurn r)]
  by_cases hd : it.direction + 1 = 2
  · have hL : (it.retarget r).direction + 1 = 2 := hd
    rw [if_pos hL, if_pos hd]
    rfl
  · have hL : ¬ (it.retarget r).direction + 1 = 2 := hd
    rw [if_neg hL, if_neg hd]
    rfl

theorem udpTurn_retarget (it : TestPlanIter) (r : Resolved) (dscp : DscpClass) :
    (it.retarget r).udpTurn dscp = retargetTurn r (it.udpTurn dscp) := by
  simp only [udpTurn, apply_ite (retargetTurn r), ← saturationTurn_retarget,
    apply_ite (retarget · r)]
  rfl

theorem turn_retarget (it : TestPlanIter) (r : Resolved) (dscp : DscpClass) :
    (it.retarget r).turn dscp = retargetTurn r (it.turn dscp) := by
  simp only [turn, apply_ite (retargetTurn r), ← udpTurn_retarget, apply_ite (retarget · r)]
  unfold retargetTurn
  rw [← advanceMatrix_retarget]
  rfl

theorem nextFrom_retarget (it : TestPlanIter) (r : Resolved) (classes : Nat) :
    (it.retarget r).nextFrom classes = retargetTurn r (it.nextFrom classes) := by
  induction classes generalizing it with
  | zero => rfl
  | succ classes ih =>
    unfold nextFrom
    have hclass : (it.retarget r).plan.config.dscpClasses[(it.retarget r).dscp]? =
        it.plan.config.dscpClasses[it.dscp]? := rfl
    rw [hclass]
    cases it.plan.config.dscpClasses[it.dscp]? with
    | none => rfl
    | some dscp =>
      simp only [turn_retarget]
      rcases it.turn dscp with ⟨_ | spec, next⟩
      · exact ih next
      · rfl

theorem next_retarget (it : TestPlanIter) (r : Resolved) :
    (it.retarget r).next = retargetTurn r it.next := by
  simp only [next, apply_ite (retargetTurn r), ← nextFrom_retarget]
  rfl

/-- The tests of a retargeted plan are those of the plan, retargeted. -/
theorem take_retarget (it : TestPlanIter) (r : Resolved) (n : Nat) :
    (it.retarget r).take n = (it.take n).map (·.retarget r) := by
  induction n generalizing it with
  | zero => rfl
  | succ n ih =>
    unfold take
    rw [next_retarget]
    rcases it.next with ⟨_ | spec, rest⟩
    · rfl
    · rw [List.map_cons, ← ih]
      rfl

end TestPlanIter

end NetworkLantern.Throughput
