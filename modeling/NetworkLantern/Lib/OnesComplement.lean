import Mathlib.Algebra.BigOperators.Group.List.Basic
import Mathlib.Algebra.GroupWithZero.Nat

/-!
# Sums in ones' complement

Words of 16 bits under addition with an end-around carry.  A sum depends on the plain
total only (`onesComplementSum_eq`); with the complement of the rest in place of a zero
it is 65535 (`onesComplementSum_filled`).
-/

namespace NetworkLantern

/-- The carry out of 16 bits comes back in at the low end. -/
def onesAdd (a b : Nat) : Nat := if 65535 < a + b then a + b - 65535 else a + b

def onesComplementSum (ws : List Nat) : Nat := ws.foldl onesAdd 0

/-- The number from 1 to 65535 that differs from `n` by a multiple of 65535; zero for zero. -/
def wrapped (n : Nat) : Nat := if n = 0 then 0 else (n - 1) % 65535 + 1

theorem onesAdd_le {a b : Nat} (ha : a ≤ 65535) (hb : b ≤ 65535) : onesAdd a b ≤ 65535 := by
  unfold onesAdd
  split <;> omega

theorem onesAdd_wrapped (n : Nat) {w : Nat} (hw : w ≤ 65535) :
    onesAdd (wrapped n) w = wrapped (n + w) := by
  unfold onesAdd wrapped
  by_cases hn : n = 0
  · subst hn
    by_cases hz : w = 0
    · subst hz
      rfl
    · rw [if_pos rfl, Nat.zero_add, if_neg (by omega), if_neg hz]
      omega
  · rw [if_neg hn, if_neg (by omega : ¬ n + w = 0)]
    split <;> omega

theorem foldl_onesAdd (n : Nat) {ws : List Nat} (hws : ∀ w ∈ ws, w ≤ 65535) :
    ws.foldl onesAdd (wrapped n) = wrapped (n + ws.sum) := by
  induction ws generalizing n with
  | nil => rfl
  | cons w ws ih =>
    rw [List.forall_mem_cons] at hws
    rw [List.foldl_cons, onesAdd_wrapped n hws.1, ih _ hws.2, List.sum_cons, Nat.add_assoc]

theorem onesComplementSum_eq {ws : List Nat} (hws : ∀ w ∈ ws, w ≤ 65535) :
    onesComplementSum ws = wrapped ws.sum := by
  have h := foldl_onesAdd 0 hws
  rw [Nat.zero_add] at h
  exact h

theorem wrapped_le (n : Nat) : wrapped n ≤ 65535 := by
  unfold wrapped
  split <;> omega

/-- What is added to a sum that is short of it makes it 65535. -/
theorem wrapped_complement (n : Nat) : wrapped (n + (65535 - wrapped n)) = 65535 := by
  unfold wrapped
  by_cases hn : n = 0
  · subst hn
    rfl
  · rw [if_neg hn, if_neg (by omega)]
    omega

/-- The complement of a sum, in the place of one of its words that was zero. -/
theorem onesComplementSum_filled {before after : List Nat} (hbefore : ∀ w ∈ before, w ≤ 65535)
    (hafter : ∀ w ∈ after, w ≤ 65535) :
    onesComplementSum
      (before ++ (65535 - onesComplementSum (before ++ 0 :: after)) :: after) = 65535 := by
  have hzero : ∀ w ∈ before ++ 0 :: after, w ≤ 65535 := by
    intro w hw
    rcases List.mem_append.mp hw with hw | hw
    · exact hbefore w hw
    · rcases List.mem_cons.mp hw with rfl | hw
      · exact Nat.zero_le _
      · exact hafter w hw
  have hfilled : ∀ w ∈ before ++ (65535 - onesComplementSum (before ++ 0 :: after)) :: after,
      w ≤ 65535 := by
    intro w hw
    rcases List.mem_append.mp hw with hw | hw
    · exact hbefore w hw
    · rcases List.mem_cons.mp hw with rfl | hw
      · exact Nat.sub_le _ _
      · exact hafter w hw
  rw [onesComplementSum_eq hfilled, onesComplementSum_eq hzero, List.sum_append, List.sum_cons,
    List.sum_append, List.sum_cons, Nat.zero_add]
  have hcomplement := wrapped_complement (before.sum + after.sum)
  rw [show before.sum + (65535 - wrapped (before.sum + after.sum) + after.sum) =
    before.sum + after.sum + (65535 - wrapped (before.sum + after.sum)) by omega, hcomplement]

end NetworkLantern
