import Mathlib.Data.List.Basic
import Mathlib.Data.List.Count

/-!
# Spaced times

Times that lie, one after the other, at least a gap apart from each other from an
origin on.  Not many of them lie early (`Spaced.countP_le`).
-/

namespace NetworkLantern

/-- The `k`-th time is `k` gaps after the origin, or later. -/
def Spaced (origin gap : Nat) (times : List Nat) : Prop :=
  ∀ k time, times[k]? = some time → origin + k * gap ≤ time

namespace Spaced

variable {origin gap : Nat} {times : List Nat}

theorem nil : Spaced origin gap [] := nofun

theorem concat (h : Spaced origin gap times) {time : Nat}
    (htime : origin + times.length * gap ≤ time) : Spaced origin gap (times ++ [time]) := by
  intro k time' hk
  rcases Nat.lt_or_ge k times.length with hlt | hge
  · rw [List.getElem?_append_left hlt] at hk
    exact h k time' hk
  · rw [List.getElem?_append_right hge, List.getElem?_singleton] at hk
    split at hk
    · rename_i hzero
      cases hk
      rwa [Nat.le_antisymm (Nat.le_of_sub_eq_zero hzero) hge]
    · cases hk

/-- At most one more than the gaps that fit. -/
theorem countP_le (h : Spaced origin gap times) (hgap : gap ≠ 0) (t : Nat) :
    times.countP (· ≤ origin + t) ≤ t / gap + 1 := by
  have hlate : (times.drop (t / gap + 1)).countP (· ≤ origin + t) = 0 := by
    refine List.countP_eq_zero.mpr fun time hmem hle => ?_
    obtain ⟨k, hk⟩ := List.getElem?_of_mem hmem
    rw [List.getElem?_drop] at hk
    have htime := h _ _ hk
    have hlt : t < (t / gap + 1) * gap :=
      Nat.lt_mul_of_div_lt (Nat.lt_succ_self _) (Nat.pos_of_ne_zero hgap)
    rw [Nat.add_mul] at htime
    have hle := of_decide_eq_true hle
    omega
  calc times.countP (· ≤ origin + t)
      = (times.take (t / gap + 1)).countP (· ≤ origin + t) +
          (times.drop (t / gap + 1)).countP (· ≤ origin + t) := by
        rw [← List.countP_append, List.take_append_drop]
    _ = (times.take (t / gap + 1)).countP (· ≤ origin + t) := by rw [hlate, Nat.add_zero]
    _ ≤ (times.take (t / gap + 1)).length := List.countP_le_length
    _ ≤ t / gap + 1 := List.length_take_le _ _

end Spaced

end NetworkLantern
