import Mathlib.Algebra.BigOperators.Group.List.Basic
import Mathlib.Algebra.Order.Field.Basic
import Mathlib.Algebra.CharZero.Defs
import Mathlib.Tactic.FieldSimp
import Mathlib.Tactic.Ring
import Mathlib.Tactic.Positivity

/-!
# Running means

The mean of a list and the sum of the squared distances to it, and how both move
when a value arrives: the recurrence `mean + (x - mean) / n`,
`m2 + (x - mean) * (x - mean')` that needs one value at a time.

    mean_concat       the mean of one value more
    squares_concat    the squares of one value more
-/

namespace NetworkLantern

section Mean

variable {K : Type} [Field K]

def mean (xs : List K) : K := xs.sum / (xs.length : K)

/-- The squared distances to `c`, added up. -/
def squaresAbout (c : K) (xs : List K) : K := (xs.map fun x => (x - c) * (x - c)).sum

/-- The squared distances to the mean, added up. -/
def squares (xs : List K) : K := squaresAbout (mean xs) xs

@[simp] theorem mean_nil : mean ([] : List K) = 0 := zero_div _

@[simp] theorem squares_nil : squares ([] : List K) = 0 := rfl

theorem squaresAbout_concat (c : K) (xs : List K) (x : K) :
    squaresAbout c (xs ++ [x]) = squaresAbout c xs + (x - c) * (x - c) := by
  simp [squaresAbout]

theorem squaresAbout_eq (c : K) (xs : List K) :
    squaresAbout c xs =
      (xs.map fun x => x * x).sum - 2 * c * xs.sum + (xs.length : K) * (c * c) := by
  induction xs with
  | nil => simp [squaresAbout]
  | cons x xs ih =>
    have hcons : squaresAbout c (x :: xs) = (x - c) * (x - c) + squaresAbout c xs := by
      simp [squaresAbout]
    rw [hcons, ih, List.map_cons, List.sum_cons, List.sum_cons, List.length_cons, Nat.cast_succ]
    ring

variable [CharZero K]

theorem mean_mul_length (xs : List K) : mean xs * (xs.length : K) = xs.sum := by
  cases xs with
  | nil => simp
  | cons x xs =>
    have hlen : ((x :: xs).length : K) ≠ 0 := Nat.cast_ne_zero.mpr (Nat.succ_ne_zero _)
    exact div_mul_cancel₀ _ hlen

/-- Moving away from the mean adds the distance squared, once for each value. -/
theorem squaresAbout_shift (c : K) (xs : List K) :
    squaresAbout c xs = squares xs + (xs.length : K) * ((c - mean xs) * (c - mean xs)) := by
  rw [squares, squaresAbout_eq, squaresAbout_eq, ← mean_mul_length xs]
  ring

theorem mean_concat (xs : List K) (x : K) :
    mean (xs ++ [x]) = mean xs + (x - mean xs) / ((xs.length + 1 : Nat) : K) := by
  have hlen : ((xs.length + 1 : Nat) : K) ≠ 0 := Nat.cast_ne_zero.mpr (Nat.succ_ne_zero _)
  have hsum := mean_mul_length xs
  rw [mean, List.length_append, List.length_singleton, List.sum_append, List.sum_singleton, ← hsum]
  field_simp
  push_cast
  ring

theorem squares_concat (xs : List K) (x : K) :
    squares (xs ++ [x]) = squares xs + (x - mean xs) * (x - mean (xs ++ [x])) := by
  have hlen : ((xs.length + 1 : Nat) : K) ≠ 0 := Nat.cast_ne_zero.mpr (Nat.succ_ne_zero _)
  rw [squares, squaresAbout_concat, squaresAbout_shift, mean_concat]
  field_simp
  push_cast
  ring

end Mean

section Order

variable {K : Type} [Field K] [LinearOrder K] [IsStrictOrderedRing K]

theorem squares_nonneg (xs : List K) : 0 ≤ squares xs :=
  List.sum_nonneg fun y hy => by
    obtain ⟨x, -, rfl⟩ := List.mem_map.mp hy
    exact mul_self_nonneg _

end Order

end NetworkLantern
