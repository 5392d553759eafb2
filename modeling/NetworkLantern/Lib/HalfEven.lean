import Mathlib.Tactic.Ring

/-!
# Rounding to 53 bits

`halfEven n d` is the natural number nearest to `n / d`, and of two as near the
even one.  `round53 n` keeps the 53 highest bits of `n` in this way, which are
those that the mantissa of a binary64 number has.

    halfEven_le_iff     what is rounded to at most an even number
    round53_mul_pow     the rounding does not depend on the unit
-/

namespace NetworkLantern

/-! ## To a natural number -/

/-- `n / d` to the nearest natural number, a half to the even one. -/
def halfEven (n d : Nat) : Nat :=
  if 2 * (n % d) < d then n / d
  else if d < 2 * (n % d) then n / d + 1
  else n / d + n / d % 2

theorem le_halfEven (n d : Nat) : n / d ≤ halfEven n d := by
  unfold halfEven
  split
  · exact Nat.le_refl _
  · split <;> omega

theorem halfEven_le_succ (n d : Nat) : halfEven n d ≤ n / d + 1 := by
  unfold halfEven
  split
  · exact Nat.le_succ _
  · split <;> omega

theorem halfEven_of_dvd {n d : Nat} (hd : 0 < d) (h : d ∣ n) : halfEven n d = n / d := by
  unfold halfEven
  rw [Nat.mod_eq_zero_of_dvd h, if_pos (by omega)]

theorem halfEven_mul_mul {n d k : Nat} (hk : 0 < k) :
    halfEven (n * k) (d * k) = halfEven n d := by
  have hlt : 2 * (n % d * k) < d * k ↔ 2 * (n % d) < d := by
    rw [← Nat.mul_assoc]
    exact Nat.mul_lt_mul_right hk
  have hgt : d * k < 2 * (n % d * k) ↔ d < 2 * (n % d) := by
    rw [← Nat.mul_assoc]
    exact Nat.mul_lt_mul_right hk
  simp only [halfEven, Nat.mul_mod_mul_right, Nat.mul_div_mul_right _ _ hk, hlt, hgt]

/-- At most an even number is what lies at most a half above it. -/
theorem halfEven_le_iff {n d c : Nat} (hd : 0 < d) (hc : c % 2 = 0) :
    halfEven n d ≤ c ↔ 2 * n ≤ (2 * c + 1) * d := by
  have hn : n = d * (n / d) + n % d := (Nat.div_add_mod n d).symm
  have hlow := le_halfEven n d
  have hhigh := halfEven_le_succ n d
  have hrest : n % d < d := Nat.mod_lt n hd
  have hsum : (2 * c + 1) * d = 2 * (d * c) + d := by ring
  rcases Nat.lt_trichotomy (n / d) c with h | h | h
  · have hmul : d * (n / d + 1) ≤ d * c := Nat.mul_le_mul_left d h
    rw [Nat.mul_succ] at hmul
    constructor <;> intro <;> omega
  · have heven : n / d % 2 = 0 := by rw [h]; exact hc
    unfold halfEven
    rw [hsum, ← h]
    constructor
    · intro hle
      by_contra hgt
      rw [if_neg (by omega), if_pos (by omega)] at hle
      omega
    · intro hle
      split
      · exact Nat.le_refl _
      · rw [if_neg (by omega)]
        omega
  · have hmul : d * (c + 1) ≤ d * (n / d) := Nat.mul_le_mul_left d h
    rw [Nat.mul_succ] at hmul
    constructor <;> intro <;> omega

/-! ## To 53 bits -/

/-- The bits beyond the first 53. -/
def excess (n : Nat) : Nat := n.log2 - 52

/-- To the nearest number with 53 significant bits. -/
def round53 (n : Nat) : Nat := halfEven n (2 ^ excess n) * 2 ^ excess n

theorem excess_of_lt {n : Nat} (h : n < 2 ^ 53) : excess n = 0 := by
  rcases Nat.eq_zero_or_pos n with rfl | hpos
  · rfl
  · have hlog : n.log2 < 53 := (Nat.log2_lt hpos.ne').mpr h
    unfold excess
    omega

theorem pow_excess_le {n : Nat} (h : 2 ^ 52 ≤ n) : 2 ^ 52 * 2 ^ excess n ≤ n := by
  have hn : n ≠ 0 := by
    intro hzero
    omega
  have hlog : 52 ≤ n.log2 := (Nat.le_log2 hn).mpr h
  have hsum : 52 + excess n = n.log2 := by
    unfold excess
    omega
  rw [← Nat.pow_add, hsum]
  exact Nat.log2_self_le hn

theorem lt_pow_excess (n : Nat) : n < 2 ^ 53 * 2 ^ excess n := by
  have hle : n.log2 + 1 ≤ 53 + excess n := by
    unfold excess
    omega
  rw [← Nat.pow_add]
  exact Nat.lt_of_lt_of_le Nat.lt_log2_self (Nat.pow_le_pow_right (by omega) hle)

theorem round53_of_dvd {n : Nat} (h : 2 ^ excess n ∣ n) : round53 n = n := by
  unfold round53
  rw [halfEven_of_dvd (Nat.two_pow_pos _) h, Nat.div_mul_cancel h]

theorem round53_of_lt {n : Nat} (h : n < 2 ^ 53) : round53 n = n := by
  apply round53_of_dvd
  rw [excess_of_lt h]
  exact Nat.one_dvd n

theorem log2_mul_pow {n : Nat} (hn : n ≠ 0) (j : Nat) : (n * 2 ^ j).log2 = n.log2 + j := by
  induction j with
  | zero => rw [Nat.pow_zero, Nat.mul_one, Nat.add_zero]
  | succ j ih =>
    have hmul : n * 2 ^ (j + 1) = 2 * (n * 2 ^ j) := by ring
    rw [hmul, Nat.log2_two_mul (Nat.mul_ne_zero hn (Nat.two_pow_pos j).ne'), ih, Nat.add_assoc]

/-- The rounding does not depend on the unit. -/
theorem round53_mul_pow (n j : Nat) : round53 (n * 2 ^ j) = round53 n * 2 ^ j := by
  rcases Nat.eq_zero_or_pos n with rfl | hpos
  · simp [round53, halfEven]
  have hlog := log2_mul_pow hpos.ne' j
  by_cases hfull : 52 ≤ n.log2
  · have hexcess : excess (n * 2 ^ j) = excess n + j := by
      unfold excess
      omega
    unfold round53
    rw [hexcess, Nat.pow_add, halfEven_mul_mul (Nat.two_pow_pos j), Nat.mul_assoc]
  · -- nothing of `n` is lost, and the bits beyond the first 53 are those of the unit
    have hlt : n < 2 ^ 53 := (Nat.log2_lt hpos.ne').mp (by omega)
    have hexcess : excess (n * 2 ^ j) ≤ j := by
      unfold excess
      omega
    rw [round53_of_lt hlt, round53_of_dvd]
    exact Nat.dvd_mul_left_of_dvd (Nat.pow_dvd_pow 2 hexcess) n

end NetworkLantern
