import NetworkLantern.Lib.HalfEven
import Mathlib

/-!
# Positive binary64 numbers

`IsNormal x m e` says that the float `x` is the positive number `m * 2 ^ e`, with
the 53 bits of a mantissa in `m`.  Conversion, product and quotient round the
exact result half to even.

    isNormal_toFloat    an integer is rounded to 53 bits
    IsNormal.mul        so is a product
    IsNormal.div        a quotient is at most an even number when the exact one is
                        at most half a unit more
-/

namespace NetworkLantern

open Float.Model Float.Model.UnpackedFloat

/-! ## Values -/

/-- The number with this mantissa and exponent. -/
def scaled (m : Nat) (e : Int) : ℚ := m * 2 ^ e

theorem scaled_shift (m k : Nat) (e : Int) : scaled (m * 2 ^ k) e = scaled m (e + k) := by
  unfold scaled
  rw [zpow_add₀ (by norm_num), zpow_natCast]
  push_cast
  ring

theorem scaled_le_scaled {m n : Nat} (h : m ≤ n) (e : Int) : scaled m e ≤ scaled n e :=
  mul_le_mul_of_nonneg_right (Nat.cast_le.mpr h) (zpow_pos (by norm_num) e).le

theorem scaled_lt_scaled {m n : Nat} (h : m < n) (e : Int) : scaled m e < scaled n e :=
  mul_lt_mul_of_pos_right (Nat.cast_lt.mpr h) (zpow_pos (by norm_num) e)

theorem scaled_le_iff {m n : Nat} {e : Int} : scaled m e ≤ scaled n e ↔ m ≤ n :=
  ⟨fun h => not_lt.mp fun hlt => absurd h (not_le.mpr (scaled_lt_scaled hlt e)),
    fun h => scaled_le_scaled h e⟩

theorem scaled_mono {m : Nat} {e f : Int} (h : e ≤ f) : scaled m e ≤ scaled m f :=
  mul_le_mul_of_nonneg_left (zpow_le_zpow_right₀ (by norm_num) h) (Nat.cast_nonneg m)

theorem scaled_lt_of_exponent {m n : Nat} {e f : Int} (hm : m < 2 ^ 53) (hn : 2 ^ 52 ≤ n)
    (h : e < f) : scaled m e < scaled n f := calc
  scaled m e < scaled (2 ^ 52 * 2 ^ 1) e := scaled_lt_scaled (by omega) e
  _ = scaled (2 ^ 52) (e + 1) := scaled_shift _ _ _
  _ ≤ scaled (2 ^ 52) f := scaled_mono (by omega)
  _ ≤ scaled n f := scaled_le_scaled hn f

/-! ## Normal numbers -/

/-- The float is the positive number `m * 2 ^ e`. -/
structure IsNormal (x : Float) (m : Nat) (e : Int) : Prop where
  low : 2 ^ 52 ≤ m
  high : m < 2 ^ 53
  least : -1074 ≤ e
  greatest : e ≤ 971
  unpack : ∃ h, x.toModel.unpack = .finite .positive m e h

theorem isNormal_hundred : IsNormal 100 (100 * 2 ^ 46) (-46) where
  low := by decide
  high := by decide
  least := by decide
  greatest := by decide
  unpack := ⟨by decide, rfl⟩

/-- What is packed in range is unpacked as it was. -/
theorem unpack_pack {m : Nat} {e : Int} (hlow : 2 ^ 52 ≤ m) (hhigh : m < 2 ^ 53)
    (hleast : -1074 ≤ e) (hgreatest : e ≤ 971) (h : 0 < m) :
    (Float.Model.pack (.finite .positive m e h)).unpack = .finite .positive m e h := by
  obtain ⟨b, hb⟩ : ∃ b : Nat, e = b - 1075 := ⟨(e + 1075).toNat, by omega⟩
  have hexponent : (BitVec.ofNat 11 b).toNat = b := by
    rw [BitVec.toNat_ofNat, Nat.mod_eq_of_lt (by omega)]
  have hones : BitVec.ofNat 11 b ≠ -1#11 := by
    intro heq
    have hnat := congrArg BitVec.toNat heq
    rw [hexponent] at hnat
    have : (-1#11).toNat = 2047 := rfl
    omega
  have hzero : BitVec.ofNat 11 b ≠ 0#11 := by
    intro heq
    have hnat := congrArg BitVec.toNat heq
    rw [hexponent] at hnat
    have : (0#11).toNat = 0 := rfl
    omega
  have hmantissa : (1#1 ++ BitVec.ofNat 52 m).toNat = m := by
    rw [BitVec.toNat_append, BitVec.toNat_ofNat, ← Nat.shiftLeft_add_eq_or_of_lt (by omega)]
    show 1 <<< 52 + m % 2 ^ 52 = m
    omega
  have hunpack : UnpackedFloat.unpack Format.binary64
      (packComponents Format.binary64 .positive (BitVec.ofNat 11 b) (BitVec.ofNat 52 m)) =
        .finite .positive m e h := by
    unfold UnpackedFloat.unpack
    simp only [unpackExponent_packComponents, unpackMantissa_packComponents,
      unpackSign_packComponents]
    rw [if_neg hones, if_neg hzero, UnpackedFloat.finite.injEq]
    refine ⟨rfl, hmantissa, ?_⟩
    rw [hexponent, hb]
    rfl
  have hvalid : Format.binary64.Valid
      (packComponents Format.binary64 .positive (BitVec.ofNat 11 b) (BitVec.ofNat 52 m)) :=
    ⟨fun hexp _ => absurd (unpackExponent_packComponents.symm.trans hexp) hones⟩
  show UnpackedFloat.unpack Format.binary64 (UnpackedFloat.pack Format.binary64 _) = _
  rw [← hunpack, pack_unpack_of_valid hvalid]

/-- The order of normal numbers is that of their values. -/
theorem IsNormal.le_iff {x y : Float} {m n : Nat} {e f : Int} (hx : IsNormal x m e)
    (hy : IsNormal y n f) : x ≤ y ↔ scaled m e ≤ scaled n f := by
  obtain ⟨hm, hux⟩ := hx.unpack
  obtain ⟨hn, huy⟩ := hy.unpack
  have hle : x ≤ y ↔ ((compare e f).then (compare m n)).isLE = true := by
    show decide (x.toModel.unpack.le y.toModel.unpack = true) = true ↔ _
    rw [hux, huy, decide_eq_true_iff]
    rfl
  rw [hle]
  rcases lt_trichotomy e f with h | rfl | h
  · rw [Int.compare_eq_lt.mpr h]
    exact iff_of_true rfl (scaled_lt_of_exponent hx.high hy.low h).le
  · have hself : compare e e = .eq := Int.compare_eq_eq.mpr rfl
    rw [hself]
    show (compare m n).isLE = true ↔ _
    rw [Nat.isLE_compare]
    exact scaled_le_iff.symm
  · rw [Int.compare_eq_gt.mpr h]
    exact iff_of_false Bool.false_ne_true (not_le.mpr (scaled_lt_of_exponent hy.high hx.low h))

theorem IsNormal.nonneg {x : Float} {m : Nat} {e : Int} (h : IsNormal x m e) : 0 ≤ x := by
  obtain ⟨hm, hu⟩ := h.unpack
  show decide ((0 : Float).toModel.unpack.le x.toModel.unpack = true) = true
  rw [hu]
  rfl

/-! ## Zero -/

def IsZero (x : Float) : Prop := x.toModel.unpack = .zero .positive

theorem isZero_toFloat : IsZero (0 : UInt64).toFloat := rfl

theorem IsZero.mul {x y : Float} {n : Nat} {e : Int} (hx : IsZero x) (hy : IsNormal y n e) :
    IsZero (x * y) := by
  obtain ⟨hn, hu⟩ := hy.unpack
  show (Float.Model.pack (UnpackedFloat.mul Format.binary64 x.toModel.unpack
    y.toModel.unpack)).unpack = _
  rw [hx, hu]
  simp only [UnpackedFloat.mul]
  rfl

theorem IsZero.div {x y : Float} {n : Nat} {e : Int} (hx : IsZero x) (hy : IsNormal y n e) :
    IsZero (x / y) := by
  obtain ⟨hn, hu⟩ := hy.unpack
  show (Float.Model.pack (UnpackedFloat.div Format.binary64 x.toModel.unpack
    y.toModel.unpack)).unpack = _
  rw [hx, hu]
  simp only [UnpackedFloat.div]
  rfl

theorem IsZero.nonneg {x : Float} (h : IsZero x) : 0 ≤ x := by
  show decide ((0 : Float).toModel.unpack.le x.toModel.unpack = true) = true
  rw [h]
  rfl

theorem IsZero.le {x y : Float} {n : Nat} {e : Int} (hx : IsZero x) (hy : IsNormal y n e) :
    x ≤ y := by
  obtain ⟨hn, hu⟩ := hy.unpack
  show decide (x.toModel.unpack.le y.toModel.unpack = true) = true
  rw [hx, hu]
  rfl

/-! ## Rounding -/

/-- `n / d` with the bit of the half and whether anything else follows. -/
def extended (n d : Nat) : ExtendedMantissa :=
  ⟨n / d, decide (d ≤ 2 * (n % d)), decide (n % d ≠ 0 ∧ 2 * (n % d) ≠ d)⟩

theorem ofMantissaAndAccuracy_fraction {n d : Nat} (hd : 0 < d) :
    ExtendedMantissa.ofMantissaAndAccuracy (n / d) (accuracyOfFraction (n % d) d) =
      extended n d := by
  unfold accuracyOfFraction extended
  split
  · next hzero =>
    rw [decide_eq_false (by omega), decide_eq_false (by omega)]
    rfl
  · next hpos =>
    rcases Nat.lt_trichotomy (2 * (n % d)) d with h | h | h
    · rw [Nat.compare_eq_lt.mpr h, decide_eq_false (by omega), decide_eq_true (by omega)]
      rfl
    · rw [Nat.compare_eq_eq.mpr h, decide_eq_true (by omega), decide_eq_false (by omega)]
      rfl
    · rw [Nat.compare_eq_gt.mpr h, decide_eq_true (by omega), decide_eq_true (by omega)]
      rfl

theorem ofMantissaAndAccuracy_exact (n : Nat) :
    ExtendedMantissa.ofMantissaAndAccuracy n .exact = extended n 1 := by
  unfold extended
  rw [Nat.div_one, Nat.mod_one]
  rfl

theorem shiftRightOne_extended {n d : Nat} (hd : 0 < d) :
    (extended n d).shiftRightOne = extended n (d * 2) := by
  have hrest := Nat.mod_lt n hd
  have hmod : n % (d * 2) = n % d + d * (n / d % 2) := Nat.mod_mul
  unfold ExtendedMantissa.shiftRightOne extended
  rw [hmod, Nat.div_div_eq_div_mul, ← Bool.decide_or]
  rcases Nat.mod_two_eq_zero_or_one (n / d) with h | h
  · rw [h, Nat.mul_zero, decide_eq_false (p := d * 2 ≤ _) (by omega)]
    congr 1
    exact decide_eq_decide.mpr (by omega)
  · rw [h, Nat.mul_one, decide_eq_true (p := d * 2 ≤ _) (by omega)]
    congr 1
    exact decide_eq_decide.mpr (by omega)

theorem shiftRight_extended {n d : Nat} (hd : 0 < d) (k : Nat) :
    extended n d >>> k = extended n (d * 2 ^ k) := by
  show Nat.repeat ExtendedMantissa.shiftRightOne k (extended n d) = _
  induction k with
  | zero => rw [Nat.pow_zero, Nat.mul_one]; rfl
  | succ k ih =>
    show (Nat.repeat ExtendedMantissa.shiftRightOne k (extended n d)).shiftRightOne = _
    rw [ih, shiftRightOne_extended (Nat.mul_pos hd (Nat.two_pow_pos k)), Nat.mul_assoc,
      ← Nat.pow_succ]

theorem roundedMantissa_extended {n d : Nat} (hd : 0 < d) :
    (extended n d).roundedMantissa = halfEven n d := by
  have hrest := Nat.mod_lt n hd
  unfold extended halfEven
  rcases Nat.lt_trichotomy (2 * (n % d)) d with h | h | h
  · rw [if_pos h, decide_eq_false (by omega)]
    cases decide (n % d ≠ 0 ∧ 2 * (n % d) ≠ d) <;> rfl
  · rw [if_neg (by omega), if_neg (by omega), decide_eq_true (by omega),
      decide_eq_false (by omega)]
    rfl
  · rw [if_neg (by omega), if_pos h, decide_eq_true (by omega), decide_eq_true (by omega)]
    rfl

/-- A mantissa of at least 53 bits loses those that are too many. -/
theorem shiftToTargetExponent_eq {m : Nat} {e : Int} (acc : Accuracy) (hm : 2 ^ 52 ≤ m)
    (he : -1074 ≤ e) : shiftToTargetExponent Format.binary64 m e acc =
      (ExtendedMantissa.ofMantissaAndAccuracy m acc >>> excess m, e + excess m) := by
  have hlog : 52 ≤ m.log2 := (Nat.le_log2 (by omega)).mpr hm
  have htarget : Format.binary64.targetExponent (totalExponent m e) = e + excess m := by
    show max ((m.log2 + 1 + e : Int) - 53) (-1074) = _
    unfold excess
    omega
  have hshift : (e + excess m - e).toNat = excess m := by omega
  unfold shiftToTargetExponent shiftToExponent
  simp only [htarget, hshift]

theorem halfEven_bounds {n d : Nat} (hlow : 2 ^ 52 ≤ n / d) :
    2 ^ 52 ≤ halfEven n (d * 2 ^ excess (n / d)) ∧
      halfEven n (d * 2 ^ excess (n / d)) ≤ 2 ^ 53 := by
  have hdiv : n / (d * 2 ^ excess (n / d)) = n / d / 2 ^ excess (n / d) :=
    (Nat.div_div_eq_div_mul ..).symm
  have hpow := Nat.two_pow_pos (excess (n / d))
  have hge : 2 ^ 52 ≤ n / d / 2 ^ excess (n / d) :=
    (Nat.le_div_iff_mul_le hpow).mpr (pow_excess_le hlow)
  have hlt : n / d / 2 ^ excess (n / d) < 2 ^ 53 :=
    (Nat.div_lt_iff_lt_mul hpow).mpr (lt_pow_excess _)
  have hround := le_halfEven n (d * 2 ^ excess (n / d))
  have hround' := halfEven_le_succ n (d * 2 ^ excess (n / d))
  rw [hdiv] at hround hround'
  omega

/-- A mantissa that the rounding has carried to `2 ^ 53` is shifted once more. -/
theorem shiftToTargetExponent_rounded {r : Nat} {e : Int} (hlow : 2 ^ 52 ≤ r) (hhigh : r ≤ 2 ^ 53)
    (he : -1074 ≤ e) : ∃ em f, shiftToTargetExponent Format.binary64 r e .exact = (em, f) ∧
      2 ^ 52 ≤ em.mantissa ∧ em.mantissa < 2 ^ 53 ∧ e ≤ f ∧ f ≤ e + 1 ∧
      scaled em.mantissa f = scaled r e := by
  refine ⟨_, _, shiftToTargetExponent_eq _ hlow he, ?_⟩
  rw [ofMantissaAndAccuracy_exact, shiftRight_extended Nat.one_pos, Nat.one_mul]
  rcases Nat.lt_or_eq_of_le hhigh with hlt | rfl
  · rw [excess_of_lt hlt, Nat.pow_zero, Nat.cast_zero, Int.add_zero]
    unfold extended
    rw [Nat.div_one]
    exact ⟨hlow, hlt, Int.le_refl e, by omega, rfl⟩
  · have hexcess : excess (2 ^ 53) = 1 := rfl
    rw [hexcess]
    exact ⟨Nat.le_refl _, by decide, by omega, by omega, (scaled_shift (2 ^ 52) 1 e).symm⟩

/-- `n / d`, of at least 53 bits, to the nearest number with 53 bits. -/
theorem roundWithAccuracy_eq {n d : Nat} {e : Int} (hd : 0 < d) (hlow : 2 ^ 52 ≤ n / d)
    (he : -1074 ≤ e) : ∃ m f h,
      roundWithAccuracy Format.binary64 .positive (n / d) e (accuracyOfFraction (n % d) d) =
        .finite .positive m f h ∧ 2 ^ 52 ≤ m ∧ m < 2 ^ 53 ∧ e ≤ f ∧ f ≤ e + excess (n / d) + 1 ∧
      scaled m f = scaled (halfEven n (d * 2 ^ excess (n / d))) (e + excess (n / d)) := by
  have hd' : 0 < d * 2 ^ excess (n / d) := Nat.mul_pos hd (Nat.two_pow_pos _)
  obtain ⟨hge, hle⟩ := halfEven_bounds hlow
  obtain ⟨em, f, hcarry, hm, hm', hf, hf', hvalue⟩ :=
    shiftToTargetExponent_rounded hge hle (e := e + excess (n / d)) (by omega)
  unfold roundWithAccuracy
  rw [shiftToTargetExponent_eq _ hlow he, ofMantissaAndAccuracy_fraction hd,
    shiftRight_extended hd]
  simp only [roundedMantissa_extended hd', hcarry]
  rw [dif_neg (by omega)]
  exact ⟨em.mantissa, f, by omega, rfl, hm, hm', by omega, hf', hvalue⟩

/-- What a rounding packs is a normal number. -/
theorem isNormal_round {x : Float} {n d : Nat} {e : Int} (hd : 0 < d) (hlow : 2 ^ 52 ≤ n / d)
    (he : -1074 ≤ e) (hmost : e + excess (n / d) + 1 ≤ 971)
    (hx : x.toModel = Float.Model.pack (roundWithAccuracy Format.binary64 .positive (n / d) e
      (accuracyOfFraction (n % d) d))) :
    ∃ m f, IsNormal x m f ∧ e ≤ f ∧ f ≤ e + excess (n / d) + 1 ∧
      scaled m f = scaled (halfEven n (d * 2 ^ excess (n / d))) (e + excess (n / d)) := by
  obtain ⟨m, f, h, hround, hm, hm', hf, hf', hvalue⟩ := roundWithAccuracy_eq hd hlow he
  refine ⟨m, f, ⟨hm, hm', by omega, by omega, h, ?_⟩, hf, hf', hvalue⟩
  rw [hx, hround]
  exact unpack_pack hm hm' (by omega) (by omega) h

/-- The rounding does not depend on the exponent. -/
theorem scaled_round53 {m n : Nat} {e : Int} (h : scaled m e = n) :
    scaled (round53 m) e = round53 n := by
  have hcast : ∀ k : Nat, scaled k 0 = k := fun k => by simp [scaled]
  rcases Int.le_total 0 e with he | he
  · obtain ⟨j, rfl⟩ := Int.eq_ofNat_of_zero_le he
    have hn : n = m * 2 ^ j := by
      rw [← Int.zero_add (j : Int), ← scaled_shift, hcast] at h
      exact_mod_cast h.symm
    rw [hn, round53_mul_pow, ← hcast (_ * _), scaled_shift, Int.zero_add]
  · obtain ⟨j, hj⟩ := Int.eq_ofNat_of_zero_le (a := -e) (by omega)
    have hm : m = n * 2 ^ j := by
      have hback : scaled (n * 2 ^ j) e = n := by
        rw [scaled_shift, ← hj, Int.add_right_neg, hcast]
      have heq : scaled m e = scaled (n * 2 ^ j) e := by rw [h, hback]
      exact Nat.le_antisymm (scaled_le_iff.mp heq.le) (scaled_le_iff.mp heq.ge)
    rw [hm, round53_mul_pow, scaled_shift, ← hj, Int.add_right_neg, hcast]

/-- Whether what is rounded is at most an even number. -/
theorem scaled_halfEven_le_iff {n d c : Nat} {e g : Int} (hlow : 2 ^ 52 * d ≤ n)
    (hhigh : n < 2 ^ 53 * d) (hc : 2 ^ 52 ≤ c) (hc' : c < 2 ^ 53) (heven : c % 2 = 0)
    (hr : 2 ^ 52 ≤ halfEven n d) (hr' : halfEven n d ≤ 2 ^ 53) :
    scaled (halfEven n d) e ≤ scaled c g ↔ scaled (2 * n) e ≤ scaled ((2 * c + 1) * d) g := by
  have hd : 0 < d := Nat.pos_of_ne_zero fun h => by
    rw [h] at hhigh
    omega
  rcases lt_trichotomy e g with h | rfl | h
  · apply iff_of_true
    · calc
        scaled (halfEven n d) e ≤ scaled (2 ^ 52 * 2 ^ 1) e := scaled_le_scaled (by omega) e
        _ = scaled (2 ^ 52) (e + 1) := scaled_shift _ _ _
        _ ≤ scaled (2 ^ 52) g := scaled_mono (by omega)
        _ ≤ scaled c g := scaled_le_scaled hc g
    · have hodd : 2 * (2 ^ 52 * d) ≤ (2 * c + 1) * d := by
        rw [← Nat.mul_assoc]
        exact Nat.mul_le_mul_right d (by omega)
      calc
        scaled (2 * n) e ≤ scaled (2 * (2 ^ 52 * d) * 2 ^ 1) e := scaled_le_scaled (by omega) e
        _ = scaled (2 * (2 ^ 52 * d)) (e + 1) := scaled_shift _ _ _
        _ ≤ scaled (2 * (2 ^ 52 * d)) g := scaled_mono (by omega)
        _ ≤ scaled ((2 * c + 1) * d) g := scaled_le_scaled hodd g
  · rw [scaled_le_iff, scaled_le_iff, halfEven_le_iff hd heven]
  · apply iff_of_false
    · exact not_le.mpr (scaled_lt_of_exponent hc' hr h)
    · have hodd : (2 * c + 1) * d < 2 * (2 ^ 52 * d) * 2 ^ 1 := calc
        (2 * c + 1) * d < (2 * 2 ^ 53) * d := Nat.mul_lt_mul_of_pos_right (by omega) hd
        _ = 2 * (2 ^ 52 * d) * 2 ^ 1 := by ring
      apply not_le.mpr
      calc
        scaled ((2 * c + 1) * d) g < scaled (2 * (2 ^ 52 * d) * 2 ^ 1) g := scaled_lt_scaled hodd g
        _ = scaled (2 * (2 ^ 52 * d)) (g + 1) := scaled_shift _ _ _
        _ ≤ scaled (2 * (2 ^ 52 * d)) e := scaled_mono (by omega)
        _ ≤ scaled (2 * n) e := scaled_le_scaled (by omega) e

/-! ## Operations -/

theorem excess_lt {n k : Nat} (hn : 0 < n) (h : n < 2 ^ (53 + k)) : excess n ≤ k := by
  have hlog : n.log2 < 53 + k := (Nat.log2_lt hn.ne').mpr h
  unfold excess
  omega

/-- What is rounded without a quotient before it. -/
theorem isNormal_round_exact {x : Float} {n a k : Nat} {e : Int} (hlow : 2 ^ 52 ≤ n)
    (hhigh : n < 2 ^ (53 + k)) (he : -1074 ≤ e) (hmost : e + k + 1 ≤ 971) (ha : scaled n e = a)
    (hx : x.toModel =
      Float.Model.pack (roundWithAccuracy Format.binary64 .positive n e .exact)) :
    ∃ m f, IsNormal x m f ∧ e ≤ f ∧ f ≤ e + k + 1 ∧ scaled m f = round53 a := by
  have hexcess : excess n ≤ k := excess_lt (by omega) hhigh
  have hround : x.toModel = Float.Model.pack (roundWithAccuracy Format.binary64 .positive (n / 1) e
      (accuracyOfFraction (n % 1) 1)) := by
    rw [Nat.div_one, Nat.mod_one]
    exact hx
  obtain ⟨m, f, hm, hf, hf', hvalue⟩ := isNormal_round Nat.one_pos
    (by rw [Nat.div_one]; exact hlow) he (by rw [Nat.div_one]; omega) hround
  rw [Nat.div_one] at hf' hvalue
  refine ⟨m, f, hm, hf, by omega, ?_⟩
  rw [hvalue, Nat.one_mul, ← scaled_shift]
  exact scaled_round53 ha

/-- An integer is rounded to 53 bits. -/
theorem isNormal_toFloat {n : UInt64} (hn : 0 < n) :
    ∃ m e, IsNormal n.toFloat m e ∧ -52 ≤ e ∧ e ≤ 12 ∧ scaled m e = round53 n.toNat := by
  have hpos : 0 < n.toNat := UInt64.lt_iff_toNat_lt.mp hn
  have hlog : n.toNat.log2 < 64 := (Nat.log2_lt hpos.ne').mpr n.toNat_lt
  -- the mantissa is filled up to 53 bits
  obtain ⟨s, hs⟩ : ∃ s, s = 52 - n.toNat.log2 := ⟨_, rfl⟩
  have hlow : 2 ^ 52 ≤ n.toNat * 2 ^ s := calc
    2 ^ 52 ≤ 2 ^ (n.toNat.log2 + s) := Nat.pow_le_pow_right (by omega) (by omega)
    _ = 2 ^ n.toNat.log2 * 2 ^ s := Nat.pow_add ..
    _ ≤ n.toNat * 2 ^ s := Nat.mul_le_mul_right _ (Nat.log2_self_le hpos.ne')
  have hhigh : n.toNat * 2 ^ s < 2 ^ (53 + 11) := calc
    n.toNat * 2 ^ s < 2 ^ (n.toNat.log2 + 1) * 2 ^ s :=
      Nat.mul_lt_mul_of_pos_right Nat.lt_log2_self (Nat.two_pow_pos s)
    _ = 2 ^ (n.toNat.log2 + 1 + s) := (Nat.pow_add ..).symm
    _ ≤ 2 ^ (53 + 11) := Nat.pow_le_pow_right (by omega) (by omega)
  have hvalue : scaled (n.toNat * 2 ^ s) (-s) = n.toNat := by
    rw [scaled_shift, Int.add_left_neg]
    simp [scaled]
  have hfloat : n.toFloat.toModel = Float.Model.pack
      (roundWithAccuracy Format.binary64 .positive (n.toNat * 2 ^ s) (-s) .exact) := by
    have htarget : Format.binary64.targetExponent (totalExponent n.toNat 0) =
        (n.toNat.log2 : Int) - 52 := by
      show max ((n.toNat.log2 + 1 + 0 : Int) - 53) (-1074) = _
      omega
    have hshift : (0 - ((n.toNat.log2 : Int) - 52)).toNat = s := by omega
    show Float.Model.pack (UnpackedFloat.normalize Format.binary64 n.toNat 0 .positive) = _
    unfold UnpackedFloat.normalize
    rw [Int.compare_eq_gt.mpr (by omega)]
    simp only [UnpackedFloat.round, decreaseExponent, htarget, hshift, Int.toNat_natCast, Nat.shiftLeft_eq]
    rw [Int.zero_sub]
  obtain ⟨m, f, hm, hf, hf', hround⟩ :=
    isNormal_round_exact hlow hhigh (by omega) (by omega) hvalue hfloat
  exact ⟨m, f, hm, by omega, by omega, hround⟩

/-- A product is rounded to 53 bits. -/
theorem IsNormal.mul {x y : Float} {m n a b : Nat} {e f : Int} (hx : IsNormal x m e)
    (hy : IsNormal y n f) (hleast : -1074 ≤ e + f) (hmost : e + f + 54 ≤ 971)
    (ha : scaled m e = a) (hb : scaled n f = b) :
    ∃ r g, IsNormal (x * y) r g ∧ e + f ≤ g ∧ g ≤ e + f + 54 ∧
      scaled r g = round53 (a * b) := by
  obtain ⟨hm, hux⟩ := hx.unpack
  obtain ⟨hn, huy⟩ := hy.unpack
  have hlow : 2 ^ 52 ≤ m * n := calc
    2 ^ 52 = 2 ^ 52 * 1 := rfl
    _ ≤ m * n := Nat.mul_le_mul hx.low hn
  have hhigh : m * n < 2 ^ (53 + 53) := calc
    m * n < 2 ^ 53 * 2 ^ 53 := Nat.mul_lt_mul'' hx.high hy.high
    _ = 2 ^ (53 + 53) := (Nat.pow_add ..).symm
  have hvalue : scaled (m * n) (e + f) = (a * b : Nat) := by
    rw [Nat.cast_mul, ← ha, ← hb]
    unfold scaled
    rw [zpow_add₀ (by norm_num)]
    push_cast
    ring
  have hfloat : (x * y).toModel = Float.Model.pack
      (roundWithAccuracy Format.binary64 .positive (m * n) (e + f) .exact) := by
    show Float.Model.pack (UnpackedFloat.mul Format.binary64 x.toModel.unpack y.toModel.unpack) = _
    rw [hux, huy]
    rfl
  obtain ⟨r, g, hr, hg, hg', hround⟩ :=
    isNormal_round_exact hlow hhigh hleast (by omega) hvalue hfloat
  exact ⟨r, g, hr, hg, by omega, hround⟩

/-- The mantissa is made 53 bits longer before it is divided. -/
theorem divCore_eq {m n : Nat} {e f : Int} (hm : 2 ^ 52 ≤ m) (hm' : m < 2 ^ 53) (hn : 2 ^ 52 ≤ n)
    (hn' : n < 2 ^ 53) (hleast : -1021 ≤ e - f) : divCore Format.binary64 m e n f =
      (m * 2 ^ 53 / n, e - f - 53, accuracyOfFraction (m * 2 ^ 53 % n) n) := by
  have hlog : m.log2 = 52 := (Nat.log2_eq_iff (by omega)).mpr ⟨hm, hm'⟩
  have hlog' : n.log2 = 52 := (Nat.log2_eq_iff (by omega)).mpr ⟨hn, hn'⟩
  have htarget : Format.binary64.targetExponent (totalExponent m e - totalExponent n f) =
      e - f - 53 := by
    show max ((m.log2 + 1 + e : Int) - (n.log2 + 1 + f) - 53) (-1074) = _
    omega
  have hmin : min (e - f) (e - f - 53) = e - f - 53 := by omega
  have hshift : (e - f - (e - f - 53)).toNat = 53 := by omega
  unfold divCore
  simp only [htarget, hmin, hshift, Nat.shiftLeft_eq]

/-- A quotient is normal, and at most an even number when the exact one is at most half a unit
more. -/
theorem IsNormal.div {x y : Float} {m n : Nat} {e f : Int} (hx : IsNormal x m e)
    (hy : IsNormal y n f) (hleast : -1021 ≤ e - f) (hmost : e - f ≤ 1000) :
    ∃ r g, IsNormal (x / y) r g ∧ ∀ c h, 2 ^ 52 ≤ c → c < 2 ^ 53 → c % 2 = 0 →
      (scaled r g ≤ scaled c h ↔ 2 * scaled m e ≤ scaled (2 * c + 1) h * scaled n f) := by
  obtain ⟨hm, hux⟩ := hx.unpack
  obtain ⟨hn, huy⟩ := hy.unpack
  have hxlow := hx.low
  have hxhigh := hx.high
  have hylow := hy.low
  have hyhigh := hy.high
  have hfloat : (x / y).toModel = Float.Model.pack (roundWithAccuracy Format.binary64 .positive
      (m * 2 ^ 53 / n) (e - f - 53) (accuracyOfFraction (m * 2 ^ 53 % n) n)) := by
    show Float.Model.pack (UnpackedFloat.div Format.binary64 x.toModel.unpack y.toModel.unpack) = _
    rw [hux, huy]
    simp only [UnpackedFloat.div, divCore_eq hx.low hx.high hy.low hy.high hleast]
    rfl
  have hlow : 2 ^ 52 ≤ m * 2 ^ 53 / n := (Nat.le_div_iff_mul_le hn).mpr (by omega)
  have hhigh : m * 2 ^ 53 / n < 2 ^ (53 + 1) := (Nat.div_lt_iff_lt_mul hn).mpr (by omega)
  have hexcess : excess (m * 2 ^ 53 / n) ≤ 1 := excess_lt (by omega) hhigh
  obtain ⟨r, g, hr, -, -, hvalue⟩ := isNormal_round hn hlow (by omega) (by omega) hfloat
  obtain ⟨hround, hround'⟩ := halfEven_bounds hlow
  have hfloor := pow_excess_le hlow
  have hceil := lt_pow_excess (m * 2 ^ 53 / n)
  generalize excess (m * 2 ^ 53 / n) = k at hvalue hround hround' hfloor hceil
  have hbelow : 2 ^ 52 * (n * 2 ^ k) ≤ m * 2 ^ 53 := by
    rw [Nat.mul_comm n, ← Nat.mul_assoc]
    exact (Nat.le_div_iff_mul_le hn).mp hfloor
  have habove : m * 2 ^ 53 < 2 ^ 53 * (n * 2 ^ k) := by
    rw [Nat.mul_comm n, ← Nat.mul_assoc]
    exact (Nat.div_lt_iff_lt_mul hn).mp hceil
  have hp : (0 : ℚ) < 2 ^ ((k : Int) - f) := zpow_pos (by norm_num) _
  refine ⟨r, g, hr, fun c h hc hc' heven => ?_⟩
  have hleft : scaled (2 * (m * 2 ^ 53)) (e - f - 53 + k) = 2 * scaled m e * 2 ^ ((k : Int) - f) := by
    have hexponent : e - f - 53 + k + (53 : Nat) = e + ((k : Int) - f) := by omega
    rw [← Nat.mul_assoc, scaled_shift, hexponent]
    unfold scaled
    rw [zpow_add₀ (by norm_num)]
    push_cast
    ring
  have hright : scaled ((2 * c + 1) * (n * 2 ^ k)) h =
      scaled (2 * c + 1) h * scaled n f * 2 ^ ((k : Int) - f) := by
    have hexponent : h + k = h + f + ((k : Int) - f) := by omega
    rw [← Nat.mul_assoc, scaled_shift, hexponent]
    unfold scaled
    rw [zpow_add₀ (by norm_num), zpow_add₀ (by norm_num)]
    push_cast
    ring
  rw [hvalue, scaled_halfEven_le_iff hbelow habove hc hc' heven hround hround', hleft, hright]
  exact mul_le_mul_iff_of_pos_right hp

end NetworkLantern
