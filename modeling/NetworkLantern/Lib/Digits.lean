import NetworkLantern.Lib.Text
import Mathlib.Tactic.IntervalCases

/-!
# Numbers as text

Decimal numbers as a formatter writes them and an unsigned integer parser reads
them, and hexadecimal numbers of a fixed width.

    parseDecimal max (decimal n) = some n       for n ≤ max     (parseDecimal_decimal)
    parseHex (hexFixed w n) = some n            for n < 16 ^ w  (parseHex_hexFixed)
-/

namespace NetworkLantern

/-! ## Decimal -/

def decimal (n : Nat) : Str := Nat.toDigits 10 n

/-- The value of a digit string in front of which `acc` has been read. -/
def digitsFrom (acc : Nat) : Str → Option Nat
  | [] => some acc
  | c :: cs => if c.isDigit then digitsFrom (acc * 10 + (c.toNat - 48)) cs else none

/-- An unsigned integer of at most `max`, with an optional `+` in front. -/
def parseDecimal (max : Nat) (s : Str) : Option Nat :=
  let digits := match s with
    | '+' :: rest => rest
    | _ => s
  if digits.isEmpty then none else (digitsFrom 0 digits).filter (· ≤ max)

theorem digitsFrom_eq (acc : Nat) (s : Str) (h : ∀ c ∈ s, c.isDigit) :
    digitsFrom acc s = some (Nat.ofDigitChars 10 s acc) := by
  induction s generalizing acc with
  | nil => rfl
  | cons c s ih =>
    rw [digitsFrom, if_pos (h c List.mem_cons_self),
      ih _ fun d hd => h d (List.mem_cons_of_mem c hd), Nat.ofDigitChars_cons]
    congr 2
    rw [Nat.mul_comm]
    rfl

theorem isDigit_of_mem_decimal {n : Nat} {c : Char} (h : c ∈ decimal n) : c.isDigit :=
  Nat.isDigit_of_mem_toDigits (by omega) (by omega) h

theorem decimal_ne_nil (n : Nat) : decimal n ≠ [] := Nat.toDigits_ne_nil

theorem decimal_injective : Function.Injective decimal := by
  intro a b h
  have ha := Nat.ofDigitChars_ten_toDigits (n := a)
  have hb := Nat.ofDigitChars_ten_toDigits (n := b)
  unfold decimal at h
  rw [← ha, h, hb]

theorem parseDecimal_decimal {max n : Nat} (h : n ≤ max) : parseDecimal max (decimal n) = some n := by
  have hplus : (match decimal n with | '+' :: rest => rest | _ => decimal n) = decimal n := by
    split
    · next rest he =>
      have : ('+' : Char).isDigit := isDigit_of_mem_decimal (n := n) (by rw [he]; simp)
      cases this
    · rfl
  have hne : (decimal n).isEmpty = false := by simp [decimal_ne_nil]
  unfold parseDecimal
  simp only [hplus, hne, Bool.false_eq_true, if_false]
  rw [digitsFrom_eq 0 _ fun c => isDigit_of_mem_decimal]
  unfold decimal
  rw [Nat.ofDigitChars_ten_toDigits]
  simp [h]

/-! ## Hexadecimal of fixed width -/

/-- The lowest `w` hexadecimal digits of `n`. -/
def hexFixed : Nat → Nat → Str
  | 0, _ => []
  | w + 1, n => hexFixed w (n / 16) ++ [Nat.digitChar (n % 16)]

def hexValue (c : Char) : Option Nat :=
  if '0' ≤ c ∧ c ≤ '9' then some (c.toNat - 48)
  else if 'a' ≤ c ∧ c ≤ 'f' then some (c.toNat - 87)
  else if 'A' ≤ c ∧ c ≤ 'F' then some (c.toNat - 55)
  else none

/-- The value of a string of hexadecimal digits. -/
def parseHex (s : Str) : Option Nat := s.foldlM (fun acc c => (hexValue c).map (acc * 16 + ·)) 0

theorem hexValue_digitChar {d : Nat} (h : d < 16) : hexValue (Nat.digitChar d) = some d := by
  interval_cases d <;> rfl

@[simp] theorem length_hexFixed (w n : Nat) : (hexFixed w n).length = w := by
  induction w generalizing n with
  | zero => rfl
  | succ w ih => simp [hexFixed, ih]

theorem hexValue_of_mem_hexFixed {w n : Nat} {c : Char} (h : c ∈ hexFixed w n) :
    ∃ d, d < 16 ∧ c = Nat.digitChar d := by
  induction w generalizing n with
  | zero => cases h
  | succ w ih =>
    rcases List.mem_append.mp h with h | h
    · exact ih h
    · exact ⟨n % 16, Nat.mod_lt _ (by omega), List.mem_singleton.mp h⟩

theorem parseHex_hexFixed {w n : Nat} (h : n < 16 ^ w) : parseHex (hexFixed w n) = some n := by
  induction w generalizing n with
  | zero =>
    have : n = 0 := by simpa using h
    subst this
    rfl
  | succ w ih =>
    have hdiv : n / 16 < 16 ^ w := by
      rw [Nat.div_lt_iff_lt_mul (by omega)]
      rwa [Nat.pow_succ] at h
    have hi := ih hdiv
    unfold parseHex at hi ⊢
    rw [hexFixed, List.foldlM_append, hi]
    simp only [Option.bind_eq_bind, Option.bind_some, List.foldlM_cons, List.foldlM_nil,
      hexValue_digitChar (Nat.mod_lt n (by omega : 16 > 0)), Option.map_some]
    show some (n / 16 * 16 + n % 16) = some n
    rw [Nat.div_add_mod']

end NetworkLantern
