import NetworkLantern.Lib.Json
import Mathlib.Algebra.Order.BigOperators.Group.List

/-!
# The size of a JSON text

`Json.size` counts the bytes of the compact text.  An array and an object take
their items, a comma between two of them and the two brackets:

    size (.array vs)  = (vs.map size).sum + (vs.length - 1) + 2              (size_array)
    size (.object es) = (es.map entrySize).sum + (es.length - 1) + 2         (size_object)

so a longer start of a list never has the smaller text (`size_array_take_mono`),
and a larger number never the shorter one (`byteLen_decimal_mono`).
-/

namespace NetworkLantern

theorem byteLen_of_isDigit {s : Str} (h : ∀ c ∈ s, c.isDigit) : s.byteLen = s.length := by
  induction s with
  | nil => rfl
  | cons c s ih =>
    have hc : c.toNat ≤ 57 := by
      have hd := h c List.mem_cons_self
      simp only [Char.isDigit, Bool.and_eq_true, decide_eq_true_eq] at hd
      exact UInt32.le_iff_toNat_le.mp hd.2
    rw [Str.byteLen_cons, Str.utf8Size_eq_one (by omega), List.length_cons,
      ih fun d hd => h d (List.mem_cons_of_mem c hd), Nat.add_comm]

theorem byteLen_decimal (n : Nat) : (decimal n).byteLen = (decimal n).length :=
  byteLen_of_isDigit fun _ => isDigit_of_mem_decimal

theorem byteLen_decimal_le_iff {n k : Nat} (h : 0 < k) : (decimal n).byteLen ≤ k ↔ n < 10 ^ k := by
  rw [byteLen_decimal]
  exact Nat.length_toDigits_le_iff (by omega) h

theorem byteLen_decimal_pos (n : Nat) : 0 < (decimal n).byteLen := Str.byteLen_pos (decimal_ne_nil n)

theorem byteLen_decimal_mono {m n : Nat} (h : m ≤ n) : (decimal m).byteLen ≤ (decimal n).byteLen := by
  apply (byteLen_decimal_le_iff (byteLen_decimal_pos n)).mpr
  have hn := (byteLen_decimal_le_iff (n := n) (byteLen_decimal_pos n)).mp (Nat.le_refl _)
  omega

/-- A 64-bit number has at most 20 digits. -/
theorem byteLen_decimal_le_u64 (n : UInt64) : (decimal n.toNat).byteLen ≤ 20 := by
  apply (byteLen_decimal_le_iff (by omega)).mpr
  have hn := n.toNat_lt
  omega

namespace Json

variable [FloatText]

/-- An entry takes its quoted key, the colon and its value. -/
def entrySize (e : Str × Json) : Nat := (quote e.1).byteLen + 1 + e.2.size

@[simp] theorem size_null : null.size = 4 := rfl

@[simp] theorem size_string (s : Str) : (string s).size = (quote s).byteLen := by
  unfold size render
  rfl

@[simp] theorem size_ofNat (n : UInt64) : (ofNat n).size = (decimal n.toNat).byteLen := by
  unfold size ofNat render
  rfl

theorem size_bool (b : Bool) : (bool b).size = if b then 4 else 5 := by
  cases b <;> rfl

theorem byteLen_renderValues (vs : List Json) :
    (renderValues vs).byteLen = (vs.map size).sum + (vs.length - 1) := by
  induction vs with
  | nil => rfl
  | cons v vs ih =>
    cases vs with
    | nil => simp [renderValues, size]
    | cons w vs =>
      have hcomma : (',' : Char).utf8Size = 1 := by decide
      rw [renderValues, Str.byteLen_append, Str.byteLen_cons, ih, List.map_cons (a := v),
        List.sum_cons]
      simp only [size, List.length_cons]
      omega

theorem size_array (vs : List Json) :
    (array vs).size = (vs.map size).sum + (vs.length - 1) + 2 := by
  have hopen : ('[' : Char).utf8Size = 1 := by decide
  have hclose : Str.byteLen [']'] = 1 := by decide
  show Str.byteLen (render (.array vs)) = _
  rw [render, Str.byteLen_append, Str.byteLen_cons, byteLen_renderValues, hopen, hclose]
  omega

theorem byteLen_renderEntries (es : List (Str × Json)) :
    (renderEntries es).byteLen = (es.map entrySize).sum + (es.length - 1) := by
  have hcolon : (':' : Char).utf8Size = 1 := by decide
  have hcomma : (',' : Char).utf8Size = 1 := by decide
  induction es with
  | nil => rfl
  | cons e es ih =>
    cases es with
    | nil =>
      rw [renderEntries, Str.byteLen_append, Str.byteLen_cons]
      simp only [List.map_cons, List.map_nil, List.sum_cons, List.sum_nil, entrySize, size,
        List.length_cons, List.length_nil]
      omega
    | cons f es =>
      rw [renderEntries, Str.byteLen_append, Str.byteLen_append, Str.byteLen_cons,
        Str.byteLen_cons, ih, List.map_cons (a := e), List.sum_cons]
      simp only [entrySize, size, List.length_cons]
      omega

theorem size_object (es : List (Str × Json)) :
    (object es).size = (es.map entrySize).sum + (es.length - 1) + 2 := by
  have hopen : ('{' : Char).utf8Size = 1 := by decide
  have hclose : Str.byteLen ['}'] = 1 := by decide
  show Str.byteLen (('{' :: renderEntries es) ++ ['}']) = _
  rw [Str.byteLen_append, Str.byteLen_cons, byteLen_renderEntries, hopen, hclose]
  omega

/-- A longer start of a list of values never has the smaller text. -/
theorem size_array_take_mono (vs : List Json) {m n : Nat} (h : m ≤ n) :
    (array (vs.take m)).size ≤ (array (vs.take n)).size := by
  have hsub : (vs.take m).Sublist (vs.take n) := List.take_sublist_take_left h
  have hsum := List.Sublist.sum_le_sum (hsub.map size) fun a _ => Nat.zero_le a
  have hlen := hsub.length_le
  rw [size_array, size_array]
  omega

/-- A character that a JSON text spells as itself. -/
def Plain (c : Char) : Prop := escapeChar c = [c]

omit [FloatText] in
theorem byteLen_quote {s : Str} (h : ∀ c ∈ s, Plain c) : (quote s).byteLen = s.byteLen + 2 := by
  have hflat : s.flatMap escapeChar = s := by
    induction s with
    | nil => rfl
    | cons c s ih =>
      rw [List.flatMap_cons, h c List.mem_cons_self, ih fun d hd => h d (List.mem_cons_of_mem c hd)]
      rfl
  have hquote : ('"' : Char).utf8Size = 1 := by decide
  unfold quote
  rw [hflat, Str.byteLen_append, Str.byteLen_cons, Str.byteLen_cons, hquote, Str.byteLen_nil]
  omega

end Json

end NetworkLantern
