import Mathlib.Algebra.GroupWithZero.Nat
import Mathlib.Data.List.DropRight
import Mathlib.Data.String.Basic

/-!
# Text

A text is the list of its characters.  Lengths and offsets that a program
takes in bytes are those of the UTF-8 encoding (`bytes`, `byteLen`,
`takeBytes`); letter case is ASCII case only (`lower`, `eqCI`).

Two texts that differ in ASCII case only have the same byte offsets, so a
case-insensitive prefix test cannot tell them apart (`hasPrefixCI_congr`).
-/

namespace NetworkLantern

/-- A text, character by character. -/
abbrev Str := List Char

instance : Coe String Str := ⟨String.toList⟩

instance : LawfulBEq Str := inferInstance

/-- Bytes of a file or of a message. -/
abbrev Bytes := List UInt8

namespace Str

/-! ## Bytes -/

/-- The UTF-8 encoding. -/
def bytes (s : Str) : Bytes := s.flatMap String.utf8EncodeChar

/-- Length in bytes. -/
def byteLen (s : Str) : Nat := (s.map Char.utf8Size).sum

/-- The text a byte sequence encodes, if it is valid UTF-8. -/
def fromUtf8 (b : Bytes) : Option Str := (ByteArray.mk b.toArray).utf8Decode?.map Array.toList

/-- The first `n` bytes of a text, when they end between two characters. -/
def takeBytes : Nat → Str → Option Str
  | 0, _ => some []
  | _ + 1, [] => none
  | n + 1, c :: cs =>
    if c.utf8Size ≤ n + 1 then (takeBytes (n + 1 - c.utf8Size) cs).map (c :: ·) else none

@[simp] theorem bytes_nil : bytes [] = [] := rfl

@[simp] theorem bytes_cons (c : Char) (s : Str) :
    bytes (c :: s) = String.utf8EncodeChar c ++ bytes s := by
  simp [bytes]

@[simp] theorem bytes_append (s t : Str) : bytes (s ++ t) = bytes s ++ bytes t := by
  simp [bytes]

@[simp] theorem byteLen_nil : byteLen [] = 0 := rfl

@[simp] theorem byteLen_cons (c : Char) (s : Str) : byteLen (c :: s) = c.utf8Size + byteLen s := by
  simp [byteLen]

@[simp] theorem byteLen_append (s t : Str) : byteLen (s ++ t) = byteLen s + byteLen t := by
  simp [byteLen]

theorem byteLen_flatMap_le {α : Type} {f : α → Str} {b : Nat} {l : List α}
    (h : ∀ a ∈ l, byteLen (f a) ≤ b) : byteLen (l.flatMap f) ≤ l.length * b := by
  induction l with
  | nil => exact Nat.zero_le _
  | cons a l ih =>
    rw [List.forall_mem_cons] at h
    have hrest := ih h.2
    rw [List.flatMap_cons, byteLen_append, List.length_cons, Nat.succ_mul]
    omega

theorem byteLen_pos {s : Str} (h : s ≠ []) : 0 < byteLen s := by
  obtain ⟨c, s, rfl⟩ := List.exists_cons_of_ne_nil h
  have hc := Char.utf8Size_pos c
  rw [byteLen_cons]
  omega

theorem length_bytes (s : Str) : (bytes s).length = byteLen s := by
  induction s with
  | nil => rfl
  | cons c s ih => simp [ih]

theorem fromUtf8_bytes (s : Str) : fromUtf8 (bytes s) = some s := by
  have h : ByteArray.mk (bytes s).toArray = s.utf8Encode :=
    ByteArray.ext (by rw [List.utf8Encode, List.data_toByteArray]; rfl)
  unfold fromUtf8
  rw [h, List.utf8Decode?_utf8Encode]
  simp

theorem takeBytes_append (p s : Str) : takeBytes (byteLen p) (p ++ s) = some p := by
  induction p with
  | nil => simp [takeBytes]
  | cons c p ih =>
    have hc := Char.utf8Size_pos c
    obtain ⟨n, hn⟩ : ∃ n, byteLen (c :: p) = n + 1 := ⟨byteLen (c :: p) - 1, by simp; omega⟩
    rw [hn, List.cons_append, takeBytes]
    have hle : c.utf8Size ≤ n + 1 := by simp at hn; omega
    have hsub : n + 1 - c.utf8Size = byteLen p := by simp at hn; omega
    rw [if_pos hle, hsub, ih]
    rfl

/-- What `takeBytes n` returns has `n` bytes. -/
theorem byteLen_of_takeBytes {n : Nat} {s t : Str} (h : takeBytes n s = some t) :
    byteLen t = n := by
  induction s generalizing n t with
  | nil =>
    cases n with
    | zero => cases h; rfl
    | succ n => cases h
  | cons c s ih =>
    cases n with
    | zero => cases h; rfl
    | succ n =>
      rw [takeBytes] at h
      split at h
      · rename_i hle
        obtain ⟨u, hu, rfl⟩ := Option.map_eq_some_iff.mp h
        have := ih hu
        rw [byteLen_cons]
        omega
      · cases h

/-- What `takeBytes` returns is the front of the text. -/
theorem append_of_takeBytes {n : Nat} {s t : Str} (h : takeBytes n s = some t) :
    ∃ rest, s = t ++ rest := by
  induction s generalizing n t with
  | nil =>
    cases n with
    | zero => cases h; exact ⟨[], rfl⟩
    | succ n => cases h
  | cons c s ih =>
    cases n with
    | zero => cases h; exact ⟨c :: s, rfl⟩
    | succ n =>
      rw [takeBytes] at h
      split at h
      · obtain ⟨u, hu, rfl⟩ := Option.map_eq_some_iff.mp h
        obtain ⟨rest, rfl⟩ := ih hu
        exact ⟨rest, rfl⟩
      · cases h

/-! ## ASCII case -/

/-- `to_ascii_lowercase`. -/
def lower (s : Str) : Str := s.map Char.toLower

/-- `to_ascii_uppercase`. -/
def upper (s : Str) : Str := s.map Char.toUpper

/-- `eq_ignore_ascii_case`. -/
def eqCI (s t : Str) : Bool := lower s == lower t

/-- The text begins with `p` up to ASCII case; a text whose `byteLen p` bytes
end inside a character does not. -/
def hasPrefixCI (s p : Str) : Bool :=
  match takeBytes (byteLen p) s with
  | some head => eqCI head p
  | none => false

@[simp] theorem lower_nil : lower [] = [] := rfl

@[simp] theorem lower_cons (c : Char) (s : Str) : lower (c :: s) = c.toLower :: lower s := rfl

@[simp] theorem lower_append (s t : Str) : lower (s ++ t) = lower s ++ lower t := by
  simp [lower]

@[simp] theorem length_lower (s : Str) : (lower s).length = s.length := by simp [lower]

@[simp] theorem eqCI_iff (s t : Str) : eqCI s t = true ↔ lower s = lower t := by
  simp [eqCI]

theorem utf8Size_eq_one {c : Char} (h : c.toNat ≤ 127) : c.utf8Size = 1 := by
  rw [Char.utf8Size_eq_one_iff, UInt32.le_iff_toNat_le]
  exact h

theorem toLower_of_upper {c : Char} (h1 : 65 ≤ c.toNat) (h2 : c.toNat ≤ 90) :
    c.toLower.toNat = c.toNat + 32 := by
  have h : c.val ≥ 'A'.val ∧ c.val ≤ 'Z'.val := by
    simp only [ge_iff_le, UInt32.le_iff_toNat_le]
    exact ⟨h1, h2⟩
  unfold Char.toLower
  rw [dif_pos h]
  show (c.val + ('a'.val - 'A'.val)).toNat = c.val.toNat + 32
  have hv : c.val.toNat ≤ 90 := h2
  rw [UInt32.toNat_add, show ('a'.val - 'A'.val).toNat = 32 from rfl]
  omega

theorem toLower_of_not_upper {c : Char} (h : ¬ (65 ≤ c.toNat ∧ c.toNat ≤ 90)) :
    c.toLower = c := by
  unfold Char.toLower
  rw [dif_neg]
  simp only [ge_iff_le, UInt32.le_iff_toNat_le]
  exact h

theorem utf8Size_toLower (c : Char) : c.toLower.utf8Size = c.utf8Size := by
  by_cases h : 65 ≤ c.toNat ∧ c.toNat ≤ 90
  · have hl := toLower_of_upper h.1 h.2
    rw [utf8Size_eq_one (c := c) (by omega), utf8Size_eq_one (by omega)]
  · rw [toLower_of_not_upper h]

theorem toLower_toLower (c : Char) : c.toLower.toLower = c.toLower := by
  by_cases h : 65 ≤ c.toNat ∧ c.toNat ≤ 90
  · have hl := toLower_of_upper h.1 h.2
    exact toLower_of_not_upper (by omega)
  · rw [toLower_of_not_upper h, toLower_of_not_upper h]

@[simp] theorem lower_lower (s : Str) : lower (lower s) = lower s := by
  simp [lower, toLower_toLower]

theorem toUpper_of_lower {c : Char} (h1 : 97 ≤ c.toNat) (h2 : c.toNat ≤ 122) :
    c.toUpper.toNat + 32 = c.toNat := by
  have h : c.val ≥ 'a'.val ∧ c.val ≤ 'z'.val := by
    simp only [ge_iff_le, UInt32.le_iff_toNat_le]
    exact ⟨h1, h2⟩
  unfold Char.toUpper
  rw [dif_pos h]
  show (c.val + ('A'.val - 'a'.val)).toNat + 32 = c.val.toNat
  have hv1 : 97 ≤ c.val.toNat := h1
  have hv2 : c.val.toNat ≤ 122 := h2
  rw [UInt32.toNat_add, show ('A'.val - 'a'.val).toNat = 4294967264 from rfl]
  omega

theorem toUpper_of_not_lower {c : Char} (h : ¬ (97 ≤ c.toNat ∧ c.toNat ≤ 122)) :
    c.toUpper = c := by
  unfold Char.toUpper
  rw [dif_neg]
  simp only [ge_iff_le, UInt32.le_iff_toNat_le]
  exact h

theorem toUpper_toLower (c : Char) : c.toLower.toUpper = c.toUpper := by
  by_cases h : 65 ≤ c.toNat ∧ c.toNat ≤ 90
  · have hl := toLower_of_upper h.1 h.2
    have hu := toUpper_of_lower (c := c.toLower) (by omega) (by omega)
    rw [toUpper_of_not_lower (c := c) (by omega)]
    exact Char.toNat_inj.mp (by omega)
  · rw [toLower_of_not_upper h]

theorem toLower_toUpper (c : Char) : c.toUpper.toLower = c.toLower := by
  by_cases h : 97 ≤ c.toNat ∧ c.toNat ≤ 122
  · have hu := toUpper_of_lower h.1 h.2
    have hl := toLower_of_upper (c := c.toUpper) (by omega) (by omega)
    rw [toLower_of_not_upper (c := c) (by omega)]
    exact Char.toNat_inj.mp (by omega)
  · rw [toUpper_of_not_lower h]

@[simp] theorem upper_lower (s : Str) : upper (lower s) = upper s := by
  simp [upper, lower, toUpper_toLower]

@[simp] theorem lower_upper (s : Str) : lower (upper s) = lower s := by
  simp [upper, lower, toLower_toUpper]

theorem upper_congr {s t : Str} (h : lower s = lower t) : upper s = upper t := by
  rw [← upper_lower s, h, upper_lower]

@[simp] theorem byteLen_lower (s : Str) : byteLen (lower s) = byteLen s := by
  induction s with
  | nil => rfl
  | cons c s ih => simp [ih, utf8Size_toLower]

theorem takeBytes_lower (n : Nat) (s : Str) : takeBytes n (lower s) = (takeBytes n s).map lower := by
  induction s generalizing n with
  | nil => cases n <;> rfl
  | cons c s ih =>
    cases n with
    | zero => rfl
    | succ n =>
      rw [lower_cons, takeBytes, takeBytes, utf8Size_toLower, ih]
      split
      · cases takeBytes (n + 1 - c.utf8Size) s <;> rfl
      · rfl

theorem hasPrefixCI_lower (s p : Str) : hasPrefixCI (lower s) p = hasPrefixCI s p := by
  unfold hasPrefixCI
  rw [takeBytes_lower]
  cases takeBytes (byteLen p) s <;> simp [eqCI]

/-- Texts equal up to ASCII case have the same prefixes. -/
theorem hasPrefixCI_congr {s t : Str} (h : lower s = lower t) (p : Str) :
    hasPrefixCI s p = hasPrefixCI t p := by
  rw [← hasPrefixCI_lower s, h, hasPrefixCI_lower]

theorem hasPrefixCI_append (p s : Str) : hasPrefixCI (p ++ s) p = true := by
  simp [hasPrefixCI, takeBytes_append]

/-! ## White space -/

/-- Unicode `White_Space`. -/
def isWhitespace (c : Char) : Bool :=
  let n := c.toNat
  (9 ≤ n && n ≤ 13) || n == 0x20 || n == 0x85 || n == 0xA0 || n == 0x1680 ||
    (0x2000 ≤ n && n ≤ 0x200A) || n == 0x2028 || n == 0x2029 || n == 0x202F || n == 0x205F ||
    n == 0x3000

/-- `char::is_control`. -/
def isControl (c : Char) : Bool :=
  decide (c.toNat < 32) || (decide (127 ≤ c.toNat) && decide (c.toNat < 160))

/-- Cuts the characters with `p` off both ends. -/
def trimMatches (p : Char → Bool) (s : Str) : Str := (s.dropWhile p).rdropWhile p

def trim (s : Str) : Str := trimMatches isWhitespace s

/-- `trim().is_empty()`. -/
def isBlank (s : Str) : Bool := (trim s).isEmpty

theorem trimMatches_eq_self_iff (p : Char → Bool) (s : Str) :
    trimMatches p s = s ↔ (∀ c ∈ s.head?, p c = false) ∧ (∀ c ∈ s.getLast?, p c = false) := by
  unfold trimMatches
  constructor
  · intro h
    have hd : s.dropWhile p = s := by
      refine (s.dropWhile_sublist p).eq_of_length_le ?_
      have := ( List.rdropWhile_prefix p (s.dropWhile p)).length_le
      rwa [h] at this
    rw [hd, List.rdropWhile_eq_self_iff] at h
    constructor
    · intro c hc
      cases s with
      | nil => cases hc
      | cons d s =>
        cases hc
        have := List.dropWhile_eq_self_iff.mp hd (by simp)
        simpa using this
    · intro c hc
      have hne : s ≠ [] := by rintro rfl; cases hc
      have := h hne
      rw [List.getLast?_eq_getLast_of_ne_nil hne] at hc
      cases hc
      simpa using this
  · rintro ⟨hh, hl⟩
    cases s with
    | nil => rfl
    | cons d s =>
      have hd : (d :: s).dropWhile p = d :: s := by
        rw [List.dropWhile_cons_of_neg]
        simp [hh d rfl]
      rw [hd, List.rdropWhile_eq_self_iff]
      intro hne
      simp [hl _ (List.getLast_mem_getLast? hne)]

/-- Trimming twice is trimming once. -/
theorem trimMatches_idem (p : Char → Bool) (s : Str) :
    trimMatches p (trimMatches p s) = trimMatches p s := by
  have hhead : ∀ c ∈ (s.dropWhile p).head?, p c = false := by
    intro c hc
    have hne : s.dropWhile p ≠ [] := by rintro h0; rw [h0] at hc; cases hc
    rw [List.head?_eq_some_head hne] at hc
    cases hc
    simpa using List.head_dropWhile_not p hne
  refine (trimMatches_eq_self_iff p _).mpr ⟨fun c hc => ?_, fun c hc => ?_⟩
  · -- cutting at the end leaves the first character
    obtain ⟨rest, hrest⟩ := List.rdropWhile_prefix p (s.dropWhile p)
    refine hhead c ?_
    have hc : (trimMatches p s).head? = some c := hc
    rw [← hrest, List.head?_append]
    show ((trimMatches p s).head?.or rest.head?) = some c
    rw [hc, Option.some_or]
  · have hne : trimMatches p s ≠ [] := by rintro h0; rw [h0] at hc; cases hc
    rw [List.getLast?_eq_getLast_of_ne_nil hne] at hc
    cases hc
    simpa [trimMatches] using List.rdropWhile_last_not p (s.dropWhile p) hne

/-- Trimmed texts in a row are a trimmed text. -/
theorem trimMatches_append {p : Char → Bool} {s t : Str} (hs : trimMatches p s = s)
    (ht : trimMatches p t = t) : trimMatches p (s ++ t) = s ++ t := by
  rw [trimMatches_eq_self_iff] at hs ht ⊢
  constructor
  · intro c hc
    rw [List.head?_append] at hc
    cases hs0 : s.head? with
    | none => rw [hs0, Option.none_or] at hc; exact ht.1 c hc
    | some d => rw [hs0, Option.some_or] at hc; exact hs.1 c (hs0.trans hc)
  · intro c hc
    rw [List.getLast?_append] at hc
    cases ht0 : t.getLast? with
    | none => rw [ht0, Option.none_or] at hc; exact hs.2 c hc
    | some d => rw [ht0, Option.some_or] at hc; exact ht.2 c (ht0.trans hc)

/-- Trimming leaves a front that has nothing to cut off. -/
theorem trimMatches_of_front {p : Char → Bool} {front : Str} (rest : Str) (hne : front ≠ [])
    (hfront : ∀ c ∈ front, p c = false) : ∃ rest', trimMatches p (front ++ rest) = front ++ rest' := by
  obtain ⟨c, cs, rfl⟩ := List.exists_cons_of_ne_nil hne
  have hdrop : (c :: cs ++ rest).dropWhile p = c :: cs ++ rest := by
    rw [List.cons_append, List.dropWhile_cons_of_neg]
    simp [hfront c List.mem_cons_self]
  have hreverse : (c :: cs).reverse.dropWhile p = (c :: cs).reverse := by
    refine List.dropWhile_eq_self_iff.mpr fun hlen => ?_
    rw [hfront _ (List.mem_reverse.mp (List.getElem_mem hlen))]
    exact Bool.false_ne_true
  unfold trimMatches
  rw [hdrop, List.rdropWhile, List.reverse_append, List.dropWhile_append]
  split
  · exact ⟨[], by rw [hreverse, List.reverse_reverse, List.append_nil]⟩
  · exact ⟨(rest.reverse.dropWhile p).reverse, by rw [List.reverse_append, List.reverse_reverse]⟩

/-- A text with a character that is not white space is not blank. -/
theorem isBlank_eq_false_of_mem {s : Str} {c : Char} (hc : c ∈ s) (h : isWhitespace c = false) :
    isBlank s = false := by
  unfold isBlank trim trimMatches
  rw [List.isEmpty_eq_false_iff]
  intro hnil
  rw [List.rdropWhile_eq_nil_iff] at hnil
  have hmem : c ∈ s.dropWhile isWhitespace := by
    have hsplit := List.takeWhile_append_dropWhile (p := isWhitespace) (l := s)
    rw [← hsplit, List.mem_append] at hc
    rcases hc with hc | hc
    · have := List.mem_takeWhile_imp hc
      rw [h] at this; cases this
    · exact hc
  rw [hnil c hmem] at h; cases h

end Str

end NetworkLantern
