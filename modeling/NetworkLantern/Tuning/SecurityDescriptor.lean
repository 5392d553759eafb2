import NetworkLantern.Lib.Checks
import NetworkLantern.Lib.Digits
import NetworkLantern.Lib.Lines
import Mathlib.Data.List.Forall2
import Mathlib.Data.List.Infix

/-!
# Who may write to an ancestor of the backups

`grantsUntrustedWrite` looks through the text of a security descriptor for an
allow entry that lets everyone, the authenticated users, the users or the
anonymous logon write.  The rights of an entry are two-letter tokens in a row or
a hexadecimal mask, and the code looks for them with a list of tokens and with a
mask.  `wellJudged_iff` says for which descriptors the two come to the same.
-/

namespace NetworkLantern.Tuning

open NetworkLantern

/-! ## The code -/

/-- `u32::from_str_radix(value, 16)`. -/
def u32FromHex (value : Str) : Option UInt32 :=
  let digits := match value with
    | '+' :: digits => digits
    | value => value
  if digits.isEmpty then none
  else (parseHex digits).bind fun n => if n < 2 ^ 32 then some (UInt32.ofNat n) else none

def writeTokens : List Str := ["GA", "GW", "FA", "FW", "WD", "AD", "DC", "WO"].map String.toList

def broadPrincipals : List Str := ["WD", "AU", "BU", "AN"].map String.toList

/-- The check of a mask: generic write, or one of the rights to change a file. -/
def writeMask (mask : UInt32) : Bool := mask &&& 0x40000000 != 0 || mask &&& 0x000d0116 != 0

def rightsGrantWrite (rights : Str) : Bool :=
  writeTokens.any (fun value => decide (value <:+: rights)) ||
    ((Str.stripPrefix "0x" rights).bind u32FromHex).any writeMask

/-- One entry, without its parentheses. -/
def aceGrantsWrite (ace : Str) : Bool :=
  match ace.splitOn ';' with
  | kind :: _ :: rights :: _ :: _ :: trustee :: _ =>
    if kind ≠ "A".toList ∨ trustee ∉ broadPrincipals then false else rightsGrantWrite rights
  | _ => false

/-- `grants_untrusted_write`. -/
def grantsUntrustedWrite (sddl : Str) : Bool :=
  (((sddl.splitOn '(').drop 1).filterMap fun ace => (Str.splitOnce ')' ace).map Prod.fst).any
    aceGrantsWrite

/-! ## Descriptors -/

/-- The access rights of a discretionary entry: generic, standard, of directory objects (which
are also the first nine bits of the rights to a file), of files and of keys. -/
inductive Right
  | GA | GR | GW | GX
  | RC | SD | WD | WO
  | CC | DC | LC | SW | RP | WP | DT | LO | CR
  | FA | FR | FW | FX
  | KA | KR | KW | KX
deriving DecidableEq, Repr

namespace Right

/-- The two letters of a token. -/
def letters : Right → Char × Char
  | GA => ('G', 'A') | GR => ('G', 'R') | GW => ('G', 'W') | GX => ('G', 'X')
  | RC => ('R', 'C') | SD => ('S', 'D') | WD => ('W', 'D') | WO => ('W', 'O')
  | CC => ('C', 'C') | DC => ('D', 'C') | LC => ('L', 'C') | SW => ('S', 'W') | RP => ('R', 'P')
  | WP => ('W', 'P') | DT => ('D', 'T') | LO => ('L', 'O') | CR => ('C', 'R')
  | FA => ('F', 'A') | FR => ('F', 'R') | FW => ('F', 'W') | FX => ('F', 'X')
  | KA => ('K', 'A') | KR => ('K', 'R') | KW => ('K', 'W') | KX => ('K', 'X')

def text (r : Right) : Str := [r.letters.1, r.letters.2]

/-- The mask of a token. -/
def mask : Right → UInt32
  | GA => 0x10000000 | GR => 0x80000000 | GW => 0x40000000 | GX => 0x20000000
  | RC => 0x00020000 | SD => 0x00010000 | WD => 0x00040000 | WO => 0x00080000
  | CC => 0x00000001 | DC => 0x00000002 | LC => 0x00000004 | SW => 0x00000008 | RP => 0x00000010
  | WP => 0x00000020 | DT => 0x00000040 | LO => 0x00000080 | CR => 0x00000100
  | FA => 0x001f01ff | FR => 0x00120089 | FW => 0x00120116 | FX => 0x001200a0
  | KA => 0x000f003f | KR => 0x00020019 | KW => 0x00020006 | KX => 0x00020019

end Right

/-- The rights of an entry, as tokens or as a mask of so many digits after the first. -/
inductive Rights
  | tokens (rights : List Right)
  | mask (value : UInt32) (width : Nat) (fits : value.toNat < 16 ^ (width + 1))

namespace Rights

def text : Rights → Str
  | tokens rights => rights.flatMap Right.text
  | mask value width _ => "0x".toList ++ hexFixed (width + 1) value.toNat

def value : Rights → UInt32
  | tokens rights => rights.foldr (fun r m => r.mask ||| m) 0
  | mask value _ _ => value

/-- The same rights, as they are or as the mask that the tokens denote.  A pair of
spellings is judged at the one with tokens. -/
inductive Respelled : Rights → Rights → Prop
  | same (r : Rights) : Respelled r r
  | hex (rights : List Right) (width : Nat)
      (fits : (tokens rights).value.toNat < 16 ^ (width + 1)) :
      Respelled (tokens rights) (mask (tokens rights).value width fits)

end Rights

/-- A text without separators. -/
abbrev Field := { s : Str // ∀ c ∈ s, c ≠ '(' ∧ c ≠ ')' ∧ c ≠ ';' }

/-- An access-control entry: `more` are the fields after the sixth. -/
structure Ace where
  kind : Field
  flags : Field
  rights : Rights
  object : Field
  inheritObject : Field
  trustee : Field
  more : List Field

namespace Ace

def fields (a : Ace) : List Str :=
  a.kind.val :: a.flags.val :: a.rights.text :: a.object.val :: a.inheritObject.val ::
    a.trustee.val :: a.more.map Subtype.val

def text (a : Ace) : Str := [';'].intercalate a.fields

/-- An allow entry for a principal that anyone may have. -/
def Broad (a : Ace) : Prop := a.kind.val = "A".toList ∧ a.trustee.val ∈ broadPrincipals

instance (a : Ace) : Decidable a.Broad := inferInstanceAs (Decidable (_ ∧ _))

end Ace

/-- What follows an opening parenthesis: an entry and the text up to the next one, or a piece
that is no entry, as the condition of a conditional entry is. -/
inductive Piece
  | ace (a : Ace) (rest : Str) (plain : '(' ∉ rest)
  | other (s : Str) (plain : '(' ∉ s)
      (short : ∀ r, Str.splitOnce ')' s = some r → (r.1.splitOn ';').length < 6)

def Piece.text : Piece → Str
  | .ace a rest _ => a.text ++ ')' :: rest
  | .other s _ _ => s

/-- The entry of a piece, if it is one for a broad principal. -/
def Piece.entry : Piece → Option Ace
  | .ace a _ _ => if a.Broad then some a else none
  | .other .. => none

/-- A security descriptor: what precedes the first entry, and the pieces. -/
structure Descriptor where
  head : Str
  plain : '(' ∉ head
  pieces : List Piece

namespace Descriptor

def text (d : Descriptor) : Str := ['('].intercalate (d.head :: d.pieces.map Piece.text)

/-- The entries that the code looks at. -/
def entries (d : Descriptor) : List Ace := d.pieces.filterMap Piece.entry

end Descriptor

/-! ## What the code sees -/

/-- A token of the list, or two neighbours that make one of the list between them. -/
def Rights.Seen : Rights → Prop
  | .tokens rights => (∃ r ∈ rights, r.text ∈ writeTokens) ∨
      ∃ a b, [a, b] <:+: rights ∧ [a.letters.2, b.letters.1] ∈ writeTokens
  | .mask value _ _ => writeMask value = true

theorem isUpper_of_mem_tokens {rights : List Right} {c : Char}
    (h : c ∈ (Rights.tokens rights).text) : c.isUpper = true := by
  obtain ⟨r, -, hc⟩ := List.mem_flatMap.mp h
  have hpair : r.letters.1.isUpper = true ∧ r.letters.2.isUpper = true := by cases r <;> decide
  rw [Right.text, List.mem_cons, List.mem_singleton] at hc
  rcases hc with rfl | rfl
  · exact hpair.1
  · exact hpair.2

theorem not_isUpper_of_mem_mask {width n : Nat} {c : Char}
    (h : c ∈ "0x".toList ++ hexFixed width n) : c.isUpper = false := by
  rcases List.mem_append.mp h with h | h
  · change c ∈ ['0', 'x'] at h
    rw [List.mem_cons, List.mem_singleton] at h
    rcases h with rfl | rfl <;> decide
  · obtain ⟨d, hd, rfl⟩ := hexValue_of_mem_hexFixed h
    interval_cases d <;> decide

theorem writeTokens_pairs {value : Str} (h : value ∈ writeTokens) :
    ∃ x y, value = [x, y] ∧ x.isUpper = true := by
  simp only [writeTokens, List.map_cons, List.map_nil, List.mem_cons, List.not_mem_nil, or_false] at h
  rcases h with rfl | rfl | rfl | rfl | rfl | rfl | rfl | rfl <;> exact ⟨_, _, rfl, by decide⟩

theorem u32FromHex_hexFixed {value : UInt32} {width : Nat} (fits : value.toNat < 16 ^ (width + 1)) :
    u32FromHex (hexFixed (width + 1) value.toNat) = some value := by
  have hdigits : (hexFixed (width + 1) value.toNat).isEmpty = false := by
    rw [List.isEmpty_eq_false_iff, ← List.length_pos_iff, length_hexFixed]
    omega
  have hread : (parseHex (hexFixed (width + 1) value.toNat)).bind
      (fun n => if n < 2 ^ 32 then some (UInt32.ofNat n) else none) = some value := by
    rw [parseHex_hexFixed fits, Option.bind_some, if_pos value.toNat_lt, UInt32.ofNat_toNat]
  unfold u32FromHex
  split
  · next digits heq =>
    have hmem : '+' ∈ hexFixed (width + 1) value.toNat := by
      rw [heq]
      exact List.mem_cons_self
    obtain ⟨d, hd, hplus⟩ := hexValue_of_mem_hexFixed hmem
    interval_cases d <;> exact absurd hplus (by decide)
  · dsimp only
    rw [hdigits]
    exact hread

/-- The code finds what it looks for in the tokens, or in the mask. -/
theorem rightsGrantWrite_text (r : Rights) : rightsGrantWrite r.text = true ↔ r.Seen := by
  unfold rightsGrantWrite
  rw [Bool.or_eq_true, List.any_eq_true]
  cases r with
  | tokens rights =>
    have hstrip : Str.stripPrefix "0x" (Rights.tokens rights).text = none := by
      cases h : Str.stripPrefix "0x" (Rights.tokens rights).text with
      | none => rfl
      | some t =>
        have hmem : '0' ∈ (Rights.tokens rights).text := by
          rw [Str.stripPrefix_eq_some h]
          exact List.mem_cons_self
        exact absurd (isUpper_of_mem_tokens hmem) (by decide)
    rw [hstrip, Option.bind_none, Option.any_none]
    constructor
    · rintro (⟨value, hvalue, hin⟩ | h)
      · obtain ⟨x, y, rfl, -⟩ := writeTokens_pairs hvalue
        rcases (Str.pair_infix_flatMap Right.letters rights x y).mp (of_decide_eq_true hin) with
          ⟨r, hr, hletters⟩ | ⟨a, b, hab, rfl, rfl⟩
        · exact .inl ⟨r, hr, by rw [Right.text, hletters]; exact hvalue⟩
        · exact .inr ⟨a, b, hab, hvalue⟩
      · cases h
    · rintro (⟨r, hr, hin⟩ | ⟨a, b, hab, hin⟩)
      · exact .inl ⟨_, hin, decide_eq_true
          ((Str.pair_infix_flatMap Right.letters rights _ _).mpr (.inl ⟨r, hr, rfl⟩))⟩
      · exact .inl ⟨_, hin, decide_eq_true
          ((Str.pair_infix_flatMap Right.letters rights _ _).mpr (.inr ⟨a, b, hab, rfl, rfl⟩))⟩
  | mask value width fits =>
    have hstrip : Str.stripPrefix "0x" (Rights.mask value width fits).text =
        some (hexFixed (width + 1) value.toNat) := Str.stripPrefix_append _ _
    rw [hstrip, Option.bind_some, u32FromHex_hexFixed fits]
    constructor
    · rintro (⟨v, hv, hin⟩ | h)
      · obtain ⟨x, y, rfl, hx⟩ := writeTokens_pairs hv
        have hmem : x ∈ (Rights.mask value width fits).text :=
          (of_decide_eq_true hin).subset List.mem_cons_self
        rw [not_isUpper_of_mem_mask hmem] at hx
        cases hx
      · exact h
    · intro h
      exact .inr h

/-! ### The text of a descriptor -/

theorem plain_of_isUpper {s : Str} {c : Char} (h : s.all Char.isUpper = true) (hc : c ∈ s) :
    c ≠ '(' ∧ c ≠ ')' ∧ c ≠ ';' := by
  have hupper := List.all_eq_true.mp h c hc
  refine ⟨?_, ?_, ?_⟩ <;> rintro rfl <;> exact absurd hupper (by decide)

theorem Rights.text_plain (r : Rights) : ∀ c ∈ r.text, c ≠ '(' ∧ c ≠ ')' ∧ c ≠ ';' := by
  intro c hc
  cases r with
  | tokens rights =>
    exact plain_of_isUpper (List.all_eq_true.mpr fun c => isUpper_of_mem_tokens) hc
  | mask value width fits =>
    rcases List.mem_append.mp hc with hc | hc
    · change c ∈ ['0', 'x'] at hc
      rw [List.mem_cons, List.mem_singleton] at hc
      rcases hc with rfl | rfl <;> decide
    · obtain ⟨d, hd, rfl⟩ := hexValue_of_mem_hexFixed hc
      interval_cases d <;> decide

theorem Ace.fields_plain (a : Ace) : ∀ l ∈ a.fields, ∀ c ∈ l, c ≠ '(' ∧ c ≠ ')' ∧ c ≠ ';' := by
  intro l hl
  simp only [Ace.fields, List.mem_cons, List.mem_map] at hl
  rcases hl with rfl | rfl | rfl | rfl | rfl | rfl | ⟨field, -, rfl⟩
  · exact a.kind.property
  · exact a.flags.property
  · exact a.rights.text_plain
  · exact a.object.property
  · exact a.inheritObject.property
  · exact a.trustee.property
  · exact field.property

theorem Ace.text_plain (a : Ace) : ∀ c ∈ a.text, c ≠ '(' ∧ c ≠ ')' := by
  intro c hc
  rcases Str.mem_of_mem_intercalate hc with rfl | ⟨l, hl, hc⟩
  · decide
  · exact ⟨(a.fields_plain l hl c hc).1, (a.fields_plain l hl c hc).2.1⟩

/-- An entry is judged by its kind, its trustee and its rights. -/
theorem aceGrantsWrite_text (a : Ace) :
    aceGrantsWrite a.text = true ↔ a.Broad ∧ a.rights.Seen := by
  have hsplit : a.text.splitOn ';' = a.fields :=
    List.splitOn_intercalate ';' (fun l hl hc => (a.fields_plain l hl ';' hc).2.2 rfl)
      (List.cons_ne_nil _ _)
  unfold aceGrantsWrite
  rw [hsplit]
  unfold Ace.fields
  dsimp only
  by_cases hb : a.Broad
  · rw [if_neg (by rintro (h | h); exacts [h hb.1, h hb.2]), rightsGrantWrite_text]
    exact ⟨fun h => ⟨hb, h⟩, fun h => h.2⟩
  · rw [if_pos (by by_contra h; push Not at h; exact hb h)]
    exact ⟨fun h => (by cases h), fun h => absurd h.1 hb⟩

theorem aceGrantsWrite_short {s : Str} (h : (s.splitOn ';').length < 6) : aceGrantsWrite s = false := by
  unfold aceGrantsWrite
  split
  · next hfields =>
    rw [hfields] at h
    simp only [List.length_cons] at h
    omega
  · rfl

namespace Descriptor

theorem text_splitOn (d : Descriptor) : d.text.splitOn '(' = d.head :: d.pieces.map Piece.text := by
  refine List.splitOn_intercalate '(' (fun l hl hc => ?_) (List.cons_ne_nil _ _)
  rcases List.mem_cons.mp hl with rfl | hl
  · exact d.plain hc
  · obtain ⟨piece, -, rfl⟩ := List.mem_map.mp hl
    cases piece with
    | ace a rest plain =>
      rcases List.mem_append.mp hc with hc | hc
      · exact (a.text_plain '(' hc).1 rfl
      · rcases List.mem_cons.mp hc with hc | hc
        · exact absurd hc (by decide)
        · exact plain hc
    | other s plain short => exact plain hc

theorem mem_entries {d : Descriptor} {a : Ace} :
    a ∈ d.entries ↔ a.Broad ∧ ∃ rest plain, Piece.ace a rest plain ∈ d.pieces := by
  unfold entries
  rw [List.mem_filterMap]
  constructor
  · rintro ⟨piece, hpiece, hentry⟩
    cases piece with
    | ace b rest plain =>
      rw [Piece.entry] at hentry
      split at hentry
      · next hb =>
        cases hentry
        exact ⟨hb, rest, plain, hpiece⟩
      · cases hentry
    | other s plain short => cases hentry
  · rintro ⟨hb, rest, plain, hpiece⟩
    exact ⟨_, hpiece, if_pos hb⟩

/-- The code finds an entry that it takes for a write. -/
theorem grantsUntrustedWrite_text (d : Descriptor) :
    grantsUntrustedWrite d.text = true ↔ ∃ a ∈ d.entries, a.rights.Seen := by
  unfold grantsUntrustedWrite
  rw [d.text_splitOn, List.drop_one, List.tail_cons, List.any_eq_true]
  constructor
  · rintro ⟨s, hs, hgrants⟩
    obtain ⟨text, htext, hs⟩ := List.mem_filterMap.mp hs
    obtain ⟨piece, hpiece, rfl⟩ := List.mem_map.mp htext
    obtain ⟨split, hsplit, rfl⟩ := Option.map_eq_some_iff.mp hs
    cases piece with
    | ace a rest plain =>
      have hclose : Str.splitOnce ')' (a.text ++ ')' :: rest) = some (a.text, rest) :=
        Str.splitOnce_append (fun h => (a.text_plain ')' h).2 rfl) rest
      cases hclose.symm.trans hsplit
      obtain ⟨hb, hseen⟩ := (aceGrantsWrite_text a).mp hgrants
      exact ⟨a, mem_entries.mpr ⟨hb, rest, plain, hpiece⟩, hseen⟩
    | other s plain short =>
      rw [aceGrantsWrite_short (short split hsplit)] at hgrants
      cases hgrants
  · rintro ⟨a, ha, hseen⟩
    obtain ⟨hb, rest, plain, hpiece⟩ := mem_entries.mp ha
    have hclose : Str.splitOnce ')' (a.text ++ ')' :: rest) = some (a.text, rest) :=
      Str.splitOnce_append (fun h => (a.text_plain ')' h).2 rfl) rest
    refine ⟨a.text, List.mem_filterMap.mpr ⟨_, List.mem_map.mpr ⟨_, hpiece, rfl⟩, ?_⟩,
      (aceGrantsWrite_text a).mpr ⟨hb, hseen⟩⟩
    rw [Piece.text, hclose]
    rfl

end Descriptor

/-! ## Two ways to write the same rights -/

/-- The same piece, with the rights of its entry written in one way or the other. -/
inductive Piece.Respelled : Piece → Piece → Prop
  | ace (a : Ace) (rights : Rights) (h : a.rights.Respelled rights) (rest : Str) (plain : '(' ∉ rest) :
      Respelled (.ace a rest plain) (.ace { a with rights } rest plain)
  | other (s : Str) (plain : '(' ∉ s)
      (short : ∀ r, Str.splitOnce ')' s = some r → (r.1.splitOn ';').length < 6) :
      Respelled (.other s plain short) (.other s plain short)

namespace Descriptor

structure Respelled (d d' : Descriptor) : Prop where
  head : d'.head = d.head
  pieces : List.Forall₂ Piece.Respelled d.pieces d'.pieces

/-- A right to write in the sense of the check: generic all, or one of those of the mask. -/
def isWrite (mask : UInt32) : Bool := mask &&& 0x10000000 != 0 || writeMask mask

/-- The verdict on a descriptor does not depend on how its rights are written, and a right to
write is seen. -/
structure WellJudged (d : Descriptor) : Prop where
  spelling : ∀ d', d.Respelled d' → grantsUntrustedWrite d'.text = grantsUntrustedWrite d.text
  seen : (∃ a ∈ d.entries, isWrite a.rights.value = true) → grantsUntrustedWrite d.text = true

variable {d d' : Descriptor}

theorem Respelled.entry (h : d.Respelled d') {a : Ace} (ha : a ∈ d.entries) :
    ∃ a' ∈ d'.entries, a.rights.Respelled a'.rights := by
  obtain ⟨hb, rest, plain, hpiece⟩ := mem_entries.mp ha
  obtain ⟨piece', hpiece', hsame⟩ := exists_of_forall₂ h.pieces _ hpiece
  cases hsame with
  | ace _ rights hrights =>
    exact ⟨{ a with rights }, mem_entries.mpr ⟨hb, rest, plain, hpiece'⟩, hrights⟩

theorem Respelled.entry_of (h : d.Respelled d') {a' : Ace} (ha : a' ∈ d'.entries) :
    ∃ a ∈ d.entries, a.rights.Respelled a'.rights := by
  obtain ⟨hb, rest, plain, hpiece⟩ := mem_entries.mp ha
  obtain ⟨piece, hpiece, hsame⟩ := exists_of_forall₂ h.pieces.flip _ hpiece
  cases hsame with
  | ace a rights hrights => exact ⟨a, mem_entries.mpr ⟨hb, rest, plain, hpiece⟩, hrights⟩

end Descriptor

theorem Rights.Respelled.seen {r r' : Rights} (h : r.Respelled r') (hs : r.Seen)
    (hmask : writeMask r.value = true) : r'.Seen := by
  cases h with
  | same => exact hs
  | hex rights width fits => exact hmask

theorem Rights.Respelled.seen_before {r r' : Rights} (h : r.Respelled r') (hs : r'.Seen) :
    r.Seen ∨ writeMask r.value = true := by
  cases h with
  | same => exact .inl hs
  | hex rights width fits => exact .inr hs

/-! ### The spelling that hides most -/

theorem UInt32.toNat_lt_hex (value : UInt32) : value.toNat < 16 ^ (7 + 1) := by
  have hlt := value.toNat_lt
  omega

/-- Rights that the mask does not find are written as a mask. -/
def Rights.hidden : Rights → Rights
  | .tokens rights =>
    if writeMask (Rights.tokens rights).value then .tokens rights
    else .mask (Rights.tokens rights).value 7 (UInt32.toNat_lt_hex _)
  | .mask value width fits => .mask value width fits

theorem Rights.respelled_hidden (r : Rights) : r.Respelled r.hidden := by
  cases r with
  | tokens rights =>
    rw [Rights.hidden]
    split
    · exact .same _
    · exact .hex _ _ _
  | mask value width fits => exact .same _

/-- What is seen of them is seen by the mask as well. -/
theorem Rights.hidden_seen {r : Rights} (h : r.hidden.Seen) :
    r.Seen ∧ writeMask r.value = true := by
  cases r with
  | tokens rights =>
    rw [Rights.hidden] at h
    split at h
    · next hmask => exact ⟨h, hmask⟩
    · next hmask => exact absurd h hmask
  | mask value width fits => exact ⟨h, h⟩

def Piece.hidden : Piece → Piece
  | .ace a rest plain => .ace { a with rights := a.rights.hidden } rest plain
  | .other s plain short => .other s plain short

namespace Descriptor

def hidden (d : Descriptor) : Descriptor := { d with pieces := d.pieces.map Piece.hidden }

theorem respelled_hidden (d : Descriptor) : d.Respelled d.hidden where
  head := rfl
  pieces := by
    unfold hidden
    rw [List.forall₂_map_right_iff, List.forall₂_same]
    intro piece _
    cases piece with
    | ace a rest plain => exact .ace a _ a.rights.respelled_hidden rest plain
    | other s plain short => exact .other s plain short

theorem mem_entries_hidden {d : Descriptor} {a' : Ace} (h : a' ∈ d.hidden.entries) :
    ∃ a ∈ d.entries, a'.rights = a.rights.hidden := by
  obtain ⟨hb, rest, plain, hpiece⟩ := mem_entries.mp h
  obtain ⟨piece, hpiece, heq⟩ := List.mem_map.mp hpiece
  cases piece with
  | ace a rest' plain' =>
    cases heq
    exact ⟨a, mem_entries.mpr ⟨hb, rest, plain', hpiece⟩, rfl⟩
  | other s plain short => cases heq

/-- **Broad principals.**  The verdict on a descriptor is that of the rights, however they are
written, exactly when an entry is taken for a write by the tokens and by the mask, or no entry is
by the tokens and none has a right to write. -/
theorem wellJudged_iff (d : Descriptor) :
    d.WellJudged ↔
      (∃ a ∈ d.entries, a.rights.Seen ∧ writeMask a.rights.value = true) ∨
        ∀ a ∈ d.entries, ¬ a.rights.Seen ∧ isWrite a.rights.value = false := by
  constructor
  · rintro ⟨hspelling, hseen⟩
    by_cases hgrants : grantsUntrustedWrite d.text = true
    · have hhidden := (hspelling d.hidden d.respelled_hidden).trans hgrants
      obtain ⟨a', ha', hseen'⟩ := (grantsUntrustedWrite_text d.hidden).mp hhidden
      obtain ⟨a, ha, heq⟩ := mem_entries_hidden ha'
      rw [heq] at hseen'
      exact .inl ⟨a, ha, Rights.hidden_seen hseen'⟩
    · refine .inr fun a ha => ⟨fun h => ?_, ?_⟩
      · exact hgrants ((grantsUntrustedWrite_text d).mpr ⟨a, ha, h⟩)
      · cases hw : isWrite a.rights.value with
        | false => rfl
        | true => exact absurd (hseen ⟨a, ha, hw⟩) hgrants
  · rintro (⟨a, ha, hs, hmask⟩ | hnone)
    · have hgrants := (grantsUntrustedWrite_text d).mpr ⟨a, ha, hs⟩
      refine ⟨fun d' hd' => ?_, fun _ => hgrants⟩
      obtain ⟨a', ha', hrights⟩ := hd'.entry ha
      rw [hgrants, grantsUntrustedWrite_text]
      exact ⟨a', ha', hrights.seen hs hmask⟩
    · have hunseen : ∀ d', d.Respelled d' → ¬ grantsUntrustedWrite d'.text = true := by
        intro d' hd' h
        obtain ⟨a', ha', hs⟩ := (grantsUntrustedWrite_text d').mp h
        obtain ⟨a, ha, hrights⟩ := hd'.entry_of ha'
        obtain ⟨hnot, hwrite⟩ := hnone a ha
        rcases hrights.seen_before hs with hs | hmask
        · exact hnot hs
        · rw [isWrite, hmask, Bool.or_true] at hwrite
          cases hwrite
      have hd : ¬ grantsUntrustedWrite d.text = true := by
        intro h
        obtain ⟨a, ha, hs⟩ := (grantsUntrustedWrite_text d).mp h
        exact (hnone a ha).1 hs
      refine ⟨fun d' hd' => ?_, ?_⟩
      · rw [Bool.eq_false_iff.mpr hd, Bool.eq_false_iff.mpr (hunseen d' hd')]
      · rintro ⟨a, ha, hw⟩
        rw [(hnone a ha).2] at hw
        cases hw

/-- One allow entry for everyone. -/
def everyone (rights : Rights) : Descriptor where
  head := "O:SYG:SYD:"
  plain := by decide
  pieces := [.ace ⟨⟨"A".toList, fun _ => plain_of_isUpper (by decide)⟩, ⟨[], nofun⟩, rights,
    ⟨[], nofun⟩, ⟨[], nofun⟩, ⟨"WD".toList, fun _ => plain_of_isUpper (by decide)⟩, []⟩ []
    List.not_mem_nil]

/-- Everyone may delete: the mask is found, the token is not. -/
theorem everyone_delete_unseen :
    (everyone (.tokens [.SD])).text = "O:SYG:SYD:(A;;SD;;;WD)".toList ∧
      grantsUntrustedWrite "O:SYG:SYD:(A;;SD;;;WD)".toList = false ∧
      grantsUntrustedWrite "O:SYG:SYD:(A;;0x10000;;;WD)".toList = true ∧
      ¬ (everyone (.tokens [.SD])).WellJudged := by
  have htext : (everyone (.tokens [.SD])).text = "O:SYG:SYD:(A;;SD;;;WD)".toList := by decide +kernel
  have hunseen : grantsUntrustedWrite "O:SYG:SYD:(A;;SD;;;WD)".toList = false := by decide +kernel
  refine ⟨htext, hunseen, by decide +kernel, fun h => ?_⟩
  have hgrants := h.seen (by decide +kernel)
  rw [htext, hunseen] at hgrants
  cases hgrants

end Descriptor

/-! ### Single tokens -/

/-- The tokens that the list and the check of the rights take for different things. -/
def Right.misread : List Right := [.GA, .SD, .LC, .RP, .CR, .KA, .KR, .KW, .KX]

/-- An entry with one token is judged alike in both spellings, unless it is one of nine: generic
all is not in the mask, the others are not in the list of tokens. -/
theorem Right.seen_iff_writeMask (r : Right) :
    ((Rights.tokens [r]).Seen ↔ writeMask (Rights.tokens [r]).value = true) ↔
      r ∉ Right.misread := by
  have hno (a b : Right) : ¬ [a, b] <:+: [r] := by
    intro h
    exact absurd h.length_le (by simp)
  have hseen : (Rights.tokens [r]).Seen ↔ r.text ∈ writeTokens := by
    simp [Rights.Seen, hno]
  rw [hseen]
  cases r <;> decide

end NetworkLantern.Tuning
