import NetworkLantern.Lib.Text
import Mathlib.Data.UInt

/-!
# UTF-16

The code units of a text and the text of a sequence of code units.  Decoding
reports a code unit without its partner as `none`; a lossy decoder puts `U+FFFD`
there.

    decodeUtf16 (encodeUtf16 s) = s.map some        (decodeUtf16_encodeUtf16)
    unitsOf (unitBytes units)   = units             (unitsOf_unitBytes)
-/

namespace NetworkLantern

def encodeUtf16Char (c : Char) : List UInt16 :=
  if c.toNat < 0x10000 then [c.toNat.toUInt16]
  else [(0xD800 + (c.toNat - 0x10000) / 0x400).toUInt16,
    (0xDC00 + (c.toNat - 0x10000) % 0x400).toUInt16]

def encodeUtf16 (s : Str) : List UInt16 := s.flatMap encodeUtf16Char

/-- `char::decode_utf16`. -/
def decodeUtf16 : List UInt16 → List (Option Char)
  | [] => []
  | [u] => if u.toNat < 0xD800 ∨ 0xDFFF < u.toNat then [some (Char.ofNat u.toNat)] else [none]
  | u :: v :: rest =>
    if u.toNat < 0xD800 ∨ 0xDFFF < u.toNat then some (Char.ofNat u.toNat) :: decodeUtf16 (v :: rest)
    else if u.toNat ≤ 0xDBFF ∧ 0xDC00 ≤ v.toNat ∧ v.toNat ≤ 0xDFFF then
      some (Char.ofNat (0x10000 + (u.toNat - 0xD800) * 0x400 + (v.toNat - 0xDC00))) ::
        decodeUtf16 rest
    else none :: decodeUtf16 (v :: rest)

/-- `String::from_utf16`. -/
def fromUtf16 (units : List UInt16) : Option Str := (decodeUtf16 units).mapM id

/-- `String::from_utf16_lossy`. -/
def fromUtf16Lossy (units : List UInt16) : Str := (decodeUtf16 units).map (·.getD '\ufffd')

/-- Little-endian bytes. -/
def unitBytes (units : List UInt16) : Bytes :=
  units.flatMap fun u => [(u.toNat % 256).toUInt8, (u.toNat / 256).toUInt8]

/-- The code units of pairs of bytes; a last single byte is left out. -/
def unitsOf : Bytes → List UInt16
  | low :: high :: rest => (low.toNat + 256 * high.toNat).toUInt16 :: unitsOf rest
  | _ => []

theorem decodeUtf16_cons_bmp {u : UInt16} (h : u.toNat < 0xD800 ∨ 0xDFFF < u.toNat)
    (rest : List UInt16) :
    decodeUtf16 (u :: rest) = some (Char.ofNat u.toNat) :: decodeUtf16 rest := by
  cases rest with
  | nil => simp only [decodeUtf16, if_pos h]
  | cons v rest => rw [decodeUtf16, if_pos h]

theorem decodeUtf16_encodeUtf16_append (c : Char) (rest : List UInt16) :
    decodeUtf16 (encodeUtf16Char c ++ rest) = some c :: decodeUtf16 rest := by
  have hvalid : c.toNat < 0xD800 ∨ 0xDFFF < c.toNat ∧ c.toNat < 0x110000 := c.valid
  unfold encodeUtf16Char
  split
  · next h =>
    have hu : c.toNat.toUInt16.toNat = c.toNat := by simp; omega
    rw [List.singleton_append, decodeUtf16_cons_bmp (by rw [hu]; omega), hu, Char.ofNat_toNat]
  · next h =>
    have hhigh : (0xD800 + (c.toNat - 0x10000) / 0x400).toUInt16.toNat =
        0xD800 + (c.toNat - 0x10000) / 0x400 := by
      simp only [Nat.toUInt16_eq, UInt16.toNat_ofNat']
      omega
    have hlow : (0xDC00 + (c.toNat - 0x10000) % 0x400).toUInt16.toNat =
        0xDC00 + (c.toNat - 0x10000) % 0x400 := by
      simp only [Nat.toUInt16_eq, UInt16.toNat_ofNat']
      omega
    show decodeUtf16 (_ :: _ :: rest) = _
    rw [decodeUtf16, hhigh, hlow, if_neg (by omega), if_pos (by omega)]
    have hc : 0x10000 + (0xD800 + (c.toNat - 0x10000) / 0x400 - 0xD800) * 0x400 +
        (0xDC00 + (c.toNat - 0x10000) % 0x400 - 0xDC00) = c.toNat := by omega
    rw [hc, Char.ofNat_toNat]

theorem decodeUtf16_encodeUtf16 (s : Str) : decodeUtf16 (encodeUtf16 s) = s.map some := by
  induction s with
  | nil => rfl
  | cons c s ih =>
    show decodeUtf16 (encodeUtf16Char c ++ encodeUtf16 s) = _
    rw [decodeUtf16_encodeUtf16_append, ih]
    rfl

theorem fromUtf16Lossy_encodeUtf16 (s : Str) : fromUtf16Lossy (encodeUtf16 s) = s := by
  unfold fromUtf16Lossy
  rw [decodeUtf16_encodeUtf16, List.map_map]
  exact List.map_id s

theorem encodeUtf16_append (s t : Str) : encodeUtf16 (s ++ t) = encodeUtf16 s ++ encodeUtf16 t :=
  List.flatMap_append

theorem unitsOf_unitBytes (units : List UInt16) : unitsOf (unitBytes units) = units := by
  induction units with
  | nil => rfl
  | cons u units ih =>
    have hlt := u.toNat_lt
    show ((u.toNat % 256).toUInt8.toNat + 256 * (u.toNat / 256).toUInt8.toNat).toUInt16 ::
      unitsOf (unitBytes units) = _
    rw [ih]
    congr 1
    apply UInt16.toNat.inj
    simp only [Nat.toUInt16_eq, Nat.toUInt8_eq, UInt16.toNat_ofNat', UInt8.toNat_ofNat']
    omega

end NetworkLantern
