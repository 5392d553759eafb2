import NetworkLantern.Lib.Text

/-!
# Lossy UTF-8

`String::from_utf8_lossy`: what is no UTF-8 becomes U+FFFD, one for each maximal
start of a character that breaks off.
-/

namespace NetworkLantern

namespace Str

/-- The character at the head, if it is encoded in full. -/
def decodeHead (b : Bytes) : Option Char := (ByteArray.mk b.toArray).utf8DecodeChar? 0

/-- The second byte continues a character of three or four bytes. -/
def secondContinues (first second : UInt8) : Bool :=
  if first = 0xe0 then 0xa0 ≤ second && second ≤ 0xbf
  else if first = 0xed then 0x80 ≤ second && second ≤ 0x9f
  else if 0xe1 ≤ first && first ≤ 0xef then 0x80 ≤ second && second ≤ 0xbf
  else if first = 0xf0 then 0x90 ≤ second && second ≤ 0xbf
  else if 0xf1 ≤ first && first ≤ 0xf3 then 0x80 ≤ second && second ≤ 0xbf
  else if first = 0xf4 then 0x80 ≤ second && second ≤ 0x8f
  else false

/-- The bytes that one replacement stands for, where no character is encoded. -/
def invalidLength : Bytes → Nat
  | first :: second :: rest =>
    if secondContinues first second then
      match rest with
      | third :: _ => if 0xf0 ≤ first ∧ 0x80 ≤ third ∧ third ≤ 0xbf then 3 else 2
      | [] => 2
    else 1
  | _ => 1

/-- The characters of the bytes; every turn takes at least one of them. -/
def lossyTurns : Nat → Bytes → Str
  | 0, _ => []
  | _ + 1, [] => []
  | turns + 1, b =>
    match decodeHead b with
    | some c => c :: lossyTurns turns (b.drop c.utf8Size)
    | none => '\uFFFD' :: lossyTurns turns (b.drop (invalidLength b))

/-- `String::from_utf8_lossy`. -/
def fromUtf8Lossy (b : Bytes) : Str := lossyTurns b.length b

theorem decodeHead_encode (c : Char) (rest : Bytes) :
    decodeHead (String.utf8EncodeChar c ++ rest) = some c := by
  have h : ByteArray.mk (String.utf8EncodeChar c ++ rest).toArray =
      (String.utf8EncodeChar c).toByteArray ++ rest.toByteArray := by
    apply ByteArray.ext
    rw [ByteArray.data_append, List.data_toByteArray, List.data_toByteArray]
    exact (List.append_toArray _ _).symm
  unfold decodeHead
  rw [h, ByteArray.utf8DecodeChar?_utf8EncodeChar_append]

theorem lossyTurns_bytes (s : Str) {turns : Nat} (h : s.bytes.length ≤ turns) :
    lossyTurns turns s.bytes = s := by
  induction s generalizing turns with
  | nil => cases turns <;> rfl
  | cons c s ih =>
    have hc := Char.utf8Size_pos c
    have hsize : (String.utf8EncodeChar c).length = c.utf8Size := String.length_utf8EncodeChar c
    rw [bytes_cons, List.length_append] at h
    obtain ⟨n, rfl⟩ : ∃ n, turns = n + 1 := ⟨turns - 1, by omega⟩
    obtain ⟨b, bs, hb⟩ : ∃ b bs, bytes (c :: s) = b :: bs := by
      rw [bytes_cons]
      exact List.exists_cons_of_ne_nil fun hnil => by
        have hlen := congrArg List.length hnil
        rw [List.length_append, List.length_nil] at hlen
        omega
    have hturn : lossyTurns (n + 1) (bytes (c :: s)) =
        match decodeHead (bytes (c :: s)) with
        | some c' => c' :: lossyTurns n ((bytes (c :: s)).drop c'.utf8Size)
        | none => '\uFFFD' :: lossyTurns n ((bytes (c :: s)).drop (invalidLength (bytes (c :: s)))) := by
      rw [hb]
      rfl
    rw [hturn, bytes_cons, decodeHead_encode]
    show c :: lossyTurns n _ = c :: s
    rw [← hsize, List.drop_left, ih (by omega)]

/-- A text survives. -/
theorem fromUtf8Lossy_bytes (s : Str) : fromUtf8Lossy s.bytes = s :=
  lossyTurns_bytes s (Nat.le_refl _)

theorem fromUtf8Lossy_ne_nil {b : Bytes} (h : b ≠ []) : fromUtf8Lossy b ≠ [] := by
  obtain ⟨x, xs, rfl⟩ := List.exists_cons_of_ne_nil h
  show lossyTurns (xs.length + 1) (x :: xs) ≠ []
  unfold lossyTurns
  split
  · exact List.cons_ne_nil _ _
  · exact List.cons_ne_nil _ _

end Str

end NetworkLantern
