import NetworkLantern.Packet.QuoteSound

/-!
# MPLS labels of an extension block

A reference walk over the objects of a block (`walkObjects`), and what the parser's
loop makes of it: the first 64 labels, or an error when the walk breaks off before a
65th label (`parseMplsExtensions_spec`).
-/

namespace NetworkLantern.Packet

open NetworkLantern Path Checked

/-! ## The reference walk -/

/-- The objects of a block, up to its padding or to an object of a wrong length. -/
inductive Objects
  | padding
  | broken
  | object (classNum cType : UInt8) (payload : Bytes) (rest : Objects)

def walkObjects (block : Bytes) : Objects :=
  if block.length < 4 then .padding
  else if (word16 block 0).toNat < 4 ∨ block.length < (word16 block 0).toNat then .broken
  else .object (byteAt block 2) (byteAt block 3) ((block.take (word16 block 0).toNat).drop 4)
    (walkObjects (block.drop (word16 block 0).toNat))
termination_by block.length
decreasing_by rw [List.length_drop]; omega

namespace Objects

/-- The entries of a label stack; a tail that is no whole entry is none.  Objects of other
classes have none. -/
def entries (classNum cType : UInt8) (payload : Bytes) : List MplsLabel :=
  if classNum = 1 ∧ cType = 1 then (words payload).map mplsLabel else []

def labels : Objects → List MplsLabel
  | padding | broken => []
  | object classNum cType payload rest => entries classNum cType payload ++ rest.labels

/-- Every object has a right length. -/
def whole : Objects → Bool
  | padding => true
  | broken => false
  | object _ _ _ rest => rest.whole

/-- What a reader of 64 labels returns when it has some labels already. -/
def read (os : Objects) (seen : List MplsLabel) : Parse (List MplsLabel) :=
  if MAX_MPLS_LABELS_PER_RESPONSE < (seen ++ os.labels).length then
    .ok ((seen ++ os.labels).take MAX_MPLS_LABELS_PER_RESPONSE)
  else if os.whole then .ok (seen ++ os.labels)
  else malformed "invalid ICMP extension object length"

section

variable {seen : List MplsLabel}

theorem read_padding (h : seen.length ≤ MAX_MPLS_LABELS_PER_RESPONSE) :
    padding.read seen = .ok seen := by
  unfold read
  rw [show padding.labels = [] from rfl, List.append_nil, if_neg (by omega), whole, if_pos rfl]

theorem read_broken (h : seen.length ≤ MAX_MPLS_LABELS_PER_RESPONSE) :
    broken.read seen = malformed "invalid ICMP extension object length" := by
  unfold read
  rw [show broken.labels = [] from rfl, List.append_nil, if_neg (by omega), whole,
    if_neg Bool.false_ne_true]

theorem read_object (classNum cType : UInt8) (payload : Bytes) (rest : Objects) :
    (object classNum cType payload rest).read seen =
      if MAX_MPLS_LABELS_PER_RESPONSE < (seen ++ entries classNum cType payload).length then
        .ok ((seen ++ entries classNum cType payload).take MAX_MPLS_LABELS_PER_RESPONSE)
      else rest.read (seen ++ entries classNum cType payload) := by
  unfold read
  rw [labels, whole, ← List.append_assoc]
  by_cases hfull : MAX_MPLS_LABELS_PER_RESPONSE < (seen ++ entries classNum cType payload).length
  · rw [if_pos hfull, if_pos (by rw [List.length_append]; omega),
      List.take_append_of_le_length (by omega)]
  · rw [if_neg hfull]

end

end Objects

/-- The first four bytes: version 2, reserved bits, and a checksum that is absent or right. -/
def ExtensionHeader (bytes : Bytes) : Prop :=
  4 ≤ bytes.length ∧ high (byteAt bytes 0) = 2 ∧ low (byteAt bytes 0) = 0 ∧ byteAt bytes 1 = 0 ∧
    (word16 bytes 2 = 0 ∨ internetChecksum bytes = 0)

/-! ## The loop -/

theorem byteAt_drop (bytes : Bytes) (i j : Nat) : byteAt (bytes.drop i) j = byteAt bytes (i + j) := by
  unfold byteAt
  rw [List.getD_eq_getElem?_getD, List.getD_eq_getElem?_getD, List.getElem?_drop]

theorem word16_drop (bytes : Bytes) (i : Nat) : word16 (bytes.drop i) 0 = word16 bytes i := by
  unfold word16
  rw [byteAt_drop, byteAt_drop, Nat.add_zero, Nat.zero_add]

theorem pushLabels_eq {labels : List MplsLabel} (hl : labels.length ≤ MAX_MPLS_LABELS_PER_RESPONSE)
    (entries : List UInt32) :
    pushLabels labels entries =
      if MAX_MPLS_LABELS_PER_RESPONSE < labels.length + entries.length then
        ((labels ++ entries.map mplsLabel).take MAX_MPLS_LABELS_PER_RESPONSE, true)
      else (labels ++ entries.map mplsLabel, false) := by
  induction entries generalizing labels with
  | nil =>
    rw [if_neg (by rw [List.length_nil]; omega)]
    simp [pushLabels]
  | cons word rest ih =>
    rw [pushLabels, List.length_cons]
    by_cases hfull : labels.length = MAX_MPLS_LABELS_PER_RESPONSE
    · rw [if_pos hfull, if_pos (by omega), ← hfull, List.take_left]
    · rw [if_neg hfull, ih (by rw [List.length_append, List.length_singleton]; omega),
        List.length_append, List.length_singleton, List.append_assoc, Nat.add_right_comm,
        Nat.add_assoc]
      rfl

/-- The loop reads the objects of the block from its offset on. -/
theorem mplsObjects_eq {bytes : Bytes} {labels : List MplsLabel} {offset : Nat} (turns : Nat)
    (hl : labels.length ≤ MAX_MPLS_LABELS_PER_RESPONSE) (ho : offset ≤ bytes.length)
    (ht : bytes.length < offset + turns) :
    mplsObjects bytes labels offset turns = (walkObjects (bytes.drop offset)).read labels := by
  induction turns generalizing labels offset with
  | zero => omega
  | succ turns ih =>
    have hlen : (bytes.drop offset).length = bytes.length - offset := List.length_drop
    rw [walkObjects, mplsObjects, sub_ok ho, except_ok_bind, hlen, word16_drop]
    by_cases hrem : 4 ≤ bytes.length - offset
    · rw [if_pos hrem, if_neg (by omega), field16_word rfl (by omega)]
      generalize (word16 bytes offset).toNat = length
      by_cases hwrong : length < 4 ∨ bytes.length - offset < length
      · rw [if_pos (by omega), if_pos hwrong, Objects.read_broken hl]
      · rw [not_or, not_lt, not_lt] at hwrong
        have hpayload : ((bytes.drop offset).take length).drop 4 =
            (bytes.drop (offset + 4)).take (offset + length - (offset + 4)) := by
          rw [List.drop_take, List.drop_drop]
          congr 1
          omega
        rw [if_neg (by omega), if_neg (by omega), index_byteAt (by omega), except_ok_bind,
          index_byteAt (by omega), except_ok_bind, Objects.read_object, byteAt_drop, byteAt_drop,
          hpayload, List.drop_drop]
        unfold Objects.entries
        by_cases hstack : byteAt bytes (offset + 2) = 1 ∧ byteAt bytes (offset + 3) = 1
        · rw [if_pos hstack, if_pos hstack, slice_ok (by omega) (by omega), except_ok_bind,
            pushLabels_eq hl, List.length_append, List.length_map]
          generalize hws : words ((bytes.drop (offset + 4)).take _) = ws
          by_cases hfull : MAX_MPLS_LABELS_PER_RESPONSE < labels.length + ws.length
          · rw [if_pos hfull, if_pos hfull]
            rfl
          · have hroom : (labels ++ ws.map mplsLabel).length ≤ MAX_MPLS_LABELS_PER_RESPONSE := by
              rw [List.length_append, List.length_map]
              omega
            rw [if_neg hfull, if_neg hfull]
            exact ih hroom (by omega) (by omega)
        · rw [if_neg hstack, if_neg hstack, List.append_nil, if_neg (by omega)]
          exact ih hl (by omega) (by omega)
    · rw [if_neg hrem, if_pos (by omega), Objects.read_padding hl]
      rfl

/-! ## The parser -/

theorem parseMplsExtensions_eq {bytes : Bytes} (h : ExtensionHeader bytes) :
    parseMplsExtensions bytes = (walkObjects (bytes.drop 4)).read [] := by
  obtain ⟨hlen, hversion, hreserved, hzero, hchecksum⟩ := h
  unfold parseMplsExtensions
  rw [need_ok hlen, except_ok_bind, index_byteAt (by omega), except_ok_bind,
    index_byteAt (by omega), except_ok_bind, if_neg (by simp [hversion, hreserved, hzero]),
    field16_word rfl hlen, if_neg (by tauto)]
  exact mplsObjects_eq bytes.length (Nat.zero_le _) hlen (by omega)

/-- Without a right header there are no labels. -/
theorem parseMplsExtensions_header {bytes : Bytes} (h : ¬ ExtensionHeader bytes) :
    ∃ e, parseMplsExtensions bytes = fail e := by
  unfold parseMplsExtensions
  by_cases hlen : 4 ≤ bytes.length
  · rw [need_ok hlen, except_ok_bind, index_byteAt (by omega), except_ok_bind,
      index_byteAt (by omega), except_ok_bind]
    by_cases hversion : high (byteAt bytes 0) ≠ 2 ∨ low (byteAt bytes 0) ≠ 0 ∨ byteAt bytes 1 ≠ 0
    · rw [if_pos hversion]
      exact ⟨_, rfl⟩
    · rw [if_neg hversion, field16_word rfl hlen]
      simp only [not_or, not_not] at hversion
      rw [if_pos]
      · exact ⟨_, rfl⟩
      · unfold ExtensionHeader at h
        tauto
  · rw [need, if_pos (by omega)]
    exact ⟨_, rfl⟩

end NetworkLantern.Packet
