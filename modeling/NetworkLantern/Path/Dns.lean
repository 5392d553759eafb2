import NetworkLantern.Lib.Checked
import NetworkLantern.Lib.Checks
import NetworkLantern.Lib.Lossy
import NetworkLantern.Path.Types

/-!
# The DNS codec

Queries as they are sent, and the reader of responses.  A name may go on behind
a compression pointer, anywhere in the message; at most 16 of them are followed.

    safe_parseResponse    no input makes the reader panic or run on
    readName_query        the name of a query reads back
    readName_written      a name reads as it is written, behind at most 16 pointers
    dns_codec             the three together, for every name that a query can have
-/

namespace NetworkLantern.Path

open NetworkLantern Checked

/-! ## Queries -/

/-- A label behind its length. -/
def encodeLabel (label : Str) : Except ProbeError Bytes :=
  if label.isEmpty ∨ 63 < label.byteLen then .error (.invalidPlan "invalid DNS query label")
  else .ok (UInt8.ofNat label.byteLen :: label.bytes)

def buildQuery (transaction : UInt16) (name : Str) (queryType : UInt16) :
    Except ProbeError Bytes := do
  let labels ← (name.splitOn '.').mapM encodeLabel
  return u16ToBe transaction ++ [0x01, 0x00, 0, 1, 0, 0, 0, 0, 0, 0] ++ labels.flatten ++ [0] ++
    u16ToBe queryType ++ u16ToBe 1

/-! ## Responses -/

abbrev Dns (α : Type) := Checked ProbeError α

def dnsParse {α : Type} (message : Str) : Dns α := fail (.io "parse DNS response" message)

/-- `labels.join(".")`. -/
def joinLabels (labels : List Str) : Str := ['.'].intercalate labels

/-- `bytes[offset] & 0xc0 == 0xc0`. -/
def isPointer (length : UInt8) : Bool := length &&& 0xc0 == 0xc0

/-- The 14 bits of a compression pointer. -/
def pointerTarget (length low : UInt8) : Nat := (length &&& 0x3f).toNat * 256 + low.toNat

/-- The loop over the labels; `follow` reads the name behind a pointer.  Every
turn moves on, so there are fewer turns than bytes: no input uses them up. -/
def nameLoop (bytes : Bytes) (follow : Nat → Dns (Nat × Str)) :
    Nat → Nat → List Str → Dns (Nat × Str)
  | 0, _, _ => panic
  | turns + 1, offset, labels =>
    match bytes[offset]? with
    | none => dnsParse "truncated name"
    | some length =>
      if isPointer length then
        match bytes[offset + 1]? with
        | none => dnsParse "truncated compression pointer"
        | some low => do
          let (_, suffix) ← follow (pointerTarget length low)
          return (offset + 2, joinLabels (if suffix.isEmpty then labels else labels ++ [suffix]))
      else if length = 0 then return (offset + 1, joinLabels labels)
      else
        let stop := offset + 1 + length.toNat
        if bytes.length < stop then dnsParse "truncated label"
        else do
          let label ← slice bytes (offset + 1) stop
          nameLoop bytes follow turns stop (labels ++ [Str.fromUtf8Lossy label])

/-- A name, while no more pointers are followed than are left. -/
def readLinks (bytes : Bytes) : Nat → Nat → Dns (Nat × Str)
  | 0, _ => dnsParse "compression pointer loop"
  | links + 1, offset => nameLoop bytes (readLinks bytes links) (bytes.length + 1) offset []

/-- `read_name`, which refuses a depth of more than 16. -/
def readName (bytes : Bytes) (offset depth : Nat) : Dns (Nat × Str) :=
  readLinks bytes (17 - depth) offset

def skipName (bytes : Bytes) (offset : Nat) : Dns Nat := do
  let (next, _) ← readName bytes offset 0
  return next

def skipQuestions (bytes : Bytes) : Nat → Nat → Dns Nat
  | 0, offset => return offset
  | questions + 1, offset => do
    let offset ← skipName bytes offset
    match (checkedAdd offset 4).filter fun value => value ≤ bytes.length with
    | none => dnsParse "truncated question"
    | some offset => skipQuestions bytes questions offset

/-- The strings of a TXT record; every one has a length byte. -/
def readStrings (bytes : Bytes) (stop : Nat) : Nat → Nat → Str → Dns Str
  | 0, _, _ => panic
  | turns + 1, cursor, text =>
    if cursor < stop then do
      let part ← index bytes cursor
      let cursor := cursor + 1
      if stop < cursor + part.toNat then dnsParse "truncated TXT string"
      else do
        let piece ← slice bytes cursor (cursor + part.toNat)
        readStrings bytes stop turns (cursor + part.toNat) (text ++ Str.fromUtf8Lossy piece)
    else return text

/-- The records of one answer. -/
def readRecord (bytes : Bytes) (queryType : UInt16) (data length : Nat) (records : List Str) :
    Dns (List Str) :=
  if queryType = 12 then do
    let (_, name) ← readName bytes data 0
    return records ++ [name]
  else if queryType = 16 then do
    let text ← readStrings bytes (data + length) (length + 1) data []
    return records ++ [text]
  else return records

/-- `u16::from_be_bytes([bytes[i], bytes[i + 1]])`. -/
def numberAt (bytes : Bytes) (i : Nat) : Dns UInt16 := do
  let a ← index bytes i
  let b ← index bytes (i + 1)
  return u16OfBe a b

def readAnswers (bytes : Bytes) (queryType : UInt16) : Nat → Nat → List Str → Dns (List Str)
  | 0, _, records => return records
  | answers + 1, offset, records => do
    let offset ← skipName bytes offset
    if bytes.length < offset + 10 then dnsParse "truncated answer"
    else do
      let recordType ← numberAt bytes offset
      let length ← numberAt bytes (offset + 8)
      let data := offset + 10
      if bytes.length < data + length.toNat then dnsParse "truncated answer data"
      else if recordType = queryType then do
        let records ← readRecord bytes queryType data length.toNat records
        readAnswers bytes queryType answers (data + length.toNat) records
      else readAnswers bytes queryType answers (data + length.toNat) records

def parseResponse (transaction queryType : UInt16) (bytes : Bytes) : Dns (List Str) :=
  if bytes.length < 12 then dnsParse "header or transaction mismatch"
  else do
    let id ← numberAt bytes 0
    if id ≠ transaction then dnsParse "header or transaction mismatch"
    else do
      let flags ← index bytes 3
      if flags &&& 0x0f ≠ 0 then return []
      else do
        let questions ← numberAt bytes 4
        let answers ← numberAt bytes 6
        let offset ← skipQuestions bytes questions.toNat 12
        readAnswers bytes queryType answers.toNat offset []

/-! ## Bounds -/

theorem safe_numberAt {bytes : Bytes} {i : Nat} (h : i + 2 ≤ bytes.length) :
    Safe (numberAt bytes i) :=
  (meets_index (by omega)).bind fun _ _ => (meets_index (by omega)).bind fun _ _ => trivial

/-- The loop ends within the message, whatever stands behind a pointer. -/
theorem meets_nameLoop {bytes : Bytes} {follow : Nat → Dns (Nat × Str)}
    (hfollow : ∀ target, Safe (follow target)) {turns offset : Nat} (hpos : 0 < turns)
    (hturns : bytes.length < offset + turns) (labels : List Str) :
    Meets (fun r => r.1 ≤ bytes.length) (nameLoop bytes follow turns offset labels) := by
  induction turns generalizing offset labels with
  | zero => exact absurd hpos (Nat.lt_irrefl 0)
  | succ turns ih =>
    unfold nameLoop
    match hlength : bytes[offset]? with
    | none => trivial
    | some length =>
      obtain ⟨hoffset, -⟩ := List.getElem?_eq_some_iff.mp hlength
      refine meets_ite (fun _ => ?_) fun _ => meets_ite (fun _ => hoffset) fun _ =>
        meets_ite (fun _ => trivial) fun hstop => ?_
      · match hlow : bytes[offset + 1]? with
        | none => trivial
        | some low =>
          obtain ⟨hlow, -⟩ := List.getElem?_eq_some_iff.mp hlow
          exact (hfollow _).bind fun _ _ => hlow
      · rw [slice_ok (by omega) (by omega), except_ok_bind]
        exact ih (by omega) (by omega) _

theorem meets_readLinks (bytes : Bytes) (links offset : Nat) :
    Meets (fun r => r.1 ≤ bytes.length) (readLinks bytes links offset) := by
  induction links generalizing offset with
  | zero => trivial
  | succ links ih => exact meets_nameLoop (fun target => (ih target).safe) (by omega) (by omega) []

theorem meets_readName (bytes : Bytes) (offset depth : Nat) :
    Meets (fun r => r.1 ≤ bytes.length) (readName bytes offset depth) :=
  meets_readLinks bytes _ offset

theorem meets_skipName (bytes : Bytes) (offset : Nat) :
    Meets (fun next => next ≤ bytes.length) (skipName bytes offset) :=
  (meets_readName bytes offset 0).bind fun _ h => h

theorem meets_skipQuestions (bytes : Bytes) (questions : Nat) {offset : Nat}
    (h : offset ≤ bytes.length) :
    Meets (fun next => next ≤ bytes.length) (skipQuestions bytes questions offset) := by
  induction questions generalizing offset with
  | zero => exact h
  | succ questions ih =>
    refine (meets_skipName bytes offset).bind fun next _ => ?_
    match hnext : (checkedAdd next 4).filter fun value => value ≤ bytes.length with
    | none => trivial
    | some value => exact ih (of_decide_eq_true (Option.filter_eq_some_iff.mp hnext).2)

theorem safe_readStrings {bytes : Bytes} {stop : Nat} (hstop : stop ≤ bytes.length)
    {turns cursor : Nat} (hpos : 0 < turns) (hturns : stop < cursor + turns) (text : Str) :
    Safe (readStrings bytes stop turns cursor text) := by
  induction turns generalizing cursor text with
  | zero => exact absurd hpos (Nat.lt_irrefl 0)
  | succ turns ih =>
    refine meets_ite (fun hcursor => ?_) fun _ => trivial
    refine (meets_index (by omega)).bind fun part _ => meets_ite (fun _ => trivial) fun hpart => ?_
    rw [slice_ok (by omega) (by omega), except_ok_bind]
    exact ih (by omega) (by omega) _

theorem safe_readRecord {bytes : Bytes} {data length : Nat} (h : data + length ≤ bytes.length)
    (queryType : UInt16) (records : List Str) :
    Safe (readRecord bytes queryType data length records) := by
  refine meets_ite (fun _ => ?_) fun _ => meets_ite (fun _ => ?_) fun _ => trivial
  · exact (meets_readName bytes data 0).bind fun _ _ => trivial
  · exact (safe_readStrings h (by omega) (by omega) []).bind fun _ _ => trivial

theorem safe_readAnswers (bytes : Bytes) (queryType : UInt16) (answers offset : Nat)
    (records : List Str) : Safe (readAnswers bytes queryType answers offset records) := by
  induction answers generalizing offset records with
  | zero => trivial
  | succ answers ih =>
    refine (meets_skipName bytes offset).bind fun next _ => meets_ite (fun _ => trivial) fun hfixed => ?_
    refine (safe_numberAt (by omega)).bind fun recordType _ => ?_
    refine (safe_numberAt (by omega)).bind fun length _ => ?_
    refine meets_ite (fun _ => trivial) fun hdata => meets_ite (fun _ => ?_) fun _ => ih _ _
    exact (safe_readRecord (by omega) queryType records).bind fun records _ => ih _ records

theorem safe_parseResponse (transaction queryType : UInt16) (bytes : Bytes) :
    Safe (parseResponse transaction queryType bytes) := by
  refine meets_ite (fun _ => trivial) fun hheader => ?_
  refine (safe_numberAt (by omega)).bind fun id _ => meets_ite (fun _ => trivial) fun _ => ?_
  refine (meets_index (by omega)).bind fun flags _ => meets_ite (fun _ => trivial) fun _ => ?_
  refine (safe_numberAt (by omega)).bind fun questions _ => ?_
  refine (safe_numberAt (by omega)).bind fun answers _ => ?_
  exact (meets_skipQuestions bytes questions.toNat (by omega)).bind fun offset _ =>
    safe_readAnswers bytes queryType answers.toNat offset []

/-! ## Names as they are written -/

/-- The uncompressed form of a name. -/
def wire (labels : List Bytes) : Bytes :=
  (labels.map fun label => UInt8.ofNat label.length :: label).flatten ++ [0]

/-- The text of a name. -/
def nameText (labels : List Bytes) : Str := joinLabels (labels.map Str.fromUtf8Lossy)

/-- The labels written at an offset, behind a chain of `pointers` pointers; `next`
is just past the first of them, or past the root label where there is none. -/
inductive Written (bytes : Bytes) : Nat → List Bytes → Nat → Nat → Prop
  | root {offset : Nat} (h : bytes[offset]? = some 0) : Written bytes offset [] 0 (offset + 1)
  | label {offset pointers next : Nat} {length : UInt8} {labels : List Bytes}
      (h : bytes[offset]? = some length) (hplain : ¬ isPointer length) (hlength : length ≠ 0)
      (hstop : offset + 1 + length.toNat ≤ bytes.length)
      (rest : Written bytes (offset + 1 + length.toNat) labels pointers next) :
      Written bytes offset ((bytes.drop (offset + 1)).take length.toNat :: labels) pointers next
  | pointer {offset pointers after : Nat} {high low : UInt8} {labels : List Bytes}
      (h : bytes[offset]? = some high) (hpointer : isPointer high)
      (hlow : bytes[offset + 1]? = some low)
      (target : Written bytes (pointerTarget high low) labels pointers after) :
      Written bytes offset labels (pointers + 1) (offset + 2)

theorem isPointer_ofNat : ∀ n < 256, (isPointer (UInt8.ofNat n) ↔ 192 ≤ n) := by decide +kernel

theorem isPointer_iff (length : UInt8) : isPointer length ↔ 192 ≤ length.toNat := by
  have h := isPointer_ofNat length.toNat length.toNat_lt
  rwa [UInt8.ofNat_toNat] at h

theorem joinLabels_snoc (labels : List Str) {suffix : List Str} (h : suffix ≠ []) :
    joinLabels (labels ++ [joinLabels suffix]) = joinLabels (labels ++ suffix) := by
  unfold joinLabels
  induction labels with
  | nil => exact List.intercalate_singleton
  | cons label labels ih =>
    rw [List.cons_append, List.cons_append,
      List.intercalate_cons_of_ne_nil (List.append_ne_nil_of_right_ne_nil labels (List.cons_ne_nil _ _)),
      List.intercalate_cons_of_ne_nil (List.append_ne_nil_of_right_ne_nil labels h), ih]

theorem joinLabels_cons_ne_nil {label : Str} (h : label ≠ []) (labels : List Str) :
    joinLabels (label :: labels) ≠ [] := by
  unfold joinLabels
  by_cases hlabels : labels = []
  · rw [hlabels, List.intercalate_singleton]
    exact h
  · rw [List.intercalate_cons_of_ne_nil hlabels, List.append_assoc]
    exact List.append_ne_nil_of_left_ne_nil h _

/-- The labels that a length byte can stand before. -/
theorem Written.valid {bytes : Bytes} {offset pointers next : Nat} {labels : List Bytes}
    (h : Written bytes offset labels pointers next) :
    ∀ label ∈ labels, label ≠ [] ∧ label.length < 192 := by
  induction h with
  | root => exact fun _ hmem => absurd hmem List.not_mem_nil
  | @label offset pointers next length labels h hplain hlength hstop rest ih =>
    intro label hmem
    rcases List.mem_cons.mp hmem with rfl | hmem
    · have hlen : ((bytes.drop (offset + 1)).take length.toNat).length = length.toNat := by
        rw [List.length_take, List.length_drop]
        omega
      have hpos : length.toNat ≠ 0 := fun hzero => hlength (UInt8.toNat_inj.mp hzero)
      rw [isPointer_iff] at hplain
      refine ⟨fun hnil => hpos ?_, by omega⟩
      rw [← hlen, hnil, List.length_nil]
    · exact ih label hmem
  | pointer _ _ _ _ ih => exact ih

theorem nameText_eq_nil {labels : List Bytes} (h : ∀ label ∈ labels, label ≠ []) :
    nameText labels = [] ↔ labels = [] := by
  constructor
  · intro htext
    match labels with
    | [] => rfl
    | label :: labels =>
      exact absurd htext
        (joinLabels_cons_ne_nil (Str.fromUtf8Lossy_ne_nil (h label List.mem_cons_self)) _)
  · rintro rfl
    rfl

/-- What is written is read.  The number of pointers left bounds the derivation. -/
theorem nameLoop_written {bytes : Bytes} {offset pointers next : Nat} {labels : List Bytes}
    (h : Written bytes offset labels pointers next) {links turns : Nat} (hlinks : pointers ≤ links)
    (hpos : 0 < turns) (hturns : bytes.length < offset + turns) (read : List Str) :
    nameLoop bytes (readLinks bytes links) turns offset read =
      .ok (next, joinLabels (read ++ labels.map Str.fromUtf8Lossy)) := by
  induction h generalizing links turns read with
  | root h =>
    obtain ⟨turns, rfl⟩ : ∃ n, turns = n + 1 := ⟨turns - 1, by omega⟩
    unfold nameLoop
    rw [h, List.map_nil, List.append_nil]
    rfl
  | @label offset pointers next length labels h hplain hlength hstop rest ih =>
    obtain ⟨turns, rfl⟩ : ∃ n, turns = n + 1 := ⟨turns - 1, by omega⟩
    obtain ⟨hoffset, -⟩ := List.getElem?_eq_some_iff.mp h
    unfold nameLoop
    rw [h]
    dsimp only
    rw [if_neg hplain, if_neg hlength, if_neg (by omega), slice_ok (by omega) hstop, except_ok_bind,
      ih hlinks (by omega) (by omega), List.append_assoc]
    rw [show offset + 1 + length.toNat - (offset + 1) = length.toNat by omega]
    rfl
  | @pointer offset pointers after high low labels h hpointer hlow target ih =>
    obtain ⟨turns, rfl⟩ : ∃ n, turns = n + 1 := ⟨turns - 1, by omega⟩
    obtain ⟨links, rfl⟩ : ∃ n, links = n + 1 := ⟨links - 1, by omega⟩
    have htarget : readLinks bytes (links + 1) (pointerTarget high low) =
        .ok (after, nameText labels) :=
      ih (by omega) (by omega) (by omega) []
    have hempty := nameText_eq_nil fun label hmem => (target.valid label hmem).1
    unfold nameLoop
    rw [h]
    dsimp only
    rw [if_pos hpointer, hlow]
    dsimp only
    rw [htarget, except_ok_bind]
    by_cases hlabels : labels = []
    · rw [hempty.mpr hlabels, hlabels, List.map_nil, List.append_nil]
      rfl
    · have hsuffix : ¬ (nameText labels).isEmpty :=
        fun h => hlabels (hempty.mp (List.isEmpty_iff.mp h))
      dsimp only
      rw [if_neg hsuffix]
      exact congrArg (fun text => Except.ok (offset + 2, text))
        (joinLabels_snoc read fun h => hlabels (List.map_eq_nil_iff.mp h))

theorem readName_written {bytes : Bytes} {offset pointers next : Nat} {labels : List Bytes}
    (h : Written bytes offset labels pointers next) (hpointers : pointers ≤ 16) :
    readName bytes offset 0 = .ok (next, nameText labels) :=
  nameLoop_written h hpointers (by omega) (by omega) []

theorem wire_cons (label : Bytes) (labels : List Bytes) :
    wire (label :: labels) = (UInt8.ofNat label.length :: label) ++ wire labels := by
  unfold wire
  rw [List.map_cons, List.flatten_cons, List.append_assoc]

/-- The uncompressed form stands for the labels, wherever it is. -/
theorem written_wire {labels : List Bytes} (h : ∀ label ∈ labels, label ≠ [] ∧ label.length < 192)
    (before after : Bytes) :
    Written (before ++ wire labels ++ after) before.length labels 0
      (before.length + (wire labels).length) := by
  induction labels generalizing before with
  | nil => exact .root (by simp [wire])
  | cons label labels ih =>
    obtain ⟨hne, hshort⟩ := h label List.mem_cons_self
    have hpos := List.length_pos_iff.mpr hne
    have hbyte : (UInt8.ofNat label.length).toNat = label.length :=
      UInt8.toNat_ofNat_of_lt (by show label.length < 256; omega)
    have hbytes : before ++ wire (label :: labels) ++ after =
        before ++ (UInt8.ofNat label.length :: label) ++ wire labels ++ after := by
      rw [wire_cons, ← List.append_assoc before]
    have hafter : (before ++ (UInt8.ofNat label.length :: label)).length =
        before.length + 1 + label.length := by
      rw [List.length_append, List.length_cons]
      omega
    have hslice : ((before ++ wire (label :: labels) ++ after).drop (before.length + 1)).take
        label.length = label := by
      rw [wire_cons, List.append_assoc, List.append_assoc, ← List.drop_drop, List.drop_left,
        List.cons_append, List.drop_succ_cons, List.drop_zero, List.take_left]
    have hrest := ih (fun l hmem => h l (List.mem_cons_of_mem label hmem))
      (before ++ (UInt8.ofNat label.length :: label))
    rw [← hbytes, hafter] at hrest
    have hwritten : Written (before ++ wire (label :: labels) ++ after) before.length
        (((before ++ wire (label :: labels) ++ after).drop (before.length + 1)).take
          (UInt8.ofNat label.length).toNat :: labels) 0
        (before.length + 1 + label.length + (wire labels).length) := by
      refine .label ?_ ?_ ?_ ?_ (by rw [hbyte]; exact hrest)
      · rw [wire_cons, List.append_assoc, List.getElem?_append_right (Nat.le_refl _), Nat.sub_self]
        rfl
      · rw [isPointer_iff, hbyte]
        omega
      · exact fun hzero => by
          rw [hzero] at hbyte
          exact absurd hbyte.symm (Nat.ne_of_gt hpos)
      · rw [hbyte, hbytes, List.length_append, List.length_append, hafter]
        omega
    rw [hbyte, hslice] at hwritten
    have hnext : before.length + (wire (label :: labels)).length =
        before.length + 1 + label.length + (wire labels).length := by
      rw [wire_cons, List.length_append, List.length_cons]
      omega
    rw [hnext]
    exact hwritten

/-- A compressed name reads as its uncompressed form does. -/
theorem readName_wire {bytes : Bytes} {offset pointers next : Nat} {labels : List Bytes}
    (h : Written bytes offset labels pointers next) :
    readName (wire labels) 0 0 = .ok ((wire labels).length, nameText labels) := by
  have hwire := written_wire h.valid [] []
  rw [List.nil_append, List.append_nil, List.length_nil, Nat.zero_add] at hwire
  exact readName_written hwire (Nat.zero_le 16)

/-! ## The name of a query -/

theorem encodeLabel_eq_ok {label : Str} {b : Bytes} :
    encodeLabel label = .ok b ↔
      (label ≠ [] ∧ label.byteLen ≤ 63) ∧ UInt8.ofNat label.byteLen :: label.bytes = b := by
  unfold encodeLabel
  by_cases h : label.isEmpty ∨ 63 < label.byteLen
  · rw [if_pos h]
    refine ⟨fun hok => absurd hok (fun hok => by cases hok), fun hok => absurd h ?_⟩
    rintro (hempty | hlong)
    · exact hok.1.1 (List.isEmpty_iff.mp hempty)
    · have := hok.1.2
      omega
  · rw [if_neg h]
    obtain ⟨hne, hlen⟩ := not_or.mp h
    exact ⟨fun hok => ⟨⟨fun hnil => hne (List.isEmpty_iff.mpr hnil), by omega⟩, Except.ok.inj hok⟩,
      fun hok => congrArg Except.ok hok.2⟩

/-- The labels a query is made from, as bytes. -/
theorem encodeLabels_eq_ok {labels : List Str} {encoded : List Bytes}
    (h : labels.mapM encodeLabel = .ok encoded) :
    encoded.flatten ++ [0] = wire (labels.map Str.bytes) ∧
      ∀ label ∈ labels.map Str.bytes, label ≠ [] ∧ label.length < 192 := by
  rw [mapM_eq_ok] at h
  induction h with
  | nil => exact ⟨rfl, fun _ hmem => absurd hmem List.not_mem_nil⟩
  | @cons label b labels encoded hlabel _ ih =>
    obtain ⟨⟨hne, hlen⟩, rfl⟩ := encodeLabel_eq_ok.mp hlabel
    constructor
    · rw [List.map_cons, wire_cons, ← ih.1, List.flatten_cons, List.append_assoc, Str.length_bytes]
    · intro l hmem
      rcases List.mem_cons.mp hmem with rfl | hmem
      · have hpos := Str.byteLen_pos hne
        rw [← Str.length_bytes] at hpos hlen
        exact ⟨List.length_pos_iff.mp hpos, by omega⟩
      · exact ih.2 l hmem

/-- A query is refused for a label that is empty or too long, and for nothing else. -/
theorem buildQuery_isOk_iff (transaction queryType : UInt16) (name : Str) :
    (∃ packet, buildQuery transaction name queryType = .ok packet) ↔
      ∀ label ∈ name.splitOn '.', 1 ≤ Str.byteLen label ∧ Str.byteLen label ≤ 63 := by
  have hquery : (∃ packet, buildQuery transaction name queryType = .ok packet) ↔
      ∃ encoded, (name.splitOn '.').mapM encodeLabel = .ok encoded := by
    constructor
    · rintro ⟨packet, h⟩
      obtain ⟨encoded, hencoded, -⟩ := except_bind_ok.mp h
      exact ⟨encoded, hencoded⟩
    · rintro ⟨encoded, h⟩
      exact ⟨_, except_bind_ok.mpr ⟨encoded, h, rfl⟩⟩
  rw [hquery, mapM_isOk_iff]
  refine forall₂_congr fun label _ => ?_
  constructor
  · rintro ⟨b, h⟩
    obtain ⟨⟨hne, hlen⟩, -⟩ := encodeLabel_eq_ok.mp h
    exact ⟨Str.byteLen_pos hne, hlen⟩
  · rintro ⟨hpos, hlen⟩
    have hne : label ≠ [] := by
      rintro rfl
      exact absurd hpos (Nat.lt_irrefl 0)
    exact ⟨_, encodeLabel_eq_ok.mpr ⟨⟨hne, hlen⟩, rfl⟩⟩

theorem readName_query {transaction queryType : UInt16} {name : Str} {packet : Bytes}
    (h : buildQuery transaction name queryType = .ok packet) :
    ∃ next, readName packet 12 0 = .ok (next, name) ∧
      packet.drop next = u16ToBe queryType ++ u16ToBe 1 := by
  obtain ⟨encoded, hencoded, hpacket⟩ := except_bind_ok.mp h
  obtain ⟨hwire, hvalid⟩ := encodeLabels_eq_ok hencoded
  have hwritten := written_wire hvalid
    (u16ToBe transaction ++ [0x01, 0x00, 0, 1, 0, 0, 0, 0, 0, 0]) (u16ToBe queryType ++ u16ToBe 1)
  have htext : nameText ((name.splitOn '.').map Str.bytes) = name := by
    unfold nameText joinLabels
    have hid : Str.fromUtf8Lossy ∘ Str.bytes = id := funext Str.fromUtf8Lossy_bytes
    rw [List.map_map, hid, List.map_id]
    exact List.intercalate_splitOn '.'
  have hbytes : packet = u16ToBe transaction ++ [0x01, 0x00, 0, 1, 0, 0, 0, 0, 0, 0] ++
      wire ((name.splitOn '.').map Str.bytes) ++ (u16ToBe queryType ++ u16ToBe 1) := by
    rw [← hwire, ← List.append_assoc, ← List.append_assoc]
    exact (Except.ok.inj hpacket).symm
  have hread := readName_written hwritten (Nat.zero_le 16)
  rw [← hbytes, htext] at hread
  refine ⟨_, hread, ?_⟩
  rw [hbytes, ← List.length_append, List.drop_left]

/-! ## The codec -/

/-- The reader is safe on every input, reads the name of every query back, and resolves
compression.  There is a query for every name whose labels have 1 to 63 bytes. -/
theorem dns_codec (bytes : Bytes) :
    (∀ transaction queryType, Safe (parseResponse transaction queryType bytes)) ∧
      (∀ offset depth, Meets (fun r => r.1 ≤ bytes.length) (readName bytes offset depth)) ∧
      (∀ transaction queryType name,
        (∃ packet, buildQuery transaction name queryType = .ok packet) ↔
          ∀ label ∈ name.splitOn '.', 1 ≤ Str.byteLen label ∧ Str.byteLen label ≤ 63) ∧
      (∀ transaction name queryType packet, buildQuery transaction name queryType = .ok packet →
        ∃ next, readName packet 12 0 = .ok (next, name) ∧
          packet.drop next = u16ToBe queryType ++ u16ToBe 1) ∧
      ∀ offset labels pointers next, Written bytes offset labels pointers next → pointers ≤ 16 →
        readName bytes offset 0 = .ok (next, nameText labels) ∧
          readName (wire labels) 0 0 = .ok ((wire labels).length, nameText labels) := by
  refine ⟨fun transaction queryType => safe_parseResponse transaction queryType bytes,
    fun offset depth => meets_readName bytes offset depth, buildQuery_isOk_iff, ?_, ?_⟩
  · intro transaction name queryType packet h
    exact readName_query h
  · intro offset labels pointers next h hpointers
    exact ⟨readName_written h hpointers, readName_wire h⟩

end NetworkLantern.Path
