import NetworkLantern.Lib.Csv

/-!
# A CSV writer and reader

`scanCsv` quotes a field that has a separator, a quote or a line break in it, and
reads one character after the other.  It is lossless (`scanCsv_lossless`).
-/

namespace NetworkLantern

namespace CsvScan

/-! ## Writing -/

def special (c : Char) : Bool := c = ',' || c = '"' || c = '\n' || c = '\r'

def quote (field : Str) : Str := field.flatMap fun c => if c = '"' then ['"', '"'] else [c]

def encodeField (field : Str) : Str :=
  if field.any special then '"' :: quote field ++ ['"'] else field

def encodeRecord : List Str → Str
  | [] => ['\n']
  | [field] => encodeField field ++ ['\n']
  | field :: fields => encodeField field ++ ',' :: encodeRecord fields

/-- Bytes of a written field: where it needs quotes, two of them and a second one for each
quote in it. -/
def fieldSize (field : Str) : Nat :=
  if field.any special then field.byteLen + field.count '"' + 2 else field.byteLen

/-- Bytes of a written record, with a comma or a line feed behind each field. -/
def recordSize (record : List Str) : Nat := (record.map fun field => fieldSize field + 1).sum

/-! ## Reading -/

/-- Where the reader is: before a field, in a plain or a quoted one, or behind a quote in
a quoted one. -/
inductive Mode
  | start
  | plain (field : Str)
  | quoted (field : Str)
  | closing (field : Str)

/-- What a separator or a line break ends. -/
def finish (c : Char) (record : List Str) (rest : List Str → List (List Str)) : List (List Str) :=
  if c = ',' then rest record else record :: rest []

def scan : Mode → List Str → Str → List (List Str)
  | .start, [], [] => []
  | .start, record, [] => [record ++ [[]]]
  | .start, record, c :: cs =>
    if c = '"' then scan (.quoted []) record cs
    else if c = ',' ∨ c = '\n' then finish c (record ++ [[]]) fun r => scan .start r cs
    else scan (.plain [c]) record cs
  | .plain field, record, [] => [record ++ [field]]
  | .plain field, record, c :: cs =>
    if c = ',' ∨ c = '\n' then finish c (record ++ [field]) fun r => scan .start r cs
    else scan (.plain (field ++ [c])) record cs
  | .quoted field, record, [] => [record ++ [field]]
  | .quoted field, record, c :: cs =>
    if c = '"' then scan (.closing field) record cs else scan (.quoted (field ++ [c])) record cs
  | .closing field, record, [] => [record ++ [field]]
  | .closing field, record, c :: cs =>
    if c = '"' then scan (.quoted (field ++ ['"'])) record cs
    else if c = ',' ∨ c = '\n' then finish c (record ++ [field]) fun r => scan .start r cs
    else scan (.plain (field ++ [c])) record cs

/-- Records of another length than the first are errors. -/
def checkLengths (records : List (List Str)) : List (Except Str (List Str)) :=
  records.map fun record =>
    if some record.length = records.head?.map List.length then .ok record
    else .error "found record with a different number of fields"

end CsvScan

def scanCsv : CsvFormat where
  write records := Str.bytes (records.flatMap CsvScan.encodeRecord)
  read bytes :=
    match Str.fromUtf8 bytes with
    | some text => CsvScan.checkLengths (CsvScan.scan .start [] text)
    | none => [.error "invalid UTF-8"]
  describe
    | .unknownField name => "unknown field ".toList ++ name
    | .duplicateField name => "duplicate field ".toList ++ name
    | .missingField name => "missing field ".toList ++ name
    | .value message => message

namespace CsvScan

/-! ## One field -/

theorem scan_plain {field rest : Str} (h : ∀ c ∈ field, special c = false) (front : Str)
    (record : List Str) :
    scan (.plain front) record (field ++ rest) = scan (.plain (front ++ field)) record rest := by
  induction field generalizing front with
  | nil => simp
  | cons c field ih =>
    have hc := h c List.mem_cons_self
    simp only [special, Bool.or_eq_false_iff, decide_eq_false_iff_not] at hc
    rw [List.cons_append, scan, if_neg (by tauto),
      ih (fun d hd => h d (List.mem_cons_of_mem c hd)), List.append_assoc]
    rfl

theorem scan_quoted (field rest front : Str) (record : List Str) :
    scan (.quoted front) record (quote field ++ '"' :: rest) =
      scan (.closing (front ++ field)) record rest := by
  induction field generalizing front with
  | nil => simp [quote, scan]
  | cons c field ih =>
    have hq : quote (c :: field) = (if c = '"' then ['"', '"'] else [c]) ++ quote field := rfl
    rw [hq]
    by_cases hc : c = '"'
    · rw [if_pos hc]
      show scan (.quoted front) record ('"' :: '"' :: (quote field ++ '"' :: rest)) = _
      rw [scan, if_pos rfl, scan, if_pos rfl, ih, hc, List.append_assoc]
      rfl
    · rw [if_neg hc]
      show scan (.quoted front) record (c :: (quote field ++ '"' :: rest)) = _
      rw [scan, if_neg hc, ih, List.append_assoc]
      rfl

/-- A written field up to its separator or line break. -/
theorem scan_field {c : Char} (hc : c = ',' ∨ c = '\n') (field rest : Str) (record : List Str) :
    scan .start record (encodeField field ++ c :: rest) =
      finish c (record ++ [field]) fun r => scan .start r rest := by
  have hquote : c ≠ '"' := by rcases hc with rfl | rfl <;> decide
  unfold encodeField
  split
  · show scan .start record ('"' :: (quote field ++ ['"'] ++ c :: rest)) = _
    rw [scan.eq_def]
    simp only [if_true, List.append_assoc, List.cons_append, List.nil_append]
    rw [scan_quoted, List.nil_append, scan, if_neg hquote, if_pos hc]
  · next hs =>
    have hs : ∀ d ∈ field, special d = false := by simpa using hs
    cases field with
    | nil =>
      show scan .start record (c :: rest) = _
      rw [scan.eq_def]
      simp only [if_neg hquote, if_pos hc]
    | cons d field =>
      have hd := hs d List.mem_cons_self
      simp only [special, Bool.or_eq_false_iff, decide_eq_false_iff_not] at hd
      show scan .start record (d :: (field ++ c :: rest)) = _
      rw [scan.eq_def]
      simp only [if_neg hd.1.1.2]
      rw [if_neg (by tauto), scan_plain (fun e he => hs e (List.mem_cons_of_mem d he)), scan,
        if_pos hc]
      rfl

theorem scan_record {fields : List Str} (h : fields ≠ []) (rest : Str) (record : List Str) :
    scan .start record (encodeRecord fields ++ rest) = (record ++ fields) :: scan .start [] rest := by
  induction fields generalizing record with
  | nil => exact absurd rfl h
  | cons field fields ih =>
    cases fields with
    | nil =>
      show scan .start record (encodeField field ++ ['\n'] ++ rest) = _
      rw [List.append_assoc]
      exact scan_field (Or.inr rfl) field rest record
    | cons next fields =>
      show scan .start record (encodeField field ++ ',' :: encodeRecord (next :: fields) ++ rest) = _
      rw [List.append_assoc]
      refine (scan_field (Or.inl rfl) field _ record).trans ?_
      show scan .start (record ++ [field]) (encodeRecord (next :: fields) ++ rest) = _
      rw [ih (List.cons_ne_nil _ _), List.append_assoc]
      rfl

theorem scan_records {records : List (List Str)} (h : ∀ record ∈ records, record ≠ []) :
    scan .start [] (records.flatMap encodeRecord) = records := by
  induction records with
  | nil => rfl
  | cons record records ih =>
    rw [List.flatMap_cons, scan_record (h record List.mem_cons_self),
      ih fun r hr => h r (List.mem_cons_of_mem record hr), List.nil_append]

end CsvScan

theorem scanCsv_roundTrip (header : List Str) (rows : List (List Str)) (hh : PlainHeader header)
    (hl : ∀ row ∈ rows, row.length = header.length) :
    scanCsv.read (scanCsv.write (header :: rows)) = (header :: rows).map .ok := by
  have hne : ∀ record ∈ header :: rows, record ≠ [] := by
    have hpos := hh.1
    intro record hr h0
    rcases List.mem_cons.mp hr with rfl | hr
    · rw [h0] at hpos; cases hpos
    · have := hl record hr
      rw [h0, List.length_nil] at this
      omega
  show (match Str.fromUtf8 (Str.bytes _) with | some text => _ | none => _) = _
  rw [Str.fromUtf8_bytes]
  show CsvScan.checkLengths (CsvScan.scan .start [] _) = _
  rw [CsvScan.scan_records hne]
  unfold CsvScan.checkLengths
  refine List.map_congr_left fun record hr => if_pos ?_
  rcases List.mem_cons.mp hr with rfl | hr
  · rfl
  · simp [hl record hr]

theorem scanCsv_lossless : scanCsv.Lossless where
  roundTrip := scanCsv_roundTrip
  empty := rfl

/-! ## Sizes -/

/-- A library that quotes the fields that need it, and no others. -/
def CsvFormat.QuotesWhereNeeded (csv : CsvFormat) : Prop :=
  ∀ (header : List Str) (rows : List (List Str)), PlainHeader header →
    (∀ row ∈ rows, row.length = header.length) →
      (csv.write (header :: rows)).length = ((header :: rows).map CsvScan.recordSize).sum

namespace CsvScan

theorem byteLen_quote (field : Str) : (quote field).byteLen = field.byteLen + field.count '"' := by
  induction field with
  | nil => rfl
  | cons c field ih =>
    have hcons : quote (c :: field) = (if c = '"' then ['"', '"'] else [c]) ++ quote field := rfl
    rw [hcons, Str.byteLen_append, ih, Str.byteLen_cons, List.count_cons]
    by_cases h : c = '"'
    · subst h
      rw [if_pos rfl, if_pos (beq_self_eq_true _)]
      show 2 + _ = _
      have hsize : Char.utf8Size '"' = 1 := rfl
      omega
    · rw [if_neg h, if_neg (by simpa using h)]
      show c.utf8Size + 0 + _ = _
      omega

theorem byteLen_encodeField (field : Str) : (encodeField field).byteLen = fieldSize field := by
  unfold encodeField fieldSize
  split
  · rw [List.cons_append, Str.byteLen_cons, Str.byteLen_append, byteLen_quote]
    show 1 + (_ + 1) = _
    omega
  · rfl

theorem byteLen_encodeRecord {record : List Str} (h : record ≠ []) :
    (encodeRecord record).byteLen = recordSize record := by
  induction record with
  | nil => exact absurd rfl h
  | cons field fields ih =>
    by_cases hnil : fields = []
    · subst hnil
      rw [encodeRecord, Str.byteLen_append, byteLen_encodeField]
      rfl
    · rw [encodeRecord.eq_3 _ _ hnil, Str.byteLen_append, Str.byteLen_cons, byteLen_encodeField,
        ih hnil]
      show _ + (1 + _) = fieldSize field + 1 + recordSize fields
      omega

theorem byteLen_lt_recordSize {field : Str} {record : List Str} (h : field ∈ record) :
    field.byteLen < recordSize record := by
  induction record with
  | nil => cases h
  | cons other record ih =>
    have hcons : recordSize (other :: record) = fieldSize other + 1 + recordSize record := rfl
    have hfield : other.byteLen ≤ fieldSize other := by
      unfold fieldSize
      split <;> omega
    rcases List.mem_cons.mp h with rfl | h
    · omega
    · have := ih h
      omega

end CsvScan

theorem scanCsv_quotesWhereNeeded : scanCsv.QuotesWhereNeeded := by
  intro header rows hheader hrows
  have hlen := hheader.1
  have hne : ∀ record ∈ header :: rows, record ≠ [] := by
    rintro record hr rfl
    rcases List.mem_cons.mp hr with he | hr
    · rw [← he] at hlen
      cases hlen
    · rw [← hrows [] hr] at hlen
      cases hlen
  show (Str.bytes ((header :: rows).flatMap CsvScan.encodeRecord)).length = _
  rw [Str.length_bytes]
  generalize header :: rows = records at hne
  induction records with
  | nil => rfl
  | cons record records ih =>
    rw [List.forall_mem_cons] at hne
    rw [List.flatMap_cons, Str.byteLen_append, CsvScan.byteLen_encodeRecord hne.1, ih hne.2,
      List.map_cons, List.sum_cons]

end NetworkLantern
