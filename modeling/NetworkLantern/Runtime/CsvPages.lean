import NetworkLantern.Runtime.AtomicFile
import NetworkLantern.Runtime.Paging

/-!
# CSV reports

A CSV report is read whole, within limits on its rows, cells and representation, or
streamed in pages.  The pages are windows of what the full read returns: followed from
offset 0 they show every row once and in order (`csv_pages`).
-/

namespace NetworkLantern.Runtime.Reports

open NetworkLantern

def CSV_COLUMN_LIMIT : Nat := 256
def CSV_ROW_LIMIT : Nat := 256 * 1024
def CSV_FULL_ROW_LIMIT : Nat := 100000
def CSV_FULL_CELL_LIMIT : Nat := 1000000

abbrev StringRecord := List Str

/-- `record.as_slice().len()`: the bytes of the fields. -/
def StringRecord.sliceLen (record : StringRecord) : Nat := (record.map Str.byteLen).sum

/-- What the `csv` crate makes of a file behind its byte order mark: the headers, and what
one `read_record` after the other returns up to the end.  An error is its text. -/
structure CsvReader where
  headers : Except Str StringRecord
  records : List (Except Str StringRecord)

def invalidCsv (error : Str) : Error := .validation ("Invalid CSV: ".toList ++ error)

def validateCsvHeaders (headers : StringRecord) : Except Error Unit := do
  refuse (headers.isEmpty || decide (CSV_COLUMN_LIMIT < headers.length) ||
      headers.any (·.isEmpty) || !decide headers.Nodup)
    (.validation "CSV requires 1–256 unique nonempty column names")
  refuse (CSV_ROW_LIMIT < headers.sliceLen) (.validation "CSV header exceeds 256 KiB")

/-- The file is what `read_bounded` makes of it. -/
def openCsv (file : Except Error CsvReader) :
    Except Error (StringRecord × List (Except Str StringRecord)) := do
  let reader ← file
  let headers ← reader.headers.mapError invalidCsv
  validateCsvHeaders headers
  return (headers, reader.records)

section
variable [Json.FloatText]

def csvRecordValue (headers record : StringRecord) : Except Error (Json × Nat) := do
  refuse (CSV_ROW_LIMIT < record.sliceLen) (.validation "CSV row exceeds 256 KiB")
  let value := .ofFields ((headers.zip record).map fun (header, cell) => (header, .string cell))
  let size := value.size
  refuse (CSV_ROW_LIMIT < size)
    (.validation "CSV row exceeds 256 KiB when represented as report data")
  return (value, size)

def checkFullCsvLimits (rows cells : Nat) : Except Error Unit :=
  refuse (decide (CSV_FULL_ROW_LIMIT < rows) || decide (CSV_FULL_CELL_LIMIT < cells))
    (.validation ("CSV exceeds full-read limits of 100000 rows or 1000000 cells; ".toList ++
      "use runs show --offset/--limit".toList))

def csvReport [Refusals] (data : Json) : Except Error NormalizedReport := do
  let report ← normalize data
  return { report with sourceSchema := "legacy-csv" }

/-- The loop of `read_csv`. -/
def readRows (headers : StringRecord) : List (Except Str StringRecord) → Nat → Nat → Nat →
    Except Error (List Json)
  | [], _, _, _ => .ok []
  | record :: records, rowCount, cellCount, representationBytes => do
    let record ← record.mapError invalidCsv
    let rowCount := saturatingAdd rowCount 1
    let cellCount := saturatingAdd cellCount record.length
    checkFullCsvLimits rowCount cellCount
    let (value, size) ← csvRecordValue headers record
    let representationBytes := representationBytes + size + if 1 < rowCount then 1 else 0
    refuse (USIZE_MAX < representationBytes)
      (.validation "CSV report representation size overflow")
    refuse (REPORT_LIMIT < representationBytes)
      (.validation ("CSV exceeds the 16 MiB full-read representation limit; ".toList ++
        "use runs show --offset/--limit".toList))
    let rows ← readRows headers records rowCount cellCount representationBytes
    return value :: rows

def readCsv [Refusals] (file : Except Error CsvReader) : Except Error NormalizedReport := do
  let (headers, records) ← openCsv file
  csvReport (.array (← readRows headers records 0 0 2))

/-- What a page has taken so far. -/
structure Taken where
  rows : List Json
  responseBytes : Nat
  total : Nat
  responseFull : Bool

/-- A record of the file, while a page is collected. -/
def takeRecord (headers : StringRecord) (offset limit : Nat) (record : StringRecord) (t : Taken) :
    Except Error Taken := do
  if offset ≤ t.total ∧ t.rows.length < limit ∧ t.responseFull = false then
    let (value, size) ← csvRecordValue headers record
    if PAGE_RESPONSE_LIMIT < saturatingAdd t.responseBytes size then
      return { t with responseFull := true, total := saturatingAdd t.total 1 }
    else
      return { t with
        responseBytes := t.responseBytes + size, rows := t.rows ++ [value],
        total := saturatingAdd t.total 1 }
  else do
    refuse (CSV_ROW_LIMIT < record.sliceLen) (.validation "CSV row exceeds 256 KiB")
    return { t with total := saturatingAdd t.total 1 }

/-- The loop of `read_csv_page`. -/
def takeRecords (headers : StringRecord) (offset limit : Nat) :
    List (Except Str StringRecord) → Taken → Except Error Taken
  | [], t => .ok t
  | record :: records, t => do
    let record ← record.mapError invalidCsv
    takeRecords headers offset limit records (← takeRecord headers offset limit record t)

def readCsvPage [Refusals] (file : Except Error CsvReader) (offset limit : UInt64) :
    Except Error Page := do
  let (headers, records) ← openCsv file
  let taken ← takeRecords headers offset.toNat limit.toNat records ⟨[], 0, 0, false⟩
  let metadata ← csvReport (.array [])
  boundedPage metadata taken.rows offset limit (.ofNat taken.total)

/-! ## Rows -/

/-- A record of the file and the row it makes. -/
def Shows (headers : StringRecord) (record : Except Str StringRecord) (value : Json) : Prop :=
  ∃ fields, record = .ok fields ∧ csvRecordValue headers fields = .ok (value, value.size) ∧
    fields.sliceLen ≤ CSV_ROW_LIMIT ∧ value.size ≤ CSV_ROW_LIMIT

theorem csvRecordValue_ok {headers fields : StringRecord} {value : Json} {size : Nat}
    (h : csvRecordValue headers fields = .ok (value, size)) : Shows headers (.ok fields) value := by
  have hvalue := h
  obtain ⟨hslice, h⟩ := refuse_bind_ok.mp h
  obtain ⟨hsize, h⟩ := refuse_bind_ok.mp h
  obtain ⟨rfl, rfl⟩ := Prod.mk.inj (Except.ok.inj h)
  rw [decide_eq_false_iff_not] at hslice hsize
  exact ⟨fields, rfl, hvalue, by omega, by omega⟩

/-- The full read shows every record, in order. -/
theorem readRows_ok {headers : StringRecord} {records : List (Except Str StringRecord)}
    {rowCount cellCount bytes : Nat} {rows : List Json}
    (h : readRows headers records rowCount cellCount bytes = .ok rows)
    (hcount : rowCount ≤ CSV_FULL_ROW_LIMIT) :
    List.Forall₂ (Shows headers) records rows ∧ rowCount + rows.length ≤ CSV_FULL_ROW_LIMIT := by
  induction records generalizing rowCount cellCount bytes rows with
  | nil =>
    cases h
    exact ⟨.nil, hcount⟩
  | cons record records ih =>
    obtain ⟨fields, hfields, h⟩ := except_bind_ok.mp h
    have hrecord := mapError_eq_ok.mp hfields
    obtain ⟨_, hlimits, h⟩ := except_bind_ok.mp h
    obtain ⟨⟨value, size⟩, hvalue, h⟩ := except_bind_ok.mp h
    obtain ⟨-, h⟩ := refuse_bind_ok.mp h
    obtain ⟨-, h⟩ := refuse_bind_ok.mp h
    obtain ⟨rest, hrest, h⟩ := except_bind_ok.mp h
    cases h
    have hnext : saturatingAdd rowCount 1 = rowCount + 1 := by
      unfold saturatingAdd USIZE_MAX
      unfold CSV_FULL_ROW_LIMIT at hcount
      omega
    have hroom : rowCount + 1 ≤ CSV_FULL_ROW_LIMIT := by
      have hfalse := (refuse_eq_ok _ _).mp hlimits
      rw [Bool.or_eq_false_iff, decide_eq_false_iff_not, hnext] at hfalse
      exact Nat.le_of_not_lt hfalse.1
    rw [hnext] at hrest
    obtain ⟨hshows, hlength⟩ := ih hrest hroom
    refine ⟨.cons (hrecord ▸ csvRecordValue_ok hvalue) hshows, ?_⟩
    rw [List.length_cons]
    omega

/-! ## The rows of a page -/

/-- One record, by what it does: it is taken, it fills the page, or it is only counted. -/
theorem takeRecord_shown {headers fields : StringRecord} {offset limit : Nat} {value : Json}
    (hshows : Shows headers (.ok fields) value) (t : Taken) (hcount : t.total < CSV_FULL_ROW_LIMIT)
    (hbytes : t.responseBytes ≤ PAGE_RESPONSE_LIMIT) :
    takeRecord headers offset limit fields t = .ok
      (if offset ≤ t.total ∧ t.rows.length < limit ∧ t.responseFull = false then
        if PAGE_RESPONSE_LIMIT < t.responseBytes + value.size then
          { t with responseFull := true, total := t.total + 1 }
        else
          { t with
            responseBytes := t.responseBytes + value.size, rows := t.rows ++ [value],
            total := t.total + 1 }
      else { t with total := t.total + 1 }) := by
  obtain ⟨_, hfields, hvalue, hslice, hsize⟩ := hshows
  cases hfields
  have hnext : saturatingAdd t.total 1 = t.total + 1 := by
    unfold saturatingAdd USIZE_MAX
    unfold CSV_FULL_ROW_LIMIT at hcount
    omega
  have hsum : saturatingAdd t.responseBytes value.size = t.responseBytes + value.size := by
    unfold saturatingAdd USIZE_MAX
    unfold PAGE_RESPONSE_LIMIT at hbytes
    unfold CSV_ROW_LIMIT at hsize
    omega
  unfold takeRecord
  rw [hnext]
  by_cases hwanted : offset ≤ t.total ∧ t.rows.length < limit ∧ t.responseFull = false
  · rw [if_pos hwanted, if_pos hwanted, hvalue, except_ok_bind]
    dsimp only
    rw [hsum]
    by_cases hbig : PAGE_RESPONSE_LIMIT < t.responseBytes + value.size
    · rw [if_pos hbig, if_pos hbig]
      rfl
    · rw [if_neg hbig, if_neg hbig]
      rfl
  · rw [if_neg hwanted, if_neg hwanted, decide_eq_false (Nat.not_lt.mpr hslice), refuse_false,
      except_ok_bind]
    rfl

/-- What a page takes of the rows that are left: none before its offset, and from there on
those that follow, as long as there is room. -/
structure Takes (offset limit : Nat) (rows : List Json) (t t' : Taken) (k : Nat) : Prop where
  most : k ≤ (rows.drop (offset - t.total)).length
  taken : t'.rows = t.rows ++ (rows.drop (offset - t.total)).take k
  counted : t'.total = t.total + rows.length
  closed : offset ≤ t.total → t.responseFull = true ∨ limit ≤ t.rows.length → k = 0
  first : t.responseFull = false → t.rows.length < limit →
    t.responseBytes + CSV_ROW_LIMIT ≤ PAGE_RESPONSE_LIMIT → offset - t.total < rows.length → 0 < k

theorem takeRecords_ok {headers : StringRecord} {offset limit : Nat}
    {records : List (Except Str StringRecord)} {rows : List Json}
    (hshows : List.Forall₂ (Shows headers) records rows) (t : Taken)
    (hcount : t.total + rows.length ≤ CSV_FULL_ROW_LIMIT)
    (hbytes : t.responseBytes ≤ PAGE_RESPONSE_LIMIT) :
    ∃ t' k, takeRecords headers offset limit records t = .ok t' ∧
      Takes offset limit rows t t' k := by
  induction hshows generalizing t with
  | nil =>
    refine ⟨t, 0, rfl, Nat.zero_le _, ?_, rfl, fun _ _ => rfl, ?_⟩
    · rw [List.take_zero, List.append_nil]
    · intro _ _ _ hlt
      exact absurd hlt (Nat.not_lt_zero _)
  | @cons record value records rows hrecord _ ih =>
    obtain ⟨fields, rfl, hshown⟩ := hrecord
    rw [List.length_cons] at hcount
    have hstep : takeRecords headers offset limit (.ok fields :: records) t =
        (takeRecord headers offset limit fields t >>= takeRecords headers offset limit records) :=
      rfl
    rw [hstep, takeRecord_shown ⟨fields, rfl, hshown⟩ t (by omega) hbytes, except_ok_bind]
    by_cases hwanted : offset ≤ t.total ∧ t.rows.length < limit ∧ t.responseFull = false
    · obtain ⟨hoffset, hlimit, hfull⟩ := hwanted
      have hdrop : (value :: rows).drop (offset - t.total) = value :: rows := by
        rw [Nat.sub_eq_zero_of_le hoffset]
        rfl
      have hdrop' : rows.drop (offset - (t.total + 1)) = rows := by
        rw [Nat.sub_eq_zero_of_le (Nat.le_succ_of_le hoffset)]
        rfl
      rw [if_pos ⟨hoffset, hlimit, hfull⟩]
      by_cases hbig : PAGE_RESPONSE_LIMIT < t.responseBytes + value.size
      · rw [if_pos hbig]
        obtain ⟨t', k, hrun, htakes⟩ := ih
          { t with responseFull := true, total := t.total + 1 } (by dsimp only; omega) hbytes
        obtain rfl := htakes.closed (Nat.le_succ_of_le hoffset) (.inl rfl)
        refine ⟨t', 0, hrun, Nat.zero_le _, htakes.taken, ?_, fun _ _ => rfl, ?_⟩
        · rw [htakes.counted, List.length_cons]
          dsimp only
          omega
        · intro _ _ hroom _
          have hsize := hshown.2.2
          omega
      · rw [if_neg hbig]
        obtain ⟨t', k, hrun, htakes⟩ := ih
          { t with
            responseBytes := t.responseBytes + value.size, rows := t.rows ++ [value],
            total := t.total + 1 } (by dsimp only; omega) (Nat.le_of_not_lt hbig)
        have hmost := htakes.most
        have hrows := htakes.taken
        dsimp only at hmost hrows
        rw [hdrop'] at hmost hrows
        refine ⟨t', k + 1, hrun, ?_, ?_, ?_, ?_, fun _ _ _ _ => Nat.succ_pos k⟩
        · rw [hdrop]
          exact Nat.succ_le_succ hmost
        · rw [hdrop, hrows, List.append_assoc]
          rfl
        · rw [htakes.counted, List.length_cons]
          dsimp only
          omega
        · rintro - (hfalse | hle)
          · rw [hfull] at hfalse
            cases hfalse
          · exact absurd hlimit (Nat.not_lt.mpr hle)
    · rw [if_neg hwanted]
      obtain ⟨t', k, hrun, htakes⟩ := ih { t with total := t.total + 1 } (by dsimp only; omega) hbytes
      have htotal : t'.total = t.total + (value :: rows).length := by
        rw [htakes.counted, List.length_cons]
        dsimp only
        omega
      by_cases hoffset : offset ≤ t.total
      · have hclosed : t.responseFull = true ∨ limit ≤ t.rows.length := by
          by_contra hopen
          rw [not_or, Bool.not_eq_true, Nat.not_le] at hopen
          exact hwanted ⟨hoffset, hopen.2, hopen.1⟩
        obtain rfl := htakes.closed (Nat.le_succ_of_le hoffset) hclosed
        refine ⟨t', 0, hrun, Nat.zero_le _, htakes.taken, htotal, fun _ _ => rfl, ?_⟩
        intro hfull hlimit
        exact absurd ⟨hoffset, hlimit, hfull⟩ hwanted
      · have hdrop : (value :: rows).drop (offset - t.total) =
            rows.drop (offset - (t.total + 1)) := by
          rw [show offset - t.total = offset - (t.total + 1) + 1 by omega, List.drop_succ_cons]
        refine ⟨t', k, hrun, ?_, ?_, htotal, fun hle => absurd hle hoffset, ?_⟩
        · rw [hdrop]
          exact htakes.most
        · rw [hdrop]
          exact htakes.taken
        · intro hfull hlimit hroom hlt
          rw [List.length_cons] at hlt
          exact htakes.first hfull hlimit hroom (by dsimp only; omega)

/-! ## The pages of a report -/

variable [Refusals]

/-- What a page shows of a CSV report beside its rows. -/
def csvMetadata (data : Json) : NormalizedReport where
  provenance := legacyProvenance
  timestamp := none
  status := none
  total := none
  failed := none
  elapsedSeconds := none
  sourceSchema := "legacy-csv"
  data

omit [Json.FloatText] in
theorem csvReport_array (rows : List Json) :
    csvReport (.array rows) = .ok (csvMetadata (.array rows)) := rfl

omit [Refusals] in
theorem size_csvMetadata (data : Json) :
    { csvMetadata data with data := Json.null }.toValue.size = 181 := by
  have hfields : { csvMetadata data with data := Json.null }.toValue =
      .object
        [("data", .null), ("elapsed_seconds", .null), ("failed", .null),
         ("provenance", .object [("engine", .string "legacy"), ("os", .null), ("version", .null)]),
         ("source_schema", .string "legacy-csv"), ("status", .null), ("timestamp", .null),
         ("total", .null)] := rfl
  have hkeys : (Json.quote "data").byteLen = 6 ∧ (Json.quote "elapsed_seconds").byteLen = 17 ∧
      (Json.quote "failed").byteLen = 8 ∧ (Json.quote "provenance").byteLen = 12 ∧
      (Json.quote "engine").byteLen = 8 ∧ (Json.quote "legacy").byteLen = 8 ∧
      (Json.quote "os").byteLen = 4 ∧ (Json.quote "version").byteLen = 9 ∧
      (Json.quote "source_schema").byteLen = 15 ∧ (Json.quote "legacy-csv").byteLen = 12 ∧
      (Json.quote "status").byteLen = 8 ∧ (Json.quote "timestamp").byteLen = 11 ∧
      (Json.quote "total").byteLen = 7 := by decide
  obtain ⟨h1, h2, h3, h4, h5, h6, h7, h8, h9, h10, h11, h12, h13⟩ := hkeys
  rw [hfields]
  simp only [Json.size_object, List.map_cons, List.map_nil, List.sum_cons, List.sum_nil,
    List.length_cons, List.length_nil, Json.entrySize, Json.size_null, Json.size_string, h1, h2,
    h3, h4, h5, h6, h7, h8, h9, h10, h11, h12, h13]
  rfl

omit [Refusals] in
/-- A row of a CSV report fits in a page of its own. -/
theorem fits_csvRow (data : Json) (offset limit total : UInt64) {row : Json}
    (h : row.size ≤ CSV_ROW_LIMIT) :
    fits (pageOf (csvMetadata data) offset limit total [row]) = true := by
  have hsize := size_pageOf (csvMetadata data) offset limit total [row]
  have hoffset := byteLen_decimal_le_u64 offset
  have hlimit := byteLen_decimal_le_u64 limit
  have htotal := byteLen_decimal_le_u64 total
  have hnext : (decimal (min (offset.toNat + [row].length) total.toNat)).byteLen ≤ 20 :=
    (byteLen_decimal_mono (Nat.min_le_right _ _)).trans htotal
  have hbool : (if nextOffset offset total [row].length < total then 4 else 5) ≤ 5 := by
    split
    · exact Nat.le_succ 4
    · exact Nat.le_refl 5
  unfold CSV_ROW_LIMIT at h
  unfold fits PAGE_RESPONSE_LIMIT
  rw [decide_eq_true_eq, hsize, size_csvMetadata, Json.size_array]
  simp only [List.map_cons, List.map_nil, List.sum_cons, List.sum_nil, List.length_singleton]
    at hnext hbool ⊢
  omega

/-- What a page of a CSV report is: some of the rows from its offset on, and one at least
where one is left. -/
theorem readCsvPage_window {file : Except Error CsvReader} {headers : StringRecord}
    {records : List (Except Str StringRecord)} {rows : List Json}
    (hopen : openCsv file = .ok (headers, records))
    (hshows : List.Forall₂ (Shows headers) records rows)
    (hcount : rows.length ≤ CSV_FULL_ROW_LIMIT) (offset : UInt64) {limit : UInt64}
    (hlimit : limit ≠ 0) :
    ∃ k, k ≤ (rows.drop offset.toNat).length ∧ (offset.toNat < rows.length → 0 < k) ∧
      readCsvPage file offset limit = .ok (pageOf (csvMetadata (.array [])) offset limit
        (.ofNat rows.length) ((rows.drop offset.toNat).take k)) := by
  have hstart : (⟨[], 0, 0, false⟩ : Taken).total + rows.length ≤ CSV_FULL_ROW_LIMIT :=
    (Nat.zero_add _).trans_le hcount
  obtain ⟨taken, n, hrun, htakes⟩ := @takeRecords_ok _ headers offset.toNat limit.toNat records rows
    hshows ⟨[], 0, 0, false⟩ hstart (Nat.zero_le _)
  have hmost := htakes.most
  have htaken := htakes.taken
  have hcounted := htakes.counted
  have hpos : 0 < limit.toNat :=
    Nat.pos_of_ne_zero fun hzero => hlimit (UInt64.toNat_inj.mp hzero)
  have hroom : 0 + CSV_ROW_LIMIT ≤ PAGE_RESPONSE_LIMIT := by
    unfold CSV_ROW_LIMIT PAGE_RESPONSE_LIMIT
    omega
  have hfirst := htakes.first rfl hpos hroom
  dsimp only at hmost htaken hcounted hfirst
  rw [Nat.sub_zero] at hmost htaken hfirst
  rw [List.nil_append] at htaken
  rw [Nat.zero_add] at hcounted
  have hlength : taken.rows.length = n := by
    rw [htaken, List.length_take]
    exact Nat.min_eq_left hmost
  have hpage : readCsvPage file offset limit =
      boundedPage (csvMetadata (.array [])) taken.rows offset limit (.ofNat rows.length) := by
    unfold readCsvPage
    rw [hopen, except_ok_bind]
    dsimp only
    rw [hrun, except_ok_bind, csvReport_array, except_ok_bind, hcounted]
  have hempty : fits (pageOf (csvMetadata (.array [])) offset limit (.ofNat rows.length) []) =
      true := by
    have hnull := fits_csvRow (.array []) offset limit (.ofNat rows.length)
      (show Json.null.size ≤ CSV_ROW_LIMIT by unfold CSV_ROW_LIMIT; rw [Json.size_null]; omega)
    exact @fits_take_mono _ _ offset limit _ [.null] 0 1 (Nat.zero_le 1) (Nat.le_refl 1) hnull
  obtain ⟨page, hshrunk⟩ := shrink_produced taken.rows hempty taken.rows.length
  obtain ⟨k, hk, rfl, -, hlast⟩ := shrink_ok hshrunk
  rw [hlength] at hk hlast
  refine ⟨k, hk.trans hmost, fun hleft => ?_, ?_⟩
  · -- a page cut down to no rows would have stopped at its first row
    by_contra hzero
    have hone := hlast 1 (by omega) (hfirst hleft)
    rcases hrows : taken.rows with _ | ⟨row, rest⟩
    · rw [hrows, List.length_nil] at hlength
      exact absurd (hfirst hleft) (by omega)
    · have hmem : row ∈ rows := by
        apply List.mem_of_mem_drop
        apply List.mem_of_mem_take
        rw [← htaken, hrows]
        exact List.mem_cons_self
      obtain ⟨_, -, _, -, -, -, hsize⟩ := exists_of_forall₂ hshows.flip row hmem
      rw [hrows, List.take_succ_cons, List.take_zero, fits_csvRow _ _ _ _ hsize] at hone
      cases hone
  · rw [hpage]
    have htake : taken.rows.take k = (rows.drop offset.toNat).take k := by
      rw [htaken, List.take_take, Nat.min_eq_left hk]
    rw [← htake]
    exact hshrunk

omit [Json.FloatText] [Refusals] in
theorem window_eq_map (rows : List Json) {offset k : Nat} (h : k ≤ (rows.drop offset).length) :
    (rows.drop offset).take k = (List.range' offset k).map fun i => rows.getD i .null := by
  apply List.ext_getElem
  · rw [List.length_map, List.length_range', List.length_take_of_le h]
  · intro i h1 h2
    rw [List.length_take_of_le h] at h1
    rw [List.length_drop] at h
    have hlt : offset + i < rows.length := by omega
    rw [List.getElem_take, List.getElem_drop, List.getElem_map, List.getElem_range', Nat.one_mul,
      List.getD_eq_getElem?_getD, List.getElem?_eq_getElem hlt, Option.getD_some]

/-- Where the full read of a CSV report succeeds, so does every page.  All pages have the
number of rows as their total, and move on where a row is left.  Followed from offset 0,
their rows are those of the full read, in order. -/
theorem csv_pages {file : Except Error CsvReader} {report : NormalizedReport}
    (h : readCsv file = .ok report) {limit : UInt64} (hlimit : limit ≠ 0) :
    ∃ rows, report.data = .array rows ∧
      (∀ offset, ∃ page, readCsvPage file offset limit = .ok page) ∧
      (∀ offset page, readCsvPage file offset limit = .ok page →
        page.total.toNat = rows.length ∧ (offset < page.total → offset < page.nextOffset)) ∧
      ∃ pages, Cursor.Follows (fun n => readCsvPage file (.ofNat n) limit) Page.next 0 pages ∧
        pages.flatMap Page.rows = rows := by
  obtain ⟨⟨headers, records⟩, hopen, h⟩ := except_bind_ok.mp h
  obtain ⟨rows, hrows, h⟩ := except_bind_ok.mp h
  rw [csvReport_array] at h
  cases h
  obtain ⟨hshows, hcount⟩ := readRows_ok hrows (Nat.zero_le _)
  rw [Nat.zero_add] at hcount
  have htotal : (UInt64.ofNat rows.length).toNat = rows.length := by
    apply UInt64.toNat_ofNat_of_lt'
    unfold CSV_FULL_ROW_LIMIT at hcount
    unfold UInt64.size
    omega
  have hwindow := fun offset => readCsvPage_window hopen hshows hcount offset hlimit
  refine ⟨rows, rfl, fun offset => ?_, fun offset page hpage => ?_, ?_⟩
  · obtain ⟨k, -, -, hpage⟩ := hwindow offset
    exact ⟨_, hpage⟩
  · obtain ⟨k, hk, hpos, hwindow⟩ := hwindow offset
    rw [hwindow] at hpage
    cases hpage
    refine ⟨htotal, fun hlt => ?_⟩
    have hlt' : offset.toNat < rows.length := htotal ▸ UInt64.lt_iff_toNat_lt.mp hlt
    have hone := hpos hlt'
    show offset < nextOffset offset (.ofNat rows.length) ((rows.drop offset.toNat).take k).length
    rw [UInt64.lt_iff_toNat_lt, toNat_nextOffset, htotal, List.length_take_of_le hk]
    omega
  · have hrange : ∀ n p, readCsvPage file (.ofNat n) limit = .ok p →
        p.rows = p.indices.map fun i => rows.getD i .null := by
      intro n p hp
      obtain ⟨k, hk, -, hwindow⟩ := hwindow (.ofNat n)
      rw [hwindow] at hp
      cases hp
      show (rows.drop _).take k = (List.range' _ ((rows.drop _).take k).length).map _
      rw [List.length_take_of_le hk]
      exact window_eq_map rows hk
    obtain ⟨pages, hfollows, hflat⟩ := @Cursor.exists_follows _ _
      (fun n => readCsvPage file (.ofNat n) limit) Page.next Page.indices rows.length
      (fun n hn => by
        have hn64 : (UInt64.ofNat n).toNat = n :=
          UInt64.toNat_ofNat_of_lt' (Nat.lt_of_le_of_lt (hn.trans hcount) (by decide))
        obtain ⟨k, hk, hpos, hpage⟩ := hwindow (.ofNat n)
        have hlength := List.length_take_of_le hk
        have hcovers := @covers_pageOf (csvMetadata (.array [])) (.ofNat n) limit
          (.ofNat rows.length) ((rows.drop (UInt64.ofNat n).toNat).take k)
          (by rw [hlength, htotal]; exact hk.trans_eq (List.length_drop))
          (fun hlt => by
            rw [UInt64.lt_iff_toNat_lt, htotal] at hlt
            exact (hpos hlt).trans_eq hlength.symm)
        rw [htotal, hn64] at hcovers
        rw [hn64] at hpage
        exact ⟨_, hpage, hcovers⟩) 0 (Nat.zero_le _)
    refine ⟨pages, hfollows, ?_⟩
    have hpages : pages.flatMap Page.rows =
        (pages.flatMap Page.indices).map fun i => rows.getD i .null := by
      rw [List.map_flatMap]
      exact List.flatMap_congr (hfollows.forall_mem hrange)
    rw [hpages, hflat, Nat.sub_zero, ← window_eq_map rows (Nat.le_refl rows.length)]
    exact List.take_length

end

/-- `id` over `1` and `2`. -/
def twoRecords : CsvReader := ⟨.ok ["id"], [.ok ["1"], .ok ["2"]]⟩

theorem csv_pages_two :
    ∃ pages, Cursor.Follows (fun n => @readCsvPage plainFloatText plainRefusals (.ok twoRecords)
        (.ofNat n) 1) Page.next 0 pages ∧
      pages.flatMap Page.rows =
        [.object [("id", .string "1")], .object [("id", .string "2")]] := by
  have hread : @readCsv plainFloatText plainRefusals (.ok twoRecords) =
      .ok (csvMetadata (.array [.object [("id", .string "1")], .object [("id", .string "2")]])) :=
    rfl
  obtain ⟨rows, hrows, -, -, hpages⟩ :=
    @csv_pages plainFloatText plainRefusals _ _ hread 1 (by decide)
  cases hrows
  exact hpages

end NetworkLantern.Runtime.Reports
