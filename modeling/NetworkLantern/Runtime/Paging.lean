import NetworkLantern.Lib.Cursor
import NetworkLantern.Lib.JsonSize
import NetworkLantern.Runtime.Reports

/-!
# Report pages

A page holds up to 100 rows of a report, together with its metadata.  Rows are
taken until their texts pass 1 MiB; the page is then cut again, row by row,
until its own text, metadata included, fits in 1 MiB.  A report whose metadata
leaves no room for its next row so gets a page without rows, whose
`next_offset` is its own offset (`longReport_stuck`); it is the only way to
get stuck (`paging_progresses_iff`).
-/

namespace NetworkLantern.Runtime.Reports

open NetworkLantern

def PAGE_RESPONSE_LIMIT : Nat := 1024 * 1024

def USIZE_MAX : Nat := 2 ^ 64 - 1

/-- `a.saturating_add(b)`. -/
def saturatingAdd (a b : Nat) : Nat := min (a + b) USIZE_MAX

structure Page where
  metadata : NormalizedReport
  rows : List Json
  offset : UInt64
  limit : UInt64
  nextOffset : UInt64
  total : UInt64
  hasMore : Bool

def Page.toValue (page : Page) : Json :=
  .ofFields
    [("metadata", page.metadata.toValue), ("rows", .array page.rows),
     ("offset", .ofNat page.offset), ("limit", .ofNat page.limit),
     ("next_offset", .ofNat page.nextOffset), ("total", .ofNat page.total),
     ("has_more", .bool page.hasMore)]

/-- `offset.saturating_add(rows.len()).min(total)`. -/
def nextOffset (offset total : UInt64) (rows : Nat) : UInt64 :=
  .ofNat (min (saturatingAdd offset.toNat rows) total.toNat)

/-- The page that holds the given rows. -/
def pageOf (metadata : NormalizedReport) (offset limit total : UInt64) (rows : List Json) : Page :=
  { metadata := { metadata with data := .null }
    rows, offset, limit, total
    nextOffset := nextOffset offset total rows.length
    hasMore := nextOffset offset total rows.length < total }

section
variable [Json.FloatText]

def fits (page : Page) : Bool := page.toValue.size ≤ PAGE_RESPONSE_LIMIT

/-- The loop of `bounded_page`, with `n` rows left: the last one goes while the page does not
fit. -/
def shrink (pageOf : List Json → Page) (rows : List Json) : Nat → Except Error Page
  | 0 =>
    if fits (pageOf []) then .ok (pageOf [])
    else .error (.validation "Report page metadata exceeds the 1 MiB response limit")
  | n + 1 =>
    if fits (pageOf (rows.take (n + 1))) then .ok (pageOf (rows.take (n + 1)))
    else shrink pageOf rows n

def boundedPage (metadata : NormalizedReport) (rows : List Json) (offset limit total : UInt64) :
    Except Error Page :=
  shrink (pageOf metadata offset limit total) rows rows.length

/-- The rows of a report that is not native. -/
def rowsOf (data : Json) : List Json :=
  (data.asArray.or ((field data ["runs", "results", "measurements"]).bind Json.asArray)).getD []

def badLimit : Error := .validation "Page size must be 1–100"

def page (data : Json) (offset limit : Nat) : Except Error (List Json) := do
  refuse (limit == 0 || decide (100 < limit)) badLimit
  return ((rowsOf data).drop offset).take limit

/-- The summary of a native run, whose records are files of their own. -/
def isNative (path : ReportPath) (original : Json) : Bool :=
  (original.get? "schema_version").any supportedRecordVersion &&
    ((original.get? "run_id").any fun v => v.asStr.isSome) && path.fileName == "summary.json".toList

def measurementFile (path : ReportPath) (index : Nat) : ReportPath :=
  path.sibling ("measurement-".toList ++ eightDigits (index + 1) ++ ".json".toList)

def rowNumber (index : Nat) : Json := .ofNat (.ofNat (index + 1))

/-- The record at an index. -/
def recordAt (files : Files) (path : ReportPath) (original : Json) (index : Nat) :
    Except Error Json :=
  if isNative path original then
    match files.json (measurementFile path index) with
    | .ok value => .ok value
    | .error e => .ok (.ofFields [("error", e.toValue), ("measurement", rowNumber index)])
  else do
    let rows ← page original index 1
    return rows.headD .null

def MAX_ROW : Nat := 256 * 1024

def oversized (index : Nat) : Json :=
  .ofFields
    [("measurement", rowNumber index),
     ("error", .string "Record exceeds desktop row size; inspect or export with the CLI")]

/-- The loop of `read_page` over the indices that are left, with the bytes taken so far. -/
def collectRows (record : Nat → Except Error Json) : List Nat → Nat → Except Error (List Json)
  | [], _ => .ok []
  | index :: rest, bytes => do
    let value ← record index
    if MAX_ROW < value.size then do
      let rows ← collectRows record rest bytes
      return oversized index :: rows
    else if 1024 * 1024 < bytes + value.size then return []
    else do
      let rows ← collectRows record rest (bytes + value.size)
      return value :: rows

/-- The number of rows of a report. -/
def rowCount (path : ReportPath) (report : NormalizedReport) : UInt64 :=
  if isNative path report.data then report.total.getD 0 else .ofNat (rowsOf report.data).length

/-- `offset..offset.saturating_add(limit).min(total)`. -/
def indices (offset limit total : UInt64) : List Nat :=
  .range' offset.toNat (min (saturatingAdd offset.toNat limit.toNat) total.toNat - offset.toNat)

/-- `read_page` on a report that is read whole. -/
def readWhole [Refusals] (files : Files) (path : ReportPath) (offset limit : UInt64) :
    Except Error Page := do
  let report ← read files path
  let total := rowCount path report
  let rows ← collectRows (recordAt files path report.data) (indices offset limit total) 0
  boundedPage report rows offset limit total

/-- `read_page`; the pages of a CSV report are streamed. -/
def readPage [Refusals] (csvPage : ReportPath → UInt64 → UInt64 → Except Error Page) (files : Files)
    (path : ReportPath) (offset limit : UInt64) : Except Error Page := do
  refuse (limit == 0 || 100 < limit) badLimit
  if path.isCsv then csvPage path offset limit else readWhole files path offset limit

/-! ## The size of a page -/

omit [Json.FloatText] in
theorem toNat_nextOffset (offset total : UInt64) (n : Nat) :
    (nextOffset offset total n).toNat = min (offset.toNat + n) total.toNat := by
  have ht := total.toNat_lt
  have hlt : min (min (offset.toNat + n) (2 ^ 64 - 1)) total.toNat < UInt64.size :=
    Nat.lt_of_le_of_lt (Nat.min_le_right _ _) ht
  unfold nextOffset saturatingAdd USIZE_MAX
  rw [UInt64.toNat_ofNat_of_lt' hlt]
  omega

theorem size_pageOf (metadata : NormalizedReport) (offset limit total : UInt64) (rows : List Json) :
    (pageOf metadata offset limit total rows).toValue.size =
      (if nextOffset offset total rows.length < total then 4 else 5) +
        (decimal limit.toNat).byteLen + { metadata with data := Json.null }.toValue.size +
        (decimal (min (offset.toNat + rows.length) total.toNat)).byteLen +
        (decimal offset.toNat).byteLen + (Json.array rows).size +
        (decimal total.toNat).byteLen + 76 := by
  have hfields : (pageOf metadata offset limit total rows).toValue =
      .object
        [("has_more", .bool (nextOffset offset total rows.length < total)), ("limit", .ofNat limit),
         ("metadata", { metadata with data := Json.null }.toValue),
         ("next_offset", .ofNat (nextOffset offset total rows.length)), ("offset", .ofNat offset),
         ("rows", .array rows), ("total", .ofNat total)] := rfl
  have hkeys : (Json.quote "has_more").byteLen = 10 ∧ (Json.quote "limit").byteLen = 7 ∧
      (Json.quote "metadata").byteLen = 10 ∧ (Json.quote "next_offset").byteLen = 13 ∧
      (Json.quote "offset").byteLen = 8 ∧ (Json.quote "rows").byteLen = 6 ∧
      (Json.quote "total").byteLen = 7 := by decide
  obtain ⟨h1, h2, h3, h4, h5, h6, h7⟩ := hkeys
  rw [hfields, Json.size_object]
  simp only [List.map_cons, List.map_nil, List.sum_cons, List.sum_nil, List.length_cons,
    List.length_nil, Json.entrySize, Json.size_bool, Json.size_ofNat, toNat_nextOffset,
    decide_eq_true_eq, h1, h2, h3, h4, h5, h6, h7]
  omega

/-- A page that fits still fits with fewer of its rows. -/
theorem fits_take_mono {metadata : NormalizedReport} {offset limit total : UInt64}
    {rows : List Json} {m n : Nat} (hmn : m ≤ n) (hn : n ≤ rows.length)
    (h : fits (pageOf metadata offset limit total (rows.take n)) = true) :
    fits (pageOf metadata offset limit total (rows.take m)) = true := by
  have hm : (rows.take m).length = m := by rw [List.length_take]; omega
  have hlen : (rows.take n).length = n := by rw [List.length_take]; omega
  have harray := Json.size_array_take_mono rows hmn
  have hdigits : (decimal (min (offset.toNat + m) total.toNat)).byteLen ≤
      (decimal (min (offset.toNat + n) total.toNat)).byteLen :=
    byteLen_decimal_mono (by omega)
  have hbool : (if nextOffset offset total m < total then 4 else 5) ≤
      (if nextOffset offset total n < total then 4 else 5) := by
    have hmore : nextOffset offset total n < total → nextOffset offset total m < total := by
      intro hlt
      rw [UInt64.lt_iff_toNat_lt, toNat_nextOffset] at hlt ⊢
      omega
    by_cases hlt : nextOffset offset total n < total
    · rw [if_pos hlt, if_pos (hmore hlt)]
    · rw [if_neg hlt]
      split
      · exact Nat.le_succ 4
      · exact Nat.le_refl 5
  unfold fits at h ⊢
  rw [decide_eq_true_eq, size_pageOf, hlen] at h
  rw [decide_eq_true_eq, size_pageOf, hm]
  omega

/-! ## The rows of a page -/

theorem shrink_ok {pageOf : List Json → Page} {rows : List Json} {n : Nat} {p : Page}
    (h : shrink pageOf rows n = .ok p) :
    ∃ k ≤ n, p = pageOf (rows.take k) ∧ fits p = true ∧
      ∀ j, k < j → j ≤ n → fits (pageOf (rows.take j)) = false := by
  induction n with
  | zero =>
    unfold shrink at h
    split at h
    · next hfits =>
      cases h
      exact ⟨0, Nat.le_refl 0, rfl, hfits, fun j h1 h2 => absurd h1 (by omega)⟩
    · cases h
  | succ n ih =>
    unfold shrink at h
    split at h
    · next hfits =>
      cases h
      exact ⟨n + 1, Nat.le_refl _, rfl, hfits, fun j h1 h2 => absurd h1 (by omega)⟩
    · next hfits =>
      obtain ⟨k, hk, hp, hfit, hlast⟩ := ih h
      refine ⟨k, by omega, hp, hfit, fun j h1 h2 => ?_⟩
      by_cases hj : j = n + 1
      · rw [hj]
        exact Bool.not_eq_true _ ▸ hfits
      · exact hlast j h1 (by omega)

theorem shrink_produced {pageOf : List Json → Page} (rows : List Json) (h : fits (pageOf []) = true)
    (n : Nat) : ∃ p, shrink pageOf rows n = .ok p := by
  induction n with
  | zero => exact ⟨_, if_pos h⟩
  | succ n ih =>
    by_cases hfits : fits (pageOf (rows.take (n + 1))) = true
    · exact ⟨_, if_pos hfits⟩
    · obtain ⟨p, hp⟩ := ih
      exact ⟨p, (if_neg hfits).trans hp⟩

/-- The row that a page shows for an index. -/
def rowAt (record : Nat → Except Error Json) (index : Nat) : Json :=
  match record index with
  | .ok value => if MAX_ROW < value.size then oversized index else value
  | .error _ => .null

omit [Json.FloatText] in
theorem recordAt_ok (files : Files) (path : ReportPath) (original : Json) (index : Nat) :
    ∃ value, recordAt files path original index = .ok value := by
  unfold recordAt
  split
  · split
    · exact ⟨_, rfl⟩
    · exact ⟨_, rfl⟩
  · exact ⟨_, rfl⟩

/-- The rows taken are those of the first indices, and there is one if there is room for one. -/
theorem collectRows_eq {record : Nat → Except Error Json} (h : ∀ i, ∃ v, record i = .ok v)
    (l : List Nat) (bytes : Nat) :
    ∃ k ≤ l.length, collectRows record l bytes = .ok ((l.take k).map (rowAt record)) ∧
      (bytes + MAX_ROW ≤ 1024 * 1024 → l ≠ [] → 0 < k) := by
  induction l generalizing bytes with
  | nil => exact ⟨0, Nat.le_refl 0, rfl, fun _ hne => absurd rfl hne⟩
  | cons index rest ih =>
    obtain ⟨value, hvalue⟩ := h index
    have hrow : rowAt record index = if MAX_ROW < value.size then oversized index else value := by
      unfold rowAt
      rw [hvalue]
    unfold collectRows
    rw [hvalue, except_ok_bind]
    by_cases hbig : MAX_ROW < value.size
    · obtain ⟨k, hk, hrows, -⟩ := ih bytes
      refine ⟨k + 1, Nat.succ_le_succ hk, ?_, fun _ _ => Nat.succ_pos k⟩
      rw [if_pos hbig, hrows, except_ok_bind, List.take_succ_cons, List.map_cons, hrow, if_pos hbig]
      rfl
    · rw [if_neg hbig]
      by_cases hfull : 1024 * 1024 < bytes + value.size
      · rw [if_pos hfull]
        exact ⟨0, Nat.zero_le _, rfl, fun hroom _ => absurd hfull (by omega)⟩
      · obtain ⟨k, hk, hrows, -⟩ := ih (bytes + value.size)
        refine ⟨k + 1, Nat.succ_le_succ hk, ?_, fun _ _ => Nat.succ_pos k⟩
        rw [if_neg hfull, hrows, except_ok_bind, List.take_succ_cons, List.map_cons, hrow,
          if_neg hbig]
        rfl

omit [Json.FloatText] in
theorem indices_take {offset limit total : UInt64} {k : Nat}
    (hk : k ≤ (indices offset limit total).length) :
    (indices offset limit total).take k = List.range' offset.toNat k := by
  unfold indices at hk ⊢
  rw [List.length_range'] at hk
  exact List.take_range'_of_length_ge hk

/-- The indices that a page shows. -/
def Page.indices (page : Page) : List Nat := .range' page.offset.toNat page.rows.length

/-! ## Progress -/

section
variable [Refusals] {csvPage : ReportPath → UInt64 → UInt64 → Except Error Page} {files : Files}
  {path : ReportPath} {report : NormalizedReport}

/-- The row of an opened report at an index. -/
def row (files : Files) (path : ReportPath) (report : NormalizedReport) (index : Nat) : Json :=
  rowAt (recordAt files path report.data) index

/-- The page that holds only the row at its offset fits. -/
def FirstRowFits (files : Files) (path : ReportPath) (report : NormalizedReport)
    (limit offset : UInt64) : Prop :=
  fits (pageOf report offset limit (rowCount path report) [row files path report offset.toNat]) =
    true

/-- What a page of a report that is read whole is. -/
theorem readPage_ok (hcsv : path.isCsv = false) (hread : read files path = .ok report)
    {offset limit : UInt64} (hlimit : limit ≠ 0) {p : Page}
    (h : readPage csvPage files path offset limit = .ok p) :
    ∃ k, k ≤ (indices offset limit (rowCount path report)).length ∧
      p = pageOf report offset limit (rowCount path report)
        ((List.range' offset.toNat k).map (row files path report)) ∧
      fits p = true ∧
      (offset < rowCount path report → FirstRowFits files path report limit offset → 0 < k) := by
  unfold readPage at h
  obtain ⟨-, h⟩ := refuse_bind_ok.mp h
  rw [hcsv] at h
  change readWhole files path offset limit = .ok p at h
  unfold readWhole at h
  rw [hread, except_ok_bind] at h
  dsimp only at h
  obtain ⟨n, hn, hrows, hfirst⟩ := collectRows_eq (recordAt_ok files path report.data)
    (indices offset limit (rowCount path report)) 0
  rw [hrows, except_ok_bind, indices_take hn] at h
  obtain ⟨k, hk, hp, hfits, hlast⟩ := shrink_ok h
  rw [List.length_map, List.length_range'] at hk hlast
  have htake : ∀ j ≤ n,
      ((List.range' offset.toNat n).map (rowAt (recordAt files path report.data))).take j =
        (List.range' offset.toNat j).map (row files path report) := by
    intro j hj
    rw [← List.map_take, List.take_range'_of_length_ge hj]
    rfl
  rw [htake k hk] at hp
  refine ⟨k, hk.trans hn, hp, hfits, fun hoffset hone => ?_⟩
  -- a page cut down to no rows would have stopped at its first row
  have hne : indices offset limit (rowCount path report) ≠ [] := by
    intro hnil
    have hlen := congrArg List.length hnil
    unfold indices saturatingAdd USIZE_MAX at hlen
    rw [List.length_range', List.length_nil] at hlen
    rw [UInt64.lt_iff_toNat_lt] at hoffset
    have htotal := (rowCount path report).toNat_lt
    have hpos : 0 < limit.toNat := by
      apply Nat.pos_of_ne_zero
      intro hzero
      exact hlimit (UInt64.toNat_inj.mp hzero)
    omega
  have hpos : 0 < n := hfirst (by decide) hne
  by_contra hzero
  have hlt : k < 1 := by omega
  have hfalse := hlast 1 hlt hpos
  rw [htake 1 hpos] at hfalse
  rw [show List.map _ (List.range' offset.toNat 1) = [row files path report offset.toNat] from rfl,
    hone] at hfalse
  cases hfalse

/-! ### Every page moves on -/

/-- A page that announces more moves on. -/
def Advances (fetch : UInt64 → Except Error Page) : Prop :=
  ∀ offset p, fetch offset = .ok p → p.hasMore = true → offset < p.nextOffset

/-- Where to go on after a page. -/
def Page.next (page : Page) : Option Nat :=
  if page.hasMore then some page.nextOffset.toNat else none

/-- Following the pages from offset 0 ends, and shows every row once and in order. -/
def VisitsAll (fetch : UInt64 → Except Error Page) (total : UInt64) (row : Nat → Json) : Prop :=
  (∀ offset p, fetch offset = .ok p → p.total = total ∧ p.rows = p.indices.map row) ∧
    ∃ pages, Cursor.Follows (fun n => fetch (.ofNat n)) Page.next 0 pages ∧
      pages.flatMap Page.indices = List.range total.toNat

/-- The law of paging, for one page size. -/
def Progresses (fetch : UInt64 → Except Error Page) (total : UInt64) (row : Nat → Json) : Prop :=
  Advances fetch ∧ VisitsAll fetch total row

omit [Json.FloatText] [Refusals] in
/-- A page that announces more names the row after its last one. -/
theorem nextOffset_of_hasMore {metadata : NormalizedReport} {offset limit total : UInt64}
    {rows : List Json} (hmore : (pageOf metadata offset limit total rows).hasMore = true) :
    (nextOffset offset total rows.length).toNat = offset.toNat + rows.length ∧
      offset.toNat + rows.length < total.toNat := by
  unfold pageOf at hmore
  rw [decide_eq_true_eq, UInt64.lt_iff_toNat_lt, toNat_nextOffset] at hmore
  rw [toNat_nextOffset]
  omega

omit [Json.FloatText] [Refusals] in
/-- A page with a row covers what lies between its offset and the next one. -/
theorem covers_pageOf {metadata : NormalizedReport} {offset limit total : UInt64} {rows : List Json}
    (hle : rows.length ≤ total.toNat - offset.toNat) (hpos : offset < total → 0 < rows.length) :
    Cursor.Covers Page.next Page.indices total.toNat offset.toNat
      (pageOf metadata offset limit total rows) := by
  by_cases hmore : (pageOf metadata offset limit total rows).hasMore = true
  · obtain ⟨hto, hlt⟩ := nextOffset_of_hasMore hmore
    have hrows := hpos (UInt64.lt_iff_toNat_lt.mpr (by omega))
    refine .inr ⟨offset.toNat + rows.length, ?_, by omega, by omega, ?_⟩
    · unfold Page.next
      rw [if_pos hmore]
      exact congrArg some hto
    · rw [Nat.add_sub_cancel_left]
      rfl
  · have hend : ¬ nextOffset offset total rows.length < total := by
      intro hlt
      exact hmore (decide_eq_true hlt)
    rw [UInt64.lt_iff_toNat_lt, toNat_nextOffset] at hend
    refine .inl ⟨if_neg hmore, ?_⟩
    show List.range' offset.toNat rows.length = _
    rw [show rows.length = total.toNat - offset.toNat by omega]

omit [Json.FloatText] [Refusals] in
theorem indices_length_le (offset limit total : UInt64) :
    (indices offset limit total).length ≤ total.toNat - offset.toNat := by
  unfold indices
  rw [List.length_range']
  omega

theorem total_and_rows (hcsv : path.isCsv = false) (hread : read files path = .ok report)
    {limit : UInt64} (hlimit : limit ≠ 0) {offset : UInt64} {p : Page}
    (h : readPage csvPage files path offset limit = .ok p) :
    p.total = rowCount path report ∧ p.rows = p.indices.map (row files path report) := by
  obtain ⟨k, -, rfl, -⟩ := readPage_ok hcsv hread hlimit h
  refine ⟨rfl, ?_⟩
  unfold Page.indices pageOf
  rw [List.length_map, List.length_range']

/-- Paging makes progress exactly on the reports each of whose rows fits in a page of its own,
next to the metadata. -/
theorem paging_progresses_iff (hcsv : path.isCsv = false) (hread : read files path = .ok report)
    {limit : UInt64} (hlimit : limit ≠ 0)
    (hproduced : ∀ offset, ∃ p, readPage csvPage files path offset limit = .ok p) :
    Progresses (fun offset => readPage csvPage files path offset limit) (rowCount path report)
        (row files path report) ↔
      ∀ offset < rowCount path report, FirstRowFits files path report limit offset := by
  constructor
  · rintro ⟨hadvances, -⟩ offset hoffset
    obtain ⟨p, hp⟩ := hproduced offset
    obtain ⟨k, hk, rfl, hfits, -⟩ := readPage_ok hcsv hread hlimit hp
    have hpos : 0 < k := by
      by_contra hzero
      have hk0 : k = 0 := by omega
      subst hk0
      -- without a row the page would stay where it is
      have hnext : nextOffset offset (rowCount path report) 0 = offset := by
        rw [UInt64.lt_iff_toNat_lt] at hoffset
        apply UInt64.toNat_inj.mp
        rw [toNat_nextOffset]
        omega
      have hstay := hadvances offset _ hp (by
        show decide (nextOffset offset (rowCount path report) 0 < rowCount path report) = true
        rw [hnext]
        exact decide_eq_true hoffset)
      change offset < nextOffset offset (rowCount path report) 0 at hstay
      rw [hnext] at hstay
      exact absurd hstay (UInt64.lt_irrefl _)
    have hlen : ((List.range' offset.toNat k).map (row files path report)).length = k := by
      rw [List.length_map, List.length_range']
    have hone := fits_take_mono (m := 1) (n := k) hpos (Nat.le_of_eq hlen.symm) (by
      rw [List.take_of_length_le (Nat.le_of_eq hlen)]
      exact hfits)
    rw [← List.map_take, List.take_range'_of_length_ge hpos] at hone
    exact hone
  · intro hfirst
    refine ⟨fun offset p hp hmore => ?_, fun offset p hp => total_and_rows hcsv hread hlimit hp, ?_⟩
    · obtain ⟨k, hk, rfl, -, hpos⟩ := readPage_ok hcsv hread hlimit hp
      have hoffset : offset < rowCount path report := by
        obtain ⟨-, hlt⟩ := nextOffset_of_hasMore hmore
        exact UInt64.lt_iff_toNat_lt.mpr (by omega)
      obtain ⟨hto, -⟩ := nextOffset_of_hasMore hmore
      rw [List.length_map, List.length_range'] at hto
      have := hpos hoffset (hfirst offset hoffset)
      show offset < nextOffset offset (rowCount path report) _
      rw [List.length_map, List.length_range', UInt64.lt_iff_toNat_lt, hto]
      omega
    · obtain ⟨pages, hfollows, hflat⟩ := Cursor.exists_follows
        (fun n => readPage csvPage files path (.ofNat n) limit) Page.next Page.indices
        (fun n (hn : n ≤ (rowCount path report).toNat) => by
          have hn64 : (UInt64.ofNat n).toNat = n :=
            UInt64.toNat_ofNat_of_lt' (Nat.lt_of_le_of_lt hn (rowCount path report).toNat_lt)
          obtain ⟨p, hp⟩ := hproduced (.ofNat n)
          obtain ⟨k, hk, rfl, -, hpos⟩ := readPage_ok hcsv hread hlimit hp
          have hlength : ((List.range' (UInt64.ofNat n).toNat k).map
              (row files path report)).length = k := by
            rw [List.length_map, List.length_range']
          have hcovers := @covers_pageOf report (.ofNat n) limit _ _
            (hlength.trans_le (hk.trans (indices_length_le _ limit _)))
            fun hlt => (hpos hlt (hfirst _ hlt)).trans_eq hlength.symm
          rw [hn64] at hcovers hp
          exact ⟨_, hp, hcovers⟩)
        (Nat.zero_le _)
      refine ⟨pages, hfollows, ?_⟩
      rw [hflat, Nat.sub_zero]
      exact List.range_eq_range'.symm

/-- A page can be produced once its metadata fits. -/
theorem readPage_produced (hcsv : path.isCsv = false) (hread : read files path = .ok report)
    {offset limit : UInt64} (hlimit : limit ≠ 0) (hmax : limit ≤ 100)
    (hfits : fits (pageOf report offset limit (rowCount path report) []) = true) :
    ∃ p, readPage csvPage files path offset limit = .ok p := by
  obtain ⟨k, -, hrows, -⟩ := collectRows_eq (recordAt_ok files path report.data)
    (indices offset limit (rowCount path report)) 0
  obtain ⟨p, hp⟩ := shrink_produced (((indices offset limit (rowCount path report)).take
    k).map (rowAt (recordAt files path report.data))) hfits _
  refine ⟨p, ?_⟩
  have hok : (limit == 0 || decide (100 < limit)) = false := by
    rw [Bool.or_eq_false_iff, beq_eq_false_iff_ne, decide_eq_false_iff_not]
    exact ⟨hlimit, UInt64.not_lt.mpr hmax⟩
  unfold readPage
  rw [hok, refuse_false, except_ok_bind, hcsv]
  show readWhole files path offset limit = _
  unfold readWhole
  rw [hread, except_ok_bind]
  dsimp only
  rw [hrows, except_ok_bind]
  exact hp

end

end

/-! ### A report with two records -/

def shortPath : ReportPath := ⟨"reports", "short.json"⟩

/-- `{"provenance": "host", "results": ["reply", null]}`. -/
def shortReport : Json :=
  .ofFields [("provenance", .string "host"), ("results", .array [.string "reply", .null])]

def shortFiles : Files where
  json := fun path => if path = shortPath then .ok shortReport else .error (.validation "No such file")
  text := fun _ => .error (.validation "No such file")
  csv := fun _ => .error (.validation "No such file")

/-- The short report as it is read. -/
def shortRead : NormalizedReport where
  provenance := .string "host"
  timestamp := none
  status := none
  total := none
  failed := none
  elapsedSeconds := none
  sourceSchema := "legacy-path-or-measurements"
  data := shortReport

/-- Nothing is refused, and no float is written. -/
abbrev plainRefusals : Refusals := ⟨fun _ _ => "invalid value"⟩

theorem zeroText_le : Str.byteLen "0.0" ≤ 24 := by decide

abbrev plainFloatText : Json.FloatText where
  text := fun _ => "0.0"
  text_le := fun _ => zeroText_le

def noCsvPage : ReportPath → UInt64 → UInt64 → Except Error Page :=
  fun _ _ _ => .error (.validation "Not a CSV report")

theorem read_shortFiles : @read plainRefusals shortFiles shortPath = .ok shortRead := by
  rfl

theorem rowCount_shortRead : rowCount shortPath shortRead = 2 := by
  rfl

theorem size_shortMetadata :
    @Json.size plainFloatText { shortRead with data := Json.null }.toValue = 160 := by
  decide +kernel

theorem fits_shortPage (offset : UInt64) :
    @fits plainFloatText (pageOf shortRead offset 1 2 []) = true := by
  have hempty : @Json.size plainFloatText (.array []) = 2 := by decide
  have hone : (decimal (UInt64.toNat 1)).byteLen = 1 := by decide
  have htwo : (decimal (UInt64.toNat 2)).byteLen = 1 := by decide
  have hnext : (decimal (min (offset.toNat + 0) (UInt64.toNat 2))).byteLen ≤ (decimal 2).byteLen :=
    byteLen_decimal_mono (Nat.min_le_right _ _)
  have hoffset := byteLen_decimal_le_u64 offset
  have hbool : (if nextOffset offset 2 0 < 2 then 4 else 5) ≤ 5 := by
    split
    · exact Nat.le_succ 4
    · exact Nat.le_refl 5
  have hdigit : (decimal 2).byteLen = 1 := by decide
  have hlimit : 300 ≤ PAGE_RESPONSE_LIMIT := by decide
  unfold fits
  rw [decide_eq_true_eq, @size_pageOf plainFloatText, size_shortMetadata, List.length_nil, hempty,
    hone, htwo]
  omega

/-- A report of two records is paged to its end, with one record a page. -/
theorem paging_progresses_short :
    Progresses (fun offset =>
        @readPage plainFloatText plainRefusals noCsvPage shortFiles shortPath offset 1) 2
      (@row plainFloatText shortFiles shortPath shortRead) := by
  apply (@paging_progresses_iff plainFloatText plainRefusals noCsvPage _ _ _ rfl read_shortFiles 1
    (by decide) (fun offset => @readPage_produced plainFloatText plainRefusals noCsvPage _ _ _ rfl
      read_shortFiles _ _ (by decide) (by decide) (fits_shortPage offset))).mpr
  intro offset hoffset
  rw [rowCount_shortRead, UInt64.lt_iff_toNat_lt] at hoffset
  have htwo : UInt64.toNat 2 = 2 := rfl
  have hcases : offset = 0 ∨ offset = 1 := by
    rcases Nat.lt_or_ge offset.toNat 1 with h | h
    · exact .inl (UInt64.toNat_inj.mp (by rw [UInt64.toNat_zero]; omega))
    · exact .inr (UInt64.toNat_inj.mp (by rw [UInt64.toNat_one]; omega))
  rcases hcases with rfl | rfl
  · unfold FirstRowFits
    decide +kernel
  · unfold FirstRowFits
    decide +kernel

/-! ### A report with long metadata -/

section
variable (n m : Nat)

def longPath : ReportPath := ⟨"reports", "long.json"⟩

/-- `{"provenance": "xx…", "results": ["yy…"]}`. -/
def longReport : Json :=
  .ofFields
    [("provenance", .string (.replicate n 'x')), ("results", .array [.string (.replicate m 'y')])]

def longFiles : Files where
  json := fun path =>
    if path = longPath then .ok (longReport n m) else .error (.validation "No such file")
  text := fun _ => .error (.validation "No such file")
  csv := fun _ => .error (.validation "No such file")

/-- The long report as it is read. -/
def longRead : NormalizedReport where
  provenance := .string (.replicate n 'x')
  timestamp := none
  status := none
  total := none
  failed := none
  elapsedSeconds := none
  sourceSchema := "legacy-path-or-measurements"
  data := longReport n m

theorem read_longFiles : @read plainRefusals (longFiles n m) longPath = .ok (longRead n m) := by
  rfl

theorem rowCount_longRead : rowCount longPath (longRead n m) = 1 := by
  rfl

theorem size_plain (c : Char) (h : Json.Plain c) (h1 : c.toNat ≤ 127) :
    (Json.quote (.replicate n c)).byteLen = n + 2 := by
  rw [Json.byteLen_quote fun d hd => by rw [List.eq_of_mem_replicate hd]; exact h]
  unfold Str.byteLen
  rw [List.map_replicate, List.sum_replicate, Str.utf8Size_eq_one h1]
  simp

theorem size_metadata : @Json.size plainFloatText
    { longRead n m with data := Json.null }.toValue = n + 156 := by
  have hfields : { longRead n m with data := Json.null }.toValue =
      .object
        [("data", .null), ("elapsed_seconds", .null), ("failed", .null),
         ("provenance", .string (.replicate n 'x')),
         ("source_schema", .string "legacy-path-or-measurements"), ("status", .null),
         ("timestamp", .null), ("total", .null)] := rfl
  have hkeys : (Json.quote "data").byteLen = 6 ∧ (Json.quote "elapsed_seconds").byteLen = 17 ∧
      (Json.quote "failed").byteLen = 8 ∧ (Json.quote "provenance").byteLen = 12 ∧
      (Json.quote "source_schema").byteLen = 15 ∧ (Json.quote "status").byteLen = 8 ∧
      (Json.quote "timestamp").byteLen = 11 ∧ (Json.quote "total").byteLen = 7 ∧
      (Json.quote "legacy-path-or-measurements").byteLen = 29 := by decide
  obtain ⟨h1, h2, h3, h4, h5, h6, h7, h8, h9⟩ := hkeys
  have hx := size_plain n 'x' rfl (by decide)
  rw [hfields, @Json.size_object plainFloatText]
  simp only [List.map_cons, List.map_nil, List.sum_cons, List.sum_nil, List.length_cons,
    List.length_nil, Json.entrySize, Json.size_null, Json.size_string, h1, h2, h3, h4, h5, h6, h7,
    h8, h9, hx]
  omega

/-- The page with the long metadata and the given rows. -/
theorem size_longPage (offset limit : UInt64) (rows : List Json) :
    @Json.size plainFloatText (pageOf (longRead n m) offset limit 1 rows).toValue =
      (if nextOffset offset 1 rows.length < 1 then 4 else 5) + (decimal limit.toNat).byteLen +
        (decimal (min (offset.toNat + rows.length) 1)).byteLen + (decimal offset.toNat).byteLen +
        @Json.size plainFloatText (.array rows) + n + 233 := by
  rw [@size_pageOf plainFloatText, size_metadata]
  have htotal : (decimal (UInt64.toNat 1)).byteLen = 1 := by decide
  rw [htotal]
  simp only [UInt64.toNat_one]
  omega

abbrev longPage (offset limit : UInt64) : Except Error Page :=
  @readPage plainFloatText plainRefusals noCsvPage (longFiles n m) longPath offset limit

variable {n m}

theorem longPage_produced (hn : n + 281 ≤ PAGE_RESPONSE_LIMIT) {offset limit : UInt64}
    (hlimit : limit ≠ 0) (hmax : limit ≤ 100) : ∃ p, longPage n m offset limit = .ok p := by
  apply @readPage_produced plainFloatText plainRefusals _ _ _ _ rfl (read_longFiles n m) _ _ hlimit
    hmax
  rw [rowCount_longRead]
  have hsize := size_longPage n m offset limit []
  have hone : (decimal (min (offset.toNat + 0) 1)).byteLen ≤ (decimal 1).byteLen :=
    byteLen_decimal_mono (Nat.min_le_right _ _)
  have hdigit : (decimal 1).byteLen = 1 := by decide
  have hoffset := byteLen_decimal_le_u64 offset
  have hlim := byteLen_decimal_le_u64 limit
  have hempty : @Json.size plainFloatText (.array []) = 2 := by decide
  have hbool : (if nextOffset offset 1 0 < 1 then 4 else 5) ≤ 5 := by
    split
    · exact Nat.le_succ 4
    · exact Nat.le_refl 5
  rw [List.length_nil, hempty] at hsize
  unfold fits
  rw [decide_eq_true_eq, hsize]
  omega

theorem row_longRead (hm : m + 2 ≤ MAX_ROW) :
    @row plainFloatText (longFiles n m) longPath (longRead n m) 0 = .string (.replicate m 'y') := by
  have hrecord : recordAt (longFiles n m) longPath (longRead n m).data 0 =
      .ok (.string (.replicate m 'y')) := rfl
  have hy := size_plain m 'y' rfl (by decide)
  unfold row rowAt
  rw [hrecord]
  dsimp only
  rw [@Json.size_string plainFloatText, hy, if_neg (by omega)]

theorem size_firstPage (hm : m + 2 ≤ MAX_ROW) :
    @Json.size plainFloatText (pageOf (longRead n m) 0 1 1
      [@row plainFloatText (longFiles n m) longPath (longRead n m) 0]).toValue = n + m + 245 := by
  have hy := size_plain m 'y' rfl (by decide)
  have hone : (decimal 1).byteLen = 1 := by decide
  have hzero : (decimal 0).byteLen = 1 := by decide
  have hnext : ¬ nextOffset 0 1 1 < 1 := by decide
  rw [size_longPage, row_longRead hm, @Json.size_array plainFloatText, List.length_singleton,
    if_neg hnext]
  simp only [List.map_cons, List.map_nil, List.sum_cons, List.sum_nil, Json.size_string, hy,
    UInt64.toNat_one, UInt64.toNat_zero]
  rw [show min (0 + 1) 1 = 1 from rfl, hone, hzero]
  omega

/-- Where the metadata leaves no room for a record of 1000 bytes, all pages are produced and the
first one stays where it is. -/
theorem longReport_stuck :
    (∀ offset limit : UInt64, limit ≠ 0 → limit ≤ 100 →
      ∃ p, longPage 1048000 1000 offset limit = .ok p) ∧
    ¬ Progresses (fun offset => longPage 1048000 1000 offset 1) 1
      (@row plainFloatText (longFiles 1048000 1000) longPath (longRead 1048000 1000)) := by
  have hproduced : ∀ offset limit : UInt64, limit ≠ 0 → limit ≤ 100 →
      ∃ p, longPage 1048000 1000 offset limit = .ok p :=
    fun offset limit hlimit hmax => longPage_produced (by decide) hlimit hmax
  refine ⟨hproduced, fun hprogress => ?_⟩
  obtain ⟨p, hp⟩ := hproduced 0 1 (by decide) (by decide)
  obtain ⟨k, hk, rfl, hfits, -⟩ := @readPage_ok plainFloatText plainRefusals _ _ _ _ rfl
    (read_longFiles 1048000 1000) _ _ (by decide) _ hp
  rw [rowCount_longRead] at hp hk hfits
  have hk1 : k ≤ 1 := hk
  by_cases hzero : k = 0
  · subst hzero
    have hstay := hprogress.1 0 _ hp (by decide)
    exact absurd hstay (by decide)
  · have hkone : k = 1 := by omega
    subst hkone
    have hsize := size_firstPage (n := 1048000) (m := 1000) (by decide)
    unfold fits at hfits
    rw [decide_eq_true_eq] at hfits
    have hle : 1048000 + 1000 + 245 ≤ PAGE_RESPONSE_LIMIT := hsize.symm.trans_le hfits
    exact absurd hle (by decide)

end

end NetworkLantern.Runtime.Reports
