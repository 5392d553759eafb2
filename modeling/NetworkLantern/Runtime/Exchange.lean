import NetworkLantern.Lib.JsonReread
import NetworkLantern.Runtime.AtomicFile
import NetworkLantern.Runtime.Paging

/-!
# Standalone exports

A native run is exported with its records in one document.  Where the records of a report
are found depends on the name of its file and on the keys of its data, so an export shows
the rows of its source except under a name or among keys that lead elsewhere
(`export_preserves_iff`).
-/

namespace NetworkLantern.Runtime.Reports

open NetworkLantern

/-- The files of an export. -/
structure ExportDisk where
  tryExists : ReportPath → Except Error Bool
  atomicBytes : ReportPath → Str → Except Error Unit
  display : ReportPath → Str

section
variable [Json.FloatText]

/-- A measurement of a run as it is exported. -/
def exportRow (files : Files) (source : ReportPath) (index : Nat) : Json :=
  match files.json (measurementFile source index) with
  | .ok row => row
  | .error e => .ofFields [("measurement", rowNumber index), ("error", e.toValue)]

/-- The loop of `export_file`. -/
def exportRows (files : Files) (source : ReportPath) : List Nat → Nat → Except Error (List Json)
  | [], _ => .ok []
  | index :: rest, bytes => do
    let row := exportRow files source index
    let bytes := saturatingAdd bytes row.size
    refuse (REPORT_LIMIT < bytes)
      (.validation ("Run exceeds the standalone JSON export limit of 16 MiB; ".toList ++
        "preserve the run directory for the complete artifacts".toList))
    let rows ← exportRows files source rest bytes
    return row :: rows

/-- `report.data["results"] = rows`. -/
def NormalizedReport.withResults (report : NormalizedReport) (rows : List Json) :
    NormalizedReport :=
  { report with data := report.data.setField "results" (.array rows) }

/-- The report that `export_file` exports: that of a native run with its measurements. -/
def exportedReport [Refusals] (files : Files) (source : ReportPath) :
    Except Error NormalizedReport := do
  let report ← read files source
  if isNative source report.data then do
    let rows ← exportRows files source (.range (report.total.getD 0).toNat) report.toValue.size
    return report.withResults rows
  else return report

variable [Package] [Host] [Refusals]

/-- The document of `export`. -/
def exportDocument (report : NormalizedReport) : Json :=
  .ofFields
    [("schema_version", .ofU32 RECORD_VERSION), ("provenance", provenance),
     ("imported", report.toValue)]

/-- `export_file`, with the document that it writes. -/
def exportFile (disk : ExportDisk) (files : Files) (source destination : ReportPath) :
    Except Error Json := do
  let present ← disk.tryExists destination
  refuse present
    (.validation ("Export destination ".toList ++ disk.display destination ++
      " already exists; choose a new file".toList))
  let report ← exportedReport files source
  let document := exportDocument report
  refuse (REPORT_LIMIT < document.pretty.byteLen)
    (.validation ("Record exceeds ".toList ++ decimal REPORT_LIMIT ++ " bytes".toList))
  disk.atomicBytes destination document.pretty
  return document

/-- The files with an export among them.  A document that is nested too deep is not read. -/
def Files.withExport [Json.FloatReread] (files : Files) (destination : ReportPath)
    (document : Json) (tooDeep : Error) : Files :=
  { files with
    json := fun path =>
      if path = destination then
        match document.readBack with
        | some value => .ok value
        | none => .error tooDeep
      else files.json path }

/-! ## What is exported -/

omit [Package] [Host] [Refusals] in
theorem exportRows_ok {files : Files} {source : ReportPath} {indices : List Nat} {bytes : Nat}
    {rows : List Json} (h : exportRows files source indices bytes = .ok rows) :
    rows = indices.map (exportRow files source) := by
  induction indices generalizing bytes rows with
  | nil =>
    cases h
    rfl
  | cons index rest ih =>
    obtain ⟨-, h⟩ := refuse_bind_ok.mp h
    obtain ⟨more, hmore, h⟩ := except_bind_ok.mp h
    cases h
    rw [ih hmore, List.map_cons]

/-- An accepted export of a native run holds a row for each of its measurements. -/
theorem exportFile_native {disk : ExportDisk} {files : Files} {source destination : ReportPath}
    {report : NormalizedReport} {document : Json} (hread : read files source = .ok report)
    (hnative : isNative source report.data = true)
    (h : exportFile disk files source destination = .ok document) :
    document = exportDocument (report.withResults
      ((List.range (report.total.getD 0).toNat).map (exportRow files source))) := by
  obtain ⟨present, -, h⟩ := except_bind_ok.mp h
  obtain ⟨-, h⟩ := refuse_bind_ok.mp h
  obtain ⟨exported, hexported, h⟩ := except_bind_ok.mp h
  unfold exportedReport at hexported
  rw [hread, except_ok_bind, if_pos hnative] at hexported
  obtain ⟨rows, hrows, hexported⟩ := except_bind_ok.mp hexported
  obtain ⟨-, h⟩ := refuse_bind_ok.mp h
  obtain ⟨-, -, h⟩ := except_bind_ok.mp h
  cases h
  cases hexported
  rw [exportRows_ok hrows]

end

/-! ## What is read back -/

section
variable [Json.FloatReread]

def rereadElapsed (elapsed : Option Float) : Option Float :=
  elapsed.bind fun x =>
    if h : x.isFinite = true then some (Json.FloatReread.reread ⟨x, h⟩).val else none

/-- A report that was written and read back. -/
def NormalizedReport.reread (report : NormalizedReport) : NormalizedReport :=
  { report with
    provenance := report.provenance.reread
    elapsedSeconds := rereadElapsed report.elapsedSeconds
    data := report.data.reread }

theorem ofJson_reread (report : NormalizedReport) :
    NormalizedReport.ofJson report.toValue.reread = some report.reread := by
  have hvalue : report.toValue.reread =
      .object
        [("data", report.data.reread),
         ("elapsed_seconds", (Json.ofOption Json.ofFloat report.elapsedSeconds).reread),
         ("failed", (Json.ofOption Json.ofNat report.failed).reread),
         ("provenance", report.provenance.reread),
         ("source_schema", .string report.sourceSchema),
         ("status", (Json.ofOption Json.string report.status).reread),
         ("timestamp", (Json.ofOption Json.string report.timestamp).reread),
         ("total", (Json.ofOption Json.ofNat report.total).reread)] := rfl
  have htext : ∀ o : Option Str,
      Json.toOption Json.asStr (Json.ofOption Json.string o).reread = some o := by
    intro o
    cases o <;> rfl
  have hnumber : ∀ o : Option UInt64,
      Json.toOption Json.asU64 (Json.ofOption Json.ofNat o).reread = some o := by
    intro o
    cases o <;> rfl
  have helapsed : Json.toOption Json.toFloat
      (Json.ofOption Json.ofFloat report.elapsedSeconds).reread =
        some (rereadElapsed report.elapsedSeconds) := by
    cases report.elapsedSeconds with
    | none => rfl
    | some x =>
      show Json.toOption Json.toFloat (Json.ofFloat x).reread = some (rereadElapsed (some x))
      unfold Json.ofFloat rereadElapsed
      by_cases hfinite : x.isFinite = true
      · rw [dif_pos hfinite, Option.bind_some, dif_pos hfinite]
        rfl
      · rw [dif_neg hfinite, Option.bind_some, dif_neg hfinite]
        rfl
  rw [hvalue]
  show (do
    return {
      provenance := ← some report.provenance.reread
      timestamp := ← Json.toOption Json.asStr (Json.ofOption Json.string report.timestamp).reread
      status := ← Json.toOption Json.asStr (Json.ofOption Json.string report.status).reread
      total := ← Json.toOption Json.asU64 (Json.ofOption Json.ofNat report.total).reread
      failed := ← Json.toOption Json.asU64 (Json.ofOption Json.ofNat report.failed).reread
      elapsedSeconds := ← Json.toOption Json.toFloat
        (Json.ofOption Json.ofFloat report.elapsedSeconds).reread
      sourceSchema := ← some report.sourceSchema
      data := ← some report.data.reread } : Option NormalizedReport) = _
  rw [htext, htext, hnumber, hnumber, helapsed]
  rfl

theorem field_reread (v : Json) (names : List Str) :
    field v.reread names = (field v names).map Json.reread := by
  cases v with
  | object entries =>
    show field (.object (Json.rereadEntries entries)) names = _
    rw [Json.rereadEntries_eq]
    unfold field
    dsimp only
    induction names with
    | nil => rfl
    | cons name names ih =>
      rw [List.findSome?_cons, List.findSome?_cons, ih, List.find?_map]
      cases hfound : entries.find? fun e => Str.eqCI e.1 name with
      | none =>
        rw [show entries.find? ((fun e => Str.eqCI e.1 name) ∘ fun e => (e.1, e.2.reread)) = none
          from hfound]
        rfl
      | some e =>
        rw [show entries.find? ((fun e => Str.eqCI e.1 name) ∘ fun e => (e.1, e.2.reread)) = some e
          from hfound]
        rfl
  | _ => rfl

variable [Json.FloatText] [Package] [Host] [Refusals]

omit [Json.FloatText] in
/-- An export that is not nested too deep is read as the report it was made of. -/
theorem read_withExport {files : Files} {destination : ReportPath} {report : NormalizedReport}
    (hjson : destination.extension.map Str.lower = some "json".toList) (tooDeep : Error) :
    read (files.withExport destination (exportDocument report) tooDeep) destination =
      if Json.RECURSION_LIMIT < (exportDocument report).depth then .error tooDeep
      else .ok report.reread := by
  have hdocument : (exportDocument report).reread =
      .object
        [("imported", report.toValue.reread), ("provenance", provenance.reread),
         ("schema_version", .ofU32 RECORD_VERSION)] := rfl
  have hversion : field (exportDocument report).reread ["schema_version"] =
      some (.ofU32 RECORD_VERSION) := by
    rw [hdocument]
    rfl
  have himported : field (exportDocument report).reread ["imported"] =
      some report.toValue.reread := by
    rw [hdocument]
    rfl
  have hnormalize : normalize (exportDocument report).reread = .ok report.reread := by
    unfold normalize importedReport
    rw [hversion, himported]
    dsimp only
    rw [ofJson_reread]
    rfl
  unfold read
  rw [hjson, if_neg (by decide), if_neg (by decide)]
  show (if destination = destination then _ else _ : Except Error Json) >>= normalize = _
  rw [if_pos rfl]
  unfold Json.readBack
  by_cases hdeep : Json.RECURSION_LIMIT < (exportDocument report).depth
  · rw [if_pos hdeep, if_pos hdeep]
    rfl
  · rw [if_neg hdeep, if_neg hdeep]
    dsimp only
    rw [except_ok_bind, hnormalize]

/-! ## Where the rows of an export are found -/

/-- A key of the data leads away from the results that an export adds: `runs` in any case,
or `results` in another case. -/
def hides (data : Json) : Bool :=
  (field data ["runs"]).isSome ||
    data.asObject.any fun entries =>
      ((Entries.ahead "results" entries).find? fun e => Str.eqCI e.1 "results").isSome

omit [Json.FloatText] [Package] [Host] [Refusals] in
theorem rowsOf_reread (data : Json) : rowsOf data.reread = (rowsOf data).map Json.reread := by
  unfold rowsOf
  rw [Json.asArray_reread, field_reread]
  cases data.asArray with
  | some values => rfl
  | none =>
    cases field data ["runs", "results", "measurements"] with
    | none => rfl
    | some v =>
      show (v.reread.asArray).getD [] = ((v.asArray).getD []).map Json.reread
      rw [Json.asArray_reread]
      cases v.asArray <;> rfl

omit [Json.FloatReread] [Json.FloatText] [Package] [Host] [Refusals] in
theorem field_cons (entries : Entries Json) (name : Str) (names : List Str) :
    field (.object entries) (name :: names) =
      (((entries.find? fun e => Str.eqCI e.1 name).map Prod.snd).or
        (field (.object entries) names)) := by
  unfold field
  dsimp only
  rw [List.findSome?_cons]
  cases (entries.find? fun e => Str.eqCI e.1 name).map Prod.snd <;> rfl

omit [Json.FloatReread] [Json.FloatText] [Package] [Host] [Refusals] in
/-- The rows of an export, unless a key leads away from them. -/
theorem rowsOf_setResults (entries : Entries Json) (rows : List Json) :
    rowsOf ((Json.object entries).setField "results" (.array rows)) =
      if hides (.object entries) then rowsOf (.object entries) else rows := by
  have hruns : Str.eqCI "results" "runs" = false := by decide
  have hresults : Str.eqCI "results" "results" = true := by decide
  have hfound := Entries.find?_insert_of_false (p := fun k => Str.eqCI k "runs") hruns
    (Json.array rows) entries
  have hnext := Entries.find?_insert_of_true (p := fun k => Str.eqCI k "results") hresults
    (Json.array rows) entries
  show (none.or ((field (.object (Entries.insert "results" (.array rows) entries)) _).bind
    Json.asArray)).getD [] = if _ then (none.or ((field (.object entries) _).bind
    Json.asArray)).getD [] else rows
  unfold hides
  rw [field_cons _ "runs", field_cons _ "runs", field_cons _ "runs", hfound]
  cases entries.find? fun e => Str.eqCI e.1 "runs" with
  | some e => rfl
  | none =>
    rw [field_cons _ "results", field_cons _ "results", hnext]
    show _ = if (false || (Option.isSome _)) = true then _ else rows
    cases hahead : (entries.ahead "results").find? fun e => Str.eqCI e.1 "results" with
    | some e =>
      rw [Entries.find?_of_ahead (p := fun k => Str.eqCI k "results") hahead]
      rfl
    | none => rfl

omit [Json.FloatText] [Package] [Host] [Refusals] in
theorem get?_setResults (entries : Entries Json) (rows : List Json) {key : Str}
    (h : key ≠ "results".toList) :
    (((Json.object entries).setField "results" (.array rows)).reread).get? key =
      ((Json.object entries).get? key).map Json.reread := by
  rw [Json.get?_reread]
  exact congrArg _ (Entries.get?_insert_of_ne h _ entries)

omit [Json.FloatText] [Package] [Host] [Refusals] in
/-- Under the name of a summary, an export of a native run passes for a native run. -/
theorem isNative_exported {source : ReportPath} {report : NormalizedReport}
    (h : isNative source report.data = true) (rows : List Json) (path : ReportPath) :
    isNative path (report.withResults rows).reread.data =
      (path.fileName == "summary.json".toList) := by
  show isNative path ((report.data.setField "results" (.array rows)).reread) = _
  unfold isNative at h ⊢
  rw [Bool.and_eq_true, Bool.and_eq_true] at h
  obtain ⟨⟨hversion, hrun⟩, -⟩ := h
  cases hdata : report.data with
  | object entries =>
    rw [hdata] at hversion hrun
    rw [get?_setResults entries rows (by decide), get?_setResults entries rows (by decide)]
    have hversion' : (((Json.object entries).get? "schema_version").map Json.reread).any
        supportedRecordVersion = true := by
      unfold supportedRecordVersion at hversion ⊢
      rw [Option.any_map]
      simpa using hversion
    have hrun' : (((Json.object entries).get? "run_id").map Json.reread).any
        (fun v => v.asStr.isSome) = true := by
      rw [Option.any_map]
      simpa using hrun
    rw [hversion', hrun']
    rfl
  | _ =>
    rw [hdata] at hversion
    cases hversion

omit [Json.FloatReread] [Json.FloatText] [Package] [Host] [Refusals] in
theorem recordAt_native {path : ReportPath} {original : Json} (files : Files)
    (h : isNative path original = true) (index : Nat) :
    recordAt files path original index = .ok (exportRow files path index) := by
  unfold recordAt exportRow
  rw [if_pos h]
  cases files.json (measurementFile path index) <;> rfl

omit [Json.FloatReread] [Json.FloatText] [Package] [Host] [Refusals] in
theorem recordAt_embedded {path : ReportPath} {original : Json} (files : Files)
    (h : isNative path original = false) (index : Nat) :
    recordAt files path original index = .ok ((rowsOf original).getD index .null) := by
  unfold recordAt
  rw [h, if_neg Bool.false_ne_true]
  show Except.ok ((((rowsOf original).drop index).take 1).headD .null) = _
  rw [List.getD_eq_getElem?_getD, ← List.head?_drop, List.headD_eq_head?_getD]
  cases (rowsOf original).drop index <;> rfl

/-- The row that a page shows of a record. -/
def shown (index : Nat) (record : Json) : Json :=
  if MAX_ROW < record.size then oversized index else record

/-- What paging an export finds at an index: under the name of a summary, the file next to the
export; otherwise the rows that a key leads away to, or the exported record. -/
def foundAt (files : Files) (source destination : ReportPath) (report : NormalizedReport)
    (index : Nat) : Json :=
  if destination.fileName = "summary.json".toList then exportRow files destination index
  else if hides report.data then ((rowsOf report.data).getD index .null).reread
  else (exportRow files source index).reread

omit [Json.FloatReread] [Package] [Host] [Refusals] in
theorem row_of_record {files : Files} {path : ReportPath} {report : NormalizedReport} {index : Nat}
    {record : Json} (h : recordAt files path report.data index = .ok record) :
    row files path report index = shown index record := by
  unfold row rowAt
  rw [h]
  rfl

omit [Json.FloatText] [Package] [Host] [Refusals] in
/-- The rows of an export that is read back. -/
theorem rowsOf_exported {source : ReportPath} {report : NormalizedReport}
    (h : isNative source report.data = true) (rows : List Json) :
    rowsOf (report.withResults rows).reread.data =
      (if hides report.data then rowsOf report.data else rows).map Json.reread := by
  show rowsOf ((report.data.setField "results" (.array rows)).reread) = _
  rw [rowsOf_reread]
  cases hdata : report.data with
  | object entries => rw [rowsOf_setResults]
  | _ =>
    rw [hdata] at h
    cases h

omit [Json.FloatText] [Package] [Host] [Refusals] in
theorem rowCount_exported (files : Files) (destination : ReportPath) {source : ReportPath}
    {report : NormalizedReport} (h : isNative source report.data = true) :
    rowCount destination (report.withResults
        ((List.range (report.total.getD 0).toNat).map (exportRow files source))).reread =
      if destination.fileName = "summary.json".toList then report.total.getD 0
      else if hides report.data then .ofNat (rowsOf report.data).length
      else report.total.getD 0 := by
  unfold rowCount
  rw [isNative_exported h, rowsOf_exported h]
  by_cases hname : destination.fileName = "summary.json".toList
  · rw [if_pos (beq_iff_eq.mpr hname), if_pos hname]
    rfl
  · rw [if_neg (fun hsummary => hname (beq_iff_eq.mp hsummary)), if_neg hname, List.length_map]
    by_cases hhides : hides report.data = true
    · rw [if_pos hhides, if_pos hhides]
    · rw [if_neg hhides, if_neg hhides, List.length_map, List.length_range, UInt64.ofNat_toNat]

omit [Package] [Host] [Refusals] in
theorem row_exported {files : Files} {source destination : ReportPath} {report : NormalizedReport}
    (h : isNative source report.data = true) (document : Json) (tooDeep : Error) {index : Nat}
    (hindex : index < (report.total.getD 0).toNat) :
    row (files.withExport destination document tooDeep) destination (report.withResults
        ((List.range (report.total.getD 0).toNat).map (exportRow files source))).reread index =
      shown index (foundAt files source destination report index) := by
  apply row_of_record
  have hnative := isNative_exported h
    ((List.range (report.total.getD 0).toNat).map (exportRow files source)) destination
  unfold foundAt
  by_cases hname : destination.fileName = "summary.json".toList
  · rw [if_pos hname, recordAt_native _ (hnative.trans (beq_iff_eq.mpr hname))]
    -- the files next to the export are what they were
    have hother : measurementFile destination index ≠ destination := by
      intro hsame
      rw [← hsame] at hname
      cases hname
    have hfile : (files.withExport destination document tooDeep).json
        (measurementFile destination index) = files.json (measurementFile destination index) :=
      if_neg hother
    unfold exportRow
    rw [hfile]
  · rw [if_neg hname, recordAt_embedded _ (hnative.trans (beq_eq_false_iff_ne.mpr hname)),
      rowsOf_exported h]
    by_cases hhides : hides report.data = true
    · rw [if_pos hhides, if_pos hhides, List.getD_eq_getElem?_getD, List.getD_eq_getElem?_getD,
        List.getElem?_map]
      cases (rowsOf report.data)[index]? <;> rfl
    · rw [if_neg hhides, if_neg hhides, List.getD_eq_getElem?_getD, List.getElem?_map,
        List.getElem?_map, List.getElem?_range hindex]
      rfl

/-- The exported file is read with the metadata of its source, and shows as many rows and
the same ones. -/
def Preserves (files exported : Files) (source destination : ReportPath)
    (report : NormalizedReport) : Prop :=
  ∃ back, read exported destination = .ok back ∧
    { back with data := Json.null } = { report with data := Json.null } ∧
    rowCount destination back = rowCount source report ∧
    ∀ index < (rowCount source report).toNat,
      row exported destination back index = row files source report index

omit [Json.FloatReread] [Package] [Host] in
/-- The pages of a preserved export show the rows of its source. -/
theorem Preserves.page {files exported : Files} {source destination : ReportPath}
    {report : NormalizedReport} (h : Preserves files exported source destination report)
    (hcsv : destination.isCsv = false) {csvPage : ReportPath → UInt64 → UInt64 → Except Error Page}
    {offset limit : UInt64} (hlimit : limit ≠ 0) {p : Page}
    (hpage : readPage csvPage exported destination offset limit = .ok p) :
    p.total = rowCount source report ∧ p.rows = p.indices.map (row files source report) := by
  obtain ⟨back, hback, -, hcount, hrows⟩ := h
  obtain ⟨htotal, hshown⟩ := total_and_rows hcsv hback hlimit hpage
  refine ⟨htotal.trans hcount, hshown.trans (List.map_congr_left fun index hindex => ?_)⟩
  apply hrows
  obtain ⟨k, hk, rfl, -⟩ := readPage_ok hcsv hback hlimit hpage
  unfold Page.indices pageOf at hindex
  rw [List.length_map, List.length_range', List.mem_range'_1] at hindex
  change offset.toNat ≤ index ∧ index < offset.toNat + k at hindex
  have hle := hk.trans (indices_length_le offset limit (rowCount destination back))
  rw [hcount] at hle
  omega

omit [Json.FloatReread] [Json.FloatText] [Refusals] in
/-- The levels of an export are those of the data and the provenance that it holds. -/
theorem depth_exportDocument (report : NormalizedReport) :
    (exportDocument report).depth = max 2 (max report.data.depth report.provenance.depth + 2) := by
  have htext : ∀ o : Option Str, (Json.ofOption Json.string o).depth = 0 := by
    intro o
    cases o <;> rfl
  have hnumber : ∀ o : Option UInt64, (Json.ofOption Json.ofNat o).depth = 0 := by
    intro o
    cases o <;> rfl
  have helapsed : (Json.ofOption Json.ofFloat report.elapsedSeconds).depth = 0 := by
    cases report.elapsedSeconds with
    | none => rfl
    | some x =>
      show (Json.ofFloat x).depth = 0
      unfold Json.ofFloat
      by_cases hfinite : x.isFinite = true
      · rw [dif_pos hfinite]
        rfl
      · rw [dif_neg hfinite]
        rfl
  show max (max report.data.depth (max (Json.ofOption Json.ofFloat report.elapsedSeconds).depth
    (max (Json.ofOption Json.ofNat report.failed).depth (max report.provenance.depth
      (max 0 (max (Json.ofOption Json.string report.status).depth
        (max (Json.ofOption Json.string report.timestamp).depth
          (max (Json.ofOption Json.ofNat report.total).depth 0))))))) + 1)
    (max (provenance).depth (max 0 0)) + 1 = _
  rw [htext, htext, hnumber, hnumber, helapsed]
  show max _ (max 1 _) + 1 = _
  omega

/-- The export of a native run is not nested too deep to be read. -/
structure Shallow (files : Files) (source : ReportPath) (report : NormalizedReport) : Prop where
  provenance : report.provenance.depth + 2 ≤ Json.RECURSION_LIMIT
  data : (report.data.setField "results" .null).depth + 2 ≤ Json.RECURSION_LIMIT
  measurements : ∀ index < (report.total.getD 0).toNat,
    (exportRow files source index).depth + 4 ≤ Json.RECURSION_LIMIT

omit [Json.FloatReread] [Json.FloatText] [Refusals] in
theorem shallow_iff (files : Files) {source : ReportPath} {report : NormalizedReport}
    (h : isNative source report.data = true) :
    (exportDocument (report.withResults
        ((List.range (report.total.getD 0).toNat).map (exportRow files source)))).depth ≤
      Json.RECURSION_LIMIT ↔ Shallow files source report := by
  generalize hrecords : (List.range (report.total.getD 0).toNat).map (exportRow files source) =
    records
  have hlevels : (report.withResults records).data.depth =
      max (Json.depthValues records + 2) (report.data.setField "results" .null).depth := by
    show (report.data.setField "results" (.array records)).depth = _
    cases hdata : report.data with
    | object entries => exact Json.depth_setField entries "results" (.array records)
    | _ =>
      rw [hdata] at h
      cases h
  have hmeasurements : Json.depthValues records ≤ Json.RECURSION_LIMIT - 4 ↔
      ∀ index < (report.total.getD 0).toNat,
        (exportRow files source index).depth ≤ Json.RECURSION_LIMIT - 4 := by
    rw [Json.depthValues_le, ← hrecords, List.forall_mem_map]
    simp only [List.mem_range]
  have hlimit : Json.RECURSION_LIMIT = 127 := rfl
  rw [depth_exportDocument, hlevels]
  show max 2 (max (max _ _) report.provenance.depth + 2) ≤ _ ↔ _
  constructor
  · intro hdepth
    refine ⟨by omega, by omega, fun index hindex => ?_⟩
    have hrow := hmeasurements.mp (by omega) index hindex
    omega
  · rintro ⟨hprovenance, hdata, hrows⟩
    have hvalues := hmeasurements.mpr fun index hindex => by
      have hrow := hrows index hindex
      omega
    omega

/-- What a run and the place of its export have to meet.  Under the name of a summary, the
files next to the export show the rows of the run; among keys that lead away from the
results, the rows there do; otherwise the measurements are read back as they are shown. -/
structure Survives (files : Files) (source destination : ReportPath) (report : NormalizedReport) :
    Prop where
  shallow : Shallow files source report
  provenance : report.provenance.reread = report.provenance
  elapsed : rereadElapsed report.elapsedSeconds = report.elapsedSeconds
  beside : destination.fileName = "summary.json".toList →
    ∀ index < (report.total.getD 0).toNat,
      shown index (exportRow files destination index) = shown index (exportRow files source index)
  hidden : destination.fileName ≠ "summary.json".toList → hides report.data = true →
    UInt64.ofNat (rowsOf report.data).length = report.total.getD 0 ∧
    ∀ index < (report.total.getD 0).toNat,
      shown index ((rowsOf report.data).getD index .null).reread =
        shown index (exportRow files source index)
  measurements : destination.fileName ≠ "summary.json".toList → hides report.data = false →
    ∀ index < (report.total.getD 0).toNat,
      shown index (exportRow files source index).reread =
        shown index (exportRow files source index)

omit [Package] [Host] [Refusals] in
/-- The rows that are found are those of the run in the cases of `Survives`. -/
theorem found_iff {files : Files} {source destination : ReportPath} {report : NormalizedReport} :
    ((if destination.fileName = "summary.json".toList then report.total.getD 0
      else if hides report.data then .ofNat (rowsOf report.data).length
      else report.total.getD 0) = report.total.getD 0 ∧
    ∀ index < (report.total.getD 0).toNat,
      shown index (foundAt files source destination report index) =
        shown index (exportRow files source index)) ↔
    (destination.fileName = "summary.json".toList →
      ∀ index < (report.total.getD 0).toNat,
        shown index (exportRow files destination index) =
          shown index (exportRow files source index)) ∧
    (destination.fileName ≠ "summary.json".toList → hides report.data = true →
      UInt64.ofNat (rowsOf report.data).length = report.total.getD 0 ∧
      ∀ index < (report.total.getD 0).toNat,
        shown index ((rowsOf report.data).getD index .null).reread =
          shown index (exportRow files source index)) ∧
    (destination.fileName ≠ "summary.json".toList → hides report.data = false →
      ∀ index < (report.total.getD 0).toNat,
        shown index (exportRow files source index).reread =
          shown index (exportRow files source index)) := by
  unfold foundAt
  by_cases hname : destination.fileName = "summary.json".toList
  · simp only [if_pos hname]
    constructor
    · rintro ⟨-, hrows⟩
      exact ⟨fun _ => hrows, fun hother => absurd hname hother, fun hother => absurd hname hother⟩
    · rintro ⟨hrows, -, -⟩
      exact ⟨trivial, hrows hname⟩
  · simp only [if_neg hname]
    by_cases hhides : hides report.data = true
    · simp only [if_pos hhides]
      constructor
      · intro hrows
        exact ⟨fun hsame => absurd hsame hname, fun _ _ => hrows,
          fun _ hshows => absurd (hhides.symm.trans hshows) Bool.noConfusion⟩
      · rintro ⟨-, hrows, -⟩
        exact hrows hname hhides
    · simp only [if_neg hhides]
      constructor
      · rintro ⟨-, hrows⟩
        exact ⟨fun hsame => absurd hsame hname, fun _ hshows => absurd hshows hhides,
          fun _ _ => hrows⟩
      · rintro ⟨-, -, hrows⟩
        exact ⟨trivial, hrows hname (Bool.eq_false_of_not_eq_true hhides)⟩

/-- An export preserves its run exactly if it is not nested too deep, the floats that a reader
sees are read back as they were, and the rows are found where the export has put them, or
the same ones elsewhere. -/
theorem export_preserves_iff {disk : ExportDisk} {files : Files} {source destination : ReportPath}
    {report : NormalizedReport} {document : Json} (hread : read files source = .ok report)
    (hnative : isNative source report.data = true)
    (hjson : destination.extension.map Str.lower = some "json".toList)
    (hexport : exportFile disk files source destination = .ok document) (tooDeep : Error) :
    Preserves files (files.withExport destination document tooDeep) source destination report ↔
      Survives files source destination report := by
  have hdocument := exportFile_native hread hnative hexport
  have hshallow := shallow_iff files hnative
  have hcount := rowCount_exported files destination hnative
  have htotal : rowCount source report = report.total.getD 0 := if_pos hnative
  have hrow : ∀ index, row files source report index = shown index (exportRow files source index) :=
    fun index => row_of_record (recordAt_native files hnative index)
  unfold Preserves
  rw [hdocument, read_withExport hjson, htotal]
  by_cases hdeep : Shallow files source report
  · rw [if_neg (Nat.not_lt_of_le (hshallow.mpr hdeep))]
    constructor
    · rintro ⟨back, hback, hmetadata, htotals, hrows⟩
      cases hback
      rw [hcount] at htotals
      obtain ⟨hbeside, hhidden, hmeasurements⟩ := found_iff.mp ⟨htotals, fun index hindex => by
        rw [← row_exported hnative _ tooDeep hindex, ← hrow]
        exact hrows index hindex⟩
      exact ⟨hdeep, congrArg NormalizedReport.provenance hmetadata,
        congrArg NormalizedReport.elapsedSeconds hmetadata, hbeside, hhidden, hmeasurements⟩
    · rintro ⟨-, hprovenance, helapsed, hbeside, hhidden, hmeasurements⟩
      obtain ⟨htotals, hrows⟩ := found_iff.mpr ⟨hbeside, hhidden, hmeasurements⟩
      refine ⟨_, rfl, ?_, hcount.trans htotals, fun index hindex => ?_⟩
      · show ({ report with
          provenance := report.provenance.reread
          elapsedSeconds := rereadElapsed report.elapsedSeconds
          data := .null } : NormalizedReport) = _
        rw [hprovenance, helapsed]
      · rw [row_exported hnative _ tooDeep hindex, hrow]
        exact hrows index hindex
  · rw [if_pos (Nat.lt_of_not_le fun hlevels => hdeep (hshallow.mp hlevels))]
    refine iff_of_false ?_ fun h => hdeep h.shallow
    rintro ⟨_, hback, -⟩
    cases hback

end

/-! ### A run of two measurements, one of them missing -/

abbrev plainFloatReread : Json.FloatReread := ⟨id⟩

abbrev plainPackage : Package := ⟨"0.1.0"⟩

section
attribute [local instance] plainFloatText plainFloatReread plainRefusals plainPackage sampleHost

def savedRun : ReportPath := ⟨"run", "summary.json"⟩

def savedFiles : Files where
  json := fun path =>
    if path = savedRun then
      .ok (.ofFields
        [("schema_version", .ofU32 1), ("run_id", .string "r"),
         ("counts", .ofFields [("total", .ofNat 2)])])
    else if path = ⟨"run", "measurement-00000001.json"⟩ then
      .ok (.ofFields [("measurement", .ofNat 42)])
    else .error (.new .prerequisite "No such file or directory (os error 2)")
  text := fun _ => .error (.validation "No such file")
  csv := fun _ => .error (.validation "No such file")

def freeDisk : ExportDisk where
  tryExists := fun _ => .ok false
  atomicBytes := fun _ _ => .ok ()
  display := fun path => path.parent ++ '/' :: path.fileName

/-- The summary of `savedRun` as it is read. -/
def savedReport : NormalizedReport where
  provenance := legacyProvenance
  timestamp := none
  status := none
  total := some 2
  failed := none
  elapsedSeconds := none
  sourceSchema := "rust-v1"
  data := .ofFields
    [("schema_version", .ofU32 1), ("run_id", .string "r"),
     ("counts", .ofFields [("total", .ofNat 2)])]

theorem read_savedRun : read savedFiles savedRun = .ok savedReport := rfl

theorem savedRun_native : isNative savedRun savedReport.data = true := rfl

theorem savedRun_exported {destination : ReportPath}
    (h : (exportFile freeDisk savedFiles savedRun destination).isOk = true) :
    ∃ document, exportFile freeDisk savedFiles savedRun destination = .ok document := by
  cases hexport : exportFile freeDisk savedFiles savedRun destination with
  | ok document => exact ⟨document, rfl⟩
  | error e =>
    rw [hexport] at h
    cases h

/-- An export under another name is preserved, with the error that stands for the missing
measurement. -/
theorem export_preserves_two :
    ∃ document, exportFile freeDisk savedFiles savedRun ⟨"export", "run.json"⟩ = .ok document ∧
      ∀ tooDeep, Preserves savedFiles
        (savedFiles.withExport ⟨"export", "run.json"⟩ document tooDeep) savedRun
        ⟨"export", "run.json"⟩ savedReport := by
  obtain ⟨document, hexport⟩ :=
    @savedRun_exported ⟨"export", "run.json"⟩ (by decide +kernel)
  refine ⟨document, hexport, fun tooDeep => ?_⟩
  apply (export_preserves_iff read_savedRun savedRun_native (by decide) hexport tooDeep).mpr
  have hhides : hides savedReport.data = false := by decide +kernel
  refine
    { shallow := ⟨by decide, by decide, by decide +kernel⟩
      provenance := rfl
      elapsed := rfl
      beside := fun hname => absurd hname (by decide)
      hidden := fun _ hshows => absurd (hhides.symm.trans hshows) Bool.noConfusion
      measurements := fun _ _ index hindex => ?_ }
  have hcases : index = 0 ∨ index = 1 := by
    have htwo : index < 2 := hindex
    omega
  rcases hcases with rfl | rfl <;> rfl

/-- An export under the name of a summary looks for measurement files of its own. -/
theorem summaryExport_lost :
    ∃ document, exportFile freeDisk savedFiles savedRun ⟨"export", "summary.json"⟩ = .ok document ∧
      ∀ tooDeep, ¬ Preserves savedFiles
        (savedFiles.withExport ⟨"export", "summary.json"⟩ document tooDeep) savedRun
        ⟨"export", "summary.json"⟩ savedReport := by
  obtain ⟨document, hexport⟩ :=
    @savedRun_exported ⟨"export", "summary.json"⟩ (by decide +kernel)
  refine ⟨document, hexport, fun tooDeep => ?_⟩
  rintro ⟨back, hback, -, -, hrows⟩
  have hdocument := exportFile_native read_savedRun savedRun_native hexport
  rw [hdocument, read_withExport (by decide), if_neg (by decide +kernel)] at hback
  cases hback
  have hfirst := hrows 0 (by decide)
  rw [row_exported savedRun_native _ tooDeep (by decide)] at hfirst
  -- the row of the export is an error, that of the run is not
  have herror := congrArg (fun v : Json => (v.get? "error").isSome) hfirst
  revert herror
  decide +kernel

end

end NetworkLantern.Runtime.Reports
