import NetworkLantern.Runtime.Measurements
import NetworkLantern.Runtime.Request

/-!
# Reports

Native and older reports are read into one shape.  A report that says which
record version it has must have a supported one; an exported report carries the
report it was made from.
-/

namespace NetworkLantern.Runtime.Reports

open NetworkLantern

/-- A path that names a file. -/
structure ReportPath where
  parent : Str
  fileName : Str
deriving DecidableEq, Repr

namespace ReportPath

/-- `Path::extension`: what follows the last dot, where something precedes it. -/
def extension (path : ReportPath) : Option Str :=
  let last := path.fileName.rtakeWhile (· ≠ '.')
  if last.length + 1 < path.fileName.length then some last else none

def isCsv (path : ReportPath) : Bool := path.extension.any fun e => Str.eqCI e "csv"

/-- `path.parent().join(name)`. -/
def sibling (path : ReportPath) (name : Str) : ReportPath := ⟨path.parent, name⟩

end ReportPath

structure NormalizedReport where
  provenance : Json
  timestamp : Option Str
  status : Option Str
  total : Option UInt64
  failed : Option UInt64
  elapsedSeconds : Option Float
  sourceSchema : Str
  data : Json

namespace NormalizedReport

/-- A field that may be `null` or left out. -/
def nullable {α : Type} (read : Json → Option α) (e : Entries Json) (name : Str) :
    Option (Option α) :=
  match Entries.get? e name with
  | none => some none
  | some v => Json.toOption read v

/-- The derived reader: other fields are ignored, and a sequence has all the fields. -/
def ofJson : Json → Option NormalizedReport
  | .object e => do
    return {
      provenance := ← Entries.get? e "provenance"
      timestamp := ← nullable Json.asStr e "timestamp"
      status := ← nullable Json.asStr e "status"
      total := ← nullable Json.asU64 e "total"
      failed := ← nullable Json.asU64 e "failed"
      elapsedSeconds := ← nullable Json.toFloat e "elapsed_seconds"
      sourceSchema := ← Json.required Json.asStr e "source_schema"
      data := ← Entries.get? e "data" }
  | .array [provenance, timestamp, status, total, failed, elapsed, schema, data] => do
    return {
      provenance
      timestamp := ← Json.toOption Json.asStr timestamp
      status := ← Json.toOption Json.asStr status
      total := ← Json.toOption Json.asU64 total
      failed := ← Json.toOption Json.asU64 failed
      elapsedSeconds := ← Json.toOption Json.toFloat elapsed
      sourceSchema := ← schema.asStr
      data }
  | _ => none

/-- The derived writer. -/
def toValue (report : NormalizedReport) : Json :=
  .ofFields
    [("provenance", report.provenance), ("timestamp", Json.ofOption .string report.timestamp),
     ("status", Json.ofOption .string report.status), ("total", Json.ofOption .ofNat report.total),
     ("failed", Json.ofOption .ofNat report.failed),
     ("elapsed_seconds", Json.ofOption .ofFloat report.elapsedSeconds),
     ("source_schema", .string report.sourceSchema), ("data", report.data)]

end NormalizedReport

/-- `field(value, names)`: the first of the names that some key spells, in any case. -/
def field (value : Json) (names : List Str) : Option Json :=
  match value with
  | .object entries =>
    names.findSome? fun name => (entries.find? fun e => Str.eqCI e.1 name).map Prod.snd
  | _ => none

/-- `SUPPORTED_RECORD_VERSIONS` is `1..=1`. -/
def supportedRecordVersion (version : Json) : Bool :=
  version.asU64.any fun n => 1 ≤ n && n ≤ 1

def unsupportedRecordVersion : Error :=
  .validation "Unsupported or invalid report schema_version; only version 1 is supported"

def legacyProvenance : Json :=
  .ofFields [("engine", .string "legacy"), ("version", .null), ("os", .null)]

def sourceSchema (data : Json) : Str :=
  if (field data ["schema_version"]).isSome then "rust-v1"
  else if (field data ["SummaryVersion"]).isSome then "legacy-throughput-summary"
  else if (field data ["runs"]).isSome then "legacy-run-index"
  else "legacy-path-or-measurements"

/-- What `normalize` makes of an object or an array. -/
def normalized (data : Json) : NormalizedReport :=
  let counts := field data ["counts"]
  { provenance := (field data ["provenance"]).getD legacyProvenance
    timestamp := (field data ["timestamp", "started_utc", "startedUtc"]).bind Json.asStr
    status := (field data ["status"]).bind Json.asStr
    elapsedSeconds := (field data ["elapsed_seconds", "elapsedSeconds"]).bind Json.toFloat
    total := (counts.bind fun v => field v ["total"]).bind Json.asU64
    failed := (counts.bind fun v => field v ["failed"]).bind Json.asU64
    sourceSchema := sourceSchema data
    data }

section
variable [Refusals]

/-- An exported report. -/
def importedReport (imported : Json) : Except Error NormalizedReport :=
  match NormalizedReport.ofJson imported with
  | some report => .ok report
  | none => .error (.validation ("Invalid exported report: ".toList ++
      Refusals.text "NormalizedReport" imported))

def plainReport (data : Json) : Except Error NormalizedReport := do
  refuse (data.asObject.isNone && data.asArray.isNone)
    (.validation "Report must be an object or array")
  return normalized data

def normalize (data : Json) : Except Error NormalizedReport :=
  match field data ["schema_version"] with
  | none => plainReport data
  | some version => do
    refuse (!supportedRecordVersion version) unsupportedRecordVersion
    match field data ["imported"] with
    | some imported => importedReport imported
    | none => plainReport data

end

/-- What the report readers see of the disk. -/
structure Files where
  /-- `read_json(path, REPORT_LIMIT)`. -/
  json : ReportPath → Except Error Json
  /-- `read_bounded(path, REPORT_LIMIT)`, as UTF-8. -/
  text : ReportPath → Except Error Str
  /-- `read_csv(path)`. -/
  csv : ReportPath → Except Error NormalizedReport

/-- `read`. -/
def read [Refusals] (files : Files) (path : ReportPath) : Except Error NormalizedReport :=
  let extension := path.extension.map Str.lower
  if extension = some "csv".toList then files.csv path
  else if extension = some "txt".toList ∨ extension = some "log".toList then do
    let text ← files.text path
    let report ← normalize
      (.ofFields [("results", .array [.ofFields [("text", .string text)]])])
    return { report with sourceSchema := "legacy-diagnostic-text" }
  else do
    normalize (← files.json path)

end NetworkLantern.Runtime.Reports
