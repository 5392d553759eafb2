import NetworkLantern.Lib.Checks
import NetworkLantern.Lib.Csv
import NetworkLantern.Lib.Digits
import NetworkLantern.Tuning.Types

/-!
# The adapter artifacts of a backup

Advanced properties (`NicAdvancedRow`) and receive segment coalescing (`RscRow`)
are kept as CSV files.

    parseNicCsv (nicBytes rows) = .ok rows           for restorable rows    (parseNicCsv_nicBytes)
    parseRscCsv (rscBytes rows) is always an error                          (parseRscCsv_rscBytes)

The second is not a slip of the proof: the writer spells a flag `true` or `false`,
the reader accepts `True` and `False` only.
-/

namespace NetworkLantern.Tuning

open NetworkLantern

def maxCsvBytes : Nat := 1024 * 1024

/-! ## Rows of a CSV file -/

/-- The rows behind the header; `count` of them have been read. -/
def collectRows {α : Type} (decode : List Str → Except TuningError α) (maximum : Nat) (label : Str) :
    Nat → List (Except Str (List Str)) → Except TuningError (List α)
  | _, [] => .ok []
  | _, .error message :: _ => invalid ("invalid ".toList ++ label ++ " CSV: ".toList ++ message)
  | count, .ok record :: records => do
    let row ← decode record
    refuse (decide (maximum < count + 1)) (.backupInvalid
      (label ++ " CSV exceeds ".toList ++ decimal maximum ++ " rows".toList))
    let rows ← collectRows decode maximum label (count + 1) records
    return row :: rows

def decodeRecord {α : Type} (csv : CsvFormat) (names : List Str)
    (build : List Str → Except CsvFault α) (label : Str) (header record : List Str) :
    Except TuningError α :=
  match csvFields names header record >>= build with
  | .ok row => .ok row
  | .error fault => invalid ("invalid ".toList ++ label ++ " CSV: ".toList ++ csv.describe fault)

/-- Reads a CSV file into structs with the fields `names`. -/
def parseCsv {α : Type} (csv : CsvFormat) (names : List Str) (build : List Str → Except CsvFault α)
    (bytes : Bytes) (maximum : Nat) (label : Str) : Except TuningError (List α) :=
  if maxCsvBytes < bytes.length then invalid (label ++ " CSV exceeds 1 MiB".toList)
  else
    match csv.read bytes with
    | [] => .ok []
    | .error message :: _ => invalid ("invalid ".toList ++ label ++ " CSV: ".toList ++ message)
    | .ok header :: records =>
      collectRows (decodeRecord csv names build label header) maximum label 0 records

/-! ## Advanced properties -/

structure NicAdvancedRow where
  adapter : Str
  displayName : Str
  registryKeyword : Str
  displayValue : Str
  registryValue : Str
deriving DecidableEq, Repr

/-- A row that Restore can write back. -/
def NicAdvancedRow.isRestorable (row : NicAdvancedRow) : Bool :=
  let hasKeyword := !row.registryKeyword.isBlank
  let hasDisplay := !row.displayName.isBlank
  !(row.adapter.isBlank || (!hasKeyword && !hasDisplay) ||
    (hasKeyword && row.registryValue.isBlank) || (hasDisplay && row.displayValue.isBlank))

def maxNicRows : Nat := 512

def nicNames : List Str :=
  ["Adapter", "DisplayName", "RegistryKeyword", "DisplayValue", "RegistryValue"].map String.toList

def NicAdvancedRow.record (row : NicAdvancedRow) : List Str :=
  [row.adapter, row.displayName, row.registryKeyword, row.displayValue, row.registryValue]

def nicRow : List Str → Except CsvFault NicAdvancedRow
  | [adapter, displayName, registryKeyword, displayValue, registryValue] =>
    .ok ⟨adapter, displayName, registryKeyword, displayValue, registryValue⟩
  | _ => .error (.value "wrong number of fields")

def parseNicCsv (csv : CsvFormat) (bytes : Bytes) : Except TuningError (List NicAdvancedRow) := do
  let rows ← parseCsv csv nicNames nicRow bytes maxNicRows "NIC advanced"
  refuse rows.isEmpty (.backupInvalid "NIC advanced CSV must contain at least one row")
  refuse (rows.any fun row => !row.isRestorable)
    (.backupInvalid "NIC advanced CSV contains an incomplete row")
  return rows

/-- A written CSV file and the number of rows left out: those Restore could not write back
and those past the row limit. -/
structure NicCsv where
  bytes : Bytes
  skipped : Nat
  truncated : Nat

def nicBytes (csv : CsvFormat) (rows : List NicAdvancedRow) : Bytes :=
  if rows.isEmpty then [] else csv.write (nicNames :: rows.map NicAdvancedRow.record)

/-- The rows that are written: the restorable ones, up to the limit. -/
def backedUpRows (rows : List NicAdvancedRow) : List NicAdvancedRow :=
  (rows.filter NicAdvancedRow.isRestorable).take maxNicRows

def writeNicCsv (csv : CsvFormat) (rows : List NicAdvancedRow) : NicCsv where
  bytes := nicBytes csv (backedUpRows rows)
  skipped := (rows.filter fun row => !row.isRestorable).length
  truncated := (rows.filter NicAdvancedRow.isRestorable).length - maxNicRows

/-! ## Receive segment coalescing -/

structure RscRow where
  name : Str
  ipv4Enabled : Bool
  ipv6Enabled : Bool
deriving DecidableEq, Repr

def maxRscRows : Nat := 64

def rscNames : List Str := ["Name", "Ipv4Enabled", "Ipv6Enabled"].map String.toList

/-- A flag as the CSV writer spells it. -/
def csvBool (value : Bool) : Str := if value then "true" else "false"

def RscRow.record (row : RscRow) : List Str :=
  [row.name, csvBool row.ipv4Enabled, csvBool row.ipv6Enabled]

def deserializeLegacyBool (value : Str) : Except CsvFault Bool :=
  if value = "True".toList then .ok true
  else if value = "False".toList then .ok false
  else .error (.value "boolean must be exactly True or False")

def rscRow : List Str → Except CsvFault RscRow
  | [name, ipv4, ipv6] => do
    let ipv4Enabled ← deserializeLegacyBool ipv4
    let ipv6Enabled ← deserializeLegacyBool ipv6
    return ⟨name, ipv4Enabled, ipv6Enabled⟩
  | _ => .error (.value "wrong number of fields")

def parseRscCsv (csv : CsvFormat) (bytes : Bytes) : Except TuningError (List RscRow) := do
  let rows ← parseCsv csv rscNames rscRow bytes maxRscRows "RSC"
  refuse (rows.isEmpty || rows.any fun row => row.name.isBlank)
    (.backupInvalid "RSC CSV contains an invalid row")
  return rows

def rscBytes (csv : CsvFormat) (rows : List RscRow) : Bytes :=
  if rows.isEmpty then [] else csv.write (rscNames :: rows.map RscRow.record)

/-! ## Round trips -/

theorem decodeRecord_self {α : Type} (csv : CsvFormat) {names record : List Str}
    {build : List Str → Except CsvFault α} {label : Str} (hd : names.Nodup)
    (hl : record.length = names.length) :
    decodeRecord csv names build label names record =
      match build record with
      | .ok row => .ok row
      | .error fault =>
        invalid ("invalid ".toList ++ label ++ " CSV: ".toList ++ csv.describe fault) := by
  unfold decodeRecord
  rw [csvFields_self hd hl, except_ok_bind]

theorem collectRows_all {α : Type} {decode : List Str → Except TuningError α} {maximum : Nat}
    {label : Str} (record : α → List Str) (hdecode : ∀ row, decode (record row) = .ok row)
    (rows : List α) (count : Nat) (h : count + rows.length ≤ maximum) :
    collectRows decode maximum label count ((rows.map record).map .ok) = .ok rows := by
  induction rows generalizing count with
  | nil => rfl
  | cons row rows ih =>
    rw [List.length_cons] at h
    rw [List.map_cons, List.map_cons, collectRows, hdecode, except_ok_bind, refuse_bind_ok,
      ih (count + 1) (by omega)]
    exact ⟨by simp; omega, rfl⟩

theorem plainHeader_nicNames : PlainHeader nicNames := ⟨by decide, by decide⟩

theorem plainHeader_rscNames : PlainHeader rscNames := ⟨by decide, by decide⟩

section
variable {csv : CsvFormat} (hcsv : csv.Lossless)
include hcsv

/-- Reading back what the writer wrote under a plain header. -/
theorem parseCsv_write {α : Type} {names : List Str} {build : List Str → Except CsvFault α}
    {records : List (List Str)} {maximum : Nat} {label : Str} (hn : PlainHeader names)
    (hl : ∀ record ∈ records, record.length = names.length) :
    parseCsv csv names build (csv.write (names :: records)) maximum label =
      if maxCsvBytes < (csv.write (names :: records)).length then
        invalid (label ++ " CSV exceeds 1 MiB".toList)
      else collectRows (decodeRecord csv names build label names) maximum label 0
        (records.map .ok) := by
  unfold parseCsv
  rw [hcsv.roundTrip names records hn hl, List.map_cons]

/-- Backed-up advanced properties read back, unless their file is too large. -/
theorem parseNicCsv_nicBytes {rows : List NicAdvancedRow} (hne : rows ≠ [])
    (hcount : rows.length ≤ maxNicRows) (hrest : ∀ row ∈ rows, row.isRestorable = true) :
    parseNicCsv csv (nicBytes csv rows) =
      if maxCsvBytes < (nicBytes csv rows).length then
        invalid ("NIC advanced".toList ++ " CSV exceeds 1 MiB".toList)
      else .ok rows := by
  have hlen : ∀ record ∈ rows.map NicAdvancedRow.record, record.length = nicNames.length := by
    intro record hr
    obtain ⟨row, -, rfl⟩ := List.mem_map.mp hr
    rfl
  have hbytes : nicBytes csv rows = csv.write (nicNames :: rows.map NicAdvancedRow.record) := by
    unfold nicBytes
    rw [if_neg (by simpa using hne)]
  have hdecode : ∀ row : NicAdvancedRow,
      decodeRecord csv nicNames nicRow "NIC advanced" nicNames row.record = .ok row := by
    intro row
    rw [decodeRecord_self csv (by decide) (show row.record.length = nicNames.length from rfl)]
    rfl
  unfold parseNicCsv
  rw [hbytes, parseCsv_write hcsv plainHeader_nicNames hlen]
  split
  · rfl
  · rw [collectRows_all NicAdvancedRow.record hdecode rows 0 (by omega), except_ok_bind,
      refuse_bind_ok, refuse_bind_ok]
    refine ⟨by simpa using hne, ?_, rfl⟩
    rw [List.any_eq_false]
    intro row hr
    simp [hrest row hr]

theorem rscBytes_ne_nil {rows : List RscRow} (hne : rows ≠ []) : rscBytes csv rows ≠ [] := by
  unfold rscBytes
  rw [if_neg (by simpa using hne)]
  refine hcsv.write_ne_nil plainHeader_rscNames fun record hr => ?_
  obtain ⟨row, -, rfl⟩ := List.mem_map.mp hr
  rfl

theorem nicBytes_ne_nil {rows : List NicAdvancedRow} (hne : rows ≠ []) : nicBytes csv rows ≠ [] := by
  unfold nicBytes
  rw [if_neg (by simpa using hne)]
  refine hcsv.write_ne_nil plainHeader_nicNames fun record hr => ?_
  obtain ⟨row, -, rfl⟩ := List.mem_map.mp hr
  rfl

/-- The reader refuses every RSC file of the writer: it takes no flag as it is written. -/
theorem parseRscCsv_rscBytes {rows : List RscRow} (hne : rows ≠ []) :
    ∃ message, parseRscCsv csv (rscBytes csv rows) = .error (.backupInvalid message) := by
  have hlen : ∀ record ∈ rows.map RscRow.record, record.length = rscNames.length := by
    intro record hr
    obtain ⟨row, -, rfl⟩ := List.mem_map.mp hr
    rfl
  have hbytes : rscBytes csv rows = csv.write (rscNames :: rows.map RscRow.record) := by
    unfold rscBytes
    rw [if_neg (by simpa using hne)]
  have hflag : ∀ value, deserializeLegacyBool (csvBool value) =
      .error (.value "boolean must be exactly True or False") := by
    intro value
    cases value <;> rfl
  unfold parseRscCsv
  rw [hbytes, parseCsv_write hcsv plainHeader_rscNames hlen]
  split
  · exact ⟨_, rfl⟩
  · cases rows with
    | nil => exact absurd rfl hne
    | cons row rows =>
      refine ⟨"invalid ".toList ++ "RSC".toList ++ " CSV: ".toList ++
        csv.describe (.value "boolean must be exactly True or False"), ?_⟩
      rw [List.map_cons, List.map_cons, collectRows,
        decodeRecord_self csv (by decide) (show row.record.length = rscNames.length from rfl)]
      simp only [rscRow, RscRow.record, hflag, except_error_bind]
      rfl

end

end NetworkLantern.Tuning
