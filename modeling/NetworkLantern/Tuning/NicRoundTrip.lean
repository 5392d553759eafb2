import NetworkLantern.Lib.CsvScan
import NetworkLantern.Tuning.AdapterCsv

/-!
# Advanced properties, there and back

The writer keeps to the reader's limit on rows, not to its limit on bytes: what it
writes is read back exactly when it fits (`nicCsv_roundTrip_iff`).
-/

namespace NetworkLantern.Tuning

open NetworkLantern

/-- Bytes of the header and of the rows that are kept. -/
def nicFileSize (rows : List NicAdvancedRow) : Nat :=
  ((nicNames :: (backedUpRows rows).map NicAdvancedRow.record).map CsvScan.recordSize).sum

/-- Each row is kept, skipped or truncated. -/
theorem nicCsv_counts (csv : CsvFormat) (rows : List NicAdvancedRow) :
    (backedUpRows rows).length + (writeNicCsv csv rows).skipped +
      (writeNicCsv csv rows).truncated = rows.length := by
  have hsplit := List.length_eq_length_filter_add (l := rows) NicAdvancedRow.isRestorable
  show (backedUpRows rows).length + (rows.filter fun row => !row.isRestorable).length +
    ((rows.filter NicAdvancedRow.isRestorable).length - maxNicRows) = _
  unfold backedUpRows
  rw [List.length_take]
  omega

theorem backedUpRows_restorable {rows : List NicAdvancedRow} {row : NicAdvancedRow}
    (h : row ∈ backedUpRows rows) : row.isRestorable = true :=
  (List.mem_filter.mp (List.mem_of_mem_take h)).2

theorem backedUpRows_ne_nil {rows : List NicAdvancedRow}
    (h : ∃ row ∈ rows, row.isRestorable = true) : backedUpRows rows ≠ [] := by
  obtain ⟨row, hr, hrest⟩ := h
  have hpos := List.length_pos_of_mem (List.mem_filter.mpr ⟨hr, hrest⟩)
  apply List.ne_nil_of_length_pos
  unfold backedUpRows
  rw [List.length_take]
  exact Nat.lt_min.mpr ⟨by decide, hpos⟩

theorem length_nicBytes {csv : CsvFormat} (hquotes : csv.QuotesWhereNeeded)
    {rows : List NicAdvancedRow} (hne : backedUpRows rows ≠ []) :
    (nicBytes csv (backedUpRows rows)).length = nicFileSize rows := by
  unfold nicBytes nicFileSize
  rw [if_neg (by simpa using hne)]
  refine hquotes nicNames _ plainHeader_nicNames fun record hr => ?_
  obtain ⟨row, -, rfl⟩ := List.mem_map.mp hr
  rfl

theorem writeNicCsv_ne_nil {csv : CsvFormat} (hcsv : csv.Lossless) {rows : List NicAdvancedRow}
    (hsome : ∃ row ∈ rows, row.isRestorable = true) : (writeNicCsv csv rows).bytes ≠ [] :=
  nicBytes_ne_nil hcsv (backedUpRows_ne_nil hsome)

/-- The reader's answer to what the writer wrote. -/
theorem parseNicCsv_writeNicCsv {csv : CsvFormat} (hcsv : csv.Lossless)
    (hquotes : csv.QuotesWhereNeeded) {rows : List NicAdvancedRow}
    (hsome : ∃ row ∈ rows, row.isRestorable = true) :
    parseNicCsv csv (writeNicCsv csv rows).bytes =
      if maxCsvBytes < nicFileSize rows then
        invalid ("NIC advanced".toList ++ " CSV exceeds 1 MiB".toList)
      else .ok (backedUpRows rows) := by
  have hne := backedUpRows_ne_nil hsome
  have hcount : (backedUpRows rows).length ≤ maxNicRows := List.length_take_le _ _
  show parseNicCsv csv (nicBytes csv (backedUpRows rows)) = _
  rw [parseNicCsv_nicBytes hcsv hne hcount fun row hr => backedUpRows_restorable hr,
    length_nicBytes hquotes hne]

/-- The first 512 restorable rows come back, and all rows are accounted for, exactly when
the file is at most 1 MiB long. -/
theorem nicCsv_roundTrip_iff {csv : CsvFormat} (hcsv : csv.Lossless)
    (hquotes : csv.QuotesWhereNeeded) {rows : List NicAdvancedRow}
    (hsome : ∃ row ∈ rows, row.isRestorable = true) :
    (parseNicCsv csv (writeNicCsv csv rows).bytes =
        .ok ((rows.filter NicAdvancedRow.isRestorable).take 512) ∧
      ((rows.filter NicAdvancedRow.isRestorable).take 512).length +
        (writeNicCsv csv rows).skipped + (writeNicCsv csv rows).truncated = rows.length) ↔
      nicFileSize rows ≤ 1024 * 1024 := by
  have hkept : (rows.filter NicAdvancedRow.isRestorable).take 512 = backedUpRows rows := rfl
  have hmax : maxCsvBytes = 1024 * 1024 := rfl
  rw [hkept, parseNicCsv_writeNicCsv hcsv hquotes hsome, hmax]
  constructor
  · rintro ⟨hread, -⟩
    by_contra hlong
    rw [if_pos (by omega)] at hread
    cases hread
  · intro hfits
    exact ⟨if_neg (by omega), nicCsv_counts csv rows⟩

theorem nicFileSize_singleton {row : NicAdvancedRow} (h : row.isRestorable = true) :
    nicFileSize [row] = CsvScan.recordSize nicNames + CsvScan.recordSize row.record := by
  unfold nicFileSize backedUpRows
  rw [List.filter_cons_of_pos h]
  rfl

theorem byteLen_replicate {c : Char} (n : Nat) (h : c.utf8Size = 1) :
    Str.byteLen (List.replicate n c) = n := by
  induction n with
  | zero => rfl
  | succ n ih =>
    rw [List.replicate_succ, Str.byteLen_cons, ih, h]
    omega

/-- A row that Restore can write back. -/
def nicRowEthernet : NicAdvancedRow :=
  ⟨"Ethernet", "Speed & Duplex", "*SpeedDuplex", "Auto, 1 Gbps", "0"⟩

theorem nicCsv_roundTrip_iff_ethernet :
    (parseNicCsv scanCsv (writeNicCsv scanCsv [nicRowEthernet]).bytes =
        .ok (([nicRowEthernet].filter NicAdvancedRow.isRestorable).take 512) ∧
      (([nicRowEthernet].filter NicAdvancedRow.isRestorable).take 512).length +
        (writeNicCsv scanCsv [nicRowEthernet]).skipped +
        (writeNicCsv scanCsv [nicRowEthernet]).truncated = [nicRowEthernet].length) ↔
      nicFileSize [nicRowEthernet] ≤ 1024 * 1024 :=
  nicCsv_roundTrip_iff scanCsv_lossless scanCsv_quotesWhereNeeded
    ⟨nicRowEthernet, List.mem_singleton_self _, by decide +kernel⟩

/-- Such a row with a long value. -/
def longNicRow : NicAdvancedRow where
  adapter := "Ethernet"
  displayName := "Network Address"
  registryKeyword := "NetworkAddress"
  displayValue := List.replicate (1024 * 1024) '0'
  registryValue := "0"

/-- The writer accepts it, the reader refuses what was written. -/
theorem longNicRow_refused :
    longNicRow.isRestorable = true ∧
      (writeNicCsv scanCsv [longNicRow]).bytes ≠ [] ∧
      parseNicCsv scanCsv (writeNicCsv scanCsv [longNicRow]).bytes ≠
        .ok (([longNicRow].filter NicAdvancedRow.isRestorable).take 512) := by
  have hblank : Str.isBlank longNicRow.displayValue = false := by
    refine Str.isBlank_eq_false_of_mem (c := '0') ?_ (by decide)
    exact List.mem_replicate.mpr ⟨by decide, rfl⟩
  have hrest : longNicRow.isRestorable = true := by
    unfold NicAdvancedRow.isRestorable
    rw [hblank]
    decide +kernel
  have hsome : ∃ row ∈ [longNicRow], row.isRestorable = true :=
    ⟨longNicRow, List.mem_singleton_self _, hrest⟩
  have hvalue : longNicRow.displayValue.byteLen = 1024 * 1024 := byteLen_replicate _ rfl
  have hlong : maxCsvBytes < nicFileSize [longNicRow] := by
    have hrow : longNicRow.displayValue.byteLen < CsvScan.recordSize longNicRow.record :=
      CsvScan.byteLen_lt_recordSize (by simp [NicAdvancedRow.record])
    rw [nicFileSize_singleton hrest, maxCsvBytes]
    omega
  refine ⟨hrest, writeNicCsv_ne_nil scanCsv_lossless hsome, ?_⟩
  rw [parseNicCsv_writeNicCsv scanCsv_lossless scanCsv_quotesWhereNeeded hsome, if_pos hlong]
  nofun

end NetworkLantern.Tuning
