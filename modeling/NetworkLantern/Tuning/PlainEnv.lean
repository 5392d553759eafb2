import NetworkLantern.Lib.CsvScan
import NetworkLantern.Lib.XmlScan
import NetworkLantern.Tuning.Machine

/-!
# Plain surroundings

An `Env` that computes: the readers of plain documents, the hyphenated form of a
GUID, and the digests of the files of one run.

    (plainEnv digests).Lawful
-/

namespace NetworkLantern.Tuning

open NetworkLantern

/-- Two digits for each byte. -/
def hexBytes : Str → Option (List UInt8)
  | [] => some []
  | a :: b :: rest => do
    let byte ← parseHex [a, b]
    let bytes ← hexBytes rest
    return byte.toUInt8 :: bytes
  | [_] => none

/-- A GUID in the hyphenated form. -/
def parseGuid (s : Str) : Option Guid :=
  match s.splitOnP (· == '-') with
  | [a, b, c, d, e] =>
    if a.length = 8 ∧ b.length = 4 ∧ c.length = 4 ∧ d.length = 4 ∧ e.length = 12 then do
      let data1 ← parseHex a
      let data2 ← parseHex b
      let data3 ← parseHex c
      let data4 ← hexBytes (d ++ e)
      if h : data4.length = 8 then
        some ⟨data1.toUInt32, data2.toUInt16, data3.toUInt16, ⟨data4.toArray, by simpa using h⟩⟩
      else none
    else none
  | _ => none

/-- The digests of the files of a run, by the length of the file. -/
def plainEnv (digests : List (Nat × Str)) : Env where
  xml := scanXml
  csv := scanCsv
  sha256 bytes := (digests.lookup bytes.length).getD []
  parseUuid := parseGuid
  timestamp now := "2026-01-01T00:00:".toList ++ decimal now
  programData := r"C:\ProgramData"

theorem hexBytes_flatMap (bytes : List UInt8) :
    hexBytes (bytes.flatMap fun b => hexFixed 2 b.toNat) = some bytes := by
  induction bytes with
  | nil => rfl
  | cons b bytes ih =>
    have hlt := b.toNat_lt
    obtain ⟨x, y, hxy⟩ := List.length_eq_two.mp (length_hexFixed 2 b.toNat)
    have hbyte := parseHex_hexFixed (w := 2) (n := b.toNat) (by omega)
    rw [hxy] at hbyte
    rw [List.flatMap_cons, hxy, List.cons_append, List.cons_append, List.nil_append, hexBytes, hbyte, ih]
    simp

theorem not_hyphen_of_mem_hexFixed {w n : Nat} : ∀ c ∈ hexFixed w n, (c == '-') = false := by
  intro c hc
  obtain ⟨d, hd, rfl⟩ := hexValue_of_mem_hexFixed hc
  interval_cases d <;> decide

theorem not_hyphen_of_mem_flatMap (bytes : List UInt8) :
    ∀ c ∈ bytes.flatMap (fun b => hexFixed 2 b.toNat), (c == '-') = false := by
  intro c hc
  obtain ⟨b, -, hc⟩ := List.mem_flatMap.mp hc
  exact not_hyphen_of_mem_hexFixed c hc

theorem length_flatMap_hexFixed (bytes : List UInt8) :
    (bytes.flatMap fun b => hexFixed 2 b.toNat).length = 2 * bytes.length := by
  simp [List.length_flatMap, mul_comm]

/-- A formatted GUID parses as itself. -/
theorem parseGuid_format (guid : Guid) : parseGuid guid.format = some guid := by
  have hsplit : guid.format.splitOnP (· == '-') =
      [hexFixed 8 guid.data1.toNat, hexFixed 4 guid.data2.toNat, hexFixed 4 guid.data3.toNat,
        (guid.data4.toList.take 2).flatMap fun b => hexFixed 2 b.toNat,
        (guid.data4.toList.drop 2).flatMap fun b => hexFixed 2 b.toNat] := by
    unfold Guid.format
    simp only [List.append_assoc, List.cons_append]
    rw [List.splitOnP_append_cons_of_forall_mem not_hyphen_of_mem_hexFixed _ rfl,
      List.splitOnP_append_cons_of_forall_mem not_hyphen_of_mem_hexFixed _ rfl,
      List.splitOnP_append_cons_of_forall_mem not_hyphen_of_mem_hexFixed _ rfl,
      List.splitOnP_append_cons_of_forall_mem (not_hyphen_of_mem_flatMap _) _ rfl,
      List.splitOnP_eq_singleton (not_hyphen_of_mem_flatMap _)]
  have h1 := guid.data1.toNat_lt
  have h2 := guid.data2.toNat_lt
  have h3 := guid.data3.toNat_lt
  have hlength : guid.data4.toList.length = 8 := by simp
  unfold parseGuid
  rw [hsplit]
  simp only [length_hexFixed, length_flatMap_hexFixed, List.length_take, List.length_drop, hlength]
  rw [if_pos (by decide), parseHex_hexFixed (by omega), parseHex_hexFixed (by omega),
    parseHex_hexFixed (by omega), ← List.flatMap_append, List.take_append_drop, hexBytes_flatMap]
  simp only [Option.bind_eq_bind, Option.bind_some, dif_pos hlength]
  cases guid
  simp only [Array.toArray_toList, Vector.toList, UInt32.ofNat_toNat, UInt16.ofNat_toNat]

theorem plainEnv_lawful (digests : List (Nat × Str)) : (plainEnv digests).Lawful where
  xml := scanXml_lawful
  csv := scanCsv_lossless
  parseUuid := parseGuid_format

end NetworkLantern.Tuning
