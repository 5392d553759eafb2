import NetworkLantern.Lib.Text
import Mathlib.Data.List.Nodup

/-!
# CSV with a header

A CSV library is a parameter (`CsvFormat`); a program relies on the writer and the
reader being inverse on records that fit the header (`CsvFormat.Lossless`).

`csvFields` reads a record as a struct with named fields and no others.
-/

namespace NetworkLantern

/-- Why a record does not fit a struct. -/
inductive CsvFault
  | unknownField (name : Str)
  | duplicateField (name : Str)
  | missingField (name : Str)
  | value (message : Str)
deriving DecidableEq, Repr

/-- A CSV library: what it writes for records, what it reads from bytes (a record or a
message each), and its message for a record that does not fit. -/
structure CsvFormat where
  write : List (List Str) → Bytes
  read : Bytes → List (Except Str (List Str))
  describe : CsvFault → Str

/-- A record of a plain header: its fields are ASCII letters and digits. -/
def PlainHeader (header : List Str) : Prop :=
  2 ≤ header.length ∧ ∀ name ∈ header, name ≠ [] ∧ name.all Char.isAlphanum

/-- The fields are quoted so that every record comes back; an empty file has no records. -/
structure CsvFormat.Lossless (csv : CsvFormat) : Prop where
  roundTrip : ∀ (header : List Str) (rows : List (List Str)), PlainHeader header →
    (∀ row ∈ rows, row.length = header.length) →
      csv.read (csv.write (header :: rows)) = (header :: rows).map .ok
  empty : csv.read [] = []

/-- A written file is not empty. -/
theorem CsvFormat.Lossless.write_ne_nil {csv : CsvFormat} (h : csv.Lossless) {header : List Str}
    {rows : List (List Str)} (hh : PlainHeader header)
    (hl : ∀ row ∈ rows, row.length = header.length) : csv.write (header :: rows) ≠ [] := by
  intro hnil
  have hread := h.roundTrip header rows hh hl
  rw [hnil, h.empty] at hread
  cases hread

/-- The values of the fields `names`, in their order; no other field may be there. -/
def csvFields (names header record : List Str) : Except CsvFault (List Str) :=
  match header.find? (!names.contains ·) with
  | some name => .error (.unknownField name)
  | none =>
    match header.find? fun name => 1 < header.count name with
    | some name => .error (.duplicateField name)
    | none =>
      match names.find? (!header.contains ·) with
      | some name => .error (.missingField name)
      | none => .ok (names.map fun name => ((header.zip record).lookup name).getD [])

theorem map_lookup_zip {names record : List Str} (hn : names.Nodup)
    (hl : record.length = names.length) :
    names.map (fun name => ((names.zip record).lookup name).getD []) = record := by
  induction names generalizing record with
  | nil =>
    rw [List.length_nil, List.length_eq_zero_iff] at hl
    rw [hl]
    rfl
  | cons name names ih =>
    cases record with
    | nil => cases hl
    | cons value record =>
      obtain ⟨hnew, hn⟩ := List.nodup_cons.mp hn
      rw [List.map_cons, List.zip_cons_cons, List.lookup_cons_self, Option.getD_some]
      congr 1
      refine Eq.trans (List.map_congr_left fun other ho => ?_) (ih hn (by simpa using hl))
      have hne : (other == name) = false := beq_eq_false_iff_ne.mpr (by rintro rfl; exact hnew ho)
      rw [List.lookup_cons, hne]

/-- A record under the struct's own header. -/
theorem csvFields_self {names record : List Str} (hn : names.Nodup)
    (hl : record.length = names.length) : csvFields names names record = .ok record := by
  have h1 : names.find? (!names.contains ·) = none := by simp
  have h2 : names.find? (fun name => decide (1 < names.count name)) = none := by
    rw [List.find?_eq_none]
    intro name _
    have := List.nodup_iff_count_le_one.mp hn name
    simpa using this
  unfold csvFields
  simp only [h1, h2, map_lookup_zip hn hl]

end NetworkLantern
