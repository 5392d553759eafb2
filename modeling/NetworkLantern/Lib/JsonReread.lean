import NetworkLantern.Lib.Json

/-!
# JSON that is written and read back

A document that is written and then read comes back with the same texts, whole numbers
and keys.  Its floats are what the crate makes of their texts (`FloatReread`), and a
document that is nested too deep is not read at all (`RECURSION_LIMIT`).
-/

namespace NetworkLantern.Json

/-- The float that is read from the text of a finite float. -/
class FloatReread where
  reread : { x : Float // x.isFinite = true } → { x : Float // x.isFinite = true }

/-- The levels that the parser of `serde_json` goes down. -/
def RECURSION_LIMIT : Nat := 127

mutual

/-- The levels of arrays and objects. -/
def depth : Json → Nat
  | .null => 0
  | .bool _ => 0
  | .number _ => 0
  | .string _ => 0
  | .array values => depthValues values + 1
  | .object entries => depthEntries entries + 1

def depthValues : List Json → Nat
  | [] => 0
  | v :: vs => max v.depth (depthValues vs)

def depthEntries : List (Str × Json) → Nat
  | [] => 0
  | (_, v) :: es => max v.depth (depthEntries es)

end

theorem depthValues_le {n : Nat} {values : List Json} :
    depthValues values ≤ n ↔ ∀ v ∈ values, v.depth ≤ n := by
  induction values with
  | nil => exact iff_of_true (Nat.zero_le n) fun v hv => absurd hv List.not_mem_nil
  | cons v vs ih =>
    show max v.depth (depthValues vs) ≤ n ↔ _
    rw [Nat.max_le, ih, List.forall_mem_cons]

theorem depthEntries_insert (key : Str) (v : Json) (entries : Entries Json) :
    depthEntries (Entries.insert key v entries) =
      max v.depth (depthEntries (Entries.insert key .null entries)) := by
  induction entries with
  | nil =>
    show max v.depth 0 = max v.depth (max 0 0)
    omega
  | cons e es ih =>
    obtain ⟨l, w⟩ := e
    unfold Entries.insert
    by_cases hl : key = l
    · rw [if_pos hl, if_pos hl]
      show max v.depth (depthEntries es) = max v.depth (max 0 (depthEntries es))
      omega
    · rw [if_neg hl, if_neg hl]
      by_cases hbefore : Entries.before key l = true
      · rw [if_pos hbefore, if_pos hbefore]
        show max v.depth _ = max v.depth (max 0 _)
        omega
      · rw [if_neg hbefore, if_neg hbefore]
        show max w.depth (depthEntries (Entries.insert key v es)) =
          max v.depth (max w.depth (depthEntries (Entries.insert key .null es)))
        rw [ih]
        omega

theorem depthEntries_insert_null (key : Str) (entries : Entries Json) :
    depthEntries (Entries.insert key .null entries) ≤ depthEntries entries := by
  induction entries with
  | nil => exact Nat.le_refl 0
  | cons e es ih =>
    obtain ⟨l, w⟩ := e
    unfold Entries.insert
    by_cases hl : key = l
    · rw [if_pos hl]
      show max 0 (depthEntries es) ≤ max w.depth (depthEntries es)
      omega
    · rw [if_neg hl]
      by_cases hbefore : Entries.before key l = true
      · rw [if_pos hbefore]
        show max 0 (max w.depth (depthEntries es)) ≤ max w.depth (depthEntries es)
        omega
      · rw [if_neg hbefore]
        show max w.depth (depthEntries (Entries.insert key .null es)) ≤
          max w.depth (depthEntries es)
        omega

/-- A field adds its own levels to those of the others. -/
theorem depth_setField (entries : Entries Json) (key : Str) (v : Json) :
    ((object entries).setField key v).depth =
      max (v.depth + 1) ((object entries).setField key .null).depth := by
  show depthEntries (Entries.insert key v entries) + 1 =
    max (v.depth + 1) (depthEntries (Entries.insert key .null entries) + 1)
  rw [depthEntries_insert]
  omega

theorem depthEntries_le {n : Nat} {entries : List (Str × Json)} :
    depthEntries entries ≤ n ↔ ∀ e ∈ entries, e.2.depth ≤ n := by
  induction entries with
  | nil => exact iff_of_true (Nat.zero_le n) fun e he => absurd he List.not_mem_nil
  | cons e es ih =>
    show max e.2.depth (depthEntries es) ≤ n ↔ _
    rw [Nat.max_le, ih, List.forall_mem_cons]

/-- What a key is bound to lies a level below. -/
theorem depth_of_get? {v w : Json} {key : Str} (h : v.get? key = some w) : w.depth + 1 ≤ v.depth := by
  cases v with
  | object entries =>
    exact Nat.succ_le_succ (depthEntries_le.mp (Nat.le_refl _) (key, w) (Entries.mem_of_get? h))
  | _ => cases h

theorem depth_setField_le {v w : Json} {key : Str} {n : Nat} (hv : v.depth ≤ n)
    (hw : w.depth + 1 ≤ n) : (v.setField key w).depth ≤ n := by
  cases v with
  | object entries =>
    rw [depth_setField]
    have : ((object entries).setField key .null).depth ≤ n :=
      Nat.le_trans (Nat.succ_le_succ (depthEntries_insert_null key entries)) hv
    omega
  | null =>
    show max w.depth 0 + 1 ≤ n
    omega
  | _ => exact hv

variable [FloatReread]

def rereadNumber : Number → Number
  | .posInt n => .posInt n
  | .negInt i => .negInt i
  | .float x => .float (FloatReread.reread x)

mutual

def reread : Json → Json
  | .null => .null
  | .bool b => .bool b
  | .number n => .number (rereadNumber n)
  | .string s => .string s
  | .array values => .array (rereadValues values)
  | .object entries => .object (rereadEntries entries)

def rereadValues : List Json → List Json
  | [] => []
  | v :: vs => v.reread :: rereadValues vs

def rereadEntries : List (Str × Json) → List (Str × Json)
  | [] => []
  | (k, v) :: es => (k, v.reread) :: rereadEntries es

end

/-- What is read of a document that was written. -/
def readBack (v : Json) : Option Json := if RECURSION_LIMIT < v.depth then none else some v.reread

theorem rereadValues_eq (vs : List Json) : rereadValues vs = vs.map reread := by
  induction vs with
  | nil => rfl
  | cons v vs ih => rw [rereadValues, ih, List.map_cons]

theorem rereadEntries_eq (es : List (Str × Json)) :
    rereadEntries es = es.map fun e => (e.1, e.2.reread) := by
  induction es with
  | nil => rfl
  | cons e es ih => rw [rereadEntries, ih, List.map_cons]

@[simp] theorem reread_null : null.reread = null := rfl

@[simp] theorem reread_string (s : Str) : (string s).reread = string s := rfl

@[simp] theorem reread_ofNat (n : UInt64) : (ofNat n).reread = ofNat n := rfl

@[simp] theorem asU64_reread (v : Json) : v.reread.asU64 = v.asU64 := by
  cases v with
  | number n => cases n <;> rfl
  | _ => rfl

@[simp] theorem asStr_reread (v : Json) : v.reread.asStr = v.asStr := by cases v <;> rfl

theorem asArray_reread (v : Json) : v.reread.asArray = v.asArray.map (List.map reread) := by
  cases v with
  | array values => exact congrArg some (rereadValues_eq values)
  | _ => rfl

theorem asObject_reread (v : Json) :
    v.reread.asObject = v.asObject.map fun es => es.map fun e => (e.1, e.2.reread) := by
  cases v with
  | object entries => exact congrArg some (rereadEntries_eq entries)
  | _ => rfl

mutual

theorem depth_reread (v : Json) : v.reread.depth = v.depth := by
  match v with
  | .null => rfl
  | .bool _ => rfl
  | .number _ => rfl
  | .string _ => rfl
  | .array values => exact congrArg (· + 1) (depthValues_reread values)
  | .object entries => exact congrArg (· + 1) (depthEntries_reread entries)

theorem depthValues_reread (vs : List Json) : depthValues (rereadValues vs) = depthValues vs := by
  match vs with
  | [] => rfl
  | v :: vs => exact congrArg₂ max (depth_reread v) (depthValues_reread vs)

theorem depthEntries_reread (es : List (Str × Json)) :
    depthEntries (rereadEntries es) = depthEntries es := by
  match es with
  | [] => rfl
  | (_, v) :: es => exact congrArg₂ max (depth_reread v) (depthEntries_reread es)

end

/-- A key is bound to what was read of its value. -/
theorem get?_reread (v : Json) (key : Str) : v.reread.get? key = (v.get? key).map reread := by
  unfold get?
  rw [asObject_reread]
  cases v.asObject with
  | none => rfl
  | some entries =>
    show Entries.get? (entries.map fun e => (e.1, e.2.reread)) key = _
    induction entries with
    | nil => rfl
    | cons e es ih =>
      obtain ⟨k, w⟩ := e
      rw [List.map_cons, Entries.get?_cons, ih]
      show _ = (Entries.get? ((k, w) :: es) key).map reread
      rw [Entries.get?_cons, apply_ite (Option.map reread)]
      rfl

end NetworkLantern.Json
