import NetworkLantern.Lib.Json
import NetworkLantern.Lib.Checks

/-!
# Typed values in JSON

How derived `serde` code writes and reads the values of a configuration.  A
reader that refuses a value returns `none`; what a writer writes, the reader of
the same type reads back.
-/

namespace NetworkLantern

namespace Json

variable {α : Type}

def ofU8 (n : UInt8) : Json := .ofNat n.toUInt64
def ofU16 (n : UInt16) : Json := .ofNat n.toUInt64
def ofU32 (n : UInt32) : Json := .ofNat n.toUInt64

def toU8 : Json → Option UInt8
  | .number (.posInt n) => if n.toNat < 2 ^ 8 then some n.toUInt8 else none
  | _ => none

def toU16 : Json → Option UInt16
  | .number (.posInt n) => if n.toNat < 2 ^ 16 then some n.toUInt16 else none
  | _ => none

def toU32 : Json → Option UInt32
  | .number (.posInt n) => if n.toNat < 2 ^ 32 then some n.toUInt32 else none
  | _ => none

/-- `f64`: any number. -/
def toFloat : Json → Option Float
  | .number (.posInt n) => some n.toFloat
  | .number (.negInt i) => some (-(UInt64.ofNat i.val.natAbs).toFloat)
  | .number (.float x) => some x.val
  | _ => none

def ofOption (write : α → Json) : Option α → Json
  | none => .null
  | some x => write x

def toOption (read : Json → Option α) : Json → Option (Option α)
  | .null => some none
  | v => (read v).map some

def ofList (write : α → Json) (xs : List α) : Json := .array (xs.map write)

def toList (read : Json → Option α) : Json → Option (List α)
  | .array vs => vs.mapM read
  | _ => none

/-- A unit variant: its name, also as the only key of an object over `null`. -/
def toVariant (names : List (Str × α)) : Json → Option α
  | .string s => List.lookup s names
  | .object [(k, .null)] => List.lookup k names
  | _ => none

/-- A field that has to be there. -/
def required (read : Json → Option α) (entries : Entries Json) (name : Str) : Option α :=
  (Entries.get? entries name).bind read

/-! ## Round trips -/

@[simp] theorem toU8_ofU8 (n : UInt8) : (ofU8 n).toU8 = some n := by
  have hlt : n.toUInt64.toNat < 2 ^ 8 := by
    rw [UInt8.toNat_toUInt64]
    exact n.toNat_lt
  show (if n.toUInt64.toNat < 2 ^ 8 then some n.toUInt64.toUInt8 else none) = some n
  rw [if_pos hlt, UInt8.toUInt8_toUInt64]

@[simp] theorem toU16_ofU16 (n : UInt16) : (ofU16 n).toU16 = some n := by
  have hlt : n.toUInt64.toNat < 2 ^ 16 := by
    rw [UInt16.toNat_toUInt64]
    exact n.toNat_lt
  show (if n.toUInt64.toNat < 2 ^ 16 then some n.toUInt64.toUInt16 else none) = some n
  rw [if_pos hlt, UInt16.toUInt16_toUInt64]

@[simp] theorem toU32_ofU32 (n : UInt32) : (ofU32 n).toU32 = some n := by
  have hlt : n.toUInt64.toNat < 2 ^ 32 := by
    rw [UInt32.toNat_toUInt64]
    exact n.toNat_lt
  show (if n.toUInt64.toNat < 2 ^ 32 then some n.toUInt64.toUInt32 else none) = some n
  rw [if_pos hlt, UInt32.toUInt32_toUInt64]

@[simp] theorem asU64_ofNat (n : UInt64) : (ofNat n).asU64 = some n := rfl

@[simp] theorem asStr_string (s : Str) : (Json.string s).asStr = some s := rfl

@[simp] theorem asBool_bool (b : Bool) : (Json.bool b).asBool = some b := rfl

theorem toFloat_ofFloat {x : Float} (h : x.isFinite = true) : (ofFloat x).toFloat = some x := by
  unfold ofFloat
  rw [dif_pos h]
  rfl

/-- A writer that never writes `null`, and whose values are read back. -/
structure ReadsBack (write : α → Json) (read : Json → Option α) (x : α) : Prop where
  read : read (write x) = some x
  notNull : write x ≠ .null

theorem toOption_ofOption {write : α → Json} {read : Json → Option α} {o : Option α}
    (h : ∀ x, o = some x → ReadsBack write read x) :
    toOption read (ofOption write o) = some o := by
  cases o with
  | none => rfl
  | some x =>
    obtain ⟨hread, hnull⟩ := h x rfl
    show toOption read (write x) = _
    unfold toOption
    split
    · contradiction
    · rw [hread]
      rfl

theorem toList_ofList {write : α → Json} {read : Json → Option α} {xs : List α}
    (h : ∀ x ∈ xs, read (write x) = some x) : toList read (ofList write xs) = some xs := by
  show (xs.map write).mapM read = some xs
  induction xs with
  | nil => rfl
  | cons x xs ih =>
    rw [List.map_cons, List.mapM_cons, h x List.mem_cons_self,
      ih fun y hy => h y (List.mem_cons_of_mem _ hy)]
    rfl

theorem required_of_get? {e : Entries Json} {name : Str} {v : Json} {read : Json → Option α} {x : α}
    (hv : Entries.get? e name = some v) (hx : read v = some x) : required read e name = some x := by
  unfold required
  rw [hv]
  exact hx

theorem required_ofFields {fields : List (Str × Json)} (hn : (fields.map Prod.fst).Nodup)
    {name : Str} {v : Json} {read : Json → Option α} {x : α}
    (hv : List.lookup name fields = some v) (hx : read v = some x) :
    required read (Entries.ofFields fields) name = some x :=
  required_of_get? ((Entries.get?_ofFields hn name).trans hv) hx

end Json

end NetworkLantern
