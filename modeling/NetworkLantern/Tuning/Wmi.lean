import NetworkLantern.Tuning.Types

/-!
# Provider rows

What a CIM query returns.  A field that the provider leaves empty is absent, so
no value stands for "empty".
-/

namespace NetworkLantern.Tuning

open NetworkLantern

/-- A property value of a provider row. -/
inductive Value
  | string (value : Str)
  | strings (values : List Str)
  | number (value : Int)
  | bool (value : Bool)
deriving DecidableEq, Repr

/-- The properties of a provider instance, by name. -/
abbrev Fields := String → Option Value

namespace Fields

/-- The properties of a list of names and values. -/
def ofList (values : List (String × Value)) : Fields := fun name => values.lookup name

/-- Sets one property. -/
def put (fields : Fields) (name : String) (value : Value) : Fields :=
  fun k => if k = name then some value else fields k

@[simp] theorem put_self (fields : Fields) (name : String) (value : Value) :
    fields.put name value name = some value := by simp [put]

theorem put_of_ne (fields : Fields) {name k : String} (value : Value) (h : k ≠ name) :
    fields.put name value k = fields k := by simp [put, h]

end Fields

/-- A row of a query: which instance it is and the properties asked for. -/
structure Row where
  object : Nat
  fields : Fields

namespace Row

def string (row : Row) (name : String) : Option Str :=
  match row.fields name with
  | some (.string value) => some value
  | _ => none

def strings (row : Row) (name : String) : Option (List Str) :=
  match row.fields name with
  | some (.strings values) => some values
  | _ => none

def number (row : Row) (name : String) : Option Int :=
  match row.fields name with
  | some (.number value) => some value
  | _ => none

def boolean (row : Row) (name : String) : Option Bool :=
  match row.fields name with
  | some (.bool value) => some value
  | _ => none

theorem string_of {row : Row} {k : String} {v : Str} (h : row.fields k = some (.string v)) :
    row.string k = some v := by simp [string, h]

theorem string_none {row : Row} {k : String} (h : row.fields k = none) :
    row.string k = none := by simp [string, h]

theorem number_of {row : Row} {k : String} {v : Int} (h : row.fields k = some (.number v)) :
    row.number k = some v := by simp [number, h]

theorem number_none {row : Row} {k : String} (h : row.fields k = none) :
    row.number k = none := by simp [number, h]

end Row

end NetworkLantern.Tuning
