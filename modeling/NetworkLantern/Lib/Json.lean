import NetworkLantern.Lib.Digits
import NetworkLantern.Lib.Entries

/-!
# JSON values

The values of `serde_json` with its sorted object map, and their compact text.
How a finite float is written is left to the crate that does it (`FloatText`).
-/

namespace NetworkLantern

/-- A number: an unsigned one, a negative one, or a finite float. -/
inductive Number
  | posInt (n : UInt64)
  | negInt (i : { i : Int // -2 ^ 63 ≤ i ∧ i < 0 })
  | float (x : { x : Float // x.isFinite = true })
deriving DecidableEq

inductive Json
  | null
  | bool (b : Bool)
  | number (n : Number)
  | string (s : Str)
  | array (values : List Json)
  | object (entries : List (Str × Json))

namespace Json

def ofNat (n : UInt64) : Json := .number (.posInt n)

/-- `Value::from(f64)`: a value that is not finite becomes `null`. -/
def ofFloat (x : Float) : Json := if h : x.isFinite = true then .number (.float ⟨x, h⟩) else .null

def ofFields (fields : List (Str × Json)) : Json := .object (Entries.ofFields fields)

def asObject : Json → Option (Entries Json)
  | .object entries => some entries
  | _ => none

def asArray : Json → Option (List Json)
  | .array values => some values
  | _ => none

def asStr : Json → Option Str
  | .string s => some s
  | _ => none

def asU64 : Json → Option UInt64
  | .number (.posInt n) => some n
  | _ => none

def asBool : Json → Option Bool
  | .bool b => some b
  | _ => none

def isNull : Json → Bool
  | .null => true
  | _ => false

/-- `value.get(key)`. -/
def get? (v : Json) (key : Str) : Option Json := v.asObject.bind fun entries => Entries.get? entries key

/-- `value[key]`. -/
def field (v : Json) (key : Str) : Json := (v.get? key).getD .null

theorem field_object (entries : List (Str × Json)) (key : Str) :
    (object entries).field key = (Entries.get? entries key).getD .null := rfl

/-- `value[key] = w` on an object; `null` becomes an object first. -/
def setField (v : Json) (key : Str) (w : Json) : Json :=
  match v with
  | .object entries => .object (Entries.insert key w entries)
  | .null => .object [(key, w)]
  | v => v

/-! ## Text -/

/-- The crate that writes floats: at most 24 bytes each. -/
class FloatText where
  text : Float → Str
  text_le : ∀ x, (text x).byteLen ≤ 24

def hexDigit (n : Nat) : Char := Nat.digitChar n

def escapeChar (c : Char) : Str :=
  if c = '"' then "\\\"" else
  if c = '\\' then "\\\\" else
  if c.toNat = 8 then "\\b" else
  if c.toNat = 12 then "\\f" else
  if c.toNat = 10 then "\\n" else
  if c.toNat = 13 then "\\r" else
  if c.toNat = 9 then "\\t" else
  if c.toNat < 32 then
    "\\u00".toList ++ [hexDigit (c.toNat / 16), hexDigit (c.toNat % 16)]
  else [c]

def quote (s : Str) : Str := '"' :: s.flatMap escapeChar ++ ['"']

variable [FloatText]

def renderNumber : Number → Str
  | .posInt n => decimal n.toNat
  | .negInt i => '-' :: decimal i.val.natAbs
  | .float x => FloatText.text x.val

mutual

/-- `serde_json::to_string`. -/
def render : Json → Str
  | .null => "null"
  | .bool b => if b then "true" else "false"
  | .number n => renderNumber n
  | .string s => quote s
  | .array values => '[' :: renderValues values ++ [']']
  | .object entries => '{' :: renderEntries entries ++ ['}']

def renderValues : List Json → Str
  | [] => []
  | [v] => render v
  | v :: w :: vs => render v ++ ',' :: renderValues (w :: vs)

def renderEntries : List (Str × Json) → Str
  | [] => []
  | [(k, v)] => quote k ++ ':' :: render v
  | (k, v) :: e :: es => quote k ++ ':' :: render v ++ ',' :: renderEntries (e :: es)

end

/-- The length of the compact text in bytes. -/
def size (v : Json) : Nat := v.render.byteLen

end Json

end NetworkLantern
