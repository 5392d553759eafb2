import NetworkLantern.Lib.Json

/-!
# Pretty JSON

The text of `serde_json::to_string_pretty`: every item on a line of its own, two
spaces a level; an empty array or object stays on its line.
-/

namespace NetworkLantern.Json

variable [FloatText]

/-- A new line at the given level. -/
def indent (level : Nat) : Str := '\n' :: List.replicate (2 * level) ' '

mutual

def prettyAt (level : Nat) : Json → Str
  | .null => "null"
  | .bool b => if b then "true" else "false"
  | .number n => renderNumber n
  | .string s => quote s
  | .array [] => "[]"
  | .array (v :: vs) => '[' :: prettyValues (level + 1) (v :: vs) ++ indent level ++ [']']
  | .object [] => ['{', '}']
  | .object (e :: es) => '{' :: prettyEntries (level + 1) (e :: es) ++ indent level ++ ['}']

def prettyValues (level : Nat) : List Json → Str
  | [] => []
  | [v] => indent level ++ prettyAt level v
  | v :: w :: vs => indent level ++ prettyAt level v ++ ',' :: prettyValues level (w :: vs)

def prettyEntries (level : Nat) : List (Str × Json) → Str
  | [] => []
  | [(k, v)] => indent level ++ quote k ++ ": ".toList ++ prettyAt level v
  | (k, v) :: e :: es =>
    indent level ++ quote k ++ ": ".toList ++ prettyAt level v ++ ',' :: prettyEntries level (e :: es)

end

/-- `serde_json::to_string_pretty`. -/
def pretty (v : Json) : Str := prettyAt 0 v

example : (Json.object [("a", .array [.null, .object []])]).pretty =
    "\x7b\n  \"a\": [\n    null,\n    \x7b\x7d\n  ]\n\x7d".toList := rfl

end NetworkLantern.Json
