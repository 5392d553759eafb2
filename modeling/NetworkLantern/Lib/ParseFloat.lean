import NetworkLantern.Lib.Text

/-!
# Reading floats

The grammar of `str::parse::<f64>`: a sign, then `inf`, `nan` or a decimal
number with an optional exponent, rounded to the nearest float.
-/

namespace NetworkLantern

/-- The value of a string of digits. -/
def digitsValue (s : Str) : Nat := s.foldl (fun n c => n * 10 + (c.toNat - 48)) 0

/-- Splits at the first character with `p`, which goes. -/
def splitAtFirst (p : Char → Bool) (s : Str) : Str × Option Str :=
  match s.dropWhile (!p ·) with
  | [] => (s, none)
  | _ :: rest => (s.takeWhile (!p ·), some rest)

def parseSign : Str → Bool × Str
  | '-' :: rest => (true, rest)
  | '+' :: rest => (false, rest)
  | s => (false, s)

def allDigits (s : Str) : Bool := s.all Char.isDigit

/-- The exponent after `e`: a sign and at least one digit. -/
def parseExponent (s : Str) : Option Int :=
  let (negative, digits) := parseSign s
  if digits.isEmpty || !allDigits digits then none
  else some (if negative then -(digitsValue digits : Int) else digitsValue digits)

/-- `m * 10 ^ e`, rounded. -/
def scientific (m : Nat) (e : Int) : Float := Float.ofScientific m (e < 0) e.natAbs

/-- A decimal number: digits before or after the point, and an exponent. -/
def parseDecimalFloat (s : Str) : Option Float :=
  let (mantissa, exponent) := splitAtFirst (fun c => c = 'e' || c = 'E') s
  let (whole, fraction) := splitAtFirst (· = '.') mantissa
  let fraction := fraction.getD []
  if (whole.isEmpty && fraction.isEmpty) || !allDigits whole || !allDigits fraction then none
  else
    (match exponent with
      | none => some 0
      | some e => parseExponent e).map fun e =>
        scientific (digitsValue (whole ++ fraction)) (e - fraction.length)

def parseUnsignedFloat (s : Str) : Option Float :=
  let lower := Str.lower s
  if lower = "inf".toList || lower = "infinity".toList then some (1.0 / 0.0)
  else if lower = "nan".toList then some (0.0 / 0.0)
  else parseDecimalFloat s

/-- `str::parse::<f64>`. -/
def parseFloat (s : Str) : Option Float :=
  let (negative, rest) := parseSign s
  (parseUnsignedFloat rest).map fun x => if negative then -x else x

example : parseFloat "1.5e3" = some 1500.0 := by decide

end NetworkLantern
