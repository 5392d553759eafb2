import NetworkLantern.Lib.Digits

/-!
# IPv6 addresses in text

Which texts `Ipv6Addr::from_str` accepts: eight groups, `::` for the groups left
out, and an IPv4 address in place of the last two.
-/

namespace NetworkLantern

/-- At most `width` digits that `value` knows; `none` if there are more, or none. -/
def readDigits (value : Char → Option Nat) (width : Nat) (s : Str) : Option (Str × Str) :=
  let digits := s.takeWhile fun c => (value c).isSome
  if digits.isEmpty || decide (width < digits.length) then none
  else some (digits, s.dropWhile fun c => (value c).isSome)

def decimalValue (c : Char) : Option Nat := if c.isDigit then some (c.toNat - 48) else none

/-- A group of an IPv6 address. -/
def readGroup (s : Str) : Option Str := (readDigits hexValue 4 s).map Prod.snd

/-- A part of an IPv4 address, without a zero in front. -/
def readOctet (s : Str) : Option Str :=
  (readDigits decimalValue 3 s).bind fun (digits, rest) =>
    match digits with
    | '0' :: _ :: _ => none
    | _ => if digits.foldl (fun n c => n * 10 + (c.toNat - 48)) 0 ≤ 255 then some rest else none

/-- Reads a separator first, except at index 0. -/
def readSeparated (separator : Char) (index : Nat) (read : Str → Option Str) (s : Str) :
    Option Str :=
  if index = 0 then read s
  else
    match s with
    | [] => none
    | c :: rest => if c = separator then read rest else none

def readIpv4 (s : Str) : Option Str :=
  (List.range 4).foldlM (fun rest i => readSeparated '.' i readOctet rest) s

/-- The groups from `index` on, at most `left` of them: how many there are in
all, whether an IPv4 address ended them, and the rest of the text. -/
def readGroups : Nat → Nat → Str → Nat × Bool × Str
  | 0, index, s => (index, false, s)
  | left + 1, index, s =>
    match if left = 0 then none else readSeparated ':' index readIpv4 s with
    | some rest => (index + 2, true, rest)
    | none =>
      match readSeparated ':' index readGroup s with
      | none => (index, false, s)
      | some rest => readGroups left (index + 1) rest

def isIpv6 (s : Str) : Bool :=
  match readGroups 8 0 s with
  | (8, _, rest) => rest.isEmpty
  | (_, true, _) => false
  | (n, false, ':' :: ':' :: tail) => (readGroups (7 - n) 0 tail).2.2.isEmpty
  | _ => false

end NetworkLantern
