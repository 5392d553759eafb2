import NetworkLantern.Lib.Json
import NetworkLantern.Lib.Checks

/-!
# Hosts, families and times of a path diagnosis
-/

namespace NetworkLantern.Path

open NetworkLantern

inductive AddressFamily
  | ipv4 | ipv6
deriving DecidableEq, Repr

inductive ProbeError
  | invalidHost (host : Str)
  | invalidPlan (message : Str)
  | permission (operation message : Str)
  | unsupported (operation message : Str)
  | io (operation message : Str)
  | cancelled
deriving DecidableEq

def ProbeError.display : ProbeError → Str
  | .invalidHost host => "invalid host: ".toList ++ host
  | .invalidPlan message => "invalid diagnostic plan: ".toList ++ message
  | .permission operation message =>
    "native ".toList ++ operation ++ " requires permission: ".toList ++ message
  | .unsupported operation message =>
    "native ".toList ++ operation ++ " is unsupported on this platform: ".toList ++ message
  | .io operation message => "native ".toList ++ operation ++ " failed: ".toList ++ message
  | .cancelled => "operation cancelled"

def AddressFamily.name : AddressFamily → Str
  | .ipv4 => "ipv4"
  | .ipv6 => "ipv6"

/-- A `Duration`, in nanoseconds. -/
abbrev Duration := Nat

def durationJson (d : Duration) : Json :=
  .object
    [("secs", .ofNat (UInt64.ofNat (d / 1000000000))),
     ("nanos", .ofNat (UInt64.ofNat (d % 1000000000)))]

def fromSecs (n : Nat) : Duration := n * 1000000000

def fromMillis (n : UInt64) : Duration := n.toNat * 1000000

def validHost (host : Str) : Bool :=
  !(host.isEmpty || host.head? == some '-' || host.any Str.isWhitespace || host.any Str.isControl ||
    host.any fun c => ['/', '|', ';', '&', '`', '$'].contains c)

def validateHost (host : Str) : Except ProbeError Unit :=
  if validHost host then .ok () else .error (.invalidHost host)

theorem validateHost_ok {host : Str} : validateHost host = .ok () ↔ validHost host = true := by
  unfold validateHost
  by_cases h : validHost host = true
  · rw [if_pos h]
    exact ⟨fun _ => h, fun _ => rfl⟩
  · rw [if_neg h]
    constructor
    · intro herr
      cases herr
    · intro hvalid
      exact absurd hvalid h

theorem validateHosts_ok {hosts : List Str} :
    hosts.forM validateHost = .ok () ↔ ∀ host ∈ hosts, validHost host = true := by
  simp only [forM_eq_ok, validateHost_ok]

/-- The end of a planner: a plan is not empty. -/
theorem refuse_zero_ok {α : Type} {total : Nat} {e : ProbeError} {plan planned : α} :
    (refuse (total == 0) e >>= fun _ => .ok planned) = .ok plan ↔ total ≠ 0 ∧ plan = planned := by
  rw [refuse_bind_ok, beq_eq_false_iff_ne, Except.ok.injEq, eq_comm (a := plan)]

/-- `u64::checked_add`. -/
def checkedAdd (total n : Nat) : Option Nat := if total + n < 2 ^ 64 then some (total + n) else none

theorem checkedAdd_eq {total n t : Nat} (h : checkedAdd total n = some t) : t = total + n := by
  unfold checkedAdd at h
  split at h
  · exact (Option.some.inj h).symm
  · cases h

theorem checkedAdd_lt {total n t : Nat} (h : checkedAdd total n = some t) : t < 2 ^ 64 := by
  unfold checkedAdd at h
  split at h
  · next hlt => rwa [← Option.some.inj h]
  · cases h

@[simp] theorem checkedAdd_zero {total : Nat} (h : total < 2 ^ 64) :
    checkedAdd total 0 = some total := if_pos h

/-- Adding in two turns is adding the sum: neither overflows before the other. -/
theorem checkedAdd_bind (total n m : Nat) :
    ((checkedAdd total n).bind fun sum => checkedAdd sum m) = checkedAdd total (n + m) := by
  unfold checkedAdd
  by_cases hn : total + n < 2 ^ 64
  · rw [if_pos hn, Option.bind_some, Nat.add_assoc]
  · rw [if_neg hn, if_neg (by omega), Option.bind_none]

/-- A loop whose turns add: it overflows exactly when the whole sum does. -/
theorem foldlM_checkedAdd {α : Type} {turn : Nat → α → Option Nat} (size : α → Nat)
    (hturn : ∀ {sum a}, sum < 2 ^ 64 → turn sum a = checkedAdd sum (size a)) {l : List α}
    {total : Nat} (h : total < 2 ^ 64) :
    l.foldlM turn total = checkedAdd total (l.map size).sum := by
  induction l generalizing total with
  | nil => exact (checkedAdd_zero h).symm
  | cons a l ih =>
    rw [List.map_cons, List.sum_cons, ← checkedAdd_bind, List.foldlM_cons, hturn h]
    show (checkedAdd total (size a)).bind _ = _
    apply Option.bind_congr
    intro sum hsum
    exact ih (checkedAdd_lt hsum)

end NetworkLantern.Path
