import NetworkLantern.Runtime.Contracts

/-!
# Helper errors and identifiers

What the modules of the privileged helper share.  Instants and durations are in
nanoseconds.
-/

namespace NetworkLantern.Helper

open NetworkLantern

abbrev Uuid := BitVec 128

/-- `Duration::from_secs`. -/
def secs (n : Nat) : Nat := n * 1000000000

/-- The source of a transport error is kept as its text. -/
inductive HelperError
  | validation (message : Str)
  | authorization (message : Str)
  | unavailable (message : Str)
  | authentication
  | replay
  | scope (message : Str)
  | protocol (message : Str)
  | transport (operation source : Str)
  | cancelled
  | tuning (message : Str)
  | probe (message : Str)
  | diagnostic (error : Runtime.Error)
deriving DecidableEq, Repr

end NetworkLantern.Helper
