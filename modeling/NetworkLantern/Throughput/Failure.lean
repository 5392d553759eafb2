import NetworkLantern.Throughput.Plan

/-!
# How a measurement fails

The failures of a throughput measurement, and which of them another attempt may
mend.  What planning refuses (`ThroughputError`) is one of them.
-/

namespace NetworkLantern.Throughput

open NetworkLantern

/-- `io::ErrorKind`, as far as the code looks at it. -/
inductive IoErrorKind
  | permissionDenied | writeZero | unexpectedEof | other
deriving DecidableEq, Repr

structure IoError where
  kind : IoErrorKind
  message : Str
deriving DecidableEq, Repr

inductive TestFailure
  | refused (e : ThroughputError)
  | cancelled
  | timeout (phase : Str) (timeoutMs : UInt64)
  | serverBusy
  | server (iperfCode systemCode : Int32)
  | unexpectedState (actual : Int8) (expected : Str)
  | controlMessageTooLarge (actual maximum : Nat)
  | invalidControlJson (message : Str)
  | io (phase : Str) (source : IoError)
  | malformedResult (message : Str)
  | retriesExhausted (attempts : UInt8) (last : TestFailure)
deriving DecidableEq

/-- A signed number in a message. -/
def signed (i : Int) : Str := if i < 0 then '-' :: decimal i.natAbs else decimal i.natAbs

namespace TestFailure

def display : TestFailure → Str
  | refused e => e.display
  | cancelled => "throughput run was cancelled"
  | timeout phase ms =>
    phase ++ " timed out after ".toList ++ decimal ms.toNat ++ " ms".toList
  | serverBusy => "iperf3 server is busy"
  | server iperf system =>
    "iperf3 server error ".toList ++ signed iperf.toInt ++ " (system error ".toList ++
      signed system.toInt ++ ")".toList
  | unexpectedState actual expected =>
    "unexpected iperf3 protocol state ".toList ++ signed actual.toInt ++ "; expected ".toList ++
      expected
  | controlMessageTooLarge actual maximum =>
    "iperf3 control JSON length ".toList ++ decimal actual ++ " exceeds configured limit ".toList ++
      decimal maximum
  | invalidControlJson message => "invalid iperf3 control JSON: ".toList ++ message
  | io phase source =>
    "network I/O failed during ".toList ++ phase ++ ": ".toList ++ source.message
  | malformedResult message => "malformed iperf3 result: ".toList ++ message
  | retriesExhausted attempts last =>
    "all ".toList ++ decimal attempts.toNat ++ " attempt(s) failed: ".toList ++ last.display

/-- `retryable`. -/
def retryable : TestFailure → Bool
  | io .. | timeout .. | serverBusy => true
  | _ => false

end TestFailure

end NetworkLantern.Throughput
