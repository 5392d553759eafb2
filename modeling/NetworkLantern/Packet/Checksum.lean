import NetworkLantern.Lib.Checked

/-!
# The internet checksum
-/

namespace NetworkLantern.Packet

open NetworkLantern

/-- The carries above 16 bits are added back until there are none. -/
def foldCarry (sum : Nat) : Nat :=
  if 65535 < sum then foldCarry (sum % 65536 + sum / 65536) else sum
termination_by sum
decreasing_by omega

/-- The sum over the 16-bit words; an odd last byte is the high half of its word. -/
def onesSum (sum : Nat) : Bytes → Nat
  | a :: b :: rest => onesSum (foldCarry (sum + (a.toNat * 256 + b.toNat))) rest
  | [a] => foldCarry (sum + a.toNat * 256)
  | [] => sum

/-- RFC 1071 one's-complement checksum. -/
def internetChecksum (bytes : Bytes) : UInt16 := UInt16.ofNat (65535 - onesSum 0 bytes)

end NetworkLantern.Packet
