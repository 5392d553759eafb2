import NetworkLantern.Helper.Types
import NetworkLantern.Lib.Checks
import Mathlib.Algebra.Order.Ring.Int

/-!
# Signed frames

A request travels in a frame that names its time of issue.  `verify` accepts a
frame from a window around the wall clock, when its authenticator is that of
the keyed hash over its fields; the hash itself is a parameter.
-/

namespace NetworkLantern.Helper

open NetworkLantern

/-! ## The code -/

def MAX_FRAME_BYTES : Nat := 1024 * 1024
def MAX_NONCES : Nat := 4096
def FRAME_VALIDITY : Nat := secs (5 * 60)
def CLOCK_SKEW : Nat := secs 30
def NONCE_TTL : Nat := secs (6 * 60)

/-- `[u8; 32]`. -/
abbrev Block := Vector UInt8 32

structure SignedFrame where
  nonce : Block
  issuedAtUnixMs : Int64
  body : Bytes
  authenticator : Block
deriving DecidableEq

/-- HMAC-SHA-256 under the secret of the server. -/
abbrev Hmac := Bytes → Block

/-- `Duration::as_millis`. -/
def asMillis (nanos : Nat) : Nat := nanos / 1000000

/-- `i64::to_be_bytes`. -/
def toBeBytes (n : Int64) : Bytes :=
  (List.range 8).reverse.map fun i => UInt8.ofNat (n.toUInt64.toNat / 256 ^ i)

def authenticator (hmac : Hmac) (nonce : Block) (issuedAtUnixMs : Int64) (body : Bytes) : Block :=
  hmac (nonce.toList ++ toBeBytes issuedAtUnixMs ++ body)

/-- The wall clock, in nanoseconds since the epoch, as `unix_millis` reads it. -/
def unixMillis (wall : Int) : Except HelperError Int64 :=
  if wall < 0 then .error .authentication
  else if asMillis wall.toNat < 2 ^ 63 then .ok (Int64.ofNat (asMillis wall.toNat))
  else .error .authentication

/-- `i64::saturating_sub` and `i64::saturating_add` of a duration in milliseconds. -/
def saturating (n : Int) : Int := max (-2 ^ 63) (min (2 ^ 63 - 1) n)

def sign (hmac : Hmac) (nonce : Block) (body : Bytes) (wall : Int) :
    Except HelperError SignedFrame :=
  if body.length > MAX_FRAME_BYTES then .error (.protocol "request exceeds 1 MiB")
  else do
    let issuedAtUnixMs ← unixMillis wall
    return ⟨nonce, issuedAtUnixMs, body, authenticator hmac nonce issuedAtUnixMs body⟩

def verify (hmac : Hmac) (frame : SignedFrame) (wall : Int) : Except HelperError Unit :=
  if frame.body.length > MAX_FRAME_BYTES then .error (.protocol "request exceeds 1 MiB")
  else do
    let now ← unixMillis wall
    let earliest := saturating (now.toInt - asMillis FRAME_VALIDITY)
    let latest := saturating (now.toInt + asMillis CLOCK_SKEW)
    if frame.issuedAtUnixMs.toInt < earliest || frame.issuedAtUnixMs.toInt > latest then
      .error .authentication
    else if authenticator hmac frame.nonce frame.issuedAtUnixMs frame.body ≠ frame.authenticator then
      .error .authentication
    else .ok ()

/-! ## The window -/

theorem unixMillis_eq_ok {wall : Int} {now : Int64} (h : unixMillis wall = .ok now) :
    0 ≤ wall ∧ now.toInt = wall / 1000000 := by
  unfold unixMillis at h
  split at h
  · cases h
  · split at h
    · rename_i hneg hlt
      cases h
      rw [Int64.toInt_ofNat_of_lt hlt]
      unfold asMillis
      exact ⟨by omega, by omega⟩
    · cases h

/-- A frame that verifies was issued at most five minutes before the wall clock,
and at most half a minute after it, in whole milliseconds. -/
theorem verify_eq_ok {hmac : Hmac} {frame : SignedFrame} {wall : Int}
    (h : verify hmac frame wall = .ok ()) :
    wall / 1000000 - 300000 ≤ frame.issuedAtUnixMs.toInt ∧
      frame.issuedAtUnixMs.toInt ≤ wall / 1000000 + 30000 := by
  unfold verify at h
  split at h
  · cases h
  · obtain ⟨now, hnow, h⟩ := except_bind_ok.mp h
    obtain ⟨hpos, hmillis⟩ := unixMillis_eq_ok hnow
    have hmax := Int64.toInt_lt now
    dsimp only at h
    split at h
    · cases h
    · rename_i hwindow
      simp only [saturating, asMillis, FRAME_VALIDITY, CLOCK_SKEW, secs, hmillis, Bool.or_eq_true,
        decide_eq_true_eq, not_or, not_lt] at hwindow
      rw [hmillis] at hmax
      omega

end NetworkLantern.Helper
