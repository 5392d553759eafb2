import NetworkLantern.Lib.Text

/-!
# Error categories, exit codes and bounded diagnostics

The part of the shared contracts that the runtime reads.
-/

namespace NetworkLantern.Runtime

open NetworkLantern

inductive ErrorCategory
  | validation | prerequisite | connectivity | partialFailure | totalFailure | internal
  | permission | cancelled | busy
deriving DecidableEq, Repr

namespace Exit

def SUCCESS : UInt8 := 0
def FAILURE : UInt8 := 1
def INVALID_INPUT : UInt8 := 11
def PREREQUISITE : UInt8 := 12
def CONNECTIVITY : UInt8 := 13
def PARTIAL_FAILURE : UInt8 := 14
def TOTAL_FAILURE : UInt8 := 15
def INTERNAL : UInt8 := 16
def CANCELLED : UInt8 := 130
def TERMINATED : UInt8 := 143

/-- The throughput status for a failure category. -/
def throughput : ErrorCategory → UInt8
  | .validation => INVALID_INPUT
  | .prerequisite | .permission => PREREQUISITE
  | .connectivity => CONNECTIVITY
  | .partialFailure => PARTIAL_FAILURE
  | .totalFailure => TOTAL_FAILURE
  | .internal | .busy => INTERNAL
  | .cancelled => CANCELLED

def isInterrupted (code : UInt8) : Bool := code == CANCELLED || code == TERMINATED

/-- Throughput keeps its status table, other capabilities report 1 for every failure. -/
def forCapability (isThroughput : Bool) (code : UInt8) : UInt8 :=
  if isThroughput || code == SUCCESS || isInterrupted code then code else FAILURE

def forError (isThroughput : Bool) (category : ErrorCategory) : UInt8 :=
  forCapability isThroughput (throughput category)

/-- The exit policy never turns an interruption into another status, nor another status into
an interruption. -/
theorem isInterrupted_forCapability (isThroughput : Bool) (code : UInt8) :
    isInterrupted (forCapability isThroughput code) = isInterrupted code := by
  unfold forCapability
  by_cases h : (isThroughput || code == SUCCESS || isInterrupted code) = true
  · rw [if_pos h]
  · rw [if_neg h]
    have hcode : isInterrupted code = false := by
      simp only [Bool.or_eq_true, not_or, Bool.not_eq_true] at h
      exact h.2
    rw [hcode]
    rfl

theorem isInterrupted_throughput (category : ErrorCategory) :
    isInterrupted (throughput category) = true ↔ category = .cancelled := by
  cases category <;> decide

end Exit

/-! ## Bounded texts -/

/-- `is_char_boundary`. -/
def isCharBoundary (text : Str) (n : Nat) : Bool := (Str.takeBytes n text).isSome

/-- The walk `while !text.is_char_boundary(end) { end -= 1 }`. -/
def boundaryBelow (text : Str) : Nat → Nat
  | 0 => 0
  | n + 1 => if isCharBoundary text (n + 1) then n + 1 else boundaryBelow text n

/-- The longest start of a text of at most `limit` bytes. -/
def boundedText (text : Str) (limit : Nat) : Str :=
  (Str.takeBytes (boundaryBelow text (min text.byteLen limit)) text).getD []

theorem boundaryBelow_le (text : Str) (n : Nat) : boundaryBelow text n ≤ n := by
  induction n with
  | zero => exact Nat.le_refl 0
  | succ n ih =>
    unfold boundaryBelow
    split
    · exact Nat.le_refl _
    · omega

/-- The walk ends at a boundary, so the slice that follows it cannot fail. -/
theorem isCharBoundary_boundaryBelow (text : Str) (n : Nat) :
    isCharBoundary text (boundaryBelow text n) = true := by
  induction n with
  | zero => cases text <;> rfl
  | succ n ih =>
    unfold boundaryBelow
    split
    · assumption
    · exact ih

theorem takeBytes_boundedText (text : Str) (limit : Nat) :
    Str.takeBytes (boundaryBelow text (min text.byteLen limit)) text =
      some (boundedText text limit) := by
  have h := isCharBoundary_boundaryBelow text (min text.byteLen limit)
  unfold boundedText
  obtain ⟨t, ht⟩ := Option.isSome_iff_exists.mp h
  rw [ht]
  rfl

/-- A bounded text has at most `limit` bytes. -/
theorem byteLen_boundedText_le (text : Str) (limit : Nat) :
    (boundedText text limit).byteLen ≤ limit := by
  have hlen := Str.byteLen_of_takeBytes (takeBytes_boundedText text limit)
  have hle := boundaryBelow_le text (min text.byteLen limit)
  rw [hlen]
  exact hle.trans (Nat.min_le_right _ _)

def MAX_DIAGNOSTIC_BYTES : Nat := 16 * 1024

structure Error where
  category : ErrorCategory
  message : Str
deriving DecidableEq, Repr

theorem boundaryBelow_lower (text : Str) (n : Nat) :
    boundaryBelow (Str.lower text) n = boundaryBelow text n := by
  induction n with
  | zero => rfl
  | succ n ih =>
    have hsome : isCharBoundary (Str.lower text) (n + 1) = isCharBoundary text (n + 1) := by
      unfold isCharBoundary
      rw [Str.takeBytes_lower, Option.isSome_map]
    unfold boundaryBelow
    rw [hsome, ih]

/-- A text is cut where its small letters are. -/
theorem lower_boundedText (text : Str) (limit : Nat) :
    Str.lower (boundedText text limit) = boundedText (Str.lower text) limit := by
  unfold boundedText
  rw [Str.byteLen_lower, boundaryBelow_lower, Str.takeBytes_lower]
  cases Str.takeBytes (boundaryBelow text (min text.byteLen limit)) text <;> rfl

def Error.new (category : ErrorCategory) (message : Str) : Error :=
  ⟨category, boundedText message MAX_DIAGNOSTIC_BYTES⟩

end NetworkLantern.Runtime
