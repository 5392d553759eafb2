import NetworkLantern.Lib.Checks
import NetworkLantern.Lib.Text

/-!
# Checked reads

Indexing, slicing and subtraction as the source language checks them: outside
their range they panic.  `Meets P x` says that `x` does not panic and that what
it returns satisfies `P`; the rules below follow the operations.
-/

namespace NetworkLantern

/-- How a computation stops without a value. -/
inductive Fault (ε : Type)
  | error (e : ε)
  | panic
deriving DecidableEq

abbrev Checked (ε α : Type) := Except (Fault ε) α

namespace Checked

variable {ε α β : Type}

/-- `Err(e)`. -/
def fail (e : ε) : Checked ε α := .error (.error e)

def panic : Checked ε α := .error .panic

/-- `bytes[i]`. -/
def index (bytes : Bytes) (i : Nat) : Checked ε UInt8 :=
  match bytes[i]? with
  | some b => .ok b
  | none => panic

/-- `&bytes[lo..hi]`. -/
def slice (bytes : Bytes) (lo hi : Nat) : Checked ε Bytes :=
  if lo ≤ hi ∧ hi ≤ bytes.length then .ok ((bytes.drop lo).take (hi - lo)) else panic

/-- `&bytes[lo..]`. -/
def sliceFrom (bytes : Bytes) (lo : Nat) : Checked ε Bytes :=
  if lo ≤ bytes.length then .ok (bytes.drop lo) else panic

/-- `a - b` on unsigned numbers. -/
def sub (a b : Nat) : Checked ε Nat := if b ≤ a then .ok (a - b) else panic

/-- `<[u8; n]>::try_from(bytes).expect(..)`. -/
def exactly (n : Nat) (bytes : Bytes) : Checked ε { b : Bytes // b.length = n } :=
  if h : bytes.length = n then .ok ⟨bytes, h⟩ else panic

/-- `result.ok()`. -/
def attempt {δ : Type} : Checked ε α → Checked δ (Option α)
  | .ok a => .ok (some a)
  | .error (.error _) => .ok none
  | .error .panic => panic

/-- A computation without errors, where errors are possible. -/
def infallible : Checked Empty α → Checked ε α
  | .ok a => .ok a
  | .error _ => panic

/-! ## Rules -/

def Meets (P : α → Prop) : Checked ε α → Prop
  | .ok a => P a
  | .error (.error _) => True
  | .error .panic => False

/-- No panic. -/
def Safe (x : Checked ε α) : Prop := x.Meets fun _ => True

theorem safe_iff {x : Checked ε α} : Safe x ↔ x ≠ panic := by
  unfold panic
  cases x with
  | ok a =>
    constructor
    · intro _ h
      cases h
    · intro _
      trivial
  | error f =>
    cases f with
    | error e =>
      constructor
      · intro _ h
        cases h
      · intro _
        trivial
    | panic => exact ⟨fun h => h.elim, fun h => h rfl⟩

@[simp] theorem meets_ok {P : α → Prop} (a : α) : Meets P (.ok a : Checked ε α) ↔ P a := Iff.rfl

@[simp] theorem meets_pure {P : α → Prop} (a : α) : Meets P (pure a : Checked ε α) ↔ P a := Iff.rfl

@[simp] theorem meets_fail {P : α → Prop} (e : ε) : Meets P (fail e : Checked ε α) := trivial

theorem Meets.mono {P Q : α → Prop} {x : Checked ε α} (h : x.Meets P) (hpq : ∀ a, P a → Q a) :
    x.Meets Q := by
  cases x with
  | ok a => exact hpq a h
  | error f =>
    cases f with
    | error e => trivial
    | panic => exact h

theorem Meets.safe {P : α → Prop} {x : Checked ε α} (h : x.Meets P) : x.Safe :=
  h.mono fun _ _ => trivial

theorem Meets.of_ok {P : α → Prop} {x : Checked ε α} (h : x.Meets P) {a : α} (ha : x = .ok a) :
    P a := by
  rw [ha] at h
  exact h

/-- A computation after another one. -/
theorem Meets.bind {P : α → Prop} {Q : β → Prop} {x : Checked ε α} {f : α → Checked ε β}
    (hx : x.Meets P) (hf : ∀ a, P a → (f a).Meets Q) : (x >>= f).Meets Q := by
  cases x with
  | ok a => exact hf a hx
  | error e =>
    cases e with
    | error e => trivial
    | panic => exact hx.elim

theorem meets_ite {P : α → Prop} {c : Prop} [Decidable c] {x y : Checked ε α}
    (hx : c → x.Meets P) (hy : ¬ c → y.Meets P) : (if c then x else y).Meets P := by
  by_cases h : c
  · rw [if_pos h]
    exact hx h
  · rw [if_neg h]
    exact hy h

theorem Meets.attempt {δ : Type} {P : α → Prop} {x : Checked ε α} (h : x.Meets P) :
    Meets (fun o => ∀ a, o = some a → P a) (attempt x : Checked δ (Option α)) := by
  cases x with
  | ok a =>
    intro b hb
    cases hb
    exact h
  | error f =>
    cases f with
    | error e => nofun
    | panic => exact h

/-- What is attempted without a panic yields an option. -/
theorem Safe.attempt_ok {δ : Type} {x : Checked ε α} (h : Safe x) :
    ∃ o, (attempt x : Checked δ (Option α)) = .ok o := by
  cases x with
  | ok a => exact ⟨some a, rfl⟩
  | error f =>
    cases f with
    | error e => exact ⟨none, rfl⟩
    | panic => exact h.elim

theorem ite_ok {c : Prop} [Decidable c] {x y : Checked ε α} (hx : c → ∃ a, x = .ok a)
    (hy : ¬ c → ∃ a, y = .ok a) : ∃ a, (if c then x else y) = .ok a := by
  by_cases h : c
  · rw [if_pos h]
    exact hx h
  · rw [if_neg h]
    exact hy h

theorem index_ok {bytes : Bytes} {i : Nat} {b : UInt8} (h : bytes[i]? = some b) :
    (index bytes i : Checked ε UInt8) = .ok b := by
  unfold index
  rw [h]

theorem meets_index {bytes : Bytes} {i : Nat} (h : i < bytes.length) :
    Meets (fun b => bytes[i]? = some b) (index bytes i : Checked ε UInt8) := by
  rw [index_ok (List.getElem?_eq_getElem h)]
  exact List.getElem?_eq_getElem h

theorem slice_ok {bytes : Bytes} {lo hi : Nat} (hlo : lo ≤ hi) (hhi : hi ≤ bytes.length) :
    (slice bytes lo hi : Checked ε Bytes) = .ok ((bytes.drop lo).take (hi - lo)) :=
  if_pos ⟨hlo, hhi⟩

theorem meets_slice {bytes : Bytes} {lo hi : Nat} (hlo : lo ≤ hi) (hhi : hi ≤ bytes.length) :
    Meets (fun b => b.length = hi - lo) (slice bytes lo hi : Checked ε Bytes) := by
  rw [slice_ok hlo hhi, meets_ok, List.length_take, List.length_drop]
  omega

theorem sliceFrom_ok {bytes : Bytes} {lo : Nat} (h : lo ≤ bytes.length) :
    (sliceFrom bytes lo : Checked ε Bytes) = .ok (bytes.drop lo) := if_pos h

theorem meets_sliceFrom {bytes : Bytes} {lo : Nat} (h : lo ≤ bytes.length) :
    Meets (fun b => b = bytes.drop lo) (sliceFrom bytes lo : Checked ε Bytes) := by
  rw [sliceFrom_ok h]
  rfl

theorem sub_ok {a b : Nat} (h : b ≤ a) : (sub a b : Checked ε Nat) = .ok (a - b) := if_pos h

theorem meets_exactly {n : Nat} {bytes : Bytes} (h : bytes.length = n) :
    Meets (fun b => b.val = bytes) (exactly n bytes : Checked ε _) := by
  unfold exactly
  rw [dif_pos h]
  rfl

/-! ## Lists and counters -/

section Lists

variable {γ : Type}

/-- `xs[i]`. -/
def getAt (xs : List γ) (i : Nat) : Checked ε γ :=
  match xs[i]? with
  | some x => .ok x
  | none => panic

/-- `xs[i] = x`. -/
def setAt (xs : List γ) (i : Nat) (x : γ) : Checked ε (List γ) :=
  if i < xs.length then .ok (xs.set i x) else panic

/-- `&xs[lo..hi]`. -/
def sliceOf (xs : List γ) (lo hi : Nat) : Checked ε (List γ) :=
  if lo ≤ hi ∧ hi ≤ xs.length then .ok ((xs.drop lo).take (hi - lo)) else panic

/-- `n + 1` on a type with `size` values. -/
def bump (size n : Nat) : Checked ε Nat := if n + 1 < size then .ok (n + 1) else panic

theorem getAt_ok {xs : List γ} {i : Nat} {x : γ} (h : xs[i]? = some x) :
    (getAt xs i : Checked ε γ) = .ok x := by
  unfold getAt
  rw [h]

theorem meets_getAt {xs : List γ} {i : Nat} (h : i < xs.length) :
    Meets (fun x => xs[i]? = some x) (getAt xs i : Checked ε γ) := by
  rw [getAt_ok (List.getElem?_eq_getElem h)]
  exact List.getElem?_eq_getElem h

theorem setAt_ok {xs : List γ} {i : Nat} (h : i < xs.length) (x : γ) :
    (setAt xs i x : Checked ε (List γ)) = .ok (xs.set i x) := if_pos h

theorem sliceOf_ok {xs : List γ} {lo hi : Nat} (hlo : lo ≤ hi) (hhi : hi ≤ xs.length) :
    (sliceOf xs lo hi : Checked ε (List γ)) = .ok ((xs.drop lo).take (hi - lo)) := if_pos ⟨hlo, hhi⟩

theorem bump_ok {size n : Nat} (h : n + 1 < size) : (bump size n : Checked ε Nat) = .ok (n + 1) :=
  if_pos h

end Lists

end Checked

/-! ## Big-endian numbers -/

/-- `u16::from_be_bytes`. -/
def u16OfBe (a b : UInt8) : UInt16 := UInt16.ofNat (a.toNat * 256 + b.toNat)

/-- `u32::from_be_bytes`. -/
def u32OfBe (a b c d : UInt8) : UInt32 :=
  UInt32.ofNat (((a.toNat * 256 + b.toNat) * 256 + c.toNat) * 256 + d.toNat)

/-- `u16::to_be_bytes`. -/
def u16ToBe (n : UInt16) : Bytes := [UInt8.ofNat (n.toNat / 256), UInt8.ofNat n.toNat]

/-- `u32::to_be_bytes`. -/
def u32ToBe (n : UInt32) : Bytes :=
  [UInt8.ofNat (n.toNat / 16777216), UInt8.ofNat (n.toNat / 65536), UInt8.ofNat (n.toNat / 256),
    UInt8.ofNat n.toNat]

@[simp] theorem length_u16ToBe (n : UInt16) : (u16ToBe n).length = 2 := rfl

@[simp] theorem length_u32ToBe (n : UInt32) : (u32ToBe n).length = 4 := rfl

theorem u16OfBe_toBe (n : UInt16) :
    u16OfBe (UInt8.ofNat (n.toNat / 256)) (UInt8.ofNat n.toNat) = n := by
  have hn := n.toNat_lt
  apply UInt16.toNat_inj.mp
  simp only [u16OfBe, UInt16.toNat_ofNat', UInt8.toNat_ofNat']
  omega

theorem u32OfBe_toBe (n : UInt32) :
    u32OfBe (UInt8.ofNat (n.toNat / 16777216)) (UInt8.ofNat (n.toNat / 65536))
      (UInt8.ofNat (n.toNat / 256)) (UInt8.ofNat n.toNat) = n := by
  have hn := n.toNat_lt
  apply UInt32.toNat_inj.mp
  simp only [u32OfBe, UInt32.toNat_ofNat', UInt8.toNat_ofNat']
  omega

end NetworkLantern
