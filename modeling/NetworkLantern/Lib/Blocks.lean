import Mathlib.Algebra.GroupWithZero.Nat
import Mathlib.Data.List.Basic

/-!
# Lists made of blocks

`l.flatMap f`, where every `f a` has one length `w`, is a table with `w` columns:
entry `j` of block `i` stands at `i * w + j`.  A walk along a list takes its
entries off the front of what `drop` leaves.
-/

namespace NetworkLantern

variable {α β : Type}

/-- The entry at a position is the first one from there on. -/
theorem drop_of_getElem? {l : List α} {i : Nat} {a : α} (h : l[i]? = some a) :
    l.drop i = a :: l.drop (i + 1) := by
  obtain ⟨hlt, rfl⟩ := List.getElem?_eq_some_iff.mp h
  exact List.drop_eq_getElem_cons hlt

section
variable {f : α → List β} {w : Nat}

theorem length_blocks (hw : ∀ a, (f a).length = w) (l : List α) :
    (l.flatMap f).length = l.length * w := by
  induction l with
  | nil => simp
  | cons a l ih =>
    rw [List.flatMap_cons, List.length_append, ih, hw, List.length_cons, Nat.succ_mul]
    omega

theorem getElem?_blocks (hw : ∀ a, (f a).length = w) (l : List α) (i : Nat) {j : Nat} (hj : j < w) :
    (l.flatMap f)[i * w + j]? = l[i]?.bind fun a => (f a)[j]? := by
  induction l generalizing i with
  | nil => simp
  | cons a l ih =>
    rw [List.flatMap_cons]
    cases i with
    | zero =>
      have hlt : j < (f a).length := by rw [hw]; exact hj
      rw [Nat.zero_mul, Nat.zero_add, List.getElem?_append_left hlt]
      rfl
    | succ i =>
      have hskip : (i + 1) * w + j = (f a).length + (i * w + j) := by
        rw [hw, Nat.succ_mul]
        omega
      rw [hskip, List.getElem?_append_right (by omega), Nat.add_sub_cancel_left, ih]
      rfl

end

end NetworkLantern
