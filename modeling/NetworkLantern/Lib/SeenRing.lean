import Mathlib.Algebra.GroupWithZero.Nat
import Mathlib.Data.Finset.Insert
import Mathlib.Data.Finset.Lattice.Basic
import Mathlib.Logic.Function.Basic

/-!
# Remembering numbers in a ring of slots

A ring of `w` slots keeps each number in the slot of its remainder, over what
was there.  As long as no number is entered that lies `w` or more below the
highest one, the ring answers for every number within `w` of the highest one
whether it was entered (`Tracks.holds_iff`): a slot that is reused held a number
that has left this window.
-/

namespace NetworkLantern

namespace SeenRing

variable {w : Nat} [NeZero w]

def slot (w : Nat) [NeZero w] (n : Nat) : Fin w := Fin.ofNat w n

/-- The ring holds `n`. -/
def Holds (ring : Fin w → Nat) (n : Nat) : Prop := ring (slot w n) = n

def enter (ring : Fin w → Nat) (n : Nat) : Fin w → Nat := Function.update ring (slot w n) n

/-- The ring remembers the numbers of `seen` that lie within `w` of the highest one. -/
structure Tracks (ring : Fin w → Nat) (highest : Nat) (seen : Finset Nat) : Prop where
  le_highest : ∀ n ∈ seen, n ≤ highest
  sound : ∀ i, ring i = 0 ∨ ring i ∈ seen
  complete : ∀ n ∈ seen, highest < n + w → Holds ring n

namespace Tracks

variable {ring : Fin w → Nat} {highest : Nat} {seen : Finset Nat}

theorem empty (highest : Nat) : Tracks (fun _ : Fin w => 0) highest ∅ where
  le_highest := fun n hn => absurd hn (Finset.notMem_empty n)
  sound := fun _ => .inl rfl
  complete := fun n hn => absurd hn (Finset.notMem_empty n)

theorem holds_iff (h : Tracks ring highest seen) {n : Nat} (hpos : n ≠ 0) (hn : highest < n + w) :
    Holds ring n ↔ n ∈ seen := by
  constructor
  · intro hholds
    unfold Holds at hholds
    rcases h.sound (slot w n) with hzero | hmem
    · rw [hholds] at hzero
      exact absurd hzero hpos
    · rw [hholds] at hmem
      exact hmem
  · intro hmem
    exact h.complete n hmem hn

/-- Two numbers of one slot are the same or lie `w` apart. -/
theorem eq_or_apart {m n : Nat} (h : slot w m = slot w n) : m = n ∨ m + w ≤ n ∨ n + w ≤ m := by
  have hmod : m % w = n % w := by
    have := congrArg Fin.val h
    simpa [slot] using this
  rcases Nat.lt_trichotomy m n with hlt | heq | hgt
  · right; left
    have hdvd := Nat.dvd_of_mod_eq_zero (Nat.sub_mod_eq_zero_of_mod_eq hmod.symm)
    have := Nat.le_of_dvd (by omega) hdvd
    omega
  · exact .inl heq
  · right; right
    have hdvd := Nat.dvd_of_mod_eq_zero (Nat.sub_mod_eq_zero_of_mod_eq hmod)
    have := Nat.le_of_dvd (by omega) hdvd
    omega

/-- Entering a number that is not too far below the highest one. -/
theorem enter (h : Tracks ring highest seen) {n : Nat} (hn : highest < n + w) :
    Tracks (enter ring n) (max highest n) (insert n seen) where
  le_highest := by
    intro m hm
    rcases Finset.mem_insert.mp hm with rfl | hm
    · exact Nat.le_max_right _ _
    · exact (h.le_highest m hm).trans (Nat.le_max_left _ _)
  sound := by
    intro i
    unfold SeenRing.enter
    by_cases hi : i = slot w n
    · subst hi
      rw [Function.update_self]
      exact .inr (Finset.mem_insert_self n seen)
    · rw [Function.update_of_ne hi]
      exact (h.sound i).imp_right Finset.mem_insert_of_mem
  complete := by
    intro m hm hnear
    unfold Holds SeenRing.enter
    by_cases hslot : slot w m = slot w n
    · -- the slot is taken over only from a number that has left the window
      rw [hslot, Function.update_self]
      rcases Finset.mem_insert.mp hm with rfl | hm
      · rfl
      · have hle := h.le_highest m hm
        rcases eq_or_apart hslot with heq | hbelow | habove
        · exact heq.symm
        · omega
        · omega
    · rw [Function.update_of_ne hslot]
      rcases Finset.mem_insert.mp hm with rfl | hm
      · exact absurd rfl hslot
      · exact h.complete m hm (by omega)

end Tracks

end SeenRing

end NetworkLantern
