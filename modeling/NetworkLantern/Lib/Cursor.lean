import Mathlib.Data.List.Basic

/-!
# Following a cursor

`fetch` gives the page at a position, and a page names the position after it
where there is one (`next`).  `Follows fetch next n pages` says that following
these positions from `n` ends, and with which pages.  When every page lists the
positions up to its own `next`, and moves on, the pages together list every
position once and in order (`exists_follows`).
-/

namespace NetworkLantern

namespace Cursor

variable {ε P : Type} {fetch : Nat → Except ε P} {next : P → Option Nat}

inductive Follows (fetch : Nat → Except ε P) (next : P → Option Nat) : Nat → List P → Prop
  | last {n : Nat} {p : P} (h : fetch n = .ok p) (hnext : next p = none) : Follows fetch next n [p]
  | more {n m : Nat} {p : P} {ps : List P} (h : fetch n = .ok p) (hnext : next p = some m)
      (rest : Follows fetch next m ps) : Follows fetch next n (p :: ps)

/-- A page that lists the positions from `n` to the next one, or to the end. -/
def Covers (next : P → Option Nat) (items : P → List Nat) (total n : Nat) (p : P) : Prop :=
  (next p = none ∧ items p = List.range' n (total - n)) ∨
    ∃ m, next p = some m ∧ n < m ∧ m ≤ total ∧ items p = List.range' n (m - n)

theorem exists_follows (fetch : Nat → Except ε P) (next : P → Option Nat) (items : P → List Nat)
    {total : Nat} (h : ∀ n ≤ total, ∃ p, fetch n = .ok p ∧ Covers next items total n p) {n : Nat}
    (hn : n ≤ total) :
    ∃ ps, Follows fetch next n ps ∧ ps.flatMap items = List.range' n (total - n) := by
  induction hk : total - n using Nat.strongRecOn generalizing n with
  | ind k ih =>
    obtain ⟨p, hp, ⟨hnext, hitems⟩ | ⟨m, hnext, hlt, hle, hitems⟩⟩ := h n hn
    · refine ⟨[p], .last hp hnext, ?_⟩
      rw [List.flatMap_singleton, hitems, hk]
    · obtain ⟨ps, hps, hflat⟩ := ih (total - m) (by omega) hle rfl
      refine ⟨p :: ps, .more hp hnext hps, ?_⟩
      rw [List.flatMap_cons, hitems, hflat]
      have hjoin := @List.range'_append n (m - n) (total - m) 1
      rw [show n + 1 * (m - n) = m by omega, show m - n + (total - m) = k by omega] at hjoin
      exact hjoin

/-- What holds of every page that can be fetched holds of the pages followed. -/
theorem Follows.forall_mem {Q : P → Prop} (hQ : ∀ n p, fetch n = .ok p → Q p) {n : Nat}
    {ps : List P} (h : Follows fetch next n ps) : ∀ p ∈ ps, Q p := by
  induction h with
  | last h hnext =>
    intro p hp
    rw [List.mem_singleton.mp hp]
    exact hQ _ _ h
  | more h hnext rest ih =>
    intro p hp
    rcases List.mem_cons.mp hp with rfl | hp
    · exact hQ _ _ h
    · exact ih p hp

end Cursor

end NetworkLantern
