import NetworkLantern.Lib.Act

/-!
# Computations that mirror others

`Mirrors f x' x` says that `x'`, on a state that `f` takes to a state of `x`, ends as
`x` does: with the same value or error, and in a state that `f` takes to that of `x`.
What a state has besides (a log, say) changes nothing.
-/

namespace NetworkLantern.Act

variable {σ' σ ε α β : Type} {f : σ' → σ}

def Mirrors (f : σ' → σ) (x' : Act σ' ε α) (x : Act σ ε α) : Prop :=
  ∀ s, (x' s).1 = (x (f s)).1 ∧ f (x' s).2 = (x (f s)).2

theorem Mirrors.pure (a : α) : Mirrors f (Pure.pure a : Act σ' ε α) (Pure.pure a) :=
  fun _ => ⟨rfl, rfl⟩

theorem Mirrors.fail (e : ε) : Mirrors f (Act.fail e : Act σ' ε α) (Act.fail e) :=
  fun _ => ⟨rfl, rfl⟩

theorem Mirrors.lift (r : Except ε α) : Mirrors f (Act.lift r) (Act.lift r) :=
  fun _ => ⟨rfl, rfl⟩

theorem Mirrors.bind {x' : Act σ' ε α} {x : Act σ ε α} {g' : α → Act σ' ε β} {g : α → Act σ ε β}
    (hx : Mirrors f x' x) (hg : ∀ a, Mirrors f (g' a) (g a)) : Mirrors f (x' >>= g') (x >>= g) := by
  intro s
  obtain ⟨hvalue, hstate⟩ := hx s
  rw [bind_apply, bind_apply]
  rcases hxs : x' s with ⟨r', s'⟩
  rcases hys : x (f s) with ⟨r, t⟩
  rw [hxs, hys] at hvalue hstate
  obtain rfl : r' = r := hvalue
  obtain rfl : f s' = t := hstate
  cases r' with
  | ok a => exact hg a s'
  | error e => exact ⟨rfl, rfl⟩

theorem Mirrors.ite {c : Prop} [Decidable c] {x' y' : Act σ' ε α} {x y : Act σ ε α}
    (hx : Mirrors f x' x) (hy : Mirrors f y' y) :
    Mirrors f (if c then x' else y') (if c then x else y) := by
  by_cases h : c
  · rw [if_pos h, if_pos h]
    exact hx
  · rw [if_neg h, if_neg h]
    exact hy

theorem Mirrors.when {x' : Act σ' ε Unit} {x : Act σ ε Unit} (c : Bool) (hx : Mirrors f x' x) :
    Mirrors f (Act.when c x') (Act.when c x) := hx.ite (Mirrors.pure ())

theorem Mirrors.forEach {g' : α → Act σ' ε Unit} {g : α → Act σ ε Unit} (as : List α)
    (hg : ∀ a, Mirrors f (g' a) (g a)) : Mirrors f (Act.forEach as g') (Act.forEach as g) := by
  induction as with
  | nil => exact Mirrors.pure ()
  | cons a as ih => exact (hg a).bind fun _ => ih

end NetworkLantern.Act
