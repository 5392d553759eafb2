import Mathlib.Algebra.GroupWithZero.Nat
import NetworkLantern.Lib.Act

/-!
# What a computation spends

A meter reads off a state how much is spent so far, whether all that happened is
within a budget, and whether the work was called off.  `Spends m n x` says of
every run of `x`: it spends at most `n` and stays within any budget that leaves
room for `n`; and it spends exactly `n` when it ends without an error and was
not called off.  Amounts add up along binds and loops.
-/

namespace NetworkLantern

/-- What is read off a state. -/
structure Meter (σ : Type) where
  spent : σ → Nat
  Within : Nat → σ → Prop
  Stopped : σ → Prop

namespace Act

variable {σ ε α β : Type} {m : Meter σ} {n k : Nat}

/-- A run from `s` that ended in `s'`, of a computation that has `n` to spend. -/
structure Spent (m : Meter σ) (n : Nat) (s s' : σ) (r : Except ε α) : Prop where
  within : ∀ budget, m.Within budget s → m.spent s + n ≤ budget → m.Within budget s'
  most : m.spent s' ≤ m.spent s + n
  stopped : m.Stopped s → m.Stopped s'
  exact : ∀ a, r = .ok a → ¬ m.Stopped s' → m.spent s' = m.spent s + n

def Spends (m : Meter σ) (n : Nat) (x : Act σ ε α) : Prop := ∀ s, Spent m n s (x s).2 (x s).1

/-- Nothing happens. -/
theorem Spent.refl (m : Meter σ) (s : σ) (r : Except ε α) : Spent m 0 s s r where
  within := fun _ h _ => h
  most := Nat.le_refl _
  stopped := id
  exact := fun _ _ _ => rfl

/-- An error may leave some of it. -/
theorem Spent.error {s s' : σ} {e : ε} (h : Spent m n s s' (.error e : Except ε α)) (k : Nat) :
    Spent m (n + k) s s' (.error e : Except ε β) where
  within := fun budget hs hle => h.within budget hs (by omega)
  most := by
    have hmost := h.most
    omega
  stopped := h.stopped
  exact := fun _ hok => by cases hok

/-- One run after another. -/
theorem Spent.trans {s s' s'' : σ} {a : α} {r : Except ε β}
    (h : Spent m n s s' (.ok a : Except ε α)) (h' : Spent m k s' s'' r) :
    Spent m (n + k) s s'' r where
  within := fun budget hs hle => by
    have hmost := h.most
    exact h'.within budget (h.within budget hs (by omega)) (by omega)
  most := by
    have h1 := h.most
    have h2 := h'.most
    omega
  stopped := fun hs => h'.stopped (h.stopped hs)
  exact := fun b hr hgo => by
    have h1 := h.exact a rfl fun hstop => hgo (h'.stopped hstop)
    have h2 := h'.exact b hr hgo
    omega

theorem Spends.pure (a : α) : Spends m 0 (Pure.pure a : Act σ ε α) := fun s => .refl m s _

theorem Spends.fail (n : Nat) (e : ε) : Spends m n (Act.fail e : Act σ ε α) := fun s => by
  have h := (Spent.refl m s (.error e : Except ε α)).error n (β := α)
  rw [Nat.zero_add] at h
  exact h

theorem Spends.get : Spends m 0 (Act.get : Act σ ε σ) := fun s => .refl m s _

theorem Spends.lift (r : Except ε α) : Spends m 0 (Act.lift r : Act σ ε α) := fun s => .refl m s _

/-- The amounts of `x >>= f`, with `f` on the values that `x` can end with. -/
theorem Spends.bindOk {x : Act σ ε α} {f : α → Act σ ε β} (hx : Spends m n x)
    (hf : ∀ s a s', x s = (.ok a, s') → Spends m k (f a)) : Spends m (n + k) (x >>= f) := by
  intro s
  have h := hx s
  rw [bind_apply]
  rcases hxs : x s with ⟨r, s'⟩
  rw [hxs] at h
  cases r with
  | ok a => exact h.trans (hf s a s' hxs s')
  | error e => exact h.error k

theorem Spends.bind {x : Act σ ε α} {f : α → Act σ ε β} (hx : Spends m n x)
    (hf : ∀ a, Spends m k (f a)) : Spends m (n + k) (x >>= f) :=
  hx.bindOk fun _ a _ _ => hf a

/-- What spends nothing, before. -/
theorem Spends.after {x : Act σ ε α} {f : α → Act σ ε β} (hx : Spends m 0 x)
    (hf : ∀ a, Spends m n (f a)) : Spends m n (x >>= f) := by
  have h := hx.bind hf
  rwa [Nat.zero_add] at h

/-- What spends nothing, behind. -/
theorem Spends.before {x : Act σ ε α} {f : α → Act σ ε β} (hx : Spends m n x)
    (hf : ∀ a, Spends m 0 (f a)) : Spends m n (x >>= f) := hx.bind hf

theorem Spends.ite {c : Prop} [Decidable c] {x y : Act σ ε α} (hx : c → Spends m n x)
    (hy : ¬ c → Spends m n y) : Spends m n (if c then x else y) := by
  by_cases h : c
  · rw [if_pos h]
    exact hx h
  · rw [if_neg h]
    exact hy h

theorem Spends.when {x : Act σ ε Unit} (hx : Spends m 0 x) (c : Bool) :
    Spends m 0 (Act.when c x) := Spends.ite (fun _ => hx) fun _ => Spends.pure ()

/-- Work that ends early once it is called off. -/
theorem Spends.unless {c : Act σ ε Bool} {x : Act σ ε Unit} (hc : Spends m 0 c)
    (hstop : ∀ s s', c s = (.ok true, s') → m.Stopped s') (hx : Spends m n x) :
    Spends m n (c >>= fun stop => if stop then Pure.pure () else x) := by
  intro s
  have h := hc s
  rw [bind_apply]
  rcases hcs : c s with ⟨r, s'⟩
  rw [hcs] at h
  match r with
  | .error e =>
    have herror := h.error n (β := Unit)
    rw [Nat.zero_add] at herror
    exact herror
  | .ok true =>
    have hs' := hstop s s' hcs
    have hmost : m.spent s' ≤ m.spent s + 0 := h.most
    refine ⟨fun budget hs hle => h.within budget hs (by omega), ?_, h.stopped,
      fun _ _ hgo => absurd hs' hgo⟩
    show m.spent s' ≤ m.spent s + n
    omega
  | .ok false =>
    have hrun := h.trans (hx s')
    rw [Nat.zero_add] at hrun
    exact hrun

theorem Spends.forEach {f : α → Act σ ε Unit} (size : α → Nat) {as : List α}
    (hf : ∀ a ∈ as, Spends m (size a) (f a)) : Spends m (as.map size).sum (Act.forEach as f) := by
  induction as with
  | nil => exact Spends.pure ()
  | cons a as ih =>
    rw [List.map_cons, List.sum_cons, forEach_cons]
    exact (hf a List.mem_cons_self).bind fun _ => ih fun b hb => hf b (List.mem_cons_of_mem a hb)

theorem Spends.forEach_zero {f : α → Act σ ε Unit} {as : List α}
    (hf : ∀ a ∈ as, Spends m 0 (f a)) : Spends m 0 (Act.forEach as f) := by
  induction as with
  | nil => exact Spends.pure ()
  | cons a as ih =>
    rw [forEach_cons]
    exact (hf a List.mem_cons_self).after fun _ => ih fun b hb => hf b (List.mem_cons_of_mem a hb)

end Act

end NetworkLantern
