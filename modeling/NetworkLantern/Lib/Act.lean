import Mathlib.Data.List.Forall2
import Mathlib.Order.Basic

/-!
# Computations that may fail over a state

`Act σ ε α` runs on a state, ends with a value or an error, and keeps the state
it reached in both cases: a failed step undoes nothing by itself.  The rules
below are the ones a sequential program needs.

* inversion: what a finished run of `x >>= f` says about `x` and `f`
  (`bind_ok`, `bind_error`);
* outcomes: `Ends x s P Q` says what holds after a run that ends well, and after a
  failed one;
* frame: `Keeps R x` says that every run of `x`, failed or not, relates the
  state before to the state after by `R`; it goes through binds and loops when
  `R` is reflexive and transitive (`Keeps.bind`, `Keeps.forEach`).
-/

namespace NetworkLantern

/-- A computation over a state that ends with a value or an error. -/
def Act (σ ε α : Type) : Type := σ → Except ε α × σ

namespace Act

variable {σ ε α β : Type}

/-- Runs `f` on the value of `x`; an error of `x` stops the computation. -/
def bind (x : Act σ ε α) (f : α → Act σ ε β) : Act σ ε β := fun s =>
  match x s with
  | (.ok a, s') => f a s'
  | (.error e, s') => (.error e, s')

instance : Monad (Act σ ε) where
  pure a := fun s => (.ok a, s)
  bind := bind

/-- Stops with an error, the state as it is. -/
def fail (e : ε) : Act σ ε α := fun s => (.error e, s)

/-- The state. -/
def get : Act σ ε σ := fun s => (.ok s, s)

/-- Changes the state. -/
def modify (f : σ → σ) : Act σ ε Unit := fun s => (.ok (), f s)

/-- A pure result as a computation. -/
def lift (r : Except ε α) : Act σ ε α := fun s => (r, s)

/-- Runs `x` and hands over its outcome, error or not. -/
def attempt (x : Act σ ε α) : Act σ ε (Except ε α) := fun s => (.ok (x s).1, (x s).2)

/-- Renames the error of `x`. -/
def mapError (f : ε → ε) (x : Act σ ε α) : Act σ ε α := fun s =>
  match x s with
  | (.ok a, s') => (.ok a, s')
  | (.error e, s') => (.error (f e), s')

/-- `x`, where `c` holds. -/
def when (c : Bool) (x : Act σ ε Unit) : Act σ ε Unit := if c then x else pure ()

/-- `f` on every element in order, up to the first error. -/
def forEach : List α → (α → Act σ ε Unit) → Act σ ε Unit
  | [], _ => pure ()
  | a :: as, f => bind (f a) fun _ => forEach as f

/-- `f` on every element in order, with its values, up to the first error. -/
def collect : List α → (α → Act σ ε β) → Act σ ε (List β)
  | [], _ => pure []
  | a :: as, f => bind (f a) fun b => bind (collect as f) fun bs => pure (b :: bs)

/-! ## Equations -/

@[simp] theorem pure_apply (a : α) (s : σ) : (pure a : Act σ ε α) s = (.ok a, s) := rfl

@[simp] theorem fail_apply (e : ε) (s : σ) : (fail e : Act σ ε α) s = (.error e, s) := rfl

@[simp] theorem get_apply (s : σ) : (get : Act σ ε σ) s = (.ok s, s) := rfl

@[simp] theorem modify_apply (f : σ → σ) (s : σ) :
    (modify f : Act σ ε Unit) s = (.ok (), f s) := rfl

@[simp] theorem lift_apply (r : Except ε α) (s : σ) : (lift r : Act σ ε α) s = (r, s) := rfl

@[simp] theorem attempt_apply (x : Act σ ε α) (s : σ) :
    attempt x s = (.ok (x s).1, (x s).2) := rfl

@[simp] theorem forEach_nil (f : α → Act σ ε Unit) (s : σ) :
    forEach [] f s = (.ok (), s) := rfl

theorem bind_apply (x : Act σ ε α) (f : α → Act σ ε β) (s : σ) :
    (x >>= f) s = match x s with
      | (.ok a, s') => f a s'
      | (.error e, s') => (.error e, s') := rfl

theorem bind_of_ok {x : Act σ ε α} {f : α → Act σ ε β} {s s' : σ} {a : α}
    (h : x s = (.ok a, s')) : (x >>= f) s = f a s' := by
  rw [bind_apply, h]

theorem bind_of_error {x : Act σ ε α} {f : α → Act σ ε β} {s s' : σ} {e : ε}
    (h : x s = (.error e, s')) : (x >>= f) s = (.error e, s') := by
  rw [bind_apply, h]

theorem forEach_cons (a : α) (as : List α) (f : α → Act σ ε Unit) :
    forEach (a :: as) f = (f a >>= fun _ => forEach as f) := rfl

/-! ## Inversion -/

/-- A run of `x >>= f` that ends well went through `x` and then `f`. -/
theorem bind_ok {x : Act σ ε α} {f : α → Act σ ε β} {s s'' : σ} {b : β} :
    (x >>= f) s = (.ok b, s'') ↔ ∃ a s', x s = (.ok a, s') ∧ f a s' = (.ok b, s'') := by
  rw [bind_apply]
  rcases hx : x s with ⟨r, s'⟩
  cases r with
  | ok a =>
    constructor
    · intro h; exact ⟨a, s', rfl, h⟩
    · rintro ⟨a', t, h, hf⟩
      simp only [Prod.mk.injEq, Except.ok.injEq] at h
      obtain ⟨rfl, rfl⟩ := h
      exact hf
  | error e => simp

/-- A run of `x >>= f` that fails failed in `x`, or in `f` after `x` went through. -/
theorem bind_error {x : Act σ ε α} {f : α → Act σ ε β} {s s'' : σ} {e : ε} :
    (x >>= f) s = (.error e, s'') ↔
      x s = (.error e, s'') ∨ ∃ a s', x s = (.ok a, s') ∧ f a s' = (.error e, s'') := by
  rw [bind_apply]
  rcases hx : x s with ⟨r, s'⟩
  cases r with
  | ok a =>
    constructor
    · intro h; exact Or.inr ⟨a, s', rfl, h⟩
    · rintro (h | ⟨a', t, h, hf⟩)
      · simp at h
      · simp only [Prod.mk.injEq, Except.ok.injEq] at h
        obtain ⟨rfl, rfl⟩ := h
        exact hf
  | error e' => simp

/-- How a run of `x >>= f` ends: with the error of `x`, or as `f` does. -/
theorem bind_cases {x : Act σ ε α} {f : α → Act σ ε β} {s s'' : σ} {r : Except ε β}
    (h : (x >>= f) s = (r, s'')) :
    (∃ e, x s = (.error e, s'') ∧ r = .error e) ∨
      ∃ a s', x s = (.ok a, s') ∧ f a s' = (r, s'') := by
  rw [bind_apply] at h
  rcases hx : x s with ⟨outcome, s'⟩
  rw [hx] at h
  cases outcome with
  | ok a => exact Or.inr ⟨a, s', rfl, h⟩
  | error e =>
    obtain ⟨hr, rfl⟩ := Prod.mk.inj h
    exact Or.inl ⟨e, rfl, hr.symm⟩

theorem lift_ok {r : Except ε α} {s s' : σ} {a : α} :
    lift r s = (.ok a, s') ↔ r = .ok a ∧ s' = s := by
  simp [eq_comm]

theorem attempt_ok {x : Act σ ε α} {s s' : σ} {r : Except ε α} :
    attempt x s = (.ok r, s') ↔ x s = (r, s') := by
  rw [attempt_apply]
  rcases x s with ⟨r', t⟩
  simp

/-- `mapError` runs as `x` does. -/
theorem mapError_snd (f : ε → ε) (x : Act σ ε α) (s : σ) : (mapError f x s).2 = (x s).2 := by
  unfold mapError
  rcases x s with ⟨r, s'⟩
  cases r <;> rfl

/-- `mapError` changes no value. -/
theorem mapError_ok {f : ε → ε} {x : Act σ ε α} {s s' : σ} {a : α} :
    mapError f x s = (.ok a, s') ↔ x s = (.ok a, s') := by
  unfold mapError
  rcases x s with ⟨r, t⟩
  cases r <;> simp

theorem mapError_error {f : ε → ε} {x : Act σ ε α} {s s' : σ} {e : ε} :
    mapError f x s = (.error e, s') ↔ ∃ cause, x s = (.error cause, s') ∧ f cause = e := by
  unfold mapError
  rcases x s with ⟨r, t⟩
  cases r with
  | ok a => simp
  | error cause =>
    simp only [Prod.mk.injEq, Except.error.injEq]
    constructor
    · rintro ⟨rfl, rfl⟩; exact ⟨cause, ⟨rfl, rfl⟩, rfl⟩
    · rintro ⟨_, ⟨rfl, rfl⟩, rfl⟩; exact ⟨rfl, rfl⟩

/-- `attempt` hands every outcome over. -/
theorem attempt_bind {x : Act σ ε α} {f : Except ε α → Act σ ε β} {s s' : σ} {r : Except ε α}
    (h : x s = (r, s')) : (attempt x >>= f) s = f r s' :=
  bind_of_ok (attempt_ok.mpr h)

/-- What a finished `collect` says about its elements, when each step keeps an invariant. -/
theorem collect_ok {I : σ → Prop} {P : α → β → Prop} {f : α → Act σ ε β} {as : List α} {bs : List β}
    {s s' : σ} (hf : ∀ a ∈ as, ∀ s b s', I s → f a s = (.ok b, s') → I s' ∧ P a b) (hs : I s)
    (h : collect as f s = (.ok bs, s')) : I s' ∧ List.Forall₂ P as bs := by
  induction as generalizing s bs with
  | nil => cases h; exact ⟨hs, .nil⟩
  | cons a as ih =>
    rw [List.forall_mem_cons] at hf
    obtain ⟨b, s1, hb, h⟩ := bind_ok.mp h
    obtain ⟨rest, s2, hrest, h⟩ := bind_ok.mp h
    cases h
    obtain ⟨hs1, hp⟩ := hf.1 s b s1 hs hb
    obtain ⟨hs2, hall⟩ := ih hf.2 hs1 hrest
    exact ⟨hs2, .cons hp hall⟩

/-! ## Outcomes -/

/-- Partial correctness: a value that `x` ends with meets `P` in the state reached, an error `Q`. -/
structure Ends (x : Act σ ε α) (s : σ) (P : α → σ → Prop) (Q : ε → σ → Prop) : Prop where
  ok : ∀ a s', x s = (.ok a, s') → P a s'
  error : ∀ e s', x s = (.error e, s') → Q e s'

/-! ## Frames -/

/-- Every run of `x`, failed or not, takes the state along `R`. -/
def Keeps (R : σ → σ → Prop) (x : Act σ ε α) : Prop := ∀ s, R s (x s).2

section
variable {R : σ → σ → Prop}

theorem Keeps.pure (hr : ∀ s, R s s) (a : α) : Keeps R (Pure.pure a : Act σ ε α) := hr

theorem Keeps.fail (hr : ∀ s, R s s) (e : ε) : Keeps R (Act.fail e : Act σ ε α) := hr

theorem Keeps.lift (hr : ∀ s, R s s) (r : Except ε α) : Keeps R (Act.lift r : Act σ ε α) := hr

theorem Keeps.get (hr : ∀ s, R s s) : Keeps R (Act.get : Act σ ε σ) := hr

theorem Keeps.attempt {x : Act σ ε α} (hx : Keeps R x) : Keeps R (Act.attempt x) := hx

theorem Keeps.mapError {x : Act σ ε α} (hx : Keeps R x) (f : ε → ε) :
    Keeps R (Act.mapError f x) := by
  intro s
  rw [mapError_snd]
  exact hx s

/-- `x >>= f` where the state before `x` is reached from `s₀`, with `f` on the values that `x`
can end with. -/
theorem Keeps.bindFrom (ht : ∀ a b c, R a b → R b c → R a c) {x : Act σ ε α} {f : α → Act σ ε β}
    {s₀ s : σ} (hx : R s₀ (x s).2) (hf : ∀ a s', x s = (.ok a, s') → Keeps R (f a)) :
    R s₀ ((x >>= f) s).2 := by
  rw [bind_apply]
  rcases hxs : x s with ⟨r, s'⟩
  rw [hxs] at hx
  cases r with
  | ok a => exact ht _ _ _ hx (hf a s' hxs s')
  | error e => exact hx

/-- What holds of the state after `x >>= f`, from the state that `x` reaches. -/
theorem Keeps.bindAt {P : σ → Prop} {x : Act σ ε α} {f : α → Act σ ε β} {s : σ} (hx : P (x s).2)
    (hf : ∀ a s', x s = (.ok a, s') → P (f a s').2) : P ((x >>= f) s).2 := by
  rw [bind_apply]
  rcases hxs : x s with ⟨r, s'⟩
  cases r with
  | ok a => exact hf a s' hxs
  | error e => rwa [hxs] at hx

/-- The frame of `x >>= f`, with `f` on the values that `x` can end with. -/
theorem Keeps.bindOk (ht : ∀ a b c, R a b → R b c → R a c) {x : Act σ ε α} {f : α → Act σ ε β}
    (hx : Keeps R x) (hf : ∀ s a s', x s = (.ok a, s') → Keeps R (f a)) : Keeps R (x >>= f) :=
  fun s => bindFrom ht (hx s) fun a s' h => hf s a s' h

theorem Keeps.bind (ht : ∀ a b c, R a b → R b c → R a c) {x : Act σ ε α} {f : α → Act σ ε β}
    (hx : Keeps R x) (hf : ∀ a, Keeps R (f a)) : Keeps R (x >>= f) :=
  Keeps.bindOk ht hx fun _ a _ _ => hf a

/-- The frame of a loop, from the frame of its body. -/
theorem Keeps.forEach (hr : ∀ s, R s s) (ht : ∀ a b c, R a b → R b c → R a c)
    {f : α → Act σ ε Unit} (as : List α) (hf : ∀ a ∈ as, Keeps R (f a)) :
    Keeps R (Act.forEach as f) := by
  induction as with
  | nil => exact hr
  | cons a as ih =>
    rw [forEach_cons]
    exact Keeps.bind ht (hf a List.mem_cons_self)
      fun _ => ih fun b hb => hf b (List.mem_cons_of_mem a hb)

/-- The frame of `collect`, from the frame of its steps. -/
theorem Keeps.collect (hr : ∀ s, R s s) (ht : ∀ a b c, R a b → R b c → R a c)
    {f : α → Act σ ε β} (as : List α) (hf : ∀ a ∈ as, Keeps R (f a)) :
    Keeps R (Act.collect as f) := by
  induction as with
  | nil => exact hr
  | cons a as ih =>
    rw [List.forall_mem_cons] at hf
    exact Keeps.bind ht hf.1 fun _ => Keeps.bind ht (ih hf.2) fun _ => Keeps.pure hr _

/-- What one run keeps. -/
theorem Keeps.run {x : Act σ ε α} (hx : Keeps R x) {s s' : σ} {r : Except ε α}
    (h : x s = (r, s')) : R s s' := by
  have hkeeps := hx s
  rw [h] at hkeeps
  exact hkeeps

/-- A weaker relation. -/
theorem Keeps.mono {R' : σ → σ → Prop} {x : Act σ ε α} (hx : Keeps R x) (h : ∀ a b, R a b → R' a b) :
    Keeps R' x := fun s => h _ _ (hx s)

end

end Act

end NetworkLantern
