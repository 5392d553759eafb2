import Mathlib.Order.Basic

/-!
# Computations under a clock

A timed computation is started at some time and ends at that time or later,
with a value or an error, or it never ends.  `within` bounds one by a deadline.
-/

namespace NetworkLantern

/-- A computation that knows when it ends. -/
structure Timed (ε α : Type) where
  run : Nat → Option (Nat × Except ε α)
  later : ∀ s t r, run s = some (t, r) → s ≤ t

namespace Timed

variable {ε α β : Type}

/-- Ends at once. -/
def done (r : Except ε α) : Timed ε α where
  run s := some (s, r)
  later s t r h := by
    cases h
    exact Nat.le_refl s

/-- One computation after the other; an error ends both. -/
def andThen (x : Timed ε α) (f : α → Timed ε β) : Timed ε β where
  run s :=
    match x.run s with
    | some (t, .ok a) => (f a).run t
    | some (t, .error e) => some (t, .error e)
    | none => none
  later s t r h := by
    split at h
    · rename_i u a hx
      exact Nat.le_trans (x.later s u _ hx) ((f a).later u t r h)
    · rename_i hx
      cases h
      exact x.later s _ _ hx
    · cases h

instance : Monad (Timed ε) where
  pure a := done (.ok a)
  bind := andThen

/-- `Instant::now`. -/
def now : Timed ε Nat where
  run s := some (s, .ok s)
  later s t r h := by
    cases h
    exact Nat.le_refl s

/-- Takes `d`. -/
def after (d : Nat) (a : α) : Timed ε α where
  run s := some (s + d, .ok a)
  later s t r h := by
    cases h
    exact Nat.le_add_right s d

/-- Waits for an event, which is there already if it has happened. -/
def arrives (event : Option (Nat × Except ε α)) : Timed ε α where
  run s := event.map fun (t, r) => (max s t, r)
  later s t r h := by
    cases event with
    | none => cases h
    | some e =>
      cases h
      exact Nat.le_max_left s e.1

/-- `x`, or the error `e` once `d` has passed.  An end at the deadline counts. -/
def within (d : Nat) (e : ε) (x : Timed ε α) : Timed ε α where
  run s :=
    match x.run s with
    | some (t, r) => if t ≤ s + d then some (t, r) else some (s + d, .error e)
    | none => some (s + d, .error e)
  later s t r h := by
    split at h
    · rename_i u r' hx
      split at h
      · cases h
        exact x.later s _ _ hx
      · cases h
        exact Nat.le_add_right s d
    · cases h
      exact Nat.le_add_right s d

/-! ## When they end -/

@[simp] theorem run_pure (a : α) (s : Nat) : (pure a : Timed ε α).run s = some (s, .ok a) := rfl

@[simp] theorem run_done (r : Except ε α) (s : Nat) : (done r).run s = some (s, r) := rfl

@[simp] theorem run_now (s : Nat) : (now : Timed ε Nat).run s = some (s, .ok s) := rfl

@[simp] theorem run_after (d : Nat) (a : α) (s : Nat) :
    (after d a : Timed ε α).run s = some (s + d, .ok a) := rfl

theorem run_bind_ok {x : Timed ε α} {f : α → Timed ε β} {s t : Nat} {a : α}
    (h : x.run s = some (t, .ok a)) : (x >>= f).run s = (f a).run t := by
  show (match x.run s with
    | some (t, .ok a) => (f a).run t
    | some (t, .error e) => some (t, .error e)
    | none => none) = _
  rw [h]

theorem run_bind_error {x : Timed ε α} {f : α → Timed ε β} {s t : Nat} {e : ε}
    (h : x.run s = some (t, .error e)) : (x >>= f).run s = some (t, .error e) := by
  show (match x.run s with
    | some (t, .ok a) => (f a).run t
    | some (t, .error e) => some (t, .error e)
    | none => none) = _
  rw [h]

theorem run_arrives {t s : Nat} (r : Except ε α) (h : s ≤ t) :
    (arrives (some (t, r))).run s = some (t, r) := by
  show some (max s t, r) = _
  rw [Nat.max_eq_right h]

theorem run_within {x : Timed ε α} {s t d : Nat} {e : ε} {r : Except ε α}
    (h : x.run s = some (t, r)) (hle : t ≤ s + d) : (within d e x).run s = some (t, r) := by
  unfold within
  simp only [h, if_pos hle]

theorem run_within_late {x : Timed ε α} {s t d : Nat} {e : ε} {r : Except ε α}
    (h : x.run s = some (t, r)) (hlt : s + d < t) :
    (within d e x).run s = some (s + d, .error e) := by
  unfold within
  simp only [h, if_neg (Nat.not_le.mpr hlt)]

end Timed

end NetworkLantern
