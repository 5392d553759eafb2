import Mathlib.Data.List.Basic

/-!
# Checks in a row

A validator is a sequence of early returns.  `refuse bad e` is
`if bad { return Err(e) }`; the lemmas below take an accepted input apart into
the conditions it met.
-/

namespace NetworkLantern

variable {α β ε : Type}

/-- `if bad { return Err(e) }`. -/
def refuse (bad : Bool) (e : ε) : Except ε Unit := if bad then .error e else .ok ()

@[simp] theorem refuse_eq_ok (bad : Bool) (e : ε) : refuse bad e = .ok () ↔ bad = false := by
  cases bad <;> simp [refuse]

theorem refuse_false (e : ε) : refuse false e = .ok () := rfl

@[simp] theorem except_ok_bind (a : α) (f : α → Except ε β) : (Except.ok a >>= f) = f a := rfl

@[simp] theorem except_error_bind (e : ε) (f : α → Except ε β) :
    (Except.error e >>= f) = .error e := rfl

theorem except_bind_ok {x : Except ε α} {f : α → Except ε β} {b : β} :
    (x >>= f) = .ok b ↔ ∃ a, x = .ok a ∧ f a = .ok b := by
  cases x <;> simp [bind, Except.bind]

theorem except_map_ok {f : α → β} {x : Except ε α} {b : β} :
    f <$> x = .ok b ↔ ∃ a, x = .ok a ∧ f a = b := by
  cases x <;> simp [Functor.map, Except.map]

theorem refuse_bind_ok {bad : Bool} {e : ε} {f : Unit → Except ε β} {b : β} :
    (refuse bad e >>= f) = .ok b ↔ bad = false ∧ f () = .ok b := by
  cases bad <;> simp [refuse, bind, Except.bind]

/-- An error comes from the check or from what follows it. -/
theorem refuse_bind_error {bad : Bool} {e x : ε} {f : Unit → Except ε β}
    (h : (refuse bad e >>= f) = .error x) : x = e ∨ f () = .error x := by
  cases bad with
  | true => exact .inl (Except.error.inj h).symm
  | false => exact .inr h

theorem refuse_error {bad : Bool} {e x : ε} (h : refuse bad e = .error x) : x = e := by
  cases bad with
  | true => exact (Except.error.inj h).symm
  | false => cases h

theorem mapError_eq_ok {δ : Type} {f : ε → δ} {x : Except ε α} {a : α} :
    x.mapError f = .ok a ↔ x = .ok a := by
  cases x <;> simp [Except.mapError]

/-- A loop of checks passes when every element does. -/
theorem forM_eq_ok {f : α → Except ε Unit} {l : List α} :
    l.forM f = .ok () ↔ ∀ a ∈ l, f a = .ok () := by
  induction l with
  | nil => simp [List.forM, pure, Except.pure]
  | cons a l ih =>
    have hstep : (a :: l).forM f = (f a >>= fun _ => l.forM f) := rfl
    rw [hstep, except_bind_ok]
    constructor
    · rintro ⟨_, ha, hl⟩ b hb
      rcases List.mem_cons.mp hb with rfl | hb
      · exact ha
      · exact ih.mp hl b hb
    · intro h
      exact ⟨(), h a List.mem_cons_self, ih.mpr fun b hb => h b (List.mem_cons_of_mem a hb)⟩

/-- The results of a loop that collects values, element by element. -/
theorem mapM_eq_ok {f : α → Except ε β} {l : List α} {bs : List β} :
    l.mapM f = .ok bs ↔ List.Forall₂ (fun a b => f a = .ok b) l bs := by
  induction l generalizing bs with
  | nil =>
    constructor
    · intro h; cases h; exact .nil
    · intro h; cases h; rfl
  | cons a l ih =>
    rw [List.mapM_cons, except_bind_ok]
    constructor
    · rintro ⟨b, ha, h⟩
      obtain ⟨bs', hl, h⟩ := except_bind_ok.mp h
      cases h
      exact .cons ha (ih.mp hl)
    · intro h
      cases h with
      | cons ha hl => exact ⟨_, ha, except_bind_ok.mpr ⟨_, ih.mpr hl, rfl⟩⟩

/-- A loop that collects values succeeds if every one is found. -/
theorem mapM_isOk_iff {f : α → Except ε β} {l : List α} :
    (∃ bs, l.mapM f = .ok bs) ↔ ∀ a ∈ l, ∃ b, f a = .ok b := by
  induction l with
  | nil => exact ⟨fun _ _ hmem => absurd hmem List.not_mem_nil, fun _ => ⟨[], rfl⟩⟩
  | cons a l ih =>
    rw [List.forall_mem_cons, ← ih]
    constructor
    · rintro ⟨bs, h⟩
      cases mapM_eq_ok.mp h with
      | cons ha hl => exact ⟨⟨_, ha⟩, _, mapM_eq_ok.mpr hl⟩
    · rintro ⟨⟨b, ha⟩, bs, hl⟩
      exact ⟨b :: bs, mapM_eq_ok.mpr (.cons ha (mapM_eq_ok.mp hl))⟩

/-- Every element has its result among the others. -/
theorem exists_of_forall₂ {R : α → β → Prop} {l : List α} {bs : List β} (h : List.Forall₂ R l bs) :
    ∀ a ∈ l, ∃ b ∈ bs, R a b := by
  induction h with
  | nil => simp
  | @cons a b l bs hab _ ih =>
    rw [List.forall_mem_cons]
    refine ⟨⟨b, List.mem_cons_self, hab⟩, fun a' ha' => ?_⟩
    obtain ⟨b', hb', hab'⟩ := ih a' ha'
    exact ⟨b', List.mem_cons_of_mem b hb', hab'⟩

/-- A loop whose turns go through keeps what holds of the elements so far, while they are less
than `n`. -/
theorem foldlM_ok {f : β → α → Except ε β} {I : List α → β → Prop} {n : Nat}
    (hstep : ∀ {seen b} a, I seen b → seen.length + 1 < n → ∃ b', f b a = .ok b' ∧ I (seen ++ [a]) b')
    {seen l : List α} {b : β} (hb : I seen b) (hlen : (seen ++ l).length < n) :
    ∃ b', l.foldlM f b = .ok b' ∧ I (seen ++ l) b' := by
  induction l generalizing seen b with
  | nil => exact ⟨b, rfl, by rwa [List.append_nil]⟩
  | cons a l ih =>
    rw [List.append_cons] at hlen ⊢
    have hlen' : seen.length + 1 < n := by
      rw [List.length_append, List.length_append, List.length_singleton] at hlen
      omega
    obtain ⟨next, hnext, hI⟩ := hstep a hb hlen'
    obtain ⟨b', hb', hI'⟩ := ih hI hlen
    exact ⟨b', except_bind_ok.mpr ⟨next, hnext, hb'⟩, hI'⟩

/-- Such a loop fails where its `n`th turn does. -/
theorem foldlM_error {f : β → α → Except ε β} {I : List α → β → Prop} {n : Nat} {e : ε}
    (hstep : ∀ {seen b} a, I seen b → seen.length + 1 < n → ∃ b', f b a = .ok b' ∧ I (seen ++ [a]) b')
    (hstop : ∀ {seen b} a, I seen b → seen.length + 1 = n → f b a = .error e) (hn : 0 < n)
    {l : List α} {b : β} (hb : I [] b) (hlen : n ≤ l.length) : l.foldlM f b = .error e := by
  have htake : (l.take (n - 1)).length = n - 1 := by
    rw [List.length_take]
    omega
  obtain ⟨b', hb', hI⟩ := foldlM_ok (l := l.take (n - 1)) hstep hb (by
    rw [List.nil_append, htake]
    omega)
  obtain ⟨a, rest, hrest⟩ : ∃ a rest, l.drop (n - 1) = a :: rest := by
    refine List.exists_cons_of_length_pos ?_
    rw [List.length_drop]
    omega
  rw [← List.take_append_drop (n - 1) l, List.foldlM_append, hb', hrest, except_ok_bind,
    List.foldlM_cons, hstop a hI (by rw [List.nil_append, htake]; omega)]
  rfl

end NetworkLantern
