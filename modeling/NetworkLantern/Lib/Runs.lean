import Mathlib.Data.List.Basic
import Mathlib.Data.Option.Basic

/-!
# Runs of a stepping system

A system takes labelled steps: `step s a` is the state after `a`, and nothing
where `a` cannot happen in `s`.  A run is a sequence of steps that all happen.

    run_invariant         what every step keeps holds after every run
    run_relation          a preorder along every step is a preorder along runs
    run_invariant_while   the same, for runs whose steps all meet a condition
-/

namespace NetworkLantern

variable {σ α : Type}

/-- The state after a sequence of steps, if each of them can happen. -/
def runSteps (step : σ → α → Option σ) (s : σ) (as : List α) : Option σ := as.foldlM step s

/-- Every step of a run meets `C` in the state it is taken from. -/
def AllSteps (C : σ → α → Prop) (step : σ → α → Option σ) : σ → List α → Prop
  | _, [] => True
  | s, a :: as => C s a ∧ ∀ t, step s a = some t → AllSteps C step t as

section Runs

variable {step : σ → α → Option σ}

@[simp] theorem runSteps_nil (s : σ) : runSteps step s [] = some s := rfl

theorem runSteps_cons {s t : σ} {a : α} {as : List α} :
    runSteps step s (a :: as) = some t ↔ ∃ u, step s a = some u ∧ runSteps step u as = some t := by
  unfold runSteps
  rw [List.foldlM_cons]
  exact Option.bind_eq_some_iff

theorem runSteps_append {s t : σ} {as bs : List α} :
    runSteps step s (as ++ bs) = some t ↔
      ∃ u, runSteps step s as = some u ∧ runSteps step u bs = some t := by
  unfold runSteps
  rw [List.foldlM_append]
  exact Option.bind_eq_some_iff

/-- A preorder along every step, from the states that meet an invariant, is one
along every run. -/
theorem run_relation {I : σ → Prop} {R : σ → σ → Prop} (hrefl : ∀ s, R s s)
    (htrans : ∀ s t u, R s t → R t u → R s u)
    (hinv : ∀ s a t, I s → step s a = some t → I t)
    (hstep : ∀ s a t, I s → step s a = some t → R s t)
    {s t : σ} {as : List α} (hs : I s) (hrun : runSteps step s as = some t) : R s t := by
  induction as generalizing s with
  | nil =>
    rw [runSteps_nil, Option.some.injEq] at hrun
    exact hrun ▸ hrefl s
  | cons a as ih =>
    obtain ⟨u, hu, hrun⟩ := runSteps_cons.mp hrun
    exact htrans s u t (hstep s a u hs hu) (ih (hinv s a u hs hu) hrun)

theorem AllSteps.append {C : σ → α → Prop} {s t : σ} {as bs : List α}
    (h : AllSteps C step s (as ++ bs)) (hrun : runSteps step s as = some t) :
    AllSteps C step s as ∧ AllSteps C step t bs := by
  induction as generalizing s with
  | nil =>
    rw [runSteps_nil, Option.some.injEq] at hrun
    exact ⟨trivial, hrun ▸ h⟩
  | cons a as ih =>
    obtain ⟨u, hu, hrun⟩ := runSteps_cons.mp hrun
    obtain ⟨ha, hrest⟩ := h
    obtain ⟨-, hbs⟩ := ih (hrest u hu) hrun
    refine ⟨⟨ha, fun v hv => ?_⟩, hbs⟩
    rw [hu, Option.some.injEq] at hv
    subst hv
    exact (ih (hrest u hu) hrun).1

/-- What every step that meets `C` keeps holds after every run whose steps all
meet `C`. -/
theorem run_invariant_while {C : σ → α → Prop} {I : σ → Prop}
    (hstep : ∀ s a t, I s → C s a → step s a = some t → I t)
    {s t : σ} {as : List α} (hs : I s) (hall : AllSteps C step s as)
    (hrun : runSteps step s as = some t) : I t := by
  induction as generalizing s with
  | nil =>
    rw [runSteps_nil, Option.some.injEq] at hrun
    exact hrun ▸ hs
  | cons a as ih =>
    obtain ⟨u, hu, hrun⟩ := runSteps_cons.mp hrun
    exact ih (hstep s a u hs hall.1 hu) (hall.2 u hu) hrun

theorem allSteps_of_forall {C : α → Prop} {s : σ} {as : List α} (h : ∀ a ∈ as, C a) :
    AllSteps (fun _ a => C a) step s as := by
  induction as generalizing s with
  | nil => trivial
  | cons a as ih =>
    exact ⟨h a List.mem_cons_self, fun _ _ => ih fun b hb => h b (List.mem_cons_of_mem a hb)⟩

theorem allSteps_true (s : σ) (as : List α) : AllSteps (fun _ _ => True) step s as :=
  allSteps_of_forall fun _ _ => trivial

/-- What every step keeps holds after every run. -/
theorem run_invariant {I : σ → Prop} (hstep : ∀ s a t, I s → step s a = some t → I t)
    {s t : σ} {as : List α} (hs : I s) (hrun : runSteps step s as = some t) : I t :=
  run_invariant_while (fun u a v hu _ h => hstep u a v hu h) hs (allSteps_true s as) hrun

end Runs

end NetworkLantern
