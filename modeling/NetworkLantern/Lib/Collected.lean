import Mathlib.Data.List.Perm.Basic
import Mathlib.Data.List.Pairwise
import NetworkLantern.Lib.Checks

/-!
# Values collected in any order

Tasks end in any order; their values are sorted afterwards.  Where the values of the tasks,
listed as the tasks are, increase strictly, the order in which they ended is lost
(`collected_iff`).
-/

namespace NetworkLantern

variable {α β ε : Type} {le : β → β → Bool}

/-- `a` comes before `b`, and not the other way round. -/
def Strictly (le : β → β → Bool) (a b : β) : Prop := le a b = true ∧ le b a = false

/-- Sorting undoes a permutation of a strictly increasing list. -/
theorem mergeSort_of_perm (trans : ∀ a b c, le a b = true → le b c = true → le a c = true)
    (total : ∀ a b, (le a b || le b a) = true) {l m : List β} (h : l.Perm m)
    (hm : m.Pairwise (Strictly le)) : l.mergeSort le = m := by
  have hperm : (l.mergeSort le).Perm m := (List.mergeSort_perm l le).trans h
  have hapart : m.Pairwise fun a b => ¬ (le a b = true ∧ le b a = true) := by
    refine hm.imp fun hab hboth => ?_
    rw [hab.2] at hboth
    exact absurd hboth.2 Bool.false_ne_true
  have hsymm : Std.Symm fun a b => ¬ (le a b = true ∧ le b a = true) :=
    ⟨fun a b hab hba => hab hba.symm⟩
  refine List.Perm.eq_of_pairwise (fun a b ha hb hab hba => ?_)
    (List.pairwise_mergeSort trans total l) (hm.imp fun h => h.1) hperm
  by_contra hne
  exact hapart.forall (hperm.subset ha) hb hne ⟨hab, hba⟩

/-- The sorted values of tasks that end in some order are the values of the tasks. -/
theorem collected_iff (trans : ∀ a b c, le a b = true → le b c = true → le a c = true)
    (total : ∀ a b, (le a b || le b a) = true) {f : α → Except ε β} {tasks ended : List α}
    (hperm : ended.Perm tasks)
    (hstrict : ∀ bs, List.Forall₂ (fun a b => f a = .ok b) tasks bs → bs.Pairwise (Strictly le))
    {bs : List β} :
    (ended.mapM f >>= fun found => .ok (found.mergeSort le)) = .ok bs ↔
      List.Forall₂ (fun a b => f a = .ok b) tasks bs := by
  rw [except_bind_ok]
  constructor
  · rintro ⟨found, hfound, hsorted⟩
    obtain ⟨values, hvalues, hsame⟩ := List.perm_comp_forall₂ hperm.symm (mapM_eq_ok.mp hfound)
    have hsort := mergeSort_of_perm trans total hsame.symm (hstrict values hvalues)
    rw [hsort] at hsorted
    exact Except.ok.inj hsorted ▸ hvalues
  · intro h
    obtain ⟨found, hfound, hsame⟩ := List.perm_comp_forall₂ hperm h
    exact ⟨found, mapM_eq_ok.mpr hfound,
      congrArg Except.ok (mergeSort_of_perm trans total hsame (hstrict bs h))⟩

end NetworkLantern
