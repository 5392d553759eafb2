import Mathlib.Data.List.Induction
import Mathlib.Data.List.Nodup
import Mathlib.Data.List.Perm.Subperm

/-!
# First come

The distinct elements of a list in the order of their first occurrence, and the
first `n` of them: what a store of at most `n` elements keeps of a sequence.

    keep_concat_of_room   one element more
    keptAll_iff           when nothing is left out
    KeptAll.perm          in whatever order the elements come
-/

namespace NetworkLantern

variable {α : Type} [BEq α] [LawfulBEq α]

theorem eraseDups_concat_of_mem {xs : List α} {x : α} (h : x ∈ xs) :
    (xs ++ [x]).eraseDups = xs.eraseDups := by
  have hnone : [x].removeAll xs = [] := by simp [List.removeAll, h]
  rw [List.eraseDups_append, hnone, List.eraseDups_nil, List.append_nil]

theorem eraseDups_concat_of_not_mem {xs : List α} {x : α} (h : x ∉ xs) :
    (xs ++ [x]).eraseDups = xs.eraseDups ++ [x] := by
  have hone : [x].removeAll xs = [x] := by simp [List.removeAll, h]
  rw [List.eraseDups_append, hone]
  rfl

theorem nodup_eraseDups (xs : List α) : xs.eraseDups.Nodup := by
  induction xs using List.reverseRecOn with
  | nil => exact List.nodup_nil
  | append_singleton xs x ih =>
    by_cases h : x ∈ xs
    · rwa [eraseDups_concat_of_mem h]
    · rw [eraseDups_concat_of_not_mem h, List.nodup_append_comm]
      exact List.nodup_cons.mpr ⟨fun hx => h (List.mem_eraseDups.mp hx), ih⟩

theorem length_eraseDups_perm {xs ys : List α} (h : xs.Perm ys) :
    xs.eraseDups.length = ys.eraseDups.length := by
  have hle : ∀ {xs ys : List α}, xs.Perm ys → xs.eraseDups.length ≤ ys.eraseDups.length := by
    intro xs ys h
    refine ((nodup_eraseDups xs).subperm fun x hx => ?_).length_le
    exact List.mem_eraseDups.mpr (h.mem_iff.mp (List.mem_eraseDups.mp hx))
  exact Nat.le_antisymm (hle h) (hle h.symm)

/-- The first `n` distinct elements. -/
def keep (n : Nat) (xs : List α) : List α := xs.eraseDups.take n

omit [LawfulBEq α] in
@[simp] theorem keep_nil (n : Nat) : keep n ([] : List α) = [] := List.take_nil

omit [LawfulBEq α] in
theorem length_keep_le (n : Nat) (xs : List α) : (keep n xs).length ≤ n := List.length_take_le _ _

theorem nodup_keep (n : Nat) (xs : List α) : (keep n xs).Nodup :=
  (nodup_eraseDups xs).sublist (List.take_sublist _ _)

theorem mem_of_mem_keep {n : Nat} {xs : List α} {x : α} (h : x ∈ keep n xs) : x ∈ xs :=
  List.mem_eraseDups.mp (List.mem_of_mem_take h)

/-- An element that is kept, or that finds no room, changes nothing. -/
theorem keep_concat_of_no_room {n : Nat} {xs : List α} {x : α}
    (h : x ∈ keep n xs ∨ n ≤ (keep n xs).length) : keep n (xs ++ [x]) = keep n xs := by
  unfold keep at h ⊢
  by_cases hx : x ∈ xs
  · rw [eraseDups_concat_of_mem hx]
  · have hfull : n ≤ xs.eraseDups.length := by
      rcases h with h | h
      · exact absurd (List.mem_eraseDups.mp (List.mem_of_mem_take h)) hx
      · rw [List.length_take] at h
        omega
    rw [eraseDups_concat_of_not_mem hx, List.take_append_of_le_length hfull]

theorem keep_concat_of_room {n : Nat} {xs : List α} {x : α} (hx : x ∉ keep n xs)
    (hroom : (keep n xs).length < n) : keep n (xs ++ [x]) = keep n xs ++ [x] := by
  unfold keep at hx hroom ⊢
  rw [List.length_take] at hroom
  have hall : xs.eraseDups.take n = xs.eraseDups := List.take_of_length_le (by omega)
  rw [hall] at hx ⊢
  rw [eraseDups_concat_of_not_mem fun h => hx (List.mem_eraseDups.mpr h)]
  refine List.take_of_length_le ?_
  rw [List.length_append, List.length_singleton]
  omega

theorem mem_keep_of_room {n : Nat} {xs : List α} {x : α} (hroom : (keep n xs).length < n)
    (hx : x ∈ xs) : x ∈ keep n xs := by
  unfold keep at hroom ⊢
  rw [List.length_take] at hroom
  rw [List.take_of_length_le (by omega)]
  exact List.mem_eraseDups.mpr hx

/-- Nothing was left out. -/
def KeptAll (n : Nat) (xs : List α) : Prop := ∀ x ∈ xs, x ∈ keep n xs

/-- Nothing is left out where there are at most `n` distinct elements. -/
theorem keptAll_iff {n : Nat} {xs : List α} : KeptAll n xs ↔ xs.eraseDups.length ≤ n := by
  constructor
  · intro h
    have hsub : xs.eraseDups ⊆ keep n xs := fun x hx => h x (List.mem_eraseDups.mp hx)
    exact Nat.le_trans ((nodup_eraseDups xs).subperm hsub).length_le (length_keep_le n xs)
  · intro h x hx
    rw [keep, List.take_of_length_le h]
    exact List.mem_eraseDups.mpr hx

theorem KeptAll.perm {n : Nat} {xs ys : List α} (hxs : KeptAll n xs) (h : xs.Perm ys) :
    KeptAll n ys := by
  rw [keptAll_iff] at hxs ⊢
  rwa [← length_eraseDups_perm h]

theorem keptAll_concat_of_mem {n : Nat} {xs : List α} {x : α} (hx : x ∈ keep n xs) :
    KeptAll n (xs ++ [x]) ↔ KeptAll n xs := by
  rw [keptAll_iff, keptAll_iff, eraseDups_concat_of_mem (mem_of_mem_keep hx)]

theorem keptAll_concat_of_room {n : Nat} {xs : List α} {x : α} (hx : x ∉ keep n xs)
    (hroom : (keep n xs).length < n) : KeptAll n (xs ++ [x]) ↔ KeptAll n xs := by
  have hall : KeptAll n xs := fun y hy => mem_keep_of_room hroom hy
  refine ⟨fun _ => hall, fun _ y hy => ?_⟩
  rw [keep_concat_of_room hx hroom]
  rcases List.mem_append.mp hy with hy | hy
  · exact List.mem_append_left _ (hall y hy)
  · exact List.mem_append_right _ hy

/-- An element that is not kept and finds no room is left out. -/
theorem not_keptAll_concat {n : Nat} {xs : List α} {x : α} (hx : x ∉ keep n xs)
    (hfull : n ≤ (keep n xs).length) : ¬ KeptAll n (xs ++ [x]) := by
  intro h
  have hmem := h x (List.mem_append_right _ (List.mem_singleton_self x))
  rw [keep_concat_of_no_room (.inr hfull)] at hmem
  exact hx hmem

end NetworkLantern
