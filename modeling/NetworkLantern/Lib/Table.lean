import Mathlib.Data.List.AList

/-!
# Tables

A table is a map with finitely many keys, one value for each: an association
list without repeated keys.
-/

namespace NetworkLantern

/-- A finite map. -/
abbrev Table (κ ν : Type) := AList fun _ : κ => ν

namespace Table

variable {κ ν : Type}

/-- The number of entries. -/
def size (m : Table κ ν) : Nat := m.entries.length

/-- Keeps the entries that pass `p`. -/
def retain (m : Table κ ν) (p : κ → ν → Bool) : Table κ ν :=
  ⟨m.entries.filter fun e => p e.1 e.2, m.nodupKeys.sublist List.filter_sublist⟩

theorem size_eq_keys (m : Table κ ν) : m.size = m.keys.length := by
  unfold size AList.keys List.keys
  rw [List.length_map]

theorem size_retain_le (m : Table κ ν) (p : κ → ν → Bool) : (m.retain p).size ≤ m.size :=
  List.length_filter_le _ _

variable [DecidableEq κ]

def get? (m : Table κ ν) (k : κ) : Option ν := AList.lookup k m

def remove (m : Table κ ν) (k : κ) : Table κ ν := AList.erase k m

/-- Sets the value of `k`, whether or not it had one. -/
def put (m : Table κ ν) (k : κ) (v : ν) : Table κ ν := AList.insert k v m

@[simp] theorem get?_empty (k : κ) : get? (∅ : Table κ ν) k = none := rfl

theorem mem_entries {m : Table κ ν} {k : κ} {v : ν} : v ∈ m.get? k ↔ Sigma.mk k v ∈ m.entries :=
  AList.mem_lookup_iff

theorem get?_isSome {m : Table κ ν} {k : κ} : (m.get? k).isSome ↔ k ∈ m.keys :=
  AList.lookup_isSome.trans AList.mem_keys

@[simp] theorem get?_put_self (m : Table κ ν) (k : κ) (v : ν) : (m.put k v).get? k = some v :=
  AList.lookup_insert m

theorem get?_put_of_ne {m : Table κ ν} {k l : κ} {v : ν} (h : l ≠ k) :
    (m.put k v).get? l = m.get? l :=
  AList.lookup_insert_ne h

@[simp] theorem get?_remove_self (m : Table κ ν) (k : κ) : (m.remove k).get? k = none :=
  AList.lookup_erase k m

theorem get?_remove_of_ne {m : Table κ ν} {k l : κ} (h : l ≠ k) :
    (m.remove k).get? l = m.get? l :=
  AList.lookup_erase_ne h

theorem mem_get?_retain {m : Table κ ν} {p : κ → ν → Bool} {k : κ} {v : ν} :
    v ∈ (m.retain p).get? k ↔ v ∈ m.get? k ∧ p k v = true := by
  rw [mem_entries, mem_entries]
  unfold retain
  rw [List.mem_filter]

theorem mem_get?_remove {m : Table κ ν} {k l : κ} {v : ν} :
    v ∈ (m.remove k).get? l ↔ l ≠ k ∧ v ∈ m.get? l := by
  by_cases hkl : l = k
  · rw [hkl, get?_remove_self]
    simp
  · rw [get?_remove_of_ne hkl]
    simp [hkl]

theorem mem_get?_put {m : Table κ ν} {k l : κ} {v w : ν} :
    v ∈ (m.put k w).get? l ↔ l = k ∧ v = w ∨ l ≠ k ∧ v ∈ m.get? l := by
  by_cases hkl : l = k
  · rw [hkl, get?_put_self]
    simp [eq_comm]
  · rw [get?_put_of_ne hkl]
    simp [hkl]

theorem keys_put_of_none {m : Table κ ν} {k : κ} (h : m.get? k = none) (v : ν) :
    (m.put k v).keys = k :: m.keys := by
  have hnot : k ∉ m.keys := fun hmem => by
    rw [← get?_isSome, h] at hmem
    cases hmem
  unfold put
  rw [AList.keys_insert, List.erase_of_not_mem hnot]

/-- A queue of the keys stays one when its head is removed from both. -/
theorem keys_remove_perm {m : Table κ ν} {k : κ} {ks : List κ} (h : (k :: ks).Perm m.keys) :
    ks.Perm (m.remove k).keys := by
  unfold remove
  rw [AList.keys_erase]
  have herase := h.erase k
  rwa [List.erase_cons_head] at herase

theorem size_remove_le (m : Table κ ν) (k : κ) : (m.remove k).size ≤ m.size := by
  rw [size_eq_keys, size_eq_keys, remove, AList.keys_erase]
  exact List.length_erase_le

theorem size_put (m : Table κ ν) (k : κ) (v : ν) : (m.put k v).size = (m.remove k).size + 1 := by
  rw [size_eq_keys, size_eq_keys, put, remove, AList.keys_insert, AList.keys_erase,
    List.length_cons]

theorem size_put_le (m : Table κ ν) (k : κ) (v : ν) : (m.put k v).size ≤ m.size + 1 := by
  have := size_remove_le m k
  rw [size_put]
  omega

theorem get?_of_size_eq_zero {m : Table κ ν} (h : m.size = 0) (k : κ) : m.get? k = none := by
  rw [Option.eq_none_iff_forall_not_mem]
  intro v hv
  have hpos := List.length_pos_of_mem (mem_entries.mp hv)
  unfold size at h
  omega

/-- In a table of at most one entry, any two entries are the same. -/
theorem eq_of_size_le_one {m : Table κ ν} (h : m.size ≤ 1) {k l : κ} {v w : ν}
    (hv : v ∈ m.get? k) (hw : w ∈ m.get? l) : k = l ∧ v = w := by
  rw [mem_entries] at hv hw
  have hlen : m.entries.length = 1 := by
    have hpos := List.length_pos_of_mem hv
    unfold size at h
    omega
  obtain ⟨e, he⟩ := List.length_eq_one_iff.mp hlen
  rw [he, List.mem_singleton] at hv hw
  cases hv.trans hw.symm
  exact ⟨rfl, rfl⟩

end Table

end NetworkLantern
