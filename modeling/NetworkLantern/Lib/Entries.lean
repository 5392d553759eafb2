import NetworkLantern.Lib.Text
import Mathlib.Data.List.Nodup
import Mathlib.Tactic.Tauto

/-!
# Entries of a sorted map

A `BTreeMap` with text keys, as the list of its entries.  `insert` keeps the
keys in order; what a key is bound to is `List.lookup`.  Two sorted maps that
bind every key alike are the same map (`Sorted.ext`).
-/

namespace NetworkLantern

abbrev Entries (β : Type) := List (Str × β)

namespace Entries

variable {β : Type}

/-- The order of texts, which is that of their bytes. -/
def before : Str → Str → Bool
  | _, [] => false
  | [], _ :: _ => true
  | c :: s, d :: t => decide (c.toNat < d.toNat) || (c == d && before s t)

def insert (k : Str) (v : β) : Entries β → Entries β
  | [] => [(k, v)]
  | (l, w) :: es =>
    if k = l then (k, v) :: es
    else if before k l then (k, v) :: (l, w) :: es
    else (l, w) :: insert k v es

/-- The first entry of a key goes; a sorted map has no other. -/
def remove (k : Str) (es : Entries β) : Entries β := es.eraseP fun e => e.1 == k

def keys (es : Entries β) : List Str := es.map Prod.fst

/-- The map of a list of fields; a later field replaces an earlier one. -/
def ofFields (fields : List (Str × β)) : Entries β :=
  fields.foldl (fun es e => es.insert e.1 e.2) []

/-- What a key is bound to. -/
def get? (es : Entries β) (k : Str) : Option β := List.lookup k es

@[simp] theorem get?_nil (k : Str) : get? ([] : Entries β) k = none := rfl

theorem get?_cons (l : Str) (w : β) (es : Entries β) (k : Str) :
    get? ((l, w) :: es) k = if k = l then some w else es.get? k := by
  show List.lookup k ((l, w) :: es) = _
  rw [List.lookup_cons]
  by_cases h : k = l
  · rw [if_pos h, beq_iff_eq.mpr h]
  · rw [if_neg h, beq_eq_false_iff_ne.mpr h]
    rfl

theorem get?_insert (k : Str) (v : β) (es : Entries β) (l : Str) :
    (es.insert k v).get? l = if l = k then some v else es.get? l := by
  induction es with
  | nil => rw [insert, get?_cons]
  | cons e es ih =>
    obtain ⟨m, w⟩ := e
    unfold insert
    by_cases hm : k = m
    · rw [if_pos hm, get?_cons, get?_cons]
      by_cases hl : l = k
      · rw [if_pos hl, if_pos hl]
      · rw [if_neg hl, if_neg hl, if_neg (fun h => hl (h.trans hm.symm))]
    · rw [if_neg hm]
      split
      · rw [get?_cons]
      · rw [get?_cons, get?_cons, ih]
        by_cases hl : l = k
        · have hlm : ¬ l = m := fun h => hm (hl.symm.trans h)
          rw [if_neg hlm, if_pos hl, if_pos hl]
        · rw [if_neg hl, if_neg hl]

theorem get?_insert_self (k : Str) (v : β) (es : Entries β) :
    (es.insert k v).get? k = some v := by
  rw [get?_insert, if_pos rfl]

theorem get?_insert_of_ne {k l : Str} (h : l ≠ k) (v : β) (es : Entries β) :
    (es.insert k v).get? l = es.get? l := by
  rw [get?_insert, if_neg h]

theorem get?_foldl_insert (fields : List (Str × β)) (es : Entries β) (k : Str)
    (h : k ∉ fields.map Prod.fst) :
    (fields.foldl (fun es e => es.insert e.1 e.2) es).get? k = es.get? k := by
  induction fields generalizing es with
  | nil => rfl
  | cons f fields ih =>
    rw [List.map_cons, List.mem_cons, not_or] at h
    rw [List.foldl_cons, ih _ h.2, get?_insert_of_ne h.1]

/-- Fields with different names go over what is bound already. -/
theorem get?_foldl_insert_of_nodup {fields : List (Str × β)} (h : (fields.map Prod.fst).Nodup)
    (es : Entries β) (k : Str) :
    (fields.foldl (fun es e => es.insert e.1 e.2) es).get? k =
      (List.lookup k fields).or (es.get? k) := by
  induction fields generalizing es with
  | nil => rfl
  | cons f fields ih =>
    obtain ⟨l, w⟩ := f
    rw [List.map_cons, List.nodup_cons] at h
    rw [List.foldl_cons, List.lookup_cons]
    by_cases hk : k = l
    · subst hk
      rw [get?_foldl_insert _ _ _ h.1, get?_insert_self, beq_self_eq_true]
      rfl
    · rw [ih h.2, get?_insert_of_ne hk, beq_eq_false_iff_ne.mpr hk]

/-- A map made of fields with different names binds each to its own value. -/
theorem get?_ofFields {fields : List (Str × β)} (h : (fields.map Prod.fst).Nodup) (k : Str) :
    (ofFields fields).get? k = List.lookup k fields := by
  unfold ofFields
  rw [get?_foldl_insert_of_nodup h, get?_nil, Option.or_none]

theorem keys_insert (k : Str) (v : β) (es : Entries β) (l : Str) :
    l ∈ (es.insert k v).keys ↔ l = k ∨ l ∈ es.keys := by
  induction es with
  | nil => simp [insert, keys]
  | cons e es ih =>
    obtain ⟨m, w⟩ := e
    unfold insert
    by_cases hm : k = m
    · subst hm
      rw [if_pos rfl]
      simp [keys]
    · rw [if_neg hm]
      split
      · simp [keys]
      · simp only [keys, List.map_cons, List.mem_cons] at ih ⊢
        rw [ih]
        tauto

theorem keys_foldl_insert (fields : List (Str × β)) (es : Entries β) (l : Str) :
    l ∈ (fields.foldl (fun es e => es.insert e.1 e.2) es).keys ↔
      l ∈ fields.map Prod.fst ∨ l ∈ es.keys := by
  induction fields generalizing es with
  | nil => simp
  | cons f fields ih =>
    rw [List.foldl_cons, ih, keys_insert, List.map_cons, List.mem_cons]
    tauto

theorem keys_ofFields (fields : List (Str × β)) (l : Str) :
    l ∈ (ofFields fields).keys ↔ l ∈ fields.map Prod.fst := by
  unfold ofFields
  rw [keys_foldl_insert]
  simp [keys]

theorem get?_isSome (es : Entries β) (k : Str) : (es.get? k).isSome ↔ k ∈ es.keys := by
  induction es with
  | nil => simp [keys]
  | cons e es ih =>
    obtain ⟨l, w⟩ := e
    rw [get?_cons]
    by_cases hk : k = l
    · rw [if_pos hk]
      simp [keys, hk]
    · rw [if_neg hk, ih]
      simp [keys, hk]

theorem mem_of_get? {es : Entries β} {k : Str} {v : β} (h : es.get? k = some v) : (k, v) ∈ es := by
  induction es with
  | nil => cases h
  | cons e es ih =>
    obtain ⟨l, w⟩ := e
    rw [get?_cons] at h
    by_cases hk : k = l
    · rw [if_pos hk, Option.some.injEq] at h
      rw [hk, h]
      exact List.mem_cons_self
    · rw [if_neg hk] at h
      exact List.mem_cons_of_mem _ (ih h)

theorem get?_filter {es : Entries β} (hn : es.keys.Nodup) (p : Str × β → Bool) (k : Str) :
    get? (es.filter p) k = (get? es k).filter fun v => p (k, v) := by
  induction es with
  | nil => rfl
  | cons e es ih =>
    obtain ⟨l, w⟩ := e
    obtain ⟨hl, hes⟩ := List.nodup_cons.mp hn
    rw [get?_cons, List.filter_cons]
    by_cases hk : k = l
    · subst hk
      have hnone : get? es k = none := by
        rw [← Option.not_isSome_iff_eq_none, get?_isSome]
        exact hl
      rw [if_pos rfl, Option.filter_some]
      by_cases hp : p (k, w) = true
      · rw [if_pos hp, if_pos hp, get?_cons, if_pos rfl]
      · rw [if_neg hp, if_neg hp, ih hes, hnone]
        rfl
    · rw [if_neg hk]
      split
      · rw [get?_cons, if_neg hk, ih hes]
      · exact ih hes

theorem get?_remove_of_ne {k l : Str} (h : l ≠ k) (es : Entries β) :
    (es.remove k).get? l = es.get? l := by
  induction es with
  | nil => rfl
  | cons e es ih =>
    obtain ⟨m, w⟩ := e
    by_cases hm : m = k
    · have hlm : ¬ l = m := fun hl => h (hl.trans hm)
      have hgo : remove k ((m, w) :: es) = es := List.eraseP_cons_of_pos (beq_iff_eq.mpr hm)
      rw [hgo, get?_cons, if_neg hlm]
    · have hkeep : remove k ((m, w) :: es) = (m, w) :: remove k es :=
        List.eraseP_cons_of_neg fun hb => hm (beq_iff_eq.mp hb)
      rw [hkeep, get?_cons, get?_cons, ih]

/-! ## Sorted maps -/

theorem before_irrefl (s : Str) : before s s = false := by
  induction s with
  | nil => rfl
  | cons c s ih =>
    unfold before
    simp [ih]

theorem before_trans {s t u : Str} (hst : before s t = true) (htu : before t u = true) :
    before s u = true := by
  induction t generalizing s u with
  | nil => cases s <;> simp [before] at hst
  | cons d t ih =>
    cases u with
    | nil => simp [before] at htu
    | cons e u =>
      cases s with
      | nil => rfl
      | cons c s =>
        simp only [before, Bool.or_eq_true, Bool.and_eq_true, decide_eq_true_eq, beq_iff_eq]
          at hst htu ⊢
        rcases hst with hcd | ⟨rfl, hst⟩
        · rcases htu with hde | ⟨rfl, -⟩
          · exact Or.inl (Nat.lt_trans hcd hde)
          · exact Or.inl hcd
        · rcases htu with hde | ⟨rfl, htu⟩
          · exact Or.inl hde
          · exact Or.inr ⟨rfl, ih hst htu⟩

theorem before_asymm {s t : Str} (h : before s t = true) : before t s = false := by
  by_contra hts
  have hss := before_trans h (Bool.not_eq_false _ ▸ hts)
  rw [before_irrefl] at hss
  cases hss

theorem before_total {s t : Str} (hne : s ≠ t) (h : before s t = false) : before t s = true := by
  induction s generalizing t with
  | nil =>
    cases t with
    | nil => exact absurd rfl hne
    | cons d t => simp [before] at h
  | cons c s ih =>
    cases t with
    | nil => rfl
    | cons d t =>
      simp only [before, Bool.or_eq_false_iff, Bool.and_eq_false_imp, decide_eq_false_iff_not,
        beq_iff_eq] at h
      simp only [before, Bool.or_eq_true, Bool.and_eq_true, decide_eq_true_eq, beq_iff_eq]
      by_cases hcd : c = d
      · subst hcd
        have hst : s ≠ t := fun hst => hne (hst ▸ rfl)
        exact Or.inr ⟨rfl, ih hst (h.2 rfl)⟩
      · have hnat : c.toNat ≠ d.toNat := fun he => hcd (Char.toNat_inj.mp he)
        left
        omega

theorem insert_perm {k : Str} {es : Entries β} (h : k ∉ es.keys) (v : β) :
    (es.insert k v).Perm ((k, v) :: es) := by
  induction es with
  | nil => exact .refl _
  | cons e es ih =>
    obtain ⟨l, w⟩ := e
    obtain ⟨hl, hes⟩ := not_or.mp (mt List.mem_cons.mpr h)
    unfold insert
    rw [if_neg hl]
    split
    · exact .refl _
    · exact ((ih hes).cons (l, w)).trans (.swap _ _ _)

/-- The keys increase. -/
def Sorted (es : Entries β) : Prop := es.Pairwise fun a b => before a.1 b.1 = true

theorem sorted_insert {es : Entries β} (h : es.Sorted) (k : Str) (v : β) :
    (es.insert k v).Sorted := by
  induction es with
  | nil => exact List.pairwise_singleton _ _
  | cons e es ih =>
    obtain ⟨l, w⟩ := e
    obtain ⟨hl, hes⟩ := List.pairwise_cons.mp h
    unfold insert
    by_cases hk : k = l
    · subst hk
      rw [if_pos rfl]
      exact List.pairwise_cons.mpr ⟨hl, hes⟩
    · rw [if_neg hk]
      by_cases hb : before k l = true
      · rw [if_pos hb]
        refine List.pairwise_cons.mpr ⟨fun e he => ?_, h⟩
        rcases List.mem_cons.mp he with rfl | he
        · exact hb
        · exact before_trans hb (hl e he)
      · rw [if_neg hb]
        have hlk := before_total hk (Bool.not_eq_true _ ▸ hb)
        refine List.pairwise_cons.mpr ⟨fun e he => ?_, ih hes⟩
        have hkey : e.1 ∈ keys (insert k v es) := List.mem_map_of_mem he
        rcases (keys_insert k v es e.1).mp hkey with hek | hmem
        · rw [hek]
          exact hlk
        · obtain ⟨f, hf, hfe⟩ := List.mem_map.mp hmem
          rw [← hfe]
          exact hl f hf

theorem sorted_foldl_insert (fields : List (Str × β)) {es : Entries β} (h : es.Sorted) :
    (fields.foldl (fun es e => es.insert e.1 e.2) es).Sorted := by
  induction fields generalizing es with
  | nil => exact h
  | cons f fields ih => exact ih (sorted_insert h f.1 f.2)

theorem sorted_ofFields (fields : List (Str × β)) : (ofFields fields).Sorted :=
  sorted_foldl_insert fields List.Pairwise.nil

theorem Sorted.nodup {es : Entries β} (h : es.Sorted) : es.keys.Nodup := by
  rw [keys, List.Nodup, List.pairwise_map]
  refine h.imp fun {a b} hab hne => ?_
  rw [hne, before_irrefl] at hab
  cases hab

theorem Sorted.nodup_entries {es : Entries β} (h : es.Sorted) : es.Nodup :=
  List.Pairwise.of_map Prod.fst (fun _ _ hne heq => hne (congrArg Prod.fst heq)) h.nodup

theorem Sorted.eq_of_key {es : Entries β} (h : es.Sorted) {e f : Str × β} (he : e ∈ es)
    (hf : f ∈ es) (hkey : e.1 = f.1) : e = f := List.inj_on_of_nodup_map h.nodup he hf hkey

theorem get?_of_mem {es : Entries β} (h : es.keys.Nodup) {k : Str} {v : β} (hm : (k, v) ∈ es) :
    es.get? k = some v := by
  induction es with
  | nil => cases hm
  | cons e es ih =>
    obtain ⟨l, w⟩ := e
    obtain ⟨hl, hes⟩ := List.nodup_cons.mp h
    rw [get?_cons]
    rcases List.mem_cons.mp hm with heq | hm
    · cases heq
      rw [if_pos rfl]
    · have hk : k ∈ keys es := List.mem_map_of_mem hm
      have hne : ¬ k = l := fun hkl => hl (hkl ▸ hk)
      rw [if_neg hne, ih hes hm]

/-- Sorted maps that bind every key alike are equal. -/
theorem Sorted.ext {es fs : Entries β} (he : es.Sorted) (hf : fs.Sorted)
    (h : ∀ k, es.get? k = fs.get? k) : es = fs := by
  have hperm : es.Perm fs := by
    refine (List.perm_ext_iff_of_nodup he.nodup_entries hf.nodup_entries).mpr fun e => ?_
    obtain ⟨k, v⟩ := e
    constructor
    · intro hm
      exact mem_of_get? ((h k).symm.trans (get?_of_mem he.nodup hm))
    · intro hm
      exact mem_of_get? ((h k).trans (get?_of_mem hf.nodup hm))
  refine hperm.eq_of_pairwise (fun a b ha hb hab hba => ?_) he hf
  have hcycle := before_trans hab hba
  rw [before_irrefl] at hcycle
  cases hcycle

/-- The fields of a sorted map make that map. -/
theorem Sorted.ofFields_self {es : Entries β} (h : es.Sorted) : ofFields es = es := by
  refine (sorted_ofFields es).ext h fun k => ?_
  exact get?_ofFields h.nodup k

/-! ## Inserting what is named -/

section InsertAll

variable {α : Type} (name : α → Option Str) (value : α → β)

/-- Binds what each element names to its value, one after the other. -/
def insertAll (xs : List α) (es : Entries β) : Entries β :=
  xs.foldl (fun es x => match name x with | some k => es.insert k (value x) | none => es) es

theorem insertAll_cons (x : α) (xs : List α) (es : Entries β) :
    insertAll name value (x :: xs) es =
      insertAll name value xs (match name x with | some k => es.insert k (value x) | none => es) :=
  rfl

theorem insertAll_concat (xs : List α) (x : α) (es : Entries β) :
    insertAll name value (xs ++ [x]) es =
      match name x with
      | some k => (insertAll name value xs es).insert k (value x)
      | none => insertAll name value xs es := List.foldl_concat _ _ _ _

variable {name value} {xs ys : List α} {es : Entries β}

theorem sorted_insertAll (name : α → Option Str) (value : α → β) (xs : List α) (h : es.Sorted) :
    (insertAll name value xs es).Sorted := by
  induction xs using List.reverseRecOn with
  | nil => exact h
  | append_singleton xs x ih =>
    rw [insertAll_concat]
    cases name x with
    | none => exact ih
    | some k => exact sorted_insert ih k _

/-- A key is bound to the value of an element that names it, if there is one. -/
theorem get?_insertAll (name : α → Option Str) (value : α → β) (xs : List α) (es : Entries β) (k : Str) :
    (∃ x ∈ xs, name x = some k ∧ (insertAll name value xs es).get? k = some (value x)) ∨
      (∀ x ∈ xs, name x ≠ some k) ∧ (insertAll name value xs es).get? k = es.get? k := by
  induction xs using List.reverseRecOn with
  | nil => exact .inr ⟨nofun, rfl⟩
  | append_singleton xs x ih =>
    rw [insertAll_concat]
    by_cases hx : name x = some k
    · refine .inl ⟨x, List.mem_append_right _ List.mem_cons_self, hx, ?_⟩
      rw [hx]
      exact get?_insert_self k _ _
    · have hsame : get? (match name x with
          | some l => (insertAll name value xs es).insert l (value x)
          | none => insertAll name value xs es) k = (insertAll name value xs es).get? k := by
        cases hl : name x with
        | none => rfl
        | some l => exact get?_insert_of_ne (fun hkl => hx (hl.trans (congrArg some hkl.symm))) _ _
      rw [hsame]
      rcases ih with ⟨y, hy, hname, hget⟩ | ⟨hnone, hget⟩
      · exact .inl ⟨y, List.mem_append_left _ hy, hname, hget⟩
      · refine .inr ⟨fun y hy => ?_, hget⟩
        rcases List.mem_append.mp hy with hy | hy
        · exact hnone y hy
        · rw [List.mem_singleton.mp hy]
          exact hx

/-- Elements that agree on what they name may come in any order. -/
theorem insertAll_congr (hes : es.Sorted)
    (hagree : ∀ x ∈ xs, ∀ y ∈ ys, ∀ k, name x = some k → name y = some k → value x = value y)
    (hxy : ∀ x ∈ xs, ∀ k, name x = some k → ∃ y ∈ ys, name y = some k)
    (hyx : ∀ y ∈ ys, ∀ k, name y = some k → ∃ x ∈ xs, name x = some k) :
    insertAll name value xs es = insertAll name value ys es := by
  refine (sorted_insertAll name value xs hes).ext (sorted_insertAll name value ys hes) fun k => ?_
  rcases get?_insertAll name value xs es k with
    ⟨x, hx, hname, hget⟩ | ⟨hnone, hget⟩
  · rcases get?_insertAll name value ys es k with
      ⟨y, hy, hname', hget'⟩ | ⟨hnone', -⟩
    · rw [hget, hget', hagree x hx y hy k hname hname']
    · obtain ⟨y, hy, hy'⟩ := hxy x hx k hname
      exact absurd hy' (hnone' y hy)
  · rcases get?_insertAll name value ys es k with
      ⟨y, hy, hname', -⟩ | ⟨-, hget'⟩
    · obtain ⟨x, hx, hx'⟩ := hyx y hy k hname'
      exact absurd hx' (hnone x hx)
    · rw [hget, hget']

theorem mem_insertAll {e : Str × β} (h : e ∈ insertAll name value xs []) :
    ∃ x ∈ xs, name x = some e.1 ∧ value x = e.2 := by
  have hget := get?_of_mem (k := e.1) (v := e.2)
    (sorted_insertAll name value xs List.Pairwise.nil).nodup h
  rcases get?_insertAll name value xs [] e.1 with
    ⟨x, hx, hname, hvalue⟩ | ⟨-, hnone⟩
  · exact ⟨x, hx, hname, Option.some.inj (hvalue.symm.trans hget)⟩
  · rw [hget] at hnone
    cases hnone

theorem mem_of_mem_ofFields {fields : List (Str × β)} {e : Str × β} (h : e ∈ ofFields fields) :
    e ∈ fields := by
  have hall : e ∈ insertAll (fun f : Str × β => some f.1) Prod.snd fields [] := h
  obtain ⟨f, hf, hname, hvalue⟩ := mem_insertAll hall
  have hfe : f = e := Prod.ext (Option.some.inj hname) hvalue
  exact hfe ▸ hf

end InsertAll

theorem ofFields_perm {fields : List (Str × β)} (h : (fields.map Prod.fst).Nodup) :
    (ofFields fields).Perm fields := by
  refine (List.perm_ext_iff_of_nodup (sorted_ofFields fields).nodup_entries
    (List.Nodup.of_map Prod.fst h)).mpr fun e => ?_
  refine ⟨mem_of_mem_ofFields, fun he => ?_⟩
  have hget := get?_ofFields h e.1
  rw [show List.lookup e.1 fields = some e.2 from get?_of_mem h he] at hget
  exact mem_of_get? hget

/-! ## Where a key goes -/

/-- The entries that stay ahead of a key. -/
def ahead (k : Str) (es : Entries β) : Entries β := es.takeWhile fun e => k ≠ e.1 && !before k e.1

theorem ahead_cons (k : Str) (e : Str × β) (es : Entries β) :
    ahead k (e :: es) = if k = e.1 ∨ before k e.1 = true then [] else e :: ahead k es := by
  unfold ahead
  rw [List.takeWhile_cons]
  by_cases hk : k = e.1
  · rw [if_neg (by simp [hk]), if_pos (.inl hk)]
  · by_cases hb : before k e.1 = true
    · rw [if_neg (by simp [hb]), if_pos (.inr hb)]
    · rw [if_pos (by simp [hk, hb]), if_neg (not_or.mpr ⟨hk, hb⟩)]

/-- A search that the key does not answer. -/
theorem find?_insert_of_false {p : Str → Bool} {k : Str} (h : p k = false) (v : β)
    (es : Entries β) : (es.insert k v).find? (fun e => p e.1) = es.find? fun e => p e.1 := by
  induction es with
  | nil => exact List.find?_cons_of_neg (by simp [h])
  | cons e es ih =>
    obtain ⟨l, w⟩ := e
    unfold insert
    split
    · next hk =>
      subst hk
      rw [List.find?_cons_of_neg (by simp [h]), List.find?_cons_of_neg (by simp [h])]
    · split
      · exact List.find?_cons_of_neg (by simp [h])
      · rw [List.find?_cons, List.find?_cons, ih]

/-- A search that the key answers, unless an entry ahead of it does. -/
theorem find?_insert_of_true {p : Str → Bool} {k : Str} (h : p k = true) (v : β) (es : Entries β) :
    (es.insert k v).find? (fun e => p e.1) =
      ((es.ahead k).find? fun e => p e.1).or (some (k, v)) := by
  induction es with
  | nil => exact List.find?_cons_of_pos h
  | cons e es ih =>
    obtain ⟨l, w⟩ := e
    rw [ahead_cons]
    unfold insert
    by_cases hk : k = l
    · rw [if_pos hk, if_pos (.inl hk)]
      exact List.find?_cons_of_pos h
    · rw [if_neg hk]
      by_cases hb : before k l = true
      · rw [if_pos hb, if_pos (.inr hb)]
        exact List.find?_cons_of_pos h
      · rw [if_neg hb, if_neg (not_or.mpr ⟨hk, hb⟩), List.find?_cons, List.find?_cons, ih]
        cases p l <;> rfl

theorem find?_of_ahead {p : Str → Bool} {k : Str} {es : Entries β} {e : Str × β}
    (h : (es.ahead k).find? (fun e => p e.1) = some e) : es.find? (fun e => p e.1) = some e :=
  (List.takeWhile_prefix _).find?_eq_some h

/-! ## Spellings in order -/

/-- Small letters come after capitals. -/
theorem before_lower (s : Str) : s = Str.lower s ∨ before s (Str.lower s) = true := by
  induction s with
  | nil => exact .inl rfl
  | cons c s ih =>
    rw [Str.lower_cons, List.cons.injEq, before, Bool.or_eq_true, Bool.and_eq_true, beq_iff_eq,
      decide_eq_true_eq]
    by_cases h : 65 ≤ c.toNat ∧ c.toNat ≤ 90
    · have hl := Str.toLower_of_upper h.1 h.2
      exact .inr (.inl (by omega))
    · have hc := (Str.toLower_of_not_upper h).symm
      exact ih.imp (fun hs => ⟨hc, hs⟩) fun hs => .inr ⟨hc, hs⟩

theorem upper_before (s : Str) : Str.upper s = s ∨ before (Str.upper s) s = true := by
  induction s with
  | nil => exact .inl rfl
  | cons c s ih =>
    rw [show Str.upper (c :: s) = c.toUpper :: Str.upper s from rfl, List.cons.injEq, before,
      Bool.or_eq_true, Bool.and_eq_true, beq_iff_eq, decide_eq_true_eq]
    by_cases h : 97 ≤ c.toNat ∧ c.toNat ≤ 122
    · have hu := Str.toUpper_of_lower h.1 h.2
      exact .inr (.inl (by omega))
    · have hc := Str.toUpper_of_not_lower h
      exact ih.imp (fun hs => ⟨hc, hs⟩) fun hs => .inr ⟨hc, hs⟩

/-- A text that, in small letters, comes before another in capitals comes before it in
whatever letters. -/
theorem before_of_lower_upper {s t s' t' : Str} (h : before (Str.lower s) (Str.upper t) = true)
    (hs : Str.lower s' = Str.lower s) (ht : Str.lower t' = Str.lower t) : before s' t' = true := by
  rw [← hs, ← Str.upper_congr ht] at h
  have hlow : before s' (Str.upper t') = true := by
    rcases before_lower s' with heq | hb
    · rwa [← heq] at h
    · exact before_trans hb h
  rcases upper_before t' with heq | hb
  · rwa [heq] at hlow
  · exact before_trans hlow hb

/-! ## The first key -/

/-- The first key of which `p` holds, in the order of the keys. -/
structure IsFirst (p : Str → Prop) (es : Entries β) (k : Str) : Prop where
  mem : k ∈ es.keys
  holds : p k
  first : ∀ l ∈ es.keys, p l → l = k ∨ before k l = true

theorem IsFirst.eq {p : Str → Prop} {es : Entries β} {k l : Str} (hk : es.IsFirst p k)
    (hl : es.IsFirst p l) : k = l := by
  rcases hk.first l hl.mem hl.holds with heq | hkl
  · exact heq.symm
  rcases hl.first k hk.mem hk.holds with heq | hlk
  · exact heq
  · rw [before_asymm hkl] at hlk
    cases hlk

theorem IsFirst.congr {p q : Str → Prop} {es fs : Entries β} {k : Str} (hk : es.IsFirst p k)
    (h : ∀ l, l ∈ es.keys ∧ p l ↔ l ∈ fs.keys ∧ q l) : fs.IsFirst q k where
  mem := ((h k).mp ⟨hk.mem, hk.holds⟩).1
  holds := ((h k).mp ⟨hk.mem, hk.holds⟩).2
  first l hl hq := hk.first l ((h l).mpr ⟨hl, hq⟩).1 ((h l).mpr ⟨hl, hq⟩).2

/-- In a sorted map it stands where no key ahead of it has `p`. -/
theorem Sorted.isFirst_cons {p : Str → Prop} {e : Str × β} {es : Entries β}
    (h : Sorted (e :: es)) (hp : p e.1) : IsFirst p (e :: es) e.1 where
  mem := List.mem_cons_self
  holds := hp
  first l hl _ := by
    rcases List.mem_cons.mp hl with rfl | hl
    · exact .inl rfl
    · obtain ⟨f, hf, rfl⟩ := List.mem_map.mp hl
      exact .inr ((List.pairwise_cons.mp h).1 f hf)

theorem IsFirst.cons {p : Str → Prop} {e : Str × β} {es : Entries β} {k : Str}
    (h : es.IsFirst p k) (hp : ¬ p e.1) : IsFirst p (e :: es) k where
  mem := List.mem_cons_of_mem _ h.mem
  holds := h.holds
  first l hl hpl := by
    rcases List.mem_cons.mp hl with rfl | hl
    · exact absurd hpl hp
    · exact h.first l hl hpl

theorem Sorted.exists_isFirst {p : Str → Prop} {es : Entries β} (h : es.Sorted)
    (hp : ∃ k ∈ es.keys, p k) : ∃ k, es.IsFirst p k := by
  induction es with
  | nil => exact absurd hp.choose_spec.1 List.not_mem_nil
  | cons e es ih =>
    by_cases he : p e.1
    · exact ⟨e.1, h.isFirst_cons he⟩
    · obtain ⟨k, hk, hpk⟩ := hp
      rcases List.mem_cons.mp hk with rfl | hk
      · exact absurd hpk he
      · exact (ih (List.pairwise_cons.mp h).2 ⟨k, hk, hpk⟩).imp fun _ h => h.cons he

end Entries

end NetworkLantern
