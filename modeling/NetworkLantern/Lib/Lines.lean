import NetworkLantern.Lib.Text

/-!
# Lines and delimiters

`lines` splits a text at its line feeds as `str::lines` does; the other functions
take a delimiter off a text.
-/

namespace NetworkLantern

namespace Str

/-! ## Lines -/

/-- Takes a carriage return off the end. -/
def stripReturn (s : Str) : Str := if s.getLast? = some '\r' then s.dropLast else s

/-- The lines of a text behind `acc`, the reversed start of its first line. -/
def linesFrom (acc : Str) : Str → List Str
  | [] => if acc.isEmpty then [] else [acc.reverse]
  | c :: cs => if c = '\n' then stripReturn acc.reverse :: linesFrom [] cs else linesFrom (c :: acc) cs

/-- `str::lines`. -/
def lines (s : Str) : List Str := linesFrom [] s

theorem linesFrom_append (acc : Str) {p : Str} (h : '\n' ∉ p) (rest : Str) :
    linesFrom acc (p ++ rest) = linesFrom (p.reverse ++ acc) rest := by
  induction p generalizing acc with
  | nil => rfl
  | cons c p ih =>
    have hc : c ≠ '\n' := fun he => h (he ▸ List.mem_cons_self)
    rw [List.cons_append, linesFrom, if_neg hc, ih _ fun hm => h (List.mem_cons_of_mem c hm)]
    simp

/-- The first line of a text that has a line feed. -/
theorem lines_newline {p : Str} (h : '\n' ∉ p) (rest : Str) :
    lines (p ++ '\n' :: rest) = stripReturn p :: lines rest := by
  unfold lines
  rw [linesFrom_append [] h, linesFrom, if_pos rfl]
  simp

theorem stripReturn_append (p : Str) : stripReturn (p ++ ['\r']) = p := by
  simp [stripReturn]

/-- The first line of a text whose line ends with a carriage return. -/
theorem lines_return {p : Str} (h : '\n' ∉ p) (rest : Str) :
    lines (p ++ '\r' :: '\n' :: rest) = p :: lines rest := by
  have hp : '\n' ∉ p ++ ['\r'] := by simp [h]
  have := lines_newline hp rest
  rwa [stripReturn_append, List.append_assoc] at this

/-! ## Delimiters -/

/-- `strip_prefix`. -/
def stripPrefix (p s : Str) : Option Str := if p <+: s then some (s.drop p.length) else none

/-- `strip_suffix` of one character. -/
def stripLast (c : Char) (s : Str) : Option Str := if s.getLast? = some c then some s.dropLast else none

/-- `split_once`. -/
def splitOnce (c : Char) : Str → Option (Str × Str)
  | [] => none
  | d :: s => if d = c then some ([], s) else (splitOnce c s).map fun r => (d :: r.1, r.2)

theorem stripPrefix_append (p s : Str) : stripPrefix p (p ++ s) = some s := by
  simp [stripPrefix]

theorem stripPrefix_eq_some {p s t : Str} (h : stripPrefix p s = some t) : s = p ++ t := by
  unfold stripPrefix at h
  split at h
  · next hp =>
    cases h
    exact (List.prefix_iff_eq_append.mp hp).symm
  · cases h

theorem stripLast_append (c : Char) (s : Str) : stripLast c (s ++ [c]) = some s := by
  simp [stripLast]

theorem stripLast_eq_some {c : Char} {s t : Str} (h : stripLast c s = some t) : s = t ++ [c] := by
  unfold stripLast at h
  split at h
  · next hl =>
    cases h
    exact (List.dropLast_append_getLast? c hl).symm
  · cases h

theorem splitOnce_append {c : Char} {p : Str} (h : c ∉ p) (s : Str) :
    splitOnce c (p ++ c :: s) = some (p, s) := by
  induction p with
  | nil => simp [splitOnce]
  | cons d p ih =>
    have hd : d ≠ c := fun he => h (he ▸ List.mem_cons_self)
    rw [List.cons_append, splitOnce, if_neg hd, ih fun hm => h (List.mem_cons_of_mem d hm)]
    rfl

/-! ## Joined texts -/

theorem mem_of_mem_intercalate {c x : Char} {ls : List Str} (h : c ∈ [x].intercalate ls) :
    c = x ∨ ∃ l ∈ ls, c ∈ l := by
  induction ls with
  | nil => cases h
  | cons l ls ih =>
    by_cases hne : ls = []
    · subst hne
      rw [List.intercalate_singleton] at h
      exact .inr ⟨l, List.mem_cons_self, h⟩
    · rw [List.intercalate_cons_of_ne_nil hne, List.mem_append, List.mem_append,
        List.mem_singleton] at h
      rcases h with (h | h) | h
      · exact .inr ⟨l, List.mem_cons_self, h⟩
      · exact .inl h
      · rcases ih h with h | ⟨l', hl', h⟩
        · exact .inl h
        · exact .inr ⟨l', List.mem_cons_of_mem l hl', h⟩

theorem pair_infix_cons {α : Type} (x y t : α) (ts : List α) :
    [x, y] <:+: t :: ts ↔ (t = x ∧ ts.head? = some y) ∨ [x, y] <:+: ts := by
  rw [List.infix_cons_iff, List.cons_prefix_cons, eq_comm]
  cases ts with
  | nil => simp
  | cons u us =>
    rw [List.cons_prefix_cons, List.head?_cons, Option.some_inj, @eq_comm _ y u]
    simp

/-- Where two letters stand next to each other in a row of pairs: in one of the pairs, or across
two neighbours. -/
theorem pair_infix_flatMap {α β : Type} (f : α → β × β) (ts : List α) (x y : β) :
    [x, y] <:+: ts.flatMap (fun t => [(f t).1, (f t).2]) ↔
      (∃ t ∈ ts, f t = (x, y)) ∨ ∃ a b, [a, b] <:+: ts ∧ (f a).2 = x ∧ (f b).1 = y := by
  induction ts with
  | nil => simp
  | cons t ts ih =>
    have hhead : (ts.flatMap fun t => [(f t).1, (f t).2]).head? = ts.head?.map fun b => (f b).1 := by
      cases ts <;> rfl
    rw [List.flatMap_cons, List.cons_append, List.cons_append, List.nil_append, pair_infix_cons,
      pair_infix_cons, ih, hhead, List.exists_mem_cons_iff]
    constructor
    · rintro (⟨h1, h2⟩ | ⟨h1, h2⟩ | h | ⟨a, b, hab, h⟩)
      · exact .inl (.inl (Prod.ext h1 (Option.some.inj h2)))
      · obtain ⟨b, hb, h2⟩ := Option.map_eq_some_iff.mp h2
        exact .inr ⟨t, b, (pair_infix_cons ..).mpr (.inl ⟨rfl, hb⟩), h1, h2⟩
      · exact .inl (.inr h)
      · exact .inr ⟨a, b, (pair_infix_cons ..).mpr (.inr hab), h⟩
    · rintro ((h | h) | ⟨a, b, hab, h1, h2⟩)
      · exact .inl (by rw [h]; exact ⟨rfl, rfl⟩)
      · exact .inr (.inr (.inl h))
      · rcases (pair_infix_cons ..).mp hab with ⟨rfl, hb⟩ | hab
        · exact .inr (.inl ⟨h1, by rw [hb, Option.map_some, h2]⟩)
        · exact .inr (.inr (.inr ⟨a, b, hab, h1, h2⟩))

end Str

end NetworkLantern
