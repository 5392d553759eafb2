import Mathlib.Data.List.Pairwise
import NetworkLantern.Lib.Checks
import NetworkLantern.Runtime.PathConfig

/-!
# How the keys of a path layer are spelt

Most keys of a layer are matched without case, but `target` is compared as it
stands, and so are `rounds` and `protocols` where an empty list keeps the layers
before.  Keys for one setting, and unknown keys under `--strict`, are taken in the
order of their bytes, which changes with their case.  A layer where none of this
matters may be spelt in any case (`caseBlind_of_agrees`).
-/

namespace NetworkLantern.Runtime

open NetworkLantern Path

/-- An entry, but for the case of its key. -/
def caseless (e : Str × Json) : Str × Json := (Str.lower e.1, e.2)

/-- The same entries under keys in another case, no two of which are the same. -/
structure Respelt (layer layer' : Entries Json) : Prop where
  sorted : Entries.Sorted layer'
  perm : (layer'.map caseless).Perm (layer.map caseless)

/-- What `--strict` says of a key, in the case it is spelt in. -/
def unknownKey (key : Str) : Error :=
  .validation ("Unknown configuration key '".toList ++ key ++ "' (rejected by --strict)".toList)

/-- The text of it, but for the case. -/
def refusal (key : Str) : Str := Str.lower (unknownKey key).message

/-- The same value or rejection, whatever the warnings and the case of an unknown key. -/
def Same {α β : Type} (x y : Except Error (α × β)) : Prop :=
  x.map Prod.fst = y.map Prod.fst ∨
    ∃ k l, refusal k = refusal l ∧ x = .error (unknownKey k) ∧ y = .error (unknownKey l)

/-- The case of the keys makes no difference, among whatever other layers. -/
def CaseBlind [Refusals] (layer : Entries Json) : Prop :=
  ∀ layer', Respelt layer layer' → ∀ before after strict trace,
    Same (resolve (before ++ .object layer :: after) strict trace)
      (resolve (before ++ .object layer' :: after) strict trace)

/-- The aliases under which an empty list is left out, in any case. -/
def isHostsAlias (key : Str) : Bool :=
  Str.lower key = "hostsipv4".toList || Str.lower key = "hostsipv6".toList

/-- The settings of which an empty list keeps what was there. -/
inductive Selection
  | rounds | protocols

def Selection.key : Selection → Str
  | rounds => "rounds"
  | protocols => "protocols"

/-- No key matters as it stands: there is no target, and an empty selection does not stand
alone. -/
structure Caseless (layer : Entries Json) : Prop where
  target : ∀ e ∈ layer, Str.lower e.1 ≠ "target".toList
  selection : ∀ s : Selection, ∀ e ∈ layer, Str.lower e.1 = s.key → isEmptyArray e.2 = true →
    1 < layer.countP fun f => Str.lower f.1 = s.key

/-- The name an entry is kept under, if it is kept. -/
def keptName (e : Str × Json) : Option Str :=
  if isHostsAlias e.1 && isEmptyArray e.2 then none else some (pathName e.1)

/-- Two keys for one setting say the same. -/
def Agrees (layer : Entries Json) : Prop :=
  ∀ e ∈ layer, ∀ f ∈ layer, ∀ k l, keptName e = some k → keptName f = some l →
    Str.lower k = Str.lower l → e.2 = f.2

/-- The settings of a path configuration. -/
def known : List Str := Entries.keys (pathDefaults false).toEntries

/-- What a key stands for is no setting. -/
def Unknown (key : Str) : Prop := findKey known (pathName key) = none

instance (key : Str) : Decidable (Unknown key) :=
  inferInstanceAs (Decidable (findKey known (pathName key) = none))

/-- The unknown key that comes first is the same in every spelling, as far as a refusal tells. -/
def UnknownFirst (layer : Entries Json) : Prop :=
  ∀ layer', Respelt layer layer' → ∀ k l, Entries.IsFirst Unknown layer k →
    Entries.IsFirst Unknown layer' l → refusal k = refusal l

/-! ## Case -/

theorem findKey_congr (known : List Str) {k l : Str} (h : Str.lower k = Str.lower l) :
    findKey known k = findKey known l := by
  unfold findKey Str.eqCI
  rw [h]

theorem lower_of_findKey {known : List Str} {k c : Str} (h : findKey known k = some c) :
    Str.lower c = Str.lower k := by
  have hfound := @List.find?_some _ (fun c => Str.eqCI c k) _ _ h
  exact (Str.eqCI_iff c k).mp hfound

theorem refusal_congr {k l : Str} (h : Str.lower k = Str.lower l) : refusal k = refusal l := by
  have htext : ∀ key, refusal key = boundedText (Str.lower "Unknown configuration key '".toList ++
      Str.lower key ++ Str.lower "' (rejected by --strict)".toList) MAX_DIAGNOSTIC_BYTES := by
    intro key
    rw [refusal, unknownKey, Error.validation, Error.new, lower_boundedText, Str.lower_append,
      Str.lower_append]
  rw [htext, htext, h]

theorem isHostsAlias_congr {k l : Str} (h : Str.lower k = Str.lower l) :
    isHostsAlias k = isHostsAlias l := by
  unfold isHostsAlias
  rw [h]

theorem lower_pathName {k l : Str} (h : Str.lower k = Str.lower l) :
    Str.lower (pathName k) = Str.lower (pathName l) := by
  unfold pathName
  rw [h]
  split
  · rfl
  split
  · rfl
  split
  · rfl
  · exact h

theorem known_eq (trace : Bool) : Entries.keys (pathDefaults trace).toEntries = known := by
  cases trace <;> rfl

theorem pathName_eq_self {k : Str} (h : Str.lower k ≠ "hostsipv4".toList)
    (h' : Str.lower k ≠ "hostsipv6".toList) (h'' : Str.lower k ≠ "skippathping".toList) :
    pathName k = k := by
  rw [pathName, if_neg h, if_neg h', if_neg h'']

/-- A name is an alias for a setting, or stands for itself. -/
theorem pathName_cases (k : Str) :
    (pathName k = k) ∨ pathName k = "hosts_ipv4".toList ∨ pathName k = "hosts_ipv6".toList ∨
      pathName k = "skip_pathping".toList := by
  unfold pathName
  split
  · exact .inr (.inl rfl)
  split
  · exact .inr (.inr (.inl rfl))
  split
  · exact .inr (.inr (.inr rfl))
  · exact .inl rfl

theorem Unknown.pathName_eq {k : Str} (h : Unknown k) : pathName k = k := by
  unfold Unknown at h
  rcases pathName_cases k with hk | hk | hk | hk
  · exact hk
  all_goals
    rw [hk] at h
    exact absurd h (by decide)

theorem unknown_congr {k l : Str} (h : Str.lower k = Str.lower l) : Unknown k ↔ Unknown l := by
  unfold Unknown
  rw [findKey_congr known (lower_pathName h)]

theorem not_unknown_key (s : Selection) {k : Str} (h : Str.lower k = s.key) : ¬ Unknown k := by
  have hkey : Str.lower s.key = s.key := by cases s <;> decide
  rw [unknown_congr (h.trans hkey.symm)]
  cases s <;> decide

/-! ## Translating -/

/-- What an entry is translated to, unless it is refused. -/
def expand (e : Str × Json) : Entries Json :=
  if e.1 = "target".toList then
    match e.2.asStr with
    | some host => targetFields host
    | none => []
  else if keepsFallback e.1 && isEmptyArray e.2 then []
  else [(pathName e.1, e.2)]

/-- The translation of a layer. -/
def expanded (layer : Entries Json) : Entries Json := Entries.ofFields (layer.flatMap expand)

theorem expand_target {v : Json} {host : Str} (h : v.asStr = some host) :
    expand ("target".toList, v) = targetFields host := by
  show (if "target".toList = "target".toList then _ else _) = _
  rw [if_pos (Eq.refl "target".toList), h]

theorem translateEntry_ok {e : Str × Json} (h : e.1 = "target".toList → e.2.asStr ≠ none)
    (out : Entries Json) :
    translateEntry out e =
      .ok ((expand e).foldl (fun es f => Entries.insert f.1 f.2 es) out) := by
  unfold translateEntry expand
  by_cases htarget : e.1 = "target".toList
  · rw [if_pos htarget, if_pos htarget]
    cases hhost : e.2.asStr with
    | none => exact absurd hhost (h htarget)
    | some host => rfl
  · rw [if_neg htarget, if_neg htarget]
    split <;> rfl

theorem translate_ok {layer : Entries Json}
    (h : ∀ e ∈ layer, e.1 = "target".toList → e.2.asStr ≠ none) :
    translate (.object layer) = .ok (.object (expanded layer)) := by
  have hfold : ∀ (es out : Entries Json),
      (∀ e ∈ es, e.1 = "target".toList → e.2.asStr ≠ none) →
      es.foldlM translateEntry out =
        .ok ((es.flatMap expand).foldl (fun es f => Entries.insert f.1 f.2 es) out) := by
    intro es
    induction es with
    | nil => intro out _; rfl
    | cons e es ih =>
      intro out hes
      rw [List.foldlM_cons, translateEntry_ok (hes e List.mem_cons_self), List.flatMap_cons,
        List.foldl_append]
      exact ih _ fun f hf => hes f (List.mem_cons_of_mem e hf)
  show (layer.foldlM translateEntry []).map Json.object = _
  rw [hfold layer [] h]
  rfl

/-- A `target` that is not a text is refused. -/
theorem translate_refused {layer : Entries Json} {e : Str × Json} (he : e ∈ layer)
    (htarget : e.1 = "target".toList) (hvalue : e.2.asStr = none) (r : Json) :
    translate (.object layer) ≠ .ok r := by
  have hfold : ∀ (es out out' : Entries Json), e ∈ es → es.foldlM translateEntry out ≠ .ok out' := by
    intro es
    induction es with
    | nil => intro _ _ hmem; cases hmem
    | cons f es ih =>
      intro out out' hmem h
      rw [List.foldlM_cons] at h
      obtain ⟨mid, hmid, h⟩ := except_bind_ok.mp h
      rcases List.mem_cons.mp hmem with rfl | hmem
      · rw [translateEntry, if_pos htarget, hvalue] at hmid
        cases hmid
      · exact ih mid out' hmem h
  intro h
  obtain ⟨out, hout, -⟩ := except_map_ok.mp h
  exact hfold layer [] out he hout

theorem mem_expanded {layer : Entries Json} {x : Str × Json} (h : x ∈ expanded layer) :
    ∃ e ∈ layer, x ∈ expand e := List.mem_flatMap.mp (Entries.mem_of_mem_ofFields h)

theorem exists_mem_expanded {layer : Entries Json} {e x : Str × Json} (he : e ∈ layer)
    (hx : x ∈ expand e) : ∃ v, (x.1, v) ∈ expanded layer := by
  have hkey : x.1 ∈ Entries.keys (expanded layer) :=
    (Entries.keys_ofFields _ _).mpr (List.mem_map_of_mem (List.mem_flatMap.mpr ⟨e, he, hx⟩))
  obtain ⟨y, hy, hyx⟩ := List.mem_map.mp hkey
  exact ⟨y.2, hyx ▸ hy⟩

/-- What another entry than a `target` is expanded to. -/
theorem name_of_mem_expand {e x : Str × Json} (hx : x ∈ expand e)
    (htarget : e.1 ≠ "target".toList) : x = (pathName e.1, e.2) := by
  unfold expand at hx
  rw [if_neg htarget] at hx
  split at hx
  · cases hx
  · exact List.mem_singleton.mp hx

theorem keptName_of_mem_expand {e x : Str × Json} (hx : x ∈ expand e)
    (htarget : e.1 ≠ "target".toList) : keptName e = some x.1 ∧ e.2 = x.2 := by
  have hname := name_of_mem_expand hx htarget
  have hkept : ¬ (isHostsAlias e.1 && isEmptyArray e.2) = true := by
    intro hskip
    rw [Bool.and_eq_true] at hskip
    have hskip' : (keepsFallback e.1 && isEmptyArray e.2) = true := by
      rw [Bool.and_eq_true]
      refine ⟨?_, hskip.2⟩
      show (isHostsAlias e.1 || _ || _) = true
      rw [hskip.1, Bool.true_or, Bool.true_or]
    rw [expand, if_neg htarget, if_pos hskip'] at hx
    cases hx
  rw [hname, keptName, if_neg hkept]
  exact ⟨rfl, rfl⟩

theorem pathName_eq_key {k : Str} (s : Selection) (h : pathName k = s.key) : k = s.key := by
  rcases pathName_cases k with hk | hk | hk | hk
  · rwa [hk] at h
  all_goals
    rw [hk] at h
    cases s <;> exact absurd h (by decide)

/-- An entry that is kept is expanded to itself, unless it is an empty selection in small letters. -/
theorem expand_cases {e : Str × Json} {k : Str} (hk : keptName e = some k)
    (htarget : e.1 ≠ "target".toList) :
    expand e = [(k, e.2)] ∨ ∃ s : Selection, e.1 = s.key ∧ isEmptyArray e.2 = true := by
  unfold keptName at hk
  split at hk
  · cases hk
  rename_i hkept
  cases hk
  unfold expand
  rw [if_neg htarget]
  cases hempty : isEmptyArray e.2 with
  | false =>
    rw [Bool.and_false, if_neg Bool.false_ne_true]
    exact .inl rfl
  | true =>
    rw [hempty, Bool.and_true] at hkept
    by_cases hrounds : pathName e.1 = "rounds".toList
    · exact .inr ⟨.rounds, pathName_eq_key .rounds hrounds, rfl⟩
    by_cases hprotocols : pathName e.1 = "protocols".toList
    · exact .inr ⟨.protocols, pathName_eq_key .protocols hprotocols, rfl⟩
    left
    have hskip : ¬ (keepsFallback e.1 && true) = true := by
      show ¬ ((isHostsAlias e.1 || _ || _) && true) = true
      rw [eq_false_of_ne_true hkept, decide_eq_false hrounds, decide_eq_false hprotocols]
      exact Bool.false_ne_true
    rw [if_neg hskip]

theorem Caseless.ne_target {layer : Entries Json} (h : Caseless layer) {e : Str × Json}
    (he : e ∈ layer) : e.1 ≠ "target".toList := fun heq => h.target e he (by rw [heq]; decide)

/-- A layer without a target keeps its unknown keys, and no others are added. -/
theorem unknown_expanded {layer : Entries Json} (htarget : ∀ e ∈ layer, e.1 ≠ "target".toList)
    (k : Str) : k ∈ Entries.keys (expanded layer) ∧ findKey known k = none ↔
      k ∈ Entries.keys layer ∧ Unknown k := by
  constructor
  · rintro ⟨hk, hnone⟩
    obtain ⟨x, hx, rfl⟩ := List.mem_map.mp hk
    obtain ⟨e, he, hxe⟩ := mem_expanded hx
    rw [name_of_mem_expand hxe (htarget e he)] at hnone ⊢
    have hunknown : Unknown e.1 := hnone
    rw [show (pathName e.1, e.2).1 = e.1 from hunknown.pathName_eq]
    exact ⟨List.mem_map_of_mem he, hunknown⟩
  · rintro ⟨hk, hunknown⟩
    obtain ⟨e, he, rfl⟩ := List.mem_map.mp hk
    have hname := hunknown.pathName_eq
    have hnone : findKey known e.1 = none := by
      have h := hunknown
      rwa [Unknown, hname] at h
    have hkept : keptName e = some e.1 := by
      have halias : isHostsAlias e.1 = false := by
        by_contra halias
        rw [Bool.not_eq_false, isHostsAlias, Bool.or_eq_true, decide_eq_true_eq,
          decide_eq_true_eq] at halias
        unfold Unknown pathName at hunknown
        rcases halias with h | h
        · rw [if_pos h] at hunknown
          exact absurd hunknown (by decide)
        · rw [if_neg (by rw [h]; decide), if_pos h] at hunknown
          exact absurd hunknown (by decide)
      rw [keptName, halias, Bool.false_and, if_neg Bool.false_ne_true, hname]
    rcases expand_cases hkept (htarget e he) with hexpand | ⟨s, hs, -⟩
    · obtain ⟨v, hv⟩ := exists_mem_expanded he (x := (e.1, e.2)) (by
        rw [hexpand]
        exact List.mem_singleton_self _)
      exact ⟨List.mem_map.mpr ⟨_, hv, rfl⟩, hnone⟩
    · refine absurd hunknown (not_unknown_key s ?_)
      rw [hs]
      cases s <;> decide

/-! ## Merging -/

section Merging

variable {known : List Str} {strict : Bool} {es : Entries Json}

/-- A layer goes over what is merged so far, unless an unknown key is refused. -/
theorem mergeLayer_ok (h : strict = true → ∀ e ∈ es, findKey known e.1 ≠ none) (acc : Merged) :
    ∃ warnings, mergeLayer known strict acc (.object es) =
      .ok (Entries.insertAll (fun e => findKey known e.1) Prod.snd es acc.1, warnings) := by
  show ∃ warnings, es.foldlM (mergeEntry known strict) acc = _
  induction es generalizing acc with
  | nil => exact ⟨acc.2, rfl⟩
  | cons e es ih =>
    have hrest := ih fun hs f hf => h hs f (List.mem_cons_of_mem e hf)
    rw [List.foldlM_cons, mergeEntry, Entries.insertAll_cons]
    cases hfound : findKey known e.1 with
    | some c => exact hrest (Entries.insert c e.2 acc.1, acc.2)
    | none =>
      cases strict with
      | true => exact absurd hfound (h rfl e List.mem_cons_self)
      | false => exact hrest (acc.1, _)

/-- The unknown key that comes first is refused. -/
theorem mergeLayer_unknown (hs : Entries.Sorted es) {k : Str}
    (hk : Entries.IsFirst (findKey known · = none) es k) (acc : Merged) :
    mergeLayer known true acc (.object es) = .error (unknownKey k) := by
  show es.foldlM (mergeEntry known true) acc = _
  induction es generalizing acc with
  | nil => exact absurd hk.mem List.not_mem_nil
  | cons e es ih =>
    rw [List.foldlM_cons, mergeEntry]
    cases hfound : findKey known e.1 with
    | none =>
      rw [hk.eq (hs.isFirst_cons (p := (findKey known · = none)) hfound)]
      rfl
    | some c =>
      have hrest : Entries.IsFirst (findKey known · = none) es k := by
        refine hk.congr fun l => ?_
        constructor
        · rintro ⟨hl, hnone⟩
          rcases List.mem_cons.mp hl with rfl | hl
          · rw [hfound] at hnone
            cases hnone
          · exact ⟨hl, hnone⟩
        · rintro ⟨hl, hnone⟩
          exact ⟨List.mem_cons_of_mem _ hl, hnone⟩
      exact ih (List.pairwise_cons.mp hs).2 hrest _

theorem mergeLayer_sorted {acc acc' : Merged} {layer : Json} (hacc : Entries.Sorted acc.1)
    (h : mergeLayer known strict acc layer = .ok acc') : Entries.Sorted acc'.1 := by
  unfold mergeLayer at h
  cases hobject : layer.asObject with
  | none =>
    rw [hobject] at h
    cases h
  | some es =>
    rw [hobject] at h
    replace h : es.foldlM (mergeEntry known strict) acc = .ok acc' := h
    clear hobject
    induction es generalizing acc with
    | nil =>
      cases h
      exact hacc
    | cons e es ih =>
      rw [List.foldlM_cons] at h
      obtain ⟨mid, hmid, h⟩ := except_bind_ok.mp h
      refine ih ?_ h
      unfold mergeEntry at hmid
      split at hmid
      · cases hmid
        exact Entries.sorted_insert hacc _ _
      · split at hmid
        · cases hmid
        · cases hmid
          exact hacc

end Merging

/-! ## The same outcome -/

section Outcomes

variable {α β γ : Type}

theorem Same.refl (x : Except Error (α × β)) : Same x x := .inl rfl

theorem Same.of_ok {x y : Except Error (α × β)} {a : α} {b b' : β} (hx : x = .ok (a, b))
    (hy : y = .ok (a, b')) : Same x y := by
  rw [hx, hy]
  exact .inl rfl

/-- What follows looks at the warnings only to pass them on. -/
theorem Same.bind {x y : Except Error (α × β)} (h : Same x y)
    {f : α × β → Except Error (γ × β)} (hf : ∀ a b b', Same (f (a, b)) (f (a, b'))) :
    Same (x >>= f) (y >>= f) := by
  rcases h with h | ⟨k, l, hkl, rfl, rfl⟩
  · cases x with
    | error e =>
      cases y with
      | error e' =>
        cases h
        exact .refl _
      | ok r => cases h
    | ok r =>
      cases y with
      | error e => cases h
      | ok r' =>
        obtain ⟨a, b⟩ := r
        obtain ⟨a', b'⟩ := r'
        cases h
        exact hf a b b'
  · exact .inr ⟨k, l, hkl, rfl, rfl⟩

end Outcomes

section Merging

variable {known : List Str} {strict : Bool}

/-- Entries that a merge cannot tell apart. -/
structure MergeAlike (es fs : Entries Json) : Prop where
  agree : ∀ e ∈ es, ∀ f ∈ fs, Str.lower e.1 = Str.lower f.1 → e.2 = f.2
  left : ∀ e ∈ es, ∃ f ∈ fs, Str.lower f.1 = Str.lower e.1
  right : ∀ f ∈ fs, ∃ e ∈ es, Str.lower e.1 = Str.lower f.1

/-- The first keys that are refused are refused alike. -/
def FirstAlike (known : List Str) (es fs : Entries Json) : Prop :=
  ∀ k l, Entries.IsFirst (findKey known · = none) es k →
    Entries.IsFirst (findKey known · = none) fs l → refusal k = refusal l

theorem MergeAlike.mergeLayer {es fs : Entries Json} (h : MergeAlike es fs)
    (hfirst : FirstAlike known es fs) (hes : Entries.Sorted es) (hfs : Entries.Sorted fs)
    {acc : Merged} (hacc : Entries.Sorted acc.1) :
    Same (mergeLayer known strict acc (.object es)) (mergeLayer known strict acc (.object fs)) := by
  have hleft : ∀ e ∈ es, ∃ f ∈ fs, findKey known f.1 = findKey known e.1 := fun e he =>
    (h.left e he).imp fun f hf => ⟨hf.1, findKey_congr known hf.2⟩
  have hright : ∀ f ∈ fs, ∃ e ∈ es, findKey known e.1 = findKey known f.1 := fun f hf =>
    (h.right f hf).imp fun e he => ⟨he.1, findKey_congr known he.2⟩
  by_cases hunknown : strict = true ∧ ∃ e ∈ es, findKey known e.1 = none
  · obtain ⟨rfl, e, he, hnone⟩ := hunknown
    obtain ⟨f, hf, hfe⟩ := hleft e he
    obtain ⟨k, hk⟩ := hes.exists_isFirst (p := (findKey known · = none))
      ⟨e.1, List.mem_map_of_mem he, hnone⟩
    obtain ⟨l, hl⟩ := hfs.exists_isFirst (p := (findKey known · = none))
      ⟨f.1, List.mem_map_of_mem hf, hfe.trans hnone⟩
    exact .inr ⟨k, l, hfirst k l hk hl, mergeLayer_unknown hes hk acc, mergeLayer_unknown hfs hl acc⟩
  · have hes : strict = true → ∀ e ∈ es, findKey known e.1 ≠ none := fun hs e he hnone =>
      hunknown ⟨hs, e, he, hnone⟩
    have hfs : strict = true → ∀ f ∈ fs, findKey known f.1 ≠ none := fun hs f hf hnone => by
      obtain ⟨e, he, hef⟩ := hright f hf
      exact hes hs e he (hef.trans hnone)
    obtain ⟨w, hw⟩ := mergeLayer_ok hes acc
    obtain ⟨w', hw'⟩ := mergeLayer_ok hfs acc
    have hsame : Entries.insertAll (fun e => findKey known e.1) Prod.snd es acc.1 =
        Entries.insertAll (fun e => findKey known e.1) Prod.snd fs acc.1 := by
      refine Entries.insertAll_congr hacc ?_ ?_ ?_
      · intro e he f hf c hec hfc
        exact h.agree e he f hf ((lower_of_findKey hec).symm.trans (lower_of_findKey hfc))
      · intro e he c hec
        obtain ⟨f, hf, hfe⟩ := hleft e he
        exact ⟨f, hf, hfe.trans hec⟩
      · intro f hf c hfc
        obtain ⟨e, he, hef⟩ := hright f hf
        exact ⟨e, he, hef.trans hfc⟩
    exact .of_ok (hsame ▸ hw) hw'

/-- A merge passes the warnings on. -/
theorem same_mergeEntries (es : Entries Json) (m : Entries Json) (w w' : List Str) :
    Same (es.foldlM (mergeEntry known strict) (m, w))
      (es.foldlM (mergeEntry known strict) (m, w')) := by
  induction es generalizing m w w' with
  | nil => exact .inl rfl
  | cons e es ih =>
    rw [List.foldlM_cons, List.foldlM_cons, mergeEntry, mergeEntry]
    cases findKey known e.1 with
    | some c => exact ih _ w w'
    | none =>
      cases strict with
      | true => exact .refl _
      | false => exact ih m _ _

theorem same_mergeLayer (m : Entries Json) (w w' : List Str) (layer : Json) :
    Same (mergeLayer known strict (m, w) layer) (mergeLayer known strict (m, w') layer) := by
  cases layer with
  | object es => exact same_mergeEntries es m w w'
  | null | bool | number | string | array => exact .refl _

theorem same_mergeAll (layers : List Json) (m : Entries Json) (w w' : List Str) :
    Same (layers.foldlM (mergeLayer known strict) (m, w))
      (layers.foldlM (mergeLayer known strict) (m, w')) := by
  induction layers generalizing m w w' with
  | nil => exact .inl rfl
  | cons layer layers ih =>
    rw [List.foldlM_cons, List.foldlM_cons]
    exact (same_mergeLayer m w w' layer).bind fun m' v v' => ih m' v v'

theorem mergeAll_sorted {layers : List Json} {acc acc' : Merged} (hacc : Entries.Sorted acc.1)
    (h : layers.foldlM (mergeLayer known strict) acc = .ok acc') : Entries.Sorted acc'.1 := by
  induction layers generalizing acc with
  | nil =>
    cases h
    exact hacc
  | cons layer layers ih =>
    rw [List.foldlM_cons] at h
    obtain ⟨mid, hmid, h⟩ := except_bind_ok.mp h
    exact ih (mergeLayer_sorted hacc hmid) h

end Merging

/-- Layers that are translated to entries a merge cannot tell apart resolve alike. -/
theorem same_resolve [Refusals] {layer layer' : Json} {es fs : Entries Json}
    (hes : translate layer = .ok (.object es)) (hfs : translate layer' = .ok (.object fs))
    (h : MergeAlike es fs) (hfirst : FirstAlike known es fs) (hsorted : Entries.Sorted es)
    (hsorted' : Entries.Sorted fs) (before after : List Json) (strict trace : Bool) :
    Same (resolve (before ++ layer :: after) strict trace)
      (resolve (before ++ layer' :: after) strict trace) := by
  unfold resolve
  rw [List.mapM_append, List.mapM_append, List.mapM_cons, List.mapM_cons, hes, hfs]
  cases before.mapM translate with
  | error e => exact .refl _
  | ok bs =>
    cases after.mapM translate with
    | error e => exact .refl _
    | ok as =>
      show Same (mergeLayers _ (bs ++ .object es :: as) strict >>= _)
        (mergeLayers _ (bs ++ .object fs :: as) strict >>= _)
      refine Same.bind ?_ fun m w w' => ?_
      · unfold mergeLayers
        rw [List.foldlM_append, List.foldlM_append, known_eq]
        cases hbs : bs.foldlM (mergeLayer known strict)
            ((pathDefaults trace).toEntries, []) with
        | error e => exact .refl _
        | ok acc =>
          have hacc := mergeAll_sorted (Entries.sorted_ofFields _) hbs
          show Same (List.foldlM _ acc (.object es :: as)) (List.foldlM _ acc (.object fs :: as))
          rw [List.foldlM_cons, List.foldlM_cons]
          exact (h.mergeLayer hfirst hsorted hsorted' hacc).bind fun m w w' => same_mergeAll as m w w'
      · dsimp only
        cases decoded "PathConfig" (.object m) (PathConfig.ofEntries m) with
        | error e => exact .refl _
        | ok config => exact .inl rfl

/-! ## Layers that may be spelt in any case -/

theorem respelt_singleton {k k' : Str} (h : Str.lower k' = Str.lower k) (v : Json) :
    Respelt [(k, v)] [(k', v)] where
  sorted := List.pairwise_singleton _ _
  perm := by
    rw [List.map_singleton, List.map_singleton, caseless, caseless, h]

theorem Respelt.exists_left {layer layer' : Entries Json} (h : Respelt layer layer')
    {f : Str × Json} (hf : f ∈ layer') : ∃ e ∈ layer, Str.lower e.1 = Str.lower f.1 ∧ e.2 = f.2 := by
  have hmem : caseless f ∈ layer.map caseless := h.perm.mem_iff.mp (List.mem_map_of_mem hf)
  obtain ⟨e, he, heq⟩ := List.mem_map.mp hmem
  exact ⟨e, he, (Prod.mk.inj heq).1, (Prod.mk.inj heq).2⟩

theorem Respelt.exists_right {layer layer' : Entries Json} (h : Respelt layer layer')
    {e : Str × Json} (he : e ∈ layer) :
    ∃ f ∈ layer', Str.lower f.1 = Str.lower e.1 ∧ f.2 = e.2 := by
  have hmem : caseless e ∈ layer'.map caseless := h.perm.mem_iff.mpr (List.mem_map_of_mem he)
  obtain ⟨f, hf, heq⟩ := List.mem_map.mp hmem
  exact ⟨f, hf, (Prod.mk.inj heq).1, (Prod.mk.inj heq).2⟩

theorem Respelt.countP_eq {layer layer' : Entries Json} (h : Respelt layer layer') (name : Str) :
    layer'.countP (fun f => Str.lower f.1 = name) = layer.countP fun f => Str.lower f.1 = name := by
  have hcount := h.perm.countP_eq fun f : Str × Json => decide (f.1 = name)
  rwa [List.countP_map, List.countP_map] at hcount

theorem Caseless.respelt {layer layer' : Entries Json} (h : Caseless layer)
    (hspelt : Respelt layer layer') : Caseless layer' where
  target f hf := by
    obtain ⟨e, he, hkey, -⟩ := hspelt.exists_left hf
    exact hkey ▸ h.target e he
  selection s f hf hkey' hempty := by
    obtain ⟨e, he, hkey, hvalue⟩ := hspelt.exists_left hf
    rw [hspelt.countP_eq]
    exact h.selection s e he (hkey.trans hkey') (hvalue ▸ hempty)

/-- Of two keys for a selection, one is not in small letters. -/
theorem exists_ne_key {layer : Entries Json} (hs : Entries.Sorted layer) {s : Selection}
    (h : 1 < layer.countP fun f => Str.lower f.1 = s.key) :
    ∃ f ∈ layer, Str.lower f.1 = s.key ∧ f.1 ≠ s.key := by
  rw [List.countP_eq_length_filter] at h
  have hpairs : (layer.filter fun f => decide (Str.lower f.1 = s.key)).Pairwise
      fun a b => a.1 ≠ b.1 := (List.pairwise_map.mp hs.nodup).filter _
  have hmem : ∀ f ∈ layer.filter (fun f => decide (Str.lower f.1 = s.key)),
      f ∈ layer ∧ Str.lower f.1 = s.key := fun f hf =>
    ⟨(List.mem_filter.mp hf).1, of_decide_eq_true (List.mem_filter.mp hf).2⟩
  match hfilter : layer.filter (fun f => decide (Str.lower f.1 = s.key)) with
  | [] | [_] =>
    rw [hfilter] at h
    simp at h
  | a :: b :: rest =>
    rw [hfilter] at hpairs hmem
    have hne := (List.pairwise_cons.mp hpairs).1 b List.mem_cons_self
    by_cases ha : a.1 = s.key
    · obtain ⟨hb, hlower⟩ := hmem b (List.mem_cons_of_mem _ List.mem_cons_self)
      exact ⟨b, hb, hlower, fun hb => hne (ha.trans hb.symm)⟩
    · obtain ⟨ha', hlower⟩ := hmem a List.mem_cons_self
      exact ⟨a, ha', hlower, ha⟩

/-- What is kept of an entry, or of another one for the same selection, is in the translation. -/
theorem Caseless.exists_mem_expanded {layer : Entries Json} (h : Caseless layer)
    (hs : Entries.Sorted layer) {e : Str × Json} (he : e ∈ layer) {k : Str}
    (hk : keptName e = some k) : ∃ x ∈ expanded layer, Str.lower x.1 = Str.lower k := by
  have hin : ∀ f ∈ layer, ∀ l, expand f = [(l, f.2)] →
      ∃ x ∈ expanded layer, Str.lower x.1 = Str.lower l := by
    intro f hf l hl
    obtain ⟨v, hv⟩ := Runtime.exists_mem_expanded hf (x := (l, f.2)) (by
      rw [hl]
      exact List.mem_singleton_self _)
    exact ⟨(l, v), hv, rfl⟩
  rcases expand_cases hk (h.ne_target he) with hexpand | ⟨s, hkey, hempty⟩
  · exact hin e he k hexpand
  · have hlower : Str.lower e.1 = s.key := by
      rw [hkey]
      cases s <;> decide
    obtain ⟨f, hf, hflower, hne⟩ := exists_ne_key hs (h.selection s e he hlower hempty)
    have hself : ∀ l, Str.lower l = s.key → pathName l = l := by
      intro l hl
      apply pathName_eq_self <;> rw [hl] <;> cases s <;> decide
    have hkept : keptName f = some f.1 := by
      have halias : isHostsAlias f.1 = false := by
        rw [isHostsAlias, hflower]
        cases s <;> decide
      rw [keptName, halias, Bool.false_and, if_neg Bool.false_ne_true, hself _ hflower]
    have hke : k = e.1 := by
      unfold keptName at hk
      split at hk
      · cases hk
      · exact (Option.some.inj hk).symm.trans (hself _ hlower)
    rw [hke, hlower, ← hflower]
    rcases expand_cases hkept (h.ne_target hf) with hexpand | ⟨s', hkey', -⟩
    · exact hin f hf f.1 hexpand
    · have hsame : s'.key = s.key := by
        have hlow : Str.lower s'.key = s'.key := by cases s' <;> decide
        rw [← hflower, hkey', hlow]
      exact absurd (hkey'.trans hsame) hne

theorem keptName_congr {e f : Str × Json} (hkey : Str.lower e.1 = Str.lower f.1)
    (hvalue : e.2 = f.2) {k : Str} (hk : keptName e = some k) :
    ∃ l, keptName f = some l ∧ Str.lower l = Str.lower k := by
  unfold keptName at hk ⊢
  rw [isHostsAlias_congr hkey, hvalue] at hk
  split at hk
  · cases hk
  · rename_i hkept
    cases hk
    exact ⟨pathName f.1, if_neg hkept, lower_pathName hkey.symm⟩

/-- The translations of two spellings. -/
theorem Respelt.mergeAlike {layer layer' : Entries Json} (hspelt : Respelt layer layer')
    (hs : Entries.Sorted layer) (h : Caseless layer) (hagrees : Agrees layer) :
    MergeAlike (expanded layer) (expanded layer') where
  agree x hx y hy hxy := by
    obtain ⟨e, he, hxe⟩ := mem_expanded hx
    obtain ⟨f, hf, hyf⟩ := mem_expanded hy
    obtain ⟨hname, hvalue⟩ := keptName_of_mem_expand hxe (h.ne_target he)
    obtain ⟨hname', hvalue'⟩ := keptName_of_mem_expand hyf ((h.respelt hspelt).ne_target hf)
    obtain ⟨g, hg, hkey, hsame⟩ := hspelt.exists_left hf
    obtain ⟨k, hk, hlower⟩ := keptName_congr hkey.symm hsame.symm hname'
    rw [← hvalue, ← hvalue', ← hsame]
    exact hagrees e he g hg x.1 k hname hk (hxy.trans hlower.symm)
  left x hx := by
    obtain ⟨e, he, hxe⟩ := mem_expanded hx
    obtain ⟨hname, -⟩ := keptName_of_mem_expand hxe (h.ne_target he)
    obtain ⟨f, hf, hkey, hvalue⟩ := hspelt.exists_right he
    obtain ⟨k, hk, hlower⟩ := keptName_congr hkey.symm hvalue.symm hname
    obtain ⟨y, hy, hyk⟩ := (h.respelt hspelt).exists_mem_expanded hspelt.sorted hf hk
    exact ⟨y, hy, hyk.trans hlower⟩
  right y hy := by
    obtain ⟨f, hf, hyf⟩ := mem_expanded hy
    obtain ⟨hname, -⟩ := keptName_of_mem_expand hyf ((h.respelt hspelt).ne_target hf)
    obtain ⟨e, he, hkey, hvalue⟩ := hspelt.exists_left hf
    obtain ⟨k, hk, hlower⟩ := keptName_congr hkey.symm hvalue.symm hname
    obtain ⟨x, hx, hxk⟩ := h.exists_mem_expanded hs he hk
    exact ⟨x, hx, hxk.trans hlower⟩

/-- The first unknown keys of their translations. -/
theorem UnknownFirst.firstAlike {layer layer' : Entries Json} (hfirst : UnknownFirst layer)
    (hspelt : Respelt layer layer') (h : Caseless layer) :
    FirstAlike known (expanded layer) (expanded layer') := by
  intro k l hk hl
  exact hfirst layer' hspelt k l (hk.congr (unknown_expanded fun _ => h.ne_target))
    (hl.congr (unknown_expanded fun _ => (h.respelt hspelt).ne_target))

theorem Caseless.translate_ok {layer : Entries Json} (h : Caseless layer) :
    translate (.object layer) = .ok (.object (expanded layer)) :=
  Runtime.translate_ok fun _ he heq => absurd heq (h.ne_target he)

/-- A layer whose keys agree, and where no key matters as it stands. -/
theorem caseBlind_of_agrees [Refusals] {layer : Entries Json} (hs : Entries.Sorted layer)
    (h : Caseless layer) (hagrees : Agrees layer) (hfirst : UnknownFirst layer) :
    CaseBlind layer := by
  intro layer' hspelt before after strict trace
  exact same_resolve h.translate_ok (h.respelt hspelt).translate_ok
    (hspelt.mergeAlike hs h hagrees) (hfirst.firstAlike hspelt h) (Entries.sorted_ofFields _)
    (Entries.sorted_ofFields _) before after strict trace

end NetworkLantern.Runtime
