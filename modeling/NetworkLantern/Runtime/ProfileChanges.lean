import NetworkLantern.Runtime.Profiles

/-!
# What a request does to the profiles

`Profiles` says what a store is for: parameters by name, next to the fields of other
programs.  Where the file shows profiles, each request answers after them and leaves a
file that shows what the request makes of them (`call_serves`); a file that the store
does not read stays as it is (`call_closed`).
-/

namespace NetworkLantern

namespace Json

/-- The text fields of an object, and `null` for all that is none. -/
theorem get?_setField {v w : Json} {k : Str} (hobject : v.asObject.isSome = true) (l : Str) :
    (v.setField k w).get? l = if l = k then some w else v.get? l := by
  cases v with
  | object entries => exact Entries.get?_insert k w entries l
  | _ => cases hobject

theorem asObject_setField {v w : Json} {k : Str} (hobject : v.asObject.isSome = true) :
    (v.setField k w).asObject.isSome = true := by
  cases v with
  | object entries => rfl
  | _ => cases hobject

theorem asObject_of_get? {v w : Json} {k : Str} (h : v.get? k = some w) :
    v.asObject.isSome = true := by
  cases v with
  | object entries => rfl
  | _ => cases h

end Json

namespace Entries

variable {β : Type}

theorem get?_remove_self {es : Entries β} {k : Str} (h : es.keys.Nodup) : (es.remove k).get? k = none := by
  induction es with
  | nil => rfl
  | cons e es ih =>
    obtain ⟨l, w⟩ := e
    obtain ⟨hl, hes⟩ := List.nodup_cons.mp h
    by_cases hk : l = k
    · subst hk
      have hgo : remove l ((l, w) :: es) = es := List.eraseP_cons_of_pos (beq_self_eq_true l)
      rw [hgo, ← Option.not_isSome_iff_eq_none, get?_isSome]
      exact hl
    · have hkeep : remove k ((l, w) :: es) = (l, w) :: remove k es :=
        List.eraseP_cons_of_neg fun hb => hk (beq_iff_eq.mp hb)
      rw [hkeep, get?_cons, if_neg (Ne.symm hk), ih hes]

theorem sorted_remove {es : Entries β} (h : es.Sorted) (k : Str) : (es.remove k).Sorted :=
  List.Pairwise.sublist List.eraseP_sublist h

end Entries

namespace Runtime

open NetworkLantern Shared

/-! ## The profiles of a store -/

/-- Parameters by the name of their profile, and the fields that the store carries along. -/
@[ext] structure Profiles where
  bound : Str → Option Json
  kept : Str → Option Json

/-- The fields of a store that the program writes. -/
def ownFields : List Str := ["profiles", "version", "updatedUtc"]

/-- A field that the program carries along. -/
def fieldKept (v : Json) (k : Str) : Option Json := if k ∈ ownFields then none else v.get? k

theorem fieldKept_congr {v w : Json} (h : ∀ k, k ∉ ownFields → w.get? k = v.get? k) :
    fieldKept w = fieldKept v := by
  funext k
  unfold fieldKept
  split
  · rfl
  · exact h k ‹_›

theorem fieldKept_reread [Json.FloatReread] (v : Json) (k : Str) :
    fieldKept v.reread k = (fieldKept v k).map Json.reread := by
  unfold fieldKept
  split
  · rfl
  · exact Json.get?_reread v k

namespace Profiles

def empty : Profiles := ⟨fun _ => none, fun _ => none⟩

def put (s : Profiles) (name : Str) (parameters : Json) : Profiles :=
  { s with bound := Function.update s.bound name (some parameters) }

def drop (s : Profiles) (name : Str) : Profiles :=
  { s with bound := Function.update s.bound name none }

/-- What a document and its `profiles` hold. -/
def ofJson (v : Json) (entries : Entries Json) : Profiles := ⟨entries.get?, fieldKept v⟩

theorem ofJson_insert {v w : Json} {entries : Entries Json} (name : Str) (parameters : Json)
    (h : ∀ k, k ∉ ownFields → w.get? k = v.get? k) :
    ofJson w (entries.insert name parameters) = (ofJson v entries).put name parameters := by
  apply Profiles.ext
  · funext n
    show Entries.get? (entries.insert name parameters) n = Function.update entries.get? name _ n
    rw [Entries.get?_insert, Function.update_apply]
  · exact fieldKept_congr h

theorem ofJson_remove {v w : Json} {entries : Entries Json} (hsorted : entries.Sorted) (name : Str)
    (h : ∀ k, k ∉ ownFields → w.get? k = v.get? k) :
    ofJson w (entries.remove name) = (ofJson v entries).drop name := by
  apply Profiles.ext
  · funext n
    show Entries.get? (entries.remove name) n = Function.update entries.get? name none n
    rw [Function.update_apply]
    by_cases hn : n = name
    · subst hn
      rw [if_pos rfl, Entries.get?_remove_self hsorted.nodup]
    · rw [if_neg hn, Entries.get?_remove_of_ne hn]
  · exact fieldKept_congr h

variable [Json.FloatReread]

/-- A store that is written is read again, with all that it holds. -/
def reread (s : Profiles) : Profiles where
  bound n := (s.bound n).map Json.reread
  kept k := (s.kept k).map Json.reread

theorem ofJson_reread (v : Json) (entries : Entries Json) :
    ofJson v.reread (Json.rereadEntries entries) = (ofJson v entries).reread := by
  apply Profiles.ext
  · funext n
    exact Json.get?_reread (.object entries) n
  · exact funext (fieldKept_reread v)

/-- What a request that took effect makes of the profiles. -/
def after (s : Profiles) : ProfileRequest → Except Error ProfileAnswer → Profiles
  | .save name parameters, .ok .saved => (s.put name parameters).reread
  | .delete name, .ok (.deleted true) => (s.drop name).reread
  | _, _ => s

end Profiles

/-- The document of a change differs in the fields of the program. -/
theorem change_fields {v : Json} {entries : Entries Json} (w : Json) (now : Str)
    (hprofiles : v.get? "profiles" = some (.object entries)) :
    ∀ k, k ∉ ownFields →
      ((v.setField "profiles" w).setField "updatedUtc" (.string now)).get? k = v.get? k := by
  intro k hk
  have hobject := Json.asObject_of_get? hprofiles
  have hupdated : k ≠ "updatedUtc" := fun h => hk (by rw [h]; decide)
  have hname : k ≠ "profiles" := fun h => hk (by rw [h]; decide)
  rw [Json.get?_setField (Json.asObject_setField hobject), if_neg hupdated,
    Json.get?_setField hobject, if_neg hname]

/-! ## The file of a store -/

/-- A record that `atomic_json` refuses. -/
def recordTooLarge : Error :=
  .validation ("Record exceeds ".toList ++ decimal PROFILE_LIMIT ++ " bytes".toList)

/-- A change that its checks refuse never comes to the file. -/
theorem locking_cases (checks : Except Error Unit)
    (write : Str → Option Content → Option (Option Content) × Except Error ProfileAnswer)
    (now : Str) (file : Option Content) :
    (checks = .ok () ∧ (locking checks write).answer now file = (write now file).2 ∧
      (locking checks write).next now file = (write now file).1.getD file) ∨
    ∃ e, checks = .error e ∧ (locking checks write).answer now file = .error e ∧
      (locking checks write).next now file = file := by
  cases checks with
  | ok u => exact Or.inl ⟨rfl, rfl, rfl⟩
  | error e => exact Or.inr ⟨e, rfl, rfl, rfl⟩

section
variable [Json.FloatText]

theorem recordJson_ok {v : Json} {limit : Nat} {content : Content} :
    recordJson v limit = .ok content ↔ v.pretty.byteLen ≤ limit ∧ content = .record v := by
  unfold recordJson
  rw [refuse_bind_ok, decide_eq_false_iff_not, Nat.not_lt]
  exact and_congr_right fun _ => ⟨fun h => by cases h; rfl, fun h => by rw [h]; rfl⟩

theorem recordJson_error {v : Json} {e : Error} (h : recordJson v PROFILE_LIMIT = .error e) :
    e = recordTooLarge := by
  rcases refuse_bind_error h with rfl | hpure
  · rfl
  · cases hpure

variable [Refusals] [Json.FloatReread]

namespace ProfileStore

variable {store : ProfileStore}

/-- The store reads the file. -/
def Opens (store : ProfileStore) (file : Option Content) : Prop := ∃ v, store.read file = .ok v

/-- The store reads the file, and finds these profiles. -/
def Shows (store : ProfileStore) (file : Option Content) (s : Profiles) : Prop :=
  ∃ v entries, store.read file = .ok v ∧ v.get? "profiles" = some (.object entries) ∧
    Entries.Sorted entries ∧ v.depth ≤ Json.RECURSION_LIMIT ∧ s = .ofJson v entries

theorem Shows.opens {file : Option Content} {s : Profiles} (h : store.Shows file s) :
    store.Opens file := by
  obtain ⟨v, -, hv, -⟩ := h
  exact ⟨v, hv⟩

theorem read_ok {file : Option Content} {v : Json} (h : store.read file = .ok v) :
    store.validateProvenance = .ok () := by
  obtain ⟨u, hprovenance, -⟩ := except_bind_ok.mp h
  exact hprovenance

theorem readJson_ok {content : Content} {limit : Nat} {v : Json} :
    readJson content limit = .ok v ↔ content.size ≤ limit ∧ content.parsed = .ok v := by
  unfold readJson
  rw [refuse_bind_ok, decide_eq_false_iff_not, Nat.not_lt]
  refine and_congr_right fun _ => ?_
  cases content.parsed with
  | error e => exact iff_of_false (fun h => by cases h) fun h => by cases h
  | ok w =>
    show (Except.ok w : Except Error Json) = .ok v ↔ (Except.ok w : Except Str Json) = .ok v
    rw [Except.ok.injEq, Except.ok.injEq]

/-- A file that is read has an object of profiles. -/
theorem read_some {content : Content} {v : Json} (hprovenance : store.validateProvenance = .ok ()) :
    store.read (some content) = .ok v ↔ content.size ≤ PROFILE_LIMIT ∧ content.parsed = .ok v ∧
      ∃ entries, v.get? "profiles" = some (.object entries) := by
  have hobject : (!((v.get? "profiles").any fun w => w.asObject.isSome)) = false ↔
      ∃ entries, v.get? "profiles" = some (.object entries) := by
    rcases v.get? "profiles" with _ | w
    · simp
    · cases w <;> simp [Json.asObject]
  unfold read
  rw [hprovenance, except_ok_bind]
  constructor
  · intro h
    obtain ⟨w, hw, hrest⟩ := except_bind_ok.mp h
    obtain ⟨hprofiles, hv⟩ := refuse_bind_ok.mp hrest
    cases hv
    exact ⟨(readJson_ok.mp hw).1, (readJson_ok.mp hw).2, hobject.mp hprofiles⟩
  · rintro ⟨hsize, hv, hprofiles⟩
    refine except_bind_ok.mpr ⟨v, readJson_ok.mpr ⟨hsize, hv⟩, ?_⟩
    exact refuse_bind_ok.mpr ⟨hobject.mpr hprofiles, rfl⟩

/-- A file that another program wrote shows its profiles wherever it is read at all. -/
theorem shows_of_foreign {file : Foreign} (h : store.Opens (some (.foreign file))) :
    ∃ s, store.Shows (some (.foreign file)) s := by
  obtain ⟨v, hv⟩ := h
  obtain ⟨-, hparsed, entries, hentries⟩ := (read_some (read_ok hv)).mp hv
  exact ⟨_, v, entries, hv, hentries, file.sorted v entries hparsed hentries,
    file.shallow v hparsed, rfl⟩

theorem shows_none (h : store.validateProvenance = .ok ()) :
    store.Shows none .empty := by
  refine ⟨_, [], except_bind_ok.mpr ⟨(), h, rfl⟩, rfl, List.Pairwise.nil, by decide, ?_⟩
  apply Profiles.ext
  · rfl
  · funext k
    show none = fieldKept (.ofFields [("version", .ofNat 2), ("profiles", .object [])]) k
    unfold fieldKept
    split
    · rfl
    · rename_i hk
      have hget := Entries.keys_ofFields
        [("version".toList, Json.ofNat 2), ("profiles".toList, Json.object [])] k
      have hnot : k ∉ [("version".toList, Json.ofNat 2), ("profiles".toList, .object [])].map
          Prod.fst := fun h => hk (by
        simp only [List.map_cons, List.map_nil, List.mem_cons, List.not_mem_nil, or_false] at h
        rcases h with rfl | rfl <;> decide)
      exact (Option.not_isSome_iff_eq_none.mp fun h =>
        hnot (hget.mp ((Entries.get?_isSome _ k).mp h))).symm

/-- A published record shows what it holds, unless it is too deep; then nothing reads it. -/
theorem shows_record {v : Json} {entries : Entries Json} (hprovenance : store.validateProvenance = .ok ())
    (hsize : v.pretty.byteLen ≤ PROFILE_LIMIT)
    (hprofiles : v.get? "profiles" = some (.object entries)) (hsorted : entries.Sorted) :
    (v.depth ≤ Json.RECURSION_LIMIT →
      store.Shows (some (.record v)) (Profiles.ofJson v entries).reread) ∧
    (Json.RECURSION_LIMIT < v.depth → ¬ store.Opens (some (.record v))) := by
  constructor
  · intro hdepth
    have hparsed : (Content.record v).parsed = .ok v.reread := by
      have hread : v.readBack = some v.reread := if_neg (Nat.not_lt_of_le hdepth)
      simp only [Content.parsed, hread]
    have hget : v.reread.get? "profiles" = some (.object (Json.rereadEntries entries)) := by
      rw [Json.get?_reread, hprofiles]
      rfl
    refine ⟨v.reread, Json.rereadEntries entries, ?_, hget, ?_, ?_, ?_⟩
    · exact (read_some hprovenance).mpr ⟨hsize, hparsed, _, hget⟩
    · rw [Json.rereadEntries_eq]
      exact List.pairwise_map.mpr hsorted
    · rw [Json.depth_reread]
      exact hdepth
    · exact (Profiles.ofJson_reread v entries).symm
  · rintro hdepth ⟨w, hw⟩
    obtain ⟨-, hparsed, -⟩ := (read_some hprovenance).mp hw
    have hread : v.readBack = none := if_pos hdepth
    simp only [Content.parsed, hread, reduceCtorEq] at hparsed

/-- A change of the profiles at hand: what it records is shown, or not read any more. -/
theorem shows_change {w : Json} {entries : Entries Json} {content : Content}
    (hprovenance : store.validateProvenance = .ok ())
    (hprofiles : w.get? "profiles" = some (.object entries)) (hsorted : entries.Sorted)
    (hrecord : recordJson w PROFILE_LIMIT = .ok content) :
    (w.depth ≤ Json.RECURSION_LIMIT →
      store.Shows (some content) (Profiles.ofJson w entries).reread) ∧
    (Json.RECURSION_LIMIT < w.depth → ¬ store.Opens (some content)) := by
  obtain ⟨hsize, rfl⟩ := recordJson_ok.mp hrecord
  exact shows_record hprovenance hsize hprofiles hsorted

theorem save_shows {file : Option Content} {s : Profiles} (h : store.Shows file s) (name : Str)
    (parameters : Json) (now : Str) :
    (∀ content, store.save name parameters now file = .ok content →
      (parameters.depth + 2 ≤ Json.RECURSION_LIMIT →
        store.Shows (some content) (s.put name parameters).reread) ∧
      (Json.RECURSION_LIMIT < parameters.depth + 2 → ¬ store.Opens (some content))) ∧
    ∀ e, store.save name parameters now file = .error e → e = recordTooLarge := by
  obtain ⟨v, entries, hv, hprofiles, hsorted, hdepth, rfl⟩ := h
  have hobject := Json.asObject_of_get? hprofiles
  -- the document that is recorded
  let inner := Json.object (Entries.insert name parameters entries)
  let outer := (v.setField "profiles" inner).setField "version" (.ofNat 2)
  let w := outer.setField "updatedUtc" (.string now)
  have hsave : store.save name parameters now file = recordJson w PROFILE_LIMIT := by
    have hfield : v.field "profiles" = .object entries := by
      unfold Json.field
      rw [hprofiles]
      rfl
    unfold save
    rw [hv, except_ok_bind, hfield]
    rfl
  have hinner := Json.asObject_setField (w := inner) (k := "profiles") hobject
  have houter : outer.asObject.isSome = true := Json.asObject_setField hinner
  have hget : w.get? "profiles" = some inner := by
    rw [Json.get?_setField houter, if_neg (by decide), Json.get?_setField hinner,
      if_neg (by decide), Json.get?_setField hobject, if_pos rfl]
  have hkept : ∀ k, k ∉ ownFields → w.get? k = v.get? k := by
    intro k hk
    have hupdated : k ≠ "updatedUtc" := fun h => hk (by rw [h]; decide)
    have hversion : k ≠ "version" := fun h => hk (by rw [h]; decide)
    have hname : k ≠ "profiles" := fun h => hk (by rw [h]; decide)
    rw [Json.get?_setField houter, if_neg hupdated, Json.get?_setField hinner, if_neg hversion,
      Json.get?_setField hobject, if_neg hname]
  have hlow : parameters.depth + 2 ≤ w.depth := by
    have hparameters : inner.get? name = some parameters := Entries.get?_insert_self ..
    have := Json.depth_of_get? hparameters
    have := Json.depth_of_get? hget
    omega
  have hhigh : parameters.depth + 2 ≤ Json.RECURSION_LIMIT → w.depth ≤ Json.RECURSION_LIMIT := by
    intro hparameters
    have hentries : (Json.object entries).depth + 1 ≤ Json.RECURSION_LIMIT := by
      have := Json.depth_of_get? hprofiles
      omega
    have hobject : inner.depth ≤ Json.RECURSION_LIMIT - 1 := by
      have hold : (Json.object entries).depth ≤ Json.RECURSION_LIMIT - 1 := by omega
      have hnew : parameters.depth + 1 ≤ Json.RECURSION_LIMIT - 1 := by omega
      exact Json.depth_setField_le hold hnew
    refine Json.depth_setField_le (Json.depth_setField_le (Json.depth_setField_le hdepth ?_) ?_) ?_
    · unfold Json.RECURSION_LIMIT at *
      omega
    · decide
    · show 0 + 1 ≤ Json.RECURSION_LIMIT
      decide
  rw [hsave]
  refine ⟨fun content hrecord => ?_, fun e he => recordJson_error he⟩
  obtain ⟨hshallow, hdeep⟩ := shows_change (read_ok hv) hget
    (Entries.sorted_insert hsorted name parameters) hrecord
  rw [Profiles.ofJson_insert name parameters hkept] at hshallow
  exact ⟨fun hp => hshallow (hhigh hp), fun hp => hdeep (Nat.lt_of_lt_of_le hp hlow)⟩

theorem delete_shows {file : Option Content} {s : Profiles} (h : store.Shows file s) (name now : Str) :
    (∀ content, store.delete name now file = .ok (some content) →
      s.bound name ≠ none ∧ store.Shows (some content) (s.drop name).reread) ∧
    (store.delete name now file = .ok none → s.bound name = none) ∧
    ∀ e, store.delete name now file = .error e → e = recordTooLarge := by
  obtain ⟨v, entries, hv, hprofiles, hsorted, hdepth, rfl⟩ := h
  have hobject := Json.asObject_of_get? hprofiles
  have hfield : profiles v = entries := by
    unfold profiles Json.field
    rw [hprofiles]
    rfl
  let inner := Json.object (Entries.remove name entries)
  let w := (v.setField "profiles" inner).setField "updatedUtc" (.string now)
  have hdelete : store.delete name now file =
      if (Entries.get? entries name).isSome then some <$> recordJson w PROFILE_LIMIT else .ok none := by
    unfold delete
    rw [hv, except_ok_bind, hfield]
    rfl
  have hinner := Json.asObject_setField (w := inner) (k := "profiles") hobject
  have hget : w.get? "profiles" = some inner := by
    rw [Json.get?_setField hinner, if_neg (by decide), Json.get?_setField hobject, if_pos rfl]
  have hlevels : w.depth ≤ Json.RECURSION_LIMIT := by
    have hentries : inner.depth ≤ (Json.object entries).depth :=
      Nat.succ_le_succ (Json.depthEntries_le.mpr fun e he =>
        Json.depthEntries_le.mp (Nat.le_refl _) e (List.eraseP_subset he))
    have := Json.depth_of_get? hprofiles
    refine Json.depth_setField_le (Json.depth_setField_le hdepth ?_) ?_
    · omega
    · show 0 + 1 ≤ Json.RECURSION_LIMIT
      decide
  show (∀ content, _ → Entries.get? entries name ≠ none ∧ _) ∧ (_ → Entries.get? entries name = none) ∧ _
  rw [hdelete]
  by_cases hsome : (Entries.get? entries name).isSome = true
  · rw [if_pos hsome]
    refine ⟨fun content h => ?_, fun h => ?_, fun e h => ?_⟩
    · obtain ⟨c, hrecord, hc⟩ := except_map_ok.mp h
      cases hc
      have hbound : Entries.get? entries name ≠ none := by
        intro hnone
        rw [hnone] at hsome
        cases hsome
      refine ⟨hbound, ?_⟩
      have hshows := (shows_change (read_ok hv) hget
        (Entries.sorted_remove hsorted name) hrecord).1 hlevels
      rw [Profiles.ofJson_remove hsorted name (change_fields inner now hprofiles)] at hshows
      exact hshows
    · obtain ⟨c, -, hc⟩ := except_map_ok.mp h
      cases hc
    · cases hrecord : recordJson w PROFILE_LIMIT with
      | error x =>
        rw [hrecord] at h
        cases h
        exact recordJson_error hrecord
      | ok c =>
        rw [hrecord] at h
        cases h
  · rw [if_neg hsome]
    refine ⟨fun content h => ?_, fun _ => Option.not_isSome_iff_eq_none.mp hsome, fun e h => ?_⟩
    · cases h
    · cases h

end ProfileStore

end

/-! ## One request -/

section
variable [Refusals] [Helper.Crates] [Host]

/-- What a request answers where the store shows these profiles. -/
def Profiles.Answers (s : Profiles) : ProfileRequest → Except Error ProfileAnswer → Prop
  | .list, .ok (.names ns) => ∀ n, n ∈ ns ↔ s.bound n ≠ none
  | .get name, .ok (.profile v) => validateName name = .ok () ∧ s.bound name = some v
  | .get name, .error e => validateName name = .error e ∨ s.bound name = none ∧
    e = .validation ("Profile '".toList ++ name ++ "' does not exist".toList)
  | .save name parameters, .ok .saved =>
    validateName name = .ok () ∧ validateParameters parameters = .ok ()
  | .save name parameters, .error e =>
    validateName name = .error e ∨ validateParameters parameters = .error e ∨ e = recordTooLarge
  | .delete name, .ok (.deleted removed) =>
    validateName name = .ok () ∧ (removed = true ↔ s.bound name ≠ none)
  | .delete name, .error e => validateName name = .error e ∨ e = recordTooLarge
  | _, _ => False

/-- A saved profile whose store is too deep to be read again. -/
def TooDeep : ProfileRequest → Except Error ProfileAnswer → Prop
  | .save _ parameters, .ok .saved => Json.RECURSION_LIMIT < parameters.depth + 2
  | _, _ => False

/-- A request that saves nothing which nests too deep to be read again. -/
def Shallow : ProfileRequest → Prop
  | .save _ parameters => parameters.depth + 2 ≤ Json.RECURSION_LIMIT
  | _ => True

instance : DecidablePred Shallow
  | .list => inferInstanceAs (Decidable True)
  | .get _ => inferInstanceAs (Decidable True)
  | .save .. => inferInstanceAs (Decidable (_ ≤ _))
  | .delete _ => inferInstanceAs (Decidable True)

omit [Refusals] [Helper.Crates] [Host] in
theorem not_tooDeep_of_shallow {r : ProfileRequest} (h : Shallow r)
    (a : Except Error ProfileAnswer) : ¬ TooDeep r a := by
  intro hdeep
  unfold TooDeep at hdeep
  split at hdeep
  · exact absurd hdeep (Nat.not_lt_of_le h)
  · exact hdeep

variable [Json.FloatReread] {store : ProfileStore}

/-- Where the store shows profiles, a request answers after them, and the file that it
leaves shows what the request makes of them, if it is not too deep to be read. -/
structure Serves (store : ProfileStore) (r : ProfileRequest) (s : Profiles)
    (a : Except Error ProfileAnswer) (file : Option Content) : Prop where
  answers : s.Answers r a
  shows : ¬ TooDeep r a → store.Shows file (s.after r a)
  closes : TooDeep r a → ¬ store.Opens file

theorem list_serves {file : Option Content} {s : Profiles} (h : store.Shows file s) (now : Str) :
    Serves store .list s ((store.call .list).answer now file) ((store.call .list).next now file) := by
  have hfile := h
  obtain ⟨v, entries, hv, hprofiles, -, -, rfl⟩ := h
  have hlist : store.list file = .ok (Entries.keys entries) := by
    unfold ProfileStore.list
    rw [hv, except_ok_bind]
    unfold ProfileStore.profiles Json.field
    rw [hprofiles]
    rfl
  have hanswer : (store.call .list).answer now file = .ok (.names (Entries.keys entries)) := by
    show ProfileAnswer.names <$> store.list file = _
    rw [hlist]
    rfl
  rw [hanswer]
  refine ⟨fun n => ?_, fun _ => hfile, fun hdeep => hdeep.elim⟩
  rw [← Entries.get?_isSome, Option.isSome_iff_ne_none]
  rfl

theorem get_serves {file : Option Content} {s : Profiles} (h : store.Shows file s) (name now : Str) :
    Serves store (.get name) s ((store.call (.get name)).answer now file)
      ((store.call (.get name)).next now file) := by
  have hfile := h
  obtain ⟨v, entries, hv, hprofiles, -, -, rfl⟩ := h
  have hanswer : (store.call (.get name)).answer now file =
      ProfileAnswer.profile <$> store.get name file := rfl
  have hfield : v.field "profiles" = .object entries := by
    unfold Json.field
    rw [hprofiles]
    rfl
  unfold ProfileStore.get at hanswer
  rw [hanswer]
  cases hname : validateName name with
  | error e => exact ⟨Or.inl hname, fun _ => hfile, fun hdeep => hdeep.elim⟩
  | ok u =>
    rw [except_ok_bind, hv, except_ok_bind, hfield]
    rw [show (Json.object entries).get? name = Entries.get? entries name from rfl]
    cases hget : Entries.get? entries name with
    | none => exact ⟨Or.inr ⟨hget, rfl⟩, fun _ => hfile, fun hdeep => hdeep.elim⟩
    | some w => exact ⟨⟨hname, hget⟩, fun _ => hfile, fun hdeep => hdeep.elim⟩

theorem save_serves {file : Option Content} {s : Profiles} (h : store.Shows file s) (name : Str)
    (parameters : Json) (now : Str) :
    Serves store (.save name parameters) s ((store.call (.save name parameters)).answer now file)
      ((store.call (.save name parameters)).next now file) := by
  obtain ⟨v, hv⟩ := h.opens
  obtain ⟨hsaved, herror⟩ := ProfileStore.save_shows h name parameters now
  unfold ProfileStore.call
  rcases locking_cases (do validateName name; validateParameters parameters; store.validateProvenance)
    (fun now file => published ((fun c => (some c, .saved)) <$> store.save name parameters now file))
    now file with
    ⟨hchecks, hanswer, hnext⟩ | ⟨e, hchecks, hanswer, hnext⟩
  · obtain ⟨u, hname, hrest⟩ := except_bind_ok.mp hchecks
    obtain ⟨u', hparameters, -⟩ := except_bind_ok.mp hrest
    rw [hanswer, hnext]
    cases hwrite : store.save name parameters now file with
    | error e =>
      exact ⟨Or.inr (Or.inr (herror e hwrite)), fun _ => h, fun hdeep => hdeep.elim⟩
    | ok content =>
      obtain ⟨hshows, hdeep⟩ := hsaved content hwrite
      exact ⟨⟨hname, hparameters⟩, fun hshallow => hshows (Nat.le_of_not_lt hshallow), hdeep⟩
  · rw [hanswer, hnext]
    refine ⟨?_, fun _ => h, fun hdeep => hdeep.elim⟩
    cases hname : validateName name with
    | error x =>
      rw [hname] at hchecks
      cases hchecks
      exact Or.inl hname
    | ok u =>
      rw [hname, except_ok_bind] at hchecks
      cases hparameters : validateParameters parameters with
      | error x =>
        rw [hparameters] at hchecks
        cases hchecks
        exact Or.inr (Or.inl hparameters)
      | ok u =>
        rw [hparameters, except_ok_bind, ProfileStore.read_ok hv] at hchecks
        cases hchecks

theorem delete_serves {file : Option Content} {s : Profiles} (h : store.Shows file s)
    (name now : Str) :
    Serves store (.delete name) s ((store.call (.delete name)).answer now file)
      ((store.call (.delete name)).next now file) := by
  obtain ⟨v, hv⟩ := h.opens
  obtain ⟨hremoved, hnone, herror⟩ := ProfileStore.delete_shows h name now
  unfold ProfileStore.call
  rcases locking_cases (do validateName name; store.validateProvenance)
    (fun now file => published ((fun c => (c, .deleted c.isSome)) <$> store.delete name now file))
    now file with
    ⟨hchecks, hanswer, hnext⟩ | ⟨e, hchecks, hanswer, hnext⟩
  · obtain ⟨u, hname, -⟩ := except_bind_ok.mp hchecks
    rw [hanswer, hnext]
    cases hwrite : store.delete name now file with
    | error e => exact ⟨Or.inr (herror e hwrite), fun _ => h, fun hdeep => hdeep.elim⟩
    | ok content =>
      cases content with
      | none =>
        exact ⟨⟨hname, iff_of_false Bool.false_ne_true fun hbound => hbound (hnone hwrite)⟩,
          fun _ => h, fun hdeep => hdeep.elim⟩
      | some content =>
        obtain ⟨hbound, hshows⟩ := hremoved content hwrite
        exact ⟨⟨hname, iff_of_true rfl hbound⟩, fun _ => hshows, fun hdeep => hdeep.elim⟩
  · rw [hanswer, hnext]
    refine ⟨?_, fun _ => h, fun hdeep => hdeep.elim⟩
    cases hname : validateName name with
    | error x =>
      rw [hname] at hchecks
      cases hchecks
      exact Or.inl hname
    | ok u =>
      rw [hname, except_ok_bind, ProfileStore.read_ok hv] at hchecks
      cases hchecks

theorem call_serves {file : Option Content} {s : Profiles} (h : store.Shows file s)
    (r : ProfileRequest) (now : Str) :
    Serves store r s ((store.call r).answer now file) ((store.call r).next now file) := by
  cases r with
  | list => exact list_serves h now
  | get name => exact get_serves h name now
  | save name parameters => exact save_serves h name parameters now
  | delete name => exact delete_serves h name now

/-- A file that the store does not read stays, and every request fails. -/
theorem call_closed {file : Option Content} (h : ¬ store.Opens file) (r : ProfileRequest)
    (now : Str) : (store.call r).next now file = file ∧
      ∃ e, (store.call r).answer now file = .error e := by
  obtain ⟨e, he⟩ : ∃ e, store.read file = .error e := by
    cases hread : store.read file with
    | error e => exact ⟨e, rfl⟩
    | ok v => exact absurd ⟨v, hread⟩ h
  cases r with
  | list =>
    refine ⟨rfl, e, ?_⟩
    show ProfileAnswer.names <$> store.list file = _
    unfold ProfileStore.list
    rw [he]
    rfl
  | get name =>
    refine ⟨rfl, ?_⟩
    show ∃ e, ProfileAnswer.profile <$> store.get name file = _
    unfold ProfileStore.get
    rw [he]
    cases validateName name with
    | error x => exact ⟨x, rfl⟩
    | ok u => exact ⟨e, rfl⟩
  | save name parameters =>
    have hsave : store.save name parameters now file = .error e := by
      unfold ProfileStore.save
      rw [he]
      rfl
    unfold ProfileStore.call
    rcases locking_cases (do validateName name; validateParameters parameters; store.validateProvenance)
      (fun now file => published ((fun c => (some c, .saved)) <$> store.save name parameters now file))
      now file with ⟨-, hanswer, hnext⟩ | ⟨x, -, hanswer, hnext⟩
    · rw [hanswer, hnext, hsave]
      exact ⟨rfl, e, rfl⟩
    · exact ⟨hnext, x, hanswer⟩
  | delete name =>
    have hdelete : store.delete name now file = .error e := by
      unfold ProfileStore.delete
      rw [he]
      rfl
    unfold ProfileStore.call
    rcases locking_cases (do validateName name; store.validateProvenance)
      (fun now file => published ((fun c => (c, .deleted c.isSome)) <$> store.delete name now file))
      now file with ⟨-, hanswer, hnext⟩ | ⟨x, -, hanswer, hnext⟩
    · rw [hanswer, hnext, hdelete]
      exact ⟨rfl, e, rfl⟩
    · exact ⟨hnext, x, hanswer⟩

end

end Runtime

end NetworkLantern
