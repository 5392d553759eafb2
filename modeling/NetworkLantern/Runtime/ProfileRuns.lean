import NetworkLantern.Runtime.Execution
import NetworkLantern.Runtime.ProfileChanges

/-!
# Profiles over whole runs

In every order of the moves of any number of processes the file shows what the requests
that took effect make of the profiles one after the other (`profiles_run`), as long as
nobody saves a profile that nests too deep for the store; from then on the file stands
as it is and nothing reads it (`profiles_open_iff`).
-/

namespace NetworkLantern.Runtime

open NetworkLantern Shared

section
variable {P : Type}

abbrev ProfileEffect (P : Type) := Effect P ProfileRequest Str (Except Error ProfileAnswer)

/-- What the newest change of a profile leaves under its name, if there is one. -/
def lastChange (name : Str) : List (ProfileEffect P) → Option (Option Json)
  | [] => none
  | e :: es =>
    match e.request, e.answer with
    | .save n parameters, .ok .saved => if n = name then some (some parameters) else lastChange name es
    | .delete n, .ok (.deleted true) => if n = name then some none else lastChange name es
    | _, _ => lastChange name es

/-- A last change that saves is an effect that saved. -/
theorem saved_of_lastChange {name : Str} {parameters : Json} {es : List (ProfileEffect P)}
    (h : lastChange name es = some (some parameters)) :
    ∃ e fs, e :: fs <:+ es ∧ e.request = .save name parameters ∧ e.answer = .ok .saved := by
  induction es with
  | nil => cases h
  | cons e es ih =>
    have hlater : lastChange name es = some (some parameters) →
        ∃ f fs, f :: fs <:+ e :: es ∧ f.request = .save name parameters ∧ f.answer = .ok .saved := by
      intro hold
      obtain ⟨f, fs, hsuffix, hf⟩ := ih hold
      exact ⟨f, fs, hsuffix.trans (List.suffix_cons e es), hf⟩
    unfold lastChange at h
    split at h
    · rename_i m saved hrequest hanswer
      split at h
      · rename_i hm
        subst hm
        cases h
        exact ⟨e, es, List.suffix_refl _, hrequest, hanswer⟩
      · exact hlater h
    · split at h
      · cases h
      · exact hlater h
    · exact hlater h

variable [Json.FloatReread]

/-- The profiles behind effects, the newest of them first. -/
def Profiles.afterAll (s : Profiles) : List (ProfileEffect P) → Profiles
  | [] => s
  | e :: es => (s.afterAll es).after e.request e.answer

/-- A profile is bound as its last change left it, and has been read again since. -/
theorem afterAll_bound (s : Profiles) (name : Str) (es : List (ProfileEffect P)) :
    ∃ n, (s.afterAll es).bound name =
      ((lastChange name es).getD (s.bound name)).map Json.reread^[n] := by
  induction es with
  | nil => exact ⟨0, by simp [Profiles.afterAll, lastChange]⟩
  | cons e es ih =>
    obtain ⟨n, hn⟩ := ih
    -- another effect at most reads the profile again
    have hsame : ((s.afterAll es).bound name).map Json.reread =
        ((lastChange name es).getD (s.bound name)).map Json.reread^[n + 1] := by
      rw [hn, Option.map_map, ← Function.iterate_succ']
    show ∃ n, ((s.afterAll es).after e.request e.answer).bound name = _
    unfold lastChange
    split
    · rename_i m parameters hrequest hanswer
      rw [hrequest, hanswer]
      show ∃ n, (Function.update (s.afterAll es).bound m (some parameters) name).map Json.reread = _
      by_cases hm : m = name
      · subst hm
        rw [if_pos rfl, Function.update_self]
        exact ⟨1, rfl⟩
      · rw [if_neg hm, Function.update_of_ne (Ne.symm hm)]
        exact ⟨n + 1, hsame⟩
    · rename_i m hrequest hanswer
      rw [hrequest, hanswer]
      show ∃ n, (Function.update (s.afterAll es).bound m none name).map Json.reread = _
      by_cases hm : m = name
      · subst hm
        rw [if_pos rfl, Function.update_self]
        exact ⟨0, rfl⟩
      · rw [if_neg hm, Function.update_of_ne (Ne.symm hm)]
        exact ⟨n + 1, hsame⟩
    · rename_i hsave hdelete
      have hstays : (s.afterAll es).after e.request e.answer = s.afterAll es := by
        unfold Profiles.after
        split
        · exact absurd ‹e.answer = _› (hsave _ _ ‹_›)
        · exact absurd ‹e.answer = _› (hdelete _ ‹_›)
        · rfl
      rw [hstays]
      exact ⟨n, hn⟩

theorem afterAll_kept (s : Profiles) (k : Str) (es : List (ProfileEffect P)) :
    ∃ n, (s.afterAll es).kept k = (s.kept k).map Json.reread^[n] := by
  induction es with
  | nil => exact ⟨0, by simp [Profiles.afterAll]⟩
  | cons e es ih =>
    obtain ⟨n, hn⟩ := ih
    have hagain : ((s.afterAll es).kept k).map Json.reread = (s.kept k).map Json.reread^[n + 1] := by
      rw [hn, Option.map_map, ← Function.iterate_succ']
    show ∃ n, ((s.afterAll es).after e.request e.answer).kept k = _
    unfold Profiles.after
    split
    · exact ⟨n + 1, hagain⟩
    · exact ⟨n + 1, hagain⟩
    · exact ⟨n, hn⟩

end

/-! ### Three processes -/

abbrev sampleReread : Json.FloatReread := ⟨id⟩

def sharedStore : ProfileStore := ⟨true, .ok false⟩

def oneProfile : Json :=
  .ofFields [("version", .ofNat 2), ("profiles", .ofFields [("a", .ofFields [])])]

def pathProfile : Json :=
  .ofFields
    [("schema_version", .ofNat 1), ("capability", .string "path_basic"),
     ("parameters", .ofFields [("target", .string "h")])]

theorem error_ne_ok {e : Str} {v : Json} : (Except.error e : Except Str Json) ≠ .ok v := by
  intro h
  cases h

/-- No document of JSON. -/
def brokenFile : Foreign where
  bytes := Str.bytes "broken"
  parsed := .error "expected value at line 1 column 1"
  sorted := fun _ _ h => absurd h error_ne_ok
  shallow := fun _ h => absurd h error_ne_ok

/-- One process deletes, one lists in between, and one saves and dies behind its move. -/
def threeCalls : List (Move Nat ProfileRequest Str) :=
  [.ask 0 (.save "p" pathProfile), .ask 1 (.delete "a"), .ask 2 .list, .lock 1, .look 1 "t",
   .look 2 "t", .publish 1, .answer 1, .lock 0, .look 0 "u", .publish 0, .stop 0]

theorem threeCalls_shallow : ∀ p r, .ask p r ∈ threeCalls → Shallow r := by
  intro p r h
  simp only [threeCalls, List.mem_cons, List.not_mem_nil, or_false, reduceCtorEq, Move.ask.injEq] at h
  rcases h with ⟨-, rfl⟩ | ⟨-, rfl⟩ | ⟨-, rfl⟩
  · exact (by decide +kernel : Shallow (.save "p" pathProfile))
  · exact trivial
  · exact trivial

section
attribute [local instance] sampleCrates sampleRefusals sampleHost sampleReread

theorem oneProfile_shows : ∃ first, sharedStore.Shows (some (.record oneProfile)) first := by
  have hprofiles : oneProfile.get? "profiles" =
      some (.object (Entries.ofFields [("a", .ofFields [])])) := rfl
  exact ⟨_, (ProfileStore.shows_record rfl (by decide +kernel) hprofiles
    (Entries.sorted_ofFields _)).1 (by decide)⟩

theorem threeCalls_run :
    ∃ s, runSteps (step sharedStore.call) (start (some (.record oneProfile))) threeCalls = some s ∧
      s.effects.length = 3 := by
  have hrun : ((runSteps (step sharedStore.call) (start (some (.record oneProfile)))
      threeCalls).any fun s => s.effects.length == 3) = true := by decide +kernel
  cases h : runSteps (step sharedStore.call) (start (some (.record oneProfile))) threeCalls with
  | none =>
    rw [h] at hrun
    cases hrun
  | some s =>
    rw [h] at hrun
    exact ⟨s, rfl, eq_of_beq hrun⟩

end

/-! ## Runs -/

section
variable [Refusals] [Helper.Crates] [Host] [Json.FloatReread] {store : ProfileStore}
variable {P : Type} [DecidableEq P]

/-- Each effect answered what the call answers behind those before it. -/
def Consistent (store : ProfileStore) (d : Option Content) (es : List (ProfileEffect P)) : Prop :=
  ∀ e fs, e :: fs <:+ es → (store.call e.request).answer e.input (replay store.call d fs) = e.answer

omit [DecidableEq P] in
theorem Consistent.tail {d : Option Content} {e : ProfileEffect P} {es : List (ProfileEffect P)}
    (h : Consistent store d (e :: es)) : Consistent store d es :=
  fun f fs hsuffix => h f fs (hsuffix.trans (List.suffix_cons e es))

omit [DecidableEq P] in
/-- The file that effects leave shows what they make of the profiles, until one of them is
too deep to be read. -/
theorem replay_serves {d : Option Content} {s : Profiles} (hstart : store.Shows d s)
    {es : List (ProfileEffect P)} (h : Consistent store d es) :
    (∀ e ∈ es, ¬ TooDeep e.request e.answer) ∧
        store.Shows (replay store.call d es) (s.afterAll es) ∨
      (∃ e ∈ es, TooDeep e.request e.answer) ∧ ¬ store.Opens (replay store.call d es) := by
  induction es with
  | nil => exact Or.inl ⟨fun e he => absurd he List.not_mem_nil, hstart⟩
  | cons e es ih =>
    rcases ih h.tail with ⟨hnone, hshows⟩ | ⟨⟨f, hf, hdeep⟩, hclosed⟩
    · have hserves := call_serves hshows e.request e.input
      rw [h e es (List.suffix_refl _)] at hserves
      by_cases hdeep : TooDeep e.request e.answer
      · exact Or.inr ⟨⟨e, List.mem_cons_self, hdeep⟩, hserves.closes hdeep⟩
      · refine Or.inl ⟨?_, hserves.shows hdeep⟩
        intro f hf
        rcases List.mem_cons.mp hf with rfl | hf
        · exact hdeep
        · exact hnone f hf
    · refine Or.inr ⟨⟨f, List.mem_cons_of_mem e hf, hdeep⟩, ?_⟩
      show ¬ store.Opens ((store.call e.request).next e.input (replay store.call d es))
      rw [(call_closed hclosed e.request e.input).1]
      exact hclosed

omit [DecidableEq P] in
/-- Each request answers after the profiles that those before it leave. -/
theorem answers_serve {d : Option Content} {s : Profiles} (hstart : store.Shows d s)
    {es : List (ProfileEffect P)} (h : Consistent store d es)
    (hshallow : ∀ e ∈ es, ¬ TooDeep e.request e.answer) (e : ProfileEffect P)
    (fs : List (ProfileEffect P)) (hsuffix : e :: fs <:+ es) :
    (s.afterAll fs).Answers e.request e.answer := by
  have hfs : fs <:+ es := (List.suffix_cons e fs).trans hsuffix
  have hconsistent : Consistent store d fs := fun f gs hgs => h f gs (hgs.trans hfs)
  rcases replay_serves hstart hconsistent with ⟨-, hshows⟩ | ⟨⟨f, hf, hdeep⟩, -⟩
  · have hserves := call_serves hshows e.request e.input
    rw [h e fs hsuffix] at hserves
    exact hserves.answers
  · exact absurd hdeep (hshallow f (hfs.subset hf))

/-- Where no request is too deep, no effect is. -/
theorem shallow_effects {d : Option Content} {moves : List (Move P ProfileRequest Str)}
    {s : Shared P ProfileRequest Str (Option Content) (Except Error ProfileAnswer)}
    (hrequests : ∀ p r, .ask p r ∈ moves → Shallow r)
    (hrun : runSteps (step store.call) (start d) moves = some s) :
    ∀ e ∈ s.effects, ¬ TooDeep e.request e.answer :=
  fun e he => not_tooDeep_of_shallow (run_requested hrequests hrun e he) e.answer

/-- Any number of processes work on one store, in any order, and fail or die at any
point, and none asks to save what nests too deep.  The file shows what the requests that took effect make of the profiles one after
the other, each answered what it finds among them, and it took effect once, between its
start and its answer. -/
theorem profiles_run {d : Option Content} {first : Profiles} (hstart : store.Shows d first)
    {moves : List (Move P ProfileRequest Str)}
    {s : Shared P ProfileRequest Str (Option Content) (Except Error ProfileAnswer)}
    (hrun : runSteps (step store.call) (start d) moves = some s)
    (hrequests : ∀ p r, .ask p r ∈ moves → Shallow r) :
    store.Shows s.file (first.afterAll s.effects) ∧
    (∀ e es, e :: es <:+ s.effects → (first.afterAll es).Answers e.request e.answer) ∧
    ∀ early p r late, moves = early ++ .ask p r :: late → (∀ r', .ask p r' ∉ late) →
      ∃ t since, runSteps (step store.call) (start d) early = some t ∧
        s.effects = since ++ t.effects ∧ (ofProcess p since).length ≤ 1 ∧
        ∀ locked a, s.phase p = .finished locked a → ∃ u, ofProcess p since = [⟨p, r, u, a⟩] := by
  have hcoherent := run_coherent hrun
  have hconsistent : Consistent store d s.effects := hcoherent.answers
  have hshallow := shallow_effects hrequests hrun
  refine ⟨?_, answers_serve hstart hconsistent hshallow, ?_⟩
  · rw [hcoherent.file]
    rcases replay_serves hstart hconsistent with ⟨-, hshows⟩ | ⟨⟨e, he, hdeep⟩, -⟩
    · exact hshows
    · exact absurd hdeep (hshallow e he)
  · rintro early p r late rfl hlate
    obtain ⟨t, hearly, hrest⟩ := runSteps_append.mp hrun
    obtain ⟨u, hask, hlater⟩ := runSteps_cons.mp hrest
    obtain ⟨hphase, heffects⟩ : u.phase p = .asked r ∧ u.effects = t.effects := by
      simp only [step] at hask
      split at hask
      · cases hask
        exact ⟨Function.update_self .., rfl⟩
      · cases hask
    obtain ⟨since, hsince, hlength, hanswered⟩ := (run_progress hphase hlate hlater).once
    exact ⟨t, since, hearly, hsince.trans (by rw [heffects]), hlength, hanswered⟩

end

section
attribute [local instance] sampleCrates sampleRefusals sampleHost sampleReread

theorem profiles_run_three :
    ∃ (first : Profiles) (s : Shared Nat ProfileRequest Str _ _), runSteps (step sharedStore.call) (start (some (.record oneProfile))) threeCalls =
        some s ∧ s.effects.length = 3 ∧ sharedStore.Shows s.file (first.afterAll s.effects) := by
  obtain ⟨first, hstart⟩ := oneProfile_shows
  obtain ⟨s, hrun, hlength⟩ := threeCalls_run
  exact ⟨first, s, hrun, hlength, (profiles_run hstart hrun threeCalls_shallow).1⟩

end

section
variable [Refusals] [Helper.Crates] [Host] [Json.FloatReread] {store : ProfileStore}
variable {P : Type} [DecidableEq P]

/-- The store stays readable in exactly the runs that save no profile too deep for it. -/
theorem profiles_open_iff {d : Option Content} {first : Profiles} (hstart : store.Shows d first)
    {moves : List (Move P ProfileRequest Str)}
    {s : Shared P ProfileRequest Str (Option Content) (Except Error ProfileAnswer)}
    (hrun : runSteps (step store.call) (start d) moves = some s) :
    store.Opens s.file ↔ ∀ e ∈ s.effects, ¬ TooDeep e.request e.answer := by
  have hcoherent := run_coherent hrun
  rw [hcoherent.file]
  rcases replay_serves hstart hcoherent.answers with ⟨hnone, hshows⟩ | ⟨⟨e, he, hdeep⟩, hclosed⟩
  · exact iff_of_true hshows.opens hnone
  · exact iff_of_false hclosed fun hnone => hnone e he hdeep

end

section
attribute [local instance] sampleCrates sampleRefusals sampleHost sampleReread

theorem profiles_open_iff_three :
    ∃ s, runSteps (step sharedStore.call) (start (some (.record oneProfile))) threeCalls = some s ∧
      sharedStore.Opens s.file := by
  obtain ⟨first, hstart⟩ := oneProfile_shows
  obtain ⟨s, hrun, -⟩ := threeCalls_run
  exact ⟨s, hrun, (profiles_open_iff hstart hrun).mpr (shallow_effects threeCalls_shallow hrun)⟩

end

section
variable [Refusals] [Helper.Crates] [Host] [Json.FloatReread] {store : ProfileStore}
variable {P : Type} [DecidableEq P]

/-- A file that the store does not read is never replaced, whatever the processes do, and
all their requests fail. -/
theorem closed_run {d : Option Content} (hclosed : ¬ store.Opens d)
    {moves : List (Move P ProfileRequest Str)}
    {s : Shared P ProfileRequest Str (Option Content) (Except Error ProfileAnswer)}
    (hrun : runSteps (step store.call) (start d) moves = some s) :
    s.file = d ∧ ∀ e ∈ s.effects, ∃ x, e.answer = .error x := by
  have hcoherent := run_coherent hrun
  have hconsistent : Consistent store d s.effects := hcoherent.answers
  rw [hcoherent.file]
  generalize s.effects = es at hconsistent
  induction es with
  | nil => exact ⟨rfl, fun e he => absurd he List.not_mem_nil⟩
  | cons e es ih =>
    obtain ⟨hfile, herrors⟩ := ih hconsistent.tail
    obtain ⟨hnext, x, hx⟩ := call_closed hclosed e.request e.input
    have hanswer := hconsistent e es (List.suffix_refl _)
    rw [hfile] at hanswer
    refine ⟨?_, fun f hf => ?_⟩
    · show (store.call e.request).next e.input (replay store.call d es) = d
      rw [hfile, hnext]
    · rcases List.mem_cons.mp hf with rfl | hf
      · exact ⟨x, hanswer.symm.trans hx⟩
      · exact herrors f hf

end

section
attribute [local instance] sampleCrates sampleRefusals sampleHost sampleReread

theorem closed_run_broken :
    ∃ s : Shared Nat ProfileRequest Str _ _,
      runSteps (step sharedStore.call) (start (some (.foreign brokenFile)))
        [.ask 0 (.delete "a"), .lock 0, .ask 1 .list, .look 1 "t", .look 0 "t"] = some s ∧
      s.file = some (.foreign brokenFile) := by
  have hrun : (runSteps (step sharedStore.call) (start (some (.foreign brokenFile)))
      [.ask (0 : Nat) (.delete "a"), .lock 0, .ask 1 .list, .look 1 "t", .look 0 "t"]).isSome =
        true := by decide +kernel
  obtain ⟨s, hs⟩ := Option.isSome_iff_exists.mp hrun
  have hread : sharedStore.read (some (.foreign brokenFile)) =
      .error (.validation ("Invalid JSON: ".toList ++ "expected value at line 1 column 1".toList)) := rfl
  refine ⟨s, hs, (closed_run ?_ hs).1⟩
  rintro ⟨v, hv⟩
  rw [hread] at hv
  cases hv

end

section
variable [Refusals] [Helper.Crates] [Host] [Json.FloatReread] {store : ProfileStore}
variable {P : Type} [DecidableEq P]

/-- Behind any run whose requests are shallow, each name has what its last change left, else what it had at first;
what was saved had passed its checks, and the fields of other programs are still there. -/
theorem profiles_last_change {d : Option Content} {first : Profiles} (hstart : store.Shows d first)
    {moves : List (Move P ProfileRequest Str)}
    {s : Shared P ProfileRequest Str (Option Content) (Except Error ProfileAnswer)}
    (hrun : runSteps (step store.call) (start d) moves = some s)
    (hrequests : ∀ p r, .ask p r ∈ moves → Shallow r) :
    ∃ v, store.read s.file = .ok v ∧
      (∀ name, ∃ n, Entries.get? (ProfileStore.profiles v) name =
        ((lastChange name s.effects).getD (first.bound name)).map Json.reread^[n]) ∧
      (∀ k, k ∉ ownFields → ∃ n, v.get? k = (first.kept k).map Json.reread^[n]) ∧
      ∀ name parameters, lastChange name s.effects = some (some parameters) →
        validateName name = .ok () ∧ validateParameters parameters = .ok () := by
  have hcoherent := run_coherent hrun
  have hconsistent : Consistent store d s.effects := hcoherent.answers
  have hshallow := shallow_effects hrequests hrun
  have hshows : store.Shows s.file (first.afterAll s.effects) := by
    rw [hcoherent.file]
    rcases replay_serves hstart hconsistent with ⟨-, hshows⟩ | ⟨⟨e, he, hdeep⟩, -⟩
    · exact hshows
    · exact absurd hdeep (hshallow e he)
  obtain ⟨v, entries, hv, hprofiles, -, -, heq⟩ := hshows
  refine ⟨v, hv, fun name => ?_, fun k hk => ?_, fun name parameters h => ?_⟩
  · obtain ⟨n, hn⟩ := afterAll_bound first name s.effects
    have hentries : ProfileStore.profiles v = entries := by
      unfold ProfileStore.profiles Json.field
      rw [hprofiles]
      rfl
    rw [heq] at hn
    exact ⟨n, hentries ▸ hn⟩
  · obtain ⟨n, hn⟩ := afterAll_kept first k s.effects
    rw [heq] at hn
    exact ⟨n, (if_neg hk).symm.trans hn⟩
  · obtain ⟨e, fs, hsuffix, hrequest, hanswer⟩ := saved_of_lastChange h
    have hserves := answers_serve hstart hconsistent hshallow e fs hsuffix
    rw [hrequest, hanswer] at hserves
    exact hserves

end

section
attribute [local instance] sampleCrates sampleRefusals sampleHost sampleReread

theorem profiles_last_change_three :
    ∃ s v, runSteps (step sharedStore.call) (start (some (.record oneProfile))) threeCalls =
        some s ∧ sharedStore.read s.file = .ok v := by
  obtain ⟨first, hstart⟩ := oneProfile_shows
  obtain ⟨s, hrun, -⟩ := threeCalls_run
  obtain ⟨v, hv, -⟩ := profiles_last_change hstart hrun threeCalls_shallow
  exact ⟨s, v, hrun, hv⟩

end

end NetworkLantern.Runtime
