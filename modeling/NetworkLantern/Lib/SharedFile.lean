import NetworkLantern.Lib.Runs
import Mathlib.Data.List.Infix
import Mathlib.Logic.Function.Basic

/-!
# A file that many processes rewrite

Any number of processes call on one file.  A view reads the file and answers.  An
edit takes the lock, reads, stages the document that is to stand there, publishes it
in one move and answers, with the lock held until then.  A process may fail or die at
every point; its lock goes with it.  `run_coherent`: the file is what the calls that
took effect make of it one after the other, and each answered what it sees there.
`run_progress`: a call takes effect at most once, behind its start, and an answered
call exactly once.
-/

namespace NetworkLantern

/-- A call on a document of `D`, next to what else it sees at that time. -/
inductive FileCall (T D A : Type)
  | view (read : T → D → A)
  | edit (write : T → D → Option D × A)

namespace FileCall

variable {T D A : Type}

def answer : FileCall T D A → T → D → A
  | view read, t, d => read t d
  | edit write, t, d => (write t d).2

/-- The document that the call leaves. -/
def next : FileCall T D A → T → D → D
  | view _, _, d => d
  | edit write, t, d => (write t d).1.getD d

end FileCall

/-- Where a process stands with its request. -/
inductive Phase (R T D A : Type)
  | idle
  | asked (r : R)
  /-- With the lock, before the file is read. -/
  | holds (r : R)
  /-- With the lock and the next document, before the move. -/
  | staged (r : R) (t : T) (d : D) (a : A)
  | finished (locked : Bool) (a : A)

namespace Phase

variable {R T D A : Type}

def locked : Phase R T D A → Bool
  | idle => false
  | asked _ => false
  | holds _ => true
  | staged _ _ _ _ => true
  | finished locked _ => locked

/-- The request that has not taken effect yet. -/
def awaits : Phase R T D A → Option R
  | idle => none
  | asked r => some r
  | holds r => some r
  | staged r _ _ _ => some r
  | finished _ _ => none

end Phase

/-- A request that took effect. -/
structure Effect (P R T A : Type) where
  process : P
  request : R
  input : T
  answer : A

structure Shared (P R T D A : Type) where
  file : D
  owner : Option P
  phase : P → Phase R T D A
  /-- The effects so far, the newest first. -/
  effects : List (Effect P R T A)

inductive Move (P R T : Type)
  | ask (p : P) (r : R)
  | lock (p : P)
  | look (p : P) (t : T)
  | publish (p : P)
  | answer (p : P)
  /-- The call fails, or its process dies. -/
  | stop (p : P)

namespace Shared

variable {P R T D A : Type} [DecidableEq P]

def start (d : D) : Shared P R T D A := ⟨d, none, fun _ => .idle, []⟩

def enter (s : Shared P R T D A) (p : P) (x : Phase R T D A) : Shared P R T D A :=
  { s with phase := Function.update s.phase p x }

/-- The process is done; the lock it has is free again. -/
def leave (s : Shared P R T D A) (p : P) : Shared P R T D A :=
  { s with
    phase := Function.update s.phase p .idle
    owner := if s.owner = some p then none else s.owner }

def took (s : Shared P R T D A) (e : Effect P R T A) (d : D) : Shared P R T D A :=
  { s with effects := e :: s.effects, file := d }

variable (call : R → FileCall T D A)

def step (s : Shared P R T D A) : Move P R T → Option (Shared P R T D A)
  | .ask p r =>
    match s.phase p with
    | .idle => some (s.enter p (.asked r))
    | _ => none
  | .lock p =>
    match s.phase p, s.owner with
    | .asked r, none =>
      match call r with
      | .view _ => none
      | .edit _ => some { s.enter p (.holds r) with owner := some p }
    | _, _ => none
  | .look p t =>
    match s.phase p with
    | .asked r =>
      match call r with
      | .view read =>
        some ((s.enter p (.finished false (read t s.file))).took ⟨p, r, t, read t s.file⟩ s.file)
      | .edit _ => none
    | .holds r =>
      match call r with
      | .view _ => none
      | .edit write =>
        match write t s.file with
        | (none, a) => some ((s.enter p (.finished true a)).took ⟨p, r, t, a⟩ s.file)
        | (some d, a) => some (s.enter p (.staged r t d a))
    | _ => none
  | .publish p =>
    match s.phase p with
    | .staged r t d a => some ((s.enter p (.finished true a)).took ⟨p, r, t, a⟩ d)
    | _ => none
  | .answer p =>
    match s.phase p with
    | .finished _ _ => some (s.leave p)
    | _ => none
  | .stop p =>
    match s.phase p with
    | .idle => none
    | _ => some (s.leave p)

/-- The document that effects make of another, one after the other. -/
def replay (d : D) : List (Effect P R T A) → D
  | [] => d
  | e :: es => (call e.request).next e.input (replay d es)

/-- What a move of a process does: it goes to another phase, takes effect, or leaves. -/
theorem step_cases {s t : Shared P R T D A} {m : Move P R T} (h : step call s m = some t) :
    (∃ p r, m = .ask p r ∧ s.phase p = .idle ∧ t = s.enter p (.asked r)) ∨
    (∃ p r write, s.phase p = .asked r ∧ s.owner = none ∧ call r = .edit write ∧
      t = { s.enter p (.holds r) with owner := some p }) ∨
    (∃ p r write u d a, s.phase p = .holds r ∧ call r = .edit write ∧
      write u s.file = (some d, a) ∧ t = s.enter p (.staged r u d a)) ∨
    (∃ p r u a, (s.phase p).awaits = some r ∧ (call r).answer u s.file = a ∧
      (call r).next u s.file = s.file ∧
      t = (s.enter p (.finished (s.phase p).locked a)).took ⟨p, r, u, a⟩ s.file) ∨
    (∃ p r u d a, s.phase p = .staged r u d a ∧
      t = (s.enter p (.finished true a)).took ⟨p, r, u, a⟩ d) ∨
    (∃ p, t = s.leave p) := by
  cases m with
  | ask p r =>
    simp only [step] at h
    split at h
    · rename_i hp
      cases h
      exact Or.inl ⟨p, r, rfl, hp, rfl⟩
    · cases h
  | lock p =>
    simp only [step] at h
    split at h
    · rename_i r hp howner
      split at h
      · cases h
      · rename_i write hcall
        cases h
        exact Or.inr (Or.inl ⟨p, r, write, hp, howner, hcall, rfl⟩)
    · cases h
  | look p u =>
    simp only [step] at h
    split at h
    · rename_i r hp
      split at h
      · rename_i read hcall
        cases h
        refine Or.inr (Or.inr (Or.inr (Or.inl ⟨p, r, u, read u s.file, ?_, ?_, ?_, ?_⟩)))
        · rw [hp]
          rfl
        · rw [hcall]
          rfl
        · rw [hcall]
          rfl
        · rw [hp]
          rfl
      · cases h
    · rename_i r hp
      split at h
      · cases h
      · rename_i write hcall
        split at h
        · rename_i a hwrite
          cases h
          refine Or.inr (Or.inr (Or.inr (Or.inl ⟨p, r, u, a, ?_, ?_, ?_, ?_⟩)))
          · rw [hp]
            rfl
          · show (call r).answer u s.file = a
            simp [hcall, FileCall.answer, hwrite]
          · simp [hcall, FileCall.next, hwrite]
          · rw [hp]
            rfl
        · rename_i d a hwrite
          cases h
          exact Or.inr (Or.inr (Or.inl ⟨p, r, write, u, d, a, hp, hcall, hwrite, rfl⟩))
    · cases h
  | publish p =>
    simp only [step] at h
    split at h
    · rename_i r u d a hp
      cases h
      exact Or.inr (Or.inr (Or.inr (Or.inr (Or.inl ⟨p, r, u, d, a, hp, rfl⟩))))
    · cases h
  | answer p =>
    simp only [step] at h
    split at h
    · cases h
      exact Or.inr (Or.inr (Or.inr (Or.inr (Or.inr ⟨p, rfl⟩))))
    · cases h
  | stop p =>
    simp only [step] at h
    split at h
    · cases h
    · cases h
      exact Or.inr (Or.inr (Or.inr (Or.inr (Or.inr ⟨p, rfl⟩))))

/-- The file stands where the effects so far lead, and only the owner of the lock works
on the next document. -/
structure Coherent (d : D) (s : Shared P R T D A) : Prop where
  locked : ∀ p, (s.phase p).locked = true ↔ s.owner = some p
  staged : ∀ p r u d' a, s.phase p = .staged r u d' a →
    (call r).next u s.file = d' ∧ (call r).answer u s.file = a
  file : s.file = replay call d s.effects
  answers : ∀ e es, e :: es <:+ s.effects →
    (call e.request).answer e.input (replay call d es) = e.answer

namespace Coherent

variable {call} {d : D} {s : Shared P R T D A}

omit [DecidableEq P] in
theorem start (d : D) : Coherent call d (Shared.start d : Shared P R T D A) where
  locked p := by simp [Shared.start, Phase.locked]
  staged p r u d' a h := by simp [Shared.start] at h
  file := rfl
  answers e es h := by simp [Shared.start] at h

/-- A process goes on, with the lock or without it as before. -/
theorem enter {p : P} {x : Phase R T D A} (h : Coherent call d s)
    (hlocked : x.locked = (s.phase p).locked)
    (hstaged : ∀ r u d' a, x = .staged r u d' a →
      (call r).next u s.file = d' ∧ (call r).answer u s.file = a) :
    Coherent call d (s.enter p x) where
  locked q := by
    show (Function.update s.phase p x q).locked = true ↔ s.owner = some q
    by_cases hq : q = p
    · subst hq
      rw [Function.update_self, hlocked]
      exact h.locked q
    · rw [Function.update_of_ne hq]
      exact h.locked q
  staged q r u d' a hphase := by
    change Function.update s.phase p x q = _ at hphase
    by_cases hq : q = p
    · subst hq
      rw [Function.update_self] at hphase
      exact hstaged r u d' a hphase
    · rw [Function.update_of_ne hq] at hphase
      exact h.staged q r u d' a hphase
  file := h.file
  answers := h.answers

theorem leave (p : P) (h : Coherent call d s) : Coherent call d (s.leave p) where
  locked q := by
    show (Function.update s.phase p .idle q).locked = true ↔
      (if s.owner = some p then none else s.owner) = some q
    by_cases hq : q = p
    · subst hq
      rw [Function.update_self]
      split <;> simp_all [Phase.locked]
    · rw [Function.update_of_ne hq, h.locked q]
      split <;> simp_all [eq_comm]
  staged q r u d' a hphase := by
    change Function.update s.phase p .idle q = _ at hphase
    by_cases hq : q = p
    · subst hq
      simp at hphase
    · rw [Function.update_of_ne hq] at hphase
      exact h.staged q r u d' a hphase
  file := h.file
  answers := h.answers

omit [DecidableEq P] in
/-- The next effect, of a request that no staged document stands against. -/
theorem took {e : Effect P R T A} {d' : D} (h : Coherent call d s)
    (hnext : (call e.request).next e.input s.file = d')
    (hanswer : (call e.request).answer e.input s.file = e.answer)
    (halone : d' = s.file ∨ ∀ q, (s.phase q).awaits ≠ none → (s.phase q).locked = false) :
    Coherent call d (s.took e d') where
  locked := h.locked
  staged q r u d'' a hphase := by
    rcases halone with rfl | hnobody
    · exact h.staged q r u d'' a hphase
    · have := hnobody q (by rw [show s.phase q = _ from hphase]; simp [Phase.awaits])
      rw [show s.phase q = _ from hphase] at this
      cases this
  file := by
    show d' = (call e.request).next e.input (replay call d s.effects)
    rw [← h.file, hnext]
  answers f fs hsuffix := by
    rcases List.suffix_cons_iff.mp hsuffix with heq | hold
    · obtain ⟨rfl, rfl⟩ := List.cons.inj heq
      rw [← h.file]
      exact hanswer
    · exact h.answers f fs hold

/-- A process takes the free lock. -/
theorem lock {p : P} {r : R} (h : Coherent call d s) (howner : s.owner = none) :
    Coherent call d { s.enter p (.holds r) with owner := some p } := by
  have hfree : ∀ q, (s.phase q).locked = false := by
    intro q
    have := h.locked q
    rw [howner] at this
    simpa using this
  refine ⟨fun q => ?_, fun q r' u d' a hq => ?_, h.file, h.answers⟩
  · show (Function.update s.phase p (.holds r) q).locked = true ↔ some p = some q
    by_cases hqp : q = p
    · subst hqp
      simp [Phase.locked]
    · rw [Function.update_of_ne hqp, hfree q]
      simp [Ne.symm hqp]
  · change Function.update s.phase p (.holds r) q = _ at hq
    by_cases hqp : q = p
    · subst hqp
      simp at hq
    · rw [Function.update_of_ne hqp] at hq
      have := hfree q
      simp [hq, Phase.locked] at this

theorem step {t : Shared P R T D A} {m : Move P R T} (h : Coherent call d s)
    (hstep : Shared.step call s m = some t) : Coherent call d t := by
  rcases step_cases call hstep with ⟨p, r, -, hp, rfl⟩ | ⟨p, r, write, hp, howner, -, rfl⟩ |
    ⟨p, r, write, u, d', a, hp, hcall, hwrite, rfl⟩ | ⟨p, r, u, a, hawaits, hanswer, hnext, rfl⟩ |
    ⟨p, r, u, d', a, hp, rfl⟩ | ⟨p, rfl⟩
  · exact h.enter (by simp [hp, Phase.locked]) (by simp)
  · exact h.lock howner
  · refine h.enter (by simp [hp, Phase.locked]) fun r' u' d'' a' heq => ?_
    cases heq
    simp [hcall, FileCall.next, FileCall.answer, hwrite]
  · refine (h.enter (x := .finished (s.phase p).locked a) ?_ ?_).took hnext hanswer (Or.inl rfl)
    · rfl
    · simp
  · obtain ⟨hnext, hanswer⟩ := h.staged p r u d' a hp
    have howner : s.owner = some p := (h.locked p).mp (by rw [hp]; rfl)
    refine (h.enter (x := .finished true a) ?_ ?_).took hnext hanswer (Or.inr fun q hq => ?_)
    · rw [hp]
      rfl
    · simp
    · -- another process that is past the lock would own it too
      change (Function.update s.phase p (.finished true a) q).awaits ≠ none at hq
      show (Function.update s.phase p (.finished true a) q).locked = false
      by_cases hqp : q = p
      · subst hqp
        simp [Phase.awaits] at hq
      · rw [Function.update_of_ne hqp]
        have hlocked := h.locked q
        rw [howner] at hlocked
        by_contra htrue
        have := hlocked.mp (by simpa using htrue)
        exact hqp (Option.some.inj this).symm
  · exact h.leave p

end Coherent

variable {call}

/-- After every run, the file is what the effects make of the first document, and each
request answered what it sees at its place among them. -/
theorem run_coherent {d : D} {s : Shared P R T D A} {moves : List (Move P R T)}
    (hrun : runSteps (step call) (start d) moves = some s) : Coherent call d s :=
  run_invariant (fun _ _ _ h hstep => h.step hstep) (Coherent.start d) hrun

/-- The effects of one process. -/
def ofProcess (p : P) (es : List (Effect P R T A)) : List (Effect P R T A) :=
  es.filter fun e => e.process = p

/-- How far a request of a process has come since there were the effects `before`. -/
def Progress (p : P) (r : R) (before : List (Effect P R T A)) (s : Shared P R T D A) : Prop :=
  ∃ since, s.effects = since ++ before ∧
    match s.phase p with
    | .idle => ofProcess p since = [] ∨ ∃ u a, ofProcess p since = [⟨p, r, u, a⟩]
    | .finished _ a => ∃ u, ofProcess p since = [⟨p, r, u, a⟩]
    | x => x.awaits = some r ∧ ofProcess p since = []

namespace Progress

variable {p : P} {r : R} {before : List (Effect P R T A)} {s t : Shared P R T D A}

theorem awaits {since : List (Effect P R T A)} {r' : R} (hr : (s.phase p).awaits = some r')
    (h : match s.phase p with
      | .idle => ofProcess p since = [] ∨ ∃ u a, ofProcess p since = [⟨p, r, u, a⟩]
      | .finished _ a => ∃ u, ofProcess p since = [⟨p, r, u, a⟩]
      | x => x.awaits = some r ∧ ofProcess p since = []) : r' = r ∧ ofProcess p since = [] := by
  cases hp : s.phase p with
  | idle => simp [hp, Phase.awaits] at hr
  | finished locked a => simp [hp, Phase.awaits] at hr
  | asked r'' | holds r'' | staged r'' u d a =>
    simp only [hp] at hr h
    rw [hr, Option.some.injEq] at h
    exact h

/-- At most one effect is that of the request. -/
theorem once (h : Progress p r before s) :
    ∃ since, s.effects = since ++ before ∧ (ofProcess p since).length ≤ 1 ∧
      ∀ locked a, s.phase p = .finished locked a → ∃ u, ofProcess p since = [⟨p, r, u, a⟩] := by
  obtain ⟨since, hsince, hcase⟩ := h
  refine ⟨since, hsince, ?_, fun locked a hover => ?_⟩
  · cases hp : s.phase p with
    | idle =>
      rw [hp] at hcase
      rcases hcase with hnone | ⟨u, a, hone⟩
      · simp [hnone]
      · simp [hone]
    | finished locked a =>
      rw [hp] at hcase
      obtain ⟨u, hone⟩ := hcase
      simp [hone]
    | asked r' | holds r' | staged r' u d a =>
      rw [hp] at hcase
      simp [hcase.2]
  · rw [hover] at hcase
    exact hcase

/-- Other processes do not move a request. -/
theorem frame (h : Progress p r before s) (hphase : t.phase p = s.phase p)
    (heffects : t.effects = s.effects ∨ ∃ e, e.process ≠ p ∧ t.effects = e :: s.effects) :
    Progress p r before t := by
  obtain ⟨since, hsince, hcase⟩ := h
  rcases heffects with heq | ⟨e, he, heq⟩
  · refine ⟨since, heq.trans hsince, ?_⟩
    rw [hphase]
    exact hcase
  · refine ⟨e :: since, by rw [heq, hsince]; rfl, ?_⟩
    have hfilter : ofProcess p (e :: since) = ofProcess p since := by
      unfold ofProcess
      rw [List.filter_cons_of_neg (by simpa using he)]
    rw [hphase, hfilter]
    exact hcase

theorem leave (h : Progress p r before s) (q : P) : Progress p r before (s.leave q) := by
  by_cases hq : p = q
  · subst hq
    obtain ⟨since, hsince, hcase⟩ := h
    refine ⟨since, hsince, ?_⟩
    have hphase : (s.leave p).phase p = .idle := Function.update_self ..
    rw [hphase]
    cases hp : s.phase p with
    | idle =>
      rw [hp] at hcase
      exact hcase
    | finished locked a =>
      rw [hp] at hcase
      obtain ⟨u, hu⟩ := hcase
      exact Or.inr ⟨u, a, hu⟩
    | asked r' | holds r' | staged r' u d a =>
      rw [hp] at hcase
      exact Or.inl hcase.2
  · exact h.frame (Function.update_of_ne hq ..) (Or.inl rfl)

/-- The process goes on with its request. -/
theorem goesOn {x : Phase R T D A} {r' : R} (h : Progress p r before s)
    (hawaits : (s.phase p).awaits = some r') (hx : x.awaits = some r') (hphase : t.phase p = x)
    (heffects : t.effects = s.effects) : Progress p r before t := by
  obtain ⟨since, hsince, hcase⟩ := h
  obtain ⟨rfl, hnone⟩ := awaits hawaits hcase
  refine ⟨since, heffects.trans hsince, ?_⟩
  rw [hphase]
  cases x with
  | idle => cases hx
  | finished locked a => cases hx
  | asked r' | holds r' | staged r' u d a => exact ⟨hx, hnone⟩

/-- The request takes effect. -/
theorem lands {r' : R} {u : T} {a : A} {locked : Bool} (h : Progress p r before s)
    (hawaits : (s.phase p).awaits = some r') (hphase : t.phase p = .finished locked a)
    (heffects : t.effects = ⟨p, r', u, a⟩ :: s.effects) : Progress p r before t := by
  obtain ⟨since, hsince, hcase⟩ := h
  obtain ⟨rfl, hnone⟩ := awaits hawaits hcase
  refine ⟨⟨p, r', u, a⟩ :: since, by rw [heffects, hsince]; rfl, ?_⟩
  rw [hphase]
  refine ⟨u, ?_⟩
  unfold ofProcess at hnone ⊢
  rw [List.filter_cons_of_pos (by simp), hnone]

theorem step {m : Move P R T} (h : Progress p r before s) (hask : ∀ r', m ≠ .ask p r')
    (hstep : Shared.step call s m = some t) : Progress p r before t := by
  rcases step_cases call hstep with ⟨q, r', rfl, hq, rfl⟩ | ⟨q, r', write, hq, -, -, rfl⟩ |
    ⟨q, r', write, u, d', a, hq, -, -, rfl⟩ | ⟨q, r', u, a, hawaits, -, -, rfl⟩ |
    ⟨q, r', u, d', a, hq, rfl⟩ | ⟨q, rfl⟩
  · have hpq : p ≠ q := fun heq => hask r' (by rw [heq])
    exact h.frame (Function.update_of_ne hpq ..) (Or.inl rfl)
  · by_cases hpq : p = q
    · subst hpq
      exact h.goesOn (by rw [hq]; rfl) rfl (Function.update_self ..) rfl
    · exact h.frame (Function.update_of_ne hpq ..) (Or.inl rfl)
  · by_cases hpq : p = q
    · subst hpq
      exact h.goesOn (by rw [hq]; rfl) rfl (Function.update_self ..) rfl
    · exact h.frame (Function.update_of_ne hpq ..) (Or.inl rfl)
  · by_cases hpq : p = q
    · subst hpq
      exact h.lands hawaits (Function.update_self ..) rfl
    · exact h.frame (Function.update_of_ne hpq ..) (Or.inr ⟨_, Ne.symm hpq, rfl⟩)
  · by_cases hpq : p = q
    · subst hpq
      exact h.lands (by rw [hq]; rfl) (Function.update_self ..) rfl
    · exact h.frame (Function.update_of_ne hpq ..) (Or.inr ⟨_, Ne.symm hpq, rfl⟩)
  · exact h.leave q

end Progress

/-- A request takes effect behind its start, at most once, and exactly once where the
process has its answer. -/
theorem run_progress {p : P} {r : R} {s t : Shared P R T D A} {moves : List (Move P R T)}
    (hp : s.phase p = .asked r) (hask : ∀ r', .ask p r' ∉ moves)
    (hrun : runSteps (step call) s moves = some t) : Progress p r s.effects t := by
  have hstart : Progress p r s.effects s := by
    refine ⟨[], rfl, ?_⟩
    rw [hp]
    exact ⟨rfl, rfl⟩
  have hall : ∀ m ∈ moves, ∀ r', m ≠ .ask p r' := by
    intro m hm r' heq
    subst heq
    exact hask r' hm
  exact run_invariant_while (C := fun _ m => ∀ r', m ≠ .ask p r')
    (fun _ _ _ h hm hstep => h.step hm hstep) hstart (allSteps_of_forall hall) hrun

/-- `Q` holds of every request that a process has begun or that took effect. -/
structure Requested (Q : R → Prop) (s : Shared P R T D A) : Prop where
  begun : ∀ p r, (s.phase p).awaits = some r → Q r
  taken : ∀ e ∈ s.effects, Q e.request

namespace Requested

variable {Q : R → Prop} {s t : Shared P R T D A}

theorem enter {p : P} {x : Phase R T D A} (h : Requested Q s) (hx : ∀ r, x.awaits = some r → Q r) :
    Requested Q (s.enter p x) where
  begun q r hr := by
    change (Function.update s.phase p x q).awaits = some r at hr
    by_cases hq : q = p
    · subst hq
      rw [Function.update_self] at hr
      exact hx r hr
    · rw [Function.update_of_ne hq] at hr
      exact h.begun q r hr
  taken := h.taken

omit [DecidableEq P] in
theorem took {e : Effect P R T A} {d : D} (h : Requested Q s) (he : Q e.request) :
    Requested Q (s.took e d) where
  begun := h.begun
  taken f hf := by
    rcases List.mem_cons.mp hf with rfl | hf
    · exact he
    · exact h.taken f hf

theorem step {m : Move P R T} (h : Requested Q s) (hm : ∀ p r, m = .ask p r → Q r)
    (hstep : Shared.step call s m = some t) : Requested Q t := by
  rcases step_cases call hstep with ⟨p, r, rfl, -, rfl⟩ | ⟨p, r, write, hp, -, -, rfl⟩ |
    ⟨p, r, write, u, d', a, hp, -, -, rfl⟩ | ⟨p, r, u, a, hawaits, -, -, rfl⟩ |
    ⟨p, r, u, d', a, hp, rfl⟩ | ⟨p, rfl⟩
  · exact h.enter fun r' hr' => hm p r' (by cases hr'; rfl)
  · have hr := h.begun p r (by rw [hp]; rfl)
    have hholds := h.enter (p := p) (x := .holds r) fun r' hr' => by cases hr'; exact hr
    exact ⟨hholds.begun, hholds.taken⟩
  · have hr := h.begun p r (by rw [hp]; rfl)
    exact h.enter fun r' hr' => by cases hr'; exact hr
  · exact (h.enter fun r' hr' => by cases hr').took (h.begun p r hawaits)
  · exact (h.enter fun r' hr' => by cases hr').took (h.begun p r (by rw [hp]; rfl))
  · have hidle := h.enter (p := p) (x := .idle) fun r' hr' => by cases hr'
    exact ⟨hidle.begun, hidle.taken⟩

end Requested

/-- Only what was asked takes effect. -/
theorem run_requested {Q : R → Prop} {d : D} {s : Shared P R T D A} {moves : List (Move P R T)}
    (hmoves : ∀ p r, .ask p r ∈ moves → Q r)
    (hrun : runSteps (step call) (start d) moves = some s) : ∀ e ∈ s.effects, Q e.request := by
  have hstart : Requested Q (start d : Shared P R T D A) :=
    ⟨fun p r hr => (by cases hr), fun e he => absurd he List.not_mem_nil⟩
  have hall : ∀ m ∈ moves, ∀ p r, m = .ask p r → Q r := fun m hm p r heq => hmoves p r (heq ▸ hm)
  exact (run_invariant_while (C := fun _ m => ∀ p r, m = .ask p r → Q r)
    (fun _ _ _ h hm hstep => h.step hm hstep) hstart (allSteps_of_forall hall) hrun).taken

end Shared

end NetworkLantern
