import Mathlib.Computability.Language
import NetworkLantern.Lib.Act
import NetworkLantern.Lib.Checked

/-!
# Conversations over a byte stream

One party's side of a connection: what it says, and what it hears of the bytes that the
peer sends.  A read or a write may be cut at any byte, and then the party stops.  The
language of a computation holds the conversations of its passed runs.

    Follows x L E    a passed run of x is a conversation of L; a failed one breaks off
                     a conversation of L or of E
    Follows.bind     one computation behind another
-/

namespace NetworkLantern

inductive Turn
  | said (b : UInt8)
  | heard (b : UInt8)
deriving DecidableEq

def saying (bytes : Bytes) : List Turn := bytes.map .said

def hearing (bytes : Bytes) : List Turn := bytes.map .heard

@[simp] theorem saying_append (a b : Bytes) : saying (a ++ b) = saying a ++ saying b := List.map_append

@[simp] theorem hearing_append (a b : Bytes) : hearing (a ++ b) = hearing a ++ hearing b := List.map_append

/-- One side of a connection.  `script` says which of the coming calls is cut, why, and how many
bytes it moves before. -/
structure Link (κ : Type) where
  /-- What the peer sends from here on, up to the end of the stream. -/
  inbox : Bytes
  script : List (Option (κ × Nat))
  log : List Turn

namespace Link

variable {κ : Type}

/-- What becomes of the coming call. -/
def cut (l : Link κ) : Option (κ × Nat) := l.script.head?.join

def advance (l : Link κ) : Link κ := { l with script := l.script.tail }

def hear (n : Nat) (l : Link κ) : Link κ :=
  { l with inbox := l.inbox.drop n, log := l.log ++ hearing (l.inbox.take n) }

def say (bytes : Bytes) (l : Link κ) : Link κ := { l with log := l.log ++ saying bytes }

/-- No coming call is cut. -/
def Quiet (l : Link κ) : Prop := ∀ entry ∈ l.script, entry = none

theorem Quiet.cut {l : Link κ} (h : l.Quiet) : l.cut = none := by
  unfold Link.cut
  cases hs : l.script with
  | nil => rfl
  | cons entry script => rw [h entry (hs ▸ List.mem_cons_self)]; rfl

theorem Quiet.advance {l : Link κ} (h : l.Quiet) : l.advance.Quiet :=
  fun entry hentry => h entry (List.mem_of_mem_tail hentry)

end Link

variable {κ ε α β : Type}

/-- A call that moves no bytes; `fails` says which cuts make it fail. -/
def call (fails : κ → Option ε) : Act (Link κ) ε Unit := fun l =>
  match l.cut.bind fun (k, _) => fails k with
  | some e => (.error e, l.advance)
  | none => (.ok (), l.advance)

def writeAll (fails : κ → ε) (bytes : Bytes) : Act (Link κ) ε Unit := fun l =>
  match l.cut with
  | some (k, n) => (.error (fails k), l.advance.say (bytes.take n))
  | none => (.ok (), l.advance.say bytes)

/-- Reads `n` bytes; `fails none` is the end of the stream before them. -/
def readExact (fails : Option κ → ε) (n : Nat) : Act (Link κ) ε Bytes := fun l =>
  match l.cut with
  | some (k, m) => (.error (fails (some k)), l.advance.hear (min m n))
  | none =>
    if n ≤ l.inbox.length then (.ok (l.inbox.take n), l.advance.hear n)
    else (.error (fails none), l.advance.hear l.inbox.length)

section
variable {l l' : Link κ}

theorem call_log (fails : κ → Option ε) (l : Link κ) : (call fails l).2.log = l.log := by
  unfold call
  split <;> rfl

theorem call_inbox (fails : κ → Option ε) (l : Link κ) : (call fails l).2.inbox = l.inbox := by
  unfold call
  split <;> rfl

theorem call_quiet {fails : κ → Option ε} (h : l.Quiet) : call fails l = (.ok (), l.advance) := by
  unfold call
  rw [h.cut]
  rfl

theorem writeAll_quiet {fails : κ → ε} {bytes : Bytes} (h : l.Quiet) :
    writeAll fails bytes l = (.ok (), l.advance.say bytes) := by
  unfold writeAll
  rw [h.cut]

theorem writeAll_inbox (fails : κ → ε) (bytes : Bytes) (l : Link κ) :
    (writeAll fails bytes l).2.inbox = l.inbox := by
  unfold writeAll
  split <;> rfl

theorem readExact_quiet {fails : Option κ → ε} {bytes rest : Bytes} (h : l.Quiet)
    (hinbox : l.inbox = bytes ++ rest) :
    ∃ l', readExact fails bytes.length l = (.ok bytes, l') ∧ l'.Quiet ∧ l'.inbox = rest := by
  refine ⟨l.advance.hear bytes.length, ?_, h.advance, ?_⟩
  · unfold readExact
    rw [h.cut, hinbox]
    simp
  · show l.inbox.drop bytes.length = rest
    rw [hinbox, List.drop_left]

/-- A passed read takes the next bytes of the peer. -/
theorem readExact_ok {fails : Option κ → ε} {n : Nat} {bytes : Bytes}
    (h : readExact fails n l = (.ok bytes, l')) :
    l.inbox = bytes ++ l'.inbox ∧ bytes.length = n ∧ l'.log = l.log ++ hearing bytes := by
  unfold readExact at h
  split at h
  · cases h
  · split at h
    · rename_i hle
      cases h
      refine ⟨(List.take_append_drop n l.inbox).symm, ?_, rfl⟩
      rw [List.length_take]
      omega
    · cases h

/-- A failed read has heard no more than it asked for. -/
theorem readExact_error {fails : Option κ → ε} {n : Nat} {e : ε}
    (h : readExact fails n l = (.error e, l')) :
    ∃ bytes : Bytes, bytes.length ≤ n ∧ l'.log = l.log ++ hearing bytes := by
  unfold readExact at h
  split at h
  · rename_i k m hcut
    cases h
    refine ⟨l.inbox.take (min m n), ?_, rfl⟩
    rw [List.length_take]
    omega
  · split at h
    · cases h
    · rename_i hshort
      cases h
      refine ⟨l.inbox.take l.inbox.length, ?_, rfl⟩
      rw [List.length_take]
      omega

end

/-! ## Conversations that break off -/

/-- The start of a conversation.  `S expected heard` says what may be heard instead of a message
that is expected; then the conversation stops there. -/
inductive BreaksOff (S : List Turn → List Turn → Prop) (plan : List Turn) : List Turn → Prop
  | stopped {t : List Turn} (h : t <+: plan) : BreaksOff S plan t
  | surprised {t expected rest heard : List Turn} (h : plan = t ++ (expected ++ rest))
      (hheard : S expected heard) : BreaksOff S plan (t ++ heard)

section
variable {S : List Turn → List Turn → Prop} {plan t : List Turn}

theorem BreaksOff.nil : BreaksOff S plan [] := .stopped (List.nil_prefix)

theorem BreaksOff.append_right (h : BreaksOff S plan t) (more : List Turn) :
    BreaksOff S (plan ++ more) t := by
  cases h with
  | stopped h => exact .stopped (h.trans (List.prefix_append plan more))
  | @surprised t expected rest heard h hheard =>
    have hplan : plan ++ more = t ++ (expected ++ (rest ++ more)) := by
      rw [h, List.append_assoc, List.append_assoc]
    exact .surprised hplan hheard

theorem BreaksOff.append_left (h : BreaksOff S plan t) (first : List Turn) :
    BreaksOff S (first ++ plan) (first ++ t) := by
  cases h with
  | stopped h => exact .stopped ((List.prefix_append_right_inj first).mpr h)
  | @surprised t expected rest heard h hheard =>
    have hplan : first ++ plan = first ++ t ++ (expected ++ rest) := by
      rw [h, List.append_assoc]
    rw [← List.append_assoc]
    exact .surprised hplan hheard

end

/-! ## Computations that follow a language -/

/-- A passed run of `x` is a conversation of `L`.  A failed one breaks off a conversation of `L`,
or one of `E`. -/
def Follows (S : List Turn → List Turn → Prop) (x : Act (Link κ) ε α) (L E : Language Turn) : Prop :=
  ∀ l, Act.Ends x l (fun _ l' => ∃ t ∈ L, l'.log = l.log ++ t)
    (fun _ l' => ∃ plan ∈ L + E, ∃ t, BreaksOff S plan t ∧ l'.log = l.log ++ t)

/-- The conversation that is always the same. -/
def oneRun (t : List Turn) : Language Turn := {t}

theorem oneRun_mul (t u : List Turn) : oneRun t * oneRun u = oneRun (t ++ u) := by
  ext w
  rw [Language.mem_mul]
  constructor
  · rintro ⟨a, rfl, b, rfl, rfl⟩; rfl
  · intro hw; exact ⟨t, rfl, u, rfl, hw.symm⟩

namespace Follows

variable {S : List Turn → List Turn → Prop} {x : Act (Link κ) ε α} {f : α → Act (Link κ) ε β} {L M E F : Language Turn}

theorem mono (h : Follows S x L E) (hL : ∀ t ∈ L, t ∈ M) (hE : ∀ t ∈ E, t ∈ M + F) :
    Follows S x M F := by
  intro l
  refine ⟨fun a l' hrun => ?_, fun e l' hrun => ?_⟩
  · obtain ⟨t, ht, hlog⟩ := (h l).ok a l' hrun
    exact ⟨t, hL t ht, hlog⟩
  · obtain ⟨plan, hplan, t, ht, hlog⟩ := (h l).error e l' hrun
    refine ⟨plan, ?_, t, ht, hlog⟩
    rcases hplan with hplan | hplan
    · exact Or.inl (hL plan hplan)
    · exact hE plan hplan

/-- A computation that moves no bytes. -/
theorem silent (h : ∀ l, (x l).2.log = l.log) : Follows S x 1 0 := by
  intro l
  refine ⟨fun a l' hrun => ⟨[], rfl, ?_⟩, fun e l' hrun => ⟨[], Or.inl rfl, [], .nil, ?_⟩⟩
  · rw [List.append_nil, ← h l, hrun]
  · rw [List.append_nil, ← h l, hrun]

theorem lift (r : Except ε α) : Follows S (Act.lift r : Act (Link κ) ε α) 1 0 := silent fun _ => rfl

theorem pure (a : α) : Follows S (Pure.pure a : Act (Link κ) ε α) 1 0 := silent fun _ => rfl

theorem call (fails : κ → Option ε) : Follows S (NetworkLantern.call fails : Act (Link κ) ε Unit) 1 0 :=
  silent (call_log fails)

theorem writeAll (fails : κ → ε) (bytes : Bytes) :
    Follows S (NetworkLantern.writeAll fails bytes : Act (Link κ) ε Unit) (oneRun (saying bytes)) 0 := by
  intro l
  refine ⟨fun a l' hrun => ⟨saying bytes, rfl, ?_⟩, fun e l' hrun => ⟨saying bytes, Or.inl rfl, ?_⟩⟩
  · unfold NetworkLantern.writeAll at hrun
    split at hrun
    · cases hrun
    · cases hrun; rfl
  · unfold NetworkLantern.writeAll at hrun
    split at hrun
    · rename_i k n hcut
      cases hrun
      exact ⟨saying (bytes.take n), .stopped ((List.take_prefix n bytes).map _), rfl⟩
    · cases hrun

/-- A failure without a turn. -/
theorem fail (e : ε) (h : ∃ t, t ∈ L + E) : Follows S (Act.fail e : Act (Link κ) ε α) L E := by
  intro l
  refine ⟨fun a l' hrun => (by cases hrun), fun e' l' hrun => ?_⟩
  cases hrun
  obtain ⟨t, ht⟩ := h
  exact ⟨t, ht, [], .nil, (List.append_nil _).symm⟩

/-- One computation behind another: a failure of the first breaks off what both would say. -/
theorem bindOk (hx : Follows S x L E) (hf : ∀ l a l', x l = (.ok a, l') → Follows S (f a) M F)
    (hM : ∃ t, t ∈ M + F) : Follows S (x >>= f) (L * M) (E + L * F) := by
  intro l
  refine ⟨fun b l' hrun => ?_, fun e l' hrun => ?_⟩
  · obtain ⟨a, l1, h1, h2⟩ := Act.bind_ok.mp hrun
    obtain ⟨t, ht, hlog⟩ := (hx l).ok a l1 h1
    obtain ⟨u, hu, hlog'⟩ := (hf l a l1 h1 l1).ok b l' h2
    exact ⟨t ++ u, Language.append_mem_mul ht hu, by rw [hlog', hlog, List.append_assoc]⟩
  · rcases Act.bind_error.mp hrun with h1 | ⟨a, l1, h1, h2⟩
    · obtain ⟨plan, hplan | hplan, t, ht, hlog⟩ := (hx l).error e l' h1
      · obtain ⟨more, hmore⟩ := hM
        refine ⟨plan ++ more, ?_, t, ht.append_right more, hlog⟩
        rcases hmore with hmore | hmore
        · exact Or.inl (Language.append_mem_mul hplan hmore)
        · exact Or.inr (Or.inr (Language.append_mem_mul hplan hmore))
      · exact ⟨plan, Or.inr (Or.inl hplan), t, ht, hlog⟩
    · obtain ⟨t, ht, hlog⟩ := (hx l).ok a l1 h1
      obtain ⟨plan, hplan, u, hu, hlog'⟩ := (hf l a l1 h1 l1).error e l' h2
      refine ⟨t ++ plan, ?_, t ++ u, hu.append_left t, by rw [hlog', hlog, List.append_assoc]⟩
      rcases hplan with hplan | hplan
      · exact Or.inl (Language.append_mem_mul ht hplan)
      · exact Or.inr (Or.inr (Language.append_mem_mul ht hplan))

theorem bind (hx : Follows S x L E) (hf : ∀ a, Follows S (f a) M F) (hM : ∃ t, t ∈ M + F) :
    Follows S (x >>= f) (L * M) (E + L * F) :=
  hx.bindOk (fun _ a _ _ => hf a) hM

/-- A computation that always fails hides what is behind it. -/
theorem never (hx : Follows S x 0 E) : Follows S (x >>= f) M E := by
  have h := hx.bindOk (f := f) (M := 1) (F := 0) (fun l a l' hrun => ?_) ⟨[], Or.inl rfl⟩
  · rw [zero_mul, zero_mul, add_zero] at h
    exact h.mono (fun t ht => absurd ht (Language.notMem_zero t)) fun t ht => Or.inr ht
  · obtain ⟨t, ht, -⟩ := (hx l).ok a l' hrun
    cases ht

/-- A computation behind one that moves no bytes. -/
theorem skip (hx : Follows S x 1 0) (hf : ∀ l a l', x l = (.ok a, l') → Follows S (f a) M F)
    (hM : ∃ t, t ∈ M + F) : Follows S (x >>= f) M F := by
  have h := hx.bindOk hf hM
  rwa [one_mul, one_mul, zero_add] at h

/-- Two computations whose conversations are always the same. -/
theorem oneRun_bind {t u : List Turn} (hx : Follows S x (oneRun t) 0)
    (hf : ∀ a, Follows S (f a) (oneRun u) 0) : Follows S (x >>= f) (oneRun (t ++ u)) 0 := by
  have h := hx.bind hf ⟨u, Or.inl rfl⟩
  rwa [oneRun_mul, mul_zero, add_zero] at h

/-- A computation that always says and hears the same, before another one. -/
theorem first {t : List Turn} (hx : Follows S x (oneRun t) 0) (hf : ∀ a, Follows S (f a) M 0)
    (hM : ∃ u, u ∈ M) : Follows S (x >>= f) (oneRun t * M) 0 := by
  obtain ⟨u, hu⟩ := hM
  have h := hx.bind hf ⟨u, Or.inl hu⟩
  rwa [mul_zero, add_zero] at h

end Follows

/-! ## What a passed run takes in -/

/-- A run that passes has taken bytes that `P` admits with its value. -/
def Needs (x : Act (Link κ) ε α) (P : α → Bytes → Prop) : Prop :=
  ∀ l a l', x l = (.ok a, l') → ∃ bytes, l.inbox = bytes ++ l'.inbox ∧ P a bytes

/-- Where nothing is cut, `x` takes the bytes and ends with the value. -/
def Takes (x : Act (Link κ) ε α) (a : α) (bytes : Bytes) : Prop :=
  ∀ l rest, l.Quiet → l.inbox = bytes ++ rest →
    ∃ l', x l = (.ok a, l') ∧ l'.Quiet ∧ l'.inbox = rest

section
variable {x : Act (Link κ) ε α} {f : α → Act (Link κ) ε β}

theorem Needs.bind {P : α → Bytes → Prop} {Q : α → β → Bytes → Prop} (hx : Needs x P)
    (hf : ∀ a, Needs (f a) (Q a)) :
    Needs (x >>= f) fun b bytes => ∃ a u v, P a u ∧ Q a b v ∧ bytes = u ++ v := by
  intro l b l' h
  obtain ⟨a, l1, h1, h2⟩ := Act.bind_ok.mp h
  obtain ⟨u, hu, hpu⟩ := hx l a l1 h1
  obtain ⟨v, hv, hqv⟩ := hf a l1 b l' h2
  exact ⟨u ++ v, by rw [hu, hv, List.append_assoc], a, u, v, hpu, hqv, rfl⟩

/-- A computation that takes nothing, with what is known of its value. -/
theorem Needs.nothing {P : α → Prop} (hinbox : ∀ l, (x l).2.inbox = l.inbox)
    (h : ∀ l a l', x l = (.ok a, l') → P a) : Needs x fun a bytes => P a ∧ bytes = [] := by
  intro l a l' hrun
  refine ⟨[], ?_, h l a l' hrun, rfl⟩
  rw [← hinbox l, hrun]
  rfl

theorem Takes.bind {a : α} {b : β} {u v : Bytes} (hx : Takes x a u) (hf : Takes (f a) b v) :
    Takes (x >>= f) b (u ++ v) := by
  intro l rest hquiet hinbox
  rw [List.append_assoc] at hinbox
  obtain ⟨l1, h1, hquiet1, hinbox1⟩ := hx l _ hquiet hinbox
  obtain ⟨l2, h2, hquiet2, hinbox2⟩ := hf l1 rest hquiet1 hinbox1
  exact ⟨l2, Act.bind_ok.mpr ⟨a, l1, h1, h2⟩, hquiet2, hinbox2⟩

/-- `Takes.bind`, behind a computation that takes nothing. -/
theorem Takes.skip {a : α} {b : β} {v : Bytes} (hx : Takes x a []) (hf : Takes (f a) b v) :
    Takes (x >>= f) b v := hx.bind hf

theorem Takes.pure (a : α) : Takes (Pure.pure a : Act (Link κ) ε α) a [] :=
  fun l _ hquiet hinbox => ⟨l, rfl, hquiet, hinbox⟩

theorem Takes.lift {r : Except ε α} {a : α} (h : r = .ok a) :
    Takes (Act.lift r : Act (Link κ) ε α) a [] :=
  fun l _ hquiet hinbox => ⟨l, by rw [h]; rfl, hquiet, hinbox⟩

theorem Takes.call (fails : κ → Option ε) : Takes (NetworkLantern.call fails) () [] :=
  fun l _ hquiet hinbox => ⟨l.advance, call_quiet hquiet, hquiet.advance, hinbox⟩

theorem Takes.writeAll (fails : κ → ε) (bytes : Bytes) :
    Takes (NetworkLantern.writeAll fails bytes) () [] :=
  fun l _ hquiet hinbox =>
    ⟨l.advance.say bytes, writeAll_quiet hquiet, hquiet.advance, hinbox⟩

theorem Takes.when {x : Act (Link κ) ε Unit} (hx : Takes x () []) (b : Bool) :
    Takes (Act.when b x) () [] := by
  cases b with
  | false => exact Takes.pure ()
  | true => exact hx

theorem Takes.collect {f : α → Act (Link κ) ε β} {g : α → β} {as : List α}
    (h : ∀ a ∈ as, Takes (f a) (g a) []) : Takes (Act.collect as f) (as.map g) [] := by
  induction as with
  | nil => exact Takes.pure []
  | cons a as ih =>
    rw [List.forall_mem_cons] at h
    exact Takes.skip h.1 (Takes.skip (ih h.2) (Takes.pure _))

theorem Takes.readExact (fails : Option κ → ε) {n : Nat} {bytes : Bytes} (h : bytes.length = n) :
    Takes (NetworkLantern.readExact fails n) bytes bytes :=
  fun _ _ hquiet hinbox => h ▸ readExact_quiet hquiet hinbox

end

end NetworkLantern
