import NetworkLantern.Helper.Transport
import NetworkLantern.Runtime.Layers
import NetworkLantern.Throughput.Metrics

/-!
# Retried measurements

A measurement that fails is tried again, in the process itself
(`runTestWithRetry`) or by asking the helper again (`helperThroughput`).  The
first loop goes by the failure, the second by the helper's error for it, which
does not tell every failure apart.  They make the same attempts and end alike
exactly when no attempt they both make fails in a way that the two classify
differently (`retries_agree_iff`); which failures these are is in
`retryable_eq_retriedByHelper_iff`.
-/

namespace NetworkLantern.Helper

open NetworkLantern Throughput

def HelperError.display : HelperError → Str
  | .validation message => "invalid helper request: ".toList ++ message
  | .authorization message => "helper authorization denied: ".toList ++ message
  | .unavailable message => "helper is unavailable: ".toList ++ message
  | .authentication => "helper request authentication failed"
  | .replay => "helper request nonce was already used"
  | .scope message => "helper request is outside the reviewed plan: ".toList ++ message
  | .protocol message => "helper protocol error: ".toList ++ message
  | .transport operation source =>
    "helper transport during ".toList ++ operation ++ ": ".toList ++ source
  | .cancelled => "helper operation cancelled"
  | .tuning message => "Windows tuning failed: ".toList ++ message
  | .probe message => "diagnostic probe failed: ".toList ++ message
  | .diagnostic error => error.message

/-- `throughput_error` of the server. -/
def throughputError : TestFailure → HelperError
  | .cancelled => .cancelled
  | .refused (.validation message) => .validation message
  | .refused (.budgetExceeded planned maximum) =>
    .validation (ThroughputError.budgetExceeded planned maximum).display
  | .io phase source =>
    if source.kind = .permissionDenied then
      .authorization ("Windows qWAVE DSCP setup requires an administrator or Network ".toList ++
        "Configuration Operators token: ".toList ++ source.message)
    else .probe (TestFailure.io phase source).display
  | other => .probe other.display

/-- A failure of the server as the client gets it. -/
def received (e : TestFailure) : HelperError := (WireError.ofHelper (throughputError e)).toHelper

/-- What `NativeExecution::throughput` takes for retryable. -/
def HelperError.retryable : HelperError → Bool
  | .probe _ | .transport .. | .unavailable _ => true
  | _ => false

end NetworkLantern.Helper

namespace NetworkLantern.Runtime

open NetworkLantern Throughput Helper

/-- `helper_error`. -/
def helperError (e : HelperError) : Error :=
  let category : ErrorCategory :=
    match e with
    | .validation _ => .validation
    | .authorization _ | .authentication | .replay | .scope _ => .permission
    | .cancelled => .cancelled
    | .diagnostic error => error.category
    | .probe _ => .connectivity
    | _ => .prerequisite
  .new category e.display

/-- An attempt: what it comes to, whether the token is cancelled by then, and whether the pause
after it is cut short. -/
structure Attempt where
  outcome : Except TestFailure Throughput.TestResult
  cancelled : Bool
  cut : Bool
  cut_of_cancelled : cancelled = true → cut = true

/-- How a run of attempts ends; a failure with what the loop takes it for. -/
inductive Ending (ε : Type)
  | success (result : Throughput.TestResult)
  | failed (retryable : Bool) (e : ε)

structure Retried (ε : Type) where
  attempts : Nat
  ending : Ending ε

/-- `max_retries.saturating_add(1)`. -/
def attemptCount (maxRetries : UInt8) : Nat := min (maxRetries.toNat + 1) 255

def withAttempts (r : Throughput.TestResult) (attempt : Nat) : Throughput.TestResult :=
  { r with attempts := .ofNat attempt }

section
variable (seq : Nat → Attempt) (attempts : Nat)

/-- The loop of `run_test_with_retry` with so many attempts left. -/
def directLoop : Nat → Option TestFailure → Retried TestFailure
  | 0, last =>
    let e := last.getD .cancelled
    ⟨attempts, .failed e.retryable (.retriesExhausted (.ofNat attempts) e)⟩
  | left + 1, _ =>
    let attempt := attempts - left
    let a := seq attempt
    match a.outcome with
    | .ok result => ⟨attempt, .success (withAttempts result attempt)⟩
    | .error e =>
      if e = .cancelled ∨ a.cancelled then ⟨attempt, .failed false .cancelled⟩
      else if e.retryable ∧ attempt < attempts then
        if a.cut then ⟨attempt, .failed false .cancelled⟩ else directLoop left (some e)
      else if attempt = 1 then ⟨attempt, .failed e.retryable e⟩
      else ⟨attempt, .failed e.retryable (.retriesExhausted (.ofNat attempt) e)⟩

/-- The loop over the helper in `NativeExecution::throughput`. -/
def helperLoop : Nat → Retried Error
  | 0 => ⟨attempts, .failed false (.new .internal "unreachable")⟩
  | left + 1 =>
    let attempt := attempts - left
    let a := seq attempt
    match a.outcome with
    | .ok result => ⟨attempt, .success (withAttempts result attempt)⟩
    | .error failure =>
      let e := received failure
      if e.retryable ∧ attempt < attempts then
        if a.cut then
          ⟨attempt, .failed false (.new .cancelled "throughput run was cancelled")⟩
        else helperLoop left
      else
        let mapped := helperError e
        if e.retryable ∧ 1 < attempt then
          ⟨attempt, .failed e.retryable (.new mapped.category ("all ".toList ++ decimal attempt ++
            " attempt(s) failed: ".toList ++ mapped.message))⟩
        else ⟨attempt, .failed e.retryable mapped⟩

end

/-- `run_test_with_retry`, on the attempts 1, 2, and so on. -/
def runTestWithRetry (seq : Nat → Attempt) (maxRetries : UInt8) : Retried TestFailure :=
  directLoop seq (attemptCount maxRetries) (attemptCount maxRetries) none

/-- `NativeExecution::throughput` with a helper. -/
def helperThroughput (seq : Nat → Attempt) (maxRetries : UInt8) : Retried Error :=
  helperLoop seq (attemptCount maxRetries) (attemptCount maxRetries)

/-! ## When the two agree -/

/-- The same number of attempts, and the same result or a failure of the same kind. -/
def Agree (d : Retried TestFailure) (h : Retried Error) : Prop :=
  d.attempts = h.attempts ∧
    match d.ending, h.ending with
    | .success r, .success r' => r = r'
    | .failed k _, .failed k' _ => k = k'
    | _, _ => False

/-- The failures after which the helper is asked again: all but what is cancelled, refused or
not permitted. -/
def retriedByHelper : TestFailure → Bool
  | .cancelled | .refused _ => false
  | .io _ source => source.kind ≠ .permissionDenied
  | _ => true

/-- The two loops take a failed attempt for the same, or it does not matter: a pause that is cut
short ends both, and so does a cancelled last attempt that the helper does not take for
retryable. -/
def Alike (last : Bool) (a : Attempt) : Prop :=
  match a.outcome with
  | .ok _ => True
  | .error e =>
    if a.cut ∧ last = false then True
    else if a.cancelled then retriedByHelper e = false
    else e.retryable = retriedByHelper e

/-- The direct loop goes on after this attempt, if it is not the last. -/
def GoesOn (a : Attempt) : Prop :=
  ∃ e, a.outcome = .error e ∧ e.retryable = true ∧ a.cut = false

/-- The attempts from `first` on that the direct loop makes are taken alike. -/
def AlikeFrom (seq : Nat → Attempt) (attempts first : Nat) : Prop :=
  ∀ i, first ≤ i → i ≤ attempts → (∀ j, first ≤ j → j < i → GoesOn (seq j)) →
    Alike (decide (i = attempts)) (seq i)

section
variable {seq : Nat → Attempt} {n k : Nat} {e : TestFailure}

theorem received_retryable (e : TestFailure) : (received e).retryable = retriedByHelper e := by
  cases e with
  | refused e => cases e <;> rfl
  | io phase source =>
    by_cases h : source.kind = .permissionDenied <;>
      simp [received, throughputError, retriedByHelper, h, WireError.ofHelper, WireError.toHelper,
        HelperError.retryable]
  | _ => rfl

/-- What both take for the same: the helper asks again after other failures than the direct
loop, and not after an I/O error that is a lack of permission. -/
theorem retryable_eq_retriedByHelper_iff (e : TestFailure) :
    e.retryable = retriedByHelper e ↔
      match e with
      | .io _ source => source.kind ≠ .permissionDenied
      | .cancelled | .refused _ | .timeout .. | .serverBusy => True
      | _ => False := by
  cases e <;> simp [TestFailure.retryable, retriedByHelper]

theorem alikeFrom_iff {first : Nat} (h : first ≤ n) :
    AlikeFrom seq n first ↔
      Alike (decide (first = n)) (seq first) ∧
        (GoesOn (seq first) → AlikeFrom seq n (first + 1)) := by
  constructor
  · intro hall
    refine ⟨hall first (Nat.le_refl first) h fun j hle hlt => absurd hlt (by omega), ?_⟩
    intro hgo i hle hn hprev
    refine hall i (by omega) hn fun j hj hlt => ?_
    by_cases hj0 : j = first
    · rw [hj0]
      exact hgo
    · exact hprev j (by omega) hlt
  · rintro ⟨hfirst, hrest⟩ i hle hn hprev
    by_cases hi : i = first
    · rw [hi]
      exact hfirst
    · exact hrest (hprev first (Nat.le_refl first) (by omega)) i (by omega) hn
        fun j hj hlt => hprev j (by omega) hlt

/-! ### One attempt of the direct loop -/

theorem directLoop_goesOn (last : Option TestFailure) (hout : (seq (n - k)).outcome = .error e) (hkn : k < n)
    (hk : k ≠ 0) (hx : e.retryable = true) (hcut : (seq (n - k)).cut = false) :
    directLoop seq n (k + 1) last = directLoop seq n k (some e) := by
  have hlive : ¬ (e = .cancelled ∨ (seq (n - k)).cancelled = true) := by
    rintro (rfl | hc)
    · cases hx
    · rw [(seq (n - k)).cut_of_cancelled hc] at hcut
      cases hcut
  rw [directLoop]
  rw [hout]
  dsimp only
  rw [if_neg hlive, if_pos ⟨hx, by omega⟩, if_neg (by rw [hcut]; decide)]

theorem directLoop_stops (last : Option TestFailure) (hout : (seq (n - k)).outcome = .error e) (hkn : k < n)
    (hstop : ¬ (k ≠ 0 ∧ e.retryable = true ∧ (seq (n - k)).cut = false)) :
    ∃ e', directLoop seq n (k + 1) last =
      ⟨n - k, .failed (e.retryable && !(seq (n - k)).cancelled && decide (k = 0)) e'⟩ := by
  rw [directLoop]
  rw [hout]
  dsimp only
  by_cases hc : e = .cancelled ∨ (seq (n - k)).cancelled = true
  · refine ⟨.cancelled, ?_⟩
    have hfalse : (e.retryable && !(seq (n - k)).cancelled) = false := by
      rcases hc with rfl | hc
      · rfl
      · rw [hc, Bool.not_true, Bool.and_false]
    rw [if_pos hc, hfalse, Bool.false_and]
  · have hlive : (seq (n - k)).cancelled = false := by
      cases h : (seq (n - k)).cancelled with
      | false => rfl
      | true => exact absurd (.inr h) hc
    rw [if_neg hc, hlive, Bool.not_false, Bool.and_true]
    by_cases hretry : e.retryable = true ∧ n - k < n
    · have hk : k ≠ 0 := by omega
      have hcut : (seq (n - k)).cut = true := by
        cases h : (seq (n - k)).cut with
        | true => rfl
        | false => exact absurd ⟨hk, hretry.1, h⟩ hstop
      refine ⟨.cancelled, ?_⟩
      rw [if_pos hretry, if_pos hcut, decide_eq_false hk, Bool.and_false]
    · have hkind : (e.retryable && decide (k = 0)) = e.retryable := by
        by_cases hk : k = 0
        · rw [decide_eq_true hk, Bool.and_true]
        · have hx : e.retryable = false := by
            cases h : e.retryable with
            | false => rfl
            | true => exact absurd ⟨h, by omega⟩ hretry
          rw [hx, Bool.false_and]
      rw [if_neg hretry, hkind]
      split
      · exact ⟨_, rfl⟩
      · exact ⟨_, rfl⟩

/-! ### One attempt through the helper -/

theorem helperLoop_goesOn (hout : (seq (n - k)).outcome = .error e) (hkn : k < n)
    (hk : k ≠ 0) (hy : (received e).retryable = true) (hcut : (seq (n - k)).cut = false) :
    helperLoop seq n (k + 1) = helperLoop seq n k := by
  rw [helperLoop]
  dsimp only
  rw [hout]
  dsimp only
  rw [if_pos ⟨hy, by omega⟩, if_neg (by rw [hcut]; decide)]

theorem helperLoop_stops (hout : (seq (n - k)).outcome = .error e) (hkn : k < n)
    (hstop : ¬ (k ≠ 0 ∧ (received e).retryable = true ∧ (seq (n - k)).cut = false)) :
    ∃ e', helperLoop seq n (k + 1) =
      ⟨n - k, .failed ((received e).retryable && decide (k = 0)) e'⟩ := by
  rw [helperLoop]
  dsimp only
  rw [hout]
  dsimp only
  by_cases hretry : (received e).retryable = true ∧ n - k < n
  · have hk : k ≠ 0 := by omega
    have hcut : (seq (n - k)).cut = true := by
      cases h : (seq (n - k)).cut with
      | true => rfl
      | false => exact absurd ⟨hk, hretry.1, h⟩ hstop
    refine ⟨.new .cancelled "throughput run was cancelled", ?_⟩
    rw [if_pos hretry, if_pos hcut, decide_eq_false hk, Bool.and_false]
  · have hkind : ((received e).retryable && decide (k = 0)) = (received e).retryable := by
      by_cases hk : k = 0
      · rw [decide_eq_true hk, Bool.and_true]
      · have hy : (received e).retryable = false := by
          cases h : (received e).retryable with
          | false => rfl
          | true => exact absurd ⟨h, by omega⟩ hretry
        rw [hy, Bool.false_and]
    rw [if_neg hretry, hkind]
    split
    · exact ⟨_, rfl⟩
    · exact ⟨_, rfl⟩

/-! ### Both loops -/

theorem directLoop_attempts_gt (last : Option TestFailure) (hk : k ≠ 0) (hkn : k ≤ n) :
    n - k < (directLoop seq n k last).attempts := by
  induction k generalizing last with
  | zero => exact absurd rfl hk
  | succ k ih =>
    cases hout : (seq (n - k)).outcome with
    | ok result =>
      rw [directLoop]
      rw [hout]
      show n - (k + 1) < n - k
      omega
    | error e =>
      by_cases hgo : k ≠ 0 ∧ e.retryable = true ∧ (seq (n - k)).cut = false
      · rw [directLoop_goesOn _ hout (by omega) hgo.1 hgo.2.1 hgo.2.2]
        have hlater := ih (some e) hgo.1 (by omega)
        omega
      · obtain ⟨e', he'⟩ := directLoop_stops last hout (by omega) hgo
        rw [he']
        show n - (k + 1) < n - k
        omega

theorem helperLoop_attempts_gt (hk : k ≠ 0) (hkn : k ≤ n) :
    n - k < (helperLoop seq n k).attempts := by
  induction k with
  | zero => exact absurd rfl hk
  | succ k ih =>
    cases hout : (seq (n - k)).outcome with
    | ok result =>
      rw [helperLoop]
      dsimp only
      rw [hout]
      show n - (k + 1) < n - k
      omega
    | error e =>
      by_cases hgo : k ≠ 0 ∧ (received e).retryable = true ∧ (seq (n - k)).cut = false
      · rw [helperLoop_goesOn hout (by omega) hgo.1 hgo.2.1 hgo.2.2]
        have hlater := ih hgo.1 (by omega)
        omega
      · obtain ⟨e', he'⟩ := helperLoop_stops hout (by omega) hgo
        rw [he']
        show n - (k + 1) < n - k
        omega

theorem not_agree_of_attempts {d : Retried TestFailure} {h : Retried Error}
    (hne : d.attempts ≠ h.attempts) : ¬ Agree d h :=
  fun hagree => hne hagree.1

theorem not_cancelled {a : Attempt} (hcut : a.cut = false) : a.cancelled = false := by
  cases h : a.cancelled with
  | false => rfl
  | true => rw [a.cut_of_cancelled h] at hcut; cases hcut

theorem alike_error {a : Attempt} (hout : a.outcome = .error e) {final : Bool} :
    Alike final a ↔
      if a.cut = true ∧ final = false then True
      else if a.cancelled = true then (received e).retryable = false
      else e.retryable = (received e).retryable := by
  unfold Alike
  rw [hout, received_retryable]

theorem alike_uncut {a : Attempt} (hout : a.outcome = .error e) (hcut : a.cut = false)
    {final : Bool} : Alike final a ↔ e.retryable = (received e).retryable := by
  rw [alike_error hout, if_neg (by simp [hcut]), if_neg (by simp [not_cancelled hcut])]

theorem agree_failed {i : Nat} {x y : Bool} {e' : TestFailure} {e'' : Error} :
    Agree ⟨i, .failed x e'⟩ ⟨i, .failed y e''⟩ ↔ x = y :=
  ⟨fun h => h.2, fun h => ⟨rfl, h⟩⟩

/-- Where both stop at a failed attempt, they agree when they take it for the same. -/
theorem stopped_alike (hout : (seq (n - k)).outcome = .error e) (hkn : k < n)
    (hd : ¬ (k ≠ 0 ∧ e.retryable = true ∧ (seq (n - k)).cut = false))
    (hh : ¬ (k ≠ 0 ∧ (received e).retryable = true ∧ (seq (n - k)).cut = false)) :
    ((e.retryable && !(seq (n - k)).cancelled && decide (k = 0)) =
        ((received e).retryable && decide (k = 0))) ↔
      Alike (decide (n - k = n)) (seq (n - k)) := by
  by_cases hk : k = 0
  · subst hk
    rw [alike_error hout]
    cases hc : (seq (n - 0)).cancelled <;> simp
  · have hlast : decide (n - k = n) = false := decide_eq_false (by omega)
    rw [decide_eq_false hk, Bool.and_false, Bool.and_false, hlast]
    cases hcut : (seq (n - k)).cut with
    | true =>
      rw [alike_error hout, if_pos ⟨hcut, rfl⟩]
      exact ⟨fun _ => trivial, fun _ => rfl⟩
    | false =>
      have hx : e.retryable = false := by
        cases h : e.retryable with
        | false => rfl
        | true => exact absurd ⟨hk, h, hcut⟩ hd
      have hy : (received e).retryable = false := by
        cases h : (received e).retryable with
        | false => rfl
        | true => exact absurd ⟨hk, h, hcut⟩ hh
      rw [alike_uncut hout hcut, hx, hy]

/-- One attempt, with the rest of the loops taken to agree as they should. -/
theorem loops_agree_step (last : Option TestFailure) (hkn : k < n)
    (hrest : k ≠ 0 → ∀ last, Agree (directLoop seq n k last) (helperLoop seq n k) ↔
      AlikeFrom seq n (n - k + 1)) :
    Agree (directLoop seq n (k + 1) last) (helperLoop seq n (k + 1)) ↔
      AlikeFrom seq n (n - k) := by
  rw [alikeFrom_iff (Nat.sub_le n k)]
  cases hout : (seq (n - k)).outcome with
  | ok result =>
    have halike : Alike (decide (n - k = n)) (seq (n - k)) := by
      unfold Alike
      rw [hout]
      trivial
    have hstop : ¬ GoesOn (seq (n - k)) := by
      rintro ⟨e, he, -⟩
      rw [hout] at he
      cases he
    rw [directLoop, helperLoop]
    dsimp only
    rw [hout]
    exact ⟨fun _ => ⟨halike, fun hgo => absurd hgo hstop⟩, fun _ => ⟨rfl, rfl⟩⟩
  | error e =>
    by_cases hd : k ≠ 0 ∧ e.retryable = true ∧ (seq (n - k)).cut = false
    · obtain ⟨hk, hx, hcut⟩ := hd
      have hgo : GoesOn (seq (n - k)) := ⟨e, hout, hx, hcut⟩
      rw [directLoop_goesOn _ hout hkn hk hx hcut, alike_uncut hout hcut, hx]
      by_cases hy : (received e).retryable = true
      · rw [helperLoop_goesOn hout hkn hk hy hcut, hrest hk]
        exact ⟨fun h => ⟨hy.symm, fun _ => h⟩, fun h => h.2 hgo⟩
      · obtain ⟨e', he'⟩ := helperLoop_stops hout hkn fun h => hy h.2.1
        have hlater : n - k < (directLoop seq n k (some e)).attempts :=
          directLoop_attempts_gt _ hk hkn.le
        have hne : ¬ Agree (directLoop seq n k (some e)) (helperLoop seq n (k + 1)) := by
          apply not_agree_of_attempts
          rw [he']
          exact ne_of_gt hlater
        exact ⟨fun h => absurd h hne, fun h => absurd h.1.symm hy⟩
    · obtain ⟨e₁, he₁⟩ := directLoop_stops last hout hkn hd
      rw [he₁]
      by_cases hh : k ≠ 0 ∧ (received e).retryable = true ∧ (seq (n - k)).cut = false
      · obtain ⟨hk, hy, hcut⟩ := hh
        have hlater : n - k < (helperLoop seq n k).attempts := helperLoop_attempts_gt hk hkn.le
        have hne : ¬ Agree ⟨n - k, .failed (e.retryable && !(seq (n - k)).cancelled &&
            decide (k = 0)) e₁⟩ (helperLoop seq n (k + 1)) := by
          apply not_agree_of_attempts
          rw [helperLoop_goesOn hout hkn hk hy hcut]
          exact ne_of_lt hlater
        rw [alike_uncut hout hcut, hy]
        exact ⟨fun h => absurd h hne, fun h => absurd ⟨hk, h.1, hcut⟩ hd⟩
      · obtain ⟨e₂, he₂⟩ := helperLoop_stops hout hkn hh
        rw [he₂, agree_failed, stopped_alike hout hkn hd hh]
        refine ⟨fun h => ⟨h, fun hgo => ?_⟩, fun h => h.1⟩
        obtain ⟨e', he', hx, hcut⟩ := hgo
        obtain rfl : e = e' := Except.error.inj (hout.symm.trans he')
        -- The loop only stops here as this is the last attempt.
        have hk : k = 0 := by
          by_contra hk
          exact hd ⟨hk, hx, hcut⟩
        intro i hle hn
        omega

/-- With `k + 1` attempts left. -/
theorem loops_agree_iff (last : Option TestFailure) (hkn : k < n) :
    Agree (directLoop seq n (k + 1) last) (helperLoop seq n (k + 1)) ↔
      AlikeFrom seq n (n - k) := by
  induction k generalizing last with
  | zero => exact loops_agree_step last hkn fun h => absurd rfl h
  | succ k ih =>
    refine loops_agree_step last hkn fun _ last => ?_
    rw [show n - (k + 1) + 1 = n - k by omega]
    exact ih last (by omega)

end

theorem attemptCount_pos (maxRetries : UInt8) : 0 < attemptCount maxRetries := by
  unfold attemptCount
  omega

/-- The loops agree exactly when no attempt of the direct loop is taken for one thing by it and
for another by the helper's. -/
theorem retries_agree_iff (seq : Nat → Attempt) (maxRetries : UInt8) :
    Agree (runTestWithRetry seq maxRetries) (helperThroughput seq maxRetries) ↔
      AlikeFrom seq (attemptCount maxRetries) 1 := by
  have hpos := attemptCount_pos maxRetries
  obtain ⟨k, hk⟩ : ∃ k, attemptCount maxRetries = k + 1 := ⟨_, (Nat.succ_pred hpos.ne').symm⟩
  have hagree := @loops_agree_iff seq (k + 1) k none (Nat.lt_succ_self k)
  rw [show k + 1 - k = 1 by omega] at hagree
  rw [runTestWithRetry, helperThroughput, hk]
  exact hagree

/-- A server whose result does not parse, at every attempt. -/
def malformedAttempts (_ : Nat) : Attempt :=
  ⟨.error (.malformedResult "no streams"), false, false, nofun⟩

/-- The helper's loop asks again after a malformed result, the direct one does not. -/
theorem malformed_retried_by_helper :
    (runTestWithRetry malformedAttempts 1).attempts = 1 ∧
      (helperThroughput malformedAttempts 1).attempts = 2 ∧
      ¬ Agree (runTestWithRetry malformedAttempts 1) (helperThroughput malformedAttempts 1) := by
  have hd : (runTestWithRetry malformedAttempts 1).attempts = 1 := by decide
  have hh : (helperThroughput malformedAttempts 1).attempts = 2 := by decide
  refine ⟨hd, hh, not_agree_of_attempts ?_⟩
  rw [hd, hh]
  decide

end NetworkLantern.Runtime
