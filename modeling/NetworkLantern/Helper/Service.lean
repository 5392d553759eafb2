import NetworkLantern.Helper.Admission

/-!
# The helper service and its removal

The Linux and the Windows service guard one admission permit and a slot for the
permit of a removal.  Each section under a lock, and each operation on the
semaphore, is one step; operations and, on Windows, requests to prepare a
removal hold the permit across several steps.

    removal_handshake   permits, exclusion, retries and the agreement of the two
-/

namespace NetworkLantern.Helper

open NetworkLantern

/-! ## The code -/

inductive Platform
  | linux | windows
deriving DecidableEq, Repr

/-- The frame of an operation is left to `HelperServer::handle`. -/
inductive Message
  | operation
  | prepareRemoval
  | abortRemoval
  | cancelRun (runId : Uuid)
  | status
deriving DecidableEq, Repr

/-- The kind of a reply with the values it carries, less the run identifier
that Windows repeats in its answer to `CancelRun`. -/
inductive Reply
  | status (active : Bool)
  | cancelled (cancelled : Bool)
  | removalPrepared
  | removalAborted (released : Bool)
  | operation (result : Except HelperError Unit)
  | error (e : HelperError)

structure Service where
  server : Server
  /-- The free permits of `admission`. -/
  available : Nat
  /-- The slot `removal` holds a permit. -/
  removal : Bool
  /-- Requests that acquired a permit and have not stored it in the slot. -/
  preparing : Nat
  /-- Operations that hold a permit. -/
  operations : Nat

namespace Service

/-- `Semaphore::new(1)`, and an empty slot. -/
def init : Service := ⟨Server.init, 1, false, 0, 0⟩

/-- `try_acquire_owned`. -/
def tryAcquire (s : Service) : Option Service :=
  if s.available = 0 then none else some { s with available := s.available - 1 }

/-- The permits that dropping the contents of the slot releases. -/
def slotPermits (s : Service) : Nat := if s.removal then 1 else 0

def removalRefused : Reply :=
  .error (.scope "An operation is active; helper removal is refused")

def operationRefused : Reply :=
  .error (.scope "Another helper operation or removal is active")

/-- `PrepareRemoval` on Linux, under the lock of the slot. -/
def prepareRemovalLinux (s : Service) : Service × Option Reply :=
  if s.removal then (s, some .removalPrepared)
  else
    match s.tryAcquire with
    | none => (s, some removalRefused)
    | some s => ({ s with removal := true }, some .removalPrepared)

/-- `PrepareRemoval` on Windows, up to the lock of the slot. -/
def prepareRemovalWindows (s : Service) : Service × Option Reply :=
  match s.tryAcquire with
  | none => (s, some removalRefused)
  | some s => ({ s with preparing := s.preparing + 1 }, none)

/-- `PrepareRemoval` on Windows, under the lock: what the slot held is dropped. -/
def storeRemoval (s : Service) : Service × Option Reply :=
  if s.preparing = 0 then (s, none)
  else
    ({ s with
        preparing := s.preparing - 1, removal := true, available := s.available + s.slotPermits },
      some .removalPrepared)

def abortRemoval (s : Service) : Service × Option Reply :=
  ({ s with removal := false, available := s.available + s.slotPermits },
    some (.removalAborted s.removal))

def operation (s : Service) : Service × Option Reply :=
  match s.tryAcquire with
  | none => (s, some operationRefused)
  | some s => ({ s with operations := s.operations + 1 }, none)

/-- `HelperServer::handle` returns, and the permit of the operation is dropped. -/
def finish (s : Service) (result : Except HelperError Unit) : Service × Option Reply :=
  if s.operations = 0 then (s, none)
  else
    ({ s with operations := s.operations - 1, available := s.available + 1 },
      some (.operation result))

def cancelRun (s : Service) (runId : Uuid) : Service × Option Reply :=
  let token := (s.server.admission.cancelRun runId s.server.clock).1
  ({ s with server := s.server.cancelRun runId }, some (.cancelled token.isSome))

end Service

inductive ServiceStep
  | message (m : Message)
  /-- The second section of a `PrepareRemoval` on Windows. -/
  | store
  | finish (result : Except HelperError Unit)
  /-- A step of the helper server itself. -/
  | server (a : ServerStep)

namespace Service

/-- The first section that a message runs. -/
def receive (p : Platform) (s : Service) : Message → Service × Option Reply
  | .status => (s, some (.status (s.available = 0)))
  | .cancelRun runId => s.cancelRun runId
  | .prepareRemoval =>
    match p with
    | .linux => s.prepareRemovalLinux
    | .windows => s.prepareRemovalWindows
  | .abortRemoval => s.abortRemoval
  | .operation => s.operation

def step (p : Platform) (s : Service) : ServiceStep → Service × Option Reply
  | .message m => s.receive p m
  | .store => s.storeRemoval
  | .finish result => s.finish result
  | .server a => ({ s with server := (s.server.step a).getD s.server }, none)

/-- The service after any interleaving of sections. -/
def run (p : Platform) (steps : List ServiceStep) : Service :=
  steps.foldl (fun s a => (s.step p a).1) init

/-! ## Message by message -/

/-- The service handles `m` before it takes the next message, as far as the
reply: only operations go on. -/
def handle (p : Platform) (s : Service) (m : Message) : Service × Option Reply :=
  match p, m with
  | .windows, .prepareRemoval =>
    match s.prepareRemovalWindows with
    | (s, some reply) => (s, some reply)
    | (s, none) => s.storeRemoval
  | p, m => s.receive p m

end Service

/-- What happens between two messages, besides. -/
inductive Item
  | message (m : Message)
  | finish (result : Except HelperError Unit)
  | server (a : ServerStep)

namespace Service

def serve (p : Platform) (s : Service) : Item → Service × Option Reply
  | .message m => s.handle p m
  | .finish result => s.step p (.finish result)
  | .server a => s.step p (.server a)

/-- The replies to a sequence of messages. -/
def replies (p : Platform) : Service → List Item → List (Option Reply)
  | _, [] => []
  | s, i :: is => (s.serve p i).2 :: replies p (s.serve p i).1 is

/-- No removal is prepared again while one is prepared on the Windows service. -/
def PreparedOnce : Service → List Item → Prop
  | _, [] => True
  | s, i :: is =>
    (i = .message .prepareRemoval → s.removal = false) ∧ PreparedOnce (s.serve .windows i).1 is

end Service

namespace Service

variable {p : Platform} {s s' : Service}

/-! ## Permits -/

/-- The one permit is free, or held by an operation or for a removal. -/
def OnePermit (s : Service) : Prop :=
  s.available + s.operations + s.preparing + s.slotPermits = 1

theorem tryAcquire_some (h : s.tryAcquire = some s') :
    0 < s.available ∧ s' = { s with available := s.available - 1 } := by
  unfold tryAcquire at h
  split at h
  · cases h
  · cases h
    exact ⟨by omega, rfl⟩

theorem tryAcquire_eq_none : s.tryAcquire = none ↔ s.available = 0 := by
  unfold tryAcquire
  split <;> simp_all

theorem prepareRemovalLinux_permit (h : OnePermit s) : OnePermit s.prepareRemovalLinux.1 := by
  unfold prepareRemovalLinux
  split
  · exact h
  · rename_i hslot
    split
    · exact h
    · rename_i t ht
      obtain ⟨hpos, rfl⟩ := tryAcquire_some ht
      unfold OnePermit slotPermits at *
      simp only [hslot, if_true, if_false, Bool.false_eq_true] at h ⊢
      omega

theorem prepareRemovalWindows_permit (h : OnePermit s) : OnePermit s.prepareRemovalWindows.1 := by
  unfold prepareRemovalWindows
  split
  · exact h
  · rename_i t ht
    obtain ⟨hpos, rfl⟩ := tryAcquire_some ht
    show s.available - 1 + s.operations + (s.preparing + 1) + s.slotPermits = 1
    unfold OnePermit at h
    omega

theorem storeRemoval_permit (h : OnePermit s) : OnePermit s.storeRemoval.1 := by
  unfold storeRemoval
  split
  · exact h
  · rename_i hpreparing
    show s.available + s.slotPermits + s.operations + (s.preparing - 1) + 1 = 1
    unfold OnePermit at h
    omega

theorem abortRemoval_permit (h : OnePermit s) : OnePermit s.abortRemoval.1 := by
  show s.available + s.slotPermits + s.operations + s.preparing + 0 = 1
  unfold OnePermit at h
  omega

theorem operation_permit (h : OnePermit s) : OnePermit s.operation.1 := by
  unfold operation
  split
  · exact h
  · rename_i t ht
    obtain ⟨hpos, rfl⟩ := tryAcquire_some ht
    show s.available - 1 + (s.operations + 1) + s.preparing + s.slotPermits = 1
    unfold OnePermit at h
    omega

theorem finish_permit (h : OnePermit s) (result : Except HelperError Unit) :
    OnePermit (s.finish result).1 := by
  unfold finish
  split
  · exact h
  · rename_i hops
    show s.available + 1 + (s.operations - 1) + s.preparing + s.slotPermits = 1
    unfold OnePermit at h
    omega

/-- Every section keeps the one permit. -/
theorem step_permit (p : Platform) (h : OnePermit s) (a : ServiceStep) :
    OnePermit (s.step p a).1 := by
  cases a with
  | message m =>
    cases m with
    | operation => exact operation_permit h
    | prepareRemoval =>
      cases p with
      | linux => exact prepareRemovalLinux_permit h
      | windows => exact prepareRemovalWindows_permit h
    | abortRemoval => exact abortRemoval_permit h
    | cancelRun runId => exact h
    | status => exact h
  | store => exact storeRemoval_permit h
  | finish result => exact finish_permit h result
  | server a => exact h

theorem run_permit (p : Platform) (steps : List ServiceStep) : OnePermit (run p steps) :=
  List.foldlRecOn steps _ (show OnePermit init from rfl) fun _ h a _ => step_permit p h a

/-- A removal that is prepared leaves no permit to anything else. -/
theorem OnePermit.exclusive (h : OnePermit s) :
    (s.removal = true → s.operations = 0 ∧ s.available = 0 ∧ s.preparing = 0) ∧
      (0 < s.operations → s.removal = false ∧ s.operations = 1) := by
  unfold OnePermit slotPermits at h
  cases hr : s.removal with
  | true =>
    rw [hr, if_pos rfl] at h
    exact ⟨fun _ => by omega, fun hops => by omega⟩
  | false => exact ⟨nofun, fun hops => ⟨rfl, by omega⟩⟩

/-- Once a removal is aborted the next operation gets the permit, unless one or
a request to prepare a removal is under way. -/
theorem abort_admits (h : OnePermit s) (hops : s.operations = 0) (hpreparing : s.preparing = 0) :
    s.abortRemoval.1.operation.2 = none ∧ s.abortRemoval.1.operation.1.operations = 1 := by
  have hfree : s.abortRemoval.1.available = 1 := by
    show s.available + s.slotPermits = 1
    unfold OnePermit at h
    omega
  unfold operation tryAcquire
  rw [if_neg (by omega)]
  refine ⟨rfl, ?_⟩
  show s.operations + 1 = 1
  omega

/-! ## The two services -/

theorem prepare_again_linux (h : s.removal = true) :
    s.receive .linux .prepareRemoval = (s, some .removalPrepared) := by
  show s.prepareRemovalLinux = _
  unfold prepareRemovalLinux
  rw [if_pos h]

/-- On Windows the request needs the permit that the prepared removal holds. -/
theorem prepare_again_windows (hs : OnePermit s) (h : s.removal = true) :
    s.receive .windows .prepareRemoval = (s, some removalRefused) := by
  have hnone : s.tryAcquire = none := tryAcquire_eq_none.mpr (hs.exclusive.1 h).2.1
  show s.prepareRemovalWindows = _
  unfold prepareRemovalWindows
  rw [hnone]

/-- What holds between two messages that are handled one after the other. -/
def Quiet (s : Service) : Prop := OnePermit s ∧ s.preparing = 0

theorem prepare_eq (h : s.preparing = 0) (hslot : s.removal = false) :
    s.handle .windows .prepareRemoval = s.handle .linux .prepareRemoval := by
  show (match s.prepareRemovalWindows with
    | (t, some reply) => (t, some reply)
    | (t, none) => t.storeRemoval) = s.prepareRemovalLinux
  unfold prepareRemovalWindows prepareRemovalLinux
  rw [if_neg (by rw [hslot]; nofun)]
  cases ht : s.tryAcquire with
  | none => rfl
  | some t =>
    obtain ⟨-, rfl⟩ := tryAcquire_some ht
    simp [storeRemoval, slotPermits, h, hslot]

theorem serve_eq (hs : Quiet s) {i : Item}
    (h : i = .message .prepareRemoval → s.removal = false) :
    s.serve .windows i = s.serve .linux i := by
  cases i with
  | message m =>
    cases m with
    | prepareRemoval => exact prepare_eq hs.2 (h rfl)
    | operation => rfl
    | abortRemoval => rfl
    | cancelRun runId => rfl
    | status => rfl
  | finish result => rfl
  | server a => rfl

theorem serve_quiet (hs : Quiet s) (i : Item) : Quiet (s.serve .linux i).1 := by
  obtain ⟨hone, hpreparing⟩ := hs
  cases i with
  | message m =>
    refine ⟨step_permit .linux hone (.message m), ?_⟩
    cases m with
    | operation =>
      show s.operation.1.preparing = 0
      unfold operation
      split
      · exact hpreparing
      · rename_i t ht
        obtain ⟨-, rfl⟩ := tryAcquire_some ht
        exact hpreparing
    | prepareRemoval =>
      show s.prepareRemovalLinux.1.preparing = 0
      unfold prepareRemovalLinux
      split
      · exact hpreparing
      · split
        · exact hpreparing
        · rename_i t ht
          obtain ⟨-, rfl⟩ := tryAcquire_some ht
          exact hpreparing
    | abortRemoval => exact hpreparing
    | cancelRun runId => exact hpreparing
    | status => exact hpreparing
  | finish result =>
    refine ⟨finish_permit hone result, ?_⟩
    show (s.finish result).1.preparing = 0
    unfold finish
    split <;> exact hpreparing
  | server a => exact ⟨hone, hpreparing⟩

/-- The replies of the two services to one sequence of messages are the same
just when no removal is prepared again while it is prepared. -/
theorem replies_eq_iff (hs : Quiet s) (items : List Item) :
    s.replies .windows items = s.replies .linux items ↔ PreparedOnce s items := by
  induction items generalizing s with
  | nil => exact ⟨fun _ => trivial, fun _ => rfl⟩
  | cons i is ih =>
    unfold replies PreparedOnce
    by_cases hi : i = .message .prepareRemoval → s.removal = false
    · have hserve := serve_eq hs hi
      rw [hserve, List.cons.injEq, ih (serve_quiet hs i)]
      exact and_congr (iff_of_true rfl hi) Iff.rfl
    · refine iff_of_false (fun heq => hi fun hm => ?_) fun h => hi h.1
      subst hm
      cases hslot : s.removal with
      | false => rfl
      | true =>
        have hw : s.handle .windows .prepareRemoval = (s, some removalRefused) := by
          have hrec : s.prepareRemovalWindows = (s, some removalRefused) :=
            prepare_again_windows hs.1 hslot
          show (match s.prepareRemovalWindows with
            | (t, some reply) => (t, some reply)
            | (t, none) => t.storeRemoval) = _
          rw [hrec]
        have hl : s.handle .linux .prepareRemoval = (s, some .removalPrepared) :=
          prepare_again_linux hslot
        have hhead : (s.handle .windows .prepareRemoval).2 = (s.handle .linux .prepareRemoval).2 :=
          (List.cons.inj heq).1
        rw [hw, hl] at hhead
        cases hhead

/-- On both services and after any interleaving there is one permit, an
operation and a prepared removal exclude each other, and an aborted removal
lets the next operation in.  Linux answers a repeated request as before, Windows
refuses it; so the two give the same replies to the same messages just when no
removal is prepared again while it is prepared. -/
theorem removal_handshake (p : Platform) (steps : List ServiceStep) (items : List Item) :
    OnePermit (run p steps) ∧
    ((run p steps).removal = true → (run p steps).operations = 0) ∧
    (0 < (run p steps).operations → (run p steps).removal = false ∧
      (run p steps).operations = 1) ∧
    ((run p steps).operations = 0 → (run p steps).preparing = 0 →
      (run p steps).abortRemoval.1.operation.2 = none ∧
        (run p steps).abortRemoval.1.operation.1.operations = 1) ∧
    ((run p steps).removal = true →
      (run p steps).receive p .prepareRemoval =
        (run p steps, some (match p with
          | .linux => .removalPrepared
          | .windows => removalRefused))) ∧
    (init.replies .windows items = init.replies .linux items ↔ init.PreparedOnce items) := by
  have h := run_permit p steps
  have hinit : Quiet init := ⟨rfl, rfl⟩
  refine ⟨h, fun hr => (h.exclusive.1 hr).1, h.exclusive.2, abort_admits h, ?_,
    replies_eq_iff hinit items⟩
  intro hr
  cases p with
  | linux => exact prepare_again_linux hr
  | windows => exact prepare_again_windows h hr

/-- A client prepares a removal and dies, and the next one cannot prepare it. -/
theorem prepare_again_refused :
    ¬ ∀ steps, (run .windows steps).removal = true →
      ((run .windows steps).receive .windows .prepareRemoval).2 = some .removalPrepared := by
  intro h
  have hagain := h [.message .prepareRemoval, .store] rfl
  cases hagain

end Service

end NetworkLantern.Helper
