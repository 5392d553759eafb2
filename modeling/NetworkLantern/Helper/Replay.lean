import NetworkLantern.Lib.Runs
import NetworkLantern.Lib.Table
import NetworkLantern.Helper.Protocol

/-!
# Replay protection

The server verifies a frame, and then its replay cache accepts the nonce.  The
window of `verify` is read off the wall clock in milliseconds, the lifetime of a
nonce off the monotonic clock.

    no_replay     no frame is accepted twice, and the cache stays within bounds
    replayed      a frame that is accepted twice, in the last millisecond
-/

namespace NetworkLantern.Helper

open NetworkLantern

/-! ## The code -/

/-- Oldest instant still inside the nonce window. -/
def expiryCutoff (now : Nat) : Option Nat := if now < NONCE_TTL then none else some (now - NONCE_TTL)

structure ReplayCache where
  entries : Table Block Nat
  order : List Block

namespace ReplayCache

def default : ReplayCache := ⟨∅, []⟩

/-- The loop that drops what expired from the front of the queue. -/
def evict (cutoff : Nat) (entries : Table Block Nat) : List Block → ReplayCache
  | [] => ⟨entries, []⟩
  | key :: order =>
    match entries.get? key with
    | some seen =>
      if seen < cutoff then evict cutoff (entries.remove key) order else ⟨entries, key :: order⟩
    | none => ⟨entries, key :: order⟩

/-- The two readings of the clock are those of the cutoff and of the entry. -/
def accept (cache : ReplayCache) (nonce : Block) (cutoffNow seenNow : Nat) :
    Except HelperError Unit × ReplayCache :=
  let cache :=
    match expiryCutoff cutoffNow with
    | some cutoff => evict cutoff cache.entries cache.order
    | none => cache
  if (cache.entries.get? nonce).isSome then (.error .replay, cache)
  else if cache.entries.size ≥ MAX_NONCES then
    (.error (.protocol "replay cache capacity exhausted"), cache)
  else (.ok (), ⟨cache.entries.put nonce seenNow, cache.order ++ [nonce]⟩)

end ReplayCache

/-- The readings of the two clocks when the run starts. -/
structure Clocks where
  wall : Int
  monotonic : Nat

/-- A frame, with the times of its `verify` and of the two clock readings of its
`accept`, in nanoseconds since the run started. -/
structure Delivery where
  frame : SignedFrame
  verifiedAt : Nat
  cutoffAt : Nat
  seenAt : Nat

structure Receiver where
  cache : ReplayCache
  accepted : List SignedFrame
  /-- The end of the last section under the lock of the cache. -/
  clock : Nat

namespace Receiver

def init : Receiver := ⟨ReplayCache.default, [], 0⟩

variable (hmac : Hmac) (clocks : Clocks)

/-- `handle`, as far as the nonce. -/
def receive (s : Receiver) (d : Delivery) : Receiver :=
  match verify hmac d.frame (clocks.wall + d.verifiedAt) with
  | .error _ => { s with clock := d.seenAt }
  | .ok () =>
    let (result, cache) := s.cache.accept d.frame.nonce (clocks.monotonic + d.cutoffAt)
      (clocks.monotonic + d.seenAt)
    match result with
    | .ok () => { cache, accepted := d.frame :: s.accepted, clock := d.seenAt }
    | .error _ => { s with cache, clock := d.seenAt }

/-- The sections of `accept` come one after the other, each at most `gap` after
the `verify` of its frame. -/
def step (gap : Nat) (s : Receiver) (d : Delivery) : Option Receiver :=
  if s.clock ≤ d.cutoffAt ∧ d.cutoffAt ≤ d.seenAt ∧ d.verifiedAt ≤ d.cutoffAt ∧
      d.cutoffAt ≤ d.verifiedAt + gap then
    some (s.receive hmac clocks d)
  else none

end Receiver

/-! ## The cache -/

namespace ReplayCache

/-- Map and queue hold the same nonces, none of them twice, within the capacity. -/
structure WellFormed (c : ReplayCache) : Prop where
  same : c.order.Perm c.entries.keys
  size : c.entries.size ≤ MAX_NONCES

theorem WellFormed.nodup {c : ReplayCache} (h : c.WellFormed) : c.order.Nodup :=
  h.same.nodup_iff.mpr c.entries.keys_nodup

theorem WellFormed.length_le {c : ReplayCache} (h : c.WellFormed) : c.order.length ≤ MAX_NONCES := by
  rw [h.same.length_eq, ← Table.size_eq_keys]
  exact h.size

theorem default_wellFormed : default.WellFormed := ⟨List.Perm.nil, Nat.zero_le _⟩

/-- What eviction keeps, and that it drops only what expired. -/
structure Evicts (cutoff : Nat) (c c' : ReplayCache) : Prop where
  wellFormed : c.WellFormed → c'.WellFormed
  sub : ∀ n t, t ∈ c'.entries.get? n → t ∈ c.entries.get? n
  dropped : ∀ n t, t ∈ c.entries.get? n → t ∈ c'.entries.get? n ∨ t < cutoff

theorem Evicts.refl (cutoff : Nat) (c : ReplayCache) : Evicts cutoff c c :=
  ⟨id, fun _ _ h => h, fun _ _ h => .inl h⟩

theorem evict_evicts (cutoff : Nat) (entries : Table Block Nat) (order : List Block) :
    Evicts cutoff ⟨entries, order⟩ (evict cutoff entries order) := by
  induction order generalizing entries with
  | nil => exact Evicts.refl cutoff _
  | cons key order ih =>
    unfold evict
    cases hget : entries.get? key with
    | none => exact Evicts.refl cutoff _
    | some seen =>
      dsimp only
      by_cases hlt : seen < cutoff
      · rw [if_pos hlt]
        obtain ⟨hwf, hsub, hdropped⟩ := ih (entries.remove key)
        refine ⟨fun h => hwf ⟨?_, (Table.size_remove_le _ _).trans h.size⟩, fun n t ht => ?_,
          fun n t ht => ?_⟩
        · exact Table.keys_remove_perm h.same
        · exact (Table.mem_get?_remove.mp (hsub n t ht)).2
        · by_cases hn : n = key
          · subst hn
            have hseen : seen = t := Option.some.inj (hget.symm.trans ht)
            exact .inr (hseen ▸ hlt)
          · exact hdropped n t (Table.mem_get?_remove.mpr ⟨hn, ht⟩)
      · rw [if_neg hlt]
        exact Evicts.refl cutoff _

/-- What `accept` does: it evicts, and then adds the nonce if it is not there. -/
theorem accept_cases (c : ReplayCache) (nonce : Block) (cutoffNow seenNow : Nat) :
    ∃ c', Evicts (cutoffNow - NONCE_TTL) c c' ∧
      ((∃ e, c.accept nonce cutoffNow seenNow = (.error e, c')) ∨
        c.accept nonce cutoffNow seenNow =
            (.ok (), ⟨c'.entries.put nonce seenNow, c'.order ++ [nonce]⟩) ∧
          c'.entries.get? nonce = none ∧ c'.entries.size < MAX_NONCES) := by
  have hdecide : ∀ c', Evicts (cutoffNow - NONCE_TTL) c c' →
      (match expiryCutoff cutoffNow with
        | some cutoff => evict cutoff c.entries c.order
        | none => c) = c' →
      ((∃ e, c.accept nonce cutoffNow seenNow = (.error e, c')) ∨
        c.accept nonce cutoffNow seenNow =
            (.ok (), ⟨c'.entries.put nonce seenNow, c'.order ++ [nonce]⟩) ∧
          c'.entries.get? nonce = none ∧ c'.entries.size < MAX_NONCES) := by
    intro c' _ hc'
    unfold accept
    rw [hc']
    cases hget : c'.entries.get? nonce with
    | some t => exact .inl ⟨.replay, by simp [hget]⟩
    | none =>
      by_cases hsize : c'.entries.size ≥ MAX_NONCES
      · exact .inl ⟨.protocol "replay cache capacity exhausted", by simp [hget, hsize]⟩
      · exact .inr ⟨by simp [hget, hsize], rfl, Nat.lt_of_not_le hsize⟩
  unfold expiryCutoff at hdecide
  by_cases hyoung : cutoffNow < NONCE_TTL
  · rw [if_pos hyoung] at hdecide
    exact ⟨c, Evicts.refl _ c, hdecide c (Evicts.refl _ c) rfl⟩
  · rw [if_neg hyoung] at hdecide
    have hevicts := evict_evicts (cutoffNow - NONCE_TTL) c.entries c.order
    exact ⟨_, hevicts, hdecide _ hevicts rfl⟩

theorem WellFormed.push {c : ReplayCache} (h : c.WellFormed) {nonce : Block} (seen : Nat)
    (hnew : c.entries.get? nonce = none) (hsize : c.entries.size < MAX_NONCES) :
    WellFormed ⟨c.entries.put nonce seen, c.order ++ [nonce]⟩ := by
  refine ⟨?_, (Table.size_put_le _ _ _).trans hsize⟩
  show (c.order ++ [nonce]).Perm (c.entries.put nonce seen).keys
  rw [Table.keys_put_of_none hnew]
  exact (List.perm_append_singleton nonce c.order).trans (h.same.cons nonce)

end ReplayCache

/-! ## Runs -/

namespace Receiver

variable {hmac : Hmac} {clocks : Clocks} {gap : Nat} {s s' : Receiver} {d : Delivery}

/-- A frame that was accepted at time `t` holds its nonce, or expired. -/
def Held (clocks : Clocks) (s : Receiver) (f : SignedFrame) : Prop :=
  ∃ t, (clocks.monotonic + t ∈ s.cache.entries.get? f.nonce ∨ t + NONCE_TTL < s.clock) ∧
    f.issuedAtUnixMs.toInt ≤ (clocks.wall + t) / 1000000 + 30000

structure Inv (clocks : Clocks) (s : Receiver) : Prop where
  cache : s.cache.WellFormed
  nodup : s.accepted.Nodup
  held : ∀ f ∈ s.accepted, Held clocks s f

theorem init_inv : Inv clocks init where
  cache := ReplayCache.default_wellFormed
  nodup := List.nodup_nil
  held f hf := by cases hf

/-- The bound on the gap that the windows leave: with the wall clock read in
whole milliseconds it is one millisecond short of half a minute. -/
def MAX_GAP : Nat := 29999 * 1000000

/-- Evicting at the time of the next section keeps a frame held. -/
theorem Held.evict {f : SignedFrame} (h : Held clocks s f) {c' : ReplayCache} {at_ : Nat}
    (hclock : s.clock ≤ at_)
    (hev : ReplayCache.Evicts (clocks.monotonic + at_ - NONCE_TTL) s.cache c') :
    ∃ t, (clocks.monotonic + t ∈ c'.entries.get? f.nonce ∨ t + NONCE_TTL < at_) ∧
      f.issuedAtUnixMs.toInt ≤ (clocks.wall + t) / 1000000 + 30000 := by
  obtain ⟨t, ht, hissued⟩ := h
  refine ⟨t, ?_, hissued⟩
  rcases ht with hmem | hexpired
  · rcases hev.dropped _ _ hmem with hmem | hlt
    · exact .inl hmem
    · exact .inr (by omega)
  · exact .inr (by omega)

/-- A frame that expired before its next section no longer verifies in time. -/
theorem not_verified {t : Nat} (hexpired : t + NONCE_TTL < d.cutoffAt)
    (hgap : d.cutoffAt ≤ d.verifiedAt + MAX_GAP)
    (hissued : d.frame.issuedAtUnixMs.toInt ≤ (clocks.wall + t) / 1000000 + 30000) :
    verify hmac d.frame (clocks.wall + d.verifiedAt) ≠ .ok () := by
  intro hverify
  have hwindow := (verify_eq_ok hverify).1
  have hlate : t + 330001000000 ≤ d.verifiedAt := by
    unfold NONCE_TTL secs at hexpired
    unfold MAX_GAP at hgap
    omega
  omega

theorem step_inv (hs : Inv clocks s) (h : step hmac clocks MAX_GAP s d = some s') :
    Inv clocks s' := by
  unfold step at h
  split at h
  · rename_i htimes
    obtain ⟨hclock, hseen, hverified, hgap⟩ := htimes
    cases h
    unfold receive
    cases hverify : verify hmac d.frame (clocks.wall + d.verifiedAt) with
    | error e =>
      refine ⟨hs.cache, hs.nodup, fun f hf => ?_⟩
      obtain ⟨t, ht, hissued⟩ := hs.held f hf
      exact ⟨t, ht.imp_right fun hlt => by (show t + NONCE_TTL < d.seenAt; omega), hissued⟩
    | ok u =>
      obtain ⟨c', hev, hcase⟩ := ReplayCache.accept_cases s.cache d.frame.nonce
        (clocks.monotonic + d.cutoffAt) (clocks.monotonic + d.seenAt)
      have hwf := hev.wellFormed hs.cache
      have hheld : ∀ f ∈ s.accepted, ∃ t,
          (clocks.monotonic + t ∈ c'.entries.get? f.nonce ∨ t + NONCE_TTL < d.cutoffAt) ∧
            f.issuedAtUnixMs.toInt ≤ (clocks.wall + t) / 1000000 + 30000 :=
        fun f hf => (hs.held f hf).evict hclock hev
      rcases hcase with ⟨e, he⟩ | ⟨he, hnew, hsize⟩
      · dsimp only
        rw [he]
        refine ⟨hwf, hs.nodup, fun f hf => ?_⟩
        obtain ⟨t, ht, hissued⟩ := hheld f hf
        exact ⟨t, ht.imp_right fun hlt => by (show t + NONCE_TTL < d.seenAt; omega), hissued⟩
      · dsimp only
        rw [he]
        refine ⟨hwf.push _ hnew hsize, List.nodup_cons.mpr ⟨fun hmem => ?_, hs.nodup⟩, fun f hf => ?_⟩
        · -- its nonce is gone, so it expired, and then it would not have verified
          obtain ⟨t, ht, hissued⟩ := hheld _ hmem
          rcases ht with hmem | hexpired
          · rw [hnew] at hmem
            cases hmem
          · exact not_verified hexpired hgap hissued hverify
        · rcases List.mem_cons.mp hf with rfl | hf
          · refine ⟨d.seenAt, .inl (Table.get?_put_self _ _ _), ?_⟩
            have hwindow := (verify_eq_ok hverify).2
            omega
          · obtain ⟨t, ht, hissued⟩ := hheld f hf
            refine ⟨t, ?_, hissued⟩
            rcases ht with hmem | hexpired
            · refine .inl (Table.mem_get?_put.mpr (.inr ⟨fun heq => ?_, hmem⟩))
              rw [heq, hnew] at hmem
              cases hmem
            · exact .inr (show t + NONCE_TTL < d.seenAt by omega)
  · cases h

/-- Over any frames whose sections of `accept` come at most 29.999 seconds after
their `verify`, no frame is accepted twice, and map and queue of the cache hold
the same nonces, none twice and never more than the capacity. -/
theorem no_replay {ds : List Delivery}
    (hrun : runSteps (step hmac clocks MAX_GAP) init ds = some s) :
    s.accepted.Nodup ∧ s.cache.order.Nodup ∧ s.cache.order.Perm s.cache.entries.keys ∧
      s.cache.entries.size ≤ MAX_NONCES ∧ s.cache.order.length ≤ MAX_NONCES := by
  have hs := run_invariant (fun _ _ _ hu h => step_inv hu h) init_inv hrun
  exact ⟨hs.nodup, hs.cache.nodup, hs.cache.same, hs.cache.size, hs.cache.length_le⟩

def zeroHmac : Hmac := fun _ => Vector.replicate 32 0

def epochClocks : Clocks := ⟨1000000000000000, 0⟩

/-- A frame issued half a minute ahead of the wall clock. -/
def earlyFrame : SignedFrame :=
  ⟨Vector.replicate 32 0, 1000030000, [], Vector.replicate 32 0⟩

/-- It is accepted, verifies again in the last millisecond of its validity, and
reaches the cache once its nonce has expired. -/
def replayed : List Delivery :=
  [⟨earlyFrame, 0, 0, 0⟩, ⟨earlyFrame, 330000999999, 360000000001, 360000000001⟩]

theorem accepted_twice :
    ¬ ∀ (hmac : Hmac) (clocks : Clocks) (ds : List Delivery) (s : Receiver),
      runSteps (step hmac clocks (secs 30 - 1)) init ds = some s → s.accepted.Nodup := by
  intro h
  have hnodup := h zeroHmac epochClocks replayed _ rfl
  have htwice : ¬ [earlyFrame, earlyFrame].Nodup := by simp
  exact htwice hnodup

/-- A frame that is sent twice within its window is accepted once. -/
theorem no_replay_duplicate :
    ∃ s, runSteps (step zeroHmac epochClocks MAX_GAP) init
        [⟨earlyFrame, 0, 5, 6⟩, ⟨earlyFrame, 3, 7, 7⟩] = some s ∧ s.accepted.Nodup ∧
      s.accepted = [earlyFrame] := by
  have hrun : runSteps (step zeroHmac epochClocks MAX_GAP) init
      [⟨earlyFrame, 0, 5, 6⟩, ⟨earlyFrame, 3, 7, 7⟩] =
        some ((init.receive zeroHmac epochClocks ⟨earlyFrame, 0, 5, 6⟩).receive zeroHmac epochClocks
          ⟨earlyFrame, 3, 7, 7⟩) := rfl
  exact ⟨_, hrun, (no_replay hrun).1, by decide⟩

end Receiver

end NetworkLantern.Helper
