import NetworkLantern.Lib.Checks
import NetworkLantern.Path.Cycles
import NetworkLantern.Path.ErrorText
import NetworkLantern.Path.HopAccumulator
import NetworkLantern.Path.Settings

/-!
# The diagnostics of a trace run

What a run puts into its list of errors, from the loop to the end of the name
lookups.  The texts about how the run ended take at most the 256 bytes that are
kept for them, so all of them are in the result (`error_bounding`).
-/

namespace NetworkLantern.Path

open NetworkLantern Checked

/-! ## Pushes -/

inductive Push
  /-- `extend_errors`. -/
  | extend (messages : List Str)
  /-- `errors.push`, of a terminal diagnostic. -/
  | terminal (message : Str)
deriving DecidableEq

namespace Push

/-- What is pushed, before any cut. -/
def messages : Push → List Str
  | extend messages => messages
  | terminal message => [message]

def terminals : Push → List Str
  | extend _ => []
  | terminal message => [message]

def apply (errors : List Str) : Push → List Str
  | extend messages => extendErrors errors messages
  | terminal message => errors ++ [message]

end Push

def messagesOf (pushes : List Push) : List Str := pushes.flatMap Push.messages

def terminalsOf (pushes : List Push) : List Str := pushes.flatMap Push.terminals

def errorsOf (pushes : List Push) : List Str := pushes.foldl Push.apply []

theorem errorsOf_concat (pushes : List Push) (p : Push) :
    errorsOf (pushes ++ [p]) = p.apply (errorsOf pushes) := List.foldl_concat _ _ _ _

theorem messagesOf_concat (pushes : List Push) (p : Push) :
    messagesOf (pushes ++ [p]) = messagesOf pushes ++ p.messages := by
  simp [messagesOf]

theorem terminalsOf_append (pushes more : List Push) :
    terminalsOf (pushes ++ more) = terminalsOf pushes ++ terminalsOf more := List.flatMap_append

theorem terminalsOf_concat (pushes : List Push) (p : Push) :
    terminalsOf (pushes ++ [p]) = terminalsOf pushes ++ p.terminals := by
  simp [terminalsOf]

/-- Only terminal diagnostics go beyond the limit. -/
theorem byteTotal_errorsOf_le (pushes : List Push) :
    byteTotal (errorsOf pushes) ≤ EXTEND_LIMIT + byteTotal (terminalsOf pushes) := by
  induction pushes using List.reverseRecOn with
  | nil => exact Nat.zero_le _
  | append_singleton pushes p ih =>
    rw [errorsOf_concat, terminalsOf_concat, byteTotal_append]
    cases p with
    | extend messages =>
      have hle := byteTotal_extendErrors_le (errorsOf pushes) messages
      show byteTotal (extendErrors (errorsOf pushes) messages) ≤ _
      omega
    | terminal message =>
      show byteTotal (errorsOf pushes ++ [message]) ≤
        EXTEND_LIMIT + (byteTotal (terminalsOf pushes) + byteTotal [message])
      rw [byteTotal_append]
      omega

theorem terminalsOf_sublist (pushes : List Push) :
    (terminalsOf pushes).Sublist (errorsOf pushes) := by
  induction pushes using List.reverseRecOn with
  | nil => exact .slnil
  | append_singleton pushes p ih =>
    rw [errorsOf_concat, terminalsOf_concat]
    cases p with
    | extend messages =>
      exact (List.append_nil _).symm ▸ ih.trans (List.sublist_append_left _ _)
    | terminal message => exact ih.append_right [message]

theorem sublistForall₂_append {errors messages : List Str}
    (h : List.SublistForall₂ CutOf errors messages) (more : List Str) :
    List.SublistForall₂ CutOf (errors ++ more) (messages ++ more) := by
  obtain ⟨kept, hcut, hsub⟩ := List.sublistForall₂_iff.mp h
  exact List.sublistForall₂_iff.mpr
    ⟨kept ++ more, List.rel_append hcut (List.forall₂_refl more), hsub.append_right more⟩

/-- The errors are cuts of what was pushed, in order. -/
theorem errorsOf_cut (pushes : List Push) :
    List.SublistForall₂ CutOf (errorsOf pushes) (messagesOf pushes) := by
  induction pushes using List.reverseRecOn with
  | nil => exact .nil
  | append_singleton pushes p ih =>
    rw [errorsOf_concat, messagesOf_concat]
    have hmore := sublistForall₂_append ih p.messages
    cases p with
    | extend messages => exact IsTrans.trans _ _ _ (extendErrors_cut _ _) hmore
    | terminal message => exact hmore

/-- Terminal diagnostics that fit the reserve are in the result, in full and in order. -/
theorem terminalsOf_normalizeErrors {pushes : List Push}
    (hreserve : byteTotal (terminalsOf pushes) ≤ 256) (hne : ∀ m ∈ terminalsOf pushes, m ≠ []) :
    (terminalsOf pushes).Sublist (normalizeErrors (errorsOf pushes)) := by
  have htotal := byteTotal_errorsOf_le pushes
  have hlimit : EXTEND_LIMIT + 256 = MAX_ERROR_BYTES := rfl
  rw [normalizeErrors_of_le (by omega)]
  have hfilter := (terminalsOf_sublist pushes).filter fun m => decide (m ≠ [])
  rwa [List.filter_eq_self.mpr fun m hm => decide_eq_true (hne m hm)] at hfilter

/-! ## The loop -/

/-- A loop, and what it pushed so far. -/
structure DiagnosedLoop (Sample : Type) where
  loop : TraceLoop Sample
  pushes : List Push

def probeFailure (t : ProbeTask) (e : ProbeError) : Str :=
  "cycle ".toList ++ decimal (t.cycle + 1) ++ " TTL ".toList ++ decimal t.ttl ++ ": ".toList ++
    e.display

def everyProbeFailed (e : ProbeError) : Str :=
  "stopping after ".toList ++ decimal MAX_FAILED_CYCLES ++
    " cycles in which every probe failed: ".toList ++ e.display

def timedOutAfter (runTimeout : Duration) : Str :=
  "trace run timed out after ".toList ++ debugDuration runTimeout

namespace DiagnosedLoop

section
variable {Sample : Type} (settings : TraceSettings) (settle : Bool → Sample → Sample)
  (joinError : ProbeTask → Str)

def start (now : Nat) : DiagnosedLoop Sample := ⟨.start settings now, []⟩

/-- What joining a task pushes.  The loop tells of a failure that stops it; the drain does not tell
of a cancellation. -/
def joinPushes (l l' : TraceLoop Sample) (t : ProbeTask) : TaskResult Sample → List Push
  | .hop _ => []
  | .panicked => [.extend ["trace probe task failed: ".toList ++ joinError t]]
  | .failed e =>
    if l.phase = .running then
      .extend [probeFailure t e] ::
        if e.fatal = false ∧ l'.phase = .draining then [.extend [everyProbeFailed e]] else []
    else if e = .cancelled then []
    else [.extend [probeFailure t e]]

/-- What a step from `l` to `l'` pushes; `joinError` is the text of a task that panicked. -/
def pushesOf (l l' : TraceLoop Sample) : LoopEvent Sample → List Push
  | .cancelled => [.terminal "trace run cancelled"]
  | .timedOut => [.terminal (timedOutAfter settings.runTimeout)]
  | .graceExpired => []
  | .join i result =>
    match l.tasks[i]? with
    | none => []
    | some t => joinPushes joinError l l' t result
  | .dispatch _ =>
    if MAX_OUTSTANDING_PROBES ≤ l.tasks.length then
      [.terminal "Native probe concurrency limit reached; remaining probes were not sent"]
    else []
  | .shutdownExpired => [.terminal "Native probe shutdown deadline exceeded"]
  | .drained => []

def step (d : DiagnosedLoop Sample) (event : LoopEvent Sample) : Option (DiagnosedLoop Sample) :=
  (d.loop.step settings settle event).map fun l' =>
    ⟨l', d.pushes ++ pushesOf settings joinError d.loop l' event⟩

end

end DiagnosedLoop

/-! ## The end of a run -/

section
variable {K : Type}

/-- A probe that the end of the grace period interrupted was not answered in time. -/
def settleSample (normalGraceExpired : Bool) (sample : Sample K) : Sample K :=
  if normalGraceExpired ∧ sample.status = .cancelled then
    { sample with status := .timeout, elapsedMs := none, hop := none, nextHopMtu := none, mpls := [] }
  else sample

/-- How the name lookups end. -/
inductive Enrichment
  | cancelled
  | timedOut
  /-- With the names of addresses; `cancelled` says whether the run was cancelled by then. -/
  | finished (names : Packet.IpAddr → Option (Option Str × Option Str)) (errors : List Str)
    (cancelled : Bool)

/-- `matches!(item.probe_type, TraceType::As4 | TraceType::As6)`. -/
def TracePlanItem.needsAsn (item : TracePlanItem) : Bool :=
  item.probeType = .as4 ∨ item.probeType = .as6

def TraceSettings.resolvers (settings : TraceSettings) (systemResolvers : List Str) : List Str :=
  match settings.dnsResolver with
  | some resolver => [resolver]
  | none => systemResolvers

structure RunEnd (K : Type) where
  hops : List (TraceHop K)
  status : TraceRunStatus
  enrichmentComplete : Bool
  enrichmentErrorCount : Nat
  pushes : List Push

structure TraceRunResult (K : Type) where
  hops : List (TraceHop K)
  status : TraceRunStatus
  completedCycles : Nat
  enrichmentComplete : Bool
  errors : List Str

def TraceHop.named (names : Packet.IpAddr → Option (Option Str × Option Str)) (hop : TraceHop K) :
    TraceHop K :=
  match hop.address.bind names with
  | some (hostname, asn) => { hop with hostname, asn }
  | none => hop

namespace RunEnd

def push (e : RunEnd K) (p : Push) : RunEnd K := { e with pushes := e.pushes ++ [p] }

/-- A hop that left something out says so. -/
def limit (e : RunEnd K) (limited : Bool) : RunEnd K :=
  if limited then
    e.push (.terminal ("Responder/MPLS retention reached the 64 entries per hop limit; ".toList ++
      "aggregate statistics include all samples".toList))
  else e

/-- The name lookups, of a run that completed. -/
def enrich (runTimeout : Duration) (needsAsn : Bool) (resolvers : List Str) (e : RunEnd K)
    (outcome : Enrichment) : RunEnd K :=
  if e.status ≠ .completed then e
  else if resolvers.isEmpty then
    if needsAsn then
      e.push (.terminal "ASN DNS enrichment: no DNS resolver was configured or discoverable")
    else { e with enrichmentComplete := true }
  else
    match outcome with
    | .cancelled => { e.push (.terminal "DNS enrichment cancelled") with status := .cancelled }
    | .timedOut =>
      { e.push (.terminal (timedOutAfter runTimeout ++ " during DNS enrichment".toList)) with
        status := .timedOut }
    | .finished names errors cancelled =>
      let e := { e with hops := e.hops.map (TraceHop.named names) }
      let e :=
        if cancelled then
          { e.push (.terminal "DNS enrichment cancelled") with status := .cancelled }
        else { e with enrichmentComplete := errors.isEmpty }
      let before := (errorsOf e.pushes).length
      let e := e.push (.extend errors)
      { e with enrichmentErrorCount := (errorsOf e.pushes).length - before }

/-- A run without a response says so. -/
def answered (e : RunEnd K) : RunEnd K :=
  if e.status = .completed ∧
      (e.hops.isEmpty ∨ e.hops.all fun hop => hop.statistics.received = 0) then
    e.push (.terminal "no trace probe responses were received")
  else e

def result (e : RunEnd K) (needsAsn : Bool) (completedCycles : Nat) :
    Checked Empty (TraceRunResult K) := do
  let errors := errorsOf e.pushes
  let statusErrors ←
    if needsAsn then pure errors.length else sub errors.length e.enrichmentErrorCount
  return {
    hops := e.hops
    status := if e.status = .completed ∧ 0 < statusErrors then .partialFailure else e.status
    completedCycles
    enrichmentComplete := e.enrichmentComplete
    errors := normalizeErrors errors }

end RunEnd

section
variable [Zero K] [Add K] [Sub K] [Mul K] [Div K] [NatCast K] [Min K] [Max K]

/-- The hops, and whether one of them left something out. -/
def TraceLoop.hops (sqrt : K → K) (firstTtl : Nat) (l : TraceLoop (Sample K)) :
    Checked Empty (Bool × List (TraceHop K)) := do
  let accumulators ← l.samplesByHop.mapM HopAccumulator.recordAll
  let hops ← (accumulators.zipIdx.drop firstTtl).mapM fun (a, ttl) => a.finish sqrt (.ofNat ttl)
  return (accumulators.any (·.limited), hops.filterMap id)

/-- What follows the drain, up to the count of the errors. -/
def endRun (sqrt : K → K) (item : TracePlanItem) (settings : TraceSettings)
    (systemResolvers : List Str) (outcome : Enrichment) (d : DiagnosedLoop (Sample K)) :
    Checked Empty (RunEnd K) := do
  let configured := item.round.apply settings
  let (limited, hops) ← d.loop.hops sqrt configured.firstTtl.toNat
  let e : RunEnd K := ⟨hops, d.loop.status, false, 0, d.pushes⟩
  return ((e.limit limited).enrich configured.runTimeout item.needsAsn
    (settings.resolvers systemResolvers) outcome).answered

end

end

/-! ## What the loop pushes -/

namespace TraceLoop

section
variable {Sample : Type} {settle : Bool → Sample → Sample} {l l' : TraceLoop Sample}

theorem finishProbe_kept {t : ProbeTask} {r : TraceLoop Sample × Bool}
    (h : l.finishProbe t = .ok r) : r.1.status = l.status ∧ r.1.phase = l.phase := by
  unfold finishProbe at h
  obtain ⟨count, -, h⟩ := except_bind_ok.mp h
  obtain ⟨left, -, h⟩ := except_bind_ok.mp h
  obtain ⟨pending, -, h⟩ := except_bind_ok.mp h
  split at h
  · obtain ⟨completed, -, h⟩ := except_bind_ok.mp h
    cases h
    exact ⟨rfl, rfl⟩
  · cases h
    exact ⟨rfl, rfl⟩

theorem recordSamples_kept {ttl : Nat} {samples : List Sample}
    (h : l.recordSamples ttl samples = .ok l') : l'.status = l.status ∧ l'.phase = l.phase := by
  unfold recordSamples at h
  split at h
  · cases h
    exact ⟨rfl, rfl⟩
  · obtain ⟨recorded, -, h⟩ := except_bind_ok.mp h
    obtain ⟨all, -, h⟩ := except_bind_ok.mp h
    cases h
    exact ⟨rfl, rfl⟩

/-- The drain goes on, and does not change how the run ended. -/
theorem joinDraining_kept {t : ProbeTask} {result : TaskResult Sample}
    (h : l.joinDraining settle t result = .ok l') :
    l'.status = l.status ∧ l'.phase = l.phase := by
  cases result with
  | panicked =>
    cases h
    exact ⟨rfl, rfl⟩
  | hop hop =>
    obtain ⟨r, hr, h⟩ := except_bind_ok.mp h
    obtain ⟨hstatus, hphase⟩ := finishProbe_kept hr
    obtain ⟨hstatus', hphase'⟩ := recordSamples_kept h
    exact ⟨hstatus'.trans hstatus, hphase'.trans hphase⟩
  | failed e =>
    obtain ⟨r, hr, h⟩ := except_bind_ok.mp h
    cases h
    exact finishProbe_kept hr

end

end TraceLoop

namespace DiagnosedLoop

section
variable {Sample : Type} {settings : TraceSettings} {settle : Bool → Sample → Sample}
  {joinError : ProbeTask → Str} {d d' : DiagnosedLoop Sample}

/-- What the terminal diagnostics take, by how far the run is. -/
structure Reserved (d : DiagnosedLoop Sample) : Prop where
  running : d.loop.phase = .running → terminalsOf d.pushes = []
  draining : d.loop.phase = .draining → byteTotal (terminalsOf d.pushes) ≤ 70 ∧
    (d.loop.status = .completed → terminalsOf d.pushes = [])
  done : d.loop.phase = .done → byteTotal (terminalsOf d.pushes) ≤ 109 ∧
    (d.loop.status = .completed → byteTotal (terminalsOf d.pushes) ≤ 39)
  ne_nil : ∀ m ∈ terminalsOf d.pushes, m ≠ []

theorem reserved_of_nil (h : terminalsOf d.pushes = []) : Reserved d where
  running _ := h
  draining _ := ⟨by rw [h]; exact Nat.zero_le _, fun _ => h⟩
  done _ := ⟨by rw [h]; exact Nat.zero_le _, fun _ => by rw [h]; exact Nat.zero_le _⟩
  ne_nil m hm := by
    rw [h] at hm
    cases hm

theorem reserved_start (settings : TraceSettings) (now : Nat) :
    Reserved (start settings now : DiagnosedLoop Sample) := reserved_of_nil rfl

theorem terminalsOf_joinPushes (l l' : TraceLoop Sample) (t : ProbeTask)
    (result : TaskResult Sample) : terminalsOf (joinPushes joinError l l' t result) = [] := by
  cases result with
  | hop hop => rfl
  | panicked => rfl
  | failed e =>
    simp only [joinPushes]
    split
    · split <;> rfl
    · split <;> rfl

/-- A run that a terminal diagnostic stops has no other so far. -/
theorem Reserved.stop (h : Reserved d) (hrun : d.loop.phase = .running) {l' : TraceLoop Sample}
    {message : Str} (hphase : l'.phase = .draining) (hstatus : l'.status ≠ .completed)
    (hlen : message.byteLen ≤ 70) (hne : message ≠ []) :
    Reserved ⟨l', d.pushes ++ [.terminal message]⟩ := by
  have hterminals : terminalsOf (d.pushes ++ [.terminal message]) = [message] := by
    rw [terminalsOf_concat, h.running hrun]
    rfl
  refine
    { running := fun hp => ?_
      draining := fun _ => ⟨?_, fun hs => absurd hs hstatus⟩
      done := fun hp => ?_
      ne_nil := ?_ }
  · rw [hphase] at hp
    cases hp
  · rwa [hterminals]
  · rw [hphase] at hp
    cases hp
  · rw [hterminals]
    exact fun m hm => List.mem_singleton.mp hm ▸ hne

/-- A step that pushes no terminal diagnostic, while the run goes on. -/
theorem Reserved.quiet (h : Reserved d) (hrun : d.loop.phase = .running) {pushes : List Push}
    (hpushes : terminalsOf pushes = []) (l' : TraceLoop Sample) :
    Reserved ⟨l', d.pushes ++ pushes⟩ :=
  reserved_of_nil (by rw [terminalsOf_append, h.running hrun, hpushes]; rfl)

/-- A step of the drain. -/
theorem Reserved.drain (h : Reserved d) (hdrain : d.loop.phase = .draining) {pushes : List Push}
    (hpushes : terminalsOf pushes = []) {l' : TraceLoop Sample}
    (hstatus : l'.status = d.loop.status) (hphase : l'.phase ≠ .running) :
    Reserved ⟨l', d.pushes ++ pushes⟩ := by
  obtain ⟨hle, hnil⟩ := h.draining hdrain
  have hterminals : terminalsOf (d.pushes ++ pushes) = terminalsOf d.pushes := by
    rw [terminalsOf_append, hpushes, List.append_nil]
  refine
    { running := fun hp => absurd hp hphase
      draining := fun _ => ?_
      done := fun _ => ?_
      ne_nil := ?_ }
  · rw [hterminals]
    exact ⟨hle, fun hs => hnil (hstatus ▸ hs)⟩
  · rw [hterminals]
    refine ⟨by omega, fun hs => ?_⟩
    rw [hnil (hstatus ▸ hs)]
    exact Nat.zero_le _
  · rw [hterminals]
    exact h.ne_nil

/-- The drain gives up. -/
theorem Reserved.giveUp (h : Reserved d) (hdrain : d.loop.phase = .draining) {message : Str}
    (hlen : message.byteLen = 39) {l' : TraceLoop Sample} (hstatus : l'.status = d.loop.status)
    (hphase : l'.phase = .done) : Reserved ⟨l', d.pushes ++ [.terminal message]⟩ := by
  obtain ⟨hle, hnil⟩ := h.draining hdrain
  have htotal : byteTotal (terminalsOf (d.pushes ++ [.terminal message])) =
      byteTotal (terminalsOf d.pushes) + 39 := by
    rw [terminalsOf_concat, byteTotal_append, ← hlen]
    rfl
  refine
    { running := fun hp => ?_
      draining := fun hp => ?_
      done := fun _ => ⟨htotal.trans_le (Nat.add_le_add_right hle 39), fun hs => ?_⟩
      ne_nil := fun m hm => ?_ }
  · rw [hphase] at hp
    cases hp
  · rw [hphase] at hp
    cases hp
  · rw [htotal, hnil (hstatus ▸ hs)]
    exact Nat.le_refl _
  · rw [terminalsOf_concat] at hm
    rcases List.mem_append.mp hm with hm | hm
    · exact h.ne_nil m hm
    · rw [List.mem_singleton.mp hm]
      rintro rfl
      cases hlen

theorem byteLen_timedOutAfter_le {d : Duration} (h : d ≤ fromSecs 86400) :
    (timedOutAfter d).byteLen ≤ 42 := by
  have htext : Str.byteLen "trace run timed out after ".toList = 26 := by decide
  have hsum : (timedOutAfter d).byteLen = 26 + (debugDuration d).byteLen :=
    (Str.byteLen_append _ _).trans (congrArg (· + (debugDuration d).byteLen) htext)
  exact hsum.trans_le (Nat.add_le_add_left (byteLen_debugDuration_le h) 26)

theorem timedOutAfter_ne_nil (d : Duration) : timedOutAfter d ≠ [] := nofun

theorem land_status_phase (l joined : TraceLoop Sample) (x : Checked Empty (TraceLoop Sample))
    (hkept : ∀ l', x = .ok l' → l'.status = joined.status ∧ l'.phase = joined.phase)
    (hstatus : joined.status = l.status) (hphase : joined.phase ≠ .running) :
    (l.land x).status = l.status ∧ (l.land x).phase ≠ .running := by
  cases x with
  | ok l' =>
    obtain ⟨hs, hp⟩ := hkept l' rfl
    refine ⟨hs.trans hstatus, ?_⟩
    show l'.phase ≠ .running
    rwa [hp]
  | error e => exact ⟨rfl, nofun⟩

/-- Every step keeps to the reserve. -/
theorem Reserved.step (h : Reserved d) (htimeout : settings.runTimeout ≤ fromSecs 86400)
    {event : LoopEvent Sample} (hstep : d.step settings settle joinError event = some d') :
    Reserved d' := by
  obtain ⟨l', hl', rfl⟩ := Option.map_eq_some_iff.mp hstep
  cases event with
  | cancelled =>
    obtain ⟨hrun, ht⟩ := Option.ite_none_right_eq_some.mp hl'
    cases ht
    exact h.stop hrun rfl nofun (by decide) nofun
  | timedOut =>
    obtain ⟨hrun, ht⟩ := Option.ite_none_right_eq_some.mp hl'
    cases ht
    exact h.stop hrun rfl nofun ((byteLen_timedOutAfter_le htimeout).trans (by decide))
      (timedOutAfter_ne_nil _)
  | graceExpired =>
    obtain ⟨⟨hrun, -⟩, ht⟩ := Option.ite_none_right_eq_some.mp hl'
    cases ht
    exact h.quiet hrun rfl _
  | join i result =>
    dsimp only [TraceLoop.step] at hl'
    cases ht : d.loop.tasks[i]? with
    | none =>
      rw [ht] at hl'
      cases hl'
    | some t =>
      rw [ht] at hl'
      dsimp only at hl'
      simp only [pushesOf, ht]
      by_cases hrun : d.loop.phase = .running
      · exact h.quiet hrun (terminalsOf_joinPushes _ _ _ _) _
      · rw [if_neg hrun] at hl'
        obtain ⟨hdrain, ht⟩ := Option.ite_none_right_eq_some.mp hl'
        cases ht
        have hkept := land_status_phase d.loop { d.loop with tasks := d.loop.tasks.eraseIdx i }
          (TraceLoop.joinDraining settle _ t result)
          (fun l' => TraceLoop.joinDraining_kept) rfl hrun
        exact h.drain hdrain (terminalsOf_joinPushes _ _ _ _) hkept.1 hkept.2
  | dispatch now =>
    obtain ⟨⟨hrun, -⟩, ht⟩ := Option.ite_none_right_eq_some.mp hl'
    cases ht
    dsimp only [pushesOf]
    by_cases hfull : MAX_OUTSTANDING_PROBES ≤ d.loop.tasks.length
    · rw [if_pos hfull, TraceLoop.dispatch, if_pos hfull]
      exact h.stop hrun rfl nofun (by decide) nofun
    · rw [if_neg hfull]
      exact h.quiet hrun rfl _
  | shutdownExpired =>
    obtain ⟨⟨hdrain, -⟩, ht⟩ := Option.ite_none_right_eq_some.mp hl'
    cases ht
    exact h.giveUp hdrain (by decide) rfl rfl
  | drained =>
    obtain ⟨⟨hdrain, -⟩, ht⟩ := Option.ite_none_right_eq_some.mp hl'
    cases ht
    exact h.drain hdrain rfl rfl nofun

end

end DiagnosedLoop

/-! ## What the end pushes -/

/-- The terminal diagnostics of some pushes take at most `n` bytes. -/
structure Affords (n : Nat) (pushes : List Push) : Prop where
  le : byteTotal (terminalsOf pushes) ≤ n
  ne_nil : ∀ m ∈ terminalsOf pushes, m ≠ []

namespace Affords

variable {n k : Nat} {pushes more : List Push}

theorem none (h : terminalsOf pushes = []) : Affords n pushes :=
  ⟨by rw [h]; exact Nat.zero_le _, by rw [h]; exact nofun⟩

theorem one {message : Str} (h : terminalsOf pushes = [message]) (hlen : message.byteLen ≤ n)
    (hne : message ≠ []) : Affords n pushes :=
  ⟨by rwa [h], by rw [h]; exact fun m hm => List.mem_singleton.mp hm ▸ hne⟩

theorem append (h : Affords n pushes) (hmore : Affords k more) : Affords (n + k) (pushes ++ more) := by
  constructor
  · rw [terminalsOf_append, byteTotal_append]
    exact Nat.add_le_add h.le hmore.le
  · rw [terminalsOf_append]
    exact fun m hm => (List.mem_append.mp hm).elim (h.ne_nil m) (hmore.ne_nil m)

theorem mono (h : Affords n pushes) (hle : n ≤ k) : Affords k pushes := ⟨h.le.trans hle, h.ne_nil⟩

end Affords

namespace RunEnd

section
variable {K : Type}

theorem limit_pushes (e : RunEnd K) (limited : Bool) :
    ∃ more, (e.limit limited).pushes = e.pushes ++ more ∧ Affords 103 more := by
  cases limited with
  | true => exact ⟨_, rfl, .one rfl (by decide) nofun⟩
  | false => exact ⟨[], (List.append_nil _).symm, .none rfl⟩

theorem limit_status (e : RunEnd K) (limited : Bool) : (e.limit limited).status = e.status := by
  cases limited <;> rfl

theorem result_errors {e : RunEnd K} {needsAsn : Bool} {completedCycles : Nat}
    {result : TraceRunResult K} (h : e.result needsAsn completedCycles = .ok result) :
    result.errors = normalizeErrors (errorsOf e.pushes) := by
  simp only [RunEnd.result] at h
  split at h
  · obtain ⟨statusErrors, -, h⟩ := except_bind_ok.mp h
    cases h
    rfl
  · obtain ⟨statusErrors, -, h⟩ := except_bind_ok.mp h
    cases h
    rfl

/-- The lookups push one terminal diagnostic at most. -/
theorem enrich_pushes {runTimeout : Duration} (htimeout : runTimeout ≤ fromSecs 86400)
    (needsAsn : Bool) (resolvers : List Str) (e : RunEnd K) (outcome : Enrichment) :
    ∃ more, (e.enrich runTimeout needsAsn resolvers outcome).pushes = e.pushes ++ more ∧
      Affords 66 more := by
  unfold RunEnd.enrich
  split
  · exact ⟨[], (List.append_nil _).symm, .none rfl⟩
  split
  · split
    · exact ⟨_, rfl, .one rfl (by decide) nofun⟩
    · exact ⟨[], (List.append_nil _).symm, .none rfl⟩
  · cases outcome with
    | cancelled => exact ⟨_, rfl, .one rfl (by decide) nofun⟩
    | timedOut =>
      have hsuffix : Str.byteLen " during DNS enrichment".toList = 22 := by decide
      have hle := Nat.add_le_add (DiagnosedLoop.byteLen_timedOutAfter_le htimeout)
        (Nat.le_of_eq hsuffix)
      exact ⟨_, rfl, .one rfl (((Str.byteLen_append _ _).trans_le hle).trans (by decide)) nofun⟩
    | finished names errors cancelled =>
      cases cancelled with
      | true => exact ⟨[_, .extend errors], List.append_assoc _ _ _, .one rfl (by decide) nofun⟩
      | false => exact ⟨[.extend errors], rfl, .none rfl⟩

/-- Nothing follows a run that did not complete. -/
theorem enrich_of_ne {e : RunEnd K} (h : e.status ≠ .completed) (runTimeout : Duration)
    (needsAsn : Bool) (resolvers : List Str) (outcome : Enrichment) :
    (e.enrich runTimeout needsAsn resolvers outcome).answered = e := by
  have henrich : e.enrich runTimeout needsAsn resolvers outcome = e := if_pos h
  rw [henrich, answered, if_neg fun hs => h hs.1]

theorem answered_pushes (e : RunEnd K) :
    ∃ more, e.answered.pushes = e.pushes ++ more ∧ Affords 38 more := by
  unfold answered
  split
  · exact ⟨_, rfl, .one rfl (by decide) nofun⟩
  · exact ⟨[], (List.append_nil _).symm, .none rfl⟩

end

end RunEnd

section
variable {K : Type} [Zero K] [Add K] [Sub K] [Mul K] [Div K] [NatCast K] [Min K] [Max K]

/-- However the run ended, its terminal diagnostics fit the reserve. -/
theorem endRun_affords {sqrt : K → K} {item : TracePlanItem} {settings : TraceSettings}
    (htimeout : (item.round.apply settings).runTimeout ≤ fromSecs 86400)
    {systemResolvers : List Str} {outcome : Enrichment} {d : DiagnosedLoop (Sample K)}
    (hd : d.Reserved) (hdone : d.loop.phase = .done) {e : RunEnd K}
    (h : endRun sqrt item settings systemResolvers outcome d = .ok e) :
    Affords 256 e.pushes := by
  obtain ⟨⟨limited, hops⟩, -, h⟩ := except_bind_ok.mp h
  obtain ⟨hle, hcompleted⟩ := hd.done hdone
  cases h
  obtain ⟨kept, hkept, hkeptle⟩ := RunEnd.limit_pushes ⟨hops, d.loop.status, false, 0, d.pushes⟩
    limited
  have hstatus := RunEnd.limit_status ⟨hops, d.loop.status, false, 0, d.pushes⟩ limited
  by_cases hs : d.loop.status = .completed
  · obtain ⟨named, hnamed, hnamedle⟩ := RunEnd.enrich_pushes htimeout item.needsAsn
      (settings.resolvers systemResolvers) _ outcome
    obtain ⟨silent, hsilent, hsilentle⟩ := RunEnd.answered_pushes _
    rw [hsilent, hnamed, hkept]
    have hloop : Affords 39 d.pushes := ⟨hcompleted hs, hd.ne_nil⟩
    exact (((hloop.append hkeptle).append hnamedle).append hsilentle).mono (by decide)
  · rw [RunEnd.enrich_of_ne (hstatus ▸ hs), hkept]
    have hloop : Affords 109 d.pushes := ⟨hle, hd.ne_nil⟩
    exact (hloop.append hkeptle).mono (by decide)

theorem configure_runTimeout {item : TracePlanItem} {settings configured : TraceSettings}
    {cancelled : Bool} (h : configure item settings cancelled = .ok configured) :
    configured = item.round.apply settings ∧ configured.runTimeout ≤ fromSecs 86400 := by
  obtain ⟨_, -, h⟩ := except_bind_ok.mp h
  obtain ⟨_, -, h⟩ := except_bind_ok.mp h
  obtain ⟨_, hvalid, h⟩ := except_bind_ok.mp h
  cases h
  exact ⟨rfl, (TraceSettings.validateForType_eq_ok.mp hvalid).1.runTimeout.2⟩

/-- Whatever a run meets: messages are kept in order, in full as long as they fit and up to the
start of a character then, within the limits; normalizing twice is normalizing once; and the result
has every terminal diagnostic in full. -/
theorem error_bounding {sqrt : K → K} {item : TracePlanItem} {settings configured : TraceSettings}
    {cancelled : Bool} (hconfigure : configure item settings cancelled = .ok configured)
    {joinError : ProbeTask → Str} {now : Nat} {events : List (LoopEvent (Sample K))}
    {d : DiagnosedLoop (Sample K)}
    (hrun : runSteps (DiagnosedLoop.step configured settleSample joinError)
      (.start configured now) events = some d)
    (hdone : d.loop.phase = .done) {systemResolvers : List Str} {outcome : Enrichment}
    {e : RunEnd K} (hend : endRun sqrt item settings systemResolvers outcome d = .ok e)
    {result : TraceRunResult K}
    (hresult : e.result item.needsAsn d.loop.completedCycles = .ok result) :
    (∀ errors incoming, ∃ kept, extendErrors errors incoming = errors ++ kept ∧
      List.Forall₂ CutOf kept (incoming.take kept.length) ∧
      byteTotal (extendErrors errors incoming) ≤ max (byteTotal errors) EXTEND_LIMIT) ∧
    (∀ errors messages more, byteTotal errors + byteTotal messages ≤ EXTEND_LIMIT →
      (errors ++ messages).filter (· ≠ []) <+:
        (extendErrors errors (messages ++ more)).filter (· ≠ [])) ∧
    (∀ errors more, byteTotal errors ≤ MAX_ERROR_BYTES →
      errors.filter (· ≠ []) <+: normalizeErrors (errors ++ more)) ∧
    (∀ errors, List.SublistForall₂ CutOf (normalizeErrors errors) errors ∧
      byteTotal (normalizeErrors errors) ≤ MAX_ERROR_BYTES ∧
      normalizeErrors (normalizeErrors errors) = normalizeErrors errors) ∧
    (terminalsOf e.pushes).Sublist result.errors ∧
    List.SublistForall₂ CutOf result.errors (messagesOf e.pushes) ∧
    byteTotal result.errors ≤ MAX_ERROR_BYTES := by
  obtain ⟨rfl, htimeout⟩ := configure_runTimeout hconfigure
  have hreserved : d.Reserved :=
    run_invariant (fun _ _ _ hd hs => DiagnosedLoop.Reserved.step hd htimeout hs)
      (DiagnosedLoop.reserved_start _ now) hrun
  have haffords := endRun_affords htimeout hreserved hdone hend
  rw [RunEnd.result_errors hresult]
  refine ⟨fun errors incoming => ⟨_, rfl, retain_cut _ _ _, byteTotal_extendErrors_le _ _⟩,
    fun _ _ more hfit => extendErrors_prefix hfit more,
    fun _ more hfit => normalizeErrors_prefix hfit more,
    fun errors => ⟨normalizeErrors_cut _, byteTotal_normalizeErrors_le _,
      normalizeErrors_idempotent _⟩, ?_, ?_, byteTotal_normalizeErrors_le _⟩
  · exact terminalsOf_normalizeErrors haffords.le haffords.ne_nil
  · exact IsTrans.trans _ _ _ (normalizeErrors_cut _) (errorsOf_cut _)

end

/-- A run of which a probe fails, and which does not end in time after the user has cancelled it. -/
def cancelledItem : TracePlanItem := ⟨.standard, .icmp4, "localhost"⟩

def twoHops : TraceSettings := { TraceSettings.default with cycles := 2, maxHops := 2 }

def cancelledEvents : List (LoopEvent (Sample ℚ)) :=
  [.dispatch 100000000, .join 0 (.failed (.io "send" "no route to host")), .dispatch 200000000,
    .cancelled, .shutdownExpired]

theorem error_bounding_cancelled :
    ∃ d e result, runSteps (DiagnosedLoop.step twoHops settleSample fun _ => [])
        (.start twoHops 0) cancelledEvents = some d ∧
      endRun id cancelledItem twoHops [] .cancelled d = .ok e ∧
      e.result false d.loop.completedCycles = .ok result ∧
      terminalsOf e.pushes = ["trace run cancelled".toList,
        "Native probe shutdown deadline exceeded".toList] ∧
      (messagesOf e.pushes).length = 3 ∧ (terminalsOf e.pushes).Sublist result.errors := by
  refine ⟨_, _, _, by rfl, by rfl, by rfl, by rfl, by rfl, ?_⟩
  exact (@error_bounding ℚ _ _ _ _ _ _ _ _ id cancelledItem twoHops twoHops false rfl (fun _ => [])
    0 cancelledEvents _ rfl rfl [] .cancelled _ rfl _ rfl).2.2.2.2.1

end NetworkLantern.Path
