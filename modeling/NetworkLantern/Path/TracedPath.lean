import NetworkLantern.Path.Attribution

/-!
# Traced paths

The hops of a trace: one for each hop limit, in order, up to the first that the target
answers (`traceScoped_told`); where every probe is answered in time, they are the path
(`traceScoped_path`).
-/

namespace NetworkLantern.Path.Native

open NetworkLantern Packet

section
variable {K : Type}

/-- The limits up to the first that reaches the target. -/
def uptoReached (reached : UInt8 → Bool) : List UInt8 → List UInt8
  | [] => []
  | ttl :: ttls => if reached ttl then [ttl] else ttl :: uptoReached reached ttls

/-! ## A loop that probes hop by hop -/

/-- The hops of a trace: `P` holds of every sample, and only the last one is a reply. -/
inductive Traced (P : UInt8 → Sample K → Prop) : List UInt8 → List (HopResult K) → Prop
  | stopped (ttls : List UInt8) : Traced P ttls []
  | reached {ttl : UInt8} {sample : Sample K} (hP : P ttl sample) (hreply : sample.status = .reply)
      (ttls : List UInt8) : Traced P (ttl :: ttls) [.ofSample ttl sample true]
  | passed {ttl : UInt8} {sample : Sample K} (hP : P ttl sample) (hreply : sample.status ≠ .reply)
      {ttls : List UInt8} {hops : List (HopResult K)} (hops_traced : Traced P ttls hops) :
      Traced P (ttl :: ttls) (.ofSample ttl sample false :: hops)

theorem traceLoop_traced {P : UInt8 → Sample K → Prop} {probe : UInt8 → Except ProbeError (Sample K)}
    (hprobe : ∀ ttl sample, probe ttl = .ok sample → P ttl sample) (cancelled : UInt8 → Bool)
    {ttls : List UInt8} : ∀ {hops found : List (HopResult K)},
    traceLoop probe cancelled hops ttls = .ok found → ∃ more, found = hops ++ more ∧ Traced P ttls more := by
  induction ttls with
  | nil =>
    intro hops found h
    cases h
    exact ⟨[], (List.append_nil _).symm, .stopped []⟩
  | cons ttl ttls ih =>
    intro hops found h
    have hstopped : ∀ {x : Except ProbeError (List (HopResult K))},
        x = (if hops.isEmpty then .error .cancelled else .ok hops) → x = .ok found →
        ∃ more, found = hops ++ more ∧ Traced P (ttl :: ttls) more := by
      intro x hx hfound
      rw [hx] at hfound
      split at hfound
      · cases hfound
      · cases hfound
        exact ⟨[], (List.append_nil _).symm, .stopped _⟩
    unfold traceLoop at h
    by_cases hcancelled : cancelled ttl = true
    · rw [if_pos hcancelled] at h
      exact hstopped rfl h
    · rw [if_neg hcancelled] at h
      cases hsample : probe ttl with
      | error e =>
        rw [hsample] at h
        cases e with
        | cancelled => exact hstopped rfl h
        | _ => cases h
      | ok sample =>
        rw [hsample] at h
        dsimp only at h
        have hP := hprobe ttl sample hsample
        by_cases hreply : sample.status = .reply
        · rw [if_pos (decide_eq_true hreply)] at h
          cases h
          refine ⟨[.ofSample ttl sample true], ?_, .reached hP hreply ttls⟩
          rw [decide_eq_true hreply]
        · have hnot : ¬ decide (sample.status = .reply) = true := by
            rw [decide_eq_true_eq]
            exact hreply
          rw [if_neg hnot] at h
          obtain ⟨more, rfl, hmore⟩ := ih h
          refine ⟨.ofSample ttl sample false :: more, ?_, .passed hP hreply hmore⟩
          rw [decide_eq_false hreply, List.append_assoc]
          rfl

/-! A trace of one hop: the target replies to the first probe. -/

def oneReply : Bytes := EchoReply.bytes .ipv4 ⟨0, 0, 7, 1, []⟩

def oneTarget : IpAddr := .v4 (routerAddress 1)

theorem echoReply_answers (sequence : UInt16) (target : IpAddr) : ∃ p : Probe, p.family = .ipv4 ∧
    p.key = ProbeKey.icmp .ipv4 7 sequence ∧ Answer p ⟨target, .echoReply, 0⟩
      (EchoReply.bytes .ipv4 ⟨0, 0, 7, sequence, []⟩) (some target) := by
  refine ⟨.echoIpv4 routerHeader rfl 7 sequence [], rfl, rfl, ?_⟩
  exact @Answer.reply (.echoIpv4 routerHeader rfl 7 sequence []) ⟨0, 0, 7, sequence, []⟩ rfl
    (.bare .ipv4) target (some target) rfl

theorem bringing_hears {sent : ProbeKey → Response → Prop} (limit : Option UInt8) (packet : Bytes)
    (queued : QueuedError → Prop)
    (hsent : sent (ProbeKey.icmp .ipv4 7 1) ⟨oneTarget, .echoReply, 0⟩) :
    ∀ turn ∈ (bringing oneReply (some oneTarget)).turns limit packet, turn.Hears .ipv4 sent queued := by
  obtain ⟨p, hfamily, hkey, hanswer⟩ := echoReply_answers 1 oneTarget
  intro turn hturn
  obtain rfl := List.mem_singleton.mp hturn
  refine ⟨?_, nofun⟩
  intro bytes source elapsedMs hmem
  cases List.mem_singleton.mp hmem
  refine .answer p ⟨oneTarget, .echoReply, 0⟩ hfamily hanswer ?_
  rw [hkey]
  exact hsent

/-- A probe that nothing stops, and that is answered before its deadline, by a packet or through
the error queue of a socket that has one; what is sent for its key is one response. -/
structure EchoSystem.Answers (s : EchoSystem K) (target : IpAddr) (used : UInt16) (queues : Bool)
    (sequence : UInt16) (ttl : Option UInt8) (parameters : RoundParameters) (response : Response)
    (packet : Bytes) : Prop where
  options : s.setOptions (familyOf target) ttl parameters = .ok ()
  build : s.buildEcho target used sequence (List.replicate parameters.payloadSize 0x4c) = .ok packet
  cancelled : s.cancelled = false
  sent : s.sendTo ttl packet = .ok .sent
  passes : ∀ turn ∈ s.turns ttl packet, (turn.poll queues true).Passes
  heard : ∀ turn ∈ s.turns ttl packet, ∀ x ∈ turn.packets, ∃ bytes source elapsedMs,
    x = .ok (bytes, source, elapsedMs) ∧
      Heard (familyOf target)
        (fun key r => key = ProbeKey.icmp (familyOf target) used sequence → r = response) bytes source
  queued : queues = true → ∀ turn ∈ s.turns ttl packet, ∀ x ∈ turn.queue, ∃ e elapsedMs,
    x = .ok (e, elapsedMs) ∧
      (quotedEchoSequence e.payload (familyOf target) = some sequence → e.Tells (· = response))
  answered : ∃ turn ∈ s.turns ttl packet,
    (∃ bytes source elapsedMs, .ok (bytes, source, elapsedMs) ∈ turn.packets ∧ ∃ p : Probe,
      p.family = familyOf target ∧ p.key = ProbeKey.icmp (familyOf target) used sequence ∧
        Answer p response bytes source) ∨
    queues = true ∧ ∃ e elapsedMs, .ok (e, elapsedMs) ∈ turn.queue ∧ e.kind ≠ none ∧
      quotedEchoSequence e.payload (familyOf target) = some sequence

section
variable {s : EchoSystem K} {target : IpAddr} {used sequence : UInt16} {queues : Bool}
  {ttl : Option UInt8} {parameters : RoundParameters} {response : Response} {packet : Bytes}

/-- All that a turn reads has come in whole. -/
theorem EchoSystem.Answers.arrived (h : s.Answers target used queues sequence ttl parameters response packet)
    {turn : Turn K} (hturn : turn ∈ s.turns ttl packet) :
    ∀ x ∈ (turn.poll queues true).arrived, ∃ a, x = .ok a := by
  intro x hx
  rcases List.mem_append.mp hx with hx | hx
  · cases hqueues : queues with
    | false =>
      rw [hqueues] at hx
      cases hx
    | true =>
      rw [hqueues] at hx
      obtain ⟨y, hy, rfl⟩ := List.mem_map.mp hx
      obtain ⟨e, elapsedMs, rfl, -⟩ := h.queued hqueues turn hturn y hy
      exact ⟨_, rfl⟩
  · obtain ⟨y, hy, rfl⟩ := List.mem_map.mp hx
    obtain ⟨bytes, source, elapsedMs, rfl, -⟩ := h.heard turn hturn y hy
    exact ⟨_, rfl⟩

/-- The answer comes in, and it is taken. -/
theorem EchoSystem.Answers.arrives (h : s.Answers target used queues sequence ttl parameters response packet) :
    ∃ turn ∈ s.turns ttl packet, ∃ a, .ok a ∈ (turn.poll queues true).arrived ∧
      acceptEcho (ProbeKey.icmp (familyOf target) used sequence) sequence a ≠ none := by
  obtain ⟨turn, hturn, ⟨bytes, source, elapsedMs, hmem, p, hfamily, hkey, hanswer⟩ |
    ⟨hqueues, e, elapsedMs, hmem, hkind, hquoted⟩⟩ := h.answered
  · refine ⟨turn, hturn, .packet bytes source elapsedMs, ?_, ?_⟩
    · exact List.mem_append_right _ (List.mem_map.mpr ⟨_, hmem, rfl⟩)
    · obtain ⟨r, hr, -⟩ := (readResponse_answer hanswer
        (.echo (familyOf target) used sequence) hfamily).1 hkey.symm
      show (readResponse _ bytes source).map _ ≠ none
      rw [hr]
      exact Option.some_ne_none _
  · refine ⟨turn, hturn, .queued e elapsedMs, ?_, ?_⟩
    · rw [hqueues]
      exact List.mem_append_left _ (List.mem_map.mpr ⟨_, hmem, rfl⟩)
    · obtain ⟨kind, hsome⟩ := Option.ne_none_iff_exists'.mp hkind
      have hfamily : (ProbeKey.icmp (familyOf target) used sequence).family = familyOf target := rfl
      unfold acceptEcho
      dsimp only
      rw [hsome]
      dsimp only
      rw [hfamily, if_pos hquoted]
      exact Option.some_ne_none _

/-- What is taken is the response. -/
theorem EchoSystem.Answers.taken (h : s.Answers target used queues sequence ttl parameters response packet)
    {turn : Turn K} (hturn : turn ∈ s.turns ttl packet) {a : Arrival K}
    (ha : .ok a ∈ (turn.poll queues true).arrived) {sample : Sample K}
    (hfound : acceptEcho (ProbeKey.icmp (familyOf target) used sequence) sequence a = some sample) :
    sample.hop = some response.who ∧ sample.status = statusOf response.kind := by
  rcases Turn.mem_arrived ha with ⟨e, elapsedMs, rfl, hqueues, hmem⟩ |
    ⟨bytes, source, elapsedMs, rfl, -, hmem⟩
  · obtain ⟨e', elapsedMs', heq, htells⟩ := h.queued hqueues turn hturn _ hmem
    cases heq
    unfold acceptEcho at hfound
    dsimp only at hfound
    cases hkind : e.kind with
    | none =>
      rw [hkind] at hfound
      cases hfound
    | some kind =>
      rw [hkind] at hfound
      dsimp only at hfound
      split at hfound
      · rename_i hquoted
        cases hfound
        obtain ⟨who, hwho, rfl⟩ := htells hquoted kind hkind
        exact ⟨hwho, rfl⟩
      · cases hfound
  · obtain ⟨bytes', source', elapsedMs', heq, hheard⟩ := h.heard turn hturn _ hmem
    cases heq
    obtain ⟨r, hr, rfl⟩ := Option.map_eq_some_iff.mp hfound
    obtain ⟨response', hresponse, hkind, -, hsource⟩ := readResponse_heard
      (.echo (familyOf target) used sequence) hheard hr
    obtain rfl := hresponse rfl
    exact ⟨hsource, congrArg statusOf hkind⟩

theorem probeOnce_answered {identifier : UInt16} (hsends : s.SendsWith identifier used queues)
    (h : s.Answers target used queues sequence ttl parameters response packet) :
    ∃ sample, probeOnce s target identifier sequence ttl parameters = .ok sample ∧
      sample.hop = some response.who ∧ sample.status = statusOf response.kind := by
  obtain ⟨kind, hsocket, hprepare, rfl⟩ := hsends
  have hbegin : beginProbe s.cancelled (s.sendTo ttl packet) = .ok .sent := by
    rw [h.cancelled, h.sent]
    rfl
  have hpasses : ∀ q ∈ (s.turns ttl packet).map (Turn.poll (s.queues kind) true),
      q.Passes ∧ ∀ x ∈ q.arrived, ∃ a, x = .ok a := by
    intro q hq
    obtain ⟨turn, hturn, rfl⟩ := List.mem_map.mp hq
    exact ⟨h.passes turn hturn, h.arrived hturn⟩
  obtain ⟨turn, hturn, a, harrived, haccept⟩ := h.arrives
  obtain ⟨sample, hwait⟩ := @waitFor_of_arrival _ _ _
    (acceptEcho (ProbeKey.icmp (familyOf target) used sequence) sequence) s.cancelledLate _
    hpasses _ (List.mem_map_of_mem hturn) _ harrived haccept
  refine ⟨sample, ?_, ?_⟩
  · unfold probeOnce
    dsimp only
    rw [hsocket, except_ok_bind, hprepare, except_ok_bind, h.options, except_ok_bind, h.build,
      except_ok_bind, hbegin, except_ok_bind]
    dsimp only
    rw [hwait]
    rfl
  · obtain ⟨poll, hpoll, b, hb, hfound⟩ := exists_of_answered hwait
    obtain ⟨turn', hturn', rfl⟩ := List.mem_map.mp hpoll
    exact h.taken hturn' hb hfound

end

/-! A path of two hops, over ping sockets of Linux: the error of the router comes through the
queue, the reply of the target as a packet. -/

def farTarget : IpAddr := .v4 (routerAddress 2)

/-- Time exceeded, with the start of the echo request. -/
def routerError : QueuedError where
  origin := 2
  icmpType := 11
  code := 0
  info := 0
  offender := some oneTarget
  destination := some (farTarget, 0)
  payload := [8, 0, 0, 0, 0, 0, 0, 1]

def farReply : Bytes := EchoReply.bytes .ipv4 ⟨0, 0, 7, 2, []⟩

def pingTurn (limit : UInt8) : Turn Unit :=
  if limit = 1 then ⟨false, .ok (), false, [.ok (routerError, ())], []⟩
  else ⟨false, .ok (), false, [], [.ok (farReply, some farTarget, ())]⟩

def pinging (limit : UInt8) : EchoSystem Unit :=
  { bringing farReply (some farTarget) with
    socket := .ok .datagram, localPort := .ok 7, turns := fun _ _ => [pingTurn limit] }

def pingResponse (limit : UInt8) : Response :=
  if limit = 1 then ⟨oneTarget, .timeExceeded, 0⟩ else ⟨farTarget, .echoReply, 0⟩

theorem routerError_tells : routerError.Tells (· = pingResponse 1) := by
  intro kind hkind
  cases hkind
  exact ⟨oneTarget, rfl, rfl⟩

theorem pinging_router : (pinging 1).Answers farTarget 7 true 1 (some 1) ⟨0, false, 2, none⟩
    (pingResponse 1) (buildIcmpv4Echo 7 1 []) := by
  refine ⟨rfl, rfl, rfl, rfl, ?_, ?_, ?_, ?_⟩
  · intro turn hturn
    obtain rfl := List.mem_singleton.mp hturn
    exact ⟨rfl, rfl, rfl⟩
  · intro turn hturn x hx
    obtain rfl := List.mem_singleton.mp hturn
    cases hx
  · intro _ turn hturn x hx
    obtain rfl := List.mem_singleton.mp hturn
    obtain rfl := List.mem_singleton.mp hx
    exact ⟨routerError, (), rfl, fun _ => routerError_tells⟩
  · exact ⟨_, List.mem_singleton_self _, Or.inr ⟨rfl, routerError, (), List.mem_singleton_self _,
      by decide, rfl⟩⟩

theorem pinging_target : (pinging 2).Answers farTarget 7 true 2 (some 2) ⟨0, false, 2, none⟩
    (pingResponse 2) (buildIcmpv4Echo 7 2 []) := by
  obtain ⟨p, hfamily, hkey, hanswer⟩ := echoReply_answers 2 farTarget
  refine ⟨rfl, rfl, rfl, rfl, ?_, ?_, ?_, ?_⟩
  · intro turn hturn
    obtain rfl := List.mem_singleton.mp hturn
    exact ⟨rfl, rfl, rfl⟩
  · intro turn hturn x hx
    obtain rfl := List.mem_singleton.mp hturn
    obtain rfl := List.mem_singleton.mp hx
    exact ⟨farReply, some farTarget, (), rfl, .answer p _ hfamily hanswer fun _ => rfl⟩
  · intro _ turn hturn x hx
    obtain rfl := List.mem_singleton.mp hturn
    cases hx
  · exact ⟨_, List.mem_singleton_self _, Or.inl ⟨farReply, some farTarget, (),
      List.mem_singleton_self _, p, hfamily, hkey, hanswer⟩⟩

/-- What a trace tells of a hop. -/
def HopResult.view (hop : HopResult K) : UInt8 × Option IpAddr × Bool :=
  (hop.ttl, hop.address, hop.reachedDestination)

theorem traceLoop_path {probe : UInt8 → Except ProbeError (Sample K)} {cancelled : UInt8 → Bool}
    {who : UInt8 → IpAddr} {reached : UInt8 → Bool} {ttls : List UInt8}
    (h : ∀ ttl ∈ ttls, cancelled ttl = false ∧ ∃ sample, probe ttl = .ok sample ∧
      sample.hop = some (who ttl) ∧ decide (sample.status = .reply) = reached ttl) :
    ∀ hops, ∃ more, traceLoop probe cancelled hops ttls = .ok (hops ++ more) ∧
      more.map HopResult.view =
        (uptoReached reached ttls).map fun ttl => (ttl, some (who ttl), reached ttl) := by
  induction ttls with
  | nil =>
    intro hops
    exact ⟨[], congrArg Except.ok (List.append_nil hops).symm, rfl⟩
  | cons ttl ttls ih =>
    intro hops
    obtain ⟨⟨hcancelled, sample, hsample, hhop, hreply⟩, hrest⟩ := List.forall_mem_cons.mp h
    have hview : (HopResult.ofSample ttl sample (reached ttl)).view = (ttl, some (who ttl), reached ttl) := by
      unfold HopResult.view HopResult.ofSample
      rw [hhop]
    unfold traceLoop uptoReached
    rw [hcancelled, if_neg Bool.false_ne_true, hsample]
    dsimp only
    rw [hreply]
    by_cases hreached : reached ttl = true
    · rw [if_pos hreached, if_pos hreached]
      refine ⟨[.ofSample ttl sample (reached ttl)], rfl, ?_⟩
      rw [List.map_cons, List.map_cons, hview]
      rfl
    · rw [if_neg hreached, if_neg hreached]
      obtain ⟨more, hmore, hviews⟩ := ih hrest (hops ++ [.ofSample ttl sample (reached ttl)])
      refine ⟨.ofSample ttl sample (reached ttl) :: more, ?_, ?_⟩
      · rw [hmore, List.append_assoc]
        rfl
      · rw [List.map_cons, List.map_cons, hview, hviews]

theorem statusOf_eq_reply {kind : IcmpKind} : statusOf kind = .reply ↔ kind = .echoReply := by
  cases kind <;> decide

/-- Where every probe is answered in time, whatever else the sockets bring, a trace is the path: at
each hop limit who answered, up to the first echo reply. -/
theorem traceScoped_path {systems : UInt8 → EchoSystem K} {cancelled : UInt8 → Bool} {target : IpAddr}
    {identifier : UInt16} {firstTtl : UInt8} {parameters : RoundParameters}
    {responses : UInt8 → Response} (hpos : firstTtl ≠ 0) (hle : firstTtl ≤ parameters.maxHops)
    (h : ∀ ttl ∈ ttlRange firstTtl parameters.maxHops, cancelled ttl = false ∧
      ∃ used queues packet, (systems ttl).SendsWith identifier used queues ∧
        (systems ttl).Answers target used queues ttl.toUInt16 (some ttl) parameters (responses ttl)
          packet) :
    ∃ hops, traceScoped systems cancelled target identifier firstTtl parameters = .ok hops ∧
      hops.map HopResult.view =
        (uptoReached (fun ttl => decide ((responses ttl).kind = .echoReply))
          (ttlRange firstTtl parameters.maxHops)).map fun ttl =>
            (ttl, some (responses ttl).who, decide ((responses ttl).kind = .echoReply)) := by
  have hchecks : (firstTtl == 0 || decide (parameters.maxHops < firstTtl)) = false := by
    rw [Bool.or_eq_false_iff, beq_eq_false_iff_ne, decide_eq_false_iff_not]
    exact ⟨hpos, UInt8.not_lt.mpr hle⟩
  have hprobes : ∀ ttl ∈ ttlRange firstTtl parameters.maxHops, cancelled ttl = false ∧
      ∃ sample, probeOnce (systems ttl) target identifier ttl.toUInt16 (some ttl) parameters = .ok sample ∧
        sample.hop = some (responses ttl).who ∧
        decide (sample.status = .reply) = decide ((responses ttl).kind = .echoReply) := by
    intro ttl hmem
    obtain ⟨hcancelled, used, queues, packet, hsends, hanswers⟩ := h ttl hmem
    obtain ⟨sample, hsample, hhop, hstatus⟩ := probeOnce_answered hsends hanswers
    refine ⟨hcancelled, sample, hsample, hhop, ?_⟩
    rw [hstatus]
    exact decide_eq_decide.mpr statusOf_eq_reply
  obtain ⟨hops, hloop, hview⟩ := traceLoop_path hprobes []
  refine ⟨hops, ?_, hview⟩
  unfold traceScoped
  rw [hchecks, refuse_false, except_ok_bind]
  exact hloop

/-- The router at the first hop limit, the target at the second. -/
theorem traceScoped_path_two :
    ∃ hops, traceScoped pinging (fun _ => false) farTarget 9 1 ⟨0, false, 2, none⟩ = .ok hops ∧
      hops.map HopResult.view = [(1, some oneTarget, false), (2, some farTarget, true)] :=
  @traceScoped_path Unit pinging (fun _ => false) farTarget 9 1 ⟨0, false, 2, none⟩ pingResponse
    (by decide) (by decide) fun ttl hmem => by
      have hlimits : ttl ∈ [(1 : UInt8), 2] := hmem
      rcases List.mem_cons.mp hlimits with rfl | hlast
      · exact ⟨rfl, 7, true, _, ⟨.datagram, rfl, rfl, rfl⟩, pinging_router⟩
      · obtain rfl := List.mem_singleton.mp hlast
        exact ⟨rfl, 7, true, _, ⟨.datagram, rfl, rfl, rfl⟩, pinging_target⟩

end

end NetworkLantern.Path.Native
