import NetworkLantern.Throughput.Conversation
import NetworkLantern.Throughput.Loops
import NetworkLantern.Throughput.ResultSound

/-!
# When a measurement passes

Where no phase is cut, a measurement passes against the servers that announce the expected
states in order and send one acceptable document, and against no others
(`runTestOnce_passes_iff`).
-/

namespace NetworkLantern.Throughput

open NetworkLantern Act

/-! ## A measurement of one second over one TCP stream -/

def tcpSpec : TestSpec where
  id := 1
  target := "127.0.0.1"
  port := 5201
  ipVersion := .ipv4
  protocol := .tcp
  direction := .tx
  dscp := .cs0
  tos := 0
  streams := 1
  tcpWindowBytes := none
  udpRateBps := none
  durationSecs := 1
  omitSecs := 0
  phase := .single

def tcpDocument : Json :=
  .ofFields [("streams", .array [.ofFields
    [("id", .ofNat 1), ("bytes", .ofNat 125000), ("start_time", .ofNat 0), ("end_time", .ofNat 1)]])]

/-- A reader that knows one document. -/
def readsOnly (document : Bytes) (value : Json) (bytes : Bytes) : Except Str Json :=
  if bytes = document then .ok value else .error "expected value at line 1 column 1"

theorem readsOnly_self (document : Bytes) (value : Json) :
    readsOnly document value document = .ok value := if_pos rfl

/-- A run whose clock stands before the epoch. -/
def unsent : SendRun where
  interval := 1
  omitEnd := 0
  endAt := 0
  origin := 0
  wall := none
  packet := []
  events := []
  ends _ _ := rfl

def tcpNet : Net where
  windows := false
  resolved := [.v4 ⟨[127, 0, 0, 1], rfl⟩]
  datagrams _ := []
  loops _ := ⟨[.moved 125000 true true], unsent, [], [], 1⟩
  finished streams := streams
  finished_perm streams := .refl streams
  fromSlice := readsOnly (@Json.render noFloatText tcpDocument).bytes tcpDocument
  elapsedMs := 1000

theorem tcp_built : (@buildResult noFloatText tcpSpec 1 1000 [outcome 1 true 125000 1] tcpDocument).isOk =
    true := by decide +kernel

theorem tcp_sizes :
    (@Json.render noFloatText (parameters tcpSpec UDP_BLOCK_SIZE_V4)).bytes.length ≤ 1048576 ∧
      (@Json.render noFloatText (clientResults [outcome 1 true 125000 1])).bytes.length ≤ 1048576 ∧
      (@Json.render noFloatText tcpDocument).bytes.length ≤ 1048576 := by decide +kernel

/-! ## Handshakes -/

/-- The server answers the handshake of a stream.  Where it is the sender, up to two datagrams
of the test may come first. -/
def Answered (reverse : Bool) (datagrams : List Bytes) : Prop :=
  ∃ early reply rest, datagrams = early ++ reply :: rest ∧ isConnectReply reply = true ∧
    (∀ datagram ∈ early, isConnectReply datagram = false ∧ 16 ≤ datagram.length) ∧
    early.length < if reverse then 3 else 1

namespace Iperf3Client

variable (c : Iperf3Client) (net : Net)

theorem awaitReply_ok {reverse : Bool} {turns : Nat} {datagrams : List Bytes} {l l' : Link Cut}
    (hturns : turns ≠ 0) (h : c.awaitReply reverse turns datagrams l = (.ok (), l')) :
    ∃ early reply rest, datagrams = early ++ reply :: rest ∧ isConnectReply reply = true ∧
      (∀ datagram ∈ early, isConnectReply datagram = false ∧ 16 ≤ datagram.length ∧ reverse = true) ∧
      early.length < turns := by
  induction turns generalizing datagrams l with
  | zero => exact absurd rfl hturns
  | succ turns ih =>
    obtain ⟨_, l1, -, h1⟩ := bind_ok.mp h
    cases datagrams with
    | nil => cases h1
    | cons datagram datagrams =>
      replace h1 : (if isConnectReply datagram then _ else _ : Talk Unit) l1 = (.ok (), l') := h1
      split at h1
      · rename_i hreply
        exact ⟨[], datagram, datagrams, rfl, hreply, by simp, Nat.succ_pos _⟩
      · rename_i hnone
        split at h1
        · cases h1
        · rename_i hgo
          simp only [Bool.or_eq_true, Bool.not_eq_true', decide_eq_true_eq, beq_iff_eq, not_or] at hgo
          obtain ⟨early, reply, rest, rfl, hreply, hearly, hlength⟩ := ih hgo.2 h1
          refine ⟨datagram :: early, reply, rest, rfl, hreply, ?_, by simpa using hlength⟩
          rw [List.forall_mem_cons]
          refine ⟨⟨Bool.eq_false_iff.mpr hnone, by omega, ?_⟩, hearly⟩
          simpa using hgo.1.1

theorem awaitReply_takes {reverse : Bool} {turns : Nat} {early rest : List Bytes} {reply : Bytes}
    (hreply : isConnectReply reply = true)
    (hearly : ∀ datagram ∈ early, isConnectReply datagram = false ∧ 16 ≤ datagram.length)
    (hreverse : early ≠ [] → reverse = true) (hlength : early.length < turns) :
    Takes (c.awaitReply reverse turns (early ++ reply :: rest)) () [] := by
  induction turns generalizing early with
  | zero => omega
  | succ turns ih =>
    refine Takes.skip (Takes.call _) ?_
    cases early with
    | nil =>
      show Takes (if isConnectReply reply then _ else _ : Talk Unit) _ _
      rw [if_pos hreply]
      exact Takes.pure ()
    | cons datagram early =>
      rw [List.forall_mem_cons] at hearly
      rw [List.length_cons] at hlength
      have hrest := ih hearly.2 (fun _ => hreverse (List.cons_ne_nil _ _)) (by omega)
      show Takes (if isConnectReply datagram then _ else _ : Talk Unit) _ _
      rw [if_neg (Bool.eq_false_iff.mp hearly.1.1), if_neg]
      · exact hrest
      rw [hreverse (List.cons_ne_nil _ _)]
      simp only [Bool.not_true, Bool.false_or, Bool.or_eq_true, decide_eq_true_eq, beq_iff_eq]
      omega

theorem udpHandshake_ok {reverse : Bool} {datagrams : List Bytes} {l l' : Link Cut}
    (h : c.udpHandshake reverse datagrams l = (.ok (), l')) : Answered reverse datagrams := by
  obtain ⟨_, l1, -, h1⟩ := bind_ok.mp h
  obtain ⟨early, reply, rest, hdatagrams, hreply, hearly, hlength⟩ :=
    c.awaitReply_ok (by split <;> omega) h1
  exact ⟨early, reply, rest, hdatagrams, hreply, fun d hd => ⟨(hearly d hd).1, (hearly d hd).2.1⟩,
    hlength⟩

theorem udpHandshake_takes {reverse : Bool} {datagrams : List Bytes}
    (h : Answered reverse datagrams) : Takes (c.udpHandshake reverse datagrams) () [] := by
  obtain ⟨early, reply, rest, rfl, hreply, hearly, hlength⟩ := h
  refine Takes.skip (Takes.call _) (c.awaitReply_takes hreply hearly (fun hne => ?_) hlength)
  cases reverse with
  | true => rfl
  | false => exact absurd (List.length_eq_zero_iff.mp (by simpa using hlength)) hne

theorem connectTcp_takes (tos : UInt8) (window : Option UInt32) (phase : Str) :
    Takes (c.connectTcp net tos window phase) () [] :=
  Takes.skip (Takes.call _) <| Takes.skip ((Takes.call _).when _) <|
    Takes.skip ((Takes.skip (Takes.call _) (Takes.call _)).when _) <|
      Takes.skip (Takes.call _) ((Takes.call _).when _)

theorem createStream_answered {spec : TestSpec} {sender : Bool} {index : Nat} {stream : DataStream}
    {l l' : Link Cut} (h : c.createStream net spec sender index l = (.ok stream, l'))
    (hudp : spec.protocol = .udp) : Answered (!sender) (net.datagrams index) := by
  unfold createStream at h
  rw [hudp] at h
  obtain ⟨_, _, -, h1⟩ := bind_ok.mp h
  obtain ⟨_, _, -, h2⟩ := bind_ok.mp h1
  obtain ⟨_, _, -, h3⟩ := bind_ok.mp h2
  obtain ⟨_, _, -, h4⟩ := bind_ok.mp h3
  obtain ⟨_, _, h5, -⟩ := bind_ok.mp h4
  exact c.udpHandshake_ok h5

theorem createStream_takes {spec : TestSpec} {sender : Bool} {index : Nat}
    (hconcrete : spec.protocol ≠ .both)
    (hanswered : spec.protocol = .udp → Answered (!sender) (net.datagrams index)) :
    Takes (c.createStream net spec sender index) ⟨decide (spec.protocol = .udp), sender⟩ [] := by
  unfold createStream
  cases hprotocol : spec.protocol with
  | tcp => exact Takes.skip (c.connectTcp_takes net _ _ _) (Takes.skip (Takes.call _) (Takes.pure _))
  | udp =>
    exact Takes.skip (Takes.call _) <| Takes.skip ((Takes.call _).when _) <|
      Takes.skip (Takes.call _) <| Takes.skip ((Takes.call _).when _) <|
        Takes.skip (c.udpHandshake_takes (hanswered hprotocol)) (Takes.pure _)
  | both => exact absurd hprotocol hconcrete

/-- The server answers the handshakes of all streams. -/
def Handshakes (spec : TestSpec) : Prop :=
  spec.protocol = .udp → ∀ a ∈ (senders spec).zipIdx, Answered (!a.1) (net.datagrams a.2)

theorem createStreams_handshakes {spec : TestSpec} {streams : List DataStream} {l l' : Link Cut}
    (h : c.createStreams net spec l = (.ok streams, l')) : Handshakes net spec := by
  intro hudp a ha
  have hall := (collect_ok (I := fun _ => True)
    (P := fun a _ => Answered (!a.1) (net.datagrams a.2) ∧ True)
    (fun _ _ _ _ _ _ hrun => ⟨trivial, c.createStream_answered net hrun hudp, trivial⟩) trivial h).2
  exact ((List.forall₂_and_left _ _).mp hall).1 a ha

theorem createStreams_takes {spec : TestSpec} (hconcrete : spec.protocol ≠ .both)
    (h : Handshakes net spec) : Takes (c.createStreams net spec) (dataStreams spec) [] := by
  have hstreams : (senders spec).zipIdx.map
      (fun a => (⟨decide (spec.protocol = .udp), a.1⟩ : DataStream)) = dataStreams spec := by
    have hsenders : (senders spec).zipIdx.map Prod.fst = senders spec := List.zipIdx_map_fst 0 _
    rw [dataStreams]
    conv_rhs => rw [← hsenders, List.map_map]
    rfl
  rw [← hstreams]
  exact Takes.collect fun a ha => c.createStream_takes net hconcrete fun hudp => h hudp a ha

/-! ## States and documents -/

theorem expectState_takes {expected : Int8} (h : expected ≠ ACCESS_DENIED ∧
    expected ≠ SERVER_TERMINATE ∧ expected ≠ SERVER_ERROR) :
    Takes (c.expectState expected) () [expected.toUInt8] := by
  have hstate : stateOf [expected.toUInt8] = expected := Int8.toInt8_toUInt8 expected
  show Takes _ _ ([expected.toUInt8] ++ [])
  refine Takes.bind (Takes.readExact _ rfl) ?_
  show Takes (if stateOf [expected.toUInt8] = ACCESS_DENIED then _ else _ : Talk Unit) _ _
  rw [hstate, if_neg h.1, if_neg h.2.1, if_neg h.2.2, if_pos rfl]
  exact Takes.pure ()

theorem read_takes (phase operation : Str) (bytes : Bytes) :
    Takes (c.read phase operation bytes.length) bytes bytes := Takes.readExact _ rfl

theorem readJson_takes {document : Bytes} {value : Json}
    (hlength : document.length ≤ c.maxControlJsonBytes.toNat)
    (hvalue : net.fromSlice document = .ok value) : Takes (c.readJson net) value (frame document) := by
  have hmaximum := c.maximum_le
  have hnat : (UInt32.ofNat document.length).toNat = document.length :=
    UInt32.toNat_ofNat_of_lt' (by show _ < 2 ^ 32; omega)
  have hfirst : UInt8.ofNat ((UInt32.ofNat document.length).toNat / 16777216) = 0 := by
    rw [hnat, Nat.div_eq_of_lt (by omega)]
    rfl
  have hheader := UdpSender.beValue_u32ToBe (.ofNat document.length)
  rw [hnat] at hheader
  rw [frame]
  unfold u32ToBe at hheader ⊢
  rw [hfirst] at hheader ⊢
  refine Takes.bind (u := [0]) (Takes.readExact _ rfl) ?_
  show Takes (if stateOf [0] = SERVER_ERROR then _ else _ : Talk Json) _ _
  rw [if_neg (by decide), if_neg (by decide)]
  refine Takes.bind (u := [_, _, _]) (Takes.readExact _ rfl) ?_
  rw [List.singleton_append, hheader]
  show Takes (if c.maxControlJsonBytes.toNat < document.length then _ else _ : Talk Json) _ _
  rw [if_neg (by omega)]
  have hlast : Takes (lift ((net.fromSlice document).mapError .invalidControlJson) : Talk Json) value [] :=
    Takes.lift (mapError_eq_ok.mpr hvalue)
  have h := Takes.bind (f := fun encoded => lift ((net.fromSlice encoded).mapError _))
    (c.read_takes "control JSON read" "control JSON read" document) hlast
  rwa [List.append_nil] at h

theorem resolve_takes {spec : TestSpec} {addresses : List Packet.IpAddr}
    (h : net.resolved.filter (matchesVersion spec.ipVersion) = addresses) (hne : addresses ≠ []) :
    Takes (c.resolve net spec) addresses [] := by
  refine Takes.skip (Takes.call _) ?_
  show Takes (if net.resolved.filter (matchesVersion spec.ipVersion) = [] then _ else _ : Talk _) _ _
  rw [h, if_neg hne]
  exact Takes.pure _

theorem connectControl_takes (spec : TestSpec) (last : Option TestFailure) (address : Packet.IpAddr)
    (addresses : List Packet.IpAddr) :
    Takes (c.connectControl net spec last (address :: addresses)) address [] := by
  have hattempt : Takes (attempt (c.connectTcp net 0 none "control connection"))
      (.ok () : Except TestFailure Unit) [] := by
    intro l rest hquiet hinbox
    obtain ⟨l1, h1, hquiet1, hinbox1⟩ := c.connectTcp_takes net 0 none "control connection" l rest
      hquiet hinbox
    exact ⟨l1, attempt_ok.mpr h1, hquiet1, hinbox1⟩
  exact Takes.skip hattempt (Takes.pure address)

variable [Json.FloatText]

theorem writeJson_takes {value : Json}
    (h : value.render.bytes.length ≤ c.maxControlJsonBytes.toNat) : Takes (c.writeJson value) () [] := by
  have hmaximum := c.maximum_le
  unfold writeJson
  show Takes (if _ then _ else _ : Talk Unit) _ _
  rw [if_neg (by omega)]
  exact Takes.skip (Takes.writeAll _ _) (Takes.writeAll _ _)

omit [Json.FloatText] in
theorem write_needs (phase : Str) (bytes : Bytes) :
    Needs (c.write phase bytes) fun _ taken => True ∧ taken = [] :=
  Needs.nothing (writeAll_inbox _ _) fun _ _ _ _ => trivial

theorem writeJson_needs (value : Json) : Needs (c.writeJson value) fun _ taken =>
    value.render.bytes.length ≤ c.maxControlJsonBytes.toNat ∧ taken = [] := by
  unfold writeJson
  intro l u l' h
  replace h : (if _ then _ else _ : Talk Unit) l = (.ok u, l') := h
  split at h
  · cases h
  · rename_i hle
    obtain ⟨taken, hinbox, _, _, _, ⟨-, rfl⟩, ⟨-, rfl⟩, rfl⟩ :=
      (c.write_needs _ _).bind (fun _ => c.write_needs _ _) l u l' h
    exact ⟨[], hinbox, by omega, rfl⟩

omit [Json.FloatText] in
theorem expectState_needs (expected : Int8) :
    Needs (c.expectState expected) fun _ taken => taken = [expected.toUInt8] :=
  fun _ _ _ h => ⟨_, (c.expectState_ok h).1, rfl⟩

omit [Json.FloatText] in
theorem readJson_needs : Needs (c.readJson net) fun value taken => ∃ document : Bytes,
    document.length ≤ c.maxControlJsonBytes.toNat ∧ net.fromSlice document = .ok value ∧
      taken = frame document := by
  intro l value l' h
  obtain ⟨document, hlength, hinbox, -, hvalue⟩ := c.readJson_ok net h
  exact ⟨_, hinbox, document, hlength, hvalue, rfl⟩

omit [Json.FloatText] in
theorem createStreams_needs (spec : TestSpec) : Needs (c.createStreams net spec) fun streams taken =>
    (streams = dataStreams spec ∧ Handshakes net spec) ∧ taken = [] :=
  (c.createStreams_silent net spec).needs fun _ _ _ h =>
    ⟨c.createStreams_ok net h, c.createStreams_handshakes net h⟩

/-! ## Documents that are read back -/

omit [Json.FloatText] in
/-- No frame is the start of another one. -/
theorem frame_inj {a b x y : Bytes} (ha : a.length < 2 ^ 32) (hb : b.length < 2 ^ 32)
    (h : frame a ++ x = frame b ++ y) : a = b ∧ x = y := by
  rw [frame, frame, List.append_assoc, List.append_assoc] at h
  obtain ⟨hheader, hbody⟩ := List.append_inj h (by rw [length_u32ToBe, length_u32ToBe])
  have hlength := congrArg beValue hheader
  rw [UdpSender.beValue_u32ToBe, UdpSender.beValue_u32ToBe, UInt32.toNat_ofNat_of_lt' ha,
    UInt32.toNat_ofNat_of_lt' hb] at hlength
  exact List.append_inj hbody hlength

/-- **Frames.**  What one client writes, a client of at least the same limit reads: the document
itself, with what follows left to the next read.  Of a part of it nothing is read. -/
theorem readJson_frame (c' : Iperf3Client) {value : Json}
    (hfits : value.render.bytes.length ≤ c.maxControlJsonBytes.toNat)
    (hlimit : c.maxControlJsonBytes ≤ c'.maxControlJsonBytes) :
    Takes (c.writeJson value) () [] ∧
    Follows (fun _ _ => False) (c.writeJson value) (oneRun (saying (frame value.render.bytes))) 0 ∧
    (∀ v, net.fromSlice value.render.bytes = .ok v →
      Takes (c'.readJson net) v (frame value.render.bytes)) ∧
    ∀ (l l' : Link Cut) (v : Json), l.inbox <+: frame value.render.bytes →
      c'.readJson net l = (.ok v, l') → l.inbox = frame value.render.bytes := by
  have hmaximum := c.maximum_le
  have hmaximum' := c'.maximum_le
  have hlimit := UInt64.le_iff_toNat_le.mp hlimit
  refine ⟨c.writeJson_takes hfits, c.writeJson_follows value,
    fun v hv => c'.readJson_takes net (by omega) hv, fun l l' v hpart h => ?_⟩
  obtain ⟨document, hlength, hinbox, -, -⟩ := c'.readJson_ok net h
  obtain ⟨more, hmore⟩ := hpart
  rw [hinbox, List.append_assoc] at hmore
  have hsame : frame document ++ (l'.inbox ++ more) = frame value.render.bytes ++ [] := by
    rw [hmore, List.append_nil]
  obtain ⟨rfl, hnothing⟩ := frame_inj (by omega) (by omega) hsame
  rw [hinbox, (List.append_eq_nil_iff.mp hnothing).1, List.append_nil]

omit [Json.FloatText] in
theorem readJson_frame_tcp :
    Takes (@writeJson .new noFloatText tcpDocument) () [] ∧
    Follows (fun _ _ => False) (@writeJson .new noFloatText tcpDocument)
      (oneRun (saying (frame (@Json.render noFloatText tcpDocument).bytes))) 0 ∧
    (∀ v, tcpNet.fromSlice (@Json.render noFloatText tcpDocument).bytes = .ok v →
      Takes (readJson .new tcpNet) v (frame (@Json.render noFloatText tcpDocument).bytes)) ∧
    ∀ (l l' : Link Cut) (v : Json), l.inbox <+: frame (@Json.render noFloatText tcpDocument).bytes →
      readJson .new tcpNet l = (.ok v, l') →
        l.inbox = frame (@Json.render noFloatText tcpDocument).bytes :=
  @readJson_frame .new tcpNet noFloatText .new tcpDocument tcp_sizes.2.2 (by decide)

/-! ## The whole measurement -/

/-- What a server sends behind the data phase. -/
def finalBytes (document : Bytes) : Bytes :=
  [EXCHANGE_RESULTS.toUInt8] ++ (frame document ++ [DISPLAY_RESULTS.toUInt8])

/-- What a server sends that plays its part. -/
def serverBytes (document : Bytes) : Bytes :=
  [PARAM_EXCHANGE.toUInt8, CREATE_STREAMS.toUInt8, TEST_START.toUInt8, TEST_RUNNING.toUInt8] ++
    finalBytes document

/-- The handshakes, the data phase and the documents of a measurement that passes. -/
structure Completes (spec : TestSpec) (address : Packet.IpAddr) (retry : UInt8) (document : Bytes)
    (outcomes : List StreamOutcome) (value : Json) (result : TestResult) : Prop where
  answered : Handshakes net spec
  announced : (parameters spec (udpBlockSize address)).render.bytes.length ≤
    c.maxControlJsonBytes.toNat
  measured : runData net (dataStreams spec) = .ok outcomes
  reported : (clientResults outcomes).render.bytes.length ≤ c.maxControlJsonBytes.toNat
  fits : document.length ≤ c.maxControlJsonBytes.toNat
  reads : net.fromSlice document = .ok value
  built : buildResult spec retry net.elapsedMs outcomes value = .ok result

theorem establish_needs (spec : TestSpec) (cookie : Bytes) (address : Packet.IpAddr) :
    Needs (c.establish net spec cookie address) fun streams taken =>
      streams = dataStreams spec ∧ Handshakes net spec ∧
        (parameters spec (udpBlockSize address)).render.bytes.length ≤ c.maxControlJsonBytes.toNat ∧
        taken = [PARAM_EXCHANGE.toUInt8, CREATE_STREAMS.toUInt8, TEST_START.toUInt8,
          TEST_RUNNING.toUInt8] := by
  intro l streams l' h
  obtain ⟨_, l1, h1, h2⟩ := bind_ok.mp h
  obtain ⟨_, l2, h3, h4⟩ := bind_ok.mp h2
  obtain ⟨_, l3, h5, h6⟩ := bind_ok.mp h4
  obtain ⟨_, l4, h7, h8⟩ := bind_ok.mp h6
  obtain ⟨_, l5, h9, h10⟩ := bind_ok.mp h8
  obtain ⟨streams', l6, h11, h12⟩ := bind_ok.mp h10
  obtain ⟨_, l7, h13, h14⟩ := bind_ok.mp h12
  obtain ⟨_, l8, h15, h16⟩ := bind_ok.mp h14
  cases h16
  obtain ⟨_, e1, -, rfl⟩ := (Silent.sys _).needs (P := fun _ => True) (fun _ _ _ _ => trivial) _ _ _ h1
  obtain ⟨_, e2, -, rfl⟩ := c.write_needs _ _ _ _ _ h3
  obtain ⟨_, e3, rfl⟩ := c.expectState_needs _ _ _ _ h5
  obtain ⟨_, e4, hsize, rfl⟩ := c.writeJson_needs _ _ _ _ h7
  obtain ⟨_, e5, rfl⟩ := c.expectState_needs _ _ _ _ h9
  obtain ⟨_, e6, ⟨hstreams, hshakes⟩, rfl⟩ := c.createStreams_needs net spec _ _ _ h11
  obtain ⟨_, e7, rfl⟩ := c.expectState_needs _ _ _ _ h13
  obtain ⟨_, e8, rfl⟩ := c.expectState_needs _ _ _ _ h15
  refine ⟨_, ?_, hstreams, hshakes, hsize, rfl⟩
  rw [e1, e2, e3, e4, e5, e6, e7, e8]
  rfl

theorem establish_takes {spec : TestSpec} (cookie : Bytes) {address : Packet.IpAddr}
    (hconcrete : spec.protocol ≠ .both) (hanswered : Handshakes net spec)
    (hsize : (parameters spec (udpBlockSize address)).render.bytes.length ≤
      c.maxControlJsonBytes.toNat) :
    Takes (c.establish net spec cookie address) (dataStreams spec)
      [PARAM_EXCHANGE.toUInt8, CREATE_STREAMS.toUInt8, TEST_START.toUInt8, TEST_RUNNING.toUInt8] := by
  refine Takes.skip (Takes.call _) <| Takes.skip (Takes.writeAll _ _) ?_
  refine Takes.bind (u := [_]) (c.expectState_takes (by decide)) ?_
  refine Takes.skip (c.writeJson_takes hsize) ?_
  refine Takes.bind (u := [_]) (c.expectState_takes (by decide)) ?_
  refine Takes.skip (c.createStreams_takes net hconcrete hanswered) ?_
  refine Takes.bind (u := [_]) (c.expectState_takes (by decide)) ?_
  exact Takes.bind (u := [_]) (c.expectState_takes (by decide)) (Takes.pure _)

theorem conclude_needs (spec : TestSpec) (retry : UInt8) (outcomes : List StreamOutcome) :
    Needs (c.conclude net spec retry outcomes) fun result taken => ∃ document value,
      (clientResults outcomes).render.bytes.length ≤ c.maxControlJsonBytes.toNat ∧
      document.length ≤ c.maxControlJsonBytes.toNat ∧ net.fromSlice document = .ok value ∧
      buildResult spec retry net.elapsedMs outcomes value = .ok result ∧ taken = finalBytes document := by
  intro l result l' h
  obtain ⟨_, l1, h1, h2⟩ := bind_ok.mp h
  obtain ⟨value, l2, h3, h4⟩ := bind_ok.mp h2
  obtain ⟨_, l3, h5, h6⟩ := bind_ok.mp h4
  obtain ⟨hbuilt, rfl⟩ := lift_ok.mp h6
  obtain ⟨_, l4, h7, h8⟩ := bind_ok.mp h3
  obtain ⟨_, l5, h9, h10⟩ := bind_ok.mp h8
  obtain ⟨value', l6, h11, h12⟩ := bind_ok.mp h10
  obtain ⟨_, l7, h13, h14⟩ := bind_ok.mp h12
  cases h14
  obtain ⟨_, e1, -, rfl⟩ := c.write_needs _ _ _ _ _ h1
  obtain ⟨_, e2, -, rfl⟩ := c.write_needs _ _ _ _ _ h5
  obtain ⟨_, e3, rfl⟩ := c.expectState_needs _ _ _ _ h7
  obtain ⟨_, e4, hsize, rfl⟩ := c.writeJson_needs _ _ _ _ h9
  obtain ⟨_, e5, document, hlength, hvalue, rfl⟩ := c.readJson_needs net _ _ _ h11
  obtain ⟨_, e6, rfl⟩ := c.expectState_needs _ _ _ _ h13
  refine ⟨_, ?_, document, value, hsize, hlength, hvalue, hbuilt, rfl⟩
  rw [e1, e3, e4, e5, e6, e2, finalBytes]
  simp only [List.nil_append, List.append_assoc]

theorem conclude_takes {spec : TestSpec} {retry : UInt8} {outcomes : List StreamOutcome}
    {document : Bytes} {value : Json} {result : TestResult}
    (hsize : (clientResults outcomes).render.bytes.length ≤ c.maxControlJsonBytes.toNat)
    (hlength : document.length ≤ c.maxControlJsonBytes.toNat)
    (hvalue : net.fromSlice document = .ok value)
    (hbuilt : buildResult spec retry net.elapsedMs outcomes value = .ok result) :
    Takes (c.conclude net spec retry outcomes) result (finalBytes document) := by
  have hexchange : Takes (c.exchange net outcomes) value (finalBytes document) := by
    refine Takes.bind (c.expectState_takes (by decide)) ?_
    refine Takes.skip (c.writeJson_takes hsize) ?_
    refine Takes.bind (c.readJson_takes net hlength hvalue) ?_
    exact Takes.bind (u := [_]) (c.expectState_takes (by decide)) (Takes.pure _)
  refine Takes.skip (Takes.writeAll _ _) ?_
  have h := Takes.bind (f := fun value => do
      c.write "completion state" [IPERF_DONE.toUInt8]
      lift (buildResult spec retry net.elapsedMs outcomes value)) hexchange
    (Takes.skip (Takes.writeAll _ _) (Takes.lift hbuilt))
  rwa [List.append_nil] at h

omit [Json.FloatText] in
theorem concrete_of_validate {spec : TestSpec} (h : spec.validate = .ok ()) : spec.protocol ≠ .both := by
  obtain ⟨-, h⟩ := refuse_bind_ok.mp h
  exact of_decide_eq_false (refuse_bind_ok.mp h).1

omit [Json.FloatText] in
theorem data_ok {streams : List DataStream} {outcomes : List StreamOutcome} {l l' : Link Cut}
    (h : c.data net streams l = (.ok outcomes, l')) : runData net streams = .ok outcomes ∧ l' = l := by
  unfold data at h
  cases hdata : runData net streams with
  | ok found =>
    rw [hdata] at h
    cases h
    exact ⟨rfl, rfl⟩
  | error e =>
    rw [hdata] at h
    obtain ⟨_, _, -, h1⟩ := bind_ok.mp h
    cases h1

omit [Json.FloatText] in
theorem resolve_ok {spec : TestSpec} {addresses : List Packet.IpAddr} {l l' : Link Cut}
    (h : c.resolve net spec l = (.ok addresses, l')) :
    net.resolved.filter (matchesVersion spec.ipVersion) = addresses ∧ addresses ≠ [] := by
  obtain ⟨_, l1, -, h1⟩ := bind_ok.mp h
  replace h1 : (if net.resolved.filter (matchesVersion spec.ipVersion) = [] then _ else _ : Talk _) l1 =
    (.ok addresses, l') := h1
  split at h1
  · cases h1
  · rename_i hne
    cases h1
    exact ⟨rfl, hne⟩

omit [Json.FloatText] in
/-- Where nothing is cut, the control connection goes to the first address that matches. -/
theorem connected {spec : TestSpec} {l l1 l2 : Link Cut} {addresses : List Packet.IpAddr}
    {address : Packet.IpAddr} (hquiet : l.Quiet) (h1 : c.resolve net spec l = (.ok addresses, l1))
    (h2 : c.connectControl net spec none addresses l1 = (.ok address, l2)) :
    (net.resolved.filter (matchesVersion spec.ipVersion)).head? = some address ∧
      l2.inbox = l.inbox := by
  obtain ⟨hfilter, hne⟩ := c.resolve_ok net h1
  obtain ⟨t1, hrun1, hquiet1, hinbox1⟩ := c.resolve_takes net hfilter hne l l.inbox hquiet rfl
  obtain rfl : t1 = l1 := (Prod.mk.inj (hrun1.symm.trans h1)).2
  cases addresses with
  | nil => exact absurd rfl hne
  | cons a addresses =>
    obtain ⟨t2, hrun2, -, hinbox2⟩ := c.connectControl_takes net spec none a addresses t1 l.inbox
      hquiet1 hinbox1
    obtain ⟨ha, rfl⟩ := Prod.mk.inj (hrun2.symm.trans h2)
    rw [hfilter, List.head?_cons, Except.ok.inj ha]
    exact ⟨rfl, hinbox2⟩

/-- **Completion.**  A measurement of which no call fails and no phase is cut ends with a result
exactly if the server sends its six states around one document, the handshakes are answered, all
documents are within the limit, and `build_result` accepts what was counted.  It reads nothing
behind the last state. -/
theorem runTestOnce_passes_iff {l : Link Cut} (hquiet : l.Quiet) (spec : TestSpec) (cookie : Bytes)
    (retry : UInt8) (result : TestResult) (rest : Bytes) :
    (∃ l', c.runTestOnce net spec cookie retry l = (.ok result, l') ∧ l'.inbox = rest) ↔
      spec.validate = .ok () ∧ ∃ address document outcomes value,
        (net.resolved.filter (matchesVersion spec.ipVersion)).head? = some address ∧
        l.inbox = serverBytes document ++ rest ∧
        Completes c net spec address retry document outcomes value result := by
  constructor
  · rintro ⟨l', h, rfl⟩
    obtain ⟨_, l1, h1, h2⟩ := bind_ok.mp h
    obtain ⟨hvalid, rfl⟩ := lift_ok.mp h1
    have hvalid := mapError_eq_ok.mp hvalid
    obtain ⟨addresses, l2, h3, h4⟩ := bind_ok.mp h2
    obtain ⟨address, l3, h5, h6⟩ := bind_ok.mp h4
    obtain ⟨streams, l4, h7, h8⟩ := bind_ok.mp h6
    obtain ⟨outcomes, l5, h9, h10⟩ := bind_ok.mp h8
    obtain ⟨haddress, hconnected⟩ := c.connected net hquiet h3 h5
    obtain ⟨_, e1, rfl, hshakes, hannounced, rfl⟩ := c.establish_needs net _ _ _ _ _ _ h7
    obtain ⟨hmeasured, rfl⟩ := c.data_ok net h9
    obtain ⟨_, e2, document, value, hreported, hfits, hreads, hbuilt, rfl⟩ :=
      c.conclude_needs net _ _ _ _ _ _ h10
    refine ⟨hvalid, address, document, outcomes, value, haddress, ?_,
      ⟨hshakes, hannounced, hmeasured, hreported, hfits, hreads, hbuilt⟩⟩
    rw [← hconnected, e1, e2, serverBytes, List.append_assoc]
  · rintro ⟨hvalid, address, document, outcomes, value, haddress, hinbox, h⟩
    obtain ⟨addresses, hfilter⟩ := List.head?_eq_some_iff.mp haddress
    have hdata : Takes (c.data net (dataStreams spec)) outcomes [] := by
      unfold data
      rw [h.measured]
      exact Takes.pure outcomes
    have hrun : Takes (c.runTestOnce net spec cookie retry) result (serverBytes document) := by
      refine Takes.skip (Takes.lift (mapError_eq_ok.mpr hvalid)) ?_
      refine Takes.skip (c.resolve_takes net hfilter (List.cons_ne_nil _ _)) ?_
      refine Takes.skip (c.connectControl_takes net spec none address addresses) ?_
      refine Takes.bind (c.establish_takes net cookie (concrete_of_validate hvalid) h.answered
        h.announced) ?_
      exact Takes.skip hdata (c.conclude_takes net h.reported h.fits h.reads h.built)
    obtain ⟨l', hok, -, hrest⟩ := hrun l rest hquiet hinbox
    exact ⟨l', hok, hrest⟩

end Iperf3Client

def tcpLink : Link Cut where
  inbox := Iperf3Client.serverBytes (@Json.render noFloatText tcpDocument).bytes
  script := []
  log := []

theorem tcp_quiet : tcpLink.Quiet := by simp [Link.Quiet, tcpLink]

theorem tcp_measured :
    runData tcpNet (dataStreams tcpSpec) = .ok [outcome 1 true 125000 1] := by
  have hstreams : dataStreams tcpSpec = [⟨false, true⟩] := by decide
  have hbytes : countBytes 0 125000 true = 125000 := by decide
  have hloop : tcpNet.loop 0 ⟨false, true⟩ 1 = .ok (outcome 1 true 125000 1) := by
    show Except.ok (outcome 1 true (countBytes 0 125000 true) 1) = _
    rw [hbytes]
  apply (runData_ok tcpNet tcpSpec _).mpr
  rw [hstreams]
  exact .cons hloop .nil

theorem runTestOnce_passes_tcp : ∃ result,
    ∃ l', @Iperf3Client.runTestOnce .new tcpNet noFloatText tcpSpec [] 1 tcpLink = (.ok result, l') ∧
      l'.inbox = [] := by
  cases hbuilt : @buildResult noFloatText tcpSpec 1 1000 [outcome 1 true 125000 1] tcpDocument with
  | error e =>
    have h := tcp_built
    rw [hbuilt] at h
    cases h
  | ok result =>
    refine ⟨result, (@Iperf3Client.runTestOnce_passes_iff .new tcpNet noFloatText tcpLink tcp_quiet
      tcpSpec [] 1 result []).mpr ⟨by decide, .v4 ⟨[127, 0, 0, 1], rfl⟩,
        (@Json.render noFloatText tcpDocument).bytes, [outcome 1 true 125000 1], tcpDocument, by decide,
        (List.append_nil _).symm, ?_⟩⟩
    have hreads : tcpNet.fromSlice (@Json.render noFloatText tcpDocument).bytes = .ok tcpDocument :=
      readsOnly_self (@Json.render noFloatText tcpDocument).bytes tcpDocument
    exact @Iperf3Client.Completes.mk _ _ noFloatText _ _ _ _ _ _ _ (fun hudp => nomatch hudp)
      tcp_sizes.1 tcp_measured tcp_sizes.2.1 tcp_sizes.2.2 hreads hbuilt

end NetworkLantern.Throughput
