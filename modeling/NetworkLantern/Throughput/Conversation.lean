import NetworkLantern.Throughput.Control

/-!
# What is said on the control connection

A measurement follows the protocol of the control connection, whatever the server sends and
wherever a phase is cut: each message is said at its place only, behind the states that the
server has to announce before it, and nothing is said behind an answer that is not the
expected one (`runTestOnce_follows`).  Of such an answer no more is heard than one byte, a
length or an error (`Instead`).
-/

namespace NetworkLantern.Throughput

open NetworkLantern Act

/-- A document with its length before it. -/
def frame (document : Bytes) : Bytes := u32ToBe (.ofNat document.length) ++ document

theorem u32ToBe_beValue {header : Bytes} (h : header.length = 4) :
    u32ToBe (.ofNat (beValue header)) = header := by
  match header, h with
  | [a, b, c, d], _ =>
    have ha := a.toNat_lt
    have hb := b.toNat_lt
    have hc := c.toNat_lt
    have hd := d.toNat_lt
    have hvalue : beValue [a, b, c, d] = ((a.toNat * 256 + b.toNat) * 256 + c.toNat) * 256 + d.toNat := by
      simp [beValue]
    rw [hvalue]
    unfold u32ToBe
    rw [UInt32.toNat_ofNat_of_lt' (by show _ < 2 ^ 32; omega)]
    congr 1
    · apply UInt8.toNat_inj.mp
      rw [UInt8.toNat_ofNat']
      omega
    · congr 1
      · apply UInt8.toNat_inj.mp
        rw [UInt8.toNat_ofNat']
        omega
      · congr 1
        · apply UInt8.toNat_inj.mp
          rw [UInt8.toNat_ofNat']
          omega
        · congr 1
          apply UInt8.toNat_inj.mp
          rw [UInt8.toNat_ofNat']
          omega

/-! ## What is heard instead -/

/-- What a client may hear where it waits for a message of the server. -/
inductive Instead (expected : List Turn) : Bytes → Prop
  /-- One other byte, or nothing. -/
  | short {bytes : Bytes} (h : bytes.length ≤ 1) : Instead expected bytes
  /-- In place of a document, the four bytes of a length that is too large, or a part of them. -/
  | length {bytes : Bytes} (document : Bytes) (hexpected : expected = hearing (frame document))
      (h : bytes.length ≤ 4) : Instead expected bytes
  /-- The error state with its two codes, or a part of them. -/
  | error {codes : Bytes} (h : codes.length ≤ 8) : Instead expected (SERVER_ERROR.toUInt8 :: codes)

def Surprise (expected heard : List Turn) : Prop :=
  ∃ bytes, heard = hearing bytes ∧ Instead expected bytes

/-! ## What goes on beside the connection -/

def Untouched (l l' : Link Cut) : Prop := l'.log = l.log ∧ l'.inbox = l.inbox

theorem Untouched.refl (l : Link Cut) : Untouched l l := ⟨rfl, rfl⟩

theorem Untouched.trans (a b c : Link Cut) (hab : Untouched a b) (hbc : Untouched b c) :
    Untouched a c := ⟨hbc.1.trans hab.1, hbc.2.trans hab.2⟩

/-- Nothing is said or heard on the control connection. -/
def Silent {α : Type} (x : Talk α) : Prop := Keeps Untouched x

namespace Silent

variable {α β : Type}

theorem pure (a : α) : Silent (Pure.pure a) := Keeps.pure Untouched.refl a

theorem fail (e : TestFailure) : Silent (Act.fail e : Talk α) := Keeps.fail Untouched.refl e

theorem bind {x : Talk α} {f : α → Talk β} (hx : Silent x) (hf : ∀ a, Silent (f a)) :
    Silent (x >>= f) :=
  Keeps.bind Untouched.trans hx hf

theorem when {x : Talk Unit} (hx : Silent x) (b : Bool) : Silent (Act.when b x) := by
  cases b
  · exact pure ()
  · exact hx

theorem call (fails : Cut → Option TestFailure) : Silent (NetworkLantern.call fails) :=
  fun l => ⟨call_log fails l, call_inbox fails l⟩

theorem sys (operation : Str) : Silent (Throughput.sys operation) := call _

theorem wait (c : Iperf3Client) (phase : Str) : Silent (c.wait phase) := call _

theorem follows {S : List Turn → List Turn → Prop} {x : Talk α} (hx : Silent x) : Follows S x 1 0 := Follows.silent fun l => (hx l).1

theorem needs {x : Talk α} (hx : Silent x) {P : α → Prop}
    (h : ∀ l a l', x l = (.ok a, l') → P a) : Needs x fun a bytes => P a ∧ bytes = [] :=
  Needs.nothing (fun l => (hx l).2) h

end Silent

namespace Iperf3Client

variable (c : Iperf3Client) (net : Net)

theorem connectTcp_silent (tos : UInt8) (window : Option UInt32) (phase : Str) :
    Silent (c.connectTcp net tos window phase) :=
  (Silent.sys phase).bind fun _ =>
    ((Silent.sys _).when _).bind fun _ =>
      (((Silent.sys _).bind fun _ => Silent.sys _).when _).bind fun _ =>
        (Silent.call _).bind fun _ => (Silent.sys _).when _

theorem awaitReply_silent (reverse : Bool) (turns : Nat) (datagrams : List Bytes) :
    Silent (c.awaitReply reverse turns datagrams) := by
  induction turns generalizing datagrams with
  | zero => exact Silent.pure ()
  | succ turns ih =>
    refine (Silent.wait c _).bind fun _ => ?_
    cases datagrams with
    | nil => exact Silent.fail _
    | cons datagram datagrams =>
      show Silent (if _ then _ else _)
      split
      · exact Silent.pure ()
      · split
        · exact Silent.fail _
        · exact ih datagrams

theorem createStream_silent (spec : TestSpec) (sender : Bool) (index : Nat) :
    Silent (c.createStream net spec sender index) := by
  unfold createStream
  split
  · exact (c.connectTcp_silent net _ _ _).bind fun _ =>
      (Silent.wait c _).bind fun _ => Silent.pure _
  · exact (Silent.sys _).bind fun _ => ((Silent.sys _).when _).bind fun _ =>
      (Silent.sys _).bind fun _ => ((Silent.sys _).when _).bind fun _ =>
        ((Silent.wait c _).bind fun _ => c.awaitReply_silent _ _ _).bind fun _ => Silent.pure _
  · exact Silent.fail _

theorem createStreams_silent (spec : TestSpec) : Silent (c.createStreams net spec) :=
  Keeps.collect Untouched.refl Untouched.trans _ fun a _ => c.createStream_silent net spec a.1 a.2

theorem resolve_silent (spec : TestSpec) : Silent (c.resolve net spec) := by
  refine (Silent.wait c _).bind fun _ => ?_
  show Silent (if _ then _ else _)
  split
  · exact Silent.fail _
  · exact Silent.pure _

theorem connectControl_silent (spec : TestSpec) (last : Option TestFailure)
    (addresses : List Packet.IpAddr) : Silent (c.connectControl net spec last addresses) := by
  induction addresses generalizing last with
  | nil => exact Silent.fail _
  | cons address addresses ih =>
    refine Silent.bind (Keeps.attempt (c.connectTcp_silent net 0 none _)) fun r => ?_
    match r with
    | .ok () => exact Silent.pure address
    | .error e =>
      cases e <;> first | exact Silent.fail _ | exact ih _

/-! ## The turns of the control connection -/

theorem write_follows {S : List Turn → List Turn → Prop} (phase : Str) (bytes : Bytes) :
    Follows S (c.write phase bytes) (oneRun (saying bytes)) 0 := Follows.writeAll _ bytes

/-- The state that a passed wait has heard. -/
theorem expectState_ok {expected : Int8} {l l' : Link Cut}
    (h : c.expectState expected l = (.ok (), l')) :
    l.inbox = expected.toUInt8 :: l'.inbox ∧ l'.log = l.log ++ hearing [expected.toUInt8] := by
  obtain ⟨byte, l1, hread, h1⟩ := bind_ok.mp h
  obtain ⟨hinbox, hlength, hlog⟩ := readExact_ok hread
  obtain ⟨b, rfl⟩ := List.length_eq_one_iff.mp hlength
  split at h1
  · cases h1
  · split at h1
    · cases h1
    · split at h1
      · obtain ⟨codes, l2, -, h2⟩ := bind_ok.mp h1
        cases h2
      · split at h1
        · rename_i hstate
          cases h1
          have hbyte : (stateOf [b]).toUInt8 = b := UInt8.toUInt8_toInt8 b
          rw [← hstate, hbyte]
          exact ⟨hinbox, hlog⟩
        · cases h1

/-- Behind the error state the codes are read, and the measurement fails. -/
theorem codes_error {α : Type} {phase operation : Str} {byte : Bytes} {l l' : Link Cut} {e : TestFailure}
    (hlength : byte.length = 1) (hstate : stateOf byte = SERVER_ERROR)
    (h : (do
      let codes ← c.read phase operation 8
      fail (serverError codes) : Talk α) l = (.error e, l')) (expected : List Turn) :
    ∃ codes, Instead expected (byte ++ codes) ∧ l'.log = l.log ++ hearing codes := by
  have hbyte : byte = [SERVER_ERROR.toUInt8] := by
    obtain ⟨b, rfl⟩ := List.length_eq_one_iff.mp hlength
    rw [← hstate]
    exact congrArg (· :: []) (UInt8.toUInt8_toInt8 b).symm
  rcases bind_error.mp h with hread | ⟨codes, l1, hread, h1⟩
  · obtain ⟨codes, hcodes, hlog⟩ := readExact_error hread
    exact ⟨codes, hbyte ▸ .error hcodes, hlog⟩
  · obtain ⟨-, hcodes, hlog⟩ := readExact_ok hread
    cases h1
    exact ⟨codes, hbyte ▸ .error (Nat.le_of_eq hcodes), hlog⟩

/-- A failed wait has heard a part of the state, another one, or an error. -/
theorem expectState_error {expected : Int8} {l l' : Link Cut} {e : TestFailure}
    (h : c.expectState expected l = (.error e, l')) :
    ∃ heard, Surprise (hearing [expected.toUInt8]) heard ∧ l'.log = l.log ++ heard := by
  rcases bind_error.mp h with hread | ⟨byte, l1, hread, h1⟩
  · obtain ⟨bytes, hlength, hlog⟩ := readExact_error hread
    exact ⟨_, ⟨bytes, rfl, .short hlength⟩, hlog⟩
  · obtain ⟨-, hlength, hlog⟩ := readExact_ok hread
    have hshort : Surprise (hearing [expected.toUInt8]) (hearing byte) :=
      ⟨byte, rfl, .short (Nat.le_of_eq hlength)⟩
    split at h1
    · cases h1
      exact ⟨_, hshort, hlog⟩
    · split at h1
      · cases h1
        exact ⟨_, hshort, hlog⟩
      · split at h1
        · rename_i hstate
          obtain ⟨codes, hinstead, hlog'⟩ := c.codes_error hlength hstate h1 _
          exact ⟨_, ⟨_, rfl, hinstead⟩, by rw [hlog', hlog, hearing_append, List.append_assoc]⟩
        · split at h1
          · cases h1
          · cases h1
            exact ⟨_, hshort, hlog⟩

theorem expectState_follows (expected : Int8) :
    Follows Surprise (c.expectState expected) (oneRun (hearing [expected.toUInt8])) 0 := by
  intro l
  refine ⟨fun _ l' h => ⟨_, rfl, (c.expectState_ok h).2⟩, fun e l' h => ?_⟩
  obtain ⟨heard, hheard, hlog⟩ := c.expectState_error h
  exact ⟨_, Or.inl rfl, heard, .surprised (t := []) (List.append_nil _).symm hheard, hlog⟩

/-- The frames of a server that a client takes. -/
def Frames : Language Turn :=
  {t | ∃ document : Bytes, document.length ≤ c.maxControlJsonBytes.toNat ∧ t = hearing (frame document)}

/-- The document that a passed read has taken, and its value. -/
theorem readJson_ok {value : Json} {l l' : Link Cut} (h : c.readJson net l = (.ok value, l')) :
    ∃ document : Bytes, document.length ≤ c.maxControlJsonBytes.toNat ∧
      l.inbox = frame document ++ l'.inbox ∧ l'.log = l.log ++ hearing (frame document) ∧
      net.fromSlice document = .ok value := by
  obtain ⟨first, l1, hfirst, h1⟩ := bind_ok.mp h
  obtain ⟨hinbox1, hlength1, hlog1⟩ := readExact_ok hfirst
  split at h1
  · obtain ⟨codes, l2, -, h2⟩ := bind_ok.mp h1
    cases h2
  · split at h1
    · cases h1
    · obtain ⟨rest, l2, hrest, h2⟩ := bind_ok.mp h1
      obtain ⟨hinbox2, hlength2, hlog2⟩ := readExact_ok hrest
      split at h2
      · cases h2
      · rename_i hle
        obtain ⟨document, l3, hdocument, h3⟩ := bind_ok.mp h2
        obtain ⟨hinbox3, hlength3, hlog3⟩ := readExact_ok hdocument
        obtain ⟨hvalue, rfl⟩ := lift_ok.mp h3
        have hheader : u32ToBe (.ofNat document.length) = first ++ rest := by
          rw [hlength3]
          refine u32ToBe_beValue ?_
          rw [List.length_append, hlength1, hlength2]
        refine ⟨document, by omega, ?_, ?_, mapError_eq_ok.mp hvalue⟩
        · rw [frame, hheader, hinbox1, hinbox2, hinbox3]
          simp only [List.append_assoc]
        · rw [frame, hheader, hlog3, hlog2, hlog1]
          simp only [hearing_append, List.append_assoc]

/-- A failed read has heard a part of a frame, a length that is not taken, or an error. -/
theorem readJson_error {l l' : Link Cut} {e : TestFailure} (h : c.readJson net l = (.error e, l')) :
    ∃ plan ∈ c.Frames, ∃ t, BreaksOff Surprise plan t ∧ l'.log = l.log ++ t := by
  have hempty : hearing (frame []) ∈ c.Frames := ⟨[], Nat.zero_le _, rfl⟩
  have hsurprise : ∀ {bytes : Bytes}, Instead (hearing (frame [])) bytes → l'.log = l.log ++ hearing bytes →
      ∃ plan ∈ c.Frames, ∃ t, BreaksOff Surprise plan t ∧ l'.log = l.log ++ t := fun hinstead hlog =>
    ⟨_, hempty, _, .surprised (t := []) (List.append_nil _).symm ⟨_, rfl, hinstead⟩, hlog⟩
  rcases bind_error.mp h with hread | ⟨first, l1, hfirst, h1⟩
  · obtain ⟨bytes, hlength, hlog⟩ := readExact_error hread
    exact hsurprise (.short hlength) hlog
  · obtain ⟨-, hlength1, hlog1⟩ := readExact_ok hfirst
    split at h1
    · rename_i hstate
      obtain ⟨codes, hinstead, hlog⟩ := c.codes_error hlength1 hstate h1 _
      exact hsurprise hinstead (by rw [hlog, hlog1, hearing_append, List.append_assoc])
    · split at h1
      · cases h1
        exact hsurprise (.short (Nat.le_of_eq hlength1)) hlog1
      · rcases bind_error.mp h1 with hread | ⟨rest, l2, hrest, h2⟩
        · obtain ⟨bytes, hlength, hlog⟩ := readExact_error hread
          refine @hsurprise (first ++ bytes) (.length [] rfl ?_) ?_
          · rw [List.length_append]
            omega
          · rw [hlog, hlog1, hearing_append, List.append_assoc]
        · obtain ⟨-, hlength2, hlog2⟩ := readExact_ok hrest
          have hheader : (first ++ rest).length = 4 := by
            rw [List.length_append, hlength1, hlength2]
          have hlog2 : l2.log = l.log ++ hearing (first ++ rest) := by
            rw [hlog2, hlog1, hearing_append, List.append_assoc]
          split at h2
          · cases h2
            exact hsurprise (.length [] rfl (Nat.le_of_eq hheader)) hlog2
          · rename_i hle
            -- the frame that the client waits for, as far as it has been heard
            have hframe : ∀ document : Bytes, document.length = beValue (first ++ rest) →
                hearing (frame document) ∈ c.Frames ∧ frame document = first ++ rest ++ document := by
              intro document hdocument
              refine ⟨⟨document, by omega, rfl⟩, ?_⟩
              rw [frame, hdocument, u32ToBe_beValue hheader]
            rcases bind_error.mp h2 with hread | ⟨document, l3, hdocument, h3⟩
            · obtain ⟨bytes, hlength, hlog⟩ := readExact_error hread
              obtain ⟨hmem, heq⟩ := hframe
                (bytes ++ List.replicate (beValue (first ++ rest) - bytes.length) 0) (by
                  rw [List.length_append, List.length_replicate]
                  omega)
              refine ⟨_, hmem, hearing (first ++ rest ++ bytes), .stopped ?_, ?_⟩
              · rw [heq, ← List.append_assoc, hearing_append _ (List.replicate _ _)]
                exact List.prefix_append _ _
              · rw [hlog, hlog2, hearing_append (first ++ rest), List.append_assoc]
            · obtain ⟨-, hlength3, hlog3⟩ := readExact_ok hdocument
              obtain ⟨hmem, heq⟩ := hframe document hlength3
              obtain ⟨-, rfl⟩ := Prod.mk.inj h3
              refine ⟨_, hmem, hearing (frame document), .stopped (List.prefix_refl _), ?_⟩
              rw [hlog3, hlog2, heq, hearing_append (first ++ rest), List.append_assoc]

theorem readJson_follows : Follows Surprise (c.readJson net) c.Frames 0 := by
  intro l
  refine ⟨fun value l' h => ?_, fun e l' h => ?_⟩
  · obtain ⟨document, hlength, -, hlog, -⟩ := c.readJson_ok net h
    exact ⟨_, ⟨document, hlength, rfl⟩, hlog⟩
  · obtain ⟨plan, hplan, t, ht, hlog⟩ := c.readJson_error net h
    exact ⟨plan, Or.inl hplan, t, ht, hlog⟩

variable [Json.FloatText]

theorem writeJson_follows {S : List Turn → List Turn → Prop} (value : Json) :
    Follows S (c.writeJson value) (oneRun (saying (frame value.render.bytes))) 0 := by
  unfold writeJson
  show Follows S (if _ then _ else _) _ _
  split
  · exact Follows.fail _ ⟨_, Or.inl rfl⟩
  · rw [frame, saying_append]
    exact Follows.oneRun_bind (c.write_follows _ _) fun _ => c.write_follows _ _

/-! ## The whole conversation -/

/-- Up to the running test. -/
def opening (spec : TestSpec) (cookie : Bytes) (address : Packet.IpAddr) : List Turn :=
  saying cookie ++ (hearing [PARAM_EXCHANGE.toUInt8] ++
    (saying (frame (parameters spec (udpBlockSize address)).render.bytes) ++
      (hearing [CREATE_STREAMS.toUInt8] ++
        (hearing [TEST_START.toUInt8] ++ hearing [TEST_RUNNING.toUInt8]))))

/-- From the end of the test, with the document of the server. -/
def closing (outcomes : List StreamOutcome) (document : Bytes) : List Turn :=
  saying [TEST_END.toUInt8] ++ (hearing [EXCHANGE_RESULTS.toUInt8] ++
    (saying (frame (clientResults outcomes).render.bytes) ++
      (hearing (frame document) ++ (hearing [DISPLAY_RESULTS.toUInt8] ++
        saying [IPERF_DONE.toUInt8]))))

/-- The conversations of a measurement that comes to its end. -/
def Measured (spec : TestSpec) (cookie : Bytes) : Language Turn :=
  {t | ∃ address outcomes document, runData net (dataStreams spec) = .ok outcomes ∧
    document.length ≤ c.maxControlJsonBytes.toNat ∧
    t = opening spec cookie address ++ closing outcomes document}

/-- The conversations of a measurement whose data phase fails. -/
def Terminated (spec : TestSpec) (cookie : Bytes) : Language Turn :=
  {t | ∃ address, t = opening spec cookie address ++ saying [CLIENT_TERMINATE.toUInt8]}

theorem establish_follows (spec : TestSpec) (cookie : Bytes) (address : Packet.IpAddr) :
    Follows Surprise (c.establish net spec cookie address) (oneRun (opening spec cookie address)) 0 := by
  have hlast : Follows Surprise (do
      c.expectState TEST_RUNNING
      pure ()) (oneRun (hearing [TEST_RUNNING.toUInt8] ++ [])) 0 :=
    Follows.oneRun_bind (c.expectState_follows _) fun _ => Follows.pure _
  refine Follows.skip (Silent.sys _).follows (fun _ _ _ _ => ?_) ⟨_, Or.inl rfl⟩
  refine Follows.oneRun_bind (c.write_follows _ _) fun _ => ?_
  refine Follows.oneRun_bind (c.expectState_follows _) fun _ => ?_
  refine Follows.oneRun_bind (c.writeJson_follows _) fun _ => ?_
  refine Follows.oneRun_bind (c.expectState_follows _) fun _ => ?_
  refine Follows.skip (c.createStreams_silent net spec).follows (fun _ streams _ _ => ?_)
    ⟨_, Or.inl rfl⟩
  refine Follows.oneRun_bind (c.expectState_follows _) fun _ => ?_
  have h := Follows.oneRun_bind (c.expectState_follows TEST_RUNNING) fun _ => Follows.pure streams
  rwa [List.append_nil] at h

/-- The conversations behind a passed data phase. -/
def Closings (spec : TestSpec) : Language Turn :=
  {t | ∃ outcomes document, runData net (dataStreams spec) = .ok outcomes ∧
    document.length ≤ c.maxControlJsonBytes.toNat ∧ t = closing outcomes document}

theorem exchange_follows (outcomes : List StreamOutcome) :
    Follows Surprise (c.exchange net outcomes) (oneRun (hearing [EXCHANGE_RESULTS.toUInt8]) *
      (oneRun (saying (frame (clientResults outcomes).render.bytes)) *
        (c.Frames * oneRun (hearing [DISPLAY_RESULTS.toUInt8])))) 0 := by
  have hframe : hearing (frame []) ∈ c.Frames := ⟨[], Nat.zero_le _, rfl⟩
  refine Follows.first (c.expectState_follows _) (fun _ => ?_)
    ⟨_, Language.append_mem_mul rfl (Language.append_mem_mul hframe rfl)⟩
  refine Follows.first (c.writeJson_follows _) (fun _ => ?_) ⟨_, Language.append_mem_mul hframe rfl⟩
  have h := (c.readJson_follows net).bind (fun value =>
    Follows.oneRun_bind (c.expectState_follows DISPLAY_RESULTS) fun _ => Follows.pure value)
    ⟨_, Or.inl rfl⟩
  rwa [mul_zero, add_zero, List.append_nil] at h

theorem conclude_follows {spec : TestSpec} (retry : UInt8) {outcomes : List StreamOutcome}
    (houtcomes : runData net (dataStreams spec) = .ok outcomes) :
    Follows Surprise (c.conclude net spec retry outcomes) (c.Closings net spec) 0 := by
  have hframe : hearing (frame []) ∈ c.Frames := ⟨[], Nat.zero_le _, rfl⟩
  have hdone (value : Json) : Follows Surprise (do
      c.write "completion state" [IPERF_DONE.toUInt8]
      lift (buildResult spec retry net.elapsedMs outcomes value))
      (oneRun (saying [IPERF_DONE.toUInt8] ++ [])) 0 :=
    Follows.oneRun_bind (c.write_follows _ _) fun _ => Follows.lift _
  have hexchange := (c.exchange_follows net outcomes).bind hdone ⟨_, Or.inl rfl⟩
  rw [mul_zero, add_zero, List.append_nil] at hexchange
  have h := Follows.first (c.write_follows "test end" [TEST_END.toUInt8]) (fun _ => hexchange)
    ⟨_, Language.append_mem_mul (Language.append_mem_mul rfl (Language.append_mem_mul rfl
      (Language.append_mem_mul hframe rfl))) rfl⟩
  refine h.mono (fun t ht => ?_) fun t ht => absurd ht (Language.notMem_zero t)
  obtain ⟨_, rfl, _, ⟨_, ⟨_, rfl, _, ⟨_, rfl, _, ⟨_, ⟨document, hlength, rfl⟩, _, rfl, rfl⟩, rfl⟩, rfl⟩, _,
    rfl, rfl⟩, rfl⟩ := ht
  refine ⟨outcomes, document, houtcomes, hlength, ?_⟩
  simp only [closing, List.append_assoc]

omit [Json.FloatText] in
/-- A failed data phase: the server is told, as far as it still listens. -/
theorem terminate_follows {α : Type} (e : TestFailure) :
    Follows Surprise (do
      let _ ← attempt (c.write "client terminate" [CLIENT_TERMINATE.toUInt8])
      fail e : Talk α) 0 (oneRun (saying [CLIENT_TERMINATE.toUInt8])) := by
  intro l
  have hwrite := @c.write_follows Surprise "client terminate" [CLIENT_TERMINATE.toUInt8] l
  rcases hr : c.write "client terminate" [CLIENT_TERMINATE.toUInt8] l with ⟨r, l1⟩
  refine ⟨fun a l' hrun => ?_, fun e' l' hrun => ?_⟩ <;> rw [attempt_bind hr] at hrun <;> cases hrun
  refine ⟨_, Or.inr rfl, ?_⟩
  cases r with
  | ok u =>
    obtain ⟨t, rfl, hlog⟩ := hwrite.ok u l1 hr
    exact ⟨_, .stopped (List.prefix_refl _), hlog⟩
  | error e' =>
    obtain ⟨plan, hplan | hplan, t, ht, hlog⟩ := hwrite.error e' l1 hr
    · cases hplan
      exact ⟨t, ht, hlog⟩
    · cases hplan

theorem measure_follows (spec : TestSpec) (retry : UInt8) :
    Follows Surprise (do
      let outcomes ← c.data net (dataStreams spec)
      c.conclude net spec retry outcomes) (c.Closings net spec)
      (oneRun (saying [CLIENT_TERMINATE.toUInt8])) := by
  unfold data
  cases hdata : runData net (dataStreams spec) with
  | ok outcomes =>
    show Follows Surprise (c.conclude net spec retry outcomes) _ _
    exact (c.conclude_follows net retry hdata).mono (fun _ ht => ht) fun t ht =>
      absurd ht (Language.notMem_zero t)
  | error e => exact (c.terminate_follows e).never

omit [Json.FloatText] in
theorem createStream_ok {spec : TestSpec} {sender : Bool} {index : Nat} {stream : DataStream}
    {l l' : Link Cut} (h : c.createStream net spec sender index l = (.ok stream, l')) :
    ⟨decide (spec.protocol = .udp), sender⟩ = stream := by
  unfold createStream at h
  cases hprotocol : spec.protocol with
  | tcp =>
    rw [hprotocol] at h
    obtain ⟨_, _, -, h1⟩ := bind_ok.mp h
    obtain ⟨_, _, -, h2⟩ := bind_ok.mp h1
    cases h2
    rfl
  | udp =>
    rw [hprotocol] at h
    obtain ⟨_, _, -, h1⟩ := bind_ok.mp h
    obtain ⟨_, _, -, h2⟩ := bind_ok.mp h1
    obtain ⟨_, _, -, h3⟩ := bind_ok.mp h2
    obtain ⟨_, _, -, h4⟩ := bind_ok.mp h3
    obtain ⟨_, _, -, h5⟩ := bind_ok.mp h4
    cases h5
    rfl
  | both =>
    rw [hprotocol] at h
    cases h

omit [Json.FloatText] in
theorem createStreams_ok {spec : TestSpec} {streams : List DataStream} {l l' : Link Cut}
    (h : c.createStreams net spec l = (.ok streams, l')) : streams = dataStreams spec := by
  have hall := (collect_ok (I := fun _ => True)
    (P := fun a stream => ⟨decide (spec.protocol = .udp), a.1⟩ = stream)
    (fun _ _ _ _ _ _ hrun => ⟨trivial, c.createStream_ok net hrun⟩) trivial h).2
  rw [← List.forall₂_map_left_iff (R := Eq)
    (f := fun a : Bool × Nat => (⟨decide (spec.protocol = .udp), a.1⟩ : DataStream)),
    List.forall₂_eq_eq_eq] at hall
  have hsenders : (senders spec).zipIdx.map Prod.fst = senders spec := List.zipIdx_map_fst 0 _
  rw [← hall, dataStreams]
  conv_rhs => rw [← hsenders, List.map_map]
  rfl

theorem establish_ok {spec : TestSpec} {cookie : Bytes} {address : Packet.IpAddr}
    {streams : List DataStream} {l l' : Link Cut}
    (h : c.establish net spec cookie address l = (.ok streams, l')) :
    streams = dataStreams spec := by
  obtain ⟨_, _, -, h1⟩ := bind_ok.mp h
  obtain ⟨_, _, -, h2⟩ := bind_ok.mp h1
  obtain ⟨_, _, -, h3⟩ := bind_ok.mp h2
  obtain ⟨_, _, -, h4⟩ := bind_ok.mp h3
  obtain ⟨_, _, -, h5⟩ := bind_ok.mp h4
  obtain ⟨streams', _, hstreams, h6⟩ := bind_ok.mp h5
  obtain ⟨_, _, -, h7⟩ := bind_ok.mp h6
  obtain ⟨_, _, -, h8⟩ := bind_ok.mp h7
  cases h8
  exact c.createStreams_ok net hstreams

end Iperf3Client

end NetworkLantern.Throughput
