import NetworkLantern.Packet.Parse

/-!
# Well-formed IP headers

Headers as data, and the bytes they stand for.  The walk over extension headers
finds the transport behind any chain of at most 15 of them (`ipv6Transport_bytes`).
-/

namespace NetworkLantern.Packet

open NetworkLantern Path Checked

abbrev Octets (n : Nat) := { b : Bytes // b.length = n }

theorem Octets.four (o : Octets 4) : ∃ a b c d, o.val = [a, b, c, d] := by
  obtain ⟨bytes, h⟩ := o
  match bytes, h with
  | [a, b, c, d], _ => exact ⟨a, b, c, d, rfl⟩

theorem Octets.sixteen (o : Octets 16) :
    ∃ a b c d e f g h i j k l m n p q, o.val = [a, b, c, d, e, f, g, h, i, j, k, l, m, n, p, q] := by
  obtain ⟨bytes, h⟩ := o
  match bytes, h with
  | [a, b, c, d, e, f, g, h, i, j, k, l, m, n, p, q], _ =>
    exact ⟨a, b, c, d, e, f, g, h, i, j, k, l, m, n, p, q, rfl⟩

/-! ## IPv4 -/

structure Ipv4Header where
  tos : UInt8
  totalLength : UInt16
  identification : UInt16
  fragment : UInt16
  ttl : UInt8
  protocol : UInt8
  checksum : UInt16
  source : Octets 4
  destination : Octets 4
  options : Bytes
  /-- The words of options. -/
  words : Nat
  words_le : words ≤ 10
  length_options : options.length = 4 * words

namespace Ipv4Header

def bytes (h : Ipv4Header) : Bytes :=
  [UInt8.ofNat (69 + h.words), h.tos] ++ u16ToBe h.totalLength ++ u16ToBe h.identification ++
    u16ToBe h.fragment ++ [h.ttl, h.protocol] ++ u16ToBe h.checksum ++ h.source.val ++
    h.destination.val ++ h.options

theorem length_bytes (h : Ipv4Header) : h.bytes.length = 20 + 4 * h.words := by
  have hs := h.source.property
  have hd := h.destination.property
  have ho := h.length_options
  simp only [bytes, List.length_append, List.length_cons, List.length_nil, length_u16ToBe]
  omega

theorem high_first (h : Ipv4Header) : high (UInt8.ofNat (69 + h.words)) = 4 := by
  have hw := h.words_le
  unfold high
  rw [UInt8.toNat_ofNat']
  omega

theorem low_first (h : Ipv4Header) : low (UInt8.ofNat (69 + h.words)) * 4 = h.bytes.length := by
  have hw := h.words_le
  rw [length_bytes]
  unfold low
  rw [UInt8.toNat_ofNat']
  omega

theorem getElem?_first (h : Ipv4Header) (rest : Bytes) :
    (h.bytes ++ rest)[0]? = some (UInt8.ofNat (69 + h.words)) := rfl

theorem getElem?_protocol (h : Ipv4Header) (rest : Bytes) :
    (h.bytes ++ rest)[9]? = some h.protocol := rfl

theorem ipv4Source_bytes (h : Ipv4Header) (rest : Bytes) :
    ipv4Source (h.bytes ++ rest) = .ok (.v4 h.source) := by
  obtain ⟨a, b, c, d, hs⟩ := h.source.four
  have hbytes : h.bytes ++ rest = [UInt8.ofNat (69 + h.words), h.tos] ++ u16ToBe h.totalLength ++
      u16ToBe h.identification ++ u16ToBe h.fragment ++ [h.ttl, h.protocol] ++
      u16ToBe h.checksum ++ [a, b, c, d] ++ (h.destination.val ++ h.options ++ rest) := by
    unfold bytes
    rw [hs]
    simp only [List.append_assoc]
  have hsource : h.source = ⟨[a, b, c, d], rfl⟩ := Subtype.ext hs
  rw [hbytes, hsource]
  rfl

end Ipv4Header

/-! ## IPv6 -/

inductive Extension
  /-- Hop-by-hop options, routing and destination options. -/
  | options (kind units : UInt8) (body : Bytes)
  | fragment (reserved : UInt8) (field : UInt16) (identification : UInt32)
  | authentication (units : UInt8) (body : Bytes)

namespace Extension

def kind : Extension → UInt8
  | options kind _ _ => kind
  | fragment .. => 44
  | authentication .. => 51

def WellFormed : Extension → Prop
  | options kind units body =>
    (kind = 0 ∨ kind = 43 ∨ kind = 60) ∧ body.length + 2 = (units.toNat + 1) * 8
  | fragment _ field _ => field.toNat < 8
  | authentication units body => body.length + 2 = (units.toNat + 2) * 4

/-- The header, in front of one of kind `next`. -/
def bytes (next : UInt8) : Extension → Bytes
  | options _ units body => [next, units] ++ body
  | fragment reserved field identification =>
    [next, reserved] ++ u16ToBe field ++ u32ToBe identification
  | authentication units body => [next, units] ++ body

theorem length_bytes_le {e : Extension} (h : e.WellFormed) (next : UInt8) :
    8 ≤ (e.bytes next).length ∧ (e.bytes next).length ≤ 2048 := by
  cases e with
  | options kind units body =>
    have hu := units.toNat_lt
    have hb := h.2
    simp only [bytes, List.length_append, List.length_cons, List.length_nil]
    omega
  | fragment reserved field identification =>
    show 8 ≤ 8 ∧ 8 ≤ 2048
    omega
  | authentication units body =>
    have hu := units.toNat_lt
    have hb : body.length + 2 = (units.toNat + 2) * 4 := h
    simp only [bytes, List.length_append, List.length_cons, List.length_nil]
    omega

end Extension

/-- The kind of the first header of a chain. -/
def firstKind (transport : UInt8) : List Extension → UInt8
  | [] => transport
  | e :: _ => e.kind

def chainBytes (transport : UInt8) : List Extension → Bytes
  | [] => []
  | e :: es => e.bytes (firstKind transport es) ++ chainBytes transport es

/-- No kind of extension header. -/
def IsTransport (kind : UInt8) : Prop :=
  ¬ (kind = 0 ∨ kind = 43 ∨ kind = 60) ∧ kind ≠ 44 ∧ kind ≠ 51

theorem getElem?_after (before rest : Bytes) (i : Nat) :
    (before ++ rest)[before.length + i]? = rest[i]? := by
  rw [List.getElem?_append_right (Nat.le_add_right _ _), Nat.add_sub_cancel_left]

theorem slice_after (before : Bytes) {rest part : Bytes} {i j : Nat}
    (h : (rest.drop i).take part.length = part) (hpos : 0 < part.length)
    (hj : j = i + part.length) :
    (slice (before ++ rest) (before.length + i) (before.length + j) : Parse Bytes) = .ok part := by
  subst hj
  have hlen : part.length ≤ rest.length - i := by
    have hl := congrArg List.length h
    rw [List.length_take, List.length_drop] at hl
    omega
  have hdrop : (before ++ rest).drop (before.length + i) = rest.drop i := by
    rw [List.drop_append, List.drop_eq_nil_of_le (by omega), List.nil_append]
    congr 1
    omega
  rw [slice_ok (by omega) (by rw [List.length_append]; omega), hdrop,
    show before.length + (i + part.length) - (before.length + i) = part.length by omega, h]

/-- A 16-bit field somewhere behind other bytes. -/
theorem field16_after {α : Type} (before : Bytes) {rest : Bytes} {i j : Nat} {a b : UInt8}
    (h : (rest.drop i).take 2 = [a, b]) (hj : j = i + 2) (f : UInt16 → Parse α) :
    (do let n ← beU16 (← slice (before ++ rest) (before.length + i) (before.length + j)); f n) =
      f (u16OfBe a b) := by
  rw [@slice_after before rest [a, b] _ _ h (Nat.zero_lt_succ 1) hj]
  rfl

theorem field32_after {α : Type} (before : Bytes) {rest : Bytes} {i j : Nat} {a b c d : UInt8}
    (h : (rest.drop i).take 4 = [a, b, c, d]) (hj : j = i + 4) (f : UInt32 → Parse α) :
    (do let n ← beU32 (← slice (before ++ rest) (before.length + i) (before.length + j)); f n) =
      f (u32OfBe a b c d) := by
  rw [@slice_after before rest [a, b, c, d] _ _ h (Nat.zero_lt_succ 3) hj]
  rfl

/-- The same at an offset from the start. -/
theorem field16_at {α : Type} {bytes : Bytes} {i j : Nat} {a b : UInt8}
    (h : (bytes.drop i).take 2 = [a, b]) (hj : j = i + 2) (f : UInt16 → Parse α) :
    (do let n ← beU16 (← slice bytes i j); f n) = f (u16OfBe a b) := by
  have hafter := field16_after [] h hj f
  simpa only [List.nil_append, List.length_nil, Nat.zero_add] using hafter

theorem field32_at {α : Type} {bytes : Bytes} {i j : Nat} {a b c d : UInt8}
    (h : (bytes.drop i).take 4 = [a, b, c, d]) (hj : j = i + 4) (f : UInt32 → Parse α) :
    (do let n ← beU32 (← slice bytes i j); f n) = f (u32OfBe a b c d) := by
  have hafter := field32_after [] h hj f
  simpa only [List.nil_append, List.length_nil, Nat.zero_add] using hafter

theorem need_ok {bytes : Bytes} {needed : Nat} (h : needed ≤ bytes.length) :
    need bytes needed = .ok () := if_neg (by omega)

open Extension in
/-- What the parser finds at a well-formed extension header. -/
theorem extension_bytes {e : Extension} (h : e.WellFormed) (next : UInt8) (before rest : Bytes) :
    extension (before ++ (e.bytes next ++ rest)) e.kind before.length =
      .ok (some ((e.bytes next).length, next)) := by
  have hle := (e.length_bytes_le h next).1
  have hneed : ∀ n ≤ 8, need (before ++ (e.bytes next ++ rest)) (before.length + n) = .ok () := by
    intro n hn
    refine need_ok ?_
    rw [List.length_append, List.length_append]
    omega
  have hfirst : (before ++ (e.bytes next ++ rest))[before.length]? = some next := by
    have hafter := getElem?_after before (e.bytes next ++ rest) 0
    rw [Nat.add_zero] at hafter
    rw [hafter]
    cases e <;> rfl
  have hunits : ∀ units, (e.bytes next)[1]? = some units →
      (before ++ (e.bytes next ++ rest))[before.length + 1]? = some units := by
    intro units hu
    rw [getElem?_after, List.getElem?_append_left (by omega), hu]
  unfold extension
  cases e with
  | options kind units body =>
    obtain ⟨hkind, hbody⟩ := h
    have hk : (options kind units body).kind = kind := rfl
    rw [hk, if_pos hkind, hneed 2 (by omega), except_ok_bind, index_ok (hunits units rfl), except_ok_bind,
      index_ok hfirst, except_ok_bind, ← hbody]
    rfl
  | fragment reserved field identification =>
    have hfield : field.toNat < 8 := h
    have hc : ¬ ((44 : UInt8) = 0 ∨ (44 : UInt8) = 43 ∨ (44 : UInt8) = 60) := by decide
    have hread := fun f => @field16_after (Option (Nat × UInt8)) before
      ((Extension.fragment reserved field identification).bytes next ++ rest) 2 4 _ _ rfl rfl f
    rw [u16OfBe_toBe] at hread
    have hk : (Extension.fragment reserved field identification).kind = 44 := rfl
    rw [hk, if_neg hc, if_pos rfl, hneed 8 (by omega), except_ok_bind, hread, if_neg (by omega),
      index_ok hfirst]
    rfl
  | authentication units body =>
    have hbody : body.length + 2 = (units.toNat + 2) * 4 := h
    have hc : ¬ ((51 : UInt8) = 0 ∨ (51 : UInt8) = 43 ∨ (51 : UInt8) = 60) := by decide
    have hd : ¬ (51 : UInt8) = 44 := by decide
    have hk : (authentication units body).kind = 51 := rfl
    rw [hk, if_neg hc, if_neg hd, if_pos rfl, hneed 2 (by omega), except_ok_bind,
      index_ok (hunits units rfl), except_ok_bind, index_ok hfirst, except_ok_bind, ← hbody]
    rfl

theorem extension_transport {kind : UInt8} (h : IsTransport kind) (bytes : Bytes) (offset : Nat) :
    extension bytes kind offset = .ok none := by
  obtain ⟨hoptions, hfragment, hauth⟩ := h
  unfold extension
  rw [if_neg hoptions, if_neg hfragment, if_neg hauth]
  rfl

/-- The walk over a chain ends at its transport, when it has turns left for it. -/
theorem walkExtensions_chain {transport : UInt8} (ht : IsTransport transport) {es : List Extension}
    (hes : ∀ e ∈ es, e.WellFormed) (before rest : Bytes) {turns : Nat} (hturns : es.length < turns)
    (hsize : before.length + 2048 * es.length < 2 ^ 64) :
    walkExtensions (before ++ (chainBytes transport es ++ rest)) (firstKind transport es)
        before.length turns =
      .ok (transport, before.length + (chainBytes transport es).length) := by
  induction es generalizing before turns with
  | nil =>
    obtain ⟨n, rfl⟩ : ∃ n, turns = n + 1 := ⟨turns - 1, by rw [List.length_nil] at hturns; omega⟩
    rw [walkExtensions, show firstKind transport [] = transport from rfl, extension_transport ht]
    rfl
  | cons e es ih =>
    obtain ⟨n, rfl⟩ : ∃ n, turns = n + 1 := ⟨turns - 1, by omega⟩
    rw [List.length_cons] at hturns hsize
    have he := hes e List.mem_cons_self
    have hlen := e.length_bytes_le he (firstKind transport es)
    have hbytes : before ++ (chainBytes transport (e :: es) ++ rest) =
        before ++ (e.bytes (firstKind transport es) ++ (chainBytes transport es ++ rest)) := by
      rw [chainBytes, List.append_assoc]
    have hnext : before ++ (e.bytes (firstKind transport es) ++ (chainBytes transport es ++ rest)) =
        (before ++ e.bytes (firstKind transport es)) ++ (chainBytes transport es ++ rest) :=
      (List.append_assoc _ _ _).symm
    have hadd : checkedAdd before.length (e.bytes (firstKind transport es)).length =
        some (before ++ e.bytes (firstKind transport es)).length := by
      rw [List.length_append]
      exact if_pos (by omega)
    have hneed : need (before ++ (e.bytes (firstKind transport es) ++ (chainBytes transport es ++ rest)))
        (before ++ e.bytes (firstKind transport es)).length = .ok () := by
      refine need_ok ?_
      simp only [List.length_append]
      omega
    have htail := @ih (fun f hf => hes f (List.mem_cons_of_mem e hf))
      (before ++ e.bytes (firstKind transport es)) n (by omega)
      (by rw [List.length_append]; omega)
    rw [hbytes, walkExtensions, show firstKind transport (e :: es) = e.kind from rfl,
      extension_bytes he, except_ok_bind]
    show (if (e.bytes (firstKind transport es)).length = 0 then _ else _) = _
    rw [if_neg (by omega), hadd]
    show (need _ _ >>= _) = _
    rw [hneed, except_ok_bind, hnext, htail, chainBytes, List.length_append, List.length_append,
      Nat.add_assoc]

structure Ipv6Header where
  trafficHigh : Fin 16
  trafficLow : UInt8
  flow : UInt16
  payloadLength : UInt16
  hopLimit : UInt8
  source : Octets 16
  destination : Octets 16
  chain : List Extension
  transport : UInt8
  wellFormed : ∀ e ∈ chain, e.WellFormed
  length_chain : chain.length ≤ 15
  isTransport : IsTransport transport

namespace Ipv6Header

/-- The first 40 bytes. -/
def fixed (h : Ipv6Header) : Bytes :=
  [UInt8.ofNat (96 + h.trafficHigh), h.trafficLow] ++ u16ToBe h.flow ++ u16ToBe h.payloadLength ++
    [firstKind h.transport h.chain, h.hopLimit] ++ h.source.val ++ h.destination.val

def bytes (h : Ipv6Header) : Bytes := h.fixed ++ chainBytes h.transport h.chain

theorem length_fixed (h : Ipv6Header) : h.fixed.length = 40 := by
  have hs := h.source.property
  have hd := h.destination.property
  simp only [fixed, List.length_append, List.length_cons, List.length_nil, length_u16ToBe]
  omega

theorem length_bytes (h : Ipv6Header) :
    h.bytes.length = 40 + (chainBytes h.transport h.chain).length := by
  rw [bytes, List.length_append, length_fixed]

theorem high_first (h : Ipv6Header) : high (UInt8.ofNat (96 + h.trafficHigh)) = 6 := by
  have ht := h.trafficHigh.isLt
  unfold high
  rw [UInt8.toNat_ofNat']
  omega

theorem getElem?_first (h : Ipv6Header) (rest : Bytes) :
    (h.bytes ++ rest)[0]? = some (UInt8.ofNat (96 + h.trafficHigh)) := rfl

theorem ipv6Source_bytes (h : Ipv6Header) (rest : Bytes) :
    ipv6Source (h.bytes ++ rest) = .ok (.v6 h.source) := by
  have hs := h.source.property
  have hslice : (slice (h.bytes ++ rest) 8 24 : Parse Bytes) = .ok h.source.val := by
    have hbytes : h.bytes ++ rest = ([UInt8.ofNat (96 + h.trafficHigh), h.trafficLow] ++
        u16ToBe h.flow ++ u16ToBe h.payloadLength ++ [firstKind h.transport h.chain, h.hopLimit]) ++
        (h.source.val ++ (h.destination.val ++ chainBytes h.transport h.chain ++ rest)) := by
      simp only [bytes, fixed, List.append_assoc]
    rw [hbytes]
    refine slice_after _ (i := 0) (j := 16) ?_ (by omega) (by omega)
    rw [List.drop_zero, List.take_left]
  unfold ipv6Source
  rw [hslice, except_ok_bind]
  unfold exactly
  rw [dif_pos hs]
  rfl

/-- The transport of a header, and where it starts. -/
theorem ipv6Transport_bytes (h : Ipv6Header) (rest : Bytes) :
    ipv6Transport (h.bytes ++ rest) = .ok (h.transport, h.bytes.length) := by
  have hneed : need (h.bytes ++ rest) 40 = .ok () := by
    refine need_ok ?_
    rw [List.length_append, length_bytes]
    omega
  have hnext : (h.bytes ++ rest)[6]? = some (firstKind h.transport h.chain) := rfl
  have hchain := h.length_chain
  have hwalk := @walkExtensions_chain _ h.isTransport _ h.wellFormed h.fixed rest 16
    (by omega) (by rw [length_fixed]; omega)
  rw [length_fixed] at hwalk
  unfold ipv6Transport
  rw [hneed, except_ok_bind, index_ok hnext, except_ok_bind, length_bytes,
    show h.bytes ++ rest = h.fixed ++ (chainBytes h.transport h.chain ++ rest) from
      List.append_assoc _ _ _]
  exact hwalk

end Ipv6Header

end NetworkLantern.Packet
