import NetworkLantern.Lib.ParseFloat
import NetworkLantern.Lib.Serde
import NetworkLantern.Runtime.Contracts

/-!
# Configuration layers

Defaults, a profile, a configuration and explicit overrides are merged key by
key; keys are matched without case, and stored keys of the older scripts are
translated first.
-/

namespace NetworkLantern.Runtime

open NetworkLantern

/-- `Error::validation`. -/
def Error.validation (message : Str) : Error := Error.new .validation message

/-- The message of `serde_json` for a value it does not read as the named type. -/
class Refusals where
  text : Str → Json → Str

/-- What a reader refuses becomes a validation error. -/
def decoded {α : Type} [Refusals] (type : Str) (v : Json) (result : Option α) : Except Error α :=
  match result with
  | some x => .ok x
  | none => .error (.validation (Refusals.text type v))

theorem decoded_eq_ok {α : Type} [Refusals] {type : Str} {v : Json} {result : Option α} {x : α} :
    decoded type v result = .ok x ↔ result = some x := by
  cases result <;> simp [decoded]

/-! ## Merging -/

/-- `known.iter().find(|candidate| candidate.eq_ignore_ascii_case(key))`. -/
def findKey (known : List Str) (key : Str) : Option Str := known.find? fun c => Str.eqCI c key

/-- A merged map, and the warnings so far. -/
abbrev Merged := Entries Json × List Str

def mergeEntry (known : List Str) (strict : Bool) (acc : Merged) (e : Str × Json) :
    Except Error Merged :=
  match findKey known e.1 with
  | some canonical => .ok (Entries.insert canonical e.2 acc.1, acc.2)
  | none =>
    if strict then
      .error (.validation ("Unknown configuration key '".toList ++ e.1 ++
        "' (rejected by --strict)".toList))
    else .ok (acc.1, acc.2 ++ ["Unknown configuration key '".toList ++ e.1 ++ "' ignored".toList])

def mergeLayer (known : List Str) (strict : Bool) (acc : Merged) (layer : Json) :
    Except Error Merged :=
  match layer.asObject with
  | none => .error (.validation "Configuration must be an object")
  | some entries => entries.foldlM (mergeEntry known strict) acc

def mergeLayers (defaults : Entries Json) (layers : List Json) (strict : Bool) :
    Except Error Merged :=
  layers.foldlM (mergeLayer (Entries.keys defaults) strict) (defaults, [])

/-- The known key that a key stands for, where no two known keys agree without case. -/
theorem findKey_eq_some {known : List Str} (hn : (known.map Str.lower).Nodup) {key c : Str} :
    findKey known key = some c ↔ c ∈ known ∧ Str.lower c = Str.lower key := by
  induction known with
  | nil => simp [findKey]
  | cons d known ih =>
    obtain ⟨hd, hknown⟩ := List.nodup_cons.mp hn
    have hstep : findKey (d :: known) key =
        if Str.eqCI d key then some d else findKey known key := by
      unfold findKey
      rw [List.find?_cons]
      split <;> simp_all
    rw [hstep]
    by_cases hdk : Str.eqCI d key = true
    · rw [if_pos hdk]
      have hlow := (Str.eqCI_iff d key).mp hdk
      constructor
      · intro h
        cases h
        exact ⟨List.mem_cons_self, hlow⟩
      · rintro ⟨hc, hck⟩
        rcases List.mem_cons.mp hc with rfl | hc
        · rfl
        · exact absurd (List.mem_map.mpr ⟨c, hc, hck.trans hlow.symm⟩) hd
    · rw [if_neg hdk, ih hknown]
      constructor
      · rintro ⟨hc, hck⟩
        exact ⟨List.mem_cons_of_mem d hc, hck⟩
      · rintro ⟨hc, hck⟩
        rcases List.mem_cons.mp hc with rfl | hc
        · exact absurd ((Str.eqCI_iff c key).mpr hck) hdk
        · exact ⟨hc, hck⟩

/-- A layer whose keys are all known goes over the defaults, without a warning. -/
theorem mergeLayers_known {defaults entries : Entries Json} {strict : Bool}
    (hn : ((Entries.keys defaults).map Str.lower).Nodup)
    (hk : ∀ k ∈ Entries.keys entries, k ∈ Entries.keys defaults) :
    mergeLayers defaults [.object entries] strict =
      .ok (entries.foldl (fun es e => Entries.insert e.1 e.2 es) defaults, []) := by
  have hfold : ∀ (es merged : Entries Json), (∀ k ∈ Entries.keys es, k ∈ Entries.keys defaults) →
      es.foldlM (mergeEntry (Entries.keys defaults) strict) (merged, ([] : List Str)) =
        .ok (es.foldl (fun es e => Entries.insert e.1 e.2 es) merged, []) := by
    intro es
    induction es with
    | nil => intro merged _; rfl
    | cons e es ih =>
      intro merged hes
      have he : e.1 ∈ Entries.keys defaults := hes e.1 List.mem_cons_self
      rw [List.foldlM_cons, mergeEntry, (findKey_eq_some hn).mpr ⟨he, rfl⟩]
      exact ih _ fun k hk => hes k (List.mem_cons_of_mem e.1 hk)
  show (mergeLayer (Entries.keys defaults) strict (defaults, []) (.object entries) >>= _) = _
  rw [show mergeLayer (Entries.keys defaults) strict (defaults, []) (.object entries) = _ from
    hfold entries defaults hk]
  rfl

/-- A layer that holds exactly the known keys takes the place of the defaults. -/
theorem mergeLayers_full {defaults entries : Entries Json} {strict : Bool}
    (hn : ((Entries.keys defaults).map Str.lower).Nodup) (hd : Entries.Sorted defaults)
    (he : Entries.Sorted entries) (hk : ∀ k, k ∈ Entries.keys entries ↔ k ∈ Entries.keys defaults) :
    mergeLayers defaults [.object entries] strict = .ok (entries, []) := by
  rw [mergeLayers_known hn fun k h => (hk k).mp h]
  have hext : entries.foldl (fun es e => Entries.insert e.1 e.2 es) defaults = entries := by
    refine (Entries.sorted_foldl_insert entries hd).ext he fun k => ?_
    rw [Entries.get?_foldl_insert_of_nodup he.nodup]
    show (Entries.get? entries k).or (Entries.get? defaults k) = Entries.get? entries k
    by_cases hin : k ∈ Entries.keys entries
    · obtain ⟨v, hv⟩ := Option.isSome_iff_exists.mp ((Entries.get?_isSome entries k).mpr hin)
      rw [hv]
      rfl
    · have hout : k ∉ Entries.keys defaults := fun h => hin ((hk k).mpr h)
      rw [← Entries.get?_isSome, Option.not_isSome_iff_eq_none] at hin hout
      rw [hin, hout]
      rfl
  rw [hext]

/-! ## Stored PowerShell keys -/

def legacyNames : List (Str × Str) :=
  [("skipreachabilitycheck", "skip_reachability_check"),
   ("disablemtuprobe", "disable_mtu_probe"),
   ("mtusizes", "mtu_sizes"),
   ("thresholdminthroughputmbps", "min_throughput_mbps"),
   ("thresholdmaxlosspct", "max_loss_pct"),
   ("thresholdmaxjitterms", "max_jitter_ms"),
   ("duration", "duration_secs"),
   ("omit", "omit_secs"),
   ("singletest", "single_test"),
   ("udpstart", "udp_start_bps"),
   ("udpmax", "udp_max_bps"),
   ("udpstep", "udp_step_bps"),
   ("udplossthreshold", "udp_loss_threshold_pct"),
   ("tcpstreams", "tcp_streams"),
   ("tcpwindows", "tcp_windows_bytes"),
   ("dscpclasses", "dscp_classes"),
   ("ipversion", "ip_version"),
   ("retrycount", "retry"),
   ("maxtotaltests", "max_total_tests"),
   ("connecttimeoutms", "connect_timeout_ms"),
   ("target", "target"),
   ("port", "port"),
   ("protocol", "protocol")]

/-- The native name of a stored key; another key keeps its own. -/
def legacyName (key : Str) : Str := (List.lookup (Str.lower key) legacyNames).getD key

/-- The digits of a quantity and the factor of its suffix. -/
def splitQuantity (base : Nat) (text : Str) : Str × Nat :=
  match text.getLast?.map Char.toLower with
  | some 'k' => (text.dropLast, base)
  | some 'm' => (text.dropLast, base ^ 2)
  | some 'g' => (text.dropLast, base ^ 3)
  | _ => (text, 1)

/-- `u64::MAX as f64`. -/
def u64MaxFloat : Float := 18446744073709551616.0

def parseQuantity (v : Json) (base : Nat) : Except Error UInt64 :=
  match v.asU64, v.asStr with
  | some n, _ => .ok n
  | none, none => .error (.validation "Expected rate/size string")
  | none, some text =>
    let (digits, multiplier) := splitQuantity base (Str.trim text)
    match parseFloat digits with
    | none => .error (.validation "Invalid rate or size")
    | some number =>
      let scaled := number * (UInt64.ofNat multiplier).toFloat
      if !scaled.isFinite || decide (scaled < 0.0) || decide (u64MaxFloat ≤ scaled) then
        .error (.validation "Rate/size outside supported range")
      else .ok scaled.toUInt64

def parseWindow (v : Json) : Except Error UInt64 := parseQuantity v 1024

def parseRate (v : Json) : Except Error UInt64 := parseQuantity v 1000

/-- One entry of `TcpWindows`. -/
def legacyWindow (v : Json) : Except Error Json :=
  if v.asStr.any (Str.eqCI · "default") then .ok .null else (parseWindow v).map .ofNat

/-- The native value of a stored key, given the key in lower case. -/
def legacyValue (lower : Str) (v : Json) : Except Error Json :=
  if lower = "udpstart".toList || lower = "udpmax".toList || lower = "udpstep".toList then
    (parseRate v).map .ofNat
  else if lower = "tcpwindows".toList then
    match v.asArray with
    | none => .error (.validation "TcpWindows must be an array")
    | some values => (values.mapM legacyWindow).map .array
  else if lower = "retrycount".toList then
    .ok (.ofFields [("max_retries", v), ("backoff_ms", .ofNat 2000)])
  else if lower = "protocol".toList || lower = "ipversion".toList then
    match v.asStr with
    | none => .error (.validation "Expected a string")
    | some s => .ok (.string (Str.lower s))
  else .ok v

/-- The stored keys, in lower case, whose values are not taken over as they are. -/
def translatedKeys : List Str :=
  ["udpstart", "udpmax", "udpstep", "tcpwindows", "retrycount", "protocol", "ipversion"]

theorem legacyValue_plain {lower : Str} (h : lower ∉ translatedKeys) (v : Json) :
    legacyValue lower v = .ok v := by
  simp only [translatedKeys, List.mem_cons, List.not_mem_nil, or_false, not_or] at h
  obtain ⟨hstart, hmax, hstep, hwindows, hretry, hprotocol, hversion⟩ := h
  unfold legacyValue
  simp only [decide_eq_false hstart, decide_eq_false hmax, decide_eq_false hstep,
    decide_eq_false hprotocol, decide_eq_false hversion, if_neg hwindows, if_neg hretry,
    Bool.or_self, Bool.false_eq_true, if_false]

def legacyEntry (out : Entries Json) (e : Str × Json) : Except Error (Entries Json) := do
  let v ← legacyValue (Str.lower e.1) e.2
  return Entries.insert (legacyName e.1) v out

/-- `legacy_throughput`. -/
def legacyThroughput (input : Json) : Except Error Json :=
  match input.asObject with
  | none => .error (.validation "Throughput configuration must be an object")
  | some entries => (entries.foldlM legacyEntry []).map .object

/-- An entry that the translation leaves as it is. -/
def Native (e : Str × Json) : Prop :=
  legacyName e.1 = e.1 ∧ legacyValue (Str.lower e.1) e.2 = .ok e.2

theorem legacyThroughput_native {entries : Entries Json} (hs : Entries.Sorted entries)
    (h : ∀ e ∈ entries, Native e) : legacyThroughput (.object entries) = .ok (.object entries) := by
  have hfold : ∀ (es out : Entries Json), (∀ e ∈ es, Native e) →
      es.foldlM legacyEntry out =
        Except.ok (es.foldl (fun es e => Entries.insert e.1 e.2 es) out) := by
    intro es
    induction es with
    | nil => intro out _; rfl
    | cons e es ih =>
      intro out hes
      obtain ⟨hname, hvalue⟩ := hes e List.mem_cons_self
      rw [List.foldlM_cons, legacyEntry, hvalue, hname]
      exact ih _ fun f hf => hes f (List.mem_cons_of_mem e hf)
  show (entries.foldlM legacyEntry []).map Json.object = _
  rw [hfold entries [] h, show entries.foldl (fun es e => Entries.insert e.1 e.2 es) [] = entries
    from hs.ofFields_self]
  rfl

end NetworkLantern.Runtime
