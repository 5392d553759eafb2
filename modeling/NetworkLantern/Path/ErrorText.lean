import Mathlib.Data.List.Forall2
import NetworkLantern.Lib.JsonSize
import NetworkLantern.Path.Types
import NetworkLantern.Runtime.Contracts

/-!
# The errors of a trace run

A run keeps at most 16 KiB of error texts.  Probes and name lookups fill them up
to 256 bytes less, and the end of the run cuts whatever is too much: in order, and
between two characters (`retain_cut`).
-/

namespace NetworkLantern.Path

open NetworkLantern

def MAX_ERROR_BYTES : Nat := 16 * 1024

/-- `LIMIT`: the rest is for terminal status diagnostics. -/
def EXTEND_LIMIT : Nat := MAX_ERROR_BYTES - 256

def byteTotal (errors : List Str) : Nat := (errors.map Str.byteLen).sum

/-- What is kept of messages after `retained` bytes: of each of them as much as is left of
`limit`, until nothing is left. -/
def retain (limit : Nat) : Nat → List Str → List Str
  | _, [] => []
  | retained, message :: messages =>
    if limit ≤ retained then []
    else
      let kept := Runtime.boundedText message (limit - retained)
      kept :: retain limit (retained + kept.byteLen) messages

def extendErrors (errors incoming : List Str) : List Str :=
  errors ++ retain EXTEND_LIMIT (byteTotal errors) incoming

def normalizeErrors (errors : List Str) : List Str :=
  (retain MAX_ERROR_BYTES 0 errors).filter (· ≠ [])

/-! ## Cuts -/

/-- The first bytes of a message, which end between two of its characters. -/
def CutOf (cut message : Str) : Prop := Str.takeBytes cut.byteLen message = some cut

theorem isPrefix_of_takeBytes {n : Nat} {s t : Str} (h : Str.takeBytes n s = some t) : t <+: s := by
  obtain ⟨rest, rfl⟩ := Str.append_of_takeBytes h
  exact List.prefix_append _ _

theorem cutOf_iff {cut message : Str} : CutOf cut message ↔ cut <+: message := by
  constructor
  · exact isPrefix_of_takeBytes
  · rintro ⟨rest, rfl⟩
    exact Str.takeBytes_append cut rest

instance : IsTrans Str CutOf where
  trans _ _ _ h h' := cutOf_iff.mpr ((cutOf_iff.mp h).trans (cutOf_iff.mp h'))

instance : Std.Refl CutOf where
  refl _ := cutOf_iff.mpr (List.prefix_refl _)

theorem boundedText_cut (message : Str) (limit : Nat) :
    CutOf (Runtime.boundedText message limit) message :=
  cutOf_iff.mpr (isPrefix_of_takeBytes (Runtime.takeBytes_boundedText message limit))

/-- A message that fits is not cut. -/
theorem boundedText_of_le {message : Str} {limit : Nat} (h : message.byteLen ≤ limit) :
    Runtime.boundedText message limit = message := by
  have hall : Str.takeBytes message.byteLen message = some message := by
    have happ := Str.takeBytes_append message []
    rwa [List.append_nil] at happ
  have hend : Runtime.boundaryBelow message message.byteLen = message.byteLen := by
    cases hlen : message.byteLen with
    | zero => rfl
    | succ n =>
      rw [hlen] at hall
      rw [Runtime.boundaryBelow, Runtime.isCharBoundary, hall]
      rfl
  have htake := Runtime.takeBytes_boundedText message limit
  rw [Nat.min_eq_left h, hend, hall, Option.some.injEq] at htake
  exact htake.symm

/-! ## What is retained -/

theorem byteTotal_cons (message : Str) (messages : List Str) :
    byteTotal (message :: messages) = message.byteLen + byteTotal messages := List.sum_cons

theorem byteTotal_append (errors more : List Str) :
    byteTotal (errors ++ more) = byteTotal errors + byteTotal more := by
  rw [byteTotal, List.map_append, List.sum_append]
  rfl

theorem byteTotal_filter_le (p : Str → Bool) (errors : List Str) :
    byteTotal (errors.filter p) ≤ byteTotal errors :=
  (List.filter_sublist.map _).sum_le_sum fun _ _ => Nat.zero_le _

/-- No more than what was left. -/
theorem byteTotal_retain_le (limit retained : Nat) (messages : List Str) :
    byteTotal (retain limit retained messages) ≤ limit - retained := by
  induction messages generalizing retained with
  | nil => exact Nat.zero_le _
  | cons message messages ih =>
    unfold retain
    split
    · exact Nat.zero_le _
    · have hkept := Runtime.byteLen_boundedText_le message (limit - retained)
      have hrest := ih (retained + (Runtime.boundedText message (limit - retained)).byteLen)
      rw [byteTotal_cons]
      omega

/-- In order, and each one a cut of its message. -/
theorem retain_cut (limit retained : Nat) (messages : List Str) :
    List.Forall₂ CutOf (retain limit retained messages)
      (messages.take (retain limit retained messages).length) := by
  induction messages generalizing retained with
  | nil => exact .nil
  | cons message messages ih =>
    unfold retain
    split
    · exact .nil
    · exact .cons (boundedText_cut _ _) (ih _)

theorem retain_of_full {limit retained : Nat} (h : limit ≤ retained) (messages : List Str) :
    retain limit retained messages = [] := by
  cases messages with
  | nil => rfl
  | cons message messages => exact if_pos h

theorem filter_ne_nil_of_byteTotal {messages : List Str} (h : byteTotal messages = 0) :
    messages.filter (· ≠ []) = [] := by
  refine List.filter_eq_nil_iff.mpr fun m hm => ?_
  have hle := List.single_le_sum (l := messages.map Str.byteLen) (fun _ _ => Nat.zero_le _) _
    (List.mem_map_of_mem hm)
  have hempty : m = [] := by
    by_contra hne
    have hpos := Str.byteLen_pos hne
    unfold byteTotal at h
    omega
  rw [hempty]
  decide

/-- Messages that fit are kept as they are, but for empty ones, and the others have what is
left. -/
theorem retain_append_of_le {limit retained : Nat} {messages : List Str}
    (h : retained + byteTotal messages ≤ limit) (more : List Str) :
    (retain limit retained (messages ++ more)).filter (· ≠ []) =
      messages.filter (· ≠ []) ++
        (retain limit (retained + byteTotal messages) more).filter (· ≠ []) := by
  induction messages generalizing retained with
  | nil => rfl
  | cons message messages ih =>
    by_cases hfull : limit ≤ retained
    · have hempty := @filter_ne_nil_of_byteTotal (message :: messages) (by omega)
      rw [retain_of_full hfull, retain_of_full (by omega), hempty]
      rfl
    · rw [byteTotal_cons] at h
      have hcons : retain limit retained (message :: messages ++ more) =
          message :: retain limit (retained + message.byteLen) (messages ++ more) := by
        rw [List.cons_append, retain, if_neg hfull]
        have hwhole := @boundedText_of_le message (limit - retained) (by omega)
        simp only [hwhole]
      rw [hcons, List.filter_cons, List.filter_cons, ih (by omega), byteTotal_cons, Nat.add_assoc]
      split
      · rfl
      · rfl

theorem retain_of_le {limit retained : Nat} {messages : List Str}
    (h : retained + byteTotal messages ≤ limit) :
    (retain limit retained messages).filter (· ≠ []) = messages.filter (· ≠ []) := by
  have happend := retain_append_of_le h []
  rwa [List.append_nil, retain, List.filter_nil, List.append_nil] at happend

/-! ## Extending and normalizing -/

/-- The errors before stay, and no more comes than fits. -/
theorem byteTotal_extendErrors_le (errors incoming : List Str) :
    byteTotal (extendErrors errors incoming) ≤ max (byteTotal errors) EXTEND_LIMIT := by
  have hle := byteTotal_retain_le EXTEND_LIMIT (byteTotal errors) incoming
  rw [extendErrors, byteTotal_append]
  omega

/-- Messages that fit are kept in full, but for empty ones. -/
theorem extendErrors_prefix {errors messages : List Str}
    (h : byteTotal errors + byteTotal messages ≤ EXTEND_LIMIT) (more : List Str) :
    (errors ++ messages).filter (· ≠ []) <+:
      (extendErrors errors (messages ++ more)).filter (· ≠ []) := by
  rw [extendErrors, List.filter_append, List.filter_append, retain_append_of_le h,
    ← List.append_assoc]
  exact List.prefix_append _ _

theorem byteTotal_normalizeErrors_le (errors : List Str) :
    byteTotal (normalizeErrors errors) ≤ MAX_ERROR_BYTES :=
  (byteTotal_filter_le _ _).trans (byteTotal_retain_le _ _ _)

/-- Errors that fit are kept in full, but for empty ones. -/
theorem normalizeErrors_prefix {errors : List Str} (h : byteTotal errors ≤ MAX_ERROR_BYTES)
    (more : List Str) : errors.filter (· ≠ []) <+: normalizeErrors (errors ++ more) := by
  rw [normalizeErrors, retain_append_of_le (by rwa [Nat.zero_add])]
  exact List.prefix_append _ _

/-- Errors that fit lose only the empty ones. -/
theorem normalizeErrors_of_le {errors : List Str} (h : byteTotal errors ≤ MAX_ERROR_BYTES) :
    normalizeErrors errors = errors.filter (· ≠ []) :=
  retain_of_le (by rwa [Nat.zero_add])

theorem normalizeErrors_idempotent (errors : List Str) :
    normalizeErrors (normalizeErrors errors) = normalizeErrors errors := by
  rw [normalizeErrors_of_le (byteTotal_normalizeErrors_le errors), normalizeErrors,
    List.filter_filter]
  simp

/-- In order, and each one a cut of its error. -/
theorem retain_sublist (limit retained : Nat) (messages : List Str) :
    List.SublistForall₂ CutOf (retain limit retained messages) messages :=
  List.sublistForall₂_iff.mpr ⟨_, retain_cut limit retained messages, List.take_sublist _ _⟩

theorem extendErrors_cut (errors incoming : List Str) :
    List.SublistForall₂ CutOf (extendErrors errors incoming) (errors ++ incoming) := by
  refine List.sublistForall₂_iff.mpr ⟨_, List.rel_append (List.forall₂_refl errors)
    (retain_cut EXTEND_LIMIT (byteTotal errors) incoming), ?_⟩
  exact (List.take_sublist _ _).append_left errors

theorem normalizeErrors_cut (errors : List Str) :
    List.SublistForall₂ CutOf (normalizeErrors errors) errors :=
  IsTrans.trans _ _ _ List.filter_sublist.sublistForall₂ (retain_sublist _ _ _)

/-! ## Durations -/

/-- The digits of a fraction, up to the last that is not zero. -/
def fractionDigits : Nat → Nat → Nat → Str
  | 0, _, _ => []
  | places + 1, fractional, divisor =>
    if fractional = 0 then []
    else (fractional / divisor).digitChar ::
      fractionDigits places (fractional % divisor) (divisor / 10)

/-- `fmt_decimal`, without a precision. -/
def fmtDecimal (integer fractional divisor : Nat) (suffix : Str) : Str :=
  let digits := fractionDigits 9 fractional divisor
  decimal integer ++ (if digits.isEmpty then [] else '.' :: digits) ++ suffix

/-- `impl Debug for Duration`. -/
def debugDuration (d : Duration) : Str :=
  let secs : Nat := d / 1000000000
  let nanos : Nat := d % 1000000000
  if 0 < secs then fmtDecimal secs nanos 100000000 "s"
  else if 1000000 ≤ nanos then fmtDecimal (nanos / 1000000) (nanos % 1000000) 100000 "ms"
  else if 1000 ≤ nanos then fmtDecimal (nanos / 1000) (nanos % 1000) 100 "µs"
  else fmtDecimal nanos 0 1 "ns"

theorem utf8Size_digitChar (n : Nat) : n.digitChar.utf8Size = 1 := by
  by_cases h : n < 16
  · have hall : ∀ k < 16, k.digitChar.utf8Size = 1 := by decide
    exact hall n h
  · have hstar : n.digitChar = '*' := by
      unfold Nat.digitChar
      simp only [show ∀ k < 16, n ≠ k by omega, Nat.reduceLT, if_false]
    rw [hstar]
    rfl

theorem byteLen_fractionDigits_le (places fractional divisor : Nat) :
    (fractionDigits places fractional divisor).byteLen ≤ places := by
  induction places generalizing fractional divisor with
  | zero => exact Nat.le_refl 0
  | succ places ih =>
    unfold fractionDigits
    split
    · exact Nat.zero_le _
    · have hrest := ih (fractional % divisor) (divisor / 10)
      rw [Str.byteLen_cons, utf8Size_digitChar]
      omega

theorem byteLen_fmtDecimal_le {integer k : Nat} (hk : 0 < k) (h : integer < 10 ^ k)
    (fractional divisor : Nat) (suffix : Str) :
    (fmtDecimal integer fractional divisor suffix).byteLen ≤ k + 10 + suffix.byteLen := by
  have hint := (byteLen_decimal_le_iff hk).mpr h
  have hdigits := byteLen_fractionDigits_le 9 fractional divisor
  have hdot : ('.' : Char).utf8Size = 1 := rfl
  simp only [fmtDecimal, Str.byteLen_append]
  split
  · rw [Str.byteLen_nil]
    omega
  · rw [Str.byteLen_cons, hdot]
    omega

/-- No duration of a day is long to write. -/
theorem byteLen_debugDuration_le {d : Duration} (h : d ≤ fromSecs 86400) :
    (debugDuration d).byteLen ≤ 16 := by
  have hsecs : d / 1000000000 < 10 ^ 5 :=
    Nat.lt_of_le_of_lt (Nat.div_le_div_right h) (by decide)
  simp only [debugDuration]
  split
  · exact byteLen_fmtDecimal_le (by decide) hsecs _ _ _
  · split
    · exact (byteLen_fmtDecimal_le (k := 3) (by omega) (by omega) _ _ _).trans (by decide)
    · split
      · exact (byteLen_fmtDecimal_le (k := 3) (by omega) (by omega) _ _ _).trans (by decide)
      · exact (byteLen_fmtDecimal_le (k := 3) (by omega) (by omega) _ _ _).trans (by decide)

example : debugDuration 90000000000 = "90s" := by decide

end NetworkLantern.Path
