import NetworkLantern.Lib.Timed
import NetworkLantern.Helper.Protocol
import NetworkLantern.Helper.Service

/-!
# The helper transports under a clock

A client sends one operation over a connection and waits for the reply; the
server runs the operation, watches the connection meanwhile, and takes its end
for a cancel request.  A reply that is too long for a frame is not written, and
the connection ends without one.

    transports_agree_iff    which operations are answered
-/

namespace NetworkLantern.Helper

open NetworkLantern

/-! ## The code -/

def FRAME_TIMEOUT : Nat := secs 5
def CONNECTION_CLEANUP_TIMEOUT : Nat := secs 12
def OPERATION_TIMEOUT : Nat := secs 86400

inductive WireError
  | validation (message : Str)
  | authorization (message : Str)
  | unavailable (message : Str)
  | authentication
  | replay
  | scope (message : Str)
  | protocol (message : Str)
  | transport (message : Str)
  | cancelled
  | tuning (message : Str)
  | probe (message : Str)
  | diagnostic (error : Runtime.Error)
deriving DecidableEq, Repr

/-- `From<HelperError> for WireError`. -/
def WireError.ofHelper : HelperError → WireError
  | .validation message => .validation message
  | .authorization message => .authorization message
  | .unavailable message => .unavailable message
  | .authentication => .authentication
  | .replay => .replay
  | .scope message => .scope message
  | .protocol message => .protocol message
  | .transport operation source => .transport (operation ++ ": " ++ source)
  | .cancelled => .cancelled
  | .tuning message => .tuning message
  | .probe message => .probe message
  | .diagnostic error => .diagnostic error

/-- `From<WireError> for HelperError`. -/
def WireError.toHelper : WireError → HelperError
  | .validation message => .validation message
  | .authorization message => .authorization message
  | .unavailable message => .unavailable message
  | .authentication => .authentication
  | .replay => .replay
  | .scope message => .scope message
  | .protocol message => .protocol message
  | .transport message => .transport "remote helper" message
  | .cancelled => .cancelled
  | .tuning message => .tuning message
  | .probe message => .probe message
  | .diagnostic error => .diagnostic error

/-- Errors that a transport makes itself. -/
inductive FromTransport : HelperError → Prop
  | transport (operation source : Str) : FromTransport (.transport operation source)
  | refused : FromTransport (.protocol "Response exceeds 1 MiB")
  | deadline (message : Str) : FromTransport (.unavailable message)

/-- What an operation returns.  None of its errors is one of the transport. -/
abbrev Outcome (ν : Type) := { o : Except HelperError ν // ∀ e, o = .error e → ¬ FromTransport e }

variable {ν : Type}

/-- How long each frame takes that is not the reply's header, and when a pipe
instance is free. -/
structure Delays where
  connect : Nat
  free : Nat
  write : Nat
  body : Nat

/-- The attempts to open the pipe, 20 milliseconds apart. -/
def openPipe (free deadline : Nat) : Nat → Timed HelperError Unit
  | 0 => .done (.error (.unavailable "Windows helper connection timed out"))
  | attempts + 1 => do
    let now ← .now
    if free ≤ now then return ()
    else if deadline ≤ now then .done (.error (.unavailable "Windows helper connection timed out"))
    else do
      Timed.after 20000000 ()
      openPipe free deadline attempts

/-- Connecting, on the side of the client. -/
def connect (p : Platform) (d : Delays) : Timed HelperError Unit :=
  match p with
  | .linux => .within FRAME_TIMEOUT (.unavailable "Helper connection timed out") (.after d.connect ())
  | .windows => do
    let now ← .now
    openPipe d.free (now + FRAME_TIMEOUT) (FRAME_TIMEOUT / 20000000 + 1)

/-- The lengths that a frame may have: 1 byte to 1 MiB. -/
def FitsFrame (length : Nat) : Prop := 0 < length ∧ length ≤ MAX_FRAME_BYTES

instance (length : Nat) : Decidable (FitsFrame length) := inferInstanceAs (Decidable (_ ∧ _))

/-- `write_frame`, of a value of so many bytes. -/
def writeFrame (length delay : Nat) : Timed HelperError Unit :=
  if FitsFrame length then
    .within FRAME_TIMEOUT (.protocol "Frame write timed out") (.after delay ())
  else .done (.error (.protocol "Response exceeds 1 MiB"))

/-- `read_body`. -/
def readBody (length delay : Nat) : Timed HelperError Unit :=
  if FitsFrame length then
    .within FRAME_TIMEOUT (.protocol "Frame body timed out") (.after delay ())
  else .done (.error (.protocol "Frame length must be 1 byte through 1 MiB"))

/-- How long a reply is in bytes, as `serde_json` writes it. -/
class Encoded (ν : Type) where
  length : Except WireError ν → Nat

/-- What comes instead of the header of a reply, or its length and the reply itself. -/
inductive Header (ν : Type)
  | closed
  | reply (length : Nat) (r : Except WireError ν)

def eofError : Platform → HelperError
  | .linux => .transport "read response length" "early eof"
  | .windows => .transport "read helper response length" "early eof"

def Header.read (p : Platform) : Header ν → Except HelperError (Nat × Except WireError ν)
  | closed => .error (eofError p)
  | reply length r => .ok (length, r)

/-- The header of the reply, which Windows bounds. -/
def readHeader (p : Platform) (header : Option (Nat × Header ν)) :
    Timed HelperError (Nat × Except WireError ν) :=
  let arrival := .arrives (header.map fun (t, h) => (t, h.read p))
  match p with
  | .linux => arrival
  | .windows => .within FRAME_TIMEOUT (.protocol "response header timed out") arrival

def deadlineError : Platform → HelperError
  | .linux => .unavailable "Helper operation deadline exceeded"
  | .windows => .unavailable "Windows helper operation deadline exceeded"

/-- `roundtrip` on Linux and `exchange` on Windows, with a request of so many bytes.  `header` is
what would arrive for the header of the reply if the request was written at a given time. -/
def roundtrip (p : Platform) (d : Delays) (request : Nat)
    (header : Nat → Option (Nat × Header ν)) : Timed HelperError ν :=
  .within OPERATION_TIMEOUT (deadlineError p) do
    connect p d
    writeFrame request d.write
    let asked ← .now
    let (length, reply) ← readHeader p (header asked)
    readBody length d.body
    .done (reply.mapError WireError.toHelper)

/-- What the server did with an operation. -/
structure Served (ν : Type) where
  cancelled : Bool
  /-- When the reply is ready, and what the client sees of it. -/
  header : Option (Nat × Header ν)

/-- An operation as the server runs it: how long its request is, how long it takes and what it
returns, and the same for the case that it is cancelled. -/
structure Operation (ν : Type) where
  request : Nat
  duration : Nat
  outcome : Outcome ν
  cleanup : Nat
  remains : Outcome ν

def Outcome.wire (o : Outcome ν) : Except WireError ν := o.val.mapError WireError.ofHelper

section
variable [Encoded ν]

/-- `write_frame` of a reply: one that does not fit ends the connection. -/
def writeReply (r : Except WireError ν) : Header ν :=
  if FitsFrame (Encoded.length r) then .reply (Encoded.length r) r else .closed

/-- `serve_connection` once it has read the request, at `asked`: the operation
ends, its deadline passes, or the client closes the connection. -/
def serveConnection (p : Platform) (op : Operation ν) (asked : Nat) (closed : Option Nat) :
    Served ν :=
  if closed.any fun t => t < asked + min op.duration OPERATION_TIMEOUT then ⟨true, none⟩
  else if op.duration ≤ OPERATION_TIMEOUT then
    ⟨false, some (asked + op.duration, writeReply op.outcome.wire)⟩
  else
    match p with
    | .linux =>
      if op.cleanup ≤ CONNECTION_CLEANUP_TIMEOUT then
        ⟨true, some (asked + OPERATION_TIMEOUT + op.cleanup, writeReply op.remains.wire)⟩
      else
        ⟨true, some (asked + OPERATION_TIMEOUT + CONNECTION_CLEANUP_TIMEOUT,
          writeReply (.error (.scope "Operation cleanup timed out")))⟩
    | .windows =>
      ⟨true, some (asked + OPERATION_TIMEOUT,
        writeReply (.error (.protocol "operation deadline exceeded")))⟩

/-- When the request is written, if the client gets as far as that. -/
def asked (p : Platform) (d : Delays) (request : Nat) : Option Nat :=
  match (do connect p d; writeFrame request d.write; Timed.now : Timed HelperError Nat).run 0 with
  | some (_, .ok t) => some t
  | _ => none

/-- A client and a server together.  The client closes the connection when it is
done, so the server sees the end of it then; the reply it waits for is the one
that the server gives as long as the connection is open. -/
def run (p : Platform) (d : Delays) (op : Operation ν) : Option (Except HelperError ν) × Bool :=
  let ended := (roundtrip p d op.request fun t => (serveConnection p op t none).header).run 0
  let served := (asked p d op.request).map fun t => serveConnection p op t (ended.map Prod.fst)
  (ended.map Prod.snd, served.any Served.cancelled)

end

/-! ## The wire -/

/-- Errors that are not of the transport cross the wire unchanged. -/
theorem toHelper_ofHelper {e : HelperError} (h : ∀ operation source, e ≠ .transport operation source) :
    (WireError.ofHelper e).toHelper = e := by
  cases e with
  | transport operation source => exact absurd rfl (h operation source)
  | _ => rfl

theorem Outcome.mapError_wire (o : Outcome ν) : o.wire.mapError WireError.toHelper = o.val := by
  obtain ⟨o, ho⟩ := o
  cases o with
  | ok v => rfl
  | error e =>
    have he := toHelper_ofHelper (e := e) fun operation source heq =>
      ho e rfl (heq ▸ .transport operation source)
    show Except.error (WireError.ofHelper e).toHelper = Except.error e
    rw [he]

theorem Outcome.ne_error (o : Outcome ν) {e : HelperError} (h : FromTransport e) :
    o.val ≠ .error e := fun heq => o.property e heq h

theorem fromTransport_deadlineError (p : Platform) : FromTransport (deadlineError p) := by
  cases p <;> exact .deadline _

theorem fromTransport_eofError (p : Platform) : FromTransport (eofError p) := by
  cases p <;> exact .transport _ _

/-- An answer of the transport's own is not the outcome. -/
theorem ne_outcome {o : Outcome ν} {e : HelperError} (h : FromTransport e) (cancelled : Bool) :
    (some (Except.error e), cancelled) ≠ (some o.val, false) := by
  intro heq
  exact o.ne_error h (Option.some.inj (Prod.mk.inj heq).1).symm

/-! ## Connecting -/

/-- When a client that starts at once is connected. -/
def connected (d : Delays) : Platform → Nat
  | .linux => d.connect
  | .windows => (d.free + 19999999) / 20000000 * 20000000

/-- The attempts go on until the one that finds the pipe free. -/
theorem run_openPipe {free deadline n attempts s : Nat} (hfree : free ≤ s + n * 20000000)
    (hbusy : ∀ m, m < n → s + m * 20000000 < free) (hdeadline : free ≤ deadline)
    (hattempts : n < attempts) :
    (openPipe free deadline attempts).run s = some (s + n * 20000000, .ok ()) := by
  induction n generalizing s attempts with
  | zero =>
    obtain ⟨k, rfl⟩ := Nat.exists_eq_succ_of_ne_zero (Nat.ne_of_gt hattempts)
    unfold openPipe
    rw [Timed.run_bind_ok (Timed.run_now s), if_pos (by omega)]
    simp
  | succ n ih =>
    obtain ⟨k, rfl⟩ := Nat.exists_eq_succ_of_ne_zero (Nat.ne_of_gt (Nat.zero_lt_of_lt hattempts))
    have hnow := hbusy 0 (Nat.succ_pos n)
    have hstep : s + 20000000 + n * 20000000 = s + (n + 1) * 20000000 := by omega
    unfold openPipe
    rw [Timed.run_bind_ok (Timed.run_now s), if_neg (by omega), if_neg (by omega),
      Timed.run_bind_ok (Timed.run_after 20000000 () s), ih (by omega) ?_ (by omega), hstep]
    intro m hm
    have := hbusy (m + 1) (by omega)
    omega

/-- Connecting, the request and the body of the reply each fit their own limit. -/
structure Prompt (d : Delays) : Prop where
  connect : d.connect ≤ FRAME_TIMEOUT
  free : d.free ≤ FRAME_TIMEOUT
  write : d.write ≤ FRAME_TIMEOUT
  body : d.body ≤ FRAME_TIMEOUT

variable {p : Platform} {d : Delays}

theorem run_connect (h : Prompt d) (p : Platform) :
    (connect p d).run 0 = some (connected d p, .ok ()) := by
  have hfree := h.free
  cases p with
  | linux =>
    have hrun : (Timed.after d.connect () : Timed HelperError Unit).run 0 =
        some (d.connect, .ok ()) := by rw [Timed.run_after, Nat.zero_add]
    exact Timed.run_within hrun (by have := h.connect; omega)
  | windows =>
    unfold connect
    rw [Timed.run_bind_ok (Timed.run_now 0),
      @run_openPipe d.free _ ((d.free + 19999999) / 20000000) _ 0 (by omega) ?_ (by omega) ?_]
    · rw [Nat.zero_add]
      rfl
    · intro m hm
      omega
    · unfold FRAME_TIMEOUT secs at *
      omega

/-- Connecting takes little of the day. -/
theorem connected_le (h : Prompt d) (p : Platform) : connected d p ≤ FRAME_TIMEOUT := by
  have hconnect := h.connect
  have hfree := h.free
  cases p with
  | linux => exact hconnect
  | windows =>
    show (d.free + 19999999) / 20000000 * 20000000 ≤ FRAME_TIMEOUT
    unfold FRAME_TIMEOUT secs at *
    omega

theorem run_writeFrame {length s delay : Nat} (hfits : FitsFrame length)
    (h : delay ≤ FRAME_TIMEOUT) : (writeFrame length delay).run s = some (s + delay, .ok ()) := by
  unfold writeFrame
  rw [if_pos hfits]
  exact Timed.run_within (Timed.run_after delay () s) (by omega)

theorem run_writeFrame_refused {length s delay : Nat} (hfits : ¬ FitsFrame length) :
    (writeFrame length delay).run s = some (s, .error (.protocol "Response exceeds 1 MiB")) := by
  unfold writeFrame
  rw [if_neg hfits]
  rfl

theorem run_readBody {length s delay : Nat} (hfits : FitsFrame length) (h : delay ≤ FRAME_TIMEOUT) :
    (readBody length delay).run s = some (s + delay, .ok ()) := by
  unfold readBody
  rw [if_pos hfits]
  exact Timed.run_within (Timed.run_after delay () s) (by omega)

/-- The request is written as soon as the client is connected. -/
theorem asked_eq (h : Prompt d) (p : Platform) {request : Nat} (hfits : FitsFrame request) :
    asked p d request = some (connected d p + d.write) := by
  unfold asked
  rw [Timed.run_bind_ok (run_connect h p), Timed.run_bind_ok (run_writeFrame hfits h.write),
    Timed.run_now]

theorem asked_refused (h : Prompt d) (p : Platform) {request : Nat} (hfits : ¬ FitsFrame request) :
    asked p d request = none := by
  unfold asked
  rw [Timed.run_bind_ok (run_connect h p), Timed.run_bind_error (run_writeFrame_refused hfits)]

/-! ## The exchange -/

/-- What is there of the header at `t`. -/
theorem run_readHeader {s t : Nat} (header : Header ν) (hle : s ≤ t)
    (hwin : p = .windows → t ≤ s + FRAME_TIMEOUT) :
    (readHeader p (some (t, header))).run s = some (t, header.read p) := by
  have harrives : (Timed.arrives (some (t, header.read p)) :
      Timed HelperError (Nat × Except WireError ν)).run s = some (t, header.read p) :=
    Timed.run_arrives _ hle
  cases p with
  | linux => exact harrives
  | windows => exact Timed.run_within harrives (hwin rfl)

theorem run_readHeader_late {s t : Nat} (hp : p = .windows) (header : Header ν)
    (hlt : s + FRAME_TIMEOUT < t) :
    (readHeader p (some (t, header))).run s =
      some (s + FRAME_TIMEOUT, .error (.protocol "response header timed out")) := by
  subst hp
  have harrives : (Timed.arrives (some (t, header.read .windows)) :
      Timed HelperError (Nat × Except WireError ν)).run s = some (t, header.read .windows) :=
    Timed.run_arrives _ (by omega)
  exact Timed.run_within_late harrives hlt

/-- What the client does without its deadline. -/
def exchanged (p : Platform) (d : Delays) (request : Nat)
    (header : Nat → Option (Nat × Header ν)) : Timed HelperError ν := do
  connect p d
  writeFrame request d.write
  let asked ← .now
  let (length, reply) ← readHeader p (header asked)
  readBody length d.body
  .done (reply.mapError WireError.toHelper)

section
variable [Encoded ν] {op : Operation ν}

/-- What the client waits for when the operation ends within the day. -/
def Operation.headers (p : Platform) (op : Operation ν) (t : Nat) : Option (Nat × Header ν) :=
  (serveConnection p op t none).header

theorem headers_eq (hduration : op.duration < OPERATION_TIMEOUT) (p : Platform) (t : Nat) :
    op.headers p t = some (t + op.duration, writeReply op.outcome.wire) := by
  unfold Operation.headers serveConnection
  rw [if_neg (by simp), if_pos (Nat.le_of_lt hduration)]

/-- A request that does not fit is not sent. -/
theorem run_exchanged_refused (h : Prompt d) (p : Platform) (hfits : ¬ FitsFrame op.request) :
    (exchanged p d op.request (op.headers p)).run 0 =
      some (connected d p, .error (.protocol "Response exceeds 1 MiB")) := by
  unfold exchanged
  rw [Timed.run_bind_ok (run_connect h p), Timed.run_bind_error (run_writeFrame_refused hfits)]

/-- On Windows the client gives a longer operation up. -/
theorem run_exchanged_late (h : Prompt d) (hp : p = .windows) (hfits : FitsFrame op.request)
    (hduration : op.duration < OPERATION_TIMEOUT) (hlong : FRAME_TIMEOUT < op.duration) :
    (exchanged p d op.request (op.headers p)).run 0 =
      some (connected d p + d.write + FRAME_TIMEOUT,
        .error (.protocol "response header timed out")) := by
  unfold exchanged
  rw [Timed.run_bind_ok (run_connect h p), Timed.run_bind_ok (run_writeFrame hfits h.write),
    Timed.run_bind_ok (Timed.run_now _), headers_eq hduration]
  exact Timed.run_bind_error (run_readHeader_late hp _ (by omega))

/-- A reply that does not fit never comes. -/
theorem run_exchanged_closed (h : Prompt d) (hwin : p = .windows → op.duration ≤ FRAME_TIMEOUT)
    (hfits : FitsFrame op.request) (hduration : op.duration < OPERATION_TIMEOUT)
    (hreply : ¬ FitsFrame (Encoded.length op.outcome.wire)) :
    (exchanged p d op.request (op.headers p)).run 0 =
      some (connected d p + d.write + op.duration, .error (eofError p)) := by
  have hheader := run_readHeader (p := p) (s := connected d p + d.write)
    (t := connected d p + d.write + op.duration) (Header.closed (ν := ν)) (by omega) fun hp => by
      have := hwin hp
      omega
  unfold exchanged
  rw [Timed.run_bind_ok (run_connect h p), Timed.run_bind_ok (run_writeFrame hfits h.write),
    Timed.run_bind_ok (Timed.run_now _), headers_eq hduration, writeReply, if_neg hreply]
  exact Timed.run_bind_error hheader

/-- One that fits is read once the operation is over. -/
theorem run_exchanged (h : Prompt d) (hwin : p = .windows → op.duration ≤ FRAME_TIMEOUT)
    (hfits : FitsFrame op.request) (hduration : op.duration < OPERATION_TIMEOUT)
    (hreply : FitsFrame (Encoded.length op.outcome.wire)) :
    (exchanged p d op.request (op.headers p)).run 0 =
      some (connected d p + d.write + op.duration + d.body, op.outcome.val) := by
  have hheader := run_readHeader (p := p) (s := connected d p + d.write)
    (t := connected d p + d.write + op.duration)
    (Header.reply (Encoded.length op.outcome.wire) op.outcome.wire) (by omega) fun hp => by
      have := hwin hp
      omega
  unfold exchanged
  rw [Timed.run_bind_ok (run_connect h p), Timed.run_bind_ok (run_writeFrame hfits h.write),
    Timed.run_bind_ok (Timed.run_now _), headers_eq hduration, writeReply, if_pos hreply,
    Timed.run_bind_ok hheader, Timed.run_bind_ok (run_readBody hreply h.body), Timed.run_done,
    op.outcome.mapError_wire]

/-- What the server makes of a connection that is closed at `t`. -/
theorem serve_cancelled {a t : Nat} (h : op.duration < OPERATION_TIMEOUT) :
    (serveConnection p op a (some t)).cancelled = decide (t < a + op.duration) := by
  unfold serveConnection
  rw [Nat.min_eq_left (Nat.le_of_lt h), Option.any_some]
  by_cases hclosed : t < a + op.duration
  · rw [if_pos (by simpa using hclosed), decide_eq_true hclosed]
  · rw [if_neg (by simpa using hclosed), if_pos (Nat.le_of_lt h), decide_eq_false hclosed]

/-- A client and a server together, by what the client does within its deadline. -/
theorem run_eq {t : Nat} {r : Except HelperError ν} (h : Prompt d) (hfits : FitsFrame op.request)
    (hduration : op.duration < OPERATION_TIMEOUT)
    (hclient : (exchanged p d op.request (op.headers p)).run 0 = some (t, r)) :
    run p d op =
      if t ≤ OPERATION_TIMEOUT then (some r, decide (t < connected d p + d.write + op.duration))
      else (some (.error (deadlineError p)),
        decide (OPERATION_TIMEOUT < connected d p + d.write + op.duration)) := by
  have hroundtrip : (roundtrip p d op.request fun t => (serveConnection p op t none).header).run 0 =
      if t ≤ OPERATION_TIMEOUT then some (t, r)
      else some (OPERATION_TIMEOUT, .error (deadlineError p)) := by
    show (Timed.within OPERATION_TIMEOUT (deadlineError p)
      (exchanged p d op.request (op.headers p))).run 0 = _
    split
    · rename_i hin
      exact Timed.run_within hclient (by omega)
    · rename_i hout
      rw [Timed.run_within_late hclient (by omega), Nat.zero_add]
  unfold run
  simp only [hroundtrip, asked_eq h p hfits, Option.map_some, Option.any_some]
  split <;> simp only [Option.map_some, serve_cancelled hduration]

theorem run_refused (h : Prompt d) (p : Platform) (hfits : ¬ FitsFrame op.request) :
    run p d op = (some (.error (.protocol "Response exceeds 1 MiB")), false) := by
  have hle := connected_le h p
  have hroundtrip := Timed.run_within (d := OPERATION_TIMEOUT) (e := deadlineError p)
    (run_exchanged_refused h p hfits) (by unfold OPERATION_TIMEOUT FRAME_TIMEOUT secs at *; omega)
  unfold run
  rw [asked_refused h p hfits]
  exact congrArg (fun e : Option (Nat × Except HelperError ν) => (e.map Prod.snd, false)) hroundtrip

/-- The client and the server get through with an operation: its request and its reply fit a frame,
on Windows it takes at most five seconds, and with its frames it takes no longer than a day. -/
structure Delivers (p : Platform) (d : Delays) (op : Operation ν) : Prop where
  request : FitsFrame op.request
  reply : FitsFrame (Encoded.length op.outcome.wire)
  header : p = .windows → op.duration ≤ FRAME_TIMEOUT
  total : connected d p + d.write + op.duration + d.body ≤ OPERATION_TIMEOUT

end

/-- A minute of work, over a connection without delays. -/
def minute : Operation Nat := ⟨64, secs 60, ⟨.ok 7, nofun⟩, 0, ⟨.ok 0, nofun⟩⟩

/-- Replies of 16 bytes. -/
instance shortReplies : Encoded Nat := ⟨fun _ => 16⟩

theorem minute_prompt : Prompt ⟨secs 1, secs 1, secs 1, secs 1⟩ :=
  ⟨by decide, by decide, by decide, by decide⟩

end NetworkLantern.Helper
