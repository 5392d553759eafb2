import NetworkLantern.Lib.Checks

/-!
# Waiting for one answer

A wait polls until its deadline.  Each poll may find the wait cancelled, before or
behind it, or fail; then the loop takes what has arrived, in its order, up to the first
arrival that it accepts.  `waitFor_answered`: an answered wait took the first accepted
arrival, and nothing stopped it before.
-/

namespace NetworkLantern

/-- One turn of a wait, begun before the deadline. -/
structure Poll (ε α : Type) where
  cancelled : Bool
  result : Except ε Unit
  /-- Whether the wait is cancelled by the time the poll returns. -/
  cancelledThen : Bool
  /-- What can be read without waiting, up to a failed read. -/
  arrived : List (Except ε α)

inductive Waited (β : Type)
  | answered (b : β)
  | cancelled
  | timedOut

section
variable {ε α β : Type} (accept : α → Option β)

/-- Reads on until something is accepted. -/
def firstAccepted : List (Except ε α) → Except ε (Option β)
  | [] => .ok none
  | .error e :: _ => .error e
  | .ok a :: arrived =>
    match accept a with
    | some b => .ok (some b)
    | none => firstAccepted arrived

/-- The loop over the turns before the deadline; behind it, it looks once more whether it
is cancelled. -/
def waitFor (cancelledLate : Bool) : List (Poll ε α) → Except ε (Waited β)
  | [] => .ok (if cancelledLate then .cancelled else .timedOut)
  | poll :: polls =>
    if poll.cancelled then .ok .cancelled
    else do
      poll.result
      if poll.cancelledThen then return .cancelled
      else
        match firstAccepted accept poll.arrived with
        | .error e => .error e
        | .ok (some b) => return .answered b
        | .ok none => waitFor cancelledLate polls

/-- The wait goes on behind an arrival. -/
def Ignored (x : Except ε α) : Prop := ∃ a, x = .ok a ∧ accept a = none

/-- The loop comes to what has arrived. -/
structure Poll.Passes (poll : Poll ε α) : Prop where
  cancelled : poll.cancelled = false
  result : poll.result = .ok ()
  cancelledThen : poll.cancelledThen = false

variable {accept}

theorem firstAccepted_some {arrived : List (Except ε α)} {b : β} :
    firstAccepted accept arrived = .ok (some b) ↔
      ∃ front a back, arrived = front ++ .ok a :: back ∧ (∀ x ∈ front, Ignored accept x) ∧
        accept a = some b := by
  induction arrived with
  | nil =>
    refine iff_of_false (fun h => by cases h) ?_
    rintro ⟨front, a, back, h, -⟩
    exact absurd h.symm (List.append_ne_nil_of_right_ne_nil _ (List.cons_ne_nil _ _))
  | cons x arrived ih =>
    cases x with
    | error e =>
      refine iff_of_false (fun h => by cases h) ?_
      rintro ⟨front, a, back, h, hfront, -⟩
      cases front with
      | nil => cases h
      | cons y front =>
        obtain ⟨rfl, -⟩ := List.cons.inj h
        obtain ⟨a', ha', -⟩ := hfront _ List.mem_cons_self
        cases ha'
    | ok a =>
      unfold firstAccepted
      cases haccept : accept a with
      | some c =>
        constructor
        · intro h
          cases h
          exact ⟨[], a, arrived, rfl, fun x hx => absurd hx List.not_mem_nil, haccept⟩
        · rintro ⟨front, a', back, h, hfront, ha'⟩
          cases front with
          | nil =>
            cases h
            rw [haccept] at ha'
            rw [ha']
          | cons y front =>
            obtain ⟨rfl, -⟩ := List.cons.inj h
            obtain ⟨a', ha', hnone⟩ := hfront _ List.mem_cons_self
            cases ha'
            rw [haccept] at hnone
            cases hnone
      | none =>
        show firstAccepted accept arrived = _ ↔ _
        rw [ih]
        constructor
        · rintro ⟨front, a', back, rfl, hfront, ha'⟩
          refine ⟨.ok a :: front, a', back, rfl, ?_, ha'⟩
          intro x hx
          rcases List.mem_cons.mp hx with rfl | hx
          · exact ⟨a, rfl, haccept⟩
          · exact hfront x hx
        · rintro ⟨front, a', back, h, hfront, ha'⟩
          cases front with
          | nil =>
            cases h
            rw [haccept] at ha'
            cases ha'
          | cons y front =>
            obtain ⟨-, rfl⟩ := List.cons.inj h
            exact ⟨front, a', back, rfl, fun x hx => hfront x (List.mem_cons_of_mem y hx), ha'⟩

theorem firstAccepted_none {arrived : List (Except ε α)} :
    firstAccepted accept arrived = .ok none ↔ ∀ x ∈ arrived, Ignored accept x := by
  induction arrived with
  | nil => exact iff_of_true rfl fun x hx => absurd hx List.not_mem_nil
  | cons x arrived ih =>
    rw [List.forall_mem_cons]
    cases x with
    | error e =>
      refine iff_of_false (fun h => by cases h) ?_
      rintro ⟨⟨a, ha, -⟩, -⟩
      cases ha
    | ok a =>
      unfold firstAccepted
      cases haccept : accept a with
      | some b =>
        refine iff_of_false (fun h => by cases h) ?_
        rintro ⟨⟨a', ha', hnone⟩, -⟩
        cases ha'
        rw [haccept] at hnone
        cases hnone
      | none =>
        show firstAccepted accept arrived = _ ↔ _
        rw [ih]
        exact (and_iff_right ⟨a, rfl, haccept⟩).symm

theorem firstAccepted_error {arrived : List (Except ε α)} {e : ε}
    (h : firstAccepted accept arrived = .error e) : .error e ∈ arrived := by
  induction arrived with
  | nil => cases h
  | cons x arrived ih =>
    cases x with
    | error e' =>
      cases h
      exact List.mem_cons_self
    | ok a =>
      unfold firstAccepted at h
      split at h
      · cases h
      · exact List.mem_cons_of_mem _ (ih h)

/-- A turn that comes to its arrivals. -/
theorem waitFor_cons {cancelledLate : Bool} {poll : Poll ε α} {polls : List (Poll ε α)}
    (h : poll.Passes) :
    waitFor accept cancelledLate (poll :: polls) =
      match firstAccepted accept poll.arrived with
      | .error e => .error e
      | .ok (some b) => .ok (.answered b)
      | .ok none => waitFor accept cancelledLate polls := by
  conv_lhs => unfold waitFor
  rw [h.cancelled, if_neg Bool.false_ne_true, h.result, except_ok_bind, h.cancelledThen,
    if_neg Bool.false_ne_true]
  rfl

/-- The first turn answers. -/
theorem waitFor_first {cancelledLate : Bool} {poll : Poll ε α} {polls : List (Poll ε α)} {b : β}
    (h : poll.Passes) (hfirst : firstAccepted accept poll.arrived = .ok (some b)) :
    waitFor accept cancelledLate (poll :: polls) = .ok (.answered b) := by
  rw [waitFor_cons h, hfirst]

/-- A turn that does not come to its arrivals answers nothing. -/
theorem waitFor_stopped {cancelledLate : Bool} {poll : Poll ε α} {polls : List (Poll ε α)}
    (h : ¬ poll.Passes) :
    waitFor accept cancelledLate (poll :: polls) = .ok .cancelled ∨
      ∃ e, poll.result = .error e ∧ waitFor accept cancelledLate (poll :: polls) = .error e := by
  unfold waitFor
  by_cases hcancelled : poll.cancelled = true
  · rw [if_pos hcancelled]
    exact Or.inl rfl
  · rw [if_neg hcancelled]
    cases hresult : poll.result with
    | error e => exact Or.inr ⟨e, rfl, rfl⟩
    | ok u =>
      rw [except_ok_bind]
      by_cases hthen : poll.cancelledThen = true
      · rw [if_pos hthen]
        exact Or.inl rfl
      · rw [Bool.not_eq_true] at hcancelled hthen
        exact absurd ⟨hcancelled, hresult, hthen⟩ h

/-- An answered wait took the first arrival that it accepts; every turn before had passed. -/
theorem waitFor_answered {cancelledLate : Bool} {polls : List (Poll ε α)} {b : β} :
    waitFor accept cancelledLate polls = .ok (.answered b) ↔
      ∃ before poll after, polls = before ++ poll :: after ∧
        (∀ q ∈ before, q.Passes ∧ ∀ x ∈ q.arrived, Ignored accept x) ∧ poll.Passes ∧
        ∃ front a back, poll.arrived = front ++ .ok a :: back ∧
          (∀ x ∈ front, Ignored accept x) ∧ accept a = some b := by
  induction polls with
  | nil =>
    refine iff_of_false (fun h => ?_) ?_
    · unfold waitFor at h
      cases cancelledLate <;> cases h
    · rintro ⟨before, poll, after, h, -⟩
      exact absurd h.symm (List.append_ne_nil_of_right_ne_nil _ (List.cons_ne_nil _ _))
  | cons q polls ih =>
    by_cases hpasses : q.Passes
    · rw [waitFor_cons hpasses]
      cases hfirst : firstAccepted accept q.arrived with
      | error e =>
        refine iff_of_false (fun h => by cases h) ?_
        rintro ⟨before, poll, after, h, hbefore, -, haccepted⟩
        cases before with
        | nil =>
          obtain ⟨rfl, -⟩ := List.cons.inj h
          rw [firstAccepted_some.mpr haccepted] at hfirst
          cases hfirst
        | cons r before =>
          obtain ⟨rfl, -⟩ := List.cons.inj h
          rw [firstAccepted_none.mpr (hbefore _ List.mem_cons_self).2] at hfirst
          cases hfirst
      | ok found =>
        cases found with
        | some c =>
          constructor
          · intro h
            cases h
            exact ⟨[], q, polls, rfl, fun r hr => absurd hr List.not_mem_nil, hpasses,
              firstAccepted_some.mp hfirst⟩
          · rintro ⟨before, poll, after, h, hbefore, -, haccepted⟩
            cases before with
            | nil =>
              obtain ⟨rfl, -⟩ := List.cons.inj h
              rw [firstAccepted_some.mpr haccepted] at hfirst
              cases hfirst
              rfl
            | cons r before =>
              obtain ⟨rfl, -⟩ := List.cons.inj h
              rw [firstAccepted_none.mpr (hbefore _ List.mem_cons_self).2] at hfirst
              cases hfirst
        | none =>
          show waitFor accept cancelledLate polls = _ ↔ _
          rw [ih]
          constructor
          · rintro ⟨before, poll, after, rfl, hbefore, hrest⟩
            refine ⟨q :: before, poll, after, rfl, ?_, hrest⟩
            exact List.forall_mem_cons.mpr ⟨⟨hpasses, firstAccepted_none.mp hfirst⟩, hbefore⟩
          · rintro ⟨before, poll, after, h, hbefore, hpoll, haccepted⟩
            cases before with
            | nil =>
              obtain ⟨rfl, -⟩ := List.cons.inj h
              rw [firstAccepted_some.mpr haccepted] at hfirst
              cases hfirst
            | cons r before =>
              obtain ⟨-, rfl⟩ := List.cons.inj h
              exact ⟨before, poll, after, rfl,
                fun x hx => hbefore x (List.mem_cons_of_mem r hx), hpoll, haccepted⟩
    · refine iff_of_false (fun h => ?_) ?_
      · have hstopped : waitFor accept cancelledLate (q :: polls) = _ ∨ _ := waitFor_stopped hpasses
        rcases hstopped with hcancelled | ⟨e, -, herror⟩
        · rw [hcancelled] at h
          cases h
        · rw [herror] at h
          cases h
      · rintro ⟨before, poll, after, h, hbefore, hpoll, -⟩
        cases before with
        | nil =>
          obtain ⟨rfl, -⟩ := List.cons.inj h
          exact hpasses hpoll
        | cons r before =>
          obtain ⟨rfl, -⟩ := List.cons.inj h
          exact hpasses (hbefore _ List.mem_cons_self).1

/-- An answer was among the arrivals. -/
theorem exists_of_answered {cancelledLate : Bool} {polls : List (Poll ε α)} {b : β}
    (h : waitFor accept cancelledLate polls = .ok (.answered b)) :
    ∃ poll ∈ polls, ∃ a, .ok a ∈ poll.arrived ∧ accept a = some b := by
  obtain ⟨before, poll, after, rfl, -, -, front, a, back, harrived, -, ha⟩ := waitFor_answered.mp h
  refine ⟨poll, by simp, a, ?_, ha⟩
  rw [harrived]
  simp

/-- A wait that nothing stops answers once something arrives that it accepts. -/
theorem waitFor_of_arrival {cancelledLate : Bool} {polls : List (Poll ε α)}
    (hpasses : ∀ q ∈ polls, q.Passes ∧ ∀ x ∈ q.arrived, ∃ a, x = .ok a) {poll : Poll ε α}
    (hpoll : poll ∈ polls) {a : α} (ha : .ok a ∈ poll.arrived) (haccept : accept a ≠ none) :
    ∃ b, waitFor accept cancelledLate polls = .ok (.answered b) := by
  induction polls with
  | nil => exact absurd hpoll List.not_mem_nil
  | cons q polls ih =>
    obtain ⟨⟨hq, harrived⟩, hrest⟩ := List.forall_mem_cons.mp hpasses
    rw [waitFor_cons hq]
    cases hfirst : firstAccepted accept q.arrived with
    | error e =>
      obtain ⟨a', ha'⟩ := harrived _ (firstAccepted_error hfirst)
      cases ha'
    | ok found =>
      cases found with
      | some b => exact ⟨b, rfl⟩
      | none =>
        rcases List.mem_cons.mp hpoll with rfl | hlater
        · obtain ⟨a', ha', hnone⟩ := firstAccepted_none.mp hfirst _ ha
          cases ha'
          exact absurd hnone haccept
        · exact ih hrest hlater

end

end NetworkLantern
