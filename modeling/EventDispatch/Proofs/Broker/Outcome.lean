import EventDispatch.Proofs.Broker.Run
/-!
The outcome that a sequence of responses comes to.

Purpose: whoever waits for the answer to a request hears responses up to the first terminal one. The
first error among them is the outcome; without an error it is the last value, once the terminal
response is there. What the waiter makes of a channel depends on what waits there and on whether the
channel is held, and on nothing else.

Main exports: `Response.heard`, `Response.collapse`, `Response.collapse_eq`, `Bus.Followed`,
`Bus.followed`, `Bus.await_following`, `Bus.outcome?`, `Bus.outcome?_following`.
-/

namespace EventDispatch

namespace Response

/-- The responses up to the first terminal one. -/
def heard : List Response → List Response
  | [] => []
  | r :: rest => r :: if r.terminal then [] else heard rest

/-- What a waiter makes of responses in order: an outcome, or the last value so far. -/
def collapse (id : String) : (last : Json) → List Response → Except Json Outcome
  | last, [] => .error last
  | last, r :: rest => match r.error with
    | some e => .ok (.error ⟨id, .remote e⟩)
    | none =>
      if r.terminal then .ok (.ok (r.value.getD last)) else collapse id (r.value.getD last) rest

/-- The first error that is heard. -/
def firstError (rs : List Response) : Option ResponseError := (heard rs).findSome? (·.error)

/-- The values that are heard, in order. -/
def values (rs : List Response) : List Json := (heard rs).filterMap (·.value)

theorem heard_cons (r : Response) (rest : List Response) :
    heard (r :: rest) = r :: if r.terminal then [] else heard rest := rfl

theorem firstError_cons (r : Response) (rest : List Response) :
    firstError (r :: rest) = r.error.or (if r.terminal then none else firstError rest) := by
  unfold firstError
  rw [heard_cons]
  cases r.terminal <;> cases error : r.error <;> simp [error]

theorem values_cons (r : Response) (rest : List Response) :
    values (r :: rest) = r.value.toList ++ if r.terminal then [] else values rest := by
  unfold values
  rw [heard_cons]
  cases r.terminal <;> cases value : r.value <;> simp [value]

/-- The last value, whether the first one is counted in or taken for the one before. -/
theorem getLastD_value (r : Response) (rest : List Json) (last : Json) :
    (r.value.toList ++ rest).getLastD last = rest.getLastD (r.value.getD last) := by
  cases r.value with
  | none => rfl
  | some v => exact List.getLastD_cons ..

/-- Responses come to the first error that is heard; without one, to the last value that is heard,
provided that one of them is terminal. -/
theorem collapse_eq (id : String) (last : Json) (rs : List Response) :
    collapse id last rs = match firstError rs with
      | some e => .ok (.error ⟨id, .remote e⟩)
      | none =>
        if rs.any (·.terminal) then .ok (.ok ((values rs).getLastD last))
        else .error ((values rs).getLastD last) := by
  induction rs generalizing last with
  | nil => rfl
  | cons r rest inductionHypothesis =>
      rw [firstError_cons, values_cons, getLastD_value, List.any_cons]
      unfold collapse
      cases r.error with
      | some e => rfl
      | none =>
          cases r.terminal with
          | true => rfl
          | false =>
              simp only [Option.none_or, Bool.false_eq_true, if_false, Bool.false_or]
              exact inductionHypothesis (r.value.getD last)

/-- An interim response without an error is passed over, with its value for the last one. -/
theorem collapse_cons_of_interim (id : String) (last : Json) {r : Response}
    (harmless : r.error = none) (pending : r.terminal = false) (rest : List Response) :
    collapse id last (r :: rest) = collapse id (r.value.getD last) rest := by
  rw [collapse, harmless, pending]
  rfl

/-- The last value of responses, whether the first one is counted in or taken for the one before. -/
theorem getLastD_values_cons (r : Response) (rest : List Response) (last : Json) :
    ((r :: rest).filterMap (·.value)).getLastD last
      = (rest.filterMap (·.value)).getLastD (r.value.getD last) := by
  have values : (r :: rest).filterMap (·.value) = r.value.toList ++ rest.filterMap (·.value) := by
    cases value : r.value <;> simp [value]
  rw [values, getLastD_value]

/-- Responses that come to no outcome leave their last value to those that follow. -/
theorem collapse_append (id : String) {taken : List Response}
    (interim : ∀ r ∈ taken, r.error = none ∧ r.terminal = false) (last : Json)
    (rest : List Response) :
    collapse id last (taken ++ rest)
      = collapse id ((taken.filterMap (·.value)).getLastD last) rest := by
  induction taken generalizing last with
  | nil => rfl
  | cons r taken inductionHypothesis =>
      obtain ⟨harmless, pending⟩ := interim r (by simp)
      rw [List.cons_append, collapse_cons_of_interim id last harmless pending,
        getLastD_values_cons]
      exact inductionHypothesis (fun q member => interim q (List.mem_cons_of_mem r member)) _

end Response

namespace Bus

variable {b : Bus} {s : Stream} {c : Nat}

/-- What following a stream at a channel for a number of looks may come to. -/
inductive Followed (b : Bus) (s : Stream) (c : Nat) (last : Json) :
    Nat → Bus → Except Waiter Outcome → Prop where
  /-- Interim responses were taken, one at each look, or all that wait while the channel is held. -/
  | going {looks : Nat} {d : Bus} (taken : List Response)
      (interim : ∀ r ∈ taken, r.error = none ∧ r.terminal = false)
      (subscriptions : d.pending = b.pending)
      (split : b.responses.waiting c = taken ++ d.responses.waiting c)
      (stop : taken.length = looks ∨ d.responses.waiting c = [] ∧ b.subscriberHeld c = true) :
      Followed b s c last looks d (.error ⟨s, (taken.filterMap (·.value)).getLastD last⟩)
  /-- What waits comes to an outcome. -/
  | arrived {looks : Nat} {d : Bus} {result : Outcome}
      (collapsed : Response.collapse s.id last (b.responses.waiting c) = .ok result) :
      Followed b s c last looks d (.ok result)
  /-- What waits comes to none, and nobody holds the channel. -/
  | closed {looks : Nat} {d : Bus} {later : Json}
      (collapsed : Response.collapse s.id last (b.responses.waiting c) = .error later)
      (loose : b.subscriberHeld c = false) :
      Followed b s c last looks d (.ok (.error ⟨s.id, .broker (.closed s.id)⟩))

/-- An interim response is taken first. -/
theorem Followed.cons {d : Bus} {last : Json} {r : Response} {rest : List Response} {looks : Nat}
    {result : Except Waiter Outcome} (harmless : r.error = none) (pending : r.terminal = false)
    (waiting : b.responses.waiting c = r :: rest)
    (later : Followed (b.receiveResponse c).1 s c (r.value.getD last) looks d result) :
    Followed b s c last (looks + 1) d result := by
  have left : (b.receiveResponse c).1.responses.waiting c = rest := by
    rw [waiting_receiveResponse, if_pos rfl, waiting, List.tail_cons]
  have collapsed := Response.collapse_cons_of_interim s.id last harmless pending rest
  rw [← waiting] at collapsed
  cases later with
  | going taken interim subscriptions split stop =>
      have all : ∀ q ∈ r :: taken, q.error = none ∧ q.terminal = false :=
        List.forall_mem_cons.mpr ⟨⟨harmless, pending⟩, interim⟩
      have whole : b.responses.waiting c = (r :: taken) ++ d.responses.waiting c := by
        rw [waiting, List.cons_append, ← split, left]
      have going : Followed b s c last (looks + 1) d _ :=
        .going (r :: taken) all subscriptions whole (stop.imp_left (congrArg (· + 1)))
      rw [Response.getLastD_values_cons] at going
      exact going
  | arrived outcome =>
      rw [left] at outcome
      exact .arrived (collapsed.trans outcome)
  | closed nothing loose =>
      rw [left] at nothing
      exact .closed (collapsed.trans nothing) loose

/-- Following a stream for any number of looks. The induction is on that number; a look takes the
first response that waits. -/
theorem followed (following : s.state = .following c) (looks : Nat) (last : Json) :
    Followed b s c last looks (b.follow looks ⟨s, last⟩).1 (b.follow looks ⟨s, last⟩).2 := by
  induction looks generalizing b last with
  | zero => exact .going [] (by simp) rfl rfl (Or.inl rfl)
  | succ looks inductionHypothesis =>
      unfold follow
      simp only [poll_following following]
      cases waiting : b.responses.waiting c with
      | nil =>
          cases held : b.subscriberHeld c with
          | true => exact .going [] (by simp) rfl rfl (Or.inr ⟨waiting, held⟩)
          | false => exact .closed (by rw [waiting]; rfl) held
      | cons r rest =>
          cases failed : r.error with
          | some e =>
              have collapsed : Response.collapse s.id last (b.responses.waiting c)
                  = .ok (.error ⟨s.id, .remote e⟩) := by
                rw [waiting, Response.collapse, failed]
              cases terminal : r.terminal <;> simpa [failed, terminal] using .arrived collapsed
          | none =>
              cases terminal : r.terminal with
              | true =>
                  have collapsed : Response.collapse s.id last (b.responses.waiting c)
                      = .ok (.ok (r.value.getD last)) := by
                    rw [waiting, Response.collapse, failed, terminal]
                    rfl
                  simpa [failed, terminal] using .arrived collapsed
              | false =>
                  have later := inductionHypothesis (b := (b.receiveResponse c).1)
                    (r.value.getD last)
                  simpa [failed, terminal] using later.cons failed terminal waiting

/-- Whoever follows a stream as far as it goes makes of it what waits at its channel. When that is
no outcome, it is waited for while the channel is held, and comes to an end otherwise. -/
theorem follow_following (following : s.state = .following c) (last : Json) {fuel : Nat}
    (enough : (b.responses.waiting c).length < fuel) :
    (b.follow fuel ⟨s, last⟩).2 = match Response.collapse s.id last (b.responses.waiting c) with
      | .ok outcome => .ok outcome
      | .error last =>
        if b.subscriberHeld c then .error ⟨s, last⟩
        else .ok (.error ⟨s.id, .broker (.closed s.id)⟩) := by
  have followed := followed (b := b) following fuel last
  generalize (b.follow fuel ⟨s, last⟩).1 = d at followed
  generalize (b.follow fuel ⟨s, last⟩).2 = result at followed
  cases followed with
  | going taken interim _ split stop =>
      rcases stop with short | ⟨nothing, held⟩
      · rw [split, List.length_append, short] at enough
        exact absurd enough (Nat.not_lt.mpr (Nat.le_add_right _ _))
      · have collapsed := Response.collapse_append s.id interim last []
        rw [nothing] at split
        rw [split, collapsed]
        simp [Response.collapse, held]
  | arrived collapsed => rw [collapsed]
  | closed collapsed loose =>
      rw [collapsed]
      simp [loose]

/-- What is buffered for a stream is what is unread. -/
theorem buffered_eq (b : Bus) (s : Stream) : b.buffered s = (b.unread s).length := by
  unfold buffered unread
  cases s.state with
  | failed error => rfl
  | ended => rfl
  | following d => cases found : b.responses[d]? <;> simp [Channels.waiting, found]

theorem await_following (following : s.state = .following c) (last : Json) :
    (b.await ⟨s, last⟩).2 = match Response.collapse s.id last (b.unread s) with
      | .ok outcome => .ok outcome
      | .error last =>
        if b.subscriberHeld c then .error ⟨s, last⟩
        else .ok (.error ⟨s.id, .broker (.closed s.id)⟩) := by
  have unread : b.unread s = b.responses.waiting c := by simp [Bus.unread, following]
  rw [unread]
  apply follow_following following last
  rw [buffered_eq, unread]
  exact Nat.lt_succ_self _

/-- The outcome of a stream for someone who begins to wait now, if it is there. -/
def outcome? (b : Bus) (s : Stream) : Option Outcome := (b.await { stream := s }).2.toOption

theorem outcome?_following (following : s.state = .following c) :
    b.outcome? s = match Response.collapse s.id .null (b.unread s) with
      | .ok outcome => some outcome
      | .error _ =>
        if b.subscriberHeld c then none else some (.error ⟨s.id, .broker (.closed s.id)⟩) := by
  unfold outcome?
  rw [await_following following]
  cases Response.collapse s.id .null (b.unread s) with
  | ok outcome => rfl
  | error last => cases b.subscriberHeld c <;> simp [Except.toOption]

end Bus
end EventDispatch
