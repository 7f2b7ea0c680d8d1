import EventDispatch.Proofs.Broker.Outcome
import EventDispatch.Proofs.Broker.Subscriptions
/-!
Waiting for an outcome, a stretch at a time.

Purpose: responses come to an outcome once an error is heard or one of them is terminal, and what
arrives after that makes no difference. Whoever follows a stream looks at it, and gives it up once
there is an outcome, so that what these two keep is kept.

Main exports: `Response.settled`, `Response.finalOutcome`, `Response.heard_concat`,
`Response.collapse_eq_finalOutcome`, `Response.finalOutcome_append`, `Waiter.kept`,
`Broker.follow_keeps`.
-/

namespace EventDispatch

namespace Response

/-- Whether responses come to an outcome: an error is heard, or one of them is terminal. -/
def settled (rs : List Response) : Bool := (firstError rs).isSome || rs.any (·.terminal)

/-- The outcome that responses come to when no others arrive after them. -/
def finalOutcome (id : String) (rs : List Response) : Outcome :=
  match firstError rs with
  | some e => .error ⟨id, .remote e⟩
  | none =>
    if rs.any (·.terminal) then .ok ((values rs).getLastD .null)
    else .error ⟨id, .broker (.closed id)⟩

theorem settled_eq_false_iff {rs : List Response} :
    settled rs = false ↔ firstError rs = none ∧ rs.any (·.terminal) = false := by
  rw [settled, Bool.or_eq_false_iff, Option.isSome_eq_false_iff, Option.isNone_iff_eq_none]

/-- What one more response adds to what is heard. -/
theorem heard_concat (rs : List Response) (r : Response) :
    heard (rs ++ [r]) = if rs.any (·.terminal) then heard rs else heard rs ++ [r] := by
  induction rs with
  | nil => cases terminal : r.terminal <;> simp [heard, terminal]
  | cons first rest inductionHypothesis =>
      rw [List.cons_append, heard_cons, heard_cons, inductionHypothesis, List.any_cons]
      cases first.terminal with
      | true => rfl
      | false => cases answered : rest.any (·.terminal) <;> simp

/-- What is not heard makes no difference. -/
theorem collapse_heard (id : String) (last : Json) (rs : List Response) :
    collapse id last (heard rs) = collapse id last rs := by
  induction rs generalizing last with
  | nil => rfl
  | cons r rest inductionHypothesis =>
      rw [heard_cons]
      unfold collapse
      cases r.error with
      | some e => rfl
      | none =>
          cases r.terminal with
          | true => rfl
          | false => exact inductionHypothesis (r.value.getD last)

/-- What comes after an outcome makes no difference to it. -/
theorem collapse_append_of_ok {id : String} {last : Json} {rs : List Response} {result : Outcome}
    (there : collapse id last rs = .ok result) (more : List Response) :
    collapse id last (rs ++ more) = .ok result := by
  induction rs generalizing last with
  | nil => exact absurd there (by simp [collapse])
  | cons r rest inductionHypothesis =>
      rw [List.cons_append]
      unfold collapse at there ⊢
      cases error : r.error with
      | some e => simpa [error] using there
      | none =>
          cases terminal : r.terminal with
          | true => simpa [error, terminal] using there
          | false =>
              simp only [error, terminal, Bool.false_eq_true, if_false] at there ⊢
              exact inductionHypothesis there

/-- Responses come to their outcome if they are settled, and otherwise to their last value. -/
theorem collapse_eq_finalOutcome (id : String) (rs : List Response) :
    collapse id .null rs
      = if settled rs then .ok (finalOutcome id rs) else .error ((values rs).getLastD .null) := by
  rw [collapse_eq]
  unfold settled finalOutcome
  cases firstError rs with
  | some e => rfl
  | none => cases answered : rs.any (·.terminal) <;> simp

/-- Settled responses stay settled, with their outcome, whatever comes after them. -/
theorem finalOutcome_append {rs : List Response} (settledBefore : settled rs = true)
    (id : String) (more : List Response) :
    settled (rs ++ more) = true ∧ finalOutcome id (rs ++ more) = finalOutcome id rs := by
  have there := collapse_eq_finalOutcome id rs
  rw [settledBefore, if_pos rfl] at there
  have later := collapse_append_of_ok there more
  rw [collapse_eq_finalOutcome] at later
  split at later
  · rename_i still
    exact ⟨still, Except.ok.inj later⟩
  · exact absurd later (by simp)

end Response

/-- The stream that someone still holds who waits on. -/
def Waiter.kept : Except Waiter Outcome → Option Stream
  | .error w => some w.stream
  | .ok _ => none

/-- Following a stream is looking at it and giving it up: what these two keep is kept. -/
theorem Broker.follow_keeps {P : Broker → Prop} {n : Nat}
    (poll : ∀ {b : Broker}, P b → P (b.act (.poll n)).1)
    (drop : ∀ {b : Broker}, P b → P (b.act (.drop n)).1) (fuel : Nat) {b : Broker} {w : Waiter}
    (live : b.stream? n = some w.stream) (holds : P b) :
    P ⟨(b.bus.follow fuel w).1, b.streams.set n (Waiter.kept (b.bus.follow fuel w).2)⟩ := by
  induction fuel generalizing b w with
  | zero =>
      simp only [Bus.follow, Waiter.kept, set_stream? live]
      exact holds
  | succ fuel inductionHypothesis =>
      have polled := poll holds
      simp only [act, live] at polled
      unfold Bus.follow
      cases look : b.bus.poll w.stream with
      | mk d rest =>
          obtain ⟨stream, result⟩ := rest
          rw [look] at polled
          have there : stream? ⟨d, b.streams.set n (some stream)⟩ n = some stream := by
            rw [stream?_set _ (lt_length_of_stream? live), if_pos rfl]
          have dropped := drop polled
          simp only [act, there, List.set_set] at dropped
          cases result with
          | waiting => exact polled
          | failed e => exact dropped
          | ended => exact dropped
          | item r =>
              cases failed : r.error with
              | some e => simpa [failed, Waiter.kept] using dropped
              | none =>
                  cases terminal : r.terminal with
                  | true => simpa [failed, terminal, Waiter.kept] using dropped
                  | false =>
                      have later := inductionHypothesis (w := ⟨stream, r.value.getD w.last⟩) there
                        polled
                      rw [List.set_set] at later
                      simpa [failed, terminal] using later

end EventDispatch
