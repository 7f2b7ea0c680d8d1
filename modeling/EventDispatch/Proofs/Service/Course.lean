import EventDispatch.Proofs.Broker.Remainder
/-!
All that a stream tells.

Purpose: from its first look to its last a stream tells interim responses, then a terminal one or
one failure, and then only its end. A failure has one of three reasons; with distinct ids among the
requests, one of two.

Main exports: `Shutdown.Reason`, `Shutdown.Course`, `Shutdown.Course.of_following`,
`Shutdown.Course.concat_ended`, `Shutdown.Course.reason`, `Shutdown.Reason.of_distinct`.
-/

namespace EventDispatch
namespace Shutdown

/-- Why the stream of a producer may fail: its subscription ended, nobody consumes, or another
producer's request had the same id. -/
inductive Reason (requests : List Request) (i : Nat) (id : String) : BrokerError → Prop where
  | closed : Reason requests i id (.closed id)
  | noConsumer : Reason requests i id .noConsumer
  | duplicate {j : Nat} {r : Request} (other : j ≠ i) (place : requests[j]? = some r)
      (same : r.id = id) : Reason requests i id (.duplicateRequestId id)

/-- All that a stream tells from the first look to the last: interim responses, then a terminal one
or one failure, then nothing any more. -/
def Course (requests : List Request) (i : Nat) (id : String) (polls : List Poll) : Prop :=
  ∃ (interim : List Response) (last : Poll) (ends : Nat),
    polls = interim.map .item ++ last :: List.replicate ends .ended ∧
    (∀ r ∈ interim, r.terminal = false) ∧
    ((∃ r, last = .item r ∧ r.terminal = true) ∨ ∃ e, last = .failed e ∧ Reason requests i id e)

namespace Course

variable {requests : List Request} {i : Nat} {id : String} {items : List Response}

/-- Interim responses, and then the terminal one. -/
theorem of_terminal (interim : ∀ r ∈ items, r.terminal = false) {r : Response}
    (terminal : r.terminal = true) : Course requests i id (items.map .item ++ [.item r]) :=
  ⟨items, .item r, 0, rfl, interim, Or.inl ⟨r, rfl, terminal⟩⟩

/-- Interim responses, and then a failure. -/
theorem of_failed (interim : ∀ r ∈ items, r.terminal = false) {e : BrokerError}
    (reason : Reason requests i id e) : Course requests i id (items.map .item ++ [.failed e]) :=
  ⟨items, .failed e, 0, rfl, interim, Or.inr ⟨e, rfl, reason⟩⟩

/-- A failure at the first look. -/
theorem of_reason {e : BrokerError} (reason : Reason requests i id e) :
    Course requests i id [.failed e] :=
  ⟨[], .failed e, 0, rfl, by simp, Or.inr ⟨e, rfl, reason⟩⟩

/-- Interim responses, and then what a stream that follows has left to tell. -/
theorem of_following (interim : ∀ r ∈ items, r.terminal = false) {b : Bus} {c : Nat}
    (last : ∀ r ∈ (b.unread ⟨id, .following c⟩).dropLast, r.terminal = false) :
    Course requests i id (items.map .item ++ b.rest ⟨id, .following c⟩) := by
  simp only [Bus.rest]
  generalize b.unread ⟨id, .following c⟩ = unread at last
  cases answered : unread.any (·.terminal) with
  | false =>
      have pending : ∀ r ∈ items ++ unread, r.terminal = false := by
        simpa [or_imp, forall_and] using ⟨interim, by simpa using answered⟩
      have told : Course requests i id _ := of_failed pending .closed
      simpa using told
  | true =>
      obtain ⟨r, member, terminal⟩ := List.any_eq_true.mp answered
      have some : unread ≠ [] := List.ne_nil_of_mem member
      rw [← List.dropLast_concat_getLast some] at member ⊢
      -- The terminal response is the last one: none of those before it is terminal.
      rcases List.mem_append.mp member with early | final
      · rw [last r early] at terminal
        exact absurd terminal (by simp)
      · rw [List.mem_singleton.mp final] at terminal
        have pending : ∀ r ∈ items ++ unread.dropLast, r.terminal = false := by
          simpa [or_imp, forall_and] using ⟨interim, last⟩
        have told : Course requests i id _ := of_terminal pending terminal
        simpa using told

/-- After all that a stream tells there are only ends. -/
theorem concat_ended {polls : List Poll} (course : Course requests i id polls) :
    Course requests i id (polls ++ [.ended]) := by
  obtain ⟨items, last, ends, rfl, rest⟩ := course
  refine ⟨items, last, ends + 1, ?_, rest⟩
  rw [List.replicate_succ', List.append_assoc, List.cons_append]

/-- A failure that is told has one of the reasons. -/
theorem reason {polls : List Poll} (course : Course requests i id polls) {e : BrokerError}
    (told : .failed e ∈ polls) : Reason requests i id e := by
  obtain ⟨items, last, ends, rfl, _, outcome⟩ := course
  have final : last = .failed e := by
    rcases List.mem_append.mp told with item | later
    · simp at item
    · rcases List.mem_cons.mp later with same | ended
      · exact same.symm
      · exact absurd (List.eq_of_mem_replicate ended) (by simp)
  rcases outcome with ⟨r, item, _⟩ | ⟨f, failed, reason⟩
  · rw [item] at final
    exact absurd final (by simp)
  · rw [failed] at final
    cases final
    exact reason

end Course

/-- Among requests with distinct ids, none is refused for its id. -/
theorem Reason.of_distinct {requests : List Request} {i : Nat} {p : Request} {e : BrokerError}
    (reason : Reason requests i p.id e) (place : requests[i]? = some p)
    (distinct : (requests.map Request.id).Nodup) : e = .closed p.id ∨ e = .noConsumer := by
  cases reason with
  | closed => exact Or.inl rfl
  | noConsumer => exact Or.inr rfl
  | @duplicate j r other there same =>
      have ids : (requests.map Request.id)[j]? = (requests.map Request.id)[i]? := by
        simp [there, place, same]
      have below : j < (requests.map Request.id).length := by
        simpa using (List.getElem?_eq_some_iff.mp there).1
      exact absurd ((List.getElem?_inj below distinct).mp ids) other

theorem Reason.more {requests : List Request} {i : Nat} {id : String} {e : BrokerError}
    (reason : Reason requests i id e) (r : Request) : Reason (requests ++ [r]) i id e := by
  cases reason with
  | closed => exact .closed
  | noConsumer => exact .noConsumer
  | duplicate other place same =>
      refine .duplicate other ?_ same
      rw [List.getElem?_append_left (List.getElem?_eq_some_iff.mp place).1]
      exact place

end Shutdown
end EventDispatch
