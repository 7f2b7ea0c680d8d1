import EventDispatch.Proofs.Broker.Subscriptions
/-!
What is left to tell about a stream.

Purpose: once nobody holds a sending end any more, looks at a stream go by what has arrived alone.
They tell the unread responses, after them the failure that the subscription ended unless a terminal
response was there, and then the end of the stream again and again.

Main exports: `Bus.looks`, `Bus.rest`, `Bus.looks_eq`, `Bus.waiting_not_mem_rest`.
-/

namespace EventDispatch

namespace Bus

/-- What looks at a stream come to, one after another. -/
def looks : Nat → Bus → Stream → List Poll
  | 0, _, _ => []
  | k + 1, b, s => (b.poll s).2.2 :: looks k (b.poll s).1 (b.poll s).2.1

/-- What there is left to tell about a stream whose subscription is over. -/
def rest (b : Bus) (s : Stream) : List Poll :=
  match s.state with
  | .failed e => [.failed e]
  | .ended => []
  | .following _ =>
    (b.unread s).map .item ++
      if (b.unread s).any (·.terminal) then [] else [.failed (.closed s.id)]

theorem waiting_not_mem_rest {b : Bus} {s : Stream} : Poll.waiting ∉ b.rest s := by
  intro waits
  unfold rest at waits
  split at waits
  · simp at waits
  · simp at waits
  · rcases List.mem_append.mp waits with item | failure
    · simp at item
    · split at failure <;> simp at failure

theorem looks_ended (b : Bus) (id : String) (k : Nat) :
    b.looks k ⟨id, .ended⟩ = List.replicate k Poll.ended := by
  induction k with
  | zero => rfl
  | succ k inductionHypothesis =>
      rw [List.replicate_succ, ← inductionHypothesis]
      rfl

/-- A first look, and then as many others as there are ends to see. -/
private theorem take_succ_ends (first : Poll) (later : List Poll) (k : Nat) :
    (first :: later ++ List.replicate (k + 1) Poll.ended).take (k + 1)
      = first :: (later ++ List.replicate k Poll.ended).take k := by
  have enough : min (k - later.length) (k + 1) = min (k - later.length) k := by omega
  simp [List.take_append, List.take_replicate, enough]

/-- A stream with an interim response to read has the same left to tell after that response. -/
private theorem rest_cons {b : Bus} {s : Stream} {c : Nat} (following : s.state = .following c)
    {r : Response} {others : List Response} (waiting : b.responses.waiting c = r :: others)
    (interim : r.terminal = false) :
    b.rest s = .item r :: (b.receiveResponse c).1.rest s := by
  have before : b.unread s = r :: others := (unread_of_following following).trans waiting
  have after : (b.receiveResponse c).1.unread s = others := by
    rw [unread_of_following following, waiting_receiveResponse, if_pos rfl, waiting]
    rfl
  simp [rest, following, before, after, interim]

/-- Where nobody holds a sending end, looks at a stream tell what is left to tell, and after it the
end. The induction is on the number of looks; each takes one item of what is left. -/
theorem looks_eq {b : Bus} {s : Stream} (nobody : b.pending = [])
    (last : ∀ r ∈ (b.unread s).dropLast, r.terminal = false) (k : Nat) :
    b.looks k s = (b.rest s ++ List.replicate k Poll.ended).take k := by
  induction k generalizing b with
  | zero => simp [looks]
  | succ k inductionHypothesis =>
      obtain ⟨id, state⟩ := s
      cases state with
      | ended => simp [looks_ended, rest]
      | failed e =>
          have told : b.poll ⟨id, .failed e⟩ = (b, ⟨id, .ended⟩, .failed e) := rfl
          simp [looks, told, looks_ended, rest]
      | following c =>
          have loose : b.subscriberHeld c = false := by simp [subscriberHeld, nobody]
          have polled := poll_following (b := b) (s := ⟨id, .following c⟩) rfl
          have unread := unread_of_following (b := b) (s := ⟨id, .following c⟩) rfl
          rw [unread] at last
          unfold looks
          cases waiting : b.responses.waiting c with
          | nil =>
              simp only [waiting, loose, Bool.false_eq_true, if_false] at polled
              simp [polled, looks_ended, rest, unread, waiting]
          | cons r others =>
              simp only [waiting] at polled last
              cases terminal : r.terminal with
              | true =>
                  -- Nothing follows a terminal response.
                  have alone : others = [] := by
                    cases others with
                    | nil => rfl
                    | cons second more =>
                        have early := last r (by simp)
                        rw [terminal] at early
                        exact absurd early (by simp)
                  simp only [terminal, if_true] at polled
                  simp [polled, looks_ended, rest, unread, waiting, alone, terminal]
              | false =>
                  simp only [terminal, Bool.false_eq_true, if_false] at polled
                  have later : ∀ q ∈ ((b.receiveResponse c).1.unread ⟨id, .following c⟩).dropLast,
                      q.terminal = false := by
                    intro q member
                    rw [unread_of_following rfl, waiting_receiveResponse, if_pos rfl, waiting]
                      at member
                    cases others with
                    | nil => simp at member
                    | cons second more => exact last q (List.mem_cons_of_mem r member)
                  rw [rest_cons rfl waiting terminal, take_succ_ends, polled]
                  exact congrArg _ (inductionHypothesis nobody later)

end Bus

end EventDispatch
