import EventDispatch.Broker.Stream
import EventDispatch.Proofs.Broker.Channels
import EventDispatch.Proofs.Json.Fields
/-!
The bus, operation by operation.

Purpose: what each operation of a bus and of a stream over it does to the pending ids and to the
channels. Later proofs cite these laws and do not open the operations.

Main exports: `Bus.find?_publishResponse`, `Bus.waiting_publishResponse`, `Bus.accept`,
`Bus.send_cases`, `Bus.poll_following`, `Bus.pending_poll`, `Bus.waiting_poll_of_ne`,
`Bus.find?_drop`, `Bus.waiting_drop_of_ne`.
-/

namespace EventDispatch

/-- Whether a stream still follows its responses: nothing has ended it yet. -/
def Stream.unfinished (s : Stream) : Bool :=
  match s.state with
  | .following _ => true
  | _ => false

theorem Stream.unfinished_iff {s : Stream} : s.unfinished = true ↔ ∃ c, s.state = .following c := by
  unfold unfinished
  cases s.state <;> simp

theorem Stream.not_following_of_finished {s : Stream} (finished : s.unfinished = false) (c : Nat) :
    s.state ≠ .following c := by
  intro following
  rw [Stream.unfinished_iff.mpr ⟨c, following⟩] at finished
  exact absurd finished (by simp)

namespace Bus

open Fields (find?_insert find?_erase)

/-- Some id holds the sending end of a subscriber's channel. -/
theorem subscriberHeld_iff {b : Bus} {n : Nat} :
    b.subscriberHeld n = true ↔ ∃ id, (id, n) ∈ b.pending := by
  simp only [subscriberHeld, List.any_eq_true, beq_iff_eq]
  constructor
  · rintro ⟨⟨id, m⟩, member, rfl⟩
    exact ⟨id, member⟩
  · rintro ⟨id, member⟩
    exact ⟨(id, n), member, rfl⟩

/-! ### Publishing a response -/

@[simp] theorem consumer_publishResponse (b : Bus) (r : Response) :
    (b.publishResponse r).consumer = b.consumer := by
  unfold publishResponse
  split <;> rfl

@[simp] theorem requests_publishResponse (b : Bus) (r : Response) :
    (b.publishResponse r).requests = b.requests := by
  unfold publishResponse
  split <;> rfl

@[simp] theorem attended_publishResponse (b : Bus) (r : Response) (m : Nat) :
    (b.publishResponse r).responses.attended m = b.responses.attended m := by
  unfold publishResponse
  split
  · rfl
  · dsimp only
    split <;> simp

/-- A subscription to the response's id ends when the response is terminal or nobody attends; every
other one stays. -/
theorem find?_publishResponse (b : Bus) (r : Response) (id : String) :
    (b.publishResponse r).pending.find? id
      = if id = r.id ∧ (r.terminal ∨ (b.pending.find? r.id).any b.responses.attended = false)
        then none else b.pending.find? id := by
  unfold publishResponse
  split
  · rename_i absent
    by_cases same : id = r.id
    · subst same
      simp [absent]
    · simp [same]
  · rename_i n found
    simp only [found, Option.any_some]
    by_cases same : id = r.id
    · subst same
      cases terminal : r.terminal <;> cases attended : b.responses.attended n <;>
        simp [find?_erase, found]
    · simp only [same, false_and, if_false]
      split
      · rw [find?_erase]
        simp [same]
      · rfl

/-- A response reaches the attended channel of the subscriber of its id, and no other channel. -/
theorem waiting_publishResponse (b : Bus) (r : Response) (m : Nat) :
    (b.publishResponse r).responses.waiting m
      = if b.pending.find? r.id = some m ∧ b.responses.attended m
        then b.responses.waiting m ++ [r] else b.responses.waiting m := by
  unfold publishResponse
  split
  · rename_i absent
    simp [absent]
  · rename_i n found
    simp only [found, Option.some.injEq]
    cases attended : b.responses.attended n with
    | false =>
        by_cases same : n = m
        · subst same
          simp [attended]
        · simp [same]
    | true =>
        simp only [if_true]
        rw [Channels.waiting_send (Channels.lt_length_of_attended attended)]
        by_cases same : n = m
        · subst same
          simp [attended]
        · have differs : ¬ m = n := fun equal => same equal.symm
          simp [same, differs]

theorem sorted_publishResponse {b : Bus} (sorted : b.pending.Sorted) (r : Response) :
    (b.publishResponse r).pending.Sorted := by
  unfold publishResponse
  split
  · exact sorted
  · dsimp only
    split
    · exact sorted.erase r.id
    · exact sorted

/-! ### Sending a request -/

/-- The bus that has taken a request in: a new channel is subscribed to its id, and the request
waits for the consumer. -/
def accept (b : Bus) (consumer : Nat) (r : Request) : Bus :=
  { b with
    pending := b.pending.insert r.id b.responses.length
    responses := b.responses ++ [{}]
    requests := b.requests.send consumer r }

theorem find?_accept (b : Bus) (consumer : Nat) (r : Request) (id : String) :
    (b.accept consumer r).pending.find? id
      = if id = r.id then some b.responses.length else b.pending.find? id := by
  simp only [accept, find?_insert]

/-- The request is the last one that waits for the consumer. -/
theorem waiting_accept {b : Bus} {consumer : Nat} (inRange : consumer < b.requests.length)
    (r : Request) (m : Nat) :
    (b.accept consumer r).requests.waiting m
      = if m = consumer then b.requests.waiting m ++ [r] else b.requests.waiting m := by
  rw [accept, Channels.waiting_send inRange]

/-- Nothing waits in the new channel, which is held for the request's id. -/
theorem nothing_accept (b : Bus) (consumer : Nat) (r : Request) :
    (b.accept consumer r).responses.waiting b.responses.length = [] ∧
      (b.accept consumer r).subscriberHeld b.responses.length = true := by
  constructor
  · rw [accept, Channels.waiting_append_new, Channels.waiting_of_length_le (Nat.le_refl _)]
  · apply subscriberHeld_iff.mpr
    exact ⟨r.id, Fields.mem_of_find? (by rw [find?_accept, if_pos rfl])⟩

/-- A request is refused for want of a consumer, is refused because its id has an attended
subscriber, or is taken in. Publishing never fails after the look for a consumer. -/
theorem send_cases (b : Bus) (r : Request) :
    (b.hasConsumer = false ∧ b.send r = (b, ⟨r.id, .failed .noConsumer⟩)) ∨
    (b.hasConsumer = true ∧ (b.pending.find? r.id).any b.responses.attended = true ∧
      b.send r = (b, ⟨r.id, .failed (.duplicateRequestId r.id)⟩)) ∨
    (∃ n, b.consumer = some n ∧ b.requests.attended n = true ∧
      (b.pending.find? r.id).any b.responses.attended = false ∧
      b.send r = (b.accept n r, ⟨r.id, .following b.responses.length⟩)) := by
  cases consumerEq : b.consumer with
  | none =>
      have deaf : b.hasConsumer = false := by simp [hasConsumer, consumerEq]
      left
      simp [send, sendStep, deaf, Sending.stream]
  | some n =>
      cases attended : b.requests.attended n with
      | false =>
          have deaf : b.hasConsumer = false := by simp [hasConsumer, consumerEq, attended]
          left
          simp [send, sendStep, deaf, Sending.stream]
      | true =>
          have hears : b.hasConsumer = true := by simp [hasConsumer, consumerEq, attended]
          right
          cases taken : (b.pending.find? r.id).any b.responses.attended with
          | true =>
              left
              refine ⟨hears, rfl, ?_⟩
              simp [send, sendStep, hears, subscribe, taken, Sending.stream]
          | false =>
              right
              refine ⟨n, rfl, attended, rfl, ?_⟩
              simp [send, sendStep, hears, subscribe, taken, publishRequest, consumerEq, attended,
                Sending.stream, accept]

/-! ### Receiving a request -/

theorem waiting_receiveRequest (b : Bus) (c m : Nat) :
    (b.receiveRequest c).1.requests.waiting m
      = if m = c then (b.requests.waiting m).tail else b.requests.waiting m :=
  Channels.waiting_receive _ _ _ _

@[simp] theorem attended_receiveRequest (b : Bus) (c m : Nat) :
    (b.receiveRequest c).1.requests.attended m = b.requests.attended m :=
  Channels.attended_receive _ _ _ _

/-- What is received is the oldest request that waits. -/
theorem receiveRequest_eq_item_iff {b : Bus} {c : Nat} {r : Request} :
    (b.receiveRequest c).2 = .item r ↔ (b.requests.waiting c).head? = some r := by
  unfold receiveRequest
  cases waiting : b.requests.waiting c with
  | nil =>
      rw [Channels.receive_of_waiting_nil waiting]
      cases held : (b.consumer == some c) <;> simp
  | cons first rest =>
      rw [Channels.receive_of_waiting_cons waiting]
      simp

/-- A channel is disconnected once it is empty and another consumer, or none, is attached. -/
theorem receiveRequest_eq_disconnected_iff {b : Bus} {c : Nat} :
    (b.receiveRequest c).2 = .disconnected ↔
      b.requests.waiting c = [] ∧ b.consumer ≠ some c := by
  unfold receiveRequest
  cases waiting : b.requests.waiting c with
  | nil =>
      rw [Channels.receive_of_waiting_nil waiting]
      cases held : (b.consumer == some c) <;> simp_all
  | cons first rest =>
      rw [Channels.receive_of_waiting_cons waiting]
      simp

/-! ### Looking at a stream -/

/-- A look at a stream that follows its responses goes by what waits in its channel. -/
theorem poll_following {b : Bus} {s : Stream} {c : Nat} (following : s.state = .following c) :
    b.poll s = match b.responses.waiting c with
      | r :: _ =>
        if r.terminal then
          ((b.receiveResponse c).1.releaseSubscriber c, { s with state := .ended }, .item r)
        else ((b.receiveResponse c).1, s, .item r)
      | [] =>
        if b.subscriberHeld c then (b, s, .waiting)
        else (b.releaseSubscriber c, { s with state := .ended }, .failed (.closed s.id)) := by
  cases waitingEq : b.responses.waiting c with
  | nil =>
      have unchanged : b.receiveResponse c =
          (b, if b.subscriberHeld c then .empty else .disconnected) := by
        unfold receiveResponse
        rw [Channels.receive_of_waiting_nil waitingEq]
      simp only [poll, following, unchanged]
      cases held : b.subscriberHeld c <;> simp
  | cons r rest =>
      have got : b.receiveResponse c = ((b.receiveResponse c).1, .item r) := by
        unfold receiveResponse
        rw [Channels.receive_of_waiting_cons waitingEq]
      simp only [poll, following]
      rw [got]

@[simp] theorem pending_receiveResponse (b : Bus) (c : Nat) :
    (b.receiveResponse c).1.pending = b.pending := rfl

@[simp] theorem requests_receiveResponse (b : Bus) (c : Nat) :
    (b.receiveResponse c).1.requests = b.requests := rfl

@[simp] theorem consumer_receiveResponse (b : Bus) (c : Nat) :
    (b.receiveResponse c).1.consumer = b.consumer := rfl

theorem waiting_receiveResponse (b : Bus) (c m : Nat) :
    (b.receiveResponse c).1.responses.waiting m
      = if m = c then (b.responses.waiting m).tail else b.responses.waiting m :=
  Channels.waiting_receive _ _ _ _

@[simp] theorem attended_receiveResponse (b : Bus) (c m : Nat) :
    (b.receiveResponse c).1.responses.attended m = b.responses.attended m :=
  Channels.attended_receive _ _ _ _

/-- What a look at a stream comes to. A stream that follows nothing is ended and gives no response.
One that follows its channel yields the oldest response there, and ends on a terminal one; if there
is none it waits while the channel is held, and fails otherwise. -/
theorem poll_cases (b : Bus) (s : Stream) :
    (s.unfinished = false ∧ (b.poll s).1 = b ∧ (b.poll s).2.1 = { s with state := .ended } ∧
      ∀ r, (b.poll s).2.2 ≠ .item r) ∨
    ∃ c, s.state = .following c ∧
      ((∃ r rest, b.responses.waiting c = r :: rest ∧
          ((r.terminal = false ∧ b.poll s = ((b.receiveResponse c).1, s, .item r)) ∨
            (r.terminal = true ∧ b.poll s =
              ((b.receiveResponse c).1.releaseSubscriber c, { s with state := .ended },
                .item r)))) ∨
        (b.responses.waiting c = [] ∧
          ((b.subscriberHeld c = true ∧ b.poll s = (b, s, .waiting)) ∨
            (b.subscriberHeld c = false ∧ b.poll s =
              (b.releaseSubscriber c, { s with state := .ended }, .failed (.closed s.id)))))) := by
  obtain ⟨id, state⟩ := s
  cases state with
  | failed e => exact Or.inl ⟨rfl, rfl, rfl, by simp [poll]⟩
  | ended => exact Or.inl ⟨rfl, rfl, rfl, by simp [poll]⟩
  | following c =>
      refine Or.inr ⟨c, rfl, ?_⟩
      rw [poll_following rfl]
      cases waitingEq : b.responses.waiting c with
      | nil => cases held : b.subscriberHeld c <;> simp
      | cons r rest => cases terminal : r.terminal <;> simp [terminal]

/-- The bus after a look at a stream is one of four: as before, with the oldest response of the
stream's channel taken, with that channel released, or both. -/
theorem poll_bus_cases (b : Bus) (s : Stream) :
    (b.poll s).1 = b ∨ ∃ c, s.state = .following c ∧
      ((b.poll s).1 = (b.receiveResponse c).1 ∨
        (b.poll s).1 = (b.receiveResponse c).1.releaseSubscriber c ∨
        (b.poll s).1 = b.releaseSubscriber c) := by
  rcases poll_cases b s with ⟨_, same, _⟩ | ⟨c, following, outcome⟩
  · exact Or.inl same
  · rcases outcome with
      ⟨_, _, _, ⟨_, result⟩ | ⟨_, result⟩⟩ | ⟨_, ⟨_, result⟩ | ⟨_, result⟩⟩ <;>
      simp [result, following]

@[simp] theorem pending_poll (b : Bus) (s : Stream) : (b.poll s).1.pending = b.pending := by
  rcases poll_bus_cases b s with same | ⟨c, _, taken | both | released⟩
  · rw [same]
  · rw [taken, pending_receiveResponse]
  · rw [both]
    rfl
  · rw [released]
    rfl

@[simp] theorem requests_poll (b : Bus) (s : Stream) : (b.poll s).1.requests = b.requests := by
  rcases poll_bus_cases b s with same | ⟨c, _, taken | both | released⟩
  · rw [same]
  · rw [taken, requests_receiveResponse]
  · rw [both]
    rfl
  · rw [released]
    rfl

@[simp] theorem consumer_poll (b : Bus) (s : Stream) : (b.poll s).1.consumer = b.consumer := by
  rcases poll_bus_cases b s with same | ⟨c, _, taken | both | released⟩
  · rw [same]
  · rw [taken, consumer_receiveResponse]
  · rw [both]
    rfl
  · rw [released]
    rfl

/-- A look at a stream leaves what waits in every other channel. -/
theorem waiting_poll_of_ne {b : Bus} {s : Stream} {m : Nat} (other : s.state ≠ .following m) :
    (b.poll s).1.responses.waiting m = b.responses.waiting m := by
  rcases poll_bus_cases b s with same | ⟨c, following, bus⟩
  · rw [same]
  · have differs : ¬ m = c := fun equal => other (equal ▸ following)
    rcases bus with taken | both | released
    · rw [taken, waiting_receiveResponse, if_neg differs]
    · rw [both]
      simp only [releaseSubscriber]
      rw [Channels.waiting_release, if_neg differs, waiting_receiveResponse, if_neg differs]
    · rw [released]
      simp only [releaseSubscriber]
      rw [Channels.waiting_release, if_neg differs]

/-! ### Giving up a stream -/

theorem drop_following {b : Bus} {s : Stream} {c : Nat} (following : s.state = .following c) :
    b.drop s = (b.unsubscribe s.id).releaseSubscriber c := by
  simp [drop, following]

theorem drop_of_not_following {b : Bus} {s : Stream} (still : ∀ c, s.state ≠ .following c) :
    b.drop s = b := by
  unfold drop
  split
  · rename_i c following
    exact absurd following (still c)
  · rfl

@[simp] theorem requests_drop (b : Bus) (s : Stream) : (b.drop s).requests = b.requests := by
  unfold drop
  split <;> rfl

@[simp] theorem consumer_drop (b : Bus) (s : Stream) : (b.drop s).consumer = b.consumer := by
  unfold drop
  split <;> rfl

/-- Giving up a stream that still follows its responses ends the subscription to its id, whichever
stream holds it; giving up any other stream ends none. -/
theorem find?_drop (b : Bus) (s : Stream) (id : String) :
    (b.drop s).pending.find? id
      = if id = s.id ∧ s.unfinished then none else b.pending.find? id := by
  unfold Stream.unfinished
  cases state : s.state with
  | failed e => simp [drop, state]
  | ended => simp [drop, state]
  | following c =>
      rw [drop_following state]
      simp [releaseSubscriber, unsubscribe, find?_erase]

theorem sorted_drop {b : Bus} (sorted : b.pending.Sorted) (s : Stream) :
    (b.drop s).pending.Sorted := by
  unfold drop
  split
  · exact sorted.erase s.id
  · exact sorted

/-- Giving up a stream leaves what waits in every other channel. -/
theorem waiting_drop_of_ne {b : Bus} {s : Stream} {m : Nat} (other : s.state ≠ .following m) :
    (b.drop s).responses.waiting m = b.responses.waiting m := by
  unfold drop
  split
  · rename_i c following
    have differs : ¬ m = c := fun equal => other (equal ▸ following)
    simp only [releaseSubscriber, unsubscribe]
    rw [Channels.waiting_release, if_neg differs]
  · rfl

theorem attended_drop_of_ne {b : Bus} {s : Stream} {m : Nat} (other : s.state ≠ .following m) :
    (b.drop s).responses.attended m = b.responses.attended m := by
  unfold drop
  split
  · rename_i c following
    have differs : ¬ m = c := fun equal => other (equal ▸ following)
    simp only [releaseSubscriber, unsubscribe]
    rw [Channels.attended_release, if_neg differs]
  · rfl

end Bus
end EventDispatch
