import EventDispatch.Proofs.Broker.Subscriptions
/-!
The ledger of a run.

Purpose: along every run the log and the broker tell the same story of each stream. What the stream
has yielded, followed by what it has not yet read, is what it is owed; and the bus serves it exactly
while the log has it subscribed. So at any moment at most one stream is subscribed to an id.

Main exports: `Broker.Run.Balanced`, `Broker.Run.Balanced.next`, `Broker.Run.balanced_of`.
-/

namespace EventDispatch.Broker

namespace Log

/-! ### Facts about logs alone -/

theorem event?_cons_of_lt {log : Log} {e : Event} {k : Nat} (earlier : k < log.length) :
    event? (e :: log) k = log.event? k := by
  unfold event?
  rw [List.reverse_cons, List.getElem?_append_left (by simpa using earlier)]

theorem event?_cons_length (log : Log) (e : Event) : event? (e :: log) log.length = some e := by
  unfold event?
  rw [List.reverse_cons, List.getElem?_append_right (by simp)]
  simp

/-- What a stream is owed after one more event: the same, or also the response just published. -/
theorem mem_owed_cons {n : Nat} {log : Log} {e : Event} {p : Nat × Response}
    (member : p ∈ owed n (e :: log)) :
    p ∈ owed n log ∨
      (e = .published p.2 ∧ p.1 = log.length ∧ subscription n log = some p.2.id) := by
  cases e with
  | published r =>
      simp only [owed] at member
      split at member
      · rename_i subscribed
        rcases List.mem_append.mp member with old | new
        · exact Or.inl old
        · rw [List.mem_singleton.mp new]
          exact Or.inr ⟨rfl, rfl, subscribed⟩
      · exact Or.inl member
  | _ => exact Or.inl member

/-- A response is owed at a moment before now. -/
theorem owed_lt_length {n : Nat} {log : Log} {p : Nat × Response} (member : p ∈ owed n log) :
    p.1 < log.length := by
  induction log with
  | nil => simp [owed] at member
  | cons e log inductionHypothesis =>
      rw [List.length_cons]
      rcases mem_owed_cons member with old | ⟨_, moment, _⟩
      · exact Nat.lt_succ_of_lt (inductionHypothesis old)
      · omega

/-- What is owed was published at its moment. -/
theorem event?_of_mem_owed {n : Nat} {log : Log} {p : Nat × Response}
    (member : p ∈ owed n log) : log.event? p.1 = some (.published p.2) := by
  induction log with
  | nil => simp [owed] at member
  | cons e log inductionHypothesis =>
      rcases mem_owed_cons member with old | ⟨published, moment, _⟩
      · rw [event?_cons_of_lt (owed_lt_length old)]
        exact inductionHypothesis old
      · rw [moment, event?_cons_length, published]

/-- What is owed stands in the order of publication. -/
theorem owed_ascending (n : Nat) (log : Log) : (owed n log).Pairwise (·.1 < ·.1) := by
  induction log with
  | nil => exact List.Pairwise.nil
  | cons e log inductionHypothesis =>
      cases e with
      | published r =>
          simp only [owed]
          split
          · rw [List.pairwise_append]
            refine ⟨inductionHypothesis, List.pairwise_singleton _ _, ?_⟩
            intro p old q new
            rw [List.mem_singleton.mp new]
            exact owed_lt_length old
          · exact inductionHypothesis
      | _ => exact inductionHypothesis

end Log

namespace Run

/-- The log and the broker of a run tell the same story. -/
structure Balanced (r : Run) : Prop where
  sound : r.broker.Sound
  /-- A stream has the id of the request for which it was handed out. -/
  request : ∀ {n : Nat} {s : Stream}, r.broker.stream? n = some s →
    ∃ q, r.log.request? n = some q ∧ q.id = s.id
  /-- What a stream has yielded and what it has not yet read make up what it is owed. -/
  balance : ∀ {n : Nat} {s : Stream}, r.broker.stream? n = some s →
    r.log.yielded n ++ r.broker.bus.unread s = (r.log.owed n).map Prod.snd
  /-- A stream is served while it is subscribed. -/
  subscribed : ∀ {n : Nat} {s : Stream}, r.broker.stream? n = some s →
    r.log.subscription n = if r.broker.bus.serves s then some s.id else none
  /-- A stream that was given up has yielded the first of what it was owed. -/
  gone : ∀ {n : Nat}, r.broker.stream? n = none →
    r.log.subscription n = none ∧ r.log.yielded n <+: (r.log.owed n).map Prod.snd
  /-- A stream that was not handed out yet is owed nothing. -/
  unborn : ∀ {n : Nat}, r.broker.streams.length ≤ n →
    r.log.owed n = [] ∧ r.log.yielded n = []
  /-- What a stream is owed carries the id of its request. -/
  own : ∀ {n : Nat} {p : Nat × Response}, p ∈ r.log.owed n →
    ∃ q, r.log.request? n = some q ∧ p.2.id = q.id
  /-- No publication is owed to two streams. -/
  exclusive : ∀ {m n : Nat} {p q : Nat × Response}, p ∈ r.log.owed m → q ∈ r.log.owed n →
    p.1 = q.1 → m = n

namespace Balanced

theorem start : Balanced {} where
  sound := .start
  request := by
    intro n s live
    simp [stream?] at live
  balance := by
    intro n s live
    simp [stream?] at live
  subscribed := by
    intro n s live
    simp [stream?] at live
  gone := by
    intro n _
    exact ⟨rfl, List.nil_prefix⟩
  unborn := by
    intro n _
    exact ⟨rfl, rfl⟩
  own := by
    intro n p member
    simp [Log.owed] at member
  exclusive := by
    intro m n p q member
    simp [Log.owed] at member

variable {r : Run}

/-- A subscribed stream is live, served, and has the id to which it is subscribed. -/
theorem live_of_subscription (balanced : r.Balanced) {n : Nat} {id : String}
    (subscription : r.log.subscription n = some id) :
    ∃ s, r.broker.stream? n = some s ∧ s.id = id ∧ r.broker.bus.serves s = true := by
  cases live : r.broker.stream? n with
  | none =>
      rw [(balanced.gone live).1] at subscription
      exact absurd subscription (by simp)
  | some s =>
      rw [balanced.subscribed live] at subscription
      split at subscription
      · rename_i served
        exact ⟨s, rfl, Option.some.inj subscription, served⟩
      · exact absurd subscription (by simp)

/-- At most one stream is subscribed to an id. -/
theorem eq_of_subscription (balanced : r.Balanced) {m n : Nat} {id : String}
    (subscriptionM : r.log.subscription m = some id)
    (subscriptionN : r.log.subscription n = some id) : m = n := by
  obtain ⟨s, liveS, idS, servedS⟩ := balanced.live_of_subscription subscriptionM
  obtain ⟨t, liveT, idT, servedT⟩ := balanced.live_of_subscription subscriptionN
  exact balanced.sound.eq_of_serves liveS liveT (idS.trans idT.symm) servedS servedT

/-- A stream is subscribed to the id of a response exactly if the response reaches it. -/
theorem subscription_iff (balanced : r.Balanced) {n : Nat} {s : Stream}
    (live : r.broker.stream? n = some s) (id : String) :
    r.log.subscription n = some id ↔ r.broker.bus.serves s = true ∧ s.id = id := by
  rw [balanced.subscribed live]
  cases r.broker.bus.serves s <;> simp

/-- What is owed after one more event keeps its requests and its exclusiveness. -/
theorem owed_next (balanced : r.Balanced) (e : Event) :
    (∀ {n : Nat} {p : Nat × Response}, p ∈ Log.owed n (e :: r.log) →
      ∃ q, r.log.request? n = some q ∧ p.2.id = q.id) ∧
    (∀ {m n : Nat} {p q : Nat × Response}, p ∈ Log.owed m (e :: r.log) →
      q ∈ Log.owed n (e :: r.log) → p.1 = q.1 → m = n) := by
  constructor
  · intro n p member
    rcases Log.mem_owed_cons member with old | ⟨_, _, subscription⟩
    · exact balanced.own old
    · obtain ⟨s, live, idEq, _⟩ := balanced.live_of_subscription subscription
      obtain ⟨q, request, requestId⟩ := balanced.request live
      exact ⟨q, request, by rw [requestId, idEq]⟩
  · intro m n p q memberP memberQ moments
    rcases Log.mem_owed_cons memberP with oldP | ⟨publishedP, momentP, subscriptionP⟩
    · have earlier := Log.owed_lt_length oldP
      rcases Log.mem_owed_cons memberQ with oldQ | ⟨_, momentQ, _⟩
      · exact balanced.exclusive oldP oldQ moments
      · omega
    · rcases Log.mem_owed_cons memberQ with oldQ | ⟨publishedQ, _, subscriptionQ⟩
      · have earlier := Log.owed_lt_length oldQ
        omega
      · have same : p.2 = q.2 := by
          rw [publishedP] at publishedQ
          exact Event.published.inj publishedQ
        rw [same] at subscriptionP
        exact balanced.eq_of_subscription subscriptionP subscriptionQ

/-! ### Each action keeps the balance -/

/-- An event that says nothing of streams and responses. -/
theorem of_subscribers_eq (balanced : r.Balanced) {bus : Bus} {e : Event}
    (pending : bus.pending = r.broker.bus.pending)
    (responses : bus.responses = r.broker.bus.responses)
    (request : ∀ n, Log.request? n (e :: r.log) = r.log.request? n)
    (subscription : ∀ n, Log.subscription n (e :: r.log) = r.log.subscription n)
    (owed : ∀ n, Log.owed n (e :: r.log) = r.log.owed n)
    (yielded : ∀ n, Log.yielded n (e :: r.log) = r.log.yielded n) :
    Balanced ⟨{ r.broker with bus }, e :: r.log⟩ where
  sound := balanced.sound.of_subscribers_eq pending responses
  request := by
    intro n s live
    rw [request]
    exact balanced.request live
  balance := by
    intro n s live
    rw [owed, yielded, Bus.unread_congr responses]
    exact balanced.balance live
  subscribed := by
    intro n s live
    rw [subscription, Bus.serves_congr pending]
    exact balanced.subscribed live
  gone := by
    intro n empty
    rw [subscription, owed, yielded]
    exact balanced.gone empty
  unborn := by
    intro n beyond
    rw [owed, yielded]
    exact balanced.unborn beyond
  own := by
    intro n p member
    rw [request]
    exact (balanced.owed_next e).1 member
  exclusive := (balanced.owed_next e).2

theorem respond (balanced : r.Balanced) (response : Response) :
    Balanced ⟨{ r.broker with bus := r.broker.bus.publishResponse response },
      .published response :: r.log⟩ where
  sound := balanced.sound.respond response
  request := balanced.request
  balance := by
    intro n s live
    simp only [Log.owed, Log.yielded]
    rw [balanced.sound.unread_respond live]
    simp only [balanced.subscription_iff live]
    split
    · rw [← List.append_assoc, balanced.balance live]
      simp
    · exact balanced.balance live
  subscribed := by
    intro n s live
    simp only [Log.subscription]
    rw [balanced.sound.serves_respond live]
    simp only [balanced.subscribed live]
    cases r.broker.bus.serves s <;> cases response.terminal <;>
      by_cases same : s.id = response.id <;> simp [same]
  gone := by
    intro n empty
    obtain ⟨unsubscribed, first⟩ := balanced.gone empty
    simp [Log.subscription, Log.owed, Log.yielded, unsubscribed, first]
  unborn := by
    intro n beyond
    have empty : r.broker.stream? n = none := by
      simp [stream?, List.getElem?_eq_none beyond]
    obtain ⟨unsubscribed, _⟩ := balanced.gone empty
    simp [Log.owed, Log.yielded, unsubscribed, balanced.unborn beyond]
  own := (balanced.owed_next _).1
  exclusive := (balanced.owed_next _).2

theorem close (balanced : r.Balanced) :
    Balanced ⟨{ r.broker with bus := r.broker.bus.close }, .closed :: r.log⟩ where
  sound := balanced.sound.close
  request := balanced.request
  balance := balanced.balance
  subscribed := by
    intro n s _
    have unserved : r.broker.bus.close.serves s = false := by
      cases state : s.state <;> simp [Bus.serves, state, Bus.close, Bus.clearPending]
    simp only [unserved]
    rfl
  gone := by
    intro n empty
    exact ⟨rfl, (balanced.gone empty).2⟩
  unborn := balanced.unborn
  own := balanced.own
  exclusive := balanced.exclusive

/-- A stream is handed out for a request. -/
theorem handOut (balanced : r.Balanced) {bus : Bus} {fresh : Stream} {e : Event}
    (request : Request) (sound : Sound ⟨bus, r.broker.streams ++ [some fresh]⟩)
    (idEq : request.id = fresh.id)
    (serves : ∀ {n : Nat} {s : Stream}, r.broker.stream? n = some s →
      bus.serves s = r.broker.bus.serves s)
    (unread : ∀ s, bus.unread s = r.broker.bus.unread s) (idle : bus.unread fresh = [])
    (requests : ∀ n, Log.request? n (e :: r.log)
      = if r.broker.streams.length = n then some request else r.log.request? n)
    (subscription : ∀ n, Log.subscription n (e :: r.log)
      = if r.broker.streams.length = n then if bus.serves fresh then some fresh.id else none
        else r.log.subscription n)
    (owed : ∀ n, Log.owed n (e :: r.log) = r.log.owed n)
    (yielded : ∀ n, Log.yielded n (e :: r.log) = r.log.yielded n) :
    Balanced ⟨⟨bus, r.broker.streams ++ [some fresh]⟩, e :: r.log⟩ := by
  have nothing := balanced.unborn (Nat.le_refl r.broker.streams.length)
  refine ⟨sound, ?_, ?_, ?_, ?_, ?_, ?_, (balanced.owed_next e).2⟩
  · intro n s live
    rw [requests]
    rcases of_stream?_append live with ⟨rfl, rfl⟩ | ⟨place, before⟩
    · rw [if_pos rfl]
      exact ⟨request, rfl, idEq⟩
    · rw [if_neg place]
      exact balanced.request before
  · intro n s live
    rw [owed, yielded]
    rcases of_stream?_append live with ⟨rfl, rfl⟩ | ⟨_, before⟩
    · rw [nothing.1, nothing.2, idle]
      rfl
    · rw [unread]
      exact balanced.balance before
  · intro n s live
    rw [subscription]
    rcases of_stream?_append live with ⟨rfl, rfl⟩ | ⟨place, before⟩
    · rw [if_pos rfl]
    · rw [if_neg place, serves before]
      exact balanced.subscribed before
  · intro n empty
    rw [stream?_append] at empty
    split at empty
    · exact absurd empty (by simp)
    · rename_i place
      rw [subscription, if_neg (fun equal => place equal.symm), owed, yielded]
      exact balanced.gone empty
  · intro n beyond
    rw [owed, yielded]
    refine balanced.unborn (Nat.le_of_succ_le ?_)
    simpa using beyond
  · intro n p member
    have place : ¬ r.broker.streams.length = n := by
      rintro rfl
      rw [owed, nothing.1] at member
      exact absurd member (by simp)
    rw [requests, if_neg place]
    exact (balanced.owed_next e).1 member

theorem send (balanced : r.Balanced) (request : Request) : (r.next (.send request)).Balanced := by
  have vacant : r.broker.stream? r.broker.streams.length = none := by simp [stream?]
  -- A refused stream is never subscribed, and its place was vacant before.
  have refuse : ∀ error : BrokerError,
      Balanced
        ⟨⟨r.broker.bus, r.broker.streams ++ [some ⟨request.id, .failed error⟩]⟩,
          .refused r.broker.streams.length request error :: r.log⟩ := by
    intro error
    refine balanced.handOut request (balanced.sound.refuse rfl) rfl (fun _ => rfl)
      (fun _ => rfl) rfl (fun _ => rfl) ?_ (fun _ => rfl) (fun _ => rfl)
    intro n
    split
    · rename_i place
      subst place
      exact (balanced.gone vacant).1
    · rfl
  rcases Bus.send_cases r.broker.bus request with
    ⟨_, result⟩ | ⟨_, _, result⟩ | ⟨consumer, _, _, free, result⟩
  · simp only [next, act, result]
    exact refuse .noConsumer
  · simp only [next, act, result]
    exact refuse (.duplicateRequestId request.id)
  · simp only [next, act, result]
    refine balanced.handOut request (balanced.sound.accept consumer free) rfl ?_
      (fun s => Sound.unread_accept _ _ s _) ?_ (fun _ => rfl) ?_ (fun _ => rfl) (fun _ => rfl)
    · intro n s live
      exact balanced.sound.serves_accept live free
    · rw [Sound.unread_accept, Bus.unread_of_following rfl,
        Channels.waiting_of_length_le (Nat.le_refl _)]
    · intro n
      simp [sent, Log.subscription, Bus.serves, Bus.accept, Fields.find?_insert]

theorem poll (balanced : r.Balanced) {n : Nat} {s : Stream}
    (live : r.broker.stream? n = some s) :
    Balanced
      ⟨⟨(r.broker.bus.poll s).1, r.broker.streams.set n (some (r.broker.bus.poll s).2.1)⟩,
        .looked n (r.broker.bus.poll s).2.2 :: r.log⟩ := by
  obtain ⟨idEq, served, taken, rest⟩ := balanced.sound.poll_reads live
  have inRange := lt_length_of_stream? live
  refine ⟨balanced.sound.poll live, ?_, ?_, ?_, ?_, ?_, balanced.own, balanced.exclusive⟩
  · intro m t liveT
    rcases of_stream?_set inRange liveT with ⟨rfl, rfl⟩ | ⟨_, before⟩
    · rw [idEq]
      exact balanced.request live
    · exact balanced.request before
  · intro m t liveT
    simp only [Log.owed, Log.yielded]
    rcases of_stream?_set inRange liveT with ⟨rfl, rfl⟩ | ⟨place, before⟩
    · rw [if_pos rfl, taken, rest, List.append_assoc, ← balanced.balance live]
      congr 1
      cases r.broker.bus.unread s <;> rfl
    · rw [if_neg place, balanced.sound.unread_poll live before place]
      exact balanced.balance before
  · intro m t liveT
    rcases of_stream?_set inRange liveT with ⟨rfl, rfl⟩ | ⟨_, before⟩
    · rw [served, idEq]
      exact balanced.subscribed live
    · rw [Sound.serves_poll]
      exact balanced.subscribed before
  · intro m empty
    rw [stream?_set _ inRange] at empty
    split at empty
    · exact absurd empty (by simp)
    · rename_i place
      have differs : ¬ n = m := fun equal => place equal.symm
      obtain ⟨unsubscribed, first⟩ := balanced.gone empty
      simp only [Log.subscription, Log.owed, Log.yielded, differs, if_false]
      exact ⟨unsubscribed, first⟩
  · intro m beyond
    rw [List.length_set] at beyond
    have differs : ¬ n = m := Nat.ne_of_lt (Nat.lt_of_lt_of_le inRange beyond)
    simp only [Log.owed, Log.yielded, differs, if_false]
    exact balanced.unborn beyond

theorem drop (balanced : r.Balanced) {n : Nat} {s : Stream}
    (live : r.broker.stream? n = some s) :
    Balanced
      ⟨⟨r.broker.bus.drop s, r.broker.streams.set n none⟩,
        (if s.unfinished then .released n s.id else .discarded n) :: r.log⟩ := by
  have inRange := lt_length_of_stream? live
  obtain ⟨event, eventEq⟩ : ∃ e : Event,
      e = if s.unfinished then .released n s.id else .discarded n := ⟨_, rfl⟩
  rw [← eventEq]
  have owed : ∀ m, Log.owed m (event :: r.log) = r.log.owed m := by
    intro m
    cases unfinished : s.unfinished <;> simp [eventEq, unfinished, Log.owed]
  have yielded : ∀ m, Log.yielded m (event :: r.log) = r.log.yielded m := by
    intro m
    cases unfinished : s.unfinished <;> simp [eventEq, unfinished, Log.yielded]
  have requests : ∀ m, Log.request? m (event :: r.log) = r.log.request? m := by
    intro m
    cases unfinished : s.unfinished <;> simp [eventEq, unfinished, Log.request?]
  have subscription : ∀ m, Log.subscription m (event :: r.log)
      = if s.unfinished ∧ r.log.subscription m = some s.id then none
        else r.log.subscription m := by
    intro m
    cases unfinished : s.unfinished <;> simp [eventEq, unfinished, Log.subscription]
  refine ⟨balanced.sound.drop live, ?_, ?_, ?_, ?_, ?_, ?_, (balanced.owed_next _).2⟩
  · intro m t liveT
    rw [requests]
    exact balanced.request (of_stream?_set_none inRange liveT).2
  · intro m t liveT
    obtain ⟨place, before⟩ := of_stream?_set_none inRange liveT
    rw [owed, yielded, balanced.sound.unread_drop live before place]
    exact balanced.balance before
  · intro m t liveT
    obtain ⟨_, before⟩ := of_stream?_set_none inRange liveT
    rw [subscription, Sound.serves_drop, balanced.subscribed before]
    cases r.broker.bus.serves t <;> cases s.unfinished <;> by_cases same : t.id = s.id <;>
      simp [same]
  · intro m empty
    rw [owed, yielded, subscription]
    rw [stream?_set _ inRange] at empty
    split at empty
    · rename_i place
      subst place
      refine ⟨?_, ?_⟩
      · rw [balanced.subscribed live]
        cases unfinished : s.unfinished with
        | false => simp [Bus.serves_of_finished unfinished]
        | true => cases r.broker.bus.serves s <;> simp
      · rw [← balanced.balance live]
        exact List.prefix_append _ _
    · obtain ⟨unsubscribed, first⟩ := balanced.gone empty
      rw [unsubscribed]
      exact ⟨by simp, first⟩
  · intro m beyond
    rw [owed, yielded]
    apply balanced.unborn
    simpa using beyond
  · intro m p member
    rw [requests]
    exact (balanced.owed_next _).1 member

/-- Every action keeps the balance. -/
theorem next (balanced : r.Balanced) (a : Action) : (r.next a).Balanced := by
  have unseen : Balanced ⟨r.broker, .nothing :: r.log⟩ :=
    balanced.of_subscribers_eq rfl rfl (fun _ => rfl) (fun _ => rfl) (fun _ => rfl) (fun _ => rfl)
  cases a with
  | listen =>
      exact balanced.of_subscribers_eq rfl rfl (fun _ => rfl) (fun _ => rfl) (fun _ => rfl)
        (fun _ => rfl)
  | receive c =>
      exact balanced.of_subscribers_eq rfl rfl (fun _ => rfl) (fun _ => rfl) (fun _ => rfl)
        (fun _ => rfl)
  | leave c =>
      exact balanced.of_subscribers_eq rfl rfl (fun _ => rfl) (fun _ => rfl) (fun _ => rfl)
        (fun _ => rfl)
  | send request => exact balanced.send request
  | respond response => exact balanced.respond response
  | close => exact balanced.close
  | poll n =>
      simp only [Run.next, act]
      cases live : r.broker.stream? n with
      | none => exact unseen
      | some s => exact balanced.poll live
  | drop n =>
      simp only [Run.next, act]
      cases live : r.broker.stream? n with
      | none => exact unseen
      | some s => exact balanced.drop live

end Balanced

/-- Every run is balanced. -/
theorem balanced_of (actions : List Action) : (of actions).Balanced :=
  of_induction (P := Balanced) .start (fun _ a balanced => balanced.next a) actions

end Run
end EventDispatch.Broker
