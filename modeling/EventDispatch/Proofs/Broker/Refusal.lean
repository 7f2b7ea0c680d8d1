import EventDispatch.Proofs.Broker.Correlation
import EventDispatch.Proofs.Broker.Delivery
/-!
Refused requests leave no trace.

Purpose: a request is refused for want of a consumer, or because its id has a subscriber. Then the
bus is as it was, and whatever is done from there on comes to the same as in the run in which the
request was never sent. That run has one stream less, so streams with later places move up. Looks at
the refused stream tell its error once and the end after it, and giving it up does nothing.

Sending may also fail after the id was subscribed to, if the consumer goes away in between. Then the
subscription is taken back, and nothing else.

Main exports: `Broker.without`, `Broker.Action.without`, `Broker.Log.told`, `Broker.act_without`,
`Broker.Run.Parallel`, `Broker.Traceless`, `Bus.Restores`, `Bus.TakesBack`,
`Broker.refusal_leaves_no_trace`.
-/

namespace EventDispatch

namespace Broker

/-! ### Leaving a stream out -/

/-- The place to which a stream moves when the one at another place is left out. -/
def lowered (p n : Nat) : Nat := if n < p then n else n - 1

/-- The broker without the stream at a place. -/
def without (b : Broker) (p : Nat) : Broker := { b with streams := b.streams.eraseIdx p }

/-- An action where the stream at a place is left out. To look at that stream or to give it up is no
action there. -/
def Action.without (p : Nat) : Action → Option Action
  | .poll n => if n = p then none else some (.poll (lowered p n))
  | .drop n => if n = p then none else some (.drop (lowered p n))
  | a => some a

/-- What a look at a stream is seen to tell. -/
def Event.told? (n : Nat) : Event → Option Poll
  | .looked m result => if m = n then some result else none
  | _ => none

/-- What looks at a stream have told, oldest first. -/
def Log.told (n : Nat) : Log → List Poll
  | [] => []
  | e :: log => told n log ++ (e.told? n).toList

theorem lowered_inj {p m n : Nat} (otherM : m ≠ p) (otherN : n ≠ p) :
    lowered p m = lowered p n ↔ m = n := by
  unfold lowered
  split <;> split <;> omega

variable {b : Broker} {p : Nat}

theorem stream?_without {n : Nat} (other : n ≠ p) :
    (b.without p).stream? (lowered p n) = b.stream? n := by
  unfold stream? without lowered
  simp only [List.getElem?_eraseIdx]
  by_cases before : n < p
  · simp [before]
  · have after : ¬ n - 1 < p := by omega
    have succ : n - 1 + 1 = n := by omega
    simp [before, after, succ]

/-- Another stream may become something else before or after a stream is left out. -/
theorem set_without {n : Nat} (other : n ≠ p) (entry : Option Stream) :
    (b.streams.set n entry).eraseIdx p = (b.streams.eraseIdx p).set (lowered p n) entry := by
  unfold lowered
  rcases Nat.lt_or_gt_of_ne other with before | after
  · rw [if_pos before]
    exact List.eraseIdx_set_gt before
  · rw [if_neg (Nat.not_lt.mpr (Nat.le_of_lt after))]
    exact List.eraseIdx_set_lt after

/-- A stream that is left out makes no difference to what is done elsewhere, nor to what is seen of
it. -/
theorem act_without {a a' : Action} (inRange : p < b.streams.length)
    (elsewhere : a.without p = some a') :
    ((b.without p).act a').1 = (b.act a).1.without p ∧
      (∀ n, n ≠ p → ((b.without p).act a').2.told? (lowered p n) = (b.act a).2.told? n) ∧
      ∀ c, ((b.without p).act a').2.handed? c = (b.act a).2.handed? c := by
  cases a with
  | send q =>
      cases elsewhere
      refine ⟨?_, ?_, ?_⟩
      · simp [act, without, List.eraseIdx_append_of_lt_length inRange]
      · intro n _
        simp only [act, sent]
        split <;> split <;> simp [Event.told?]
      · intro c
        simp only [act, sent]
        split <;> split <;> simp [Event.handed?]
  | poll m =>
      simp only [Action.without] at elsewhere
      split at elsewhere
      · exact absurd elsewhere (by simp)
      · rename_i other
        cases elsewhere
        cases live : b.stream? m with
        | none => simp [act, stream?_without other, live, Event.told?, Event.handed?]
        | some s =>
            simp only [act, stream?_without other, live]
            refine ⟨?_, ?_, ?_⟩
            · simp [without, set_without other]
            · intro n otherN
              simp [Event.told?, without, lowered_inj other otherN]
            · intro c
              rfl
  | drop m =>
      simp only [Action.without] at elsewhere
      split at elsewhere
      · exact absurd elsewhere (by simp)
      · rename_i other
        cases elsewhere
        cases live : b.stream? m with
        | none => simp [act, stream?_without other, live, Event.told?, Event.handed?]
        | some s =>
            simp only [act, stream?_without other, live]
            refine ⟨?_, ?_, ?_⟩
            · simp [without, set_without other]
            · intro n _
              split <;> simp [Event.told?]
            · intro c
              split <;> simp [Event.handed?]
  | _ =>
      cases elsewhere
      exact ⟨rfl, fun _ _ => rfl, fun _ => rfl⟩

/-- What is done elsewhere leaves a stream, and tells nothing of it. -/
theorem stays_elsewhere {a a' : Action} (inRange : p < b.streams.length)
    (elsewhere : a.without p = some a') :
    (b.act a).1.stream? p = b.stream? p ∧ (b.act a).2.told? p = none := by
  cases a with
  | send q =>
      constructor
      · exact (stream?_append b (b.bus.send q).1 (b.bus.send q).2 p).trans
          (if_neg (Nat.ne_of_lt inRange))
      · simp only [act, sent]
        split <;> rfl
  | poll m =>
      have other : m ≠ p := by
        rintro rfl
        simp [Action.without] at elsewhere
      cases live : b.stream? m with
      | none => simp [act, live, Event.told?]
      | some s =>
          simp only [act, live]
          constructor
          · exact (stream?_set _ (lt_length_of_stream? live) _ p).trans (if_neg other.symm)
          · simp [Event.told?, other]
  | drop m =>
      have other : m ≠ p := by
        rintro rfl
        simp [Action.without] at elsewhere
      cases live : b.stream? m with
      | none => simp [act, live, Event.told?]
      | some s =>
          simp only [act, live]
          constructor
          · exact (stream?_set _ (lt_length_of_stream? live) _ p).trans (if_neg other.symm)
          · split <;> rfl
  | _ => exact ⟨rfl, rfl⟩

/-- What becomes of a stream that was refused, and what looks at it have told: the error once, and
then the end. -/
inductive Spent (b : Broker) (p : Nat) (id : String) (e : BrokerError) : List Poll → Prop where
  | silent (live : b.stream? p = some ⟨id, .failed e⟩) : Spent b p id e []
  | ended (k : Nat) (live : b.stream? p = some ⟨id, .ended⟩) :
      Spent b p id e (.failed e :: List.replicate k .ended)
  | gone (k : Nat) (vacant : b.stream? p = none) :
      Spent b p id e ((.failed e :: List.replicate k .ended).take k)

namespace Spent

variable {id : String} {e : BrokerError} {told : List Poll}

/-- The error and the ends that follow it, as far as they were looked at. -/
theorem take_succ (e : BrokerError) (k : Nat) :
    ((Poll.failed e :: List.replicate (k + 1) .ended).take (k + 1))
      = Poll.failed e :: List.replicate k .ended := by
  simp [List.take_replicate]

theorem exists_take (spent : Spent b p id e told) :
    ∃ k, told = (Poll.failed e :: List.replicate k .ended).take k := by
  cases spent with
  | silent _ => exact ⟨0, rfl⟩
  | ended k _ => exact ⟨k + 1, (take_succ e k).symm⟩
  | gone k _ => exact ⟨k, rfl⟩

theorem of_stream?_eq {d : Broker} (spent : Spent b p id e told)
    (same : d.stream? p = b.stream? p) : Spent d p id e told := by
  cases spent with
  | silent live => exact .silent (same.trans live)
  | ended k live => exact .ended k (same.trans live)
  | gone k vacant => exact .gone k (same.trans vacant)

/-- Looking at a refused stream and giving it up concern nothing but the stream. -/
theorem act (spent : Spent b p id e told) (inRange : p < b.streams.length) {a : Action}
    (own : a.without p = none) :
    (b.act a).1.without p = b.without p ∧
      Spent (b.act a).1 p id e (told ++ ((b.act a).2.told? p).toList) ∧
      (∀ n, n ≠ p → (b.act a).2.told? n = none) ∧ ∀ c, (b.act a).2.handed? c = none := by
  have place : ∀ (bus : Bus) (entry : Option Stream),
      stream? ⟨bus, b.streams.set p entry⟩ p = entry := by
    intro bus entry
    rw [stream?_set bus inRange, if_pos rfl]
  cases a with
  | poll m =>
      have same : m = p := by
        by_contra other
        simp [Action.without, other] at own
      subst same
      cases spent with
      | silent live =>
          simp only [Broker.act, live, Bus.poll]
          refine ⟨?_, ?_, ?_, ?_⟩
          · simp [without, List.eraseIdx_set_eq]
          · simpa [Event.told?] using Spent.ended (e := e) 0 (place b.bus (some ⟨id, .ended⟩))
          · intro n other
            simp [Event.told?, other.symm]
          · intro c
            rfl
      | ended k live =>
          simp only [Broker.act, live, Bus.poll]
          refine ⟨?_, ?_, ?_, ?_⟩
          · simp [without, List.eraseIdx_set_eq]
          · have later := Spent.ended (e := e) (k + 1) (place b.bus (some ⟨id, .ended⟩))
            rw [List.replicate_succ'] at later
            simpa [Event.told?] using later
          · intro n other
            simp [Event.told?, other.symm]
          · intro c
            rfl
      | gone k vacant =>
          have still : Spent b m id e _ := .gone k vacant
          simpa [Broker.act, vacant, Event.told?, Event.handed?] using still
  | drop m =>
      have same : m = p := by
        by_contra other
        simp [Action.without, other] at own
      subst same
      cases spent with
      | silent live =>
          simp only [Broker.act, live, Bus.drop, Stream.unfinished]
          refine ⟨?_, ?_, fun _ _ => rfl, fun _ => rfl⟩
          · simp [without, List.eraseIdx_set_eq]
          · exact .gone 0 (place b.bus none)
      | ended k live =>
          simp only [Broker.act, live, Bus.drop, Stream.unfinished]
          refine ⟨?_, ?_, fun _ _ => rfl, fun _ => rfl⟩
          · simp [without, List.eraseIdx_set_eq]
          · have gone : Spent _ m id e _ := .gone (k + 1) (place b.bus none)
            rw [take_succ] at gone
            simpa [Event.told?] using gone
      | gone k vacant =>
          have still : Spent b m id e _ := .gone k vacant
          simpa [Broker.act, vacant, Event.told?, Event.handed?] using still
  | _ => exact absurd own (by simp [Action.without])

end Spent

/-- Places of streams stay. -/
theorem length_streams_act (inRange : p < b.streams.length) (a : Action) :
    p < (b.act a).1.streams.length :=
  Nat.lt_of_lt_of_le inRange (Run.length_streams_next ⟨b, []⟩ a)

namespace Run

/-! ### The two runs -/

/-- A run with a stream that was refused goes along with one in which its request was never sent:
the bus and the other streams are the same, looks at the other streams have told the same, and
consumers have received the same. -/
structure Parallel (r y : Run) (p : Nat) (id : String) (e : BrokerError) : Prop where
  inRange : p < r.broker.streams.length
  broker : r.broker.without p = y.broker
  others : ∀ n, n ≠ p → r.log.told n = y.log.told (lowered p n)
  received : ∀ c, r.log.received c = y.log.received c
  own : Spent r.broker p id e (r.log.told p)

namespace Parallel

variable {r y : Run} {p : Nat} {id : String} {e : BrokerError}

/-- What concerns the refused stream alone is passed over in the other run. -/
theorem pass (parallel : Parallel r y p id e) {a : Action} (own : a.without p = none) :
    Parallel (r.next a) y p id e := by
  obtain ⟨left, spent, silent, unhanded⟩ := parallel.own.act parallel.inRange own
  refine ⟨length_streams_act parallel.inRange a, left.trans parallel.broker, ?_, ?_, spent⟩
  · intro n other
    rw [← parallel.others n other]
    simp [next, Log.told, silent n other]
  · intro c
    rw [← parallel.received c]
    simp [next, Log.received, unhanded c]

/-- Everything else is done in both runs, and comes to the same. -/
theorem both (parallel : Parallel r y p id e) {a a' : Action} (elsewhere : a.without p = some a') :
    Parallel (r.next a) (y.next a') p id e := by
  obtain ⟨left, told, handed⟩ := act_without parallel.inRange elsewhere
  rw [parallel.broker] at left told handed
  obtain ⟨still, silent⟩ := stays_elsewhere parallel.inRange elsewhere
  refine ⟨length_streams_act parallel.inRange a, left.symm, ?_, ?_, ?_⟩
  · intro n other
    simp only [next, Log.told]
    rw [parallel.others n other, told n other]
  · intro c
    simp only [next, Log.received]
    rw [parallel.received c, handed c]
  · simp only [next, Log.told, silent, Option.toList_none, List.append_nil]
    exact parallel.own.of_stream?_eq still

/-- However the run with the refused stream goes on, the other run goes along. -/
theorem extend (parallel : Parallel r y p id e) (more : List Action) :
    Parallel (r.extend more) (y.extend (more.filterMap (Action.without p))) p id e := by
  induction more generalizing r y with
  | nil => exact parallel
  | cons a rest inductionHypothesis =>
      cases own : a.without p with
      | none =>
          rw [List.filterMap_cons_none own]
          exact inductionHypothesis (parallel.pass own)
      | some a' =>
          rw [List.filterMap_cons_some own]
          exact inductionHypothesis (parallel.both own)

end Parallel

/-- Nobody has looked at a stream that was not handed out yet. -/
theorem told_of_unborn (actions : List Action) :
    ∀ n, (of actions).broker.streams.length ≤ n → (of actions).log.told n = [] := by
  apply of_induction (P := fun r => ∀ n, r.broker.streams.length ≤ n → r.log.told n = [])
  · intro n _
    rfl
  · intro r a untold n beyond
    have before := Nat.le_trans (length_streams_next r a) beyond
    have unseen : (r.broker.act a).2.told? n = none := by
      cases a with
      | send q =>
          simp only [act, sent]
          split <;> rfl
      | poll m =>
          cases live : r.broker.stream? m with
          | none => simp [act, live, Event.told?]
          | some s =>
              have below := lt_length_of_stream? live
              have other : m ≠ n := Nat.ne_of_lt (Nat.lt_of_lt_of_le below before)
              simp [act, live, Event.told?, other]
      | drop m =>
          simp only [act]
          split
          · split <;> rfl
          · rfl
      | _ => rfl
    simp [next, Log.told, unseen, untold n before]

/-- When a request is refused, the run in which it was sent goes along with the run so far. -/
theorem parallel_of_refused (actions : List Action) {q : Request} {e : BrokerError}
    (refused : (of actions).broker.bus.send q = ((of actions).broker.bus, ⟨q.id, .failed e⟩)) :
    Parallel ((of actions).next (.send q)) (of actions) (of actions).broker.streams.length q.id
      e := by
  have untold := told_of_unborn actions
  have step : (of actions).next (.send q)
      = ⟨⟨(of actions).broker.bus, (of actions).broker.streams ++ [some ⟨q.id, .failed e⟩]⟩,
          .refused (of actions).broker.streams.length q e :: (of actions).log⟩ := by
    simp [next, act, sent, refused]
  rw [step]
  refine ⟨by simp, ?_, ?_, ?_, ?_⟩
  · simp [without, List.eraseIdx_append_of_length_le]
  · intro n other
    have same : Log.told n (.refused (of actions).broker.streams.length q e :: (of actions).log)
        = (of actions).log.told n := List.append_nil _
    rw [same]
    unfold lowered
    split
    · rfl
    · rename_i beyond
      rw [untold n (Nat.le_of_not_lt beyond), untold (n - 1) (by omega)]
  · intro c
    exact List.append_nil _
  · have silent : Log.told (of actions).broker.streams.length
        (.refused (of actions).broker.streams.length q e :: (of actions).log) = [] := by
      simpa [Log.told, Event.told?] using untold _ (Nat.le_refl _)
    rw [silent]
    exact .silent ((stream?_append _ _ _ _).trans (if_pos rfl))

end Run

/-- A request that is refused at the end of a run leaves no trace. -/
structure Traceless (actions : List Action) (q : Request) (e : BrokerError) : Prop where
  reason : e = .noConsumer ∨ e = .duplicateRequestId q.id
  /-- Sending it leaves the bus as it is, and gives a stream that has failed. -/
  unchanged : (Run.of actions).broker.bus.send q
    = ((Run.of actions).broker.bus, ⟨q.id, .failed e⟩)
  /-- Whatever is done afterwards, the bus and the other streams are as in the run in which the
  request was never sent. -/
  others : ∀ more,
    (Run.of (actions ++ .send q :: more)).broker.without (Run.of actions).broker.streams.length
      = (Run.of (actions ++ more.filterMap
          (Action.without (Run.of actions).broker.streams.length))).broker
  /-- Looks at the other streams tell the same. -/
  told : ∀ more n, n ≠ (Run.of actions).broker.streams.length →
    (Run.of (actions ++ .send q :: more)).log.told n
      = (Run.of (actions ++ more.filterMap
          (Action.without (Run.of actions).broker.streams.length))).log.told
            (lowered (Run.of actions).broker.streams.length n)
  /-- Consumers receive the same. -/
  received : ∀ more c, (Run.of (actions ++ .send q :: more)).log.received c
    = (Run.of (actions ++ more.filterMap
        (Action.without (Run.of actions).broker.streams.length))).log.received c
  /-- Looks at the stream that has failed tell its error once, and then only its end. -/
  own : ∀ more, ∃ k,
    (Run.of (actions ++ .send q :: more)).log.told (Run.of actions).broker.streams.length
      = (Poll.failed e :: List.replicate k .ended).take k

theorem traceless_of_refused (actions : List Action) {q : Request} {e : BrokerError}
    (failed : ((Run.of actions).broker.bus.send q).2.state = .failed e) :
    Traceless actions q e := by
  have cause : (e = .noConsumer ∨ e = .duplicateRequestId q.id) ∧
      (Run.of actions).broker.bus.send q = ((Run.of actions).broker.bus, ⟨q.id, .failed e⟩) := by
    rcases Bus.send_cases (Run.of actions).broker.bus q with
      ⟨_, result⟩ | ⟨_, _, result⟩ | ⟨_, _, _, _, result⟩
    · rw [result] at failed ⊢
      cases failed
      exact ⟨Or.inl rfl, rfl⟩
    · rw [result] at failed ⊢
      cases failed
      exact ⟨Or.inr rfl, rfl⟩
    · rw [result] at failed
      exact absurd failed (by simp)
  have parallel := fun more => (Run.parallel_of_refused actions cause.2).extend more
  have after : ∀ more, Run.of (actions ++ .send q :: more)
      = ((Run.of actions).next (.send q)).extend more := fun more => Run.of_append _ _
  refine ⟨cause.1, cause.2, ?_, ?_, ?_, ?_⟩
  · intro more
    rw [after, Run.of_append]
    exact (parallel more).broker
  · intro more n other
    rw [after, Run.of_append]
    exact (parallel more).others n other
  · intro more c
    rw [after, Run.of_append]
    exact (parallel more).received c
  · intro more
    rw [after]
    exact (parallel more).own.exists_take

end Broker

namespace Bus

/-! ### Taking a subscription back -/

/-- A bus has the pending ids of another one, and what waits at its subscribers' channels. -/
structure Restores (b d : Bus) : Prop where
  pending : d.pending = b.pending
  waiting : ∀ m, d.responses.waiting m = b.responses.waiting m
  attended : ∀ m, m < b.responses.length → d.responses.attended m = b.responses.attended m

/-- When the consumer goes away after a request has subscribed to its id, the request is refused for
want of a consumer in two steps, which take the subscription back and nothing else. -/
def TakesBack (b : Bus) (q : Request) : Prop :=
  ∀ y n, b.sendStep (.heard q) = (y, .subscribed q n) →
    ∀ d : Bus, d.pending = y.pending → d.responses = y.responses → d.hasConsumer = false →
      ∃ f r, d.sendStep (.subscribed q n) = (f, .refused q.id n .noConsumer) ∧
        f.sendStep (.refused q.id n .noConsumer) = (r, .done ⟨q.id, .failed .noConsumer⟩) ∧
        r.requests = d.requests ∧ r.consumer = none ∧ Restores b r

/-- A request that is published while nobody listens is refused, and nobody is attached then. -/
theorem publishRequest_of_deaf {d : Bus} (deaf : d.hasConsumer = false) (q : Request) :
    d.publishRequest q = ({ d with consumer := none }, .error .noConsumer) := by
  unfold publishRequest
  cases attached : d.consumer with
  | none =>
      have same : { d with consumer := none } = d := by rw [← attached]
      rw [same]
  | some c =>
      have gone : d.requests.attended c = false := by simpa [hasConsumer, attached] using deaf
      simp [gone]

/-- An id that was not pending is not pending again once its new subscription is taken back. -/
theorem erase_insert {b : Bus} {id : String} (sorted : b.pending.Sorted)
    (absent : b.pending.find? id = none) (c : Nat) :
    (b.pending.insert id c).erase id = b.pending := by
  apply Fields.Sorted.ext ((sorted.insert id c).erase id) sorted
  intro name
  rw [Fields.find?_erase, Fields.find?_insert]
  by_cases same : name = id
  · rw [if_pos same, same, absent]
  · rw [if_neg same, if_neg same]

/-- What is left of a new channel once it is released. -/
theorem restores_release {b r : Bus} (pending : r.pending = b.pending)
    (responses : r.responses
      = Channels.release (b.responses ++ [({} : Channel Response)]) b.responses.length) :
    Restores b r where
  pending := pending
  waiting := by
    intro m
    rw [responses, Channels.waiting_release, Channels.waiting_append_new]
    split
    · rename_i new
      rw [new, Channels.waiting_of_length_le (Nat.le_refl _)]
    · rfl
  attended := by
    intro m older
    have other := Nat.ne_of_lt older
    rw [responses, Channels.attended_release, if_neg other, Channels.attended_append_new,
      if_neg other]

theorem takesBack_of {b : Bus} {q : Request} (sorted : b.pending.Sorted)
    (free : (b.pending.find? q.id).any b.responses.attended = false →
      b.pending.find? q.id = none) : b.TakesBack q := by
  intro y n step d pending responses deaf
  cases taken : (b.pending.find? q.id).any b.responses.attended with
  | true => simp [sendStep, subscribe, taken] at step
  | false =>
      simp only [sendStep, subscribe, taken, Bool.false_eq_true, if_false, Prod.mk.injEq,
        Sending.subscribed.injEq, true_and] at step
      obtain ⟨rfl, rfl⟩ := step
      refine ⟨{ d with consumer := none }, _, ?_, rfl, rfl, rfl, ?_⟩
      · simp [sendStep, publishRequest_of_deaf deaf]
      · apply restores_release
        · simp only [unsubscribe, releaseSubscriber]
          rw [pending]
          exact erase_insert sorted (free taken) _
        · simp [unsubscribe, releaseSubscriber, responses]

end Bus

namespace Broker

/-- A refused request leaves no trace, wherever sending fails. -/
theorem refusal_leaves_no_trace (actions : List Action) (q : Request) :
    (∀ e, ((Run.of actions).broker.bus.send q).2.state = .failed e → Traceless actions q e) ∧
      (Run.of actions).broker.bus.TakesBack q := by
  constructor
  · intro e failed
    exact traceless_of_refused actions failed
  · have sound := (Run.balanced_of actions).sound
    exact Bus.takesBack_of sound.sorted sound.not_pending_of_free

/-- A second request under an id that awaits its responses is refused for the id, and a request
whose consumer goes away once its own id is subscribed to is refused for want of a consumer. -/
theorem duplicate_and_deserted_leave_no_trace :
    Traceless [.listen, .send { id := "a", pattern := .null }] { id := "a", pattern := .null }
        (.duplicateRequestId "a") ∧
      ∃ f r : Bus,
        (Bus.releaseConsumer (Bus.subscribe (Run.of [.listen]).broker.bus "a").1 0).sendStep
            (.subscribed { id := "a", pattern := .null } 0) = (f, .refused "a" 0 .noConsumer) ∧
          f.sendStep (.refused "a" 0 .noConsumer) = (r, .done ⟨"a", .failed .noConsumer⟩) ∧
          Bus.Restores (Run.of [.listen]).broker.bus r := by
  constructor
  · exact (refusal_leaves_no_trace _ _).1 _ rfl
  · obtain ⟨f, r, refused, done, _, _, restored⟩ :=
      (refusal_leaves_no_trace [.listen] { id := "a", pattern := .null }).2 _ 0 rfl
        (Bus.releaseConsumer (Bus.subscribe (Run.of [.listen]).broker.bus "a").1 0) rfl rfl rfl
    exact ⟨f, r, refused, done, restored⟩

end Broker
end EventDispatch
