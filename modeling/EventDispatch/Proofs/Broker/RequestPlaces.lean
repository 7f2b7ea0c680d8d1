import EventDispatch.Proofs.Broker.Consumers
import EventDispatch.Proofs.Broker.Ledger
/-!
Where requests are, and what became of their subscriptions.

Purpose: the log of a run tells which requests wait at which channel, each by the place of the
stream that was handed out for it, and whether a stream lost its subscription before it was
answered. A stream whose request was accepted is subscribed, was answered, or lost its subscription;
while it is subscribed its id is refused to others.

Main exports: `Broker.Log.consumer`, `Broker.Log.waiting`, `Broker.Log.Forsaken`,
`Broker.Log.before`, `Broker.Run.Queued`, `Broker.Run.Queued.next`, `Broker.Run.Queued.settled`,
`Broker.Run.Balanced.refuses`.
-/

namespace EventDispatch.Broker

namespace Log

/-- The consumer that is attached. -/
def consumer : Log → Option Nat
  | [] => none
  | .attached c :: _ => some c
  | .closed :: _ => none
  | _ :: log => consumer log

/-- The streams whose requests wait at a channel, in the order of acceptance. -/
def waiting (c : Nat) : Log → List Nat
  | [] => []
  | .accepted n _ :: log => if consumer log = some c then waiting c log ++ [n] else waiting c log
  | .received d (.item _) :: log => if d = c then (waiting c log).tail else waiting c log
  | .left d :: log => if d = c then [] else waiting c log
  | _ :: log => waiting c log

/-- A stream lost its subscription before it was answered: its id was unsubscribed, or the broker
was closed. -/
def Forsaken (n : Nat) : Log → Prop
  | [] => False
  | .released _ id :: log => subscription n log = some id ∨ Forsaken n log
  | .closed :: log => (∃ id, subscription n log = some id) ∨ Forsaken n log
  | _ :: log => Forsaken n log

/-- What had happened when the request of a stream was accepted. -/
def before (n : Nat) : Log → Log
  | [] => []
  | .accepted m _ :: log => if m = n then log else before n log
  | _ :: log => before n log

theorem Forsaken.cons {n : Nat} {log : Log} (forsaken : log.Forsaken n) (e : Event) :
    Forsaken n (e :: log) := by
  cases e with
  | released _ _ => exact Or.inr forsaken
  | closed => exact Or.inr forsaken
  | _ => exact forsaken

/-- What is seen later does not undo what was seen before an acceptance. -/
theorem Forsaken.of_before {k n : Nat} {log : Log} (forsaken : (log.before n).Forsaken k) :
    log.Forsaken k := by
  induction log with
  | nil => exact forsaken
  | cons e log inductionHypothesis =>
      apply Forsaken.cons
      cases e with
      | accepted m q =>
          simp only [before] at forsaken
          split at forsaken
          · exact forsaken
          · exact inductionHypothesis forsaken
      | _ => exact inductionHypothesis forsaken

theorem before_cons {n : Nat} {e : Event} (log : Log) (other : ∀ q, e ≠ .accepted n q) :
    before n (e :: log) = before n log := by
  cases e with
  | accepted m q =>
      have differs : m ≠ n := fun same => other q (by rw [same])
      simp [before, differs]
  | _ => rfl

/-- A subscription goes on, is lost, or ends with its terminal response. -/
theorem subscription_cons {n : Nat} {id : String} {log : Log} {e : Event}
    (subscribed : subscription n log = some id) (other : ∀ q, e ≠ .accepted n q) :
    subscription n (e :: log) = some id ∨ Forsaken n (e :: log) ∨
      ∃ x, e = .published x ∧ x.terminal = true ∧ x.id = id := by
  cases e with
  | accepted m q =>
      have differs : m ≠ n := fun same => other q (by rw [same])
      exact Or.inl (by simp [subscription, differs, subscribed])
  | published x =>
      by_cases ends : x.terminal = true ∧ subscription n log = some x.id
      · obtain ⟨terminal, own⟩ := ends
        rw [subscribed] at own
        exact Or.inr (Or.inr ⟨x, rfl, terminal, (Option.some.inj own).symm⟩)
      · exact Or.inl (by rw [subscription, if_neg ends, subscribed])
  | released m gone =>
      by_cases same : subscription n log = some gone
      · exact Or.inr (Or.inl (Or.inl same))
      · exact Or.inl (by rw [subscription, if_neg same, subscribed])
  | closed => exact Or.inr (Or.inl (Or.inl ⟨id, subscribed⟩))
  | _ => exact Or.inl subscribed

/-- A subscription was there before, or begins with an acceptance. -/
theorem of_subscription_cons {n : Nat} {id : String} {log : Log} {e : Event}
    (subscribed : subscription n (e :: log) = some id) :
    subscription n log = some id ∨ ∃ q, e = .accepted n q ∧ q.id = id := by
  cases e with
  | accepted m q =>
      simp only [subscription] at subscribed
      split at subscribed
      · rename_i same
        exact Or.inr ⟨q, by rw [same], Option.some.inj subscribed⟩
      · exact Or.inl subscribed
  | published x =>
      simp only [subscription] at subscribed
      split at subscribed
      · exact absurd subscribed (by simp)
      · exact Or.inl subscribed
  | released m gone =>
      simp only [subscription] at subscribed
      split at subscribed
      · exact absurd subscribed (by simp)
      · exact Or.inl subscribed
  | closed => exact absurd subscribed (by simp [subscription])
  | _ => exact Or.inl subscribed

/-- A request waits at a channel since before, or was accepted just now. -/
theorem mem_waiting_cons {c n : Nat} {log : Log} {e : Event} (member : n ∈ waiting c (e :: log)) :
    n ∈ waiting c log ∨ ∃ q, e = .accepted n q := by
  cases e with
  | accepted m q =>
      simp only [waiting] at member
      split at member
      · rcases List.mem_append.mp member with old | new
        · exact Or.inl old
        · exact Or.inr ⟨q, by rw [List.mem_singleton.mp new]⟩
      · exact Or.inl member
  | received d got =>
      cases got with
      | item q =>
          simp only [waiting] at member
          split at member
          · exact Or.inl (List.mem_of_mem_tail member)
          · exact Or.inl member
      | _ => exact Or.inl member
  | left d =>
      simp only [waiting] at member
      split at member
      · exact absurd member (by simp)
      · exact Or.inl member
  | _ => exact Or.inl member

/-- What is owed stays owed. -/
theorem mem_owed_cons_of_mem {n : Nat} {log : Log} {p : Nat × Response} (owed : p ∈ log.owed n)
    (e : Event) : p ∈ Log.owed n (e :: log) := by
  cases e with
  | published x =>
      simp only [Log.owed]
      split
      · exact List.mem_append_left _ owed
      · exact owed
  | _ => exact owed

end Log

namespace Run

variable {r : Run}

/-- No place of a stream goes. -/
theorem length_streams_next (r : Run) (a : Action) :
    r.broker.streams.length ≤ (r.next a).broker.streams.length := by
  cases a with
  | send q => simp [next, act]
  | poll m =>
      simp only [next, act]
      split <;> simp
  | drop m =>
      simp only [next, act]
      split <;> simp
  | _ => exact Nat.le_refl _

/-- The request of a stream that was handed out stays. -/
theorem request?_next {n : Nat} (below : n < r.broker.streams.length) (a : Action) :
    (r.next a).log.request? n = r.log.request? n := by
  have differs : ¬ r.broker.streams.length = n := Nat.ne_of_gt below
  cases a with
  | send q =>
      simp only [next, act, sent]
      split <;> simp [Log.request?, differs]
  | poll m =>
      simp only [next, act]
      split <;> rfl
  | drop m =>
      simp only [next, act]
      split
      · split <;> rfl
      · rfl
  | _ => rfl

/-- A request is accepted for the next stream. -/
theorem accepted_next {n : Nat} {q : Request} {a : Action}
    (accepted : (r.broker.act a).2 = .accepted n q) :
    n = r.broker.streams.length ∧ a = .send q ∧
      (r.broker.bus.pending.find? q.id).any r.broker.bus.responses.attended = false ∧
      ∃ c, r.broker.bus.consumer = some c ∧ r.broker.bus.requests.attended c = true ∧
        (r.broker.bus.send q).1 = r.broker.bus.accept c q := by
  cases a with
  | send q' =>
      rcases Bus.send_cases r.broker.bus q' with
        ⟨_, result⟩ | ⟨_, _, result⟩ | ⟨c, attached, attended, free, result⟩
      · simp [act, sent, result] at accepted
      · simp [act, sent, result] at accepted
      · simp only [act, sent, result, Event.accepted.injEq] at accepted
        obtain ⟨rfl, rfl⟩ := accepted
        exact ⟨rfl, rfl, free, c, attached, attended, by rw [result]⟩
  | poll m =>
      simp only [act] at accepted
      split at accepted <;> cases accepted
  | drop m =>
      simp only [act] at accepted
      split at accepted
      · split at accepted <;> cases accepted
      · cases accepted
  | _ => cases accepted

/-- No request is accepted again for a stream that was handed out. -/
theorem unaccepted_next {n : Nat} (below : n < r.broker.streams.length) (a : Action) (q : Request) :
    (r.broker.act a).2 ≠ .accepted n q := fun again =>
  absurd (accepted_next again).1 (Nat.ne_of_lt below)

/-- The request of a stream is the one that was accepted for it. -/
theorem request?_of_accepted {n : Nat} {q : Request} {a : Action}
    (accepted : (r.broker.act a).2 = .accepted n q) : (r.next a).log.request? n = some q := by
  simp [next, accepted, Log.request?]

/-- Only a publication is seen as one. -/
theorem published_next {x : Response} {a : Action}
    (published : (r.broker.act a).2 = .published x) : a = .respond x := by
  cases a with
  | respond y =>
      cases published
      rfl
  | send q =>
      simp only [act, sent] at published
      split at published <;> cases published
  | poll m =>
      simp only [act] at published
      split at published <;> cases published
  | drop m =>
      simp only [act] at published
      split at published
      · split at published <;> cases published
      · cases published
  | _ => cases published

/-- The log tells where requests wait, and what became of subscriptions. -/
structure Queued (r : Run) : Prop where
  consumer : r.log.consumer = r.broker.bus.consumer
  waiting : ∀ c, (r.log.waiting c).map (fun n => r.log.request? n)
    = (r.broker.bus.requests.waiting c).map some
  ascending : ∀ c, (r.log.waiting c).Pairwise (· < ·)
  placed : ∀ {c n : Nat}, n ∈ r.log.waiting c → n < r.broker.streams.length
  /-- No request waits at two channels. -/
  apart : ∀ {c d n : Nat}, n ∈ r.log.waiting c → n ∈ r.log.waiting d → c = d
  /-- A stream whose request was accepted is subscribed, lost its subscription or was answered. -/
  settled : ∀ {n : Nat} {q : Request}, .accepted n q ∈ r.log →
    n < r.broker.streams.length ∧ r.log.request? n = some q ∧
      (r.log.subscription n = some q.id ∨ r.log.Forsaken n ∨
        ∃ p ∈ r.log.owed n, p.2.terminal = true)

namespace Queued

theorem start : Queued {} where
  consumer := rfl
  waiting := by
    intro c
    rfl
  ascending := by
    intro c
    exact List.Pairwise.nil
  placed := by
    intro c n member
    simp [Log.waiting] at member
  apart := by
    intro c d n member
    simp [Log.waiting] at member
  settled := by
    intro n q member
    simp at member

theorem settled_next (queued : r.Queued) (a : Action) {n : Nat} {q : Request}
    (member : .accepted n q ∈ (r.next a).log) :
    n < (r.next a).broker.streams.length ∧ (r.next a).log.request? n = some q ∧
      ((r.next a).log.subscription n = some q.id ∨ (r.next a).log.Forsaken n ∨
        ∃ p ∈ (r.next a).log.owed n, p.2.terminal = true) := by
  have log : (r.next a).log = (r.broker.act a).2 :: r.log := rfl
  rcases List.mem_cons.mp member with now | earlier
  · obtain ⟨rfl, rfl, _⟩ := accepted_next now.symm
    refine ⟨by simp [next, act], request?_of_accepted now.symm, Or.inl ?_⟩
    rw [log, ← now]
    simp [Log.subscription]
  · obtain ⟨below, request, outcome⟩ := queued.settled earlier
    refine ⟨Nat.lt_of_lt_of_le below (r.length_streams_next a),
      (request?_next below a).trans request, ?_⟩
    rw [log]
    rcases outcome with subscribed | forsaken | ⟨p, owed, terminal⟩
    · rcases Log.subscription_cons subscribed (unaccepted_next below a) with
        still | lost | ⟨x, published, ends, own⟩
      · exact Or.inl still
      · exact Or.inr (Or.inl lost)
      · refine Or.inr (Or.inr ⟨(r.log.length, x), ?_, ends⟩)
        rw [← own] at subscribed
        rw [published, Log.owed, if_pos subscribed]
        exact List.mem_append_right _ (List.mem_singleton.mpr rfl)
    · exact Or.inr (Or.inl (forsaken.cons _))
    · exact Or.inr (Or.inr ⟨p, Log.mem_owed_cons_of_mem owed _, terminal⟩)

theorem length_waiting (queued : r.Queued) (c : Nat) :
    (r.log.waiting c).length = (r.broker.bus.requests.waiting c).length := by
  simpa using congrArg List.length (queued.waiting c)

/-- The request of the stream that stands first at a channel is the one that is received there. -/
theorem request?_first (queued : r.Queued) {c n : Nat} {q : Request}
    (first : (r.log.waiting c).head? = some n)
    (got : (r.broker.bus.receiveRequest c).2 = .item q) : r.log.request? n = some q := by
  have entries := congrArg List.head? (queued.waiting c)
  rw [List.head?_map, List.head?_map, first, Bus.receiveRequest_eq_item_iff.mp got] at entries
  exact Option.some.inj entries

/-- What waits after a request was received waited before, and is not that one. -/
theorem of_waiting_received (queued : r.Queued) {c d n k : Nat} {q : Request}
    (first : (r.log.waiting c).head? = some n)
    (member : k ∈ Log.waiting d (.received c (.item q) :: r.log)) :
    k ∈ r.log.waiting d ∧ k ≠ n := by
  rw [Log.waiting] at member
  by_cases own : c = d
  · subst own
    rw [if_pos rfl] at member
    refine ⟨List.mem_of_mem_tail member, ?_⟩
    obtain ⟨rest, waiting⟩ := List.head?_eq_some_iff.mp first
    have ascending := queued.ascending c
    rw [waiting] at member ascending
    exact Nat.ne_of_gt ((List.pairwise_cons.mp ascending).1 k member)
  · rw [if_neg own] at member
    refine ⟨member, ?_⟩
    rintro rfl
    exact own (queued.apart (List.mem_of_mem_head? first) member)

/-- From each channel some of the requests that were there first are taken, and none is accepted. -/
theorem of_drop (queued : r.Queued) {a : Action} (taken : Nat → Nat)
    (consumer : (r.next a).log.consumer = (r.next a).broker.bus.consumer)
    (log : ∀ c, (r.next a).log.waiting c = (r.log.waiting c).drop (taken c))
    (bus : ∀ c, (r.next a).broker.bus.requests.waiting c
      = (r.broker.bus.requests.waiting c).drop (taken c)) : (r.next a).Queued := by
  have before : ∀ {c n}, n ∈ (r.next a).log.waiting c → n ∈ r.log.waiting c := by
    intro c n member
    rw [log] at member
    exact List.mem_of_mem_drop member
  refine ⟨consumer, ?_, ?_, ?_, ?_, queued.settled_next a⟩
  · intro c
    calc ((r.next a).log.waiting c).map (fun n => (r.next a).log.request? n)
        = ((r.next a).log.waiting c).map (fun n => r.log.request? n) :=
          List.map_congr_left fun n member => request?_next (queued.placed (before member)) a
      _ = ((r.log.waiting c).map fun n => r.log.request? n).drop (taken c) := by
          rw [log, List.map_drop]
      _ = ((r.next a).broker.bus.requests.waiting c).map some := by
          rw [queued.waiting, bus, List.map_drop]
  · intro c
    rw [log]
    exact (queued.ascending c).sublist (List.drop_sublist _ _)
  · intro c n member
    exact Nat.lt_of_lt_of_le (queued.placed (before member)) (r.length_streams_next a)
  · intro c d n first second
    exact queued.apart (before first) (before second)

/-- What waits stays where it is. -/
theorem of_same (queued : r.Queued) {a : Action}
    (consumer : (r.next a).log.consumer = (r.next a).broker.bus.consumer)
    (log : ∀ c, (r.next a).log.waiting c = r.log.waiting c)
    (bus : ∀ c, (r.next a).broker.bus.requests.waiting c = r.broker.bus.requests.waiting c) :
    (r.next a).Queued :=
  queued.of_drop (fun _ => 0) consumer log bus

/-- A request is accepted, and waits at the channel of the consumer. -/
theorem accept (queued : r.Queued) {q : Request} {d : Nat}
    (attached : r.broker.bus.consumer = some d)
    (attended : r.broker.bus.requests.attended d = true)
    (result : r.broker.bus.send q
      = (r.broker.bus.accept d q, ⟨q.id, .following r.broker.bus.responses.length⟩)) :
    (r.next (.send q)).Queued := by
  have inRange := Channels.lt_length_of_attended attended
  have log : (r.next (.send q)).log = .accepted r.broker.streams.length q :: r.log := by
    simp [next, act, sent, result]
  have bus : (r.next (.send q)).broker.bus = r.broker.bus.accept d q := by
    simp [next, act, result]
  have waiting : ∀ c, (r.next (.send q)).log.waiting c
      = if c = d then r.log.waiting c ++ [r.broker.streams.length] else r.log.waiting c := by
    intro c
    rw [log, Log.waiting, queued.consumer, attached]
    simp only [Option.some.injEq, eq_comm]
  have length : (r.next (.send q)).broker.streams.length = r.broker.streams.length + 1 := by
    simp [next, act]
  have before : ∀ {c n}, n ∈ (r.next (.send q)).log.waiting c →
      n ∈ r.log.waiting c ∨ (n = r.broker.streams.length ∧ c = d) := by
    intro c n member
    rw [waiting] at member
    split at member
    · rename_i own
      rcases List.mem_append.mp member with old | new
      · exact Or.inl old
      · exact Or.inr ⟨List.mem_singleton.mp new, own⟩
    · exact Or.inl member
  refine ⟨?_, ?_, ?_, ?_, ?_, queued.settled_next _⟩
  · rw [log, bus]
    exact queued.consumer
  · intro c
    have old : (r.log.waiting c).map (fun n => (r.next (.send q)).log.request? n)
        = (r.broker.bus.requests.waiting c).map some := by
      rw [← queued.waiting c]
      exact List.map_congr_left fun n member => request?_next (queued.placed member) _
    rw [waiting, bus, Bus.waiting_accept inRange]
    split
    · rw [List.map_append, List.map_append, old]
      simp [log, Log.request?]
    · exact old
  · intro c
    rw [waiting]
    split
    · rw [List.pairwise_append]
      refine ⟨queued.ascending c, List.pairwise_singleton _ _, ?_⟩
      intro n member m new
      rw [List.mem_singleton.mp new]
      exact queued.placed member
    · exact queued.ascending c
  · intro c n member
    rw [length]
    rcases before member with old | ⟨rfl, _⟩
    · exact Nat.lt_succ_of_lt (queued.placed old)
    · exact Nat.lt_succ_self _
  · intro c e n first second
    rcases before first with old | ⟨rfl, own⟩
    · rcases before second with again | ⟨rfl, _⟩
      · exact queued.apart old again
      · exact absurd (queued.placed old) (Nat.lt_irrefl _)
    · rcases before second with again | ⟨_, same⟩
      · exact absurd (queued.placed again) (Nat.lt_irrefl _)
      · rw [own, same]

theorem send (queued : r.Queued) (q : Request) : (r.next (.send q)).Queued := by
  rcases Bus.send_cases r.broker.bus q with
    ⟨_, result⟩ | ⟨_, _, result⟩ | ⟨d, attached, attended, _, result⟩
  · refine queued.of_same ?_ ?_ ?_ <;>
      simp [next, act, sent, result, Log.consumer, Log.waiting, queued.consumer]
  · refine queued.of_same ?_ ?_ ?_ <;>
      simp [next, act, sent, result, Log.consumer, Log.waiting, queued.consumer]
  · exact queued.accept attached attended result

/-- Whoever receives at a channel takes the request that waits there first, if there is one. -/
theorem receive (queued : r.Queued) (d : Nat) : (r.next (.receive d)).Queued := by
  have nothing : (∀ q, (r.broker.bus.receiveRequest d).2 ≠ .item q) → r.log.waiting d = [] := by
    intro silent
    apply List.eq_nil_of_length_eq_zero
    rw [queued.length_waiting]
    cases waiting : r.broker.bus.requests.waiting d with
    | nil => rfl
    | cons q rest =>
        have first : (r.broker.bus.requests.waiting d).head? = some q := by rw [waiting]; rfl
        exact absurd (Bus.receiveRequest_eq_item_iff.mpr first) (silent q)
  refine queued.of_drop (fun c => if c = d then 1 else 0) ?_ ?_ ?_
  · exact queued.consumer
  · intro c
    simp only [next, act]
    cases got : (r.broker.bus.receiveRequest d).2 with
    | item q =>
        by_cases own : d = c
        · simp [Log.waiting, own]
        · have differs : ¬ c = d := fun same => own same.symm
          simp [Log.waiting, own, differs]
    | empty =>
        have none := nothing (by simp [got])
        by_cases own : c = d <;> simp [Log.waiting, own, none]
    | disconnected =>
        have none := nothing (by simp [got])
        by_cases own : c = d <;> simp [Log.waiting, own, none]
  · intro c
    simp only [next, act, Bus.waiting_receiveRequest]
    split <;> simp

theorem leave (queued : r.Queued) (d : Nat) : (r.next (.leave d)).Queued := by
  refine queued.of_drop (fun c => if c = d then (r.log.waiting c).length else 0) ?_ ?_ ?_
  · exact queued.consumer
  · intro c
    simp only [next, act, Log.waiting]
    by_cases own : d = c
    · simp [own]
    · have differs : ¬ c = d := fun same => own same.symm
      simp [own, differs]
  · intro c
    simp only [next, act, Bus.releaseConsumer, Channels.waiting_release]
    split
    · rw [queued.length_waiting, List.drop_length]
    · rfl

/-- Every action keeps what the log tells. -/
theorem next (queued : r.Queued) (a : Action) : (r.next a).Queued := by
  cases a with
  | send q => exact queued.send q
  | receive d => exact queued.receive d
  | leave d => exact queued.leave d
  | listen =>
      refine queued.of_same rfl (fun _ => rfl) ?_
      intro c
      exact Channels.waiting_append_new _ _
  | respond x =>
      refine queued.of_same ?_ (fun _ => rfl) ?_ <;>
        simp [Run.next, act, Log.consumer, queued.consumer]
  | close => exact queued.of_same rfl (fun _ => rfl) (fun _ => rfl)
  | poll m =>
      cases live : r.broker.stream? m <;> refine queued.of_same ?_ ?_ ?_ <;>
        simp [Run.next, act, live, Log.consumer, Log.waiting, queued.consumer]
  | drop m =>
      cases live : r.broker.stream? m with
      | none =>
          refine queued.of_same ?_ ?_ ?_ <;>
            simp [Run.next, act, live, Log.consumer, Log.waiting, queued.consumer]
      | some s =>
          cases unfinished : s.unfinished <;> refine queued.of_same ?_ ?_ ?_ <;>
            simp [Run.next, act, live, unfinished, Log.consumer, Log.waiting, queued.consumer]

end Queued

/-- A request is accepted only while nobody is subscribed to its id. -/
theorem Balanced.unsubscribed_of_accepted (balanced : r.Balanced) {n : Nat} {q : Request}
    {a : Action} (accepted : (r.broker.act a).2 = .accepted n q) (m : Nat) :
    r.log.subscription m ≠ some q.id := by
  intro subscribed
  obtain ⟨s, _, own, served⟩ := balanced.live_of_subscription subscribed
  obtain ⟨c, _, found⟩ := Bus.serves_iff.mp served
  obtain ⟨_, _, free, _⟩ := accepted_next accepted
  rw [own] at found
  rw [balanced.sound.taken_of_pending found] at free
  exact absurd free (by simp)

theorem Balanced.lt_of_subscription (balanced : r.Balanced) {n : Nat} {id : String}
    (subscribed : r.log.subscription n = some id) : n < r.broker.streams.length := by
  obtain ⟨s, live, _⟩ := balanced.live_of_subscription subscribed
  exact lt_length_of_stream? live

theorem Balanced.lt_of_owed (balanced : r.Balanced) {n : Nat} {p : Nat × Response}
    (owed : p ∈ r.log.owed n) : n < r.broker.streams.length := by
  rcases Nat.lt_or_ge n r.broker.streams.length with below | beyond
  · exact below
  · rw [(balanced.unborn beyond).1] at owed
    exact absurd owed (by simp)

/-- A response that a stream has yielded is owed to it. -/
theorem Balanced.owed_of_yielded (balanced : r.Balanced) {n : Nat} {x : Response}
    (yielded : x ∈ r.log.yielded n) : ∃ t, (t, x) ∈ r.log.owed n := by
  have first : r.log.yielded n <+: (r.log.owed n).map Prod.snd := by
    cases live : r.broker.stream? n with
    | none => exact (balanced.gone live).2
    | some s =>
        rw [← balanced.balance live]
        exact List.prefix_append _ _
  obtain ⟨⟨t, y⟩, owed, rfl⟩ := List.mem_map.mp (first.mem yielded)
  exact ⟨t, owed⟩

/-- While a stream is subscribed to an id, a request with that id is refused. -/
theorem Balanced.refuses (balanced : r.Balanced) {n : Nat} {id : String}
    (subscribed : r.log.subscription n = some id) {q : Request} (same : q.id = id) :
    ∃ e, (r.broker.bus.send q).2 = ⟨id, .failed e⟩ ∧
      (r.broker.bus.hasConsumer = true → e = .duplicateRequestId id) := by
  obtain ⟨s, live, own, served⟩ := balanced.live_of_subscription subscribed
  obtain ⟨c, following, found⟩ := Bus.serves_iff.mp served
  rw [own, ← same] at found
  rcases Bus.send_cases r.broker.bus q with
    ⟨deaf, result⟩ | ⟨_, _, result⟩ | ⟨_, _, _, free, _⟩
  · refine ⟨.noConsumer, by rw [result, same], ?_⟩
    intro hears
    rw [deaf] at hears
    exact absurd hears (by simp)
  · exact ⟨.duplicateRequestId q.id, by rw [result, same], fun _ => by rw [same]⟩
  · rw [balanced.sound.taken_of_pending found] at free
    exact absurd free (by simp)

end Run
end EventDispatch.Broker
