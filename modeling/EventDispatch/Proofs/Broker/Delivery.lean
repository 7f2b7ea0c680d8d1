import EventDispatch.Proofs.Broker.RequestPlaces
import Mathlib.Data.List.Infix
/-!
Requests on their way to consumers.

Purpose: a request that is accepted goes to the consumer that attached last before it was sent, and
to nobody else. Each consumer receives what was queued for it, in the order of sending, nothing left
out and nothing twice, also after another one took its place or the broker was closed. A refused
request is queued for nobody.

What carries the proof: what a consumer has received, followed by what waits at its channel, is what
was queued for it. A consumer that goes away loses what waits, and nothing is queued for it any
more.

Main exports: `Broker.Log.Numbered`, `Broker.Log.latest`, `Broker.Log.held`, `Broker.Log.queued`,
`Broker.Log.received`, `Broker.Run.numbered_of`, `Broker.Run.Delivered`, `Broker.Run.Delivery`,
`Broker.delivered_once_in_order`.
-/

namespace EventDispatch.Broker

/-! ### Places in a log -/

/-- The place at which a request is seen to be accepted or refused. -/
def Event.place? : Event → Option Nat
  | .accepted n _ => some n
  | .refused n _ _ => some n
  | _ => none

namespace Log

/-- Streams are handed out at ever new places. -/
def Numbered (log : Log) : Prop := (log.filterMap Event.place?).Pairwise (· > ·)

theorem Numbered.tail {e : Event} {log : Log} (numbered : Numbered (e :: log)) :
    Numbered log := by
  unfold Numbered at numbered ⊢
  rw [List.filterMap_cons] at numbered
  cases place : e.place? with
  | none => simpa [place] using numbered
  | some n =>
      rw [place] at numbered
      exact numbered.tail

/-- Places that were seen before come before a new one. -/
theorem Numbered.lt {e f : Event} {log : Log} {m n : Nat} (numbered : Numbered (e :: log))
    (new : e.place? = some n) (earlier : f ∈ log) (old : f.place? = some m) : m < n := by
  unfold Numbered at numbered
  rw [List.filterMap_cons, new] at numbered
  apply (List.pairwise_cons.mp numbered).1
  exact List.mem_filterMap.mpr ⟨f, earlier, old⟩

/-- At one place one request is accepted. -/
theorem Numbered.accepted_once {n : Nat} {q r : Request} {log : Log} (numbered : log.Numbered)
    (first : .accepted n q ∈ log) (second : .accepted n r ∈ log) : q = r := by
  induction log with
  | nil => simp at first
  | cons e log inductionHypothesis =>
      rcases List.mem_cons.mp first with rfl | before
      · rcases List.mem_cons.mp second with same | earlier
        · exact (Event.accepted.inj same).2.symm
        · exact absurd (numbered.lt rfl earlier rfl) (Nat.lt_irrefl n)
      · rcases List.mem_cons.mp second with rfl | earlier
        · exact absurd (numbered.lt rfl before rfl) (Nat.lt_irrefl n)
        · exact inductionHypothesis numbered.tail before earlier

/-- At one place no request is accepted and another one refused. -/
theorem Numbered.not_refused {n : Nat} {q r : Request} {error : BrokerError} {log : Log}
    (numbered : log.Numbered) (accepted : .accepted n q ∈ log) :
    .refused n r error ∉ log := by
  induction log with
  | nil => simp
  | cons e log inductionHypothesis =>
      intro refused
      rcases List.mem_cons.mp accepted with rfl | before
      · have earlier : Event.refused n r error ∈ log := by simpa using refused
        exact absurd (numbered.lt rfl earlier rfl) (Nat.lt_irrefl n)
      · rcases List.mem_cons.mp refused with rfl | earlier
        · exact absurd (numbered.lt rfl before rfl) (Nat.lt_irrefl n)
        · exact inductionHypothesis numbered.tail before earlier

end Log

namespace Run

/-- The places that a run has seen are those of the streams it has handed out. -/
theorem places_of (actions : List Action) :
    (of actions).log.filterMap Event.place?
      = (List.range (of actions).broker.streams.length).reverse := by
  apply of_induction (P := fun r =>
    r.log.filterMap Event.place? = (List.range r.broker.streams.length).reverse)
  · rfl
  · intro r a places
    cases a with
    | send q =>
        have seen : (sent r.broker.streams.length q (r.broker.bus.send q).2).place?
            = some r.broker.streams.length := by
          unfold sent
          split <;> rfl
        simp [next, act, seen, places, List.range_succ]
    | poll n =>
        cases live : r.broker.stream? n <;>
          simpa [next, act, live, List.filterMap_cons, Event.place?] using places
    | drop n =>
        cases live : r.broker.stream? n with
        | none => simpa [next, act, live, List.filterMap_cons, Event.place?] using places
        | some s =>
            cases unfinished : s.unfinished <;>
              simpa [next, act, live, unfinished, List.filterMap_cons, Event.place?] using places
    | _ => simpa [next, act, List.filterMap_cons, Event.place?] using places

theorem numbered_of (actions : List Action) : (of actions).log.Numbered := by
  unfold Log.Numbered
  rw [places_of]
  exact List.pairwise_reverse.mpr List.pairwise_lt_range

end Run

/-! ### What the log tells of consumers -/

/-- The request that is seen to be received at a consumer's channel. -/
def Event.handed? (c : Nat) : Event → Option Request
  | .received d (.item r) => if d = c then some r else none
  | _ => none

namespace Log

/-- The consumer that attached last, whether or not the broker was closed since. -/
def latest : Log → Option Nat
  | [] => none
  | .attached c :: _ => some c
  | _ :: log => latest log

/-- Whether a consumer holds the receiving end of a channel. -/
def held (c : Nat) : Log → Bool
  | [] => false
  | .attached d :: log => d == c || held c log
  | .left d :: log => d != c && held c log
  | _ :: log => held c log

/-- The requests that were accepted while a consumer was the one that attached last, in the order of
sending, each with the place of its stream. -/
def queued (c : Nat) : Log → List (Nat × Request)
  | [] => []
  | .accepted n r :: log =>
    if latest log = some c then queued c log ++ [(n, r)] else queued c log
  | _ :: log => queued c log

/-- The requests that a consumer has received, oldest first. -/
def received (c : Nat) : Log → List Request
  | [] => []
  | e :: log => received c log ++ (e.handed? c).toList

/-- Who is attached is the one that attached last. -/
theorem latest_of_consumer {c : Nat} {log : Log} (attached : log.consumer = some c) :
    log.latest = some c := by
  induction log with
  | nil => simp [consumer] at attached
  | cons e log inductionHypothesis =>
      cases e with
      | attached d => exact attached
      | closed => simp [consumer] at attached
      | _ => exact inductionHypothesis attached

theorem attached_of_latest {c : Nat} {log : Log} (last : log.latest = some c) :
    .attached c ∈ log := by
  induction log with
  | nil => simp [latest] at last
  | cons e log inductionHypothesis =>
      cases e with
      | attached d =>
          have same : d = c := Option.some.inj last
          exact List.mem_cons.mpr (Or.inl (by rw [same]))
      | _ => exact List.mem_cons_of_mem _ (inductionHypothesis last)

/-- What is queued was queued before, or was accepted just now for the consumer that attached
last. -/
theorem mem_queued_cons {c : Nat} {e : Event} {log : Log} {p : Nat × Request} :
    p ∈ queued c (e :: log) ↔
      p ∈ queued c log ∨ e = .accepted p.1 p.2 ∧ log.latest = some c := by
  cases e with
  | accepted n r =>
      rw [queued]
      by_cases last : log.latest = some c
      · simp [last, Prod.ext_iff, eq_comm]
      · simp [last]
  | _ => simp [queued]

theorem attached_of_queued {c : Nat} {log : Log} {p : Nat × Request} (member : p ∈ log.queued c) :
    .attached c ∈ log := by
  induction log with
  | nil => simp [queued] at member
  | cons e log inductionHypothesis =>
      apply List.mem_cons_of_mem
      rcases mem_queued_cons.mp member with old | ⟨_, last⟩
      · exact inductionHypothesis old
      · exact attached_of_latest last

/-- A request is queued for a consumer if it was accepted when that consumer had attached last. The
induction is on the log; the place of a new request is none of those before. -/
theorem mem_queued_iff {c n : Nat} {q : Request} {log : Log} (numbered : log.Numbered) :
    (n, q) ∈ log.queued c ↔ .accepted n q ∈ log ∧ (log.before n).latest = some c := by
  induction log with
  | nil => simp [queued]
  | cons e log inductionHypothesis =>
      have earlier := inductionHypothesis numbered.tail
      rw [mem_queued_cons, earlier, List.mem_cons]
      by_cases new : ∃ r, e = .accepted n r
      · obtain ⟨r, rfl⟩ := new
        have fresh : Event.accepted n q ∉ log := fun old =>
          absurd (numbered.lt rfl old rfl) (Nat.lt_irrefl n)
        simp [before, fresh, eq_comm]
      · have other : ∀ r, e ≠ .accepted n r := fun r same => new ⟨r, same⟩
        have unlike : Event.accepted n q ≠ e := fun same => other q same.symm
        rw [before_cons log other]
        simp [other q, unlike]

/-- What is queued for a consumer stands in the order of sending. -/
theorem queued_ascending {log : Log} (numbered : log.Numbered) (c : Nat) :
    (log.queued c).Pairwise (·.1 < ·.1) := by
  induction log with
  | nil => exact List.Pairwise.nil
  | cons e log inductionHypothesis =>
      have ascending := inductionHypothesis numbered.tail
      cases e with
      | accepted n r =>
          simp only [queued]
          split
          · apply List.pairwise_append.mpr
            refine ⟨ascending, List.pairwise_singleton _ _, ?_⟩
            intro p old q new
            have accepted := ((mem_queued_iff numbered.tail).mp old).1
            rw [List.mem_singleton.mp new]
            exact numbered.lt rfl accepted rfl
          · exact ascending
      | _ => exact ascending

end Log

namespace Run

/-- What consumers have received and what waits for them make up what was queued for them. -/
structure Delivered (r : Run) : Prop where
  consumer : r.log.consumer = r.broker.bus.consumer
  attached : ∀ {c : Nat}, .attached c ∈ r.log → c < r.broker.bus.requests.length
  held : ∀ c, r.log.held c = r.broker.bus.requests.attended c
  /-- Nothing waits where nobody receives. -/
  idle : ∀ {c : Nat}, r.log.held c = false → r.broker.bus.requests.waiting c = []
  balance : ∀ {c : Nat}, r.log.held c = true →
    r.log.received c ++ r.broker.bus.requests.waiting c = (r.log.queued c).map Prod.snd
  /-- A consumer has received the first of what was queued for it, also if it went away. -/
  first : ∀ c, r.log.received c <+: (r.log.queued c).map Prod.snd

namespace Delivered

variable {r : Run}

/-- Nothing was queued for a consumer that has yet to attach, and it has received nothing. -/
theorem unborn (delivered : r.Delivered) {c : Nat} (beyond : r.broker.bus.requests.length ≤ c) :
    r.log.queued c = [] ∧ r.log.received c = [] := by
  have nothing : r.log.queued c = [] := by
    apply List.eq_nil_iff_forall_not_mem.mpr
    intro p member
    have below := delivered.attached (Log.attached_of_queued member)
    exact absurd below (Nat.not_lt.mpr beyond)
  have first := delivered.first c
  rw [nothing] at first
  exact ⟨nothing, List.prefix_nil.mp first⟩

/-- Something happens that concerns no consumer. -/
theorem of_quiet (delivered : r.Delivered) {a : Action}
    (consumer : (r.next a).broker.bus.consumer = r.broker.bus.consumer)
    (requests : (r.next a).broker.bus.requests = r.broker.bus.requests)
    (attending : (r.next a).log.consumer = r.log.consumer)
    (attached : ∀ c, .attached c ∈ (r.next a).log → .attached c ∈ r.log)
    (held : ∀ c, (r.next a).log.held c = r.log.held c)
    (queued : ∀ c, (r.next a).log.queued c = r.log.queued c)
    (received : ∀ c, (r.next a).log.received c = r.log.received c) :
    (r.next a).Delivered where
  consumer := by
    rw [attending, consumer]
    exact delivered.consumer
  attached := by
    intro c member
    rw [requests]
    exact delivered.attached (attached c member)
  held := by
    intro c
    rw [held, requests]
    exact delivered.held c
  idle := by
    intro c gone
    rw [held] at gone
    rw [requests]
    exact delivered.idle gone
  balance := by
    intro c there
    rw [held] at there
    rw [received, queued, requests]
    exact delivered.balance there
  first := by
    intro c
    rw [received, queued]
    exact delivered.first c

theorem listen (delivered : r.Delivered) : (r.next .listen).Delivered where
  consumer := rfl
  attached := by
    intro c member
    have length : (r.next .listen).broker.bus.requests.length
        = r.broker.bus.requests.length + 1 := by
      simp [next, act, Bus.attach]
    rw [length]
    rcases List.mem_cons.mp member with new | old
    · have same : c = r.broker.bus.requests.length := Event.attached.inj new
      rw [same]
      exact Nat.lt_succ_self _
    · exact Nat.lt_succ_of_lt (delivered.attached old)
  held := by
    intro c
    simp only [next, act, Bus.attach, Log.held, Channels.attended_append_new, delivered.held c]
    by_cases new : r.broker.bus.requests.length = c
    · simp [new]
    · have differs : ¬ c = r.broker.bus.requests.length := fun same => new same.symm
      simp [new, differs]
  idle := by
    intro c gone
    simp only [next, act, Bus.attach, Log.held, Bool.or_eq_false_iff] at gone
    simp only [next, act, Bus.attach, Channels.waiting_append_new]
    exact delivered.idle gone.2
  balance := by
    intro c there
    have received : (r.next .listen).log.received c = r.log.received c := by
      simp [next, act, Log.received, Event.handed?]
    have waiting : (r.next .listen).broker.bus.requests.waiting c
        = r.broker.bus.requests.waiting c := Channels.waiting_append_new _ _
    rw [received, waiting]
    rcases Nat.lt_or_ge c r.broker.bus.requests.length with below | beyond
    · apply delivered.balance
      have differs : (r.broker.bus.requests.length == c) = false := by
        simpa using Nat.ne_of_gt below
      simpa [next, act, Bus.attach, Log.held, differs] using there
    · obtain ⟨unqueued, unreceived⟩ := delivered.unborn beyond
      have nothing := Channels.waiting_of_length_le beyond
      rw [unreceived, nothing]
      exact (congrArg (List.map Prod.snd) unqueued).symm
  first := by
    intro c
    simpa [next, act, Log.received, Log.queued, Event.handed?] using delivered.first c

/-- A consumer receives what waits first at its channel, if there is anything. -/
theorem receive (delivered : r.Delivered) (d : Nat) : (r.next (.receive d)).Delivered := by
  have waiting : ∀ c, (r.next (.receive d)).broker.bus.requests.waiting c
      = if c = d then (r.broker.bus.requests.waiting c).tail
        else r.broker.bus.requests.waiting c :=
    fun c => Bus.waiting_receiveRequest r.broker.bus d c
  have length : (r.next (.receive d)).broker.bus.requests.length
      = r.broker.bus.requests.length := by
    simp only [next, act, Bus.receiveRequest, Channels.receive]
    split <;> simp
  -- What is received now is what waited first.
  have taken : ∀ c, (r.next (.receive d)).log.received c
        ++ (r.next (.receive d)).broker.bus.requests.waiting c
      = r.log.received c ++ r.broker.bus.requests.waiting c := by
    intro c
    rw [waiting]
    simp only [next, act, Log.received, List.append_assoc]
    by_cases own : c = d
    · subst own
      congr 1
      cases queue : r.broker.bus.requests.waiting c with
      | nil =>
          cases got : (r.broker.bus.receiveRequest c).2 with
          | item q =>
              have first := Bus.receiveRequest_eq_item_iff.mp got
              rw [queue] at first
              exact absurd first (by simp)
          | _ => simp [Event.handed?]
      | cons q rest =>
          have got : (r.broker.bus.receiveRequest c).2 = .item q :=
            Bus.receiveRequest_eq_item_iff.mpr (by rw [queue]; rfl)
          simp [got, Event.handed?]
    · have differs : ¬ d = c := fun same => own same.symm
      cases got : (r.broker.bus.receiveRequest d).2 <;> simp [Event.handed?, own, differs]
  have balance : ∀ {c : Nat}, r.log.held c = true →
      (r.next (.receive d)).log.received c
          ++ (r.next (.receive d)).broker.bus.requests.waiting c
        = (r.log.queued c).map Prod.snd := by
    intro c there
    rw [taken]
    exact delivered.balance there
  refine ⟨delivered.consumer, ?_, ?_, ?_, balance, ?_⟩
  · intro c member
    rw [length]
    rcases List.mem_cons.mp member with now | old
    · exact absurd now Event.noConfusion
    · exact delivered.attached old
  · intro c
    have attended := Bus.attended_receiveRequest r.broker.bus d c
    exact (delivered.held c).trans attended.symm
  · intro c gone
    rw [waiting, delivered.idle gone]
    split <;> rfl
  · intro c
    cases there : r.log.held c with
    | true =>
        have all := balance there
        exact ⟨_, all⟩
    | false =>
        have now := taken c
        rw [waiting, delivered.idle there, List.tail_nil, ite_self, List.append_nil,
          List.append_nil] at now
        rw [now]
        exact delivered.first c

/-- A consumer goes away, and loses what waits for it. -/
theorem leave (delivered : r.Delivered) (d : Nat) : (r.next (.leave d)).Delivered where
  consumer := delivered.consumer
  attached := by
    intro c member
    have length : (r.next (.leave d)).broker.bus.requests.length
        = r.broker.bus.requests.length := by
      simp [next, act, Bus.releaseConsumer, Channels.release]
    rw [length]
    rcases List.mem_cons.mp member with now | old
    · exact absurd now Event.noConfusion
    · exact delivered.attached old
  held := by
    intro c
    simp only [next, act, Bus.releaseConsumer, Log.held, Channels.attended_release,
      delivered.held c]
    by_cases own : c = d
    · simp [own]
    · have differs : ¬ d = c := fun same => own same.symm
      simp [own, differs]
  idle := by
    intro c gone
    simp only [next, act, Bus.releaseConsumer, Channels.waiting_release]
    by_cases own : c = d
    · simp [own]
    · have differs : ¬ d = c := fun same => own same.symm
      rw [if_neg own]
      apply delivered.idle
      simpa [next, act, Log.held, differs] using gone
  balance := by
    intro c there
    simp only [next, act, Log.held, Bool.and_eq_true, bne_iff_ne] at there
    have differs : ¬ c = d := fun same => there.1 same.symm
    simp only [next, act, Bus.releaseConsumer, Channels.waiting_release, if_neg differs]
    simpa [Log.received, Log.queued, Event.handed?] using delivered.balance there.2
  first := by
    intro c
    simpa [next, act, Log.received, Log.queued, Event.handed?] using delivered.first c

/-- A request is accepted, and waits behind the others for the consumer. -/
theorem accept (delivered : r.Delivered) {q : Request} {d : Nat}
    (attached : r.broker.bus.consumer = some d)
    (attended : r.broker.bus.requests.attended d = true)
    (result : r.broker.bus.send q
      = (r.broker.bus.accept d q, ⟨q.id, .following r.broker.bus.responses.length⟩)) :
    (r.next (.send q)).Delivered := by
  have log : (r.next (.send q)).log = .accepted r.broker.streams.length q :: r.log := by
    simp [next, act, sent, result]
  have bus : (r.next (.send q)).broker.bus = r.broker.bus.accept d q := by
    simp [next, act, result]
  have waiting : ∀ c, (r.next (.send q)).broker.bus.requests.waiting c
      = if c = d then r.broker.bus.requests.waiting c ++ [q]
        else r.broker.bus.requests.waiting c := by
    intro c
    rw [bus]
    exact Bus.waiting_accept (Channels.lt_length_of_attended attended) q c
  have last : r.log.latest = some d := by
    apply Log.latest_of_consumer
    rw [delivered.consumer]
    exact attached
  have queued : ∀ c, (r.next (.send q)).log.queued c
      = if c = d then r.log.queued c ++ [(r.broker.streams.length, q)] else r.log.queued c := by
    intro c
    rw [log, Log.queued, last]
    simp only [Option.some.injEq, eq_comm]
  have received : ∀ c, (r.next (.send q)).log.received c = r.log.received c := by
    intro c
    simp [log, Log.received, Event.handed?]
  have held : ∀ c, (r.next (.send q)).log.held c = r.log.held c := by
    intro c
    rw [log]
    rfl
  have there : r.log.held d = true := (delivered.held d).trans attended
  refine ⟨?_, ?_, ?_, ?_, ?_, ?_⟩
  · rw [log, bus]
    exact delivered.consumer
  · intro c member
    have old : Event.attached c ∈ r.log := by simpa [log] using member
    have length : (r.broker.bus.accept d q).requests.length = r.broker.bus.requests.length := by
      simp [Bus.accept, Channels.send]
    rw [bus, length]
    exact delivered.attached old
  · intro c
    rw [held, bus, Bus.accept, Channels.attended_send]
    exact delivered.held c
  · intro c gone
    rw [held] at gone
    have other : ¬ c = d := by
      intro same
      rw [same, there] at gone
      exact absurd gone (by simp)
    rw [waiting, if_neg other]
    exact delivered.idle gone
  · intro c present
    rw [held] at present
    rw [received, waiting, queued]
    split
    · rw [← List.append_assoc, delivered.balance present]
      simp
    · exact delivered.balance present
  · intro c
    rw [received, queued]
    split
    · rw [List.map_append]
      exact (delivered.first c).trans (List.prefix_append _ _)
    · exact delivered.first c

theorem send (delivered : r.Delivered) (q : Request) : (r.next (.send q)).Delivered := by
  rcases Bus.send_cases r.broker.bus q with
    ⟨_, result⟩ | ⟨_, _, result⟩ | ⟨d, attached, attended, _, result⟩
  · apply delivered.of_quiet <;>
      simp [next, act, sent, result, Log.consumer, Log.held, Log.queued, Log.received,
        Event.handed?]
  · apply delivered.of_quiet <;>
      simp [next, act, sent, result, Log.consumer, Log.held, Log.queued, Log.received,
        Event.handed?]
  · exact delivered.accept attached attended result

theorem close (delivered : r.Delivered) : (r.next .close).Delivered where
  consumer := rfl
  attached := by
    intro c member
    rcases List.mem_cons.mp member with now | old
    · exact absurd now Event.noConfusion
    · exact delivered.attached old
  held := delivered.held
  idle := delivered.idle
  balance := by
    intro c there
    simpa [next, act, Bus.close, Bus.detach, Bus.clearPending, Log.received, Log.queued,
      Event.handed?] using delivered.balance there
  first := by
    intro c
    simpa [next, act, Log.received, Log.queued, Event.handed?] using delivered.first c

/-- Every action keeps what was queued, received and waits in balance. -/
theorem next (delivered : r.Delivered) (a : Action) : (r.next a).Delivered := by
  cases a with
  | listen => exact delivered.listen
  | receive d => exact delivered.receive d
  | leave d => exact delivered.leave d
  | send q => exact delivered.send q
  | close => exact delivered.close
  | respond x =>
      apply delivered.of_quiet <;>
        simp [Run.next, act, Log.consumer, Log.held, Log.queued, Log.received, Event.handed?]
  | poll m =>
      cases live : r.broker.stream? m <;> apply delivered.of_quiet <;>
        simp [Run.next, act, live, Log.consumer, Log.held, Log.queued, Log.received,
          Event.handed?]
  | drop m =>
      cases live : r.broker.stream? m with
      | none =>
          apply delivered.of_quiet <;>
            simp [Run.next, act, live, Log.consumer, Log.held, Log.queued, Log.received,
              Event.handed?]
      | some s =>
          cases unfinished : s.unfinished <;> apply delivered.of_quiet <;>
            simp [Run.next, act, live, unfinished, Log.consumer, Log.held, Log.queued,
              Log.received, Event.handed?]

theorem start : Delivered {} where
  consumer := rfl
  attached := by simp
  held := by
    intro c
    rfl
  idle := by
    intro c _
    rfl
  balance := by simp [Log.held]
  first := by
    intro c
    exact List.nil_prefix

end Delivered

theorem delivered_of (actions : List Action) : (of actions).Delivered :=
  of_induction (P := Delivered) .start (fun _ a delivered => delivered.next a) actions

/-- Whatever request was accepted is queued for some consumer. -/
theorem queued_of_accepted (actions : List Action) {n : Nat} {q : Request}
    (accepted : .accepted n q ∈ (of actions).log) : ∃ c, (n, q) ∈ (of actions).log.queued c := by
  suffices kept : (of actions).Delivered ∧
      ∀ n q, .accepted n q ∈ (of actions).log → ∃ c, (n, q) ∈ (of actions).log.queued c from
    kept.2 n q accepted
  clear accepted
  apply of_induction (P := fun r =>
    r.Delivered ∧ ∀ n q, .accepted n q ∈ r.log → ∃ c, (n, q) ∈ r.log.queued c)
  · exact ⟨.start, by simp⟩
  · rintro r a ⟨delivered, queued⟩
    refine ⟨delivered.next a, ?_⟩
    intro n q accepted
    rcases List.mem_cons.mp accepted with now | before
    · obtain ⟨_, _, _, c, attached, _⟩ := accepted_next now.symm
      have last := Log.latest_of_consumer (delivered.consumer.trans attached)
      exact ⟨c, Log.mem_queued_cons.mpr (Or.inr ⟨now.symm, last⟩)⟩
    · obtain ⟨c, member⟩ := queued n q before
      exact ⟨c, Log.mem_queued_cons.mpr (Or.inl member)⟩

/-! ### How requests are delivered -/

/-- In a run, requests are delivered once and in order. -/
structure Delivery (r : Run) : Prop where
  /-- Whoever listens gets a channel of its own. -/
  own : ∃ c, (r.broker.act .listen).2 = .attached c ∧ .attached c ∉ r.log
  /-- An accepted request is queued for the consumer that attached last before it was sent, and for
  no other one. -/
  once : ∀ {n : Nat} {q : Request}, .accepted n q ∈ r.log →
    ∃ c, (r.log.before n).latest = some c ∧ (n, q) ∈ r.log.queued c ∧
      ∀ d q', (n, q') ∈ r.log.queued d → d = c ∧ q' = q
  /-- What is queued for a consumer stands in the order of sending, each request once. -/
  ascending : ∀ c, (r.log.queued c).Pairwise (·.1 < ·.1)
  /-- A consumer has received the first of what was queued for it, also after it was replaced, after
  the broker was closed, or after the consumer went away. -/
  first : ∀ c, r.log.received c <+: (r.log.queued c).map Prod.snd
  /-- For a consumer that is there, the rest of what was queued for it waits. -/
  rest : ∀ {c : Nat}, r.log.held c = true →
    r.log.received c ++ r.broker.bus.requests.waiting c = (r.log.queued c).map Prod.snd
  /-- A consumer that is there receives the next request that was queued for it. When there is none,
  it waits while it is attached, and is disconnected otherwise. -/
  next : ∀ {c : Nat}, r.log.held c = true →
    (r.broker.act (.receive c)).2 = .received c
      (match (r.log.queued c).drop (r.log.received c).length with
        | p :: _ => .item p.2
        | [] => if r.log.consumer = some c then .empty else .disconnected)
  /-- A request that is refused is queued for nobody. -/
  refused : ∀ {n : Nat} {q : Request} {e : BrokerError}, .refused n q e ∈ r.log →
    ∀ c q', (n, q') ∉ r.log.queued c
  /-- A request is accepted if a consumer is attached and there, and nobody is subscribed to the
  id. -/
  accepts : ∀ q, (∃ n, (r.broker.act (.send q)).2 = .accepted n q) ↔
    (∃ c, r.log.consumer = some c ∧ r.log.held c = true) ∧
      ∀ n, r.log.subscription n ≠ some q.id

variable {r : Run}

/-- What waits for a consumer is what was queued for it without what it has received. -/
theorem Delivered.waiting_eq (delivered : r.Delivered) {c : Nat} (there : r.log.held c = true) :
    r.broker.bus.requests.waiting c
      = ((r.log.queued c).drop (r.log.received c).length).map Prod.snd := by
  rw [List.map_drop, ← delivered.balance there]
  exact (List.drop_left ..).symm

/-- What a consumer that is there receives next. -/
theorem Delivered.received_next (delivered : r.Delivered) {c : Nat}
    (there : r.log.held c = true) :
    (r.broker.act (.receive c)).2 = .received c
      (match (r.log.queued c).drop (r.log.received c).length with
        | p :: _ => .item p.2
        | [] => if r.log.consumer = some c then .empty else .disconnected) := by
  have waiting := delivered.waiting_eq there
  simp only [act, Event.received.injEq, true_and]
  cases left : (r.log.queued c).drop (r.log.received c).length with
  | cons p later =>
      apply Bus.receiveRequest_eq_item_iff.mpr
      rw [waiting, left]
      rfl
  | nil =>
      rw [left, List.map_nil] at waiting
      unfold Bus.receiveRequest
      rw [Channels.receive_of_waiting_nil waiting, delivered.consumer]
      simp

/-- Whose id is free, and who finds a consumer, is accepted. -/
theorem accepts_iff (delivered : r.Delivered) (balanced : r.Balanced) (q : Request) :
    (∃ n, (r.broker.act (.send q)).2 = .accepted n q) ↔
      (∃ c, r.log.consumer = some c ∧ r.log.held c = true) ∧
        ∀ n, r.log.subscription n ≠ some q.id := by
  constructor
  · rintro ⟨n, accepted⟩
    obtain ⟨_, _, _, c, attached, attended, _⟩ := accepted_next accepted
    refine ⟨⟨c, delivered.consumer.trans attached, (delivered.held c).trans attended⟩, ?_⟩
    exact balanced.unsubscribed_of_accepted accepted
  · rintro ⟨⟨c, attached, there⟩, free⟩
    rw [delivered.consumer] at attached
    rw [delivered.held] at there
    rcases Bus.send_cases r.broker.bus q with
      ⟨deaf, _⟩ | ⟨_, taken, _⟩ | ⟨d, _, _, _, result⟩
    · simp [Bus.hasConsumer, attached, there] at deaf
    · obtain ⟨d, found, _⟩ := (Option.any_eq_true _ _).mp taken
      obtain ⟨n, s, live, same, following⟩ := balanced.sound.owner found
      have served : r.broker.bus.serves s = true :=
        Bus.serves_iff.mpr ⟨d, following, same ▸ found⟩
      exact absurd ((balanced.subscription_iff live q.id).mpr ⟨served, same⟩) (free n)
    · exact ⟨r.broker.streams.length, by simp [act, sent, result]⟩

end Run

/-- Along every run, a request that is accepted is queued once, for the consumer that attached last
before it was sent. Each consumer receives what was queued for it, in the order of sending, without
loss and without repetition; being replaced or the closing of the broker changes nothing about it. A
request that is refused reaches nobody. -/
theorem delivered_once_in_order (actions : List Action) : (Run.of actions).Delivery := by
  have delivered := Run.delivered_of actions
  have numbered := Run.numbered_of actions
  refine ⟨?_, ?_, Log.queued_ascending numbered, delivered.first, delivered.balance,
    delivered.received_next, ?_, Run.accepts_iff delivered (Run.balanced_of actions)⟩
  · refine ⟨(Run.of actions).broker.bus.requests.length, rfl, ?_⟩
    intro attached
    exact absurd (delivered.attached attached) (Nat.lt_irrefl _)
  · intro n q accepted
    obtain ⟨c, queued⟩ := Run.queued_of_accepted actions accepted
    have last := ((Log.mem_queued_iff numbered).mp queued).2
    refine ⟨c, last, queued, ?_⟩
    intro d q' again
    obtain ⟨acceptedAgain, lastAgain⟩ := (Log.mem_queued_iff numbered).mp again
    rw [last] at lastAgain
    exact ⟨(Option.some.inj lastAgain).symm, numbered.accepted_once acceptedAgain accepted⟩
  · intro n q e refused c q' queued
    have accepted := ((Log.mem_queued_iff numbered).mp queued).1
    exact numbered.not_refused accepted refused

end EventDispatch.Broker
