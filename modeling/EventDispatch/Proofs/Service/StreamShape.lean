import EventDispatch.Proofs.Service.Shutdown
/-!
What a stream tells, whatever happens at its bus.

Purpose: a stream tells interim responses, then at most one final thing, which is a terminal
response or one failure, and after that only its end. Nothing that others do at the bus can change
this, not even if they take from its channel, end its subscription or respond to its id after the
terminal response. A look that tells nothing has found an empty channel whose sending end is held.

What carries the proof: what a stream has told goes with how far it has come. The steps of a sender
and the looks at a stream keep this over any bus, so that nothing about the bus has to be known.

Main exports: `Bus.Operation`, `BusWithProducers`, `BusWithProducers.of`, `Poll.Final`, `Shape`,
`Standing`, `Standing.step`, `Standing.look`, `BusWithProducers.shape_of_streams`.
-/

namespace EventDispatch

/-- What can be done at a bus. Channels are named freely, whoever holds them. -/
inductive Bus.Operation where
  | attach
  | publishRequest (request : Request)
  | publishResponse (response : Response)
  | subscribe (id : String)
  | unsubscribe (id : String)
  | detach
  | clearPending
  | receiveRequest (channel : Nat)
  | receiveResponse (channel : Nat)
  | releaseConsumer (channel : Nat)
  | releaseSubscriber (channel : Nat)
deriving Inhabited

/-- The bus after an operation. -/
def Bus.operate (b : Bus) : Bus.Operation → Bus
  | .attach => b.attach.1
  | .publishRequest r => (b.publishRequest r).1
  | .publishResponse r => b.publishResponse r
  | .subscribe id => (b.subscribe id).1
  | .unsubscribe id => b.unsubscribe id
  | .detach => b.detach
  | .clearPending => b.clearPending
  | .receiveRequest c => (b.receiveRequest c).1
  | .receiveResponse c => (b.receiveResponse c).1
  | .releaseConsumer c => b.releaseConsumer c
  | .releaseSubscriber c => b.releaseSubscriber c

/-- What a producer can do. -/
inductive Producer.Act where
  /-- It takes its next step of sending. -/
  | step
  | look
  | giveUp
deriving Inhabited

/-- A producer acts at a bus; an act that is not possible now is passed over. -/
def Producer.act (p : Producer) (b : Bus) : Producer.Act → Bus × Producer
  | .step => match p.sending with
    | none => (b, p)
    | some s => ((b.sendStep s).1, { p with sending := some (b.sendStep s).2 })
  | .look => match p.handed? with
    | none => (b, p)
    | some s =>
      ((b.poll s).1,
        { p with sending := some (.done (b.poll s).2.1), told := p.told ++ (b.poll s).2.2.told })
  | .giveUp => match p.handed? with
    | none => (b, p)
    | some s => (b.drop s, { p with sending := none })

/-- A bus with everyone who sends requests over it. -/
structure BusWithProducers where
  bus : Bus := {}
  producers : List Producer := []
deriving Inhabited

namespace BusWithProducers

/-- What can happen. -/
inductive Act where
  | operate (operation : Bus.Operation)
  | begin (request : Request)
  | produce (producer : Nat) (act : Producer.Act)
deriving Inhabited

/-- What follows an act; an act of a producer who is not there is passed over. -/
def next (x : BusWithProducers) : Act → BusWithProducers
  | .operate operation => { x with bus := x.bus.operate operation }
  | .begin r => { x with producers := x.producers ++ [⟨r, some (.begun r), []⟩] }
  | .produce i a => match x.producers[i]? with
    | none => x
    | some p => ⟨(p.act x.bus a).1, x.producers.set i (p.act x.bus a).2⟩

/-- What acts in order lead to, from a bus that nobody has used. -/
def of (acts : List Act) : BusWithProducers := acts.foldl next {}

end BusWithProducers

/-! ### What a stream tells -/

/-- What a stream may tell last: a terminal response, or a failure that concerns its own id. -/
inductive Poll.Final (id : String) : Poll → Prop where
  | answer {r : Response} (terminal : r.terminal = true) : Final id (.item r)
  | noConsumer : Final id (.failed .noConsumer)
  | duplicate : Final id (.failed (.duplicateRequestId id))
  | closed : Final id (.failed (.closed id))

/-- Interim responses, then at most one final thing, and after that only the end. -/
def Shape (id : String) (told : List Poll) : Prop :=
  ∃ interim : List Response, (∀ r ∈ interim, r.terminal = false) ∧
    (told = interim.map .item ∨
      ∃ (last : Poll) (ends : Nat), last.Final id ∧
        told = interim.map .item ++ last :: List.replicate ends .ended)

/-- How what a stream has told goes with how far its request has come. -/
inductive Standing (id : String) : Option Sending → List Poll → Prop where
  | begun {r : Request} (same : r.id = id) : Standing id (some (.begun r)) []
  | heard {r : Request} (same : r.id = id) : Standing id (some (.heard r)) []
  | subscribed {r : Request} {c : Nat} (same : r.id = id) :
      Standing id (some (.subscribed r c)) []
  | refused {c : Nat} {e : BrokerError} (final : Poll.Final id (.failed e)) :
      Standing id (some (.refused id c e)) []
  | failed {e : BrokerError} (final : Poll.Final id (.failed e)) :
      Standing id (some (.done ⟨id, .failed e⟩)) []
  | following {c : Nat} {interim : List Response} (pending : ∀ r ∈ interim, r.terminal = false) :
      Standing id (some (.done ⟨id, .following c⟩)) (interim.map .item)
  | ended {interim : List Response} {last : Poll} (ends : Nat)
      (pending : ∀ r ∈ interim, r.terminal = false) (final : last.Final id) :
      Standing id (some (.done ⟨id, .ended⟩))
        (interim.map .item ++ last :: List.replicate ends .ended)
  | gone {told : List Poll} (shape : Shape id told) : Standing id none told

/-- None of no responses is terminal. -/
theorem Response.none_terminal : ∀ r ∈ ([] : List Response), r.terminal = false := by
  simp

/-- Interim responses are not final. -/
theorem Poll.not_final_of_interim (id : String) {interim : List Response}
    (pending : ∀ r ∈ interim, r.terminal = false) :
    ∀ p ∈ interim.map Poll.item, ¬ p.Final id := by
  intro p told final
  obtain ⟨r, member, item⟩ := List.mem_map.mp told
  cases item
  cases final with
  | answer terminal =>
      rw [pending r member] at terminal
      exact absurd terminal (by simp)

namespace Standing

variable {id : String} {s : Sending} {t : Stream} {told : List Poll}

theorem shape {sending : Option Sending} (standing : Standing id sending told) :
    Shape id told := by
  cases standing with
  | following pending => exact ⟨_, pending, Or.inl rfl⟩
  | ended ends pending final => exact ⟨_, pending, Or.inr ⟨_, ends, final, rfl⟩⟩
  | gone shape => exact shape
  | _ => exact ⟨[], Response.none_terminal, Or.inl rfl⟩

/-- A stream that was handed out has the id of its request. -/
theorem id_eq (standing : Standing id (some (.done t)) told) : t.id = id := by
  cases standing <;> rfl

/-- A stream has ended once it has told something final, and not before. -/
theorem ended_iff (standing : Standing id (some (.done t)) told) :
    t.state = .ended ↔ ∃ p ∈ told, p.Final id := by
  cases standing with
  | failed final => simp
  | following pending =>
      have unfinal := Poll.not_final_of_interim id pending
      constructor
      · intro ended
        exact absurd ended (by simp)
      · rintro ⟨p, member, final⟩
        exact absurd final (unfinal p member)
  | @ended _ last ends pending final =>
      constructor
      · intro _
        exact ⟨last, by simp, final⟩
      · intro _
        rfl

/-- A step of sending, over any bus. -/
theorem step (standing : Standing id (some s) told) (b : Bus) :
    Standing id (some (b.sendStep s).2) told := by
  have steps := b.sends s
  generalize (b.sendStep s).1 = d at steps
  generalize (b.sendStep s).2 = u at steps ⊢
  cases steps with
  | unheard =>
      cases standing with
      | begun same => exact same ▸ .failed .noConsumer
  | heard =>
      cases standing with
      | begun same => exact .heard same
  | duplicate =>
      cases standing with
      | heard same => exact same ▸ .failed .duplicate
  | subscribed =>
      cases standing with
      | heard same => exact .subscribed same
  | published =>
      cases standing with
      | subscribed same => exact same ▸ .following Response.none_terminal
  | refused =>
      cases standing with
      | subscribed same => exact same ▸ .refused .noConsumer
  | takenBack =>
      cases standing with
      | refused final => exact .failed final
  | settled => exact standing

/-- A look at a stream, over any bus. -/
theorem look (standing : Standing id (some (.done t)) told) (b : Bus) :
    Standing id (some (.done (b.poll t).2.1)) (told ++ (b.poll t).2.2.told) := by
  cases standing with
  | failed final => exact .ended 0 Response.none_terminal final
  | @following c interim pending =>
      rcases Bus.poll_cases b ⟨id, .following c⟩ with ⟨finished, _⟩ | ⟨d, follows, looked⟩
      · exact absurd finished (by simp [Stream.unfinished])
      · cases follows
        rcases looked with ⟨r, rest, _, ⟨more, result⟩ | ⟨terminal, result⟩⟩ |
          ⟨_, ⟨_, result⟩ | ⟨_, result⟩⟩
        · rw [result]
          have further : ∀ q ∈ interim ++ [r], q.terminal = false := by
            simpa [or_imp, forall_and] using ⟨pending, more⟩
          have later : Standing id (some (.done ⟨id, .following c⟩)) _ := .following further
          simpa [Poll.told] using later
        · rw [result]
          exact .ended 0 pending (.answer terminal)
        · rw [result]
          have later : Standing id (some (.done ⟨id, .following c⟩)) _ := .following pending
          simpa [Poll.told] using later
        · rw [result]
          exact .ended 0 pending .closed
  | @ended interim last ends pending final =>
      have further := Standing.ended (ends + 1) pending final
      rw [List.replicate_succ', ← List.cons_append, ← List.append_assoc] at further
      exact further

end Standing

/-- A look tells nothing exactly if the stream follows a channel in which nothing waits and whose
sending end is held. -/
theorem Bus.poll_eq_waiting_iff (b : Bus) (s : Stream) :
    (b.poll s).2.2 = .waiting ↔
      ∃ c, s.state = .following c ∧ b.responses.waiting c = [] ∧ b.subscriberHeld c = true := by
  cases state : s.state with
  | failed e => simp [Bus.poll, state]
  | ended => simp [Bus.poll, state]
  | following c =>
      rw [Bus.poll_following state]
      cases waiting : b.responses.waiting c with
      | nil => cases held : b.subscriberHeld c <;> simp [waiting, held]
      | cons r rest => cases terminal : r.terminal <;> simp [terminal, waiting]

namespace Producer

variable {p : Producer}

/-- What a producer's stream has told goes with how far its request has come. -/
def InStanding (p : Producer) : Prop := Standing p.request.id p.sending p.told

theorem sending_of_handed {s : Stream} (handed : p.handed? = some s) :
    p.sending = some (.done s) := by
  unfold handed? at handed
  split at handed
  · rename_i done
    cases handed
    exact done
  · exact absurd handed (by simp)

/-- Whatever a producer does, over any bus. -/
theorem InStanding.act (standing : p.InStanding) (b : Bus) (a : Producer.Act) :
    (p.act b a).2.InStanding := by
  cases a with
  | step =>
      simp only [Producer.act]
      split
      · exact standing
      · rename_i s sending
        unfold InStanding at standing
        rw [sending] at standing
        exact standing.step b
  | look =>
      simp only [Producer.act]
      split
      · exact standing
      · rename_i s handed
        unfold InStanding at standing
        rw [sending_of_handed handed] at standing
        exact standing.look b
  | giveUp =>
      simp only [Producer.act]
      split
      · exact standing
      · exact .gone standing.shape

end Producer

namespace BusWithProducers

/-- Every act keeps the standing of every producer. -/
theorem inStanding_next {x : BusWithProducers} (standing : ∀ p ∈ x.producers, p.InStanding)
    (a : Act) : ∀ p ∈ (x.next a).producers, p.InStanding := by
  intro p member
  cases a with
  | operate operation => exact standing p member
  | begin r =>
      rcases List.mem_append.mp member with old | new
      · exact standing p old
      · rw [List.mem_singleton.mp new]
        exact .begun rfl
  | produce i act =>
      simp only [next] at member
      split at member
      · exact standing p member
      · rename_i q place
        rcases List.mem_or_eq_of_mem_set member with old | same
        · exact standing p old
        · rw [same]
          exact (standing q (List.mem_of_getElem? place)).act x.bus act

theorem inStanding_of (acts : List Act) : ∀ p ∈ (of acts).producers, p.InStanding := by
  suffices reached : ∀ x : BusWithProducers, (∀ p ∈ x.producers, p.InStanding) →
      ∀ p ∈ (acts.foldl next x).producers, p.InStanding from reached {} (by simp)
  induction acts with
  | nil =>
      intro x standing
      exact standing
  | cons a rest inductionHypothesis =>
      intro x standing
      exact inductionHypothesis (x.next a) (inStanding_next standing a)

/-- Every stream tells interim responses, then at most one final thing, and after that only its end;
it has ended once the final thing was told, and not before. -/
theorem shape_of_streams (acts : List Act) (p : Producer) (member : p ∈ (of acts).producers) :
    Shape p.request.id p.told ∧
      ∀ s, p.handed? = some s →
        s.id = p.request.id ∧
          (s.state = .ended ↔ ∃ t ∈ p.told, t.Final p.request.id) ∧
          (((of acts).bus.poll s).2.2 = .waiting ↔
            ∃ c, s.state = .following c ∧ (of acts).bus.responses.waiting c = [] ∧
              (of acts).bus.subscriberHeld c = true) := by
  have standing := inStanding_of acts p member
  refine ⟨standing.shape, ?_⟩
  intro s handed
  unfold Producer.InStanding at standing
  rw [Producer.sending_of_handed handed] at standing
  exact ⟨standing.id_eq, standing.ended_iff, Bus.poll_eq_waiting_iff _ s⟩

/-- A stream that is responded to again after its terminal response, and looked at four times. -/
def respondedAfterTerminal : List Act :=
  [.operate .attach, .begin { id := "a", pattern := .null }, .produce 0 .step, .produce 0 .step,
    .produce 0 .step, .operate (.publishResponse (.interim "a" (.bool false))), .produce 0 .look,
    .operate (.publishResponse (.reply "a" .null)),
    .operate (.publishResponse (.interim "a" (.bool true))), .produce 0 .look,
    .operate (.publishResponse (.reply "a" .null)), .produce 0 .look, .produce 0 .look]

/-- It tells what came up to the terminal response, and then its end. -/
theorem ends_after_terminal :
    Shape "a" [.item (.interim "a" (.bool false)), .item (.reply "a" .null), .ended, .ended] :=
  (shape_of_streams respondedAfterTerminal
    ⟨{ id := "a", pattern := .null }, some (.done ⟨"a", .ended⟩),
      [.item (.interim "a" (.bool false)), .item (.reply "a" .null), .ended, .ended]⟩
    (List.mem_singleton.mpr rfl)).1

end BusWithProducers
end EventDispatch
