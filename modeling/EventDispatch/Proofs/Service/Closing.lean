import EventDispatch.Proofs.Service.Course
import EventDispatch.Proofs.Service.Shutdown
/-!
Closing strands no producer.

Purpose: however the steps of closing fall between the steps of sending, once closing is over and
every request has been sent or refused no id is pending any more. Whoever holds a stream then finds
what has arrived, and after it, unless a terminal response was there, one failure.

What carries the proof: a consumer that is detached stays so, and publishing a request fails without
one. So from the end of closing on no stream that was handed out is subscribed: a subscription that
is there belongs to a request that is about to be refused.

Main exports: `Shutdown.Right`, `Shutdown.Invariant`, `Shutdown.Invariant.next`, `Shutdown.kept_of`,
`Shutdown.no_producer_stranded`.
-/

namespace EventDispatch

namespace Shutdown

/-- How far a producer has come, and what it has been told. -/
inductive Right (requests : List Request) (i : Nat) (p : Producer) : Prop where
  | begun (sending : p.sending = some (.begun p.request)) (silent : p.told = [])
  | heard (sending : p.sending = some (.heard p.request)) (silent : p.told = [])
  | subscribed {c : Nat} (sending : p.sending = some (.subscribed p.request c))
      (silent : p.told = [])
  | refused {c : Nat} (sending : p.sending = some (.refused p.request.id c .noConsumer))
      (silent : p.told = [])
  | failed {e : BrokerError} (sending : p.sending = some (.done ⟨p.request.id, .failed e⟩))
      (silent : p.told = []) (reason : Reason requests i p.request.id e)
  | following {c : Nat} {items : List Response}
      (sending : p.sending = some (.done ⟨p.request.id, .following c⟩))
      (told : p.told = items.map .item) (interim : ∀ r ∈ items, r.terminal = false)
  | ended (sending : p.sending = some (.done ⟨p.request.id, .ended⟩))
      (course : Course requests i p.request.id p.told)
  | givenUp (sending : p.sending = none)

/-- The requests of the producers. -/
def requests (x : Shutdown) : List Request := x.producers.map Producer.request

/-- What holds whatever has happened. -/
structure Invariant (x : Shutdown) : Prop where
  sound : x.broker.Sound
  /-- A consumer that is detached for closing stays so. -/
  detached : x.stage = .detached ∨ x.stage = .cleared → x.exchange.bus.consumer = none
  /-- Once closing is over, no stream that was handed out is subscribed. -/
  cleared : x.stage = .cleared → ∀ p ∈ x.producers, ∀ s, p.handed? = some s →
    x.exchange.bus.serves s = false
  right : ∀ {i : Nat} {p : Producer}, x.producers[i]? = some p → Right x.requests i p

theorem Right.more {requests : List Request} {i : Nat} {p : Producer} (right : Right requests i p)
    (r : Request) : Right (requests ++ [r]) i p := by
  cases right with
  | begun sending silent => exact .begun sending silent
  | heard sending silent => exact .heard sending silent
  | subscribed sending silent => exact .subscribed sending silent
  | refused sending silent => exact .refused sending silent
  | failed sending silent reason => exact .failed sending silent (reason.more r)
  | following sending told interim => exact .following sending told interim
  | givenUp sending => exact .givenUp sending
  | ended sending course =>
      obtain ⟨items, last, ends, told, interim, terminal | ⟨e, failed, reason⟩⟩ := course
      · exact .ended sending ⟨items, last, ends, told, interim, Or.inl terminal⟩
      · exact .ended sending ⟨items, last, ends, told, interim, Or.inr ⟨e, failed, reason.more r⟩⟩

/-- A stream that was handed out is one that its producer holds. -/
theorem Right.id_handed {requests : List Request} {i : Nat} {p : Producer}
    (right : Right requests i p) {s : Stream} (handed : p.stream? = some s) :
    s.id = p.request.id := by
  cases right <;> simp_all [Producer.stream?, Sending.held?] <;> simp [← handed]

end Shutdown

theorem Producer.stream?_of_handed {p : Producer} {s : Stream} (handed : p.handed? = some s) :
    p.stream? = some s := by
  unfold handed? at handed
  split at handed
  · rename_i t sending
    simpa [stream?, sending, Sending.held?] using handed
  · exact absurd handed (by simp)

/-- What a producer has been told by the stream that was handed out to it. -/
inductive Shutdown.Hears (requests : List Request) (i : Nat) (p : Producer) : Stream → Prop where
  | failed {e : BrokerError} (silent : p.told = []) (reason : Reason requests i p.request.id e) :
      Hears requests i p ⟨p.request.id, .failed e⟩
  | following {c : Nat} {items : List Response} (told : p.told = items.map .item)
      (interim : ∀ r ∈ items, r.terminal = false) :
      Hears requests i p ⟨p.request.id, .following c⟩
  | ended (course : Course requests i p.request.id p.told) :
      Hears requests i p ⟨p.request.id, .ended⟩

/-- A stream is handed out once sending is over. -/
theorem Shutdown.Right.hears {requests : List Request} {i : Nat} {p : Producer}
    (right : Right requests i p) {s : Stream} (handed : p.handed? = some s) :
    Hears requests i p s := by
  have finished : p.sending = some (.done s) := by
    unfold Producer.handed? at handed
    split at handed
    · rename_i sending
      cases handed
      exact sending
    · cases handed
  cases right with
  | begun was => cases finished.symm.trans was
  | heard was => cases finished.symm.trans was
  | subscribed was => cases finished.symm.trans was
  | refused was => cases finished.symm.trans was
  | givenUp was => cases finished.symm.trans was
  | failed was silent reason =>
      cases finished.symm.trans was
      exact .failed silent reason
  | following was told interim =>
      cases finished.symm.trans was
      exact .following told interim
  | ended was course =>
      cases finished.symm.trans was
      exact .ended course

namespace Shutdown.Invariant

variable {x : Shutdown}

theorem start : Invariant {} where
  sound := Broker.Sound.start
  detached := by simp
  cleared := by simp
  right := by simp

/-- A producer's stream is live in the broker of all producers. -/
theorem live {i : Nat} {p : Producer} {s : Stream} (place : x.producers[i]? = some p)
    (held : p.stream? = some s) : x.broker.stream? i = some s := by
  rw [Broker.stream?_eq_some_iff]
  simp [broker, place, held]

/-- Something happens beside the producers. -/
theorem of_exchange (kept : x.Invariant) {exchange : Exchange} {stage : Stage}
    (sound : Broker.Sound ⟨exchange.bus, x.producers.map Producer.stream?⟩)
    (detached : stage = .detached ∨ stage = .cleared → exchange.bus.consumer = none)
    (cleared : stage = .cleared → ∀ {i : Nat} {s : Stream}, x.broker.stream? i = some s →
      exchange.bus.serves s = true → x.stage = .cleared ∧ x.exchange.bus.serves s = true) :
    Invariant ⟨exchange, x.producers, stage⟩ where
  sound := sound
  detached := detached
  cleared := by
    intro isCleared p member s handed
    obtain ⟨i, place⟩ := List.getElem?_of_mem member
    cases served : exchange.bus.serves s with
    | false => rfl
    | true =>
        obtain ⟨before, still⟩ :=
          cleared isCleared (live place (Producer.stream?_of_handed handed)) served
        rw [kept.cleared before p member s handed] at still
        exact absurd still (by simp)
  right := kept.right

/-- What happens at the consumers' side of the bus only, while no consumer comes back. -/
theorem of_subscribers_eq (kept : x.Invariant) {exchange : Exchange}
    (pending : exchange.bus.pending = x.exchange.bus.pending)
    (responses : exchange.bus.responses = x.exchange.bus.responses)
    (consumer : x.stage = .running ∨ exchange.bus.consumer = x.exchange.bus.consumer) :
    Invariant { x with exchange } := by
  refine kept.of_exchange (kept.sound.of_subscribers_eq pending responses) ?_ ?_
  · intro closing
    rcases consumer with running | same
    · rw [running] at closing
      exact absurd closing (by simp)
    · rw [same]
      exact kept.detached closing
  · intro isCleared i s _ served
    rw [Bus.serves_congr pending] at served
    exact ⟨isCleared, served⟩

theorem publish (kept : x.Invariant) (r : Response) {exchange : Exchange}
    (bus : exchange.bus = x.exchange.bus.publishResponse r) : Invariant { x with exchange } := by
  refine kept.of_exchange (bus ▸ kept.sound.respond r) ?_ ?_
  · intro closing
    rw [bus, Bus.consumer_publishResponse]
    exact kept.detached closing
  · intro isCleared i s live served
    have ends : (x.exchange.bus.publishResponse r).serves s = _ := kept.sound.serves_respond live r
    rw [bus, ends, Bool.and_eq_true] at served
    exact ⟨isCleared, served.1⟩

theorem move (kept : x.Invariant) (m : Move) :
    Invariant { x with exchange := (x.exchange.move m).getD x.exchange } := by
  cases moved : x.exchange.move m with
  | none => exact kept
  | some y =>
      rcases Exchange.move_cases moved with
        ⟨n, server, loop, request, rfl, _, _, rfl⟩ | ⟨n, server, loop, rfl, _, _, rfl⟩ |
        ⟨j, job, response, rfl, _, _, rfl⟩ | ⟨j, job, rfl, _, _, rfl⟩
      · exact kept.of_subscribers_eq rfl rfl (Or.inr rfl)
      · exact kept.of_subscribers_eq rfl rfl (Or.inr rfl)
      · exact kept.publish response rfl
      · exact kept.of_subscribers_eq rfl rfl (Or.inr rfl)

theorem listen (kept : x.Invariant) (running : x.stage = .running) (n : Nat) :
    Invariant { x with exchange := x.exchange.listen n } := by
  unfold Exchange.listen
  split
  · exact kept
  · split
    · exact kept
    · exact kept.of_subscribers_eq rfl rfl (Or.inl running)

theorem tell (kept : x.Invariant) (n : Nat) :
    Invariant { x with exchange := x.exchange.tell n, stage := .told } := by
  have same : (x.exchange.tell n).bus = x.exchange.bus := by
    unfold Exchange.tell
    split <;> rfl
  refine kept.of_exchange (same ▸ kept.sound) (by simp) (by simp)

theorem reap (kept : x.Invariant) (n : Nat) :
    Invariant { x with exchange := x.exchange.reap n } := by
  unfold Exchange.reap
  split
  · exact kept
  · split
    · exact kept
    · exact kept.of_subscribers_eq rfl rfl (Or.inr rfl)

theorem detach (kept : x.Invariant) :
    Invariant { x.withBus x.exchange.bus.detach with stage := .detached } :=
  kept.of_exchange (kept.sound.of_subscribers_eq rfl rfl) (fun _ => rfl) (by simp)

theorem clear (kept : x.Invariant) (detached : x.stage = .detached) :
    Invariant { x.withBus x.exchange.bus.clearPending with stage := .cleared } := by
  refine kept.of_exchange ?_ (fun _ => kept.detached (Or.inl detached)) ?_
  · exact kept.sound.close.of_subscribers_eq rfl rfl
  · intro _ i s _ served
    obtain ⟨c, _, found⟩ := Bus.serves_iff.mp served
    simp [withBus, Bus.clearPending] at found

theorem begin (kept : x.Invariant) (r : Request) :
    Invariant { x with producers := x.producers ++ [⟨r, some (.begun r), []⟩] } where
  sound := by
    simpa [broker, Producer.stream?, Sending.held?] using kept.sound.vacate
  detached := kept.detached
  cleared := by
    intro isCleared p member s handed
    rcases List.mem_append.mp member with before | new
    · exact kept.cleared isCleared p before s handed
    · rw [List.mem_singleton.mp new] at handed
      exact absurd handed (by simp [Producer.handed?])
  right := by
    intro i p place
    simp only [requests, List.map_append, List.map_cons, List.map_nil]
    rcases Nat.lt_or_ge i x.producers.length with below | beyond
    · rw [List.getElem?_append_left below] at place
      exact (kept.right place).more r
    · rw [List.getElem?_append_right beyond, List.getElem?_singleton] at place
      split at place
      · cases place
        exact .begun rfl rfl
      · exact absurd place (by simp)

/-- A producer becomes another one, with the same request. -/
theorem update (kept : x.Invariant) {i : Nat} {p q : Producer} {bus : Bus}
    (place : x.producers[i]? = some p) (request : q.request = p.request)
    (sound : Broker.Sound ⟨bus, x.broker.streams.set i q.stream?⟩)
    (consumer : x.exchange.bus.consumer = none → bus.consumer = none)
    (serves : ∀ {k : Nat} {s : Stream}, x.broker.stream? k = some s → bus.serves s = true →
      x.exchange.bus.serves s = true)
    (handed : x.stage = .cleared → ∀ s, q.handed? = some s → bus.serves s = false)
    (right : Right x.requests i q) : (x.update i q bus).Invariant := by
  have inRange := (List.getElem?_eq_some_iff.mp place).1
  have requests : (x.update i q bus).requests = x.requests := Broker.map_set_same place request
  constructor
  · simpa [broker, Shutdown.update, withBus, List.map_set] using sound
  · intro closing
    exact consumer (kept.detached closing)
  · intro isCleared r member s isHanded
    rcases List.mem_or_eq_of_mem_set member with before | new
    · obtain ⟨k, there⟩ := List.getElem?_of_mem before
      cases served : bus.serves s with
      | false => exact served
      | true =>
          have still := serves (live there (Producer.stream?_of_handed isHanded)) served
          rw [kept.cleared isCleared r before s isHanded] at still
          exact absurd still (by simp)
    · exact handed isCleared s (new ▸ isHanded)
  · intro k r there
    rw [requests]
    simp only [Shutdown.update, List.getElem?_set, inRange, if_true] at there
    split at there
    · rename_i same
      cases there
      exact same ▸ right
    · exact kept.right there

/-- An id that is taken is that of another producer's request: the pending id belongs to a stream,
and a producer that is about to subscribe holds none. -/
private theorem duplicate_of_taken (kept : x.Invariant) {i : Nat} {p : Producer}
    (place : x.producers[i]? = some p) (none : p.stream? = none) {id : String}
    (taken : (x.exchange.bus.pending.find? id).any x.exchange.bus.responses.attended = true) :
    Reason x.requests i id (.duplicateRequestId id) := by
  cases found : x.exchange.bus.pending.find? id with
  | none =>
      rw [found] at taken
      exact absurd taken (by simp)
  | some c =>
      obtain ⟨j, s, owns, same, _⟩ := kept.sound.owner found
      rw [Broker.stream?_eq_some_iff, broker, List.getElem?_map] at owns
      obtain ⟨q, there, holds⟩ := Option.map_eq_some_iff.mp owns
      refine .duplicate (j := j) (r := q.request) ?_ ?_ ?_
      · rintro rfl
        rw [place] at there
        cases there
        rw [none] at holds
        exact absurd holds (by simp)
      · rw [requests, List.getElem?_map, there]
        rfl
      · rw [← (kept.right there).id_handed holds]
        exact same

/-- A step of sending leads from one state of a producer to another. -/
private theorem right_of_sends (kept : x.Invariant) {i : Nat} {p : Producer} {s t : Sending}
    {d : Bus} (place : x.producers[i]? = some p) (sending : p.sending = some s)
    (step : Bus.Sends x.exchange.bus s d t) :
    Right x.requests i { p with sending := some t } := by
  have right := kept.right place
  cases right with
  | begun was silent =>
      cases sending.symm.trans was
      cases step with
      | unheard => exact .failed rfl silent .noConsumer
      | heard => exact .heard rfl silent
  | heard was silent =>
      cases sending.symm.trans was
      cases step with
      | duplicate taken =>
          have none : p.stream? = none := by simp [Producer.stream?, was, Sending.held?]
          exact .failed rfl silent (kept.duplicate_of_taken place none taken)
      | subscribed => exact .subscribed rfl silent
  | subscribed was silent =>
      cases sending.symm.trans was
      cases step with
      | published =>
          have told : p.told = ([] : List Response).map .item := silent
          exact .following rfl told (by simp)
      | refused => exact .refused rfl silent
  | refused was silent =>
      cases sending.symm.trans was
      cases step with
      | takenBack => exact .failed rfl silent .noConsumer
  | failed was silent reason =>
      cases sending.symm.trans was
      cases step with
      | settled => exact .failed rfl silent reason
  | following was told interim =>
      cases sending.symm.trans was
      cases step with
      | settled => exact .following rfl told interim
  | ended was course =>
      cases sending.symm.trans was
      cases step with
      | settled => exact .ended rfl course
  | givenUp was => exact absurd (sending.symm.trans was) (by simp)

/-- A request that is sent once closing is over ends up with a stream that is not subscribed: there
is no consumer any more. -/
private theorem unserved_of_sends (kept : x.Invariant) {i : Nat} {p : Producer} {s : Sending}
    {d : Bus} {u : Stream} (place : x.producers[i]? = some p) (sending : p.sending = some s)
    (step : Bus.Sends x.exchange.bus s d (.done u)) (isCleared : x.stage = .cleared) :
    d.serves u = false := by
  cases step with
  | unheard => exact Bus.serves_of_finished rfl
  | duplicate => exact Bus.serves_of_finished rfl
  | takenBack => exact Bus.serves_of_finished rfl
  | published attached =>
      rw [kept.detached (Or.inr isCleared)] at attached
      exact absurd attached (by simp)
  | settled =>
      have member : p ∈ x.producers := List.mem_of_getElem? place
      exact kept.cleared isCleared p member u (by simp [Producer.handed?, sending])

theorem step (kept : x.Invariant) {i : Nat} {p : Producer} (place : x.producers[i]? = some p) :
    (x.step i p).Invariant := by
  unfold Shutdown.step
  cases sending : p.sending with
  | none => exact kept
  | some s =>
      have taken := x.exchange.bus.sends s
      simp only
      generalize (x.exchange.bus.sendStep s).1 = d at taken ⊢
      generalize (x.exchange.bus.sendStep s).2 = t at taken ⊢
      have held : x.broker.streams[i]? = some s.held? := by
        simp [broker, place, Producer.stream?, sending]
      refine kept.update place rfl (kept.sound.sends held taken) ?_
        (kept.sound.serves_of_sends taken) ?_ (kept.right_of_sends place sending taken)
      · intro nobody
        cases taken with
        | refused => rfl
        | takenBack => simpa using nobody
        | _ => exact nobody
      · intro isCleared u handed
        cases t with
        | done v =>
            cases handed
            exact kept.unserved_of_sends place sending taken isCleared
        | _ => exact absurd handed (by simp [Producer.handed?])

/-- A look at a stream leads from one state of its producer to another. -/
private theorem right_of_look (kept : x.Invariant) {i : Nat} {p : Producer} {s : Stream}
    (place : x.producers[i]? = some p) (handed : p.handed? = some s) :
    Right x.requests i { p with
      sending := some (.done (x.exchange.bus.poll s).2.1),
      told := p.told ++ (x.exchange.bus.poll s).2.2.told } := by
  cases (kept.right place).hears handed with
  | failed silent reason =>
      refine .ended rfl ?_
      rw [silent]
      exact Course.of_reason reason
  | ended course => exact .ended rfl course.concat_ended
  | @following c items told interim =>
      rw [told]
      rcases Bus.poll_cases x.exchange.bus ⟨p.request.id, .following c⟩ with
        ⟨finished, _⟩ | ⟨d, _, outcome⟩
      · exact absurd finished (by simp [Stream.unfinished])
      · rcases outcome with
          ⟨r, rest, _, ⟨pending, result⟩ | ⟨terminal, result⟩⟩ | ⟨_, ⟨_, result⟩ | ⟨_, result⟩⟩
        · rw [result]
          have more : items.map .item ++ [.item r] = (items ++ [r]).map Poll.item := by simp
          exact .following rfl more (by simpa [or_imp, forall_and] using ⟨interim, pending⟩)
        · rw [result]
          exact .ended rfl (Course.of_terminal interim terminal)
        · rw [result]
          exact .following rfl (by simp [Poll.told]) interim
        · rw [result]
          exact .ended rfl (Course.of_failed interim .closed)

theorem look (kept : x.Invariant) {i : Nat} {p : Producer} (place : x.producers[i]? = some p) :
    (x.look i p).Invariant := by
  unfold Shutdown.look
  cases handed : p.handed? with
  | none => exact kept
  | some s =>
      have held := live place (Producer.stream?_of_handed handed)
      have sound := kept.sound.poll held
      have serves := (kept.sound.poll_reads held).2.1
      have others := fun u => Broker.Sound.serves_poll x.broker s u
      have consumer := Bus.consumer_poll x.exchange.bus s
      have right := kept.right_of_look place handed
      simp only [broker] at sound serves others ⊢
      generalize x.exchange.bus.poll s = result at sound serves others consumer right ⊢
      refine kept.update place rfl sound (fun nobody => consumer.trans nobody) ?_ ?_ right
      · intro k u _ served
        rw [← others u]
        exact served
      · intro isCleared u other
        cases other
        exact serves.trans (kept.cleared isCleared p (List.mem_of_getElem? place) s handed)

theorem giveUp (kept : x.Invariant) {i : Nat} {p : Producer} (place : x.producers[i]? = some p) :
    (x.giveUp i p).Invariant := by
  unfold Shutdown.giveUp
  cases handed : p.handed? with
  | none => exact kept
  | some s =>
      have held := live place (Producer.stream?_of_handed handed)
      refine kept.update place rfl (kept.sound.drop held) ?_ ?_ ?_ (.givenUp rfl)
      · intro nobody
        rw [Bus.consumer_drop]
        exact nobody
      · intro k u _ served
        have ends : (x.exchange.bus.drop s).serves u = _ := Broker.Sound.serves_drop x.broker s u
        rw [ends, Bool.and_eq_true] at served
        exact served.1
      · intro _ u other
        exact absurd other (by simp [Producer.handed?])

/-- Whatever happens keeps all of this: one case for each act. -/
theorem next (kept : x.Invariant) (a : Act) : (x.next a).Invariant := by
  cases a with
  | serve g => exact kept.of_subscribers_eq rfl rfl (Or.inr rfl)
  | listen n =>
      simp only [Shutdown.next]
      split
      · rename_i running
        exact kept.listen running n
      · exact kept
  | attach =>
      simp only [Shutdown.next]
      split
      · rename_i running
        exact kept.of_subscribers_eq rfl rfl (Or.inl running)
      · exact kept
  | receive c =>
      simp only [Shutdown.next]
      split
      · exact kept
      · exact kept.of_subscribers_eq rfl rfl (Or.inr rfl)
  | leave c =>
      simp only [Shutdown.next]
      split
      · exact kept
      · exact kept.of_subscribers_eq rfl rfl (Or.inr rfl)
  | move m => exact kept.move m
  | respond r => exact kept.publish r rfl
  | begin r => exact kept.begin r
  | step i =>
      simp only [Shutdown.next]
      cases place : x.producers[i]? with
      | none => exact kept
      | some p => exact kept.step place
  | look i =>
      simp only [Shutdown.next]
      cases place : x.producers[i]? with
      | none => exact kept
      | some p => exact kept.look place
  | giveUp i =>
      simp only [Shutdown.next]
      cases place : x.producers[i]? with
      | none => exact kept
      | some p => exact kept.giveUp place
  | tell n =>
      simp only [Shutdown.next]
      split
      · exact kept.tell n
      · exact kept
  | detach =>
      simp only [Shutdown.next]
      split
      · exact kept.detach
      · exact kept
  | clear =>
      simp only [Shutdown.next]
      split
      · rename_i detached
        exact kept.clear detached
      · exact kept
  | reap n =>
      simp only [Shutdown.next]
      split
      · exact kept.reap n
      · exact kept

/-- Once closing and sending are over, no stream is subscribed, so that no id is pending. -/
theorem nobody (kept : x.Invariant) (finished : x.Over) : x.exchange.bus.pending = [] := by
  have none : ∀ id c, x.exchange.bus.pending.find? id ≠ some c := by
    intro id c found
    obtain ⟨i, s, owns, rfl, following⟩ := kept.sound.owner found
    rw [Broker.stream?_eq_some_iff, broker, List.getElem?_map] at owns
    obtain ⟨p, place, holds⟩ := Option.map_eq_some_iff.mp owns
    have member := List.mem_of_getElem? place
    rcases finished.2 p member with gone | ⟨t, handed⟩
    · exact absurd holds (by simp [Producer.stream?, gone])
    · cases (Producer.stream?_of_handed handed).symm.trans holds
      have served := (Bus.serves_of_following following).mpr found
      rw [kept.cleared finished.1 p member s handed] at served
      exact absurd served (by simp)
  cases pending : x.exchange.bus.pending with
  | nil => rfl
  | cons entry others =>
      have member : (entry.1, entry.2) ∈ x.exchange.bus.pending := by simp [pending]
      exact absurd (kept.sound.sorted.find?_of_mem member) (none entry.1 entry.2)

/-- What a stream has told and what it has left to tell is the course of a stream. -/
theorem course (kept : x.Invariant) {i : Nat} {p : Producer} {s : Stream}
    (place : x.producers[i]? = some p) (handed : p.handed? = some s) :
    Course x.requests i p.request.id (p.told ++ x.exchange.bus.rest s) := by
  have held := live place (Producer.stream?_of_handed handed)
  cases (kept.right place).hears handed with
  | failed silent reason =>
      rw [silent]
      exact Course.of_reason reason
  | ended course => simpa [Bus.rest] using course
  | following told interim =>
      rw [told]
      exact Course.of_following interim (kept.sound.last held)

end Shutdown.Invariant

namespace Shutdown

/-- Everything is kept along all acts: by induction, one act at a time. -/
theorem kept_of (acts : List Act) : (of acts).Invariant := by
  have along : ∀ x : Shutdown, x.Invariant → (acts.foldl Shutdown.next x).Invariant := by
    induction acts with
    | nil => exact fun _ kept => kept
    | cons a later inductionHypothesis =>
        exact fun x kept => inductionHypothesis (x.next a) (kept.next a)
  exact along {} Invariant.start

/-- However the steps of closing fall between those of sending, once closing is over and every
request has been sent or refused, no id is pending. A stream that was handed out then has its
request's id, and is ready at every look: it tells what has arrived and is unread, after it, unless
a terminal response was there, the one failure, and then only its end. From its first look to its
last it tells interim responses, then a terminal one or one failure, and then only its end. Where
the requests have distinct ids, the failure is that the subscription ended or that nobody consumes;
otherwise it may also be that another producer's request had the id. -/
theorem no_producer_stranded (acts : List Act) (finished : (of acts).Over) :
    (of acts).exchange.bus.pending = [] ∧
      ∀ i p s, (of acts).producers[i]? = some p → p.handed? = some s →
        s.id = p.request.id ∧
        (∀ k, (of acts).exchange.bus.looks k s
          = ((of acts).exchange.bus.rest s ++ List.replicate k Poll.ended).take k) ∧
        (∀ k, Poll.waiting ∉ (of acts).exchange.bus.looks k s) ∧
        Course (of acts).requests i p.request.id (p.told ++ (of acts).exchange.bus.rest s) ∧
        (((of acts).requests.map Request.id).Nodup →
          ∀ e, .failed e ∈ p.told ++ (of acts).exchange.bus.rest s →
            e = .closed p.request.id ∨ e = .noConsumer) := by
  have kept := kept_of acts
  have nobody := kept.nobody finished
  refine ⟨nobody, ?_⟩
  intro i p s place handed
  have held := Invariant.live place (Producer.stream?_of_handed handed)
  have looks := Bus.looks_eq nobody (kept.sound.last held)
  have course := kept.course place handed
  refine ⟨(kept.right place).id_handed (Producer.stream?_of_handed handed), looks, ?_, course, ?_⟩
  · intro k waits
    rw [looks k] at waits
    rcases List.mem_append.mp (List.mem_of_mem_take waits) with left | ended
    · exact Bus.waiting_not_mem_rest left
    · exact absurd (List.eq_of_mem_replicate ended) (by simp)
  · intro distinct e told
    have request : (of acts).requests[i]? = some p.request := by simp [requests, place]
    exact (course.reason told).of_distinct request distinct

/-- Sending and closing interleaved: two requests pass the check while a server listens. The first
is published, and an interim response comes before the server is told to stop. The second subscribes
after every subscription has been ended; its publishing fails, and its subscription is taken back.
-/
def entwined : List Act :=
  [.serve Registry.empty, .listen 0, .begin { id := "a", pattern := .null },
    .begin { id := "b", pattern := .null }, .step 0, .step 1, .step 0, .step 0, .move (.receive 0),
    .respond { id := "a", value := some .null }, .tell 0, .detach, .clear, .step 1, .step 1,
    .move (.stop 0), .reap 0, .step 1]

/-- What the two producers are left with. -/
theorem entwined_producers : (of entwined).producers =
    [⟨{ id := "a", pattern := .null }, some (.done ⟨"a", .following 0⟩), []⟩,
      ⟨{ id := "b", pattern := .null }, some (.done ⟨"b", .failed .noConsumer⟩), []⟩] := rfl

theorem entwined_over : (of entwined).Over := by
  refine ⟨rfl, ?_⟩
  rw [entwined_producers]
  intro p member
  simp only [List.mem_cons, List.not_mem_nil, or_false] at member
  rcases member with rfl | rfl
  · exact Or.inr ⟨_, rfl⟩
  · exact Or.inr ⟨_, rfl⟩

theorem entwined_strands_nobody :
    (of entwined).Over ∧ (of entwined).exchange.bus.pending = [] ∧
      (of entwined).exchange.bus.looks 3 ⟨"a", .following 0⟩ =
        [.item { id := "a", value := some .null }, .failed (.closed "a"), .ended] ∧
      (of entwined).exchange.bus.looks 3 ⟨"b", .failed .noConsumer⟩ =
        [.failed .noConsumer, .ended, .ended] := by
  obtain ⟨nobody, streams⟩ := no_producer_stranded entwined entwined_over
  obtain ⟨_, first, _⟩ := streams 0 _ ⟨"a", .following 0⟩ (by rw [entwined_producers]; rfl) rfl
  obtain ⟨_, second, _⟩ :=
    streams 1 _ ⟨"b", .failed .noConsumer⟩ (by rw [entwined_producers]; rfl) rfl
  exact ⟨entwined_over, nobody, first 3, second 3⟩

end Shutdown
end EventDispatch
