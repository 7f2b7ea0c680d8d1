import EventDispatch.Proofs.Broker.OtherUsers
import EventDispatch.Proofs.Service.Scene
/-!
Closing while requests are being sent.

Purpose: producers send their requests step by step, and a broker is closed step by step, with or
without a server that is told to stop first. Servers and other consumers go on in between, responses
are published, and producers look at the streams they got or give them up. From the first step of
closing on nobody attaches a consumer.

A request that is subscribed to holds the stream that it will become, so that everybody's streams
can be seen as those of one broker.

Main exports: `Bus.subscribed`, `Bus.Sends`, `Sending.stepsLeft`, `Exchange.tell`,
`Exchange.reap`, `Exchange.closeServer_eq_steps`, `Producer`, `Shutdown`, `Shutdown.Act`,
`Shutdown.next`, `Shutdown.of`.
-/

namespace EventDispatch

/-- The stream that a request holds from its subscription on. -/
def Sending.held? : Sending → Option Stream
  | .subscribed r n => some ⟨r.id, .following n⟩
  | .refused id n _ => some ⟨id, .following n⟩
  | .done s => some s
  | _ => none

/-- The number of steps that sending may still take. -/
def Sending.stepsLeft : Sending → Nat
  | .begun _ => 4
  | .heard _ => 3
  | .subscribed _ _ => 2
  | .refused _ _ _ => 1
  | .done _ => 0

namespace Bus

/-- The bus with a new channel that is subscribed to an id. -/
def subscribed (b : Bus) (id : String) : Bus :=
  { b with
    pending := b.pending.insert id b.responses.length
    responses := b.responses ++ [{}] }

/-- Every step that sending can take. -/
inductive Sends (b : Bus) : Sending → Bus → Sending → Prop where
  | unheard {r : Request} (deaf : b.hasConsumer = false) :
      Sends b (.begun r) b (.done ⟨r.id, .failed .noConsumer⟩)
  | heard {r : Request} (hears : b.hasConsumer = true) : Sends b (.begun r) b (.heard r)
  | duplicate {r : Request} (taken : (b.pending.find? r.id).any b.responses.attended = true) :
      Sends b (.heard r) b (.done ⟨r.id, .failed (.duplicateRequestId r.id)⟩)
  | subscribed {r : Request} (free : (b.pending.find? r.id).any b.responses.attended = false) :
      Sends b (.heard r) (b.subscribed r.id) (.subscribed r b.responses.length)
  | published {r : Request} {n c : Nat} (attached : b.consumer = some c) :
      Sends b (.subscribed r n) { b with requests := b.requests.send c r }
        (.done ⟨r.id, .following n⟩)
  | refused {r : Request} {n : Nat} :
      Sends b (.subscribed r n) { b with consumer := none } (.refused r.id n .noConsumer)
  | takenBack {id : String} {n : Nat} {e : BrokerError} :
      Sends b (.refused id n e) (b.drop ⟨id, .following n⟩) (.done ⟨id, .failed e⟩)
  | settled {t : Stream} : Sends b (.done t) b (.done t)

theorem sends (b : Bus) (s : Sending) : Sends b s (b.sendStep s).1 (b.sendStep s).2 := by
  cases s with
  | begun r =>
      cases hears : b.hasConsumer with
      | false => simpa [sendStep, hears] using Sends.unheard hears
      | true => simpa [sendStep, hears] using Sends.heard hears
  | heard r =>
      cases taken : (b.pending.find? r.id).any b.responses.attended with
      | true => simpa [sendStep, subscribe, taken] using Sends.duplicate taken
      | false =>
          simpa [sendStep, subscribe, taken, Bus.subscribed] using Sends.subscribed (b := b) taken
  | subscribed r n =>
      cases attached : b.consumer with
      | none =>
          have same : { b with consumer := none } = b := by rw [← attached]
          simpa [sendStep, publishRequest, attached, same] using Sends.refused (b := b) (n := n)
      | some c =>
          cases attended : b.requests.attended c with
          | true =>
              simpa [sendStep, publishRequest, attached, attended] using
                Sends.published (n := n) attached
          | false =>
              simpa [sendStep, publishRequest, attached, attended] using
                Sends.refused (b := b) (n := n)
  | refused id n e =>
      have takenBack := @Sends.takenBack b id n e
      simpa [sendStep, drop] using takenBack
  | done t => exact .settled

/-- Sending never gets stuck: every step brings it closer to its end. -/
theorem Sends.stepsLeft {b d : Bus} {s t : Sending} (step : Sends b s d t) :
    t.stepsLeft ≤ s.stepsLeft - 1 := by
  cases step <;> simp [Sending.stepsLeft]

end Bus

namespace Exchange

variable {x : Exchange}

/-- A server is told to stop: the first step of closing it. -/
def tell (x : Exchange) (n : Nat) : Exchange :=
  match x.servers[n]? with
  | none => x
  | some server => { x with servers := x.servers.set n { server with stopped := true } }

/-- Whoever closes a server has seen the end of its loop: the last step of closing it. -/
def reap (x : Exchange) (n : Nat) : Exchange :=
  match x.servers[n]? with
  | none => x
  | some server =>
    if server.loop.any Loop.running then x
    else { x with servers := x.servers.set n { server with loop := none } }

/-- Closing a server is telling it to stop, closing the bus in two steps, the end of its loop, and
seeing that end, without interruption. -/
theorem closeServer_eq_steps {n : Nat} (present : n < x.servers.length) :
    x.closeServer n =
      let told := x.tell n
      let closed := { told with bus := told.bus.detach.clearPending }
      ((closed.move (.stop n)).getD closed).reap n := by
  have entry := List.getElem?_eq_getElem present
  generalize x.servers[n] = server at entry
  have place : ∀ other : Server, (x.servers.set n other)[n]? = some other := by
    intro other
    simp [present]
  obtain ⟨registry, stopped, loop⟩ := server
  cases loop with
  | none =>
      simp [closeServer, tell, entry, move, runningLoop?, place, reap, Bus.close]
  | some loop =>
      cases running : loop.running with
      | false =>
          simp [closeServer, tell, entry, move, runningLoop?, place, reap, Bus.close, running]
      | true =>
          simp [closeServer, tell, entry, move, runningLoop?, place, reap, Bus.close, running,
            endLoop]

end Exchange

/-- Someone who sends a request. -/
structure Producer where
  request : Request
  /-- How far sending has come; nothing once the stream is given up. -/
  sending : Option Sending
  /-- What looks at the stream have told so far; a look that finds nothing tells nothing. -/
  told : List Poll := []
deriving Inhabited

namespace Producer

/-- The stream that a producer holds, or that its request will become. -/
def stream? (p : Producer) : Option Stream := p.sending.bind Sending.held?

/-- The stream that was handed out to a producer. -/
def handed? (p : Producer) : Option Stream :=
  match p.sending with
  | some (.done s) => some s
  | _ => none

end Producer

/-- What a look at a stream tells. -/
def Poll.told : Poll → List Poll
  | .waiting => []
  | p => [p]

/-- How far closing has come. -/
inductive Stage where
  /-- Closing has not begun. -/
  | running
  /-- A server has been told to stop. -/
  | told
  /-- The consumer is detached. -/
  | detached
  /-- Every subscription has been ended: closing is over for the broker. -/
  | cleared
deriving DecidableEq, Repr, Inhabited

/-- An exchange with those who send requests over it, and the closing of it. -/
structure Shutdown where
  exchange : Exchange := {}
  producers : List Producer := []
  stage : Stage := .running
deriving Inhabited

namespace Shutdown

/-- What can happen. -/
inductive Act where
  /-- A server is added. -/
  | serve (registry : Registry)
  /-- A server begins to listen. -/
  | listen (server : Nat)
  /-- Someone else attaches as the consumer. -/
  | attach
  /-- Someone else looks for a request at its channel. -/
  | receive (channel : Nat)
  /-- Someone else goes away as a consumer. -/
  | leave (channel : Nat)
  | move (move : Move)
  /-- Someone else publishes a response. -/
  | respond (response : Response)
  | begin (request : Request)
  /-- A producer takes its next step of sending. -/
  | step (producer : Nat)
  | look (producer : Nat)
  | giveUp (producer : Nat)
  | tell (server : Nat)
  | detach
  | clear
  | reap (server : Nat)
deriving Inhabited

/-- Something happens at the bus. -/
def withBus (x : Shutdown) (bus : Bus) : Shutdown := { x with exchange := { x.exchange with bus } }

/-- A producer becomes another one, while something happens at the bus. -/
def update (x : Shutdown) (i : Nat) (p : Producer) (bus : Bus) : Shutdown :=
  { x.withBus bus with producers := x.producers.set i p }

/-- A producer takes its next step of sending. -/
def step (x : Shutdown) (i : Nat) (p : Producer) : Shutdown :=
  match p.sending with
  | none => x
  | some s =>
    let (bus, t) := x.exchange.bus.sendStep s
    x.update i { p with sending := some t } bus

/-- A producer looks at its stream. -/
def look (x : Shutdown) (i : Nat) (p : Producer) : Shutdown :=
  match p.handed? with
  | none => x
  | some s =>
    let (bus, t, result) := x.exchange.bus.poll s
    x.update i { p with sending := some (.done t), told := p.told ++ result.told } bus

/-- A producer gives up its stream. -/
def giveUp (x : Shutdown) (i : Nat) (p : Producer) : Shutdown :=
  match p.handed? with
  | none => x
  | some s => x.update i { p with sending := none } (x.exchange.bus.drop s)

/-- What follows an act; an act that is not possible now is passed over. Nobody attaches a consumer
once closing has begun, and the steps of closing are taken in order. -/
def next (x : Shutdown) : Act → Shutdown
  | .serve g => { x with exchange := (x.exchange.addServer g).1 }
  | .listen n => if x.stage = .running then { x with exchange := x.exchange.listen n } else x
  | .attach => if x.stage = .running then x.withBus x.exchange.bus.attach.1 else x
  | .receive c =>
    if x.exchange.owns c then x else x.withBus (x.exchange.bus.receiveRequest c).1
  | .leave c => if x.exchange.owns c then x else x.withBus (x.exchange.bus.releaseConsumer c)
  | .move m => { x with exchange := (x.exchange.move m).getD x.exchange }
  | .respond r => x.withBus (x.exchange.bus.publishResponse r)
  | .begin r => { x with producers := x.producers ++ [⟨r, some (.begun r), []⟩] }
  | .step i => (x.producers[i]?).elim x (x.step i)
  | .look i => (x.producers[i]?).elim x (x.look i)
  | .giveUp i => (x.producers[i]?).elim x (x.giveUp i)
  | .tell n =>
    if x.stage = .running then { x with exchange := x.exchange.tell n, stage := .told } else x
  | .detach =>
    if x.stage = .running ∨ x.stage = .told then
      { x.withBus x.exchange.bus.detach with stage := .detached }
    else x
  | .clear =>
    if x.stage = .detached then { x.withBus x.exchange.bus.clearPending with stage := .cleared }
    else x
  | .reap n => if x.stage = .cleared then { x with exchange := x.exchange.reap n } else x

/-- What acts in order lead to, from an exchange with nobody in it. -/
def of (acts : List Act) : Shutdown := acts.foldl next {}

/-- The broker with the streams that producers hold, or that their requests will become. -/
def broker (x : Shutdown) : Broker := ⟨x.exchange.bus, x.producers.map Producer.stream?⟩

/-- Closing is over for the broker, and no producer is still sending. -/
def Over (x : Shutdown) : Prop :=
  x.stage = .cleared ∧ ∀ p ∈ x.producers, p.sending = none ∨ ∃ s, p.handed? = some s

end Shutdown

namespace Broker.Sound

variable {bus d : Bus} {streams : List (Option Stream)} {i : Nat} {s t : Sending}

/-- An empty place may be taken by a finished stream. -/
theorem refuse_at (sound : Sound ⟨bus, streams⟩) (empty : streams[i]? = some none) {u : Stream}
    (finished : u.unfinished = false) : Sound ⟨bus, streams.set i (some u)⟩ :=
  handed_to (sound.refuse finished) empty

/-- A subscription is handed to an empty place. -/
theorem subscribe_at (sound : Sound ⟨bus, streams⟩) (empty : streams[i]? = some none) {id : String}
    (free : (bus.pending.find? id).any bus.responses.attended = false) :
    Sound ⟨bus.subscribed id, streams.set i (some ⟨id, .following bus.responses.length⟩)⟩ := by
  have accepted := sound.accept (r := { id, pattern := .null }) 0 free
  have subscribed : Sound ⟨bus.subscribed id,
      streams ++ [some ⟨id, .following bus.responses.length⟩]⟩ :=
    accepted.of_subscribers_eq rfl rfl
  exact handed_to subscribed empty

/-- Every step of sending keeps the subscriptions in order. -/
theorem sends (sound : Sound ⟨bus, streams⟩) (place : streams[i]? = some s.held?)
    (step : Bus.Sends bus s d t) : Sound ⟨d, streams.set i t.held?⟩ := by
  have unchanged : Sound ⟨bus, streams.set i s.held?⟩ := by
    rw [set_same place]
    exact sound
  cases step with
  | unheard => exact sound.refuse_at place rfl
  | heard => exact unchanged
  | duplicate => exact sound.refuse_at place rfl
  | subscribed free => exact sound.subscribe_at place free
  | published => exact unchanged.of_subscribers_eq rfl rfl
  | refused => exact unchanged.of_subscribers_eq rfl rfl
  | @takenBack id n e =>
      have live : stream? ⟨bus, streams⟩ i = some ⟨id, .following n⟩ :=
        stream?_eq_some_iff.mpr place
      have empty : (streams.set i none)[i]? = some none := by
        rw [List.getElem?_set_self (lt_length_of_stream? live)]
      have refused := (sound.drop live).refuse_at empty (u := ⟨id, .failed e⟩) rfl
      rw [List.set_set] at refused
      exact refused
  | settled => exact unchanged

/-- No step of sending gives a subscription to a stream that was there and had none. -/
theorem serves_of_sends (sound : Sound ⟨bus, streams⟩) (step : Bus.Sends bus s d t) {k : Nat}
    {u : Stream} (live : stream? ⟨bus, streams⟩ k = some u) (served : d.serves u = true) :
    bus.serves u = true := by
  cases step with
  | unheard => exact served
  | heard => exact served
  | duplicate => exact served
  | @subscribed r free =>
      have same : (bus.accept 0 r).serves u = bus.serves u := sound.serves_accept live free
      exact same.symm.trans served
  | published => exact served
  | refused => exact served
  | takenBack =>
      rw [serves_drop ⟨bus, streams⟩, Bool.and_eq_true] at served
      exact served.1
  | settled => exact served

end Broker.Sound
end EventDispatch
