import EventDispatch.Proofs.Broker.Bus
/-!
Runs of a broker.

Purpose: a broker is a bus with the streams that were handed out over it. Whoever uses it acts in
any order: consumers attach, receive and leave, requests are sent, responses are published, streams
are looked at and given up, the broker is closed. A run keeps a log of what was seen to happen, and
what a stream is owed is read off the log alone.

Main exports: `Broker`, `Broker.Action`, `Broker.Event`, `Broker.act`, `Broker.Run`,
`Broker.Log.subscription`, `Broker.Log.owed`, `Broker.Log.yielded`.
-/

namespace EventDispatch

namespace Bus

/-- Whether responses to a stream's id go to the stream. -/
def serves (b : Bus) (s : Stream) : Bool :=
  match s.state with
  | .following c => b.pending.find? s.id == some c
  | _ => false

/-- The responses that reached a stream and were not yet taken from it. -/
def unread (b : Bus) (s : Stream) : List Response :=
  match s.state with
  | .following c => b.responses.waiting c
  | _ => []

end Bus

/-- The response that a look gave, if it gave one. -/
def Poll.response? : Poll → Option Response
  | .item r => some r
  | _ => none

/-- A bus with the streams handed out over it, in the order of their requests. A stream that was
given up leaves its place empty. -/
structure Broker where
  bus : Bus := {}
  streams : List (Option Stream) := []
deriving Repr, Inhabited

namespace Broker

/-- An action of someone who uses the broker. Consumers are known by their channels and streams by
their places. -/
inductive Action where
  | listen
  | receive (consumer : Nat)
  | leave (consumer : Nat)
  | send (request : Request)
  | respond (response : Response)
  | close
  | poll (stream : Nat)
  | drop (stream : Nat)
deriving Repr, Inhabited

/-- What is seen to happen on an action. -/
inductive Event where
  | attached (consumer : Nat)
  | received (consumer : Nat) (got : Received Request)
  | left (consumer : Nat)
  | accepted (stream : Nat) (request : Request)
  | refused (stream : Nat) (request : Request) (error : BrokerError)
  | published (response : Response)
  | closed
  | looked (stream : Nat) (result : Poll)
  /-- An unfinished stream was given up, which unsubscribes its id. -/
  | released (stream : Nat) (id : String)
  /-- A finished stream was given up. -/
  | discarded (stream : Nat)
  /-- There was no such stream. -/
  | nothing
deriving Repr, Inhabited

/-- The stream at a place. -/
def stream? (b : Broker) (n : Nat) : Option Stream := b.streams[n]?.join

/-- What sending a request is seen to come to. -/
def sent (n : Nat) (r : Request) (s : Stream) : Event :=
  match s.state with
  | .failed e => .refused n r e
  | _ => .accepted n r

/-- One action, with what is seen of it. -/
def act (b : Broker) : Action → Broker × Event
  | .listen => ({ b with bus := b.bus.attach.1 }, .attached b.bus.attach.2)
  | .receive c =>
    ({ b with bus := (b.bus.receiveRequest c).1 }, .received c (b.bus.receiveRequest c).2)
  | .leave c => ({ b with bus := b.bus.releaseConsumer c }, .left c)
  | .send r =>
    ({ bus := (b.bus.send r).1, streams := b.streams ++ [some (b.bus.send r).2] },
      sent b.streams.length r (b.bus.send r).2)
  | .respond r => ({ b with bus := b.bus.publishResponse r }, .published r)
  | .close => ({ b with bus := b.bus.close }, .closed)
  | .poll n => match b.stream? n with
    | some s =>
      ({ bus := (b.bus.poll s).1, streams := b.streams.set n (some (b.bus.poll s).2.1) },
        .looked n (b.bus.poll s).2.2)
    | none => (b, .nothing)
  | .drop n => match b.stream? n with
    | some s =>
      ({ bus := b.bus.drop s, streams := b.streams.set n none },
        if s.unfinished then .released n s.id else .discarded n)
    | none => (b, .nothing)

/-- What was seen to happen, the latest first. The moment of an event is the number of events
before it. -/
abbrev Log := List Event

namespace Log

/-- The event of a moment. -/
def event? (log : Log) (moment : Nat) : Option Event := log.reverse[moment]?

/-- The request for which a stream was handed out. -/
def request? (n : Nat) : Log → Option Request
  | [] => none
  | .accepted m r :: log => if m = n then some r else request? n log
  | .refused m r _ :: log => if m = n then some r else request? n log
  | _ :: log => request? n log

/-- The id to which a stream is subscribed: from the acceptance of its request, until a terminal
response for the id is published, the id is unsubscribed, or the broker is closed. -/
def subscription (n : Nat) : Log → Option String
  | [] => none
  | .accepted m r :: log => if m = n then some r.id else subscription n log
  | .published r :: log =>
    if r.terminal ∧ subscription n log = some r.id then none else subscription n log
  | .released _ id :: log => if subscription n log = some id then none else subscription n log
  | .closed :: _ => none
  | _ :: log => subscription n log

/-- The responses published for a stream while it was subscribed to their id, each with its moment,
oldest first. -/
def owed (n : Nat) : Log → List (Nat × Response)
  | [] => []
  | .published r :: log =>
    if subscription n log = some r.id then owed n log ++ [(log.length, r)] else owed n log
  | _ :: log => owed n log

/-- The responses that a stream has yielded, oldest first. -/
def yielded (n : Nat) : Log → List Response
  | [] => []
  | .looked m p :: log => if m = n then yielded n log ++ p.response?.toList else yielded n log
  | _ :: log => yielded n log

end Log

/-- A broker with the log of what happened so far. -/
structure Run where
  broker : Broker := {}
  log : Log := []
deriving Inhabited

namespace Run

/-- A run goes on by one action. -/
def next (r : Run) (a : Action) : Run := ⟨(r.broker.act a).1, (r.broker.act a).2 :: r.log⟩

/-- A run goes on by actions in order. -/
def extend (r : Run) (actions : List Action) : Run := actions.foldl next r

/-- The run of actions from the start. -/
def of (actions : List Action) : Run := extend {} actions

@[simp] theorem extend_cons (r : Run) (a : Action) (actions : List Action) :
    r.extend (a :: actions) = (r.next a).extend actions := rfl

/-- What holds at the start and is kept by every action holds of every run. -/
theorem of_induction {P : Run → Prop} (start : P {}) (step : ∀ r a, P r → P (r.next a))
    (actions : List Action) : P (of actions) := by
  suffices extended : ∀ r, P r → P (extend r actions) from extended {} start
  induction actions with
  | nil =>
      intro r holds
      exact holds
  | cons a rest inductionHypothesis =>
      intro r holds
      exact inductionHypothesis (r.next a) (step r a holds)

end Run

/-! ### Places of streams -/

theorem stream?_eq_some_iff {b : Broker} {n : Nat} {s : Stream} :
    b.stream? n = some s ↔ b.streams[n]? = some (some s) := by
  simp [stream?, Option.join_eq_some_iff]

theorem lt_length_of_stream? {b : Broker} {n : Nat} {s : Stream}
    (live : b.stream? n = some s) : n < b.streams.length :=
  (List.getElem?_eq_some_iff.mp (stream?_eq_some_iff.mp live)).1

/-- The streams after the one at a place became another, or was given up. -/
theorem stream?_set {b : Broker} {n : Nat} (bus : Bus) (inRange : n < b.streams.length)
    (entry : Option Stream) (m : Nat) :
    stream? ⟨bus, b.streams.set n entry⟩ m = if m = n then entry else b.stream? m := by
  unfold stream?
  rw [List.getElem?_set]
  by_cases same : m = n
  · subst same
    simp [inRange]
  · have differs : ¬ n = m := fun equal => same equal.symm
    simp [same, differs]

/-- A stream that is there after one became another is that other one, or was there before. -/
theorem of_stream?_set {b : Broker} {n m : Nat} {bus : Bus} {s t : Stream}
    (inRange : n < b.streams.length)
    (live : stream? ⟨bus, b.streams.set n (some s)⟩ m = some t) :
    (m = n ∧ t = s) ∨ (n ≠ m ∧ b.stream? m = some t) := by
  rw [stream?_set bus inRange] at live
  split at live
  · rename_i place
    exact Or.inl ⟨place, (Option.some.inj live).symm⟩
  · rename_i place
    exact Or.inr ⟨fun equal => place equal.symm, live⟩

/-- A stream that is there after another one was given up was there before. -/
theorem of_stream?_set_none {b : Broker} {n m : Nat} {bus : Bus} {t : Stream}
    (inRange : n < b.streams.length)
    (live : stream? ⟨bus, b.streams.set n none⟩ m = some t) : n ≠ m ∧ b.stream? m = some t := by
  rw [stream?_set bus inRange] at live
  split at live
  · exact absurd live (by simp)
  · rename_i place
    exact ⟨fun equal => place equal.symm, live⟩

/-- Putting an entry of a list back where it stands changes nothing. -/
theorem set_same {α : Type} {entries : List α} {n : Nat} {entry : α}
    (place : entries[n]? = some entry) : entries.set n entry = entries := by
  obtain ⟨inRange, there⟩ := List.getElem?_eq_some_iff.mp place
  rw [← there]
  exact List.set_getElem_self inRange

/-- Nothing that is said of the entries changes with an entry of which the same is said. -/
theorem map_set_same {α β : Type} {entries : List α} {say : α → β} {n : Nat} {entry new : α}
    (place : entries[n]? = some entry) (same : say new = say entry) :
    (entries.set n new).map say = entries.map say := by
  rw [List.map_set, same]
  apply set_same
  rw [List.getElem?_map, place, Option.map_some]

/-- Putting back a stream changes nothing. -/
theorem set_stream? {b : Broker} {n : Nat} {s : Stream} (live : b.stream? n = some s) :
    b.streams.set n (some s) = b.streams :=
  set_same (stream?_eq_some_iff.mp live)

/-- The streams after one more was handed out. -/
theorem stream?_append (b : Broker) (bus : Bus) (s : Stream) (m : Nat) :
    stream? ⟨bus, b.streams ++ [some s]⟩ m
      = if m = b.streams.length then some s else b.stream? m := by
  unfold stream?
  rcases Nat.lt_trichotomy m b.streams.length with below | same | above
  · simp [List.getElem?_append_left below, Nat.ne_of_lt below]
  · subst same
    simp
  · rw [List.getElem?_eq_none (by simp; omega), List.getElem?_eq_none (by omega)]
    simp [Nat.ne_of_gt above]

/-- A stream that is there after one more was handed out is that one, or was there before. -/
theorem of_stream?_append {b : Broker} {bus : Bus} {s t : Stream} {m : Nat}
    (live : stream? ⟨bus, b.streams ++ [some s]⟩ m = some t) :
    (m = b.streams.length ∧ t = s) ∨ (b.streams.length ≠ m ∧ b.stream? m = some t) := by
  rw [stream?_append] at live
  split at live
  · rename_i place
    exact Or.inl ⟨place, (Option.some.inj live).symm⟩
  · rename_i place
    exact Or.inr ⟨fun equal => place equal.symm, live⟩

end Broker
end EventDispatch
