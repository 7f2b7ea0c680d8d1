import EventDispatch.Message.Packet
/-!
The bus.

Purpose: requests travel to the one attached consumer, responses to the subscriber of their id. Both
travel through channels that keep what has been sent until it is received. The bus holds the sending
ends: that of the consumer's channel, and for each pending id that of its subscriber's channel. A
channel that the bus no longer holds is disconnected once its buffer is empty.

Main exports: `Channel`, `Received`, `Bus`, `Bus.publishRequest`, `Bus.publishResponse`,
`Bus.attach`, `Bus.subscribe`, `Bus.unsubscribe`, `Bus.close`.
-/

namespace EventDispatch

/-- A channel: what was sent and not yet received, and whether its receiving end still exists. -/
structure Channel (α : Type) where
  buffer : List α := []
  attended : Bool := true
deriving Repr, Inhabited

/-- The outcome of looking for a packet at the receiving end of a channel. -/
inductive Received (α : Type) where
  | item (packet : α)
  | empty
  | disconnected
deriving Repr, Inhabited

/-- Channels, each known by its number. -/
abbrev Channels (α : Type) := List (Channel α)

namespace Channels

variable {α : Type}

/-- Whether the receiving end of a channel exists. -/
def attended (cs : Channels α) (n : Nat) : Bool := cs[n]?.any Channel.attended

/-- Appends a packet to a channel's buffer. -/
def send (cs : Channels α) (n : Nat) (x : α) : Channels α :=
  cs.modify n fun c => { c with buffer := c.buffer ++ [x] }

/-- Gives up the receiving end of a channel, and what is left in its buffer. -/
def release (cs : Channels α) (n : Nat) : Channels α :=
  cs.modify n fun _ => { buffer := [], attended := false }

/-- Takes the oldest packet of a channel whose sending end is held or not. -/
def receive (cs : Channels α) (n : Nat) (held : Bool) : Channels α × Received α :=
  match cs[n]?.map Channel.buffer with
  | some (x :: xs) => (cs.modify n fun c => { c with buffer := xs }, .item x)
  | _ => (cs, if held then .empty else .disconnected)

end Channels

/-- The state of a bus. -/
structure Bus where
  /-- The channel of the attached consumer. -/
  consumer : Option Nat := none
  /-- The ids that await responses, with the channels of their subscribers. -/
  pending : Fields Nat := []
  requests : Channels Request := []
  responses : Channels Response := []
deriving Repr, Inhabited

namespace Bus

/-- The number of ids that await responses. -/
def pendingCount (b : Bus) : Nat := b.pending.length

/-- Whether a consumer is attached and still there. -/
def hasConsumer (b : Bus) : Bool := b.consumer.any b.requests.attended

/-- Hands a request to the consumer. A consumer that has gone is detached. -/
def publishRequest (b : Bus) (r : Request) : Bus × Except BrokerError Unit :=
  match b.consumer with
  | none => (b, .error .noConsumer)
  | some n =>
    if b.requests.attended n then ({ b with requests := b.requests.send n r }, .ok ())
    else ({ b with consumer := none }, .error .noConsumer)

/-- Hands a response to the subscriber of its id. A terminal response ends the subscription, and so
does a subscriber that has gone. A response that nobody awaits is lost. -/
def publishResponse (b : Bus) (r : Response) : Bus :=
  match b.pending.find? r.id with
  | none => b
  | some n =>
    let attended := b.responses.attended n
    { b with
      responses := if attended then b.responses.send n r else b.responses
      pending := if r.terminal || !attended then b.pending.erase r.id else b.pending }

/-- Attaches a new consumer in place of any other, and tells its channel. -/
def attach (b : Bus) : Bus × Nat :=
  ({ b with consumer := some b.requests.length, requests := b.requests ++ [{}] },
    b.requests.length)

/-- Subscribes to the responses for an id, and tells the channel. An id with a subscriber that is
still there is refused. -/
def subscribe (b : Bus) (id : String) : Bus × Except BrokerError Nat :=
  if (b.pending.find? id).any b.responses.attended then (b, .error (.duplicateRequestId id))
  else
    ({ b with
        pending := b.pending.insert id b.responses.length
        responses := b.responses ++ [{}] },
      .ok b.responses.length)

/-- Ends the subscription to an id, whoever holds it. -/
def unsubscribe (b : Bus) (id : String) : Bus := { b with pending := b.pending.erase id }

/-- Detaches the consumer: the first half of closing. -/
def detach (b : Bus) : Bus := { b with consumer := none }

/-- Ends every subscription: the second half of closing. -/
def clearPending (b : Bus) : Bus := { b with pending := [] }

/-- Detaches the consumer and ends every subscription. -/
def close (b : Bus) : Bus := b.detach.clearPending

/-- Whether the bus holds the sending end of a subscriber's channel. -/
def subscriberHeld (b : Bus) (n : Nat) : Bool := b.pending.any (·.2 == n)

/-- Looks for a request at a consumer's end. -/
def receiveRequest (b : Bus) (n : Nat) : Bus × Received Request :=
  let (requests, got) := b.requests.receive n (b.consumer == some n)
  ({ b with requests }, got)

/-- Looks for a response at a subscriber's end. -/
def receiveResponse (b : Bus) (n : Nat) : Bus × Received Response :=
  let (responses, got) := b.responses.receive n (b.subscriberHeld n)
  ({ b with responses }, got)

/-- A consumer goes away. -/
def releaseConsumer (b : Bus) (n : Nat) : Bus := { b with requests := b.requests.release n }

/-- A subscriber goes away. -/
def releaseSubscriber (b : Bus) (n : Nat) : Bus := { b with responses := b.responses.release n }

end Bus
end EventDispatch
