import EventDispatch.Broker.Bus
/-!
Sending requests and following their responses.

Purpose: a request is sent in steps, which other parties may interleave with theirs: look for a
consumer, subscribe to the id, publish, and take the subscription back if publishing failed. What
the sender holds afterwards is a stream of responses, and whoever waits for the answer folds the
stream into an outcome.

Main exports: `Stream`, `Sending`, `Bus.sendStep`, `Bus.send`, `Bus.poll`, `Bus.drop`, `Waiter`,
`Bus.await`.
-/

namespace EventDispatch

/-- How far a stream of responses has come. -/
inductive StreamState where
  /-- Nothing was sent; the failure is still to be told. -/
  | failed (error : BrokerError)
  /-- Responses arrive through a channel. -/
  | following (channel : Nat)
  | ended
deriving DecidableEq, Repr, Inhabited

/-- The responses to one request. -/
structure Stream where
  id : String
  state : StreamState
deriving DecidableEq, Repr, Inhabited

/-- What a look at a stream gives. -/
inductive Poll where
  | item (response : Response)
  | failed (error : BrokerError)
  | waiting
  | ended
deriving Repr, Inhabited

/-- A request on its way into the bus. -/
inductive Sending where
  /-- Nothing has been done. -/
  | begun (request : Request)
  /-- A consumer was there. -/
  | heard (request : Request)
  /-- The id is subscribed to. -/
  | subscribed (request : Request) (channel : Nat)
  /-- Publishing failed; the subscription is still to be taken back. -/
  | refused (id : String) (channel : Nat) (error : BrokerError)
  | done (stream : Stream)
deriving Repr, Inhabited

namespace Bus

/-- One step of sending a request. -/
def sendStep (b : Bus) : Sending → Bus × Sending
  | .begun r =>
    if b.hasConsumer then (b, .heard r) else (b, .done ⟨r.id, .failed .noConsumer⟩)
  | .heard r => match b.subscribe r.id with
    | (b, .ok n) => (b, .subscribed r n)
    | (b, .error e) => (b, .done ⟨r.id, .failed e⟩)
  | .subscribed r n => match b.publishRequest r with
    | (b, .ok _) => (b, .done ⟨r.id, .following n⟩)
    | (b, .error e) => (b, .refused r.id n e)
  | .refused id n e => ((b.unsubscribe id).releaseSubscriber n, .done ⟨id, .failed e⟩)
  | .done s => (b, .done s)

/-- The stream of a request that has gone all its steps. -/
def Sending.stream : Sending → Stream
  | .done s => s
  | .begun r => ⟨r.id, .ended⟩
  | .heard r => ⟨r.id, .ended⟩
  | .subscribed r _ => ⟨r.id, .ended⟩
  | .refused id _ _ => ⟨id, .ended⟩

/-- Sends a request without interruption: four steps are enough. -/
def send (b : Bus) (r : Request) : Bus × Stream :=
  let (b, s) := b.sendStep (.begun r)
  let (b, s) := b.sendStep s
  let (b, s) := b.sendStep s
  let (b, s) := b.sendStep s
  (b, Sending.stream s)

/-- Looks at a stream once. A terminal response ends the stream, and so does a failure. -/
def poll (b : Bus) (s : Stream) : Bus × Stream × Poll :=
  match s.state with
  | .failed e => (b, { s with state := .ended }, .failed e)
  | .ended => (b, s, .ended)
  | .following n => match b.receiveResponse n with
    | (b, .item r) =>
      if r.terminal then (b.releaseSubscriber n, { s with state := .ended }, .item r)
      else (b, s, .item r)
    | (b, .empty) => (b, s, .waiting)
    | (b, .disconnected) =>
      (b.releaseSubscriber n, { s with state := .ended }, .failed (.closed s.id))

/-- Gives up a stream. One that still follows its responses ends the subscription to its id. -/
def drop (b : Bus) (s : Stream) : Bus :=
  match s.state with
  | .following n => (b.unsubscribe s.id).releaseSubscriber n
  | _ => b

end Bus

/-- Someone who waits for the answer to a request, with the last value that arrived. -/
structure Waiter where
  stream : Stream
  last : Json := .null
deriving Repr, Inhabited

namespace Bus

/-- Follows a stream as far as it goes now. The outcome is the first error that arrives, or the last
value once a terminal response is there; the stream is given up with it. -/
def follow : (fuel : Nat) → Bus → Waiter → Bus × Except Waiter Outcome
  | 0, b, w => (b, .error w)
  | fuel + 1, b, w => match b.poll w.stream with
    | (b, stream, .waiting) => (b, .error { w with stream })
    | (b, stream, .failed e) => (b.drop stream, .ok (.error ⟨stream.id, .broker e⟩))
    | (b, stream, .ended) => (b.drop stream, .ok (.error ⟨stream.id, .broker (.closed stream.id)⟩))
    | (b, stream, .item r) => match r.error with
      | some e => (b.drop stream, .ok (.error ⟨stream.id, .remote e⟩))
      | none =>
        let last := r.value.getD w.last
        if r.terminal then (b.drop stream, .ok (.ok last)) else follow fuel b ⟨stream, last⟩

/-- The number of responses that wait in a stream's channel. -/
def buffered (b : Bus) (s : Stream) : Nat :=
  match s.state with
  | .following n => (b.responses[n]?.map (·.buffer.length)).getD 0
  | _ => 0

/-- Waits for an outcome: the outcome if it is there, or the waiter as it waits on. -/
def await (b : Bus) (w : Waiter) : Bus × Except Waiter Outcome :=
  b.follow (b.buffered w.stream + 1) w

end Bus
end EventDispatch
