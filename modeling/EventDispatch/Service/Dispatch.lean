import EventDispatch.Service.Exchange
import EventDispatch.Trigger.Mapping
/-!
Dispatching events over an exchange.

Purpose: the requests of an event are pursued side by side. A pursuit is looked at again and again:
the first look sends its request, every look follows the responses as far as they have come, and
once there is an outcome further looks change nothing. Looks and the moves of the exchange take
turns in any order. When every pursuit has its outcome, the outcomes are acknowledged in the order
of the requests. An event that cannot be mapped touches nothing.

Main exports: `Pursuit`, `Exchange.look`, `Turn`, `Exchange.runTurns`, `Dispatch`,
`MapperSettings.dispatch`, `Exchange.sendAll`, `Exchange.attend`, `Exchange.process`.
-/

namespace EventDispatch

/-- How far a request has come for the one who sends it. -/
inductive Progress where
  | unsent
  | waiting (waiter : Waiter)
  | settled (outcome : Outcome)
deriving Inhabited

/-- A request on the way to its outcome. -/
structure Pursuit where
  request : Request
  progress : Progress := .unsent
deriving Inhabited

namespace Pursuit

/-- The request with its outcome, once there is one. -/
def settled? (p : Pursuit) : Option Settled :=
  match p.progress with
  | .settled outcome => some ⟨p.request, outcome⟩
  | _ => none

/-- The requests with their outcomes in order, once all have one. -/
def allSettled? : List Pursuit → Option (List Settled)
  | [] => some []
  | p :: ps => do
    let s ← p.settled?
    let rest ← allSettled? ps
    return s :: rest

end Pursuit

namespace Exchange

/-- Follows the responses to a request as far as they have come. -/
def follow (x : Exchange) (request : Request) (waiter : Waiter) : Exchange × Pursuit :=
  match x.bus.await waiter with
  | (bus, .ok outcome) => ({ x with bus }, ⟨request, .settled outcome⟩)
  | (bus, .error waiter) => ({ x with bus }, ⟨request, .waiting waiter⟩)

/-- Looks at a pursuit. -/
def look (x : Exchange) (p : Pursuit) : Exchange × Pursuit :=
  match p.progress with
  | .unsent =>
    let (bus, stream) := x.bus.send p.request
    { x with bus }.follow p.request { stream }
  | .waiting waiter => x.follow p.request waiter
  | .settled _ => (x, p)

/-- Gives up a pursuit. -/
def abandon (x : Exchange) (p : Pursuit) : Exchange :=
  match p.progress with
  | .waiting waiter => { x with bus := x.bus.drop waiter.stream }
  | _ => x

/-- Gives up pursuits in order. -/
def abandonAll (x : Exchange) (ps : List Pursuit) : Exchange := ps.foldl abandon x

end Exchange

/-- What happens next: a move of the exchange, or a look at one of the pursuits. -/
inductive Turn where
  | move (move : Move)
  | look (pursuit : Nat)
deriving DecidableEq, Repr, Inhabited

namespace Exchange

/-- One turn; a move that is not possible now is passed over. -/
def turn (state : Exchange × List Pursuit) : Turn → Exchange × List Pursuit
  | .move m => ((state.1.move m).getD state.1, state.2)
  | .look n => match state.2[n]? with
    | none => state
    | some p =>
      let (x, p) := state.1.look p
      (x, state.2.set n p)

/-- Turns one after another. -/
def runTurns (state : Exchange × List Pursuit) (turns : List Turn) : Exchange × List Pursuit :=
  turns.foldl turn state

/-- Looks at every pursuit once, in order. -/
def lookAll (x : Exchange) (ps : List Pursuit) : Exchange × List Pursuit :=
  runTurns (x, ps) ((List.range ps.length).map .look)

/-- Looks at every pursuit, moves on until nothing can move, and looks again. -/
def advance (x : Exchange) (ps : List Pursuit) : Exchange × List Pursuit :=
  let (x, ps) := x.lookAll ps
  x.settle.lookAll ps

/-- Sends requests and goes on until every one has its outcome or waits in vain; a request that
waits in vain is given up. -/
def sendAll (x : Exchange) (requests : List Request) : Exchange × List Pursuit :=
  let (x, ps) := x.advance (requests.map fun r => { request := r })
  (x.abandonAll ps, ps)

end Exchange

/-- Why an event comes to no acknowledgement. -/
inductive DispatchError where
  | mapping (error : MappingError)
  | correlation (error : CorrelationError)
deriving Inhabited

def DispatchError.message : DispatchError → String
  | .mapping e => e.message
  | .correlation e => e.message

/-- An event under way. -/
structure Dispatch where
  responder : Responder
  pursuits : List Pursuit
deriving Inhabited

namespace Dispatch

/-- The acknowledgement or the error, once every request has its outcome. -/
def result? (d : Dispatch) : Option (Except DispatchError Acknowledgement) :=
  (Pursuit.allSettled? d.pursuits).map fun settled =>
    (d.responder.acknowledge settled).mapError .correlation

end Dispatch

/-- An event with all its requests still unsent. -/
def MapperSettings.dispatch (settings : MapperSettings) (fresh : Nat → String) (context : Context)
    (event : Json) : Except DispatchError Dispatch :=
  match settings.map fresh context event with
  | .ok mapped => .ok ⟨mapped.responder, mapped.requests.map fun r => { request := r }⟩
  | .error e => .error (.mapping e)

namespace Exchange

/-- Looks at all pursuits of events under way, in order. -/
def lookAllOf (x : Exchange) : List Dispatch → Exchange × List Dispatch
  | [] => (x, [])
  | d :: ds =>
    let (x, pursuits) := x.lookAll d.pursuits
    let (x, ds) := x.lookAllOf ds
    (x, { d with pursuits } :: ds)

/-- Looks at all events under way, moves on until nothing can move, and looks again. -/
def attend (x : Exchange) (ds : List Dispatch) : Exchange × List Dispatch :=
  let (x, ds) := x.lookAllOf ds
  x.settle.lookAllOf ds

/-- Dispatches an event until it is acknowledged or some request waits in vain, in which case there
is no result and what waits is given up. -/
def process (x : Exchange) (settings : MapperSettings) (fresh : Nat → String) (context : Context)
    (event : Json) : Exchange × Option (Except DispatchError Acknowledgement) :=
  match settings.dispatch fresh context event with
  | .error e => (x, some (.error e))
  | .ok d =>
    let (x, pursuits) := x.advance d.pursuits
    (x.abandonAll pursuits, { d with pursuits }.result?)

end Exchange
end EventDispatch
