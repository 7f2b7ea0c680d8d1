import EventDispatch.Arithmetic
import EventDispatch.Broker.Stream
import EventDispatch.Service.Handling
/-!
Servers over a bus.

Purpose: a server attaches a consumer and runs a loop that starts one job for each request it
receives; a job publishes its response when it is done. Loops and jobs proceed in any order, one
move at a time. A schedule is a list of moves; `settle` is the schedule that keeps moving, loops
first and jobs in the order of their start, until nothing can move.

A server that has been told to stop stays so: a loop that it starts later ends at once.

Main exports: `Server`, `Job`, `Exchange`, `Move`, `Exchange.move`, `Exchange.listen`,
`Exchange.closeServer`, `Exchange.settle`.
-/

namespace EventDispatch

open scoped Arithmetic

/-- The loop of a server: the channel it receives from, and whether it still runs. -/
structure Loop where
  channel : Nat
  running : Bool := true
deriving DecidableEq, Repr, Inhabited

/-- A server. -/
structure Server where
  registry : Registry
  /-- Told to stop. -/
  stopped : Bool := false
  /-- The loop that was started last, until closing has seen its end. -/
  loop : Option Loop := none
deriving Inhabited

/-- A request that is being handled. -/
structure Job where
  registry : Registry
  request : Request
deriving Inhabited

/-- A bus with the servers over it and the jobs under way. -/
structure Exchange where
  bus : Bus := {}
  servers : List Server := []
  jobs : List Job := []
deriving Inhabited

/-- A move of one loop or one job. -/
inductive Move where
  /-- The loop of a server receives a request and starts a job. -/
  | receive (server : Nat)
  /-- The loop of a server ends. -/
  | stop (server : Nat)
  /-- A job is done. -/
  | finish (job : Nat)
deriving DecidableEq, Repr, Inhabited

namespace Exchange

/-- Adds a server, not yet listening, and tells its number. -/
def addServer (x : Exchange) (g : Registry) : Exchange × Nat :=
  ({ x with servers := x.servers ++ [{ registry := g }] }, x.servers.length)

/-- The loop of a server, if it runs. -/
def runningLoop? (x : Exchange) (n : Nat) : Option (Server × Loop) := do
  let server ← x.servers[n]?
  let loop ← server.loop
  if loop.running then some (server, loop) else none

/-- A server starts its loop as the consumer of the bus, unless it holds a loop already. -/
def listen (x : Exchange) (n : Nat) : Exchange :=
  match x.servers[n]? with
  | none => x
  | some server =>
    if server.loop.isSome then x
    else
      let (bus, channel) := x.bus.attach
      { x with bus, servers := x.servers.set n { server with loop := some { channel } } }

/-- Whether a server holds a loop and the bus has a consumer. -/
def isListening (x : Exchange) (n : Nat) : Bool :=
  x.servers[n]?.any (·.loop.isSome) && x.bus.hasConsumer

/-- The loop of a server ends, and its consumer goes away. -/
def endLoop (x : Exchange) (n : Nat) (server : Server) (loop : Loop) : Exchange :=
  { x with
    bus := x.bus.releaseConsumer loop.channel
    servers := x.servers.set n { server with loop := some { loop with running := false } } }

/-- One move; nothing when it is not possible now. -/
def move (x : Exchange) : Move → Option Exchange
  | .receive n => do
    let (server, loop) ← x.runningLoop? n
    match x.bus.receiveRequest loop.channel with
    | (bus, .item request) =>
      some { x with bus, jobs := x.jobs ++ [⟨server.registry, request⟩] }
    | _ => none
  | .stop n => do
    let (server, loop) ← x.runningLoop? n
    let disconnected := match (x.bus.receiveRequest loop.channel).2 with
      | .disconnected => true
      | _ => false
    if server.stopped || disconnected then some (x.endLoop n server loop) else none
  | .finish n => do
    let job ← x.jobs[n]?
    match job.registry.handle job.request with
    | .answered response =>
      some { x with bus := x.bus.publishResponse response, jobs := x.jobs.eraseIdx n }
    | .lost => some { x with jobs := x.jobs.eraseIdx n }
    | .endless => none

/-- Runs a schedule; moves that are not possible are passed over. -/
def runSchedule (x : Exchange) (moves : List Move) : Exchange :=
  moves.foldl (fun x m => (x.move m).getD x) x

/-- The moves of the loops, each server's end before its next request. -/
def loopMoves (x : Exchange) : List Move :=
  (List.range x.servers.length).flatMap fun n => [.stop n, .receive n]

/-- The moves of the jobs in the order of their start. -/
def jobMoves (x : Exchange) : List Move := (List.range x.jobs.length).map .finish

/-- The first move that is possible: one of a loop, or else one of a job. -/
def nextMove? (x : Exchange) : Option Exchange :=
  (x.loopMoves ++ x.jobMoves).findSome? x.move

/-- Makes at most `fuel` moves. -/
def moveOn : (fuel : Nat) → Exchange → Exchange
  | 0, x => x
  | fuel + 1, x => match x.nextMove? with
    | some y => moveOn fuel y
    | none => x

/-- A bound on the moves that are left: each buffered request is received and then handled, each
job is finished, and each loop ends. -/
def movesLeft (x : Exchange) : Nat :=
  2 * (x.bus.requests.map (·.buffer.length)).sum + x.jobs.length + x.servers.length

/-- Moves on until nothing can move. -/
def settle (x : Exchange) : Exchange := x.moveOn x.movesLeft

/-- Closes a server: it is told to stop, the bus is closed, and the end of its loop is awaited. -/
def closeServer (x : Exchange) (n : Nat) : Exchange :=
  match x.servers[n]? with
  | none => x
  | some server =>
    let server := { server with stopped := true }
    let x := { x with bus := x.bus.close }
    match server.loop with
    | some loop =>
      let bus := if loop.running then x.bus.releaseConsumer loop.channel else x.bus
      { x with bus, servers := x.servers.set n { server with loop := none } }
    | none => { x with servers := x.servers.set n server }

end Exchange
end EventDispatch
