import EventDispatch.Handler.Group
import EventDispatch.Service.Dispatch
/-!
Routers.

Purpose: a router collects registrations, then runs one server with them, and is shut down for good.
Events may be given to it at any time; while it does not run, nobody listens to their requests.

Main exports: `Router`, `Phase`, `RouterError`, `Router.register`, `Router.registerGroup`,
`Router.start`, `Router.shutdown`, `Router.process`.
-/

namespace EventDispatch

/-- The phases in a router's life. -/
inductive Phase where
  | building (registry : Registry)
  | running (server : Nat)
  | stopped
deriving Inhabited

/-- Why a router refuses what it is asked for. -/
inductive RouterError where
  | registry (error : RegistryError)
  | alreadyStarted
  | stopped
deriving DecidableEq, Repr, Inhabited

def RouterError.message : RouterError → String
  | .registry e => "Registration failed: " ++ e.message
  | .alreadyStarted => "Runtime already started, handlers can no longer be registered"
  | .stopped => "Runtime has been shut down"

/-- A router. -/
structure Router where
  settings : MapperSettings := {}
  phase : Phase := .building .empty
  exchange : Exchange := {}
deriving Inhabited

namespace Router

def isRunning (r : Router) : Bool :=
  match r.phase with
  | .running _ => true
  | _ => false

/-- Changes the registry while registrations are collected. -/
def withRegistry {α : Type} (r : Router)
    (change : Registry → Registry × Except RegistryError α) : Router × Except RouterError α :=
  match r.phase with
  | .building registry =>
    let (registry, result) := change registry
    ({ r with phase := .building registry }, result.mapError .registry)
  | .running _ => (r, .error .alreadyStarted)
  | .stopped => (r, .error .stopped)

/-- Registers a handler. -/
def register (r : Router) (pattern : Pattern) (handler : Handler) (kind : HandlerKind)
    (extras : Extras) : Router × Except RouterError Unit :=
  r.withRegistry fun registry => match registry.register pattern handler kind extras with
    | .ok registry => (registry, .ok ())
    | .error e => (registry, .error e)

/-- Registers the handlers of a group, and tells how many there are. -/
def registerGroup (r : Router) (group : Group) : Router × Except RouterError Nat :=
  r.withRegistry group.registerInto

/-- Starts a server with the registrations collected so far. A router that runs stays as it is. -/
def start (r : Router) : Router × Except RouterError Unit :=
  match r.phase with
  | .building registry =>
    let (exchange, server) := r.exchange.addServer registry
    ({ r with phase := .running server, exchange := exchange.listen server }, .ok ())
  | .running _ => (r, .ok ())
  | .stopped => (r, .error .stopped)

/-- Stops the server, if there is one, and closes the bus. -/
def shutdown (r : Router) : Router :=
  match r.phase with
  | .building _ =>
    { r with phase := .stopped, exchange := { r.exchange with bus := r.exchange.bus.close } }
  | .running server =>
    { r with phase := .stopped, exchange := r.exchange.closeServer server }
  | .stopped => r

/-- Processes an event. -/
def process (r : Router) (fresh : Nat → String) (context : Context) (event : Json) :
    Router × Option (Except DispatchError Acknowledgement) :=
  let (exchange, result) := r.exchange.process r.settings fresh context event
  ({ r with exchange }, result)

/-- Attends to events under way. -/
def attend (r : Router) (ds : List Dispatch) : Router × List Dispatch :=
  let (exchange, ds) := r.exchange.attend ds
  ({ r with exchange }, ds)

end Router
end EventDispatch
