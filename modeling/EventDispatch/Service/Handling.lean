import EventDispatch.Handler.Registry
/-!
Handling one request.

Purpose: the response that a request comes to. A request that no handler answers, or that only an
event handler takes, is answered without calling any handler. A crash while a handler runs is
answered as an internal error, which says nothing of it; a crash on the call itself, or in the
search for the handler, takes the whole handling down, and a run without end never comes to a
response.

Main exports: `Handling`, `Registry.handle`.
-/

namespace EventDispatch

/-- What handling a request comes to. -/
inductive Handling where
  | answered (response : Response)
  /-- The handling itself crashed; there is no response. -/
  | lost
  /-- The handler runs on for ever. -/
  | endless
deriving Repr, Inhabited

/-- What a call of the selected handler comes to. -/
def Run.handling (id : String) : Run → Handling
  | .replied v => .answered (.reply id v)
  | .failed e => .answered (.failure id e.response)
  | .answered e => .answered (.failure id e)
  | .crashed _ => .answered (.failure id .internal)
  | .crashedOnCall _ => .lost
  | .endless => .endless

/-- Resolves a request and calls the handler. -/
def Registry.handle (g : Registry) (request : Request) : Handling :=
  match (g.resolve request.pattern).result? with
  | some (.error e) => .answered (.failure request.id e)
  | some (.ok r) => (r.handler request).handling request.id
  | none => .lost

end EventDispatch
