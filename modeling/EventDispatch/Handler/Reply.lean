import EventDispatch.Handler.Basic
/-!
Replies of handlers.

Purpose: a handler is made of a function or of a service. A function takes the payload of its
request as a value of some type and gives back a value, perhaps under several layers: the value may
be absent, and an error may stand in its place. A service gives a reply or an error. Errors are of
the handler's own, or mere texts, which are meant for the caller, or come from elsewhere; those, and
values that cannot be written as JSON, are internal failures.

Main exports: `ErrorOrigin`, `Returned`, `Returned.reply`, `Handler.payload`, `Handler.ofFunction`,
`Handler.ofService`.
-/

namespace EventDispatch

/-- Where an error of a function or a service comes from. -/
inductive ErrorOrigin where
  | own (error : HandlerError)
  | text (message : String)
  | elsewhere (message : String)
  /-- A value could not be written as JSON. -/
  | unwritable (message : String)
deriving Repr, Inhabited

/-- The error of a handler for an error of any origin. -/
def HandlerError.ofOrigin : ErrorOrigin → HandlerError
  | .own e => e
  | .text message => .refusal message
  | .elsewhere message => .internal message
  | .unwritable message => .internal message

/-- What a function gives back. -/
inductive Returned where
  | value (value : Json)
  /-- A value that cannot be written as JSON. -/
  | unwritable (message : String)
  | absent
  | present (inner : Returned)
  | ok (inner : Returned)
  | error (origin : ErrorOrigin)
deriving Repr, Inhabited

/-- The reply that a function's result comes down to; an absent value is null. -/
def Returned.reply : Returned → Except HandlerError Json
  | .value v => .ok v
  | .unwritable message => .error (.ofOrigin (.unwritable message))
  | .absent => .ok .null
  | .present inner => inner.reply
  | .ok inner => inner.reply
  | .error origin => .error (.ofOrigin origin)

namespace Handler

/-- The payload of a request as a value of a type, whose name stands in messages. -/
def payload {α : Type} (type : String) (decode : Json → Decoded α) (request : Request) :
    Except HandlerError α :=
  match decode request.data with
  | .ok x => .ok x
  | .error e => .error (.payload type e.jsonMessage)

/-- A handler made of a function that takes what it can from the request, and returns. -/
def ofFunction (f : Request → Except HandlerError Returned) : Handler := fun request =>
  .ofResult (f request >>= Returned.reply)

/-- A handler made of a service. -/
def ofService (service : Request → Except ErrorOrigin Json) : Handler := fun request =>
  .ofResult ((service request).mapError HandlerError.ofOrigin)

end Handler
end EventDispatch
