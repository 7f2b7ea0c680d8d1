import EventDispatch.Message.Packet
/-!
Handlers.

Purpose: a handler takes a request and runs. Its run ends with a reply, with an error, or with a
crash; it may also never end, and a handler may crash on being called, before there is a run at all.

Main exports: `HandlerError`, `HandlerError.response`, `Run`, `Handler`.
-/

namespace EventDispatch

/-- Why a handler gives no reply. -/
inductive HandlerError where
  /-- A refusal that is meant for the caller. -/
  | refused (message : String) (details : Option Json)
  /-- The payload is not of the type that the handler takes. -/
  | payload (type : String) (reason : String)
  /-- A failure whose message stays on the consumer's side. -/
  | internal (message : String)
deriving Repr, Inhabited

namespace HandlerError

/-- A refusal without details. -/
def refusal (message : String) : HandlerError := .refused message none

/-- The error answer for the caller. -/
def response : HandlerError → ResponseError
  | .refused message details => .handler message details
  | .payload type reason => .handler ("invalid payload for '" ++ type ++ "': " ++ reason)
  | .internal _ => .internal

end HandlerError

/-- What a call of a handler comes to. -/
inductive Run where
  /-- The run ends with a reply. -/
  | replied (value : Json)
  /-- The run ends with an error of the handler. -/
  | failed (error : HandlerError)
  /-- The run ends with an error answer that the handler made itself. -/
  | answered (error : ResponseError)
  /-- The handler crashes while it runs. -/
  | crashed (message : String)
  /-- The handler crashes on being called, before it runs. -/
  | crashedOnCall (message : String)
  /-- The run never ends. -/
  | endless
deriving Repr, Inhabited

namespace Run

/-- The run that ends with a reply or an error. -/
def ofResult : Except HandlerError Json → Run
  | .ok value => .replied value
  | .error e => .failed e

end Run

/-- A handler: what a call with a request comes to. -/
abbrev Handler := Request → Run

end EventDispatch
