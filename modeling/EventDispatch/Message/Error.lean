import EventDispatch.Message.Context
/-!
Errors of requests.

Purpose: the error that a consumer answers with, the failures of the broker that carries requests
and answers, and the two as the cause of a failed request.

Main exports: `ErrorKind`, `ResponseError`, `BrokerError`, `Cause`, `CorrelationError`.
-/

namespace EventDispatch

/-- What went wrong on the consumer's side. -/
inductive ErrorKind where
  /-- No handler takes the message. -/
  | noHandlerQualified
  /-- The handler that takes the message gives no answers. -/
  | illegalEventHandler
  /-- The handler refused the request, and says why. -/
  | handler
  /-- The handler failed, and nobody is told why. -/
  | internal
deriving DecidableEq, Repr, Inhabited

namespace ErrorKind

/-- The kinds under their names. -/
def named : List (String × ErrorKind) :=
  [("no_handler_qualified", .noHandlerQualified), ("illegal_event_handler", .illegalEventHandler),
    ("handler", .handler), ("internal", .internal)]

def name : ErrorKind → String
  | .noHandlerQualified => "no_handler_qualified"
  | .illegalEventHandler => "illegal_event_handler"
  | .handler => "handler"
  | .internal => "internal"

def decode {σ : Type} [Source σ] (s : σ) : Decoded ErrorKind := Decode.choice "ErrorKind" named s

end ErrorKind

/-- An error answer. -/
structure ResponseError where
  kind : ErrorKind
  message : String
  details : Option Json := none
deriving Repr, Inhabited

namespace ResponseError

def noHandlerQualified : ResponseError :=
  ⟨.noHandlerQualified, "No handler qualified to process the message", none⟩

def illegalEventHandler : ResponseError :=
  ⟨.illegalEventHandler, "An illegal event handler qualified for processing the current message",
    none⟩

/-- A handler's own refusal. -/
def handler (message : String) (details : Option Json := none) : ResponseError :=
  ⟨.handler, message, details⟩

/-- The answer for any failure whose reason stays on the consumer's side. -/
def internal : ResponseError := ⟨.internal, "Internal server error", none⟩

def withDetails (details : Json) (e : ResponseError) : ResponseError :=
  { e with details := some details }

/-- The JSON form; details are left out when there are none. -/
def toJson (e : ResponseError) : Json :=
  Json.ofPairs ([("kind", .string e.kind.name), ("message", .string e.message)]
    ++ (e.details.map (("details", ·))).toList)

def shape {σ : Type} [Source σ] : Record σ ResponseError where
  name := "ResponseError"
  blank := ⟨.internal, "", none⟩
  fields := [
    .required "kind" ErrorKind.decode fun x e => { e with kind := x },
    .required "message" Decode.string fun x e => { e with message := x },
    .defaulted "details" (Decode.optional Decode.any) fun x e => { e with details := x }]

/-- Decodes an error answer; details that are null count as none. -/
def decode {σ : Type} [Source σ] (s : σ) : Decoded ResponseError := shape.decode s

end ResponseError

/-- Why the broker carries no answer to a request. -/
inductive BrokerError where
  | noConsumer
  | closed (id : String)
  | duplicateRequestId (id : String)
deriving DecidableEq, Repr, Inhabited

namespace BrokerError

/-- The wording of a broker failure. -/
def message : BrokerError → String
  | .noConsumer =>
    "No consumer is currently connected to the broker. "
      ++ "The messages emitted by the client will be lost."
  | .closed id => "broker closed before request \x60" ++ id ++ "\x60 was answered"
  | .duplicateRequestId id => "request id \x60" ++ id ++ "\x60 is already in flight"

end BrokerError

/-- Why a request failed: in the broker, or by an error answer. -/
inductive Cause where
  | broker (error : BrokerError)
  | remote (error : ResponseError)
deriving Repr, Inhabited

def Cause.message : Cause → String
  | .broker e => e.message
  | .remote e => e.message

/-- A failed request. -/
structure CorrelationError where
  requestId : String
  cause : Cause
deriving Repr, Inhabited

namespace CorrelationError

/-- The wording of a failed request. -/
def message (e : CorrelationError) : String :=
  "The server failed to process the request, cause: " ++ e.cause.message

/-- Whether nobody was listening. -/
def isNoConsumer (e : CorrelationError) : Bool :=
  match e.cause with
  | .broker .noConsumer => true
  | _ => false

/-- The error answer, if there was one. -/
def remote? (e : CorrelationError) : Option ResponseError :=
  match e.cause with
  | .remote r => some r
  | .broker _ => none

/-- The kind of the error answer. -/
def kind? (e : CorrelationError) : Option ErrorKind := e.remote?.map ResponseError.kind

end CorrelationError
end EventDispatch
