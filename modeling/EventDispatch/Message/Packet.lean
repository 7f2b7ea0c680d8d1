import EventDispatch.Message.Error
import EventDispatch.Pattern.Basic
/-!
Packets.

Purpose: the requests and responses that travel over the bus, with their JSON forms. A response is
terminal when no other response to its request follows.

Main exports: `Request`, `Response`, `Outcome`.
-/

namespace EventDispatch

/-- A request. -/
structure Request where
  id : String
  pattern : Pattern
  data : Json := .null
  context : Context := {}
deriving Repr, Inhabited

namespace Request

/-- The JSON form. -/
def toJson (r : Request) : Json :=
  Json.ofPairs [("id", .string r.id), ("pattern", r.pattern), ("data", r.data),
    ("context", r.context.toJson)]

def shape {σ : Type} [Source σ] : Record σ Request where
  name := "OutgoingRequest"
  blank := ⟨"", .null, .null, {}⟩
  fields := [
    .required "id" Decode.string fun x r => { r with id := x },
    .required "pattern" Decode.any fun x r => { r with pattern := x },
    .defaulted "data" Decode.any fun x r => { r with data := x },
    .defaulted "context" Context.decode fun x r => { r with context := x }]

def decode {σ : Type} [Source σ] (s : σ) : Decoded Request := shape.decode s

end Request

/-- A response to the request of the same id. -/
structure Response where
  id : String
  value : Option Json := none
  error : Option ResponseError := none
  terminal : Bool := false
deriving Repr, Inhabited

namespace Response

/-- The answer of a request. -/
def reply (id : String) (value : Json) : Response := ⟨id, some value, none, true⟩

/-- A value ahead of the answer. -/
def interim (id : String) (value : Json) : Response := ⟨id, some value, none, false⟩

/-- An error answer. -/
def failure (id : String) (error : ResponseError) : Response := ⟨id, none, some error, true⟩

/-- An end without an answer. -/
def ended (id : String) : Response := ⟨id, none, none, true⟩

/-- The JSON form; a value or error that is absent is left out. -/
def toJson (r : Response) : Json :=
  Json.ofPairs ([("id", .string r.id)]
    ++ (r.value.map (("response", ·))).toList
    ++ (r.error.map fun e => ("err", e.toJson)).toList
    ++ [("isDisposed", .bool r.terminal)])

def shape {σ : Type} [Source σ] : Record σ Response where
  name := "OutgoingResponse"
  blank := ⟨"", none, none, false⟩
  fields := [
    .required "id" Decode.string fun x r => { r with id := x },
    .defaulted "response" (Decode.optional Decode.any) fun x r => { r with value := x },
    .defaulted "err" (Decode.optional ResponseError.decode) fun x r => { r with error := x },
    .defaulted "isDisposed" Decode.bool fun x r => { r with terminal := x }]

/-- Decodes a response; a value or error that is null counts as absent. -/
def decode {σ : Type} [Source σ] (s : σ) : Decoded Response := shape.decode s

end Response

/-- How a request ends for the one who sent it. -/
abbrev Outcome := Except CorrelationError Json

end EventDispatch
