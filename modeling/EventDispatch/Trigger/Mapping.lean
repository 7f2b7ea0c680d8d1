import EventDispatch.Trigger.Kind
import EventDispatch.Trigger.Item
import EventDispatch.Trigger.Settings
/-!
From events to requests, and from outcomes to acknowledgements.

Purpose: an event becomes one request, or one for each record of a batch; the whole event is refused
when one of them cannot be made. The kind of the event decides how the outcomes are acknowledged.
Items without an identifier of their own take one from a supply of fresh identifiers, by position.

Main exports: `ItemKind`, `ItemKind.request`, `Responder`, `Responder.acknowledge`, `MappedEvent`,
`MapperSettings.map`.
-/

namespace EventDispatch

/-- How an item is looked at to make a request of it. -/
inductive ItemKind where
  | gateway
  | bus
  | storage
  | notification
  | queue (unwrap : Bool)
  | custom
deriving DecidableEq, Repr, Inhabited

namespace ItemKind

/-- Decodes an item; a failure is reported for a kind of trigger. -/
def read {ρ : Type} (trigger : String) (shape : Record Json ρ) (item : Json) :
    Except MappingError ρ :=
  match shape.decode item with
  | .ok r => .ok r
  | .error e => .error (.shape trigger e.jsonMessage)

/-- The pattern of a call through the API gateway; what is missing is null. -/
def gatewayPattern (method : String) (resource : Option String)
    (query path : Option (Fields Json)) : Pattern :=
  let object (fields : Option (Fields Json)) : Json := (fields.map Json.object).getD .null
  Json.ofPairs [("httpMethod", .string method),
    ("resource", (resource.map Json.string).getD .null),
    ("queryStringParameters", object query), ("pathParameters", object path)]

/-- The id and the pattern of a call through the API gateway. The method's name tells the payload
format. -/
def readGateway (item : Json) : Except MappingError (String × Pattern) :=
  if (item.get? "httpMethod").isSome then do
    let call ← read "apigateway" GatewayCall.shape item
    return (call.requestId, gatewayPattern call.method call.resource call.query call.path)
  else if (item.get? "routeKey").isSome then do
    let call ← read "apigateway" GatewayRoute.shape item
    let (method, resource) := call.route
    return (call.requestId, gatewayPattern method resource call.query call.path)
  else .error (.shape "apigateway" "unknown API Gateway payload format")

/-- The request of an item. -/
def request (kind : ItemKind) (context : Context) (fresh : String) (item : Json) :
    Except MappingError Request :=
  match kind with
  | .gateway => do
    let (id, pattern) ← readGateway item
    return ⟨id, pattern, item, context⟩
  | .bus => do
    let event ← read "eventbridge" BusEvent.shape item
    let pattern := Json.ofPairs [("source", .string event.source),
      ("detailType", .string event.detailType), ("detail", event.detail)]
    return ⟨event.id, pattern, item, context⟩
  | .storage => do
    let record ← read "s3" StorageRecord.shape item
    let pattern := Json.ofPairs [("eventName", .string record.eventName),
      ("bucketName", .string record.bucket), ("objectKey", .string record.object)]
    return ⟨fresh, pattern, item, context⟩
  | .notification => do
    let content ← read "sns" notificationRecord item
    let notification ← read "sns" Notification.shape content
    let pattern ← notification.pattern
    return ⟨notification.messageId, pattern, content, context⟩
  | .queue unwrap => do
    let record ← read "sqs" QueueRecord.shape item
    let pattern ← record.pattern unwrap
    return ⟨record.messageId, pattern, item, context⟩
  | .custom => .ok ⟨fresh, .string "/", item, context⟩

/-- The requests of items in order, up to the first that cannot be made. The fresh identifiers are
numbered by position. -/
def requests (kind : ItemKind) (context : Context) (fresh : Nat → String) :
    (position : Nat) → List Json → Except MappingError (List Request)
  | _, [] => .ok []
  | position, item :: rest => do
    let r ← kind.request context (fresh position) item
    let rs ← kind.requests context fresh (position + 1) rest
    return r :: rs

end ItemKind

/-- A request with its outcome. -/
structure Settled where
  request : Request
  outcome : Outcome
deriving Inhabited

namespace Settled

def isSuccess (s : Settled) : Bool :=
  match s.outcome with
  | .ok _ => true
  | .error _ => false

/-- The values of outcomes in order, or the first error. -/
def values : List Settled → Except CorrelationError (List Json)
  | [] => .ok []
  | s :: rest => do
    let v ← s.outcome
    let vs ← values rest
    return v :: vs

end Settled

/-- How the outcomes of an event's requests are acknowledged. -/
inductive Responder where
  /-- The value of the one request, or its error. -/
  | singleReply
  /-- Nothing, or the first error. -/
  | fireAndForget
  /-- One value for each request, or the first error. -/
  | multiReply
  /-- The identifiers of the failed requests. -/
  | failureReport (key : BatchKey)
deriving DecidableEq, Repr, Inhabited

namespace Responder

/-- The acknowledgement of settled requests. -/
def acknowledge (responder : Responder) (settled : List Settled) :
    Except CorrelationError Acknowledgement :=
  match responder with
  | .singleReply => match settled with
    | [] => .ok (.reply .null)
    | s :: _ => s.outcome.map .reply
  | .fireAndForget => (Settled.values settled).map fun _ => .empty
  | .multiReply => (Settled.values settled).map .replies
  | .failureReport key =>
    .ok (.batchFailures (.ofIdentifiers key
      ((settled.filter fun s => !s.isSuccess).map fun s => s.request.id)))

end Responder

/-- An event as requests. -/
structure MappedEvent where
  trigger : Trigger
  requests : List Request
  responder : Responder
deriving Inhabited

namespace MapperSettings

/-- The one request of an event. -/
def mapSingle (trigger : Trigger) (kind : ItemKind) (responder : Responder) (fresh : Nat → String)
    (context : Context) (event : Json) : Except MappingError MappedEvent :=
  (kind.requests context fresh 0 [event]).map (⟨trigger, ·, responder⟩)

/-- One request for each record of an event. -/
def mapBatch (trigger : Trigger) (kind : ItemKind) (responder : Responder) (fresh : Nat → String)
    (context : Context) (event : Json) : Except MappingError MappedEvent :=
  (kind.requests context fresh 0 (Trigger.records event)).map (⟨trigger, ·, responder⟩)

/-- The requests of an event and the way to acknowledge them. -/
def map (settings : MapperSettings) (fresh : Nat → String) (context : Context) (event : Json) :
    Except MappingError MappedEvent :=
  let custom := mapSingle .custom .custom .singleReply fresh context event
  let unknown (name : String) : Except MappingError MappedEvent :=
    match settings.unknownSources with
    | .reject => .error (.source name)
    | .custom => custom
  match Trigger.detect event with
  | .apiGatewayV1 => mapSingle .apiGatewayV1 .gateway .singleReply fresh context event
  | .apiGatewayV2 => mapSingle .apiGatewayV2 .gateway .singleReply fresh context event
  | .eventBridge => mapSingle .eventBridge .bus .fireAndForget fresh context event
  | .s3 => mapBatch .s3 .storage .fireAndForget fresh context event
  | .sns => mapBatch .sns .notification .multiReply fresh context event
  | .sqs =>
    mapBatch .sqs (.queue settings.unwrapEnvelopes) (.failureReport settings.batchKey) fresh context
      event
  | .dynamoDb => unknown "dynamodb"
  | .kinesis => unknown "kinesis"
  | .custom => custom

end MapperSettings
end EventDispatch
