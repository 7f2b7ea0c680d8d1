import EventDispatch.Json.Value
/-!
Kinds of triggers.

Purpose: which service produced an event, told from the event alone. The tests run in a fixed order:
the two payload formats of the API gateway, the event bus, batches whose records all name one
source; anything else is a custom event.

Main exports: `Trigger`, `Trigger.detect`, `Trigger.name`, `Trigger.isBatch`.
-/

namespace EventDispatch

/-- The service that produced an event. -/
inductive Trigger where
  | apiGatewayV1
  | apiGatewayV2
  | eventBridge
  | s3
  | sns
  | sqs
  | dynamoDb
  | kinesis
  | custom
deriving DecidableEq, Repr, Inhabited

namespace Trigger

/-- The short name in messages. -/
def name : Trigger → String
  | .apiGatewayV1 => "apigateway"
  | .apiGatewayV2 => "apigateway"
  | .eventBridge => "eventbridge"
  | .s3 => "s3"
  | .sns => "sns"
  | .sqs => "sqs"
  | .dynamoDb => "dynamodb"
  | .kinesis => "kinesis"
  | .custom => "custom"

/-- Whether events of this kind are batches of records. -/
def isBatch : Trigger → Bool
  | .s3 => true
  | .sns => true
  | .sqs => true
  | .dynamoDb => true
  | .kinesis => true
  | _ => false

/-- The source that a record names. One service spells the field with a capital letter. -/
def ofRecord? (record : Json) : Option Trigger :=
  if (record.get? "EventSource").bind Json.string? = some "aws:sns" then some .sns
  else match (record.get? "eventSource").bind Json.string? with
    | some "aws:s3" => some .s3
    | some "aws:sqs" => some .sqs
    | some "aws:dynamodb" => some .dynamoDb
    | some "aws:kinesis" => some .kinesis
    | _ => none

/-- The source that all records name; there must be a record. -/
def ofRecords? : List Json → Option Trigger
  | [] => none
  | record :: rest =>
    match ofRecord? record with
    | none => none
    | some source => if rest.all (ofRecord? · == some source) then some source else none

/-- The records of a batch. -/
def records (event : Json) : List Json := ((event.get? "Records").bind Json.items?).getD []

/-- The kind of trigger that produced an event. -/
def detect (event : Json) : Trigger :=
  let has (name : String) : Bool := (event.get? name).isSome
  let isString (name : String) : Bool := ((event.get? name).bind Json.string?).isSome
  if has "requestContext" && has "isBase64Encoded" && has "httpMethod" && has "path" then
    .apiGatewayV1
  else if has "requestContext" && has "isBase64Encoded" && has "routeKey" && has "rawPath" then
    .apiGatewayV2
  else if isString "source" && isString "detail-type" then .eventBridge
  else (ofRecords? (records event)).getD .custom

end Trigger
end EventDispatch
