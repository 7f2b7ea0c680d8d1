import EventDispatch.Decode.Basic
import EventDispatch.Trigger.Attribute
/-!
Shapes of events and records.

Purpose: the parts of an event or a record that routing looks at, for each kind of trigger. Other
parts may hold anything.

Main exports: `GatewayCall`, `GatewayRoute`, `BusEvent`, `StorageRecord`, `Notification`,
`QueueRecord`.
-/

namespace EventDispatch

variable {σ : Type} [Source σ]

/-- A record of one required text. -/
def soleText (record field : String) : Record σ String where
  name := record
  blank := ""
  fields := [.required field Decode.string fun x _ => x]

/-- Named parameters that may be missing. -/
def parameters (s : σ) : Decoded (Option (Fields Json)) :=
  Decode.optional (Decode.mapOf Decode.any) s

/-- A call through the API gateway in the first payload format. -/
structure GatewayCall where
  requestId : String := ""
  method : String := ""
  resource : Option String := none
  query : Option (Fields Json) := none
  path : Option (Fields Json) := none
deriving Repr, Inhabited

def GatewayCall.shape : Record σ GatewayCall where
  name := "ApiGatewayV1Event"
  blank := {}
  fields := [
    .required "requestContext" (soleText "RequestContext" "requestId").decode fun x r =>
      { r with requestId := x },
    .required "httpMethod" Decode.string fun x r => { r with method := x },
    .defaulted "resource" (Decode.optional Decode.string) fun x r => { r with resource := x },
    .defaulted "queryStringParameters" parameters fun x r => { r with query := x },
    .defaulted "pathParameters" parameters fun x r => { r with path := x }]

/-- A call through the API gateway in the second payload format. -/
structure GatewayRoute where
  requestId : String := ""
  routeKey : String := ""
  query : Option (Fields Json) := none
  path : Option (Fields Json) := none
deriving Repr, Inhabited

def GatewayRoute.shape : Record σ GatewayRoute where
  name := "ApiGatewayV2Event"
  blank := {}
  fields := [
    .required "requestContext" (soleText "RequestContext" "requestId").decode fun x r =>
      { r with requestId := x },
    .required "routeKey" Decode.string fun x r => { r with routeKey := x },
    .defaulted "queryStringParameters" parameters fun x r => { r with query := x },
    .defaulted "pathParameters" parameters fun x r => { r with path := x }]

/-- Splits characters at the first blank, if there is one. -/
def splitAtBlank : List Char → List Char × Option (List Char)
  | [] => ([], none)
  | c :: cs => if c = ' ' then ([], some cs) else
    let (front, back) := splitAtBlank cs
    (c :: front, back)

/-- The method of a route and its resource: the parts of the route key before and behind its first
blank. -/
def GatewayRoute.route (r : GatewayRoute) : String × Option String :=
  let (front, back) := splitAtBlank r.routeKey.toList
  (String.ofList front, back.map String.ofList)

/-- An event of the event bus. -/
structure BusEvent where
  id : String := ""
  source : String := ""
  detailType : String := ""
  detail : Json := .null
deriving Repr, Inhabited

def BusEvent.shape : Record σ BusEvent where
  name := "EventBridgeEvent"
  blank := {}
  fields := [
    .required "id" Decode.string fun x r => { r with id := x },
    .required "source" Decode.string fun x r => { r with source := x },
    .required "detail-type" Decode.string fun x r => { r with detailType := x },
    .defaulted "detail" Decode.any fun x r => { r with detail := x }]

/-- What happened to which object of a store. -/
structure StorageRecord where
  eventName : String := ""
  bucket : String := ""
  object : String := ""
deriving DecidableEq, Repr, Inhabited

/-- The bucket and the object of a storage record. -/
def StorageRecord.entity : Record σ (String × String) where
  name := "S3Entity"
  blank := ("", "")
  fields := [
    .required "bucket" (soleText "S3Bucket" "name").decode fun x r => (x, r.2),
    .required "object" (soleText "S3Object" "key").decode fun x r => (r.1, x)]

def StorageRecord.shape : Record σ StorageRecord where
  name := "S3Record"
  blank := {}
  fields := [
    .required "eventName" Decode.string fun x r => { r with eventName := x },
    .required "s3" StorageRecord.entity.decode fun x r => { r with bucket := x.1, object := x.2 }]

/-- The type and the text of an attribute. -/
abbrev AttributeBody := String × Option String

/-- The attributes of a mapping from names to their types and texts. -/
def attributesOf (bodies : Fields AttributeBody) : List Attribute :=
  bodies.map fun (name, type, text) => ⟨name, type, text⟩

/-- A notification of the notification service. -/
structure Notification where
  messageId : String := ""
  type : Option String := none
  topic : Option String := none
  attributes : Fields AttributeBody := []
deriving Repr, Inhabited

namespace Notification

def attributeShape : Record σ AttributeBody where
  name := "SnsMessageAttribute"
  blank := ("", none)
  fields := [
    .required "Type" Decode.string fun x a => (x, a.2),
    .defaulted "Value" (Decode.optional Decode.string) fun x a => (a.1, x)]

def shape : Record σ Notification where
  name := "SnsMessage"
  blank := {}
  fields := [
    .defaulted "MessageId" Decode.string fun x r => { r with messageId := x },
    .defaulted "Type" (Decode.optional Decode.string) fun x r => { r with type := x },
    .defaulted "TopicArn" (Decode.optional Decode.string) fun x r => { r with topic := x },
    .defaulted "MessageAttributes" (Decode.mapOf attributeShape.decode) fun x r =>
      { r with attributes := x }]

/-- Whether it says of itself that it is a notification of a topic. -/
def isGenuine (n : Notification) : Bool :=
  n.type == some "Notification" && n.topic.any fun t => "arn:aws:sns".toList.isPrefixOf t.toList

/-- The pattern of the attributes. -/
def pattern (n : Notification) : Except MappingError Pattern :=
  Attribute.pattern (attributesOf n.attributes)

/-- The notification that a text spells. A text is read as far as the notification goes: parts that
are no part of it may hold anything that is well formed. -/
def ofText? (text : String) : Option Notification :=
  match Written.parse text with
  | .ok w => match shape.decode w with
    | .ok n => if n.isGenuine then some n else none
    | .error _ => none
  | .error _ => none

end Notification

/-- A record that holds a notification. -/
def notificationRecord : Record σ Json where
  name := "SnsRecord"
  blank := .null
  fields := [.required "Sns" Decode.any fun x _ => x]

/-- A record of a queue. -/
structure QueueRecord where
  messageId : String := ""
  body : String := ""
  attributes : Fields AttributeBody := []
deriving Repr, Inhabited

namespace QueueRecord

def attributeShape : Record σ AttributeBody where
  name := "SqsMessageAttribute"
  blank := ("", none)
  fields := [
    .required "dataType" Decode.string fun x a => (x, a.2),
    .defaulted "stringValue" (Decode.optional Decode.string) fun x a => (a.1, x)]

def shape : Record σ QueueRecord where
  name := "SqsRecord"
  blank := {}
  fields := [
    .required "messageId" Decode.string fun x r => { r with messageId := x },
    .defaulted "body" Decode.string fun x r => { r with body := x },
    .defaulted "messageAttributes" (Decode.mapOf attributeShape.decode) fun x r =>
      { r with attributes := x }]

/-- The pattern of the record's own attributes. -/
def ownPattern (r : QueueRecord) : Except MappingError Pattern :=
  Attribute.pattern (attributesOf r.attributes)

/-- The pattern of the notification in the body, provided all its attributes have values. -/
def carriedPattern? (r : QueueRecord) : Option Pattern :=
  match Notification.ofText? r.body with
  | some n => n.pattern.toOption
  | none => none

/-- The pattern of a record: with unwrapping that of the notification it carries, if there is one,
and its own otherwise. -/
def pattern (unwrap : Bool) (r : QueueRecord) : Except MappingError Pattern :=
  match if unwrap then r.carriedPattern? else none with
  | some p => .ok p
  | none => r.ownPattern

end QueueRecord
end EventDispatch
