import EventDispatch.Handler.Reply
/-!
Probes.

Purpose: handlers of known behaviour, by which the handling of requests can be observed from
outside: some reply a part of their request, some take a payload of a type, some refuse, fail, crash
or run for ever. How messages call the type of a payload is up to whoever sets the probes up.

Main exports: `PayloadType`, `Probe`, `Probe.handler`.
-/

namespace EventDispatch

/-- The types of payload that probes take. -/
inductive PayloadType where
  | signed64
  | unsigned64
  | signed32
  | unsigned32
  | truth
  | real
  | text
  | bytes
  | summands
  | entries
deriving DecidableEq, Repr, Inhabited

/-- A handler of known behaviour. -/
inductive Probe where
  /-- A function that always gives back the same. -/
  | returns (returned : Returned)
  /-- A service that always gives the same. -/
  | serves (result : Except ErrorOrigin Json)
  | data
  | id
  | pattern
  | context
  | functionName
  | request
  /-- Every part of the request at once. -/
  | parts
  /-- The sum of two integers; refused when it does not fit. -/
  | sum
  /-- The integer payload itself. -/
  | integer (range : Decode.IntRange) (type : PayloadType)
  | truth
  | real
  /-- The number of bytes of a text. -/
  | textSize
  | bytes
  /-- An integer payload, or null when it is none. -/
  | maybe
  /-- The text under the name `body`; one text is refused. -/
  | body
  | answer (error : ResponseError)
  /-- Crashes while it runs, unless the payload asks for safety. -/
  | crash
  | crashOnCall
  | endless
  /-- A service: twice an integer payload, wrapped in an object; refused when it does not fit. -/
  | twice
deriving Inhabited

namespace Probe

/-- Two integers to be added. -/
def summands {σ : Type} [Source σ] : Record σ (Int × Int) where
  name := "Sum"
  blank := (0, 0)
  fields := [
    .required "a" (Decode.integer Decode.signed64) fun x r => (x, r.2),
    .required "b" (Decode.integer Decode.signed64) fun x r => (r.1, x)]

/-- An integer that fits 64 bits with a sign, or else a refusal. -/
def within64 (i : Int) (refusal : String) : Except HandlerError Json :=
  if Decode.signed64.low ≤ i ∧ i ≤ Decode.signed64.high then .ok (Json.ofInt i)
  else .error (.refusal refusal)

/-- A result as what a function gives back. -/
def returned : Except HandlerError Json → Returned
  | .ok v => .ok (.value v)
  | .error e => .error (.own e)

/-- The data as a value of a type, or null. -/
def orNull {α : Type} (decode : Json → Decoded α) (encode : α → Json) (data : Json) : Json :=
  match decode data with
  | .ok x => encode x
  | .error _ => .null

/-- Every part of a request, with its data also as an integer and as a text. -/
def allParts (r : Request) : Json :=
  .array [.string r.id, r.pattern, r.context.toJson, r.data, r.toJson,
    orNull (Decode.integer Decode.signed64) Json.ofInt r.data,
    orNull Decode.string Json.string r.data, .string r.id]

/-- The reply to an object with a text under the name `body`. -/
def bodyReply (entries : Fields Json) : Except HandlerError Json :=
  match (entries.find? "body").bind Json.string? with
  | some "poison" => .error (.refusal "cannot process")
  | some s => .ok (.string s)
  | none => .error (.refusal "no body")

/-- The handler of a probe, with the names that messages use for the types of payloads. -/
def handler (typeName : PayloadType → String) (probe : Probe) : Handler :=
  let taking {α : Type} (type : PayloadType) (decode : Json → Decoded α) (reply : α → Returned) :
      Handler :=
    .ofFunction fun r => (Handler.payload (typeName type) decode r).map reply
  match probe with
  | .returns returned => .ofFunction fun _ => .ok returned
  | .serves result => .ofService fun _ => result
  | .data => fun r => .replied r.data
  | .id => fun r => .replied (.string ("seen " ++ r.id))
  | .pattern => fun r => .replied r.pattern
  | .context => fun r => .replied r.context.toJson
  | .functionName => .ofFunction fun r => .ok (match r.context.functionName with
      | some name => .present (.value (.string name))
      | none => .absent)
  | .request => fun r => .replied r.toJson
  | .parts => fun r => .replied (allParts r)
  | .sum => taking .summands summands.decode fun (a, b) => returned (within64 (a + b) "overflow")
  | .integer range type => taking type (Decode.integer range) fun i => .value (Json.ofInt i)
  | .truth => taking .truth Decode.bool fun b => .value (.bool b)
  | .real => taking .real Decode.real fun x => .value (.number (.double x))
  | .textSize => taking .text Decode.string fun s => .value (Json.ofInt s.utf8ByteSize)
  | .bytes =>
    taking .bytes (Decode.listOf (Decode.integer Decode.unsigned8)) fun bytes =>
      .value (.array (bytes.map Json.ofInt))
  | .maybe => fun r => .replied (orNull (Decode.integer Decode.signed64) Json.ofInt r.data)
  | .body => taking .entries (Decode.mapOf Decode.any) fun entries => returned (bodyReply entries)
  | .answer e => fun _ => .answered e
  | .crash => fun r =>
    if r.data == .string "safe" then .replied (.string "survived") else .crashed "unsafe data"
  | .crashOnCall => fun _ => .crashedOnCall "called"
  | .endless => fun _ => .endless
  | .twice => .ofService fun r =>
      let doubled := do
        let i ← Handler.payload (typeName .signed64) (Decode.integer Decode.signed64) r
        within64 (2 * i) "too big"
      (doubled.mapError .own).map fun v => Json.ofPairs [("data", v)]

end Probe
end EventDispatch
