import EventDispatch.Message.Acknowledgement
/-!
Settings of the mapping from events to requests.

Main exports: `UnknownSources`, `MapperSettings`.
-/

namespace EventDispatch

/-- What happens to batches from sources whose records are not looked into. -/
inductive UnknownSources where
  | reject
  | custom
deriving DecidableEq, Repr, Inhabited

namespace UnknownSources

def named : List (String × UnknownSources) := [("reject", .reject), ("custom", .custom)]

def name : UnknownSources → String
  | .reject => "reject"
  | .custom => "custom"

def decode {σ : Type} [Source σ] (s : σ) : Decoded UnknownSources :=
  Decode.choice "UnknownSources" named s

end UnknownSources

/-- The settings. -/
structure MapperSettings where
  unknownSources : UnknownSources := .reject
  /-- Route a queued notification by the notification's attributes. -/
  unwrapEnvelopes : Bool := true
  batchKey : BatchKey := .failedItems
deriving DecidableEq, Repr, Inhabited

namespace MapperSettings

def toJson (c : MapperSettings) : Json :=
  Json.ofPairs [("unknown_sources", .string c.unknownSources.name),
    ("unwrap_sns_envelopes", .bool c.unwrapEnvelopes),
    ("batch_failure_key", .string c.batchKey.name)]

def shape {σ : Type} [Source σ] : Record σ MapperSettings where
  name := "AwsConfig"
  blank := {}
  fields := [
    .defaulted "unknown_sources" UnknownSources.decode fun x c => { c with unknownSources := x },
    .defaulted "unwrap_sns_envelopes" Decode.bool fun x c => { c with unwrapEnvelopes := x },
    .defaulted "batch_failure_key" BatchKey.decode fun x c => { c with batchKey := x }]

def decode {σ : Type} [Source σ] (s : σ) : Decoded MapperSettings := shape.decode s

end MapperSettings
end EventDispatch
