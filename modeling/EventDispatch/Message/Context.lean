import EventDispatch.Decode.Basic
/-!
Invocation contexts.

Purpose: what the host says about the invocation that produced an event: seven known particulars,
each of which may be missing, and any others under names of their own. In JSON both stand side by
side in one object.

Main exports: `Context`, `Context.toJson`, `Context.decode`, `Context.remaining`.
-/

namespace EventDispatch

/-- The circumstances of an invocation. -/
structure Context where
  invocationId : Option String := none
  functionName : Option String := none
  functionVersion : Option String := none
  functionArn : Option String := none
  memoryLimitMb : Option UInt32 := none
  /-- Milliseconds since the epoch. -/
  deadlineMs : Option UInt64 := none
  traceId : Option String := none
  /-- Particulars without a field of their own. -/
  extra : Fields Json := []
deriving Repr, Inhabited

namespace Context

/-- The names of the known particulars. -/
def knownNames : List String :=
  ["invocationId", "functionName", "functionVersion", "functionArn", "memoryLimitMb", "deadlineMs",
    "traceId"]

/-- The known particulars that are present. -/
def known (c : Context) : List (String × Json) :=
  [("invocationId", c.invocationId.map Json.string),
    ("functionName", c.functionName.map Json.string),
    ("functionVersion", c.functionVersion.map Json.string),
    ("functionArn", c.functionArn.map Json.string),
    ("memoryLimitMb", c.memoryLimitMb.map fun n => Json.ofInt n.toNat),
    ("deadlineMs", c.deadlineMs.map fun n => Json.ofInt n.toNat),
    ("traceId", c.traceId.map Json.string)].filterMap fun p => p.2.map (p.1, ·)

/-- The JSON form. An extra particular replaces a known one of the same name. -/
def toJson (c : Context) : Json := .object (Fields.union (Fields.ofList c.known) c.extra)

/-- The known particulars as a record. -/
def shape {σ : Type} [Source σ] : Record σ Context where
  name := "InvocationContext"
  blank := {}
  positional := false
  fields := [
    .defaulted "invocationId" (Decode.optional Decode.string) fun x c =>
      { c with invocationId := x },
    .defaulted "functionName" (Decode.optional Decode.string) fun x c =>
      { c with functionName := x },
    .defaulted "functionVersion" (Decode.optional Decode.string) fun x c =>
      { c with functionVersion := x },
    .defaulted "functionArn" (Decode.optional Decode.string) fun x c => { c with functionArn := x },
    .defaulted "memoryLimitMb" (Decode.optional Decode.word32) fun x c =>
      { c with memoryLimitMb := x },
    .defaulted "deadlineMs" (Decode.optional Decode.word64) fun x c =>
      { c with deadlineMs := x },
    .defaulted "traceId" (Decode.optional Decode.string) fun x c => { c with traceId := x }]

/-- The entries under names that are not known. -/
def extraEntries {σ : Type} [Source σ] (s : σ) : Fields Json :=
  match Source.view s with
  | .mapping entries =>
    Fields.ofList ((entries.filter fun e => !knownNames.contains e.1).map
      fun e => (e.1, Source.json e.2))
  | _ => []

/-- Decodes a context: the known names as particulars, all other names as extra ones. -/
def decode {σ : Type} [Source σ] (s : σ) : Decoded Context :=
  (shape.decode s).map fun c => { c with extra := extraEntries s }

/-- Records an extra particular. -/
def insert (name : String) (value : Json) (c : Context) : Context :=
  { c with extra := c.extra.insert name value }

/-- An extra particular. -/
def get? (name : String) (c : Context) : Option Json := c.extra.find? name

/-- The milliseconds left before the deadline at an instant; none are left behind it. -/
def remaining (now : Nat) (c : Context) : Option Nat := c.deadlineMs.map fun d => d.toNat - now

end Context
end EventDispatch
