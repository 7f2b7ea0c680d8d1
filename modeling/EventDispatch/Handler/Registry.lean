import EventDispatch.Handler.Basic
import EventDispatch.Pattern.Matching
import Std.Data.HashMap
/-!
The registry of handlers.

Purpose: registrations in the order in which they were made, with an index from keys to positions
and the position of the catch-all registration. Two registrations never share a key. A message goes
to the registration with its key; else to the first registration whose pattern it matches, each
under its own rule of matching; else to the catch-all registration. A match that crashes ends the
search.

Main exports: `Registration`, `Registry`, `Registry.register`, `Registry.resolve`, `Resolution`.
-/

namespace EventDispatch

/-- Whether a handler gives answers. -/
inductive HandlerKind where
  | message
  | event
deriving DecidableEq, Repr, Inhabited

/-- Options of a registration. -/
structure Extras where
  /-- Take messages that say more than the pattern. -/
  partialMatch : Bool := false
deriving DecidableEq, Repr, Inhabited

namespace Extras

def shape {σ : Type} [Source σ] : Record σ Extras where
  name := "HandlerExtras"
  blank := {}
  fields := [.defaulted "partialMatch" Decode.bool fun x _ => ⟨x⟩]

def decode {σ : Type} [Source σ] (s : σ) : Decoded Extras := shape.decode s

/-- The options in a document, the usual ones if it does not decode. -/
def ofJson (v : Json) : Extras :=
  match decode v with
  | .ok extras => extras
  | .error _ => {}

end Extras

/-- A registered handler. -/
structure Registration where
  key : String
  pattern : Pattern
  handler : Handler
  kind : HandlerKind
  extras : Extras

namespace Registration

/-- The registration of a handler under the key of its pattern. -/
def make (pattern : Pattern) (handler : Handler) (kind : HandlerKind) (extras : Extras) :
    Registration :=
  ⟨pattern.key, pattern, handler, kind, extras⟩

/-- Whether a message matches the pattern under the registration's own rule, or the match crashes.
-/
def accepts (r : Registration) (message : Pattern) : Option Bool :=
  Pattern.matchesMessage r.extras.partialMatch r.pattern message

end Registration

/-- Why a registration is refused. -/
inductive RegistryError where
  | duplicate (key : String)
deriving DecidableEq, Repr, Inhabited

def RegistryError.message : RegistryError → String
  | .duplicate key => "a handler is already registered for pattern \x60" ++ key ++ "\x60"

/-- Registrations with the index over their keys. -/
structure Registry where
  registrations : Array Registration
  index : Std.HashMap String Nat
  catchAll : Option Nat

/-- Where a message goes. -/
inductive Resolution where
  | message (registration : Registration)
  | event (registration : Registration)
  | none
  /-- A match crashed on the way. -/
  | crashed

namespace Resolution

/-- The resolution to a registration, by its kind. -/
def ofRegistration (r : Registration) : Resolution :=
  match r.kind with
  | .message => .message r
  | .event => .event r

/-- The registration to call, or the error to answer with; neither after a crash. -/
def result? : Resolution → Option (Except ResponseError Registration)
  | .message r => some (.ok r)
  | .event _ => some (.error .illegalEventHandler)
  | .none => some (.error .noHandlerQualified)
  | .crashed => Option.none

end Resolution

namespace Registry

/-- The registry without registrations. -/
def empty : Registry := ⟨#[], ∅, Option.none⟩

instance : Inhabited Registry := ⟨empty⟩

def size (g : Registry) : Nat := g.registrations.size

def isEmpty (g : Registry) : Bool := g.registrations.isEmpty

/-- The registrations in the order in which they were made. -/
def toList (g : Registry) : List Registration := g.registrations.toList

/-- Whether a key is taken. -/
def containsKey (g : Registry) (key : String) : Bool := g.index.contains key

/-- Whether the key of a pattern is taken. -/
def contains (g : Registry) (p : Pattern) : Bool := g.containsKey p.key

/-- Adds a registration unless its key is taken. -/
def add (g : Registry) (r : Registration) : Except RegistryError Registry :=
  if g.containsKey r.key then .error (.duplicate r.key)
  else .ok {
    registrations := g.registrations.push r
    index := g.index.insert r.key g.registrations.size
    catchAll := if r.pattern.isCatchAll then some g.registrations.size else g.catchAll }

/-- Registers a handler for a pattern. -/
def register (g : Registry) (pattern : Pattern) (handler : Handler) (kind : HandlerKind)
    (extras : Extras) : Except RegistryError Registry :=
  g.add (.make pattern handler kind extras)

/-- The registration that takes a message, if there is one, unless a match crashes before it is
found. -/
def select (g : Registry) (message : Pattern) : Option (Option Registration) :=
  match (g.index[message.key]?).bind (g.registrations[·]?) with
  | some exact => some (some exact)
  | none => do
    let matching ← g.toList.findM? (·.accepts message)
    return matching.or (g.catchAll.bind (g.registrations[·]?))

/-- Where a message goes. -/
def resolve (g : Registry) (message : Pattern) : Resolution :=
  match g.select message with
  | some (some r) => .ofRegistration r
  | some none => .none
  | none => .crashed

end Registry
end EventDispatch
