import EventDispatch.Handler.Registry
/-!
Groups of handlers.

Purpose: handlers that are registered together, in order. An entry without options of its own takes
the rule of matching of its group. Registering stops at the first key that is taken; the entries
before it stay registered.

Main exports: `GroupEntry`, `Group`, `Group.registrations`, `Group.registerInto`.
-/

namespace EventDispatch

/-- A handler of a group. -/
structure GroupEntry where
  pattern : Pattern
  handler : Handler
  kind : HandlerKind := .message
  extras : Option Extras := none

/-- Handlers that belong together. -/
structure Group where
  name : Option String := none
  partialMatch : Bool := false
  entries : List GroupEntry := []

/-- Adds registrations in order up to the first whose key is taken: the registry then reached, and
the error if there is one. -/
def Registry.addAll (g : Registry) : List Registration → Registry × Option RegistryError
  | [] => (g, none)
  | r :: rs => match g.add r with
    | .ok g => g.addAll rs
    | .error e => (g, some e)

namespace Group

def size (group : Group) : Nat := group.entries.length

def isEmpty (group : Group) : Bool := group.entries.isEmpty

/-- The registrations of the entries, in order. -/
def registrations (group : Group) : List Registration :=
  group.entries.map fun e =>
    .make e.pattern e.handler e.kind (e.extras.getD ⟨group.partialMatch⟩)

/-- Registers the entries in order up to the first whose key is taken: the registry then reached,
and the number of entries or the error. -/
def registerInto (group : Group) (g : Registry) : Registry × Except RegistryError Nat :=
  match g.addAll group.registrations with
  | (g, none) => (g, .ok group.size)
  | (g, some e) => (g, .error e)

end Group
end EventDispatch
