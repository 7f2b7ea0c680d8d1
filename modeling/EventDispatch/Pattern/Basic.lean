import EventDispatch.Json.Printer
/-!
Patterns.

Purpose: a pattern is a JSON value that says what a message is about. Its key is the text by which a
registry finds a handler directly: a string is its own key, and any other pattern has as key the
JSON text of its *indexed form*, in which every sequence has become a mapping from the decimal
positions of its elements. A sequence and the mapping that spells out its positions therefore share
a key.

Main exports: `Pattern`, `Pattern.catchAll`, `Pattern.indexed`, `Pattern.key`.
-/

namespace EventDispatch

/-- The description of a message, or of the messages a handler is meant for. -/
abbrev Pattern := Json

namespace Pattern

/-- The pattern of the handler that takes what no other handler takes. -/
def catchAll : Pattern := .string "*"

def isCatchAll : Pattern → Bool
  | .string s => s == "*"
  | _ => false

/-- Sequences and mappings are composite, all other patterns are primitive. -/
def isPrimitive : Pattern → Bool
  | .array _ => false
  | .object _ => false
  | _ => true

mutual
/-- The pattern with every sequence, at any depth, replaced by the mapping from the decimal position
of an element to the element. -/
def indexed : Json → Json
  | .array items => .object (Fields.ofList (indexedItems 0 items))
  | .object fields => .object (indexedFields fields)
  | p => p
/-- The elements from a position on, each under its decimal position. -/
def indexedItems (position : Nat) : List Json → List (String × Json)
  | [] => []
  | p :: ps => (toString position, indexed p) :: indexedItems (position + 1) ps
/-- The fields of a mapping with indexed values. -/
def indexedFields : List (String × Json) → List (String × Json)
  | [] => []
  | (name, p) :: fs => (name, indexed p) :: indexedFields fs
end

/-- The lookup key of a pattern. -/
def key (p : Pattern) : String :=
  match p with
  | .string s => s
  | p => (indexed p).compact

end Pattern
end EventDispatch
