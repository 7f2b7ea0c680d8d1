import EventDispatch.Json.Reader
import EventDispatch.Pattern.Basic
/-!
Message attributes.

Purpose: an attribute is a name, the name of a type and a text that may be missing. Three types are
known: texts, which stand for the JSON value they spell if they spell one; arrays; and numbers. From
attributes a mapping pattern is built.

Main exports: `Attribute`, `Attribute.coerce`, `Attribute.pattern`, `MappingError`.
-/

namespace EventDispatch

/-- Why no requests are made from an event. -/
inductive MappingError where
  /-- An event of a known kind is not of the shape of that kind. -/
  | shape (trigger : String) (reason : String)
  /-- An attribute has a type that is not known. -/
  | attributeType (type : String)
  /-- The text of an attribute is no value of its type. -/
  | attributeValue (name : String) (reason : String)
  /-- The kind of event is known and not dispatched. -/
  | source (name : String)
deriving DecidableEq, Repr, Inhabited

/-- The wording of a mapping error. -/
def MappingError.message : MappingError → String
  | .shape trigger reason => "failed to parse " ++ trigger ++ " event: " ++ reason
  | .attributeType type => "Attribute type not implemented: " ++ type
  | .attributeValue name reason => "invalid value for attribute \x60" ++ name ++ "\x60: " ++ reason
  | .source name => "event source \x60" ++ name ++ "\x60 is not supported"

/-- An attribute of a message. -/
structure Attribute where
  name : String
  type : String
  text : Option String
deriving DecidableEq, Repr, Inhabited

namespace Attribute

/-- The text, unless it is empty. -/
def spelled (a : Attribute) : Option String := a.text.filter (· != "")

/-- The value that a text spells, provided it is of a kind. -/
def spelling (name : String) (kind : Json → Bool) (phrase : String) (text : String) :
    Except MappingError Json :=
  match Json.parse text with
  | .ok v => if kind v then .ok v else .error (.attributeValue name phrase)
  | .error e => .error (.attributeValue name e.message)

def isArray : Json → Bool
  | .array _ => true
  | _ => false

def isNumber : Json → Bool
  | .number _ => true
  | _ => false

/-- The value of an attribute. A missing or empty text stands for the empty value of the type. -/
def coerce (a : Attribute) : Except MappingError Json :=
  match a.type, a.spelled with
  | "String", some text => match Json.parse text with
    | .ok v => .ok v
    | .error _ => .ok (.string text)
  | "String", none => .ok (.string "")
  | "String.Array", some text => spelling a.name isArray "expected a JSON array" text
  | "String.Array", none => .ok (.array [])
  | "Number", some text => spelling a.name isNumber "expected a number" text
  | "Number", none => .ok (Json.ofInt 0)
  | type, _ => .error (.attributeType type)

/-- The names and values of attributes, up to the first that has no value. -/
def coerceAll : List Attribute → Except MappingError (List (String × Json))
  | [] => .ok []
  | a :: rest => do
    let v ← a.coerce
    let vs ← coerceAll rest
    return (a.name, v) :: vs

/-- The mapping pattern of attributes; of a repeated name the last value stays. -/
def pattern (attributes : List Attribute) : Except MappingError Pattern :=
  (coerceAll attributes).map Json.ofPairs

end Attribute
end EventDispatch
