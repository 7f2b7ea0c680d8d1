import EventDispatch.Decode.Basic
/-!
Configuration documents.

Purpose: what the layers of a configuration are made of, whatever format they were written in. An
integer remembers whether its format writes integers with a sign. Layers are merged from the lowest
to the highest: two mappings are merged name by name, and in every other case the higher one stands.

Main exports: `Document`, `Document.merge`, `Document.mergeAll`, `Document.at?`, `Document.ofJson`,
`Document.toJson`.
-/

namespace EventDispatch

/-- A configuration document. The names of a mapping ascend. -/
inductive Document where
  | null
  | bool (value : Bool)
  | integer (value : Int) (signed : Bool)
  | real (value : Double)
  | string (value : String)
  | sequence (items : List Document)
  | mapping (fields : List (String × Document))
deriving Repr, Inhabited

namespace Document

/-- The document without entries. -/
def blank : Document := .mapping []

/-- The mapping of pairs; of a repeated name the last value stays. -/
def ofPairs (pairs : List (String × Document)) : Document := .mapping (Fields.ofList pairs)

mutual
/-- A document as JSON. -/
def toJson : Document → Json
  | .null => .null
  | .bool b => .bool b
  | .integer i _ => Json.ofInt i
  | .real x => .number (.double x)
  | .string s => .string s
  | .sequence items => .array (toJsonItems items)
  | .mapping fields => .object (toJsonFields fields)
/-- The elements of a sequence as JSON. -/
def toJsonItems : List Document → List Json
  | [] => []
  | d :: ds => toJson d :: toJsonItems ds
/-- The entries of a mapping as JSON. -/
def toJsonFields : List (String × Document) → List (String × Json)
  | [] => []
  | (name, d) :: fs => (name, toJson d) :: toJsonFields fs
end

mutual
/-- The document of a JSON value. Only negative integers count as signed. -/
def ofJson : Json → Document
  | .null => .null
  | .bool b => .bool b
  | .number (.integer i _) => .integer i (i < 0)
  | .number (.double x) => .real x
  | .string s => .string s
  | .array items => .sequence (ofJsonItems items)
  | .object fields => .mapping (ofJsonFields fields)
/-- The elements of an array as documents. -/
def ofJsonItems : List Json → List Document
  | [] => []
  | v :: vs => ofJson v :: ofJsonItems vs
/-- The fields of an object as documents. -/
def ofJsonFields : List (String × Json) → List (String × Document)
  | [] => []
  | (name, v) :: fs => (name, ofJson v) :: ofJsonFields fs
end

/-- One level of a document. -/
def view : Document → View Document
  | .null => .null
  | .bool b => .bool b
  | .integer i signed => .integer i signed
  | .real x => .real x
  | .string s => .string s
  | .sequence items => .sequence items
  | .mapping fields => .mapping fields

instance : Source Document where
  view := view
  json := toJson
  exact := false

mutual
/-- A higher layer over a lower one. -/
def merge (lower : Document) : Document → Document
  | .mapping fields => match lower with
    | .mapping under => .mapping (mergeFields under fields)
    | _ => .mapping fields
  | higher => higher
/-- The entries of a higher mapping over those of a lower one. -/
def mergeFields (under : Fields Document) : List (String × Document) → Fields Document
  | [] => under
  | (name, higher) :: rest =>
    let entry := match under.find? name with
      | some lower => merge lower higher
      | none => higher
    mergeFields (under.insert name entry) rest
end

/-- Layers from the lowest to the highest as one document. -/
def mergeAll (layers : List Document) : Document := layers.foldl merge blank

/-- The entry of a mapping. -/
def get? (d : Document) (name : String) : Option Document :=
  match d with
  | .mapping fields => Fields.find? name fields
  | _ => none

/-- The part of a document below a path of names. -/
def at? (d : Document) : (path : List String) → Option Document
  | [] => some d
  | name :: path => match d.get? name with
    | some below => below.at? path
    | none => none

/-- A document below a path of names, with nothing beside it. -/
def nested (d : Document) : (path : List String) → Document
  | [] => d
  | name :: path => .mapping [(name, d.nested path)]

def isMapping : Document → Bool
  | .mapping _ => true
  | _ => false

end Document
end EventDispatch
