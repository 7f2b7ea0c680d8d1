import EventDispatch.Decode.Source
import EventDispatch.Text.Quotation
/-!
Why decoding fails.

Purpose: the causes for which a document is not of the expected shape, the path to the offending
part, and the wording for JSON documents.

Main exports: `Found`, `Expected`, `Fault`, `DecodeError`, `Fault.jsonMessage`.
-/

namespace EventDispatch

/-- What a decoder met. -/
inductive Found where
  | null
  | bool (value : Bool)
  | integer (value : Int) (signed : Bool)
  | real (value : Double)
  | string (value : String)
  | sequence
  | mapping
  | unreadable
deriving DecidableEq, Repr, Inhabited

/-- The kind of one level of a document. -/
def View.found {σ : Type} : View σ → Found
  | .null => .null
  | .bool b => .bool b
  | .integer i signed => .integer i signed
  | .real x => .real x
  | .string s => .string s
  | .sequence _ => .sequence
  | .mapping _ => .mapping
  | .unreadable => .unreadable

/-- What a decoder asked for: a record or a choice by its name, or anything else by a phrase. -/
inductive Expected where
  | record (name : String)
  | choice (name : String)
  | phrase (text : String)
deriving DecidableEq, Repr, Inhabited

/-- Why one level of a document does not fit. -/
inductive Fault where
  | mismatch (found : Found) (expected : Expected)
  | outOfRange (value : Int) (signed : Bool) (expected : String)
  | unknownChoice (name : String) (known : List String)
  | notOneEntry
  | missing (field : String)
  | repeated (field : String)
  | tooShort (length : Nat) (record : String) (fields : Nat)
  | tooLong (length : Nat)
deriving DecidableEq, Repr, Inhabited

/-- A fault and the names and positions that lead to it. -/
structure DecodeError where
  path : List String
  fault : Fault
deriving DecidableEq, Repr, Inhabited

/-- The result of decoding. -/
abbrev Decoded (α : Type) := Except DecodeError α

namespace DecodeError

/-- A fault at the level that is being decoded. -/
def here (fault : Fault) : DecodeError := ⟨[], fault⟩

/-- A fault below a name or position. -/
def under (step : String) (e : DecodeError) : DecodeError := { e with path := step :: e.path }

end DecodeError

/-- A list of choices as a phrase: each in backquotes, two joined by a conjunction. -/
def choicesPhrase (many : String) : List String → String
  | [] => ""
  | [a] => "\x60" ++ a ++ "\x60"
  | [a, b] => "\x60" ++ a ++ "\x60 or \x60" ++ b ++ "\x60"
  | names => many ++ String.intercalate ", " (names.map fun n => "\x60" ++ n ++ "\x60")

/-- How a message about a JSON document names what was met. -/
def Found.jsonPhrase : Found → String
  | .null => "null"
  | .bool b => "boolean \x60" ++ toString b ++ "\x60"
  | .integer i _ => "integer \x60" ++ toString i ++ "\x60"
  | .real x => "floating point \x60" ++ x.text ++ "\x60"
  | .string s => "string " ++ Text.quoted s
  | .sequence => "sequence"
  | .mapping => "map"
  | .unreadable => "unreadable"

/-- How a message about a JSON document names what was asked for. -/
def Expected.jsonPhrase : Expected → String
  | .record name => "struct " ++ name
  | .choice _ => "string or map"
  | .phrase text => text

/-- The wording of a fault in a JSON document. -/
def Fault.jsonMessage : Fault → String
  | .mismatch found expected =>
    "invalid type: " ++ found.jsonPhrase ++ ", expected " ++ expected.jsonPhrase
  | .outOfRange i _ expected =>
    "invalid value: integer \x60" ++ toString i ++ "\x60, expected " ++ expected
  | .unknownChoice name known =>
    "unknown variant \x60" ++ name ++ "\x60, expected " ++ choicesPhrase "one of " known
  | .notOneEntry => "invalid value: map, expected map with a single key"
  | .missing field => "missing field \x60" ++ field ++ "\x60"
  | .repeated field => "duplicate field \x60" ++ field ++ "\x60"
  | .tooShort length record fields =>
    "invalid length " ++ toString length ++ ", expected struct " ++ record ++ " with "
      ++ toString fields ++ (if fields = 1 then " element" else " elements")
  | .tooLong length =>
    "invalid length " ++ toString length ++ ", expected fewer elements in array"

/-- The wording of an error in a JSON document. -/
def DecodeError.jsonMessage (e : DecodeError) : String := e.fault.jsonMessage

end EventDispatch
