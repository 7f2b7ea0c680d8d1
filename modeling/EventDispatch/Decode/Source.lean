import EventDispatch.Json.Reader
/-!
Documents as a decoder sees them.

Purpose: a decoder looks at a document one level at a time. What it sees is a `View`; anything with
a view is a `Source`, so one decoder serves JSON values, JSON text and configuration documents.

Main exports: `View`, `Source`.
-/

namespace EventDispatch

/-- One level of a document. An integer tells whether its format wrote it as a signed one. A leaf
that is well formed but denotes nothing is `unreadable`. -/
inductive View (σ : Type) where
  | null
  | bool (value : Bool)
  | integer (value : Int) (signed : Bool)
  | real (value : Double)
  | string (value : String)
  | sequence (items : List σ)
  | mapping (fields : List (String × σ))
  | unreadable
deriving Repr, Inhabited

/-- A kind of document that can be decoded. -/
class Source (σ : Type) where
  /-- The outermost level. -/
  view : σ → View σ
  /-- The document as plain JSON. -/
  json : σ → Json
  /-- Whether surplus parts are refused: elements of a sequence beyond the fields of a record, and
  entries beside the one that names a choice. -/
  exact : Bool

namespace Json

/-- One level of a JSON value. -/
def view : Json → View Json
  | .null => .null
  | .bool b => .bool b
  | .number (.integer i _) => .integer i (i < 0)
  | .number (.double x) => .real x
  | .string s => .string s
  | .array items => .sequence items
  | .object fields => .mapping fields

instance : Source Json where
  view := view
  json v := v
  exact := true

end Json

namespace Written

/-- The fields of an object, unless a name among them denotes nothing. -/
def namedFields : List (Option String × Written) → Option (List (String × Written))
  | [] => some []
  | (some name, w) :: fs => (namedFields fs).map ((name, w) :: ·)
  | (none, _) :: _ => none

/-- One level of a written form. -/
def view : Written → View Written
  | .null => .null
  | .bool b => .bool b
  | .number (some (.integer i _)) => .integer i (i < 0)
  | .number (some (.double x)) => .real x
  | .number none => .unreadable
  | .string (some s) => .string s
  | .string none => .unreadable
  | .array items => .sequence items
  | .object fields => match namedFields fields with
    | some fields => .mapping fields
    | none => .unreadable

instance : Source Written where
  view := view
  json := Json.ofWritten
  exact := true

end Written
end EventDispatch
