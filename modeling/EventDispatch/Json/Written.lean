import EventDispatch.Json.Value
/-!
JSON text before it becomes a value.

Purpose: the written form keeps what a value forgets: the order of fields, repeated names, and
leaves that are well formed as text but denote nothing, such as a number beyond the range of doubles
or half of a surrogate pair. A part of a document that nobody looks at may hold such leaves.

Main exports: `Written`, `ReadError`, `ReadError.message`, `Json.ofWritten`.
-/

namespace EventDispatch

/-- The written form of a JSON value. A leaf that denotes nothing is `none`. -/
inductive Written where
  | null
  | bool (value : Bool)
  | number (value : Option Number)
  | string (value : Option String)
  | array (items : List Written)
  | object (fields : List (Option String × Written))
deriving Repr, Inhabited

mutual
/-- The value of a written form; of a repeated name the last value stays. -/
def Json.ofWritten : Written → Json
  | .null => .null
  | .bool b => .bool b
  | .number n => match n with
    | some n => .number n
    | none => .null
  | .string s => match s with
    | some s => .string s
    | none => .null
  | .array items => .array (Json.ofWrittenItems items)
  | .object fields => Json.ofPairs (Json.ofWrittenFields fields)
/-- The values of items. -/
def Json.ofWrittenItems : List Written → List Json
  | [] => []
  | w :: ws => Json.ofWritten w :: Json.ofWrittenItems ws
/-- The values of fields in written order. -/
def Json.ofWrittenFields : List (Option String × Written) → List (String × Json)
  | [] => []
  | (name, w) :: fs => (name.getD "", Json.ofWritten w) :: Json.ofWrittenFields fs
end

/-- Why a text is no JSON document. -/
inductive ReadFault where
  | endInList
  | endInObject
  | endInString
  | endInValue
  | expectedColon
  | expectedListEnd
  | expectedObjectEnd
  | expectedWord
  | expectedValue
  | invalidEscape
  | invalidNumber
  | numberOutOfRange
  | controlCharacter
  | nameNotString
  | loneSurrogate
  | unfinishedSurrogatePair
  | trailingComma
  | trailingCharacters
  | tooDeep
deriving DecidableEq, Repr, Inhabited

/-- The wording of a fault. -/
def ReadFault.message : ReadFault → String
  | .endInList => "EOF while parsing a list"
  | .endInObject => "EOF while parsing an object"
  | .endInString => "EOF while parsing a string"
  | .endInValue => "EOF while parsing a value"
  | .expectedColon => "expected \x60:\x60"
  | .expectedListEnd => "expected \x60,\x60 or \x60]\x60"
  | .expectedObjectEnd => "expected \x60,\x60 or \x60\x7d\x60"
  | .expectedWord => "expected ident"
  | .expectedValue => "expected value"
  | .invalidEscape => "invalid escape"
  | .invalidNumber => "invalid number"
  | .numberOutOfRange => "number out of range"
  | .controlCharacter =>
    "control character (\\u0000-\\u001F) found while parsing a string"
  | .nameNotString => "key must be a string"
  | .loneSurrogate => "lone leading surrogate in hex escape"
  | .unfinishedSurrogatePair => "unexpected end of hex escape"
  | .trailingComma => "trailing comma"
  | .trailingCharacters => "trailing characters"
  | .tooDeep => "recursion limit exceeded"

/-- A place in a text: lines count from one, columns count the bytes since the last line feed. -/
structure Place where
  line : Nat
  column : Nat
deriving DecidableEq, Repr, Inhabited

/-- A fault and the place where reading stopped. -/
structure ReadError where
  fault : ReadFault
  place : Place
deriving DecidableEq, Repr, Inhabited

/-- The wording of an error with its place. -/
def ReadError.message (e : ReadError) : String :=
  e.fault.message ++ " at line " ++ toString e.place.line ++ " column " ++ toString e.place.column

end EventDispatch
