import EventDispatch.Json.Value
import EventDispatch.Json.Quoted
/-!
JSON text.

Purpose: the compact text of a value, without blanks, and its indented text, with one item or field
on a line and two blanks for each depth.

Main exports: `Json.compact`, `Json.pretty`.
-/

namespace EventDispatch.Json

mutual
/-- The text of a value without blanks. -/
def compact : Json → String
  | .null => "null"
  | .bool true => "true"
  | .bool false => "false"
  | .number n => n.text
  | .string s => quote s
  | .array items => "[" ++ String.intercalate "," (compactItems items) ++ "]"
  | .object fields => "\x7b" ++ String.intercalate "," (compactFields fields) ++ "\x7d"
/-- The texts of items. -/
def compactItems : List Json → List String
  | [] => []
  | v :: vs => compact v :: compactItems vs
/-- The texts of fields, each a quoted name, a colon and the value. -/
def compactFields : List (String × Json) → List String
  | [] => []
  | (name, v) :: fs => (quote name ++ ":" ++ compact v) :: compactFields fs
end

/-- A line break followed by the blanks of a depth. -/
def lineBreak (depth : Nat) : String := "\n" ++ String.ofList (List.replicate (2 * depth) ' ')

/-- Entries on lines of their own between two brackets; nothing but the brackets without entries. -/
def block (opening closing : String) (depth : Nat) (entries : List String) : String :=
  if entries.isEmpty then opening ++ closing
  else opening ++ lineBreak (depth + 1) ++ String.intercalate ("," ++ lineBreak (depth + 1)) entries
    ++ lineBreak depth ++ closing

mutual
/-- The indented text of a value at a depth. -/
def indented (depth : Nat) : Json → String
  | .array items => block "[" "]" depth (indentedItems depth items)
  | .object fields => block "\x7b" "\x7d" depth (indentedFields depth fields)
  | .null => "null"
  | .bool true => "true"
  | .bool false => "false"
  | .number n => n.text
  | .string s => quote s
/-- The indented texts of items one level deeper. -/
def indentedItems (depth : Nat) : List Json → List String
  | [] => []
  | v :: vs => indented (depth + 1) v :: indentedItems depth vs
/-- The indented texts of fields one level deeper. -/
def indentedFields (depth : Nat) : List (String × Json) → List String
  | [] => []
  | (name, v) :: fs => (quote name ++ ": " ++ indented (depth + 1) v) :: indentedFields depth fs
end

/-- The indented text of a value. -/
def pretty (v : Json) : String := indented 0 v

end EventDispatch.Json
