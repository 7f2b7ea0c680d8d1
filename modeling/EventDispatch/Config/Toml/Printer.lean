import EventDispatch.Config.Document
/-!
Writing TOML.

Purpose: a text for a JSON object whose every entry is one line, with mappings inside it in braces.
Null has no form in TOML, so entries and elements that are null are left out.

Main exports: `Toml.render`.
-/

namespace EventDispatch.Toml

/-- A character between quotation marks. -/
def quotedChar (c : Char) : List Char :=
  if c = '"' then ['\\', '"']
  else if c = '\\' then ['\\', '\\']
  else if c.toNat < 32 ∨ c.toNat = 127 then
    let digits := Nat.toDigits 16 c.toNat
    ['\\', 'u'] ++ List.replicate (4 - digits.length) '0' ++ digits
  else [c]

/-- A string between quotation marks. -/
def quoted (s : String) : List Char := '"' :: (s.toList.flatMap quotedChar ++ ['"'])

/-- Parts with a comma and a blank between them. -/
def separated : List (List Char) → List Char
  | [] => []
  | [part] => part
  | part :: parts => part ++ ',' :: ' ' :: separated parts

mutual
/-- The text of a value. -/
def valueText : Json → List Char
  | .null => []
  | .bool b => (toString b).toList
  | .number n => n.text.toList
  | .string s => quoted s
  | .array items => '[' :: (separated (itemTexts items) ++ [']'])
  | .object fields => '\x7b' :: (separated (fieldTexts fields) ++ ['\x7d'])
/-- The texts of elements. -/
def itemTexts : List Json → List (List Char)
  | [] => []
  | .null :: vs => itemTexts vs
  | v :: vs => valueText v :: itemTexts vs
/-- The texts of assignments. -/
def fieldTexts : List (String × Json) → List (List Char)
  | [] => []
  | (_, .null) :: fs => fieldTexts fs
  | (name, v) :: fs => (quoted name ++ ' ' :: '=' :: ' ' :: valueText v) :: fieldTexts fs
end

/-- The text of an object, one line for each field. -/
def render (fields : Fields Json) : String :=
  String.ofList ((fieldTexts fields).flatMap fun line => line ++ ['\n'])

end EventDispatch.Toml
