import EventDispatch.Config.Numeral
import EventDispatch.Text.Blank
/-!
Values of variables.

Purpose: a variable holds a text, and the text may spell a document: a truth value, a number, a
quoted string, a list in brackets, a mapping in braces, or else a bare word up to the next
separator. A bare word is a real when it has a point and reads as one, an integer when it reads as
one, and a string otherwise. A text that spells no document as a whole is the string it is.

Main exports: `Inline.document`.
-/

namespace EventDispatch.Inline

/-- Blanks of a text in variables: those of ASCII. -/
def isBlank (c : Char) : Bool :=
  c == ' ' || c == '\t' || c == '\n' || c == '\r' || c == Char.ofNat 12

def skipBlanks (cs : List Char) : List Char := cs.dropWhile isBlank

/-- What ends a bare word. -/
def isSeparator (c : Char) : Bool :=
  c == ',' || c == '\x7b' || c == '\x7d' || c == '[' || c == ']'

/-- What bare names are made of. -/
def isNameChar (c : Char) : Bool := c.isAlphanum || c == '_' || c == '-'

/-- What may stand as itself between quotation marks. -/
def isPlain (c : Char) : Bool := c == '\t' || (' ' ≤ c && c.toNat ≠ 127)

/-- A character given by a number of hexadecimal digits. -/
def hexChar (digits : Nat) (cs : List Char) : Option (Char × List Char) :=
  let code := cs.take digits
  match Numeral.unsigned? 16 code with
  | some n =>
    if code.length = digits ∧ n.isValidChar then some (Char.ofNat n, cs.drop digits) else none
  | none => none

/-- The character behind a backslash. -/
def escaped : List Char → Option (Char × List Char)
  | '"' :: cs => some ('"', cs)
  | '\\' :: cs => some ('\\', cs)
  | 'b' :: cs => some (Char.ofNat 8, cs)
  | 'f' :: cs => some (Char.ofNat 12, cs)
  | 'n' :: cs => some ('\n', cs)
  | 'r' :: cs => some ('\r', cs)
  | 't' :: cs => some ('\t', cs)
  | 'u' :: cs => hexChar 4 cs
  | 'U' :: cs => hexChar 8 cs
  | _ => none

/-- The characters up to the closing quotation mark. -/
def quoted : (fuel : Nat) → List Char → Option (List Char × List Char)
  | 0, _ => none
  | _ + 1, [] => none
  | fuel + 1, c :: cs =>
    if c = '"' then some ([], cs)
    else if c = '\\' then do
      let (x, cs) ← escaped cs
      let (xs, cs) ← quoted fuel cs
      return (x :: xs, cs)
    else if isPlain c then do
      let (xs, cs) ← quoted fuel cs
      return (c :: xs, cs)
    else none

/-- The document of a bare word. -/
def word (cs : List Char) : Document :=
  let text := Text.trimmed (String.ofList cs)
  let cs := text.toList
  match if cs.contains '.' then Numeral.real? cs else none with
  | some x => Numeral.document x
  | none => match Numeral.natural? cs with
    | some n => .integer n false
    | none => match Numeral.integer? cs with
      | some i => .integer i true
      | none => .string text

/-- A name of a mapping: quoted or bare. -/
def name (cs : List Char) : Option (String × List Char) :=
  match cs with
  | '"' :: rest => (quoted (rest.length + 1) rest).map fun (xs, rest) => (String.ofList xs, rest)
  | _ =>
    let own := cs.takeWhile isNameChar
    if own.isEmpty then none else some (String.ofList own, cs.drop own.length)

mutual
/-- Reads a document with the blanks around it. -/
def value : (fuel : Nat) → List Char → Option (Document × List Char)
  | 0, _ => none
  | fuel + 1, cs => (unspaced fuel (skipBlanks cs)).map fun (d, cs) => (d, skipBlanks cs)
/-- Reads a document up to its last character. -/
def unspaced : (fuel : Nat) → List Char → Option (Document × List Char)
  | 0, _ => none
  | fuel + 1, cs =>
    if "true".toList.isPrefixOf cs then some (.bool true, cs.drop 4)
    else if "false".toList.isPrefixOf cs then some (.bool false, cs.drop 5)
    else match cs with
      | '\x7b' :: rest =>
        (entries fuel rest).map fun (fields, rest) => (Document.ofPairs fields, rest)
      | '[' :: rest => (items fuel rest).map fun (xs, rest) => (.sequence xs, rest)
      | '"' :: rest =>
        (quoted (rest.length + 1) rest).map fun (xs, rest) => (.string (String.ofList xs), rest)
      | '\'' :: rest => match rest with
        | c :: '\'' :: rest => some (.string c.toString, rest)
        | _ => none
      | _ =>
        let own := cs.takeWhile fun c => !isSeparator c
        some (word own, cs.drop own.length)
/-- Reads the elements of a list up to its closing bracket. A comma may stand behind the last. -/
def items : (fuel : Nat) → List Char → Option (List Document × List Char)
  | 0, _ => none
  | fuel + 1, cs => match cs with
    | ']' :: rest => some ([], rest)
    | _ => do
      let (d, cs) ← value fuel cs
      match cs with
      | ',' :: rest =>
        let (ds, rest) ← items fuel rest
        return (d :: ds, rest)
      | ']' :: rest => return ([d], rest)
      | _ => none
/-- Reads the entries of a mapping up to its closing brace. A comma may stand behind the last. -/
def entries : (fuel : Nat) → List Char →
    Option (List (String × Document) × List Char)
  | 0, _ => none
  | fuel + 1, cs => match cs with
    | '\x7d' :: rest => some ([], rest)
    | _ => do
      let (own, cs) ← name (skipBlanks cs)
      match skipBlanks cs with
      | '=' :: cs =>
        let (d, cs) ← value fuel cs
        match cs with
        | ',' :: rest =>
          let (ds, rest) ← entries fuel rest
          return ((own, d) :: ds, rest)
        | '\x7d' :: rest => return ([(own, d)], rest)
        | _ => none
      | _ => none
end

/-- The document of a variable's text. -/
def document (text : String) : Document :=
  let cs := text.toList
  match value (3 * cs.length + 3) cs with
  | some (d, []) => d
  | _ => .string text

end EventDispatch.Inline
