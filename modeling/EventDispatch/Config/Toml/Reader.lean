import EventDispatch.Arithmetic
import EventDispatch.Config.Numeral
import EventDispatch.Config.Toml.Table
/-!
Reading TOML.

Purpose: a document is a sequence of lines, each with a header, an assignment or nothing, and a
comment behind it. Values are strings of four forms, integers of four bases, reals, truth values,
lists and mappings in braces. Integers count as signed. Dates have no place in a configuration and
are refused.

Main exports: `Toml.document?`.
-/

namespace EventDispatch.Toml

open scoped Arithmetic

/-- Blanks within a line. -/
def isBlank (c : Char) : Bool := c == ' ' || c == '\t'

def skipBlanks (cs : List Char) : List Char := cs.dropWhile isBlank

/-- Whether a character may stand in a comment or a string of one line. -/
def isPlain (c : Char) : Bool := c == '\t' || (' ' ≤ c && c.toNat ≠ 127)

/-- The rest behind a line break, if there is one. -/
def lineBreak? : List Char → Option (List Char)
  | '\n' :: cs => some cs
  | '\r' :: '\n' :: cs => some cs
  | _ => none

/-- Skips a comment, up to the end of its line. -/
def skipComment (cs : List Char) : List Char :=
  match cs with
  | '#' :: rest => rest.dropWhile isPlain
  | _ => cs

/-- Skips blanks, comments and line breaks. -/
def skipLines : (fuel : Nat) → List Char → List Char
  | 0, cs => cs
  | fuel + 1, cs =>
    let cs := skipComment (skipBlanks cs)
    match lineBreak? cs with
    | some rest => skipLines fuel rest
    | none => cs

/-- What bare names are made of. -/
def isNameChar (c : Char) : Bool := c.isAlphanum || c == '_' || c == '-'

/-- A character given by a number of hexadecimal digits. -/
def hexChar (digits : Nat) (cs : List Char) : Option (Char × List Char) :=
  let code := cs.take digits
  match Numeral.unsigned? 16 code with
  | some n =>
    if code.length = digits ∧ n.isValidChar then some (Char.ofNat n, cs.drop digits) else none
  | none => none

/-- The character behind a backslash. -/
def escaped : List Char → Option (Char × List Char)
  | '"' :: cs => some ('"', cs)
  | '\\' :: cs => some ('\\', cs)
  | 'b' :: cs => some (Char.ofNat 8, cs)
  | 'f' :: cs => some (Char.ofNat 12, cs)
  | 'n' :: cs => some ('\n', cs)
  | 'r' :: cs => some ('\r', cs)
  | 't' :: cs => some ('\t', cs)
  | 'u' :: cs => hexChar 4 cs
  | 'U' :: cs => hexChar 8 cs
  | _ => none

/-- The characters of a string of one line, up to the quotation mark. -/
def basic : (fuel : Nat) → List Char → Option (List Char × List Char)
  | 0, _ => none
  | _ + 1, [] => none
  | fuel + 1, c :: cs =>
    if c = '"' then some ([], cs)
    else if c = '\\' then do
      let (x, cs) ← escaped cs
      let (xs, cs) ← basic fuel cs
      return (x :: xs, cs)
    else if isPlain c then (basic fuel cs).map fun (xs, cs) => (c :: xs, cs)
    else none

/-- The characters of a verbatim string of one line, up to the apostrophe. -/
def verbatim : List Char → Option (List Char × List Char)
  | [] => none
  | c :: cs =>
    if c = '\'' then some ([], cs)
    else if isPlain c then (verbatim cs).map fun (xs, cs) => (c :: xs, cs)
    else none

/-- The end of a string of several lines: three marks, with up to two more that belong to it. -/
def closing? (mark : Char) (cs : List Char) : Option (List Char × List Char) :=
  let marks := (cs.takeWhile (· == mark)).length
  if marks < 3 then none
  else if marks ≤ 5 then some (List.replicate (marks - 3) mark, cs.drop marks)
  else some (List.replicate 2 mark, cs.drop 5)

/-- Skips the line break, blanks and empty lines behind a backslash at the end of a line. -/
def skipFold (cs : List Char) : Option (List Char) :=
  match lineBreak? (skipBlanks cs) with
  | some rest => some (rest.dropWhile fun c => isBlank c || c == '\n' || c == '\r')
  | none => none

/-- The characters of a string of several lines. -/
def lines (mark : Char) : (fuel : Nat) → List Char → Option (List Char × List Char)
  | 0, _ => none
  | _ + 1, [] => none
  | fuel + 1, c :: cs => match closing? mark (c :: cs) with
    | some result => some result
    | none =>
      if c = '\\' ∧ mark = '"' then match skipFold cs with
        | some cs => lines mark fuel cs
        | none => do
          let (x, cs) ← escaped cs
          let (xs, cs) ← lines mark fuel cs
          return (x :: xs, cs)
      else match lineBreak? (c :: cs) with
        | some cs => (lines mark fuel cs).map fun (xs, cs) => ('\n' :: xs, cs)
        | none =>
          if isPlain c then (lines mark fuel cs).map fun (xs, cs) => (c :: xs, cs) else none

/-- A string of several lines; a line break right behind its opening is dropped. -/
def manyLines (mark : Char) (cs : List Char) : Option (List Char × List Char) :=
  let cs := (lineBreak? cs).getD cs
  lines mark (cs.length + 1) cs

/-- A string of any form, from its first mark on. -/
def string? (cs : List Char) : Option (Option (List Char × List Char)) :=
  match cs with
  | '"' :: '"' :: '"' :: rest => some (manyLines '"' rest)
  | '\'' :: '\'' :: '\'' :: rest => some (manyLines '\'' rest)
  | '"' :: rest => some (basic (rest.length + 1) rest)
  | '\'' :: rest => some (verbatim rest)
  | _ => none

/-- One step of a name. -/
def step (cs : List Char) : Option (String × List Char) :=
  match cs with
  | '"' :: rest => (basic (rest.length + 1) rest).map fun (xs, cs) => (String.ofList xs, cs)
  | '\'' :: rest => (verbatim rest).map fun (xs, cs) => (String.ofList xs, cs)
  | _ =>
    let own := cs.takeWhile isNameChar
    if own.isEmpty then none else some (String.ofList own, cs.drop own.length)

/-- A name: steps with dots between them, and blanks around them. -/
def path : (fuel : Nat) → List Char → Option (List String × List Char)
  | 0, _ => none
  | fuel + 1, cs => do
    let (first, cs) ← step (skipBlanks cs)
    match skipBlanks cs with
    | '.' :: cs =>
      let (rest, cs) ← path fuel cs
      return (first :: rest, cs)
    | cs => return ([first], cs)

/-- Digits with single underscores between them, without the underscores. -/
def plainDigits (base : Nat) : List Char → Option (List Char)
  | [] => none
  | [c] => if (Numeral.digit? base c).isSome then some [c] else none
  | c :: '_' :: cs =>
    if (Numeral.digit? base c).isSome then (plainDigits base cs).map (c :: ·) else none
  | c :: cs => if (Numeral.digit? base c).isSome then (plainDigits base cs).map (c :: ·) else none

/-- Digits of a decimal numeral: no zero leads other digits. -/
def decimalDigits (cs : List Char) : Option (List Char) :=
  (plainDigits 10 cs).filter fun digits => digits.length = 1 || digits.head? ≠ some '0'

/-- An integer that fits 64 bits with a sign. -/
def signed (i : Int) : Option Document :=
  if -2 ^ (63 : Nat) ≤ i ∧ i < 2 ^ (63 : Nat) then some (.integer i true) else none

/-- The document of an integer numeral. -/
def integer? (word : List Char) : Option Document :=
  let based (base : Nat) (cs : List Char) : Option Document :=
    ((plainDigits base cs).bind (Numeral.unsigned? base)).bind fun n => signed n
  let decimal (sign : Int) (cs : List Char) : Option Document :=
    ((decimalDigits cs).bind (Numeral.unsigned? 10)).bind fun n => signed (sign * n)
  match word with
  | '0' :: 'x' :: cs => based 16 cs
  | '0' :: 'o' :: cs => based 8 cs
  | '0' :: 'b' :: cs => based 2 cs
  | '-' :: cs => decimal (-1) cs
  | '+' :: cs => decimal 1 cs
  | cs => decimal 1 cs

/-- The document of a real numeral: digits, then a fraction, an exponent, or both. -/
def real? (word : List Char) : Option Document := do
  let (sign, cs) := match word with
    | '-' :: cs => (['-'], cs)
    | '+' :: cs => ([], cs)
    | cs => ([], cs)
  let isPart (c : Char) : Bool := Numeral.isDigit c || c == '_'
  let whole ← decimalDigits (cs.takeWhile isPart)
  let rest := cs.dropWhile isPart
  let (fraction, rest) ← match rest with
    | '.' :: rest => (plainDigits 10 (rest.takeWhile isPart)).map fun digits =>
      ('.' :: digits, rest.dropWhile isPart)
    | _ => some ([], rest)
  let exponent ← match rest with
    | [] => some []
    | mark :: rest =>
      let (sign, digits) := match rest with
        | '-' :: digits => (['-'], digits)
        | '+' :: digits => ([], digits)
        | digits => ([], digits)
      (plainDigits 10 digits).map fun digits => mark :: sign ++ digits
  if fraction.isEmpty && exponent.isEmpty then none
  else (Numeral.real? (sign ++ whole ++ fraction ++ exponent)).map Numeral.document

/-- What words of values are made of. -/
def isWordChar (c : Char) : Bool := c.isAlphanum || c == '_' || c == '-' || c == '+' || c == '.'

/-- The document of a word. -/
def word? (cs : List Char) : Option Document :=
  let limits : List (List Char) := ["inf".toList, "+inf".toList, "-inf".toList, "nan".toList,
    "+nan".toList, "-nan".toList]
  if cs = "true".toList then some (.bool true)
  else if cs = "false".toList then some (.bool false)
  else if limits.contains cs then some .null
  else (integer? cs).or (real? cs)

mutual
/-- Reads a value. -/
def value : (fuel : Nat) → List Char → Option (Document × List Char)
  | 0, _ => none
  | fuel + 1, cs => match string? cs with
    | some result => result.map fun (xs, cs) => (.string (String.ofList xs), cs)
    | none => match cs with
      | '[' :: rest => (items fuel rest).map fun (ds, cs) => (.sequence ds, cs)
      | '\x7b' :: rest => do
        let (statements, cs) ← match skipBlanks rest with
          | '\x7d' :: cs => some ([], cs)
          | rest => pairs fuel rest
        return (← assemble statements, cs)
      | _ =>
        let own := cs.takeWhile isWordChar
        (word? own).map fun d => (d, cs.drop own.length)
/-- Reads the elements of a list up to its closing bracket. A comma may stand behind the last. -/
def items : (fuel : Nat) → List Char → Option (List Document × List Char)
  | 0, _ => none
  | fuel + 1, cs => match skipLines cs.length cs with
    | ']' :: rest => some ([], rest)
    | cs => do
      let (d, cs) ← value fuel cs
      match skipLines cs.length cs with
      | ',' :: rest =>
        let (ds, rest) ← items fuel rest
        return (d :: ds, rest)
      | ']' :: rest => return ([d], rest)
      | _ => none
/-- Reads the assignments of a mapping up to its closing brace. -/
def pairs : (fuel : Nat) → List Char → Option (List Statement × List Char)
  | 0, _ => none
  | fuel + 1, cs => do
    let (s, cs) ← assignment fuel cs
    match skipBlanks cs with
    | ',' :: rest =>
      let (ss, rest) ← pairs fuel rest
      return (s :: ss, rest)
    | '\x7d' :: rest => return ([s], rest)
    | _ => none
/-- Reads an assignment. -/
def assignment : (fuel : Nat) → List Char → Option (Statement × List Char)
  | 0, _ => none
  | fuel + 1, cs => do
    let (name, cs) ← path (cs.length + 1) cs
    match cs with
    | '=' :: cs =>
      let (d, cs) ← value fuel (skipBlanks cs)
      return (.assignment name d, cs)
    | _ => none
end

/-- Reads one statement. -/
def statement (cs : List Char) : Option (Statement × List Char) :=
  match cs with
  | '[' :: '[' :: rest => do
    let (name, rest) ← path (rest.length + 1) rest
    match rest with
    | ']' :: ']' :: rest => return (.listHeader name, rest)
    | _ => none
  | '[' :: rest => do
    let (name, rest) ← path (rest.length + 1) rest
    match rest with
    | ']' :: rest => return (.header name, rest)
    | _ => none
  | _ => assignment (4 * cs.length + 4) cs

/-- Reads the statements of a document. Behind each of them its line ends. -/
def statements : (fuel : Nat) → List Char → Option (List Statement)
  | 0, _ => none
  | fuel + 1, cs => match skipLines (cs.length + 1) cs with
    | [] => some []
    | cs => do
      let (s, cs) ← statement cs
      match skipComment (skipBlanks cs) with
      | [] => return [s]
      | cs =>
        let cs ← lineBreak? cs
        return s :: (← statements fuel cs)

/-- The document of a text; nothing when the text is malformed. -/
def document? (text : String) : Option Document :=
  let cs := text.toList
  let cs := if cs.head?.any (·.toNat = 0xFEFF) then cs.drop 1 else cs
  (statements (cs.length + 1) cs).bind assemble

end EventDispatch.Toml
