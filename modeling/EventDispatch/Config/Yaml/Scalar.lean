import EventDispatch.Arithmetic
import EventDispatch.Config.Numeral
import EventDispatch.Text.Blank
/-!
Scalars of YAML.

Purpose: what a plain word stands for, and the two forms of quoted strings. A plain word is null, a
truth value, an integer or a real when it is spelled like one, and a string otherwise; leading zeros
make it a string. Quoted strings stand on one line.

Main exports: `Yaml.plain`, `Yaml.doubleQuoted`, `Yaml.singleQuoted`.
-/

namespace EventDispatch.Yaml

open scoped Arithmetic

/-- Whether a character may occur in a text at all. -/
def isPrintable (c : Char) : Bool :=
  let n := c.toNat
  n == 9 || n == 10 || n == 13 || (32 ≤ n && n ≤ 126) || n == 0x85 ||
    (0xA0 ≤ n && n ≤ 0xFFFD && n != 0xFEFF) || 0x10000 ≤ n

/-- Digits with a zero before others spell no number. -/
def hasLeadingZero (digits : List Char) : Bool :=
  1 < digits.length && digits.head? == some '0' && digits.all Numeral.isDigit

/-- The value of digits, of a base that their beginning tells. -/
def magnitude? (cs : List Char) : Option Nat :=
  match cs with
  | '0' :: 'x' :: cs => Numeral.unsigned? 16 cs
  | '0' :: 'o' :: cs => Numeral.unsigned? 8 cs
  | '0' :: 'b' :: cs => Numeral.unsigned? 2 cs
  | cs => if hasLeadingZero cs then none else Numeral.unsigned? 10 cs

/-- The document of an integer. -/
def integer? (cs : List Char) : Option Document :=
  match cs with
  | '-' :: digits => ((magnitude? digits).filter (· ≤ 2 ^ (63 : Nat))).map fun n =>
    .integer (-(n : Int)) true
  | '+' :: digits => ((magnitude? digits).filter (· < 2 ^ (64 : Nat))).map fun n => .integer n false
  | digits => ((magnitude? digits).filter (· < 2 ^ (64 : Nat))).map fun n => .integer n false

/-- The document of a real; one beyond the range of doubles is none. -/
def real? (cs : List Char) : Option Document :=
  let digits := match cs with
    | '-' :: digits => digits
    | '+' :: digits => digits
    | digits => digits
  if hasLeadingZero digits then none else ((Numeral.real? cs).bind fun x => x).map .real

/-- The words that denote a value that is no number of JSON. -/
def limits : List String :=
  [".inf", ".Inf", ".INF", "+.inf", "+.Inf", "+.INF", "-.inf", "-.Inf", "-.INF", ".nan", ".NaN",
    ".NAN"]

/-- The document of a plain word. -/
def plain (text : String) : Document :=
  if ["", "~", "null", "Null", "NULL"].contains text || limits.contains text then .null
  else if ["true", "True", "TRUE"].contains text then .bool true
  else if ["false", "False", "FALSE"].contains text then .bool false
  else ((integer? text.toList).or (real? text.toList)).getD (.string text)

/-- A character given by a number of hexadecimal digits. -/
def hexChar (digits : Nat) (cs : List Char) : Option (Char × List Char) :=
  let code := cs.take digits
  match Numeral.unsigned? 16 code with
  | some n =>
    if code.length = digits ∧ n.isValidChar then some (Char.ofNat n, cs.drop digits) else none
  | none => none

/-- The characters that have one-letter escapes. -/
def letterEscapes : List (Char × Nat) :=
  [('0', 0), ('a', 7), ('b', 8), ('t', 9), ('n', 10), ('v', 11), ('f', 12), ('r', 13), ('e', 27),
    (' ', 32), ('"', 34), ('/', 47), ('\\', 92), ('N', 0x85), ('_', 0xA0), ('L', 0x2028),
    ('P', 0x2029)]

/-- The character behind a backslash. -/
def escaped : List Char → Option (Char × List Char)
  | [] => none
  | c :: cs =>
    if c = 'x' then hexChar 2 cs
    else if c = 'u' then hexChar 4 cs
    else if c = 'U' then hexChar 8 cs
    else (letterEscapes.lookup c).map fun n => (Char.ofNat n, cs)

/-- The characters up to the closing quotation mark. -/
def doubleQuoted : (fuel : Nat) → List Char → Option (List Char × List Char)
  | 0, _ => none
  | _ + 1, [] => none
  | fuel + 1, c :: cs =>
    if c = '"' then some ([], cs)
    else if c = '\\' then do
      let (x, cs) ← escaped cs
      let (xs, cs) ← doubleQuoted fuel cs
      return (x :: xs, cs)
    else if c = '\n' ∨ c = '\r' then none
    else (doubleQuoted fuel cs).map fun (xs, cs) => (c :: xs, cs)

/-- The characters up to the closing apostrophe; two apostrophes stand for one. -/
def singleQuoted : List Char → Option (List Char × List Char)
  | [] => none
  | '\'' :: '\'' :: cs => (singleQuoted cs).map fun (xs, cs) => ('\'' :: xs, cs)
  | c :: cs =>
    if c = '\'' then some ([], cs)
    else if c = '\n' ∨ c = '\r' then none
    else (singleQuoted cs).map fun (xs, cs) => (c :: xs, cs)

/-- A quoted string of either form, from its first mark on. -/
def quoted? (cs : List Char) : Option (Option (String × List Char)) :=
  let text (result : Option (List Char × List Char)) : Option (String × List Char) :=
    result.map fun (xs, cs) => (String.ofList xs, cs)
  match cs with
  | '"' :: rest => some (text (doubleQuoted (rest.length + 1) rest))
  | '\'' :: rest => some (text (singleQuoted rest))
  | _ => none

end EventDispatch.Yaml
