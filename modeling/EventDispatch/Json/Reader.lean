import EventDispatch.Arithmetic
import EventDispatch.Json.Written
import EventDispatch.Json.Literal
/-!
Reading JSON text.

Purpose: one reader from left to right. What is not JSON at all stops it. A defect is a part that is
well formed as text but has no value (a number out of range, a lone surrogate, a nesting deeper than
127): the reader remembers the first one and goes on. `Json.parse` refuses a text with a defect;
`Written.parse` gives the written form in any case, for readers that look only at some fields.

Main exports: `Written.parse`, `Json.parse`.
-/

namespace EventDispatch

open scoped Arithmetic

/-- How far a text has been read, and the first defect met. -/
structure Cursor where
  rest : List Char
  place : Place
  defect : Option ReadError
deriving Repr, Inhabited

/-- The place behind the first byte of a character. -/
def Place.afterByte (p : Place) (c : Char) : Place :=
  if c = '\n' then ⟨p.line + 1, 0⟩ else ⟨p.line, p.column + 1⟩

/-- The place behind a character. -/
def Place.after (p : Place) (c : Char) : Place :=
  if c = '\n' then ⟨p.line + 1, 0⟩ else ⟨p.line, p.column + c.utf8Size⟩

/-- The place behind a number of bytes of a text. -/
def Place.afterBytes (p : Place) : (bytes : Nat) → List Char → Place
  | _, [] => p
  | bytes, c :: cs =>
    if bytes = 0 then p
    else if c.utf8Size ≤ bytes then (p.after c).afterBytes (bytes - c.utf8Size) cs
    else ⟨p.line, p.column + bytes⟩

namespace Cursor

/-- The start of a text. -/
def start (text : List Char) : Cursor := ⟨text, ⟨1, 0⟩, none⟩

/-- The cursor behind its first character. -/
def next (c : Cursor) : Cursor :=
  match c.rest with
  | [] => c
  | x :: xs => { c with rest := xs, place := c.place.after x }

/-- The place behind the first byte that is still to be read. -/
def ahead (c : Cursor) : Place :=
  match c.rest with
  | [] => c.place
  | x :: _ => c.place.afterByte x

/-- Remembers a defect unless an earlier one is known. -/
def note (c : Cursor) (fault : ReadFault) (place : Place) : Cursor :=
  { c with defect := c.defect.or (some ⟨fault, place⟩) }

/-- The error that stops reading: an earlier defect goes first. -/
def error (c : Cursor) (fault : ReadFault) (place : Place) : ReadError :=
  c.defect.getD ⟨fault, place⟩

def isBlank (c : Char) : Bool := c == ' ' || c == '\n' || c == '\t' || c == '\r'

/-- Moves over characters of a class. -/
def skipList (p : Char → Bool) : List Char → Place → List Char × Place
  | [], place => ([], place)
  | x :: xs, place => if p x then skipList p xs (place.after x) else (x :: xs, place)

/-- The cursor at the next character that is no blank. -/
def skipBlanks (c : Cursor) : Cursor :=
  let (rest, place) := skipList isBlank c.rest c.place
  { c with rest, place }

/-- The values of the decimal digits ahead, and the cursor behind them. -/
def takeDigits (c : Cursor) : List Nat × Cursor :=
  let digits := c.rest.takeWhile Char.isDigit
  (digits.map (fun d => d.toNat - '0'.toNat),
    { c with rest := c.rest.dropWhile Char.isDigit
             place := ⟨c.place.line, c.place.column + digits.length⟩ })

end Cursor

/-- The result of reading: what was read and the cursor behind it. -/
abbrev ReadResult (α : Type) := Except ReadError (α × Cursor)

namespace Reader

/-- Reads the rest of a literal word. -/
def word (value : Written) : List Char → Cursor → ReadResult Written
  | [], c => .ok (value, c)
  | w :: ws, c => match c.rest with
    | [] => .error (c.error .endInValue c.place)
    | x :: _ => if x = w then word value ws c.next else .error (c.error .expectedWord c.ahead)

/-- The number of digits after which an exponent no longer fits 32 bits, if it does not. -/
def exponentOverflow : List Nat → (value read : Nat) → Option Nat
  | [], _, _ => none
  | d :: ds, value, read =>
    let next := 10 * value + d
    if next < 2 ^ (31 : Nat) then exponentOverflow ds next (read + 1) else some (read + 1)

/-- Finishes a literal: a value out of range is a defect. -/
def finishNumber (literal : Literal) (c : Cursor) : ReadResult Written :=
  match literal.value? with
  | some n => .ok (.number (some n), c)
  | none => .ok (.number none, c.note .numberOutOfRange c.place)

/-- Reads an exponent behind its letter. -/
def exponent (literal : Literal) (c : Cursor) : ReadResult Written :=
  let (negative, c) := match c.rest with
    | '+' :: _ => (false, c.next)
    | '-' :: _ => (true, c.next)
    | _ => (false, c)
  match c.rest with
  | [] => .error (c.error .endInValue c.place)
  | x :: _ =>
    if !x.isDigit then .error (c.error .invalidNumber c.ahead)
    else
      let (digits, behind) := c.takeDigits
      let size : Nat := digits.foldl (fun n d => 10 * n + d) 0
      let literal :=
        { literal with exponent := some (if negative then -(size : Int) else size) }
      match exponentOverflow digits 0 0 with
      | some read =>
        if negative || literal.parts.1 == 0 then
          .ok (.number (some (.double { Double.zero with negative := literal.negative })), behind)
        else
          .ok (.number none, behind.note .numberOutOfRange
            ⟨c.place.line, c.place.column + read⟩)
      | none => finishNumber literal behind

/-- Reads an exponent if one follows. -/
def exponent? (literal : Literal) (c : Cursor) : ReadResult Written :=
  match c.rest with
  | 'e' :: _ => exponent literal c.next
  | 'E' :: _ => exponent literal c.next
  | _ => finishNumber literal c

/-- Reads a number behind its sign. -/
def number (negative : Bool) (c : Cursor) : ReadResult Written :=
  match c.rest with
  | [] => .error (c.error .endInValue c.place)
  | x :: _ =>
    if !x.isDigit then .error (c.error .invalidNumber c.ahead)
    else
      let (whole, c) := if x = '0' then ([0], c.next) else c.takeDigits
      let literal : Literal := ⟨negative, whole, none, none⟩
      match c.rest with
      | '.' :: _ =>
        let c := c.next
        let (fraction, behind) := c.takeDigits
        if fraction.isEmpty then
          .error (if c.rest.isEmpty then c.error .endInValue c.place
            else c.error .invalidNumber c.ahead)
        else exponent? { literal with fraction := some fraction } behind
      | y :: _ =>
        if x = '0' && y.isDigit then .error (c.error .invalidNumber c.ahead)
        else exponent? literal c
      | [] => exponent? literal c

/-- The value of a hexadecimal digit. -/
def hexValue? (c : Char) : Option Nat :=
  if c.isDigit then some (c.toNat - '0'.toNat)
  else if 'a' ≤ c ∧ c ≤ 'f' then some (c.toNat - 'a'.toNat + 10)
  else if 'A' ≤ c ∧ c ≤ 'F' then some (c.toNat - 'A'.toNat + 10)
  else none

/-- The value of four hexadecimal digits ahead. -/
def hexFour? : List Char → Option Nat
  | a :: b :: c :: d :: _ => do
    let a ← hexValue? a
    let b ← hexValue? b
    let c ← hexValue? c
    let d ← hexValue? d
    return ((a * 16 + b) * 16 + c) * 16 + d
  | _ => none

/-- The number of bytes of a text, counted up to four. -/
def bytesUpToFour (cs : List Char) : Nat := ((cs.take 4).map Char.utf8Size).sum

/-- Reads four hexadecimal digits. -/
def hexEscape (c : Cursor) : ReadResult Nat :=
  if bytesUpToFour c.rest < 4 then
    .error (c.error .endInString (c.place.afterBytes 4 c.rest))
  else match hexFour? c.rest with
    | some n => .ok (n, c.next.next.next.next)
    | none => .error (c.error .invalidEscape (c.place.afterBytes 4 c.rest))

/-- Reads what follows the first half of a surrogate pair: the character of the pair, or nothing
and a defect. -/
def secondHalf (high : Nat) (c : Cursor) : Option Char × Cursor :=
  match c.rest with
  | [] => (none, c)
  | '\\' :: [] => (none, c)
  | '\\' :: 'u' :: rest =>
    let behind := c.next.next
    match hexFour? rest with
    | none => (none, c)
    | some low =>
      let behind := behind.next.next.next.next
      if 0xDC00 ≤ low ∧ low ≤ 0xDFFF then
        (some (Char.ofNat (0x10000 + (high - 0xD800) * 0x400 + (low - 0xDC00))), behind)
      else (none, c.note .loneSurrogate behind.place)
  | '\\' :: _ :: _ => (none, c.note .unfinishedSurrogatePair c.next.ahead)
  | _ :: _ => (none, c.note .unfinishedSurrogatePair c.ahead)

/-- The character that a one-letter escape stands for. -/
def simpleEscape? (c : Char) : Option Char :=
  match c with
  | '"' => some '"'
  | '\\' => some '\\'
  | '/' => some '/'
  | 'b' => some (Char.ofNat 8)
  | 'f' => some (Char.ofNat 12)
  | 'n' => some '\n'
  | 'r' => some '\r'
  | 't' => some '\t'
  | _ => none

/-- Reads an escape behind its backslash: its character, or nothing and a defect. -/
def escaped (c : Cursor) : ReadResult (Option Char) :=
  match c.rest with
  | [] => .error (c.error .endInString c.place)
  | 'u' :: _ =>
    match hexEscape c.next with
    | .error e => .error e
    | .ok (n, c) =>
      if 0xD800 ≤ n ∧ n ≤ 0xDBFF then .ok (secondHalf n c)
      else if 0xDC00 ≤ n ∧ n ≤ 0xDFFF then .ok (none, c.note .loneSurrogate c.place)
      else .ok (some (Char.ofNat n), c)
  | x :: _ => match simpleEscape? x with
    | some y => .ok (some y, c.next)
    | none => .error (c.error .invalidEscape c.ahead)

/-- Reads a string behind its opening quotation mark. The characters read so far are kept in
reverse, and not at all once one of them is missing. -/
def stringBody : (fuel : Nat) → Option (List Char) → Cursor → ReadResult (Option String)
  | 0, _, c => .error (c.error .endInString c.place)
  | fuel + 1, sofar, c =>
    match c.rest with
    | [] => .error (c.error .endInString c.place)
    | '"' :: _ => .ok (sofar.map (fun cs => String.ofList cs.reverse), c.next)
    | '\\' :: _ => match escaped c.next with
      | .error e => .error e
      | .ok (x, c) =>
        stringBody fuel (match sofar, x with
          | some cs, some x => some (x :: cs)
          | _, _ => none) c
    | x :: _ =>
      if x.toNat < 32 then .error (c.error .controlCharacter c.ahead)
      else stringBody fuel (sofar.map (x :: ·)) c.next

/-- Reads a string behind its opening quotation mark. -/
def string (c : Cursor) : ReadResult (Option String) :=
  stringBody (c.rest.length + 1) (some []) c

/-- The greatest nesting that a value may have. -/
def depthLimit : Nat := 127

/-- Notes a nesting beyond the limit. -/
def enter (depth : Nat) (c : Cursor) : Cursor :=
  if depthLimit ≤ depth then c.note .tooDeep c.ahead else c

mutual
/-- Reads a value inside `depth` brackets. -/
def value : (fuel depth : Nat) → Cursor → ReadResult Written
  | 0, _, c => .error (c.error .endInValue c.place)
  | fuel + 1, depth, c =>
    let c := c.skipBlanks
    match c.rest with
    | [] => .error (c.error .endInValue c.place)
    | 'n' :: _ => word .null ['u', 'l', 'l'] c.next
    | 't' :: _ => word (.bool true) ['r', 'u', 'e'] c.next
    | 'f' :: _ => word (.bool false) ['a', 'l', 's', 'e'] c.next
    | '-' :: _ => number true c.next
    | '"' :: _ => match string c.next with
      | .error e => .error e
      | .ok (s, c) => .ok (.string s, c)
    | '[' :: _ => match items fuel (depth + 1) true (enter depth c).next with
      | .error e => .error e
      | .ok (vs, c) => .ok (.array vs, c)
    | '\x7b' :: _ => match fields fuel (depth + 1) true (enter depth c).next with
      | .error e => .error e
      | .ok (fs, c) => .ok (.object fs, c)
    | x :: _ => if x.isDigit then number false c else .error (c.error .expectedValue c.ahead)
/-- Reads items up to the closing bracket; behind the first item each needs a comma. -/
def items : (fuel depth : Nat) → (first : Bool) → Cursor → ReadResult (List Written)
  | 0, _, _, c => .error (c.error .endInList c.place)
  | fuel + 1, depth, first, c =>
    let c := c.skipBlanks
    match c.rest with
    | [] => .error (c.error .endInList c.place)
    | ']' :: _ => .ok ([], c.next)
    | x :: _ =>
      if first then itemsFrom fuel depth c
      else if x = ',' then
        let c := c.next.skipBlanks
        match c.rest with
        | [] => .error (c.error .endInValue c.place)
        | ']' :: _ => .error (c.error .trailingComma c.ahead)
        | _ :: _ => itemsFrom fuel depth c
      else .error (c.error .expectedListEnd c.ahead)
/-- Reads an item and those behind it. -/
def itemsFrom : (fuel depth : Nat) → Cursor → ReadResult (List Written)
  | 0, _, c => .error (c.error .endInList c.place)
  | fuel + 1, depth, c => match value fuel depth c with
    | .error e => .error e
    | .ok (v, c) => match items fuel depth false c with
      | .error e => .error e
      | .ok (vs, c) => .ok (v :: vs, c)
/-- Reads fields up to the closing brace; behind the first field each needs a comma. -/
def fields : (fuel depth : Nat) → (first : Bool) → Cursor →
    ReadResult (List (Option String × Written))
  | 0, _, _, c => .error (c.error .endInObject c.place)
  | fuel + 1, depth, first, c =>
    let c := c.skipBlanks
    match c.rest with
    | [] => .error (c.error .endInObject c.place)
    | '\x7d' :: _ => .ok ([], c.next)
    | x :: _ =>
      if first then
        if x = '"' then fieldsFrom fuel depth c else .error (c.error .nameNotString c.ahead)
      else if x = ',' then
        let c := c.next.skipBlanks
        match c.rest with
        | [] => .error (c.error .endInValue c.place)
        | '"' :: _ => fieldsFrom fuel depth c
        | '\x7d' :: _ => .error (c.error .trailingComma c.ahead)
        | _ :: _ => .error (c.error .nameNotString c.ahead)
      else .error (c.error .expectedObjectEnd c.ahead)
/-- Reads a field, from the quotation mark of its name, and those behind it. -/
def fieldsFrom : (fuel depth : Nat) → Cursor → ReadResult (List (Option String × Written))
  | 0, _, c => .error (c.error .endInObject c.place)
  | fuel + 1, depth, c => match string c.next with
    | .error e => .error e
    | .ok (name, c) =>
      let c := c.skipBlanks
      match c.rest with
      | [] => .error (c.error .endInObject c.place)
      | ':' :: _ => match value fuel depth c.next with
        | .error e => .error e
        | .ok (v, c) => match fields fuel depth false c with
          | .error e => .error e
          | .ok (fs, c) => .ok ((name, v) :: fs, c)
      | _ :: _ => .error (c.error .expectedColon c.ahead)
end

/-- Reads a whole text: one value, and nothing but blanks around it. -/
def document (text : String) : ReadResult Written :=
  let cs := text.toList
  match value (3 * cs.length + 3) 0 (Cursor.start cs) with
  | .error e => .error e
  | .ok (v, c) =>
    let c := c.skipBlanks
    match c.rest with
    | [] => .ok (v, c)
    | _ :: _ => .error (c.error .trailingCharacters c.ahead)

end Reader

/-- The written form of a text, defects included. -/
def Written.parse (text : String) : Except ReadError Written :=
  (Reader.document text).map Prod.fst

/-- The value of a text. -/
def Json.parse (text : String) : Except ReadError Json :=
  match Reader.document text with
  | .error e => .error e
  | .ok (w, c) => match c.defect with
    | some e => .error e
    | none => .ok (Json.ofWritten w)

end EventDispatch
