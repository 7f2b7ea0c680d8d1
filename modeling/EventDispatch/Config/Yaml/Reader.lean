import EventDispatch.Config.Yaml.Scalar
/-!
Reading YAML.

Purpose: configuration files hold mappings and sequences, either laid out by indentation or written
in braces and brackets, which may spread over lines. Plain words stand on one line. Anchors, tags,
folded texts and further documents have no place in a configuration and are refused.

Main exports: `Yaml.document?`.
-/

namespace EventDispatch.Yaml

def isBlank (c : Char) : Bool := c == ' ' || c == '\t'

def isBreak (c : Char) : Bool := c == '\n' || c == '\r'

def skipBlanks (cs : List Char) : List Char := cs.dropWhile isBlank

/-- Skips blanks and, behind at least one blank or at the start of a line, a comment. -/
def skipToBreak (cs : List Char) (fresh : Bool) : List Char :=
  let rest := skipBlanks cs
  match rest with
  | '#' :: _ =>
    if fresh || rest.length < cs.length then rest.dropWhile fun c => !isBreak c else rest
  | _ => rest

/-- Skips blanks, comments and line breaks. -/
def skipLines : (fuel : Nat) → (fresh : Bool) → List Char → List Char
  | 0, _, cs => cs
  | fuel + 1, fresh, cs => match skipToBreak cs fresh with
    | '\n' :: rest => skipLines fuel true rest
    | '\r' :: rest => skipLines fuel true rest
    | rest => rest

/-- The rest of a text behind a line that holds nothing more. -/
def endOfLine? (cs : List Char) : Option (List Char) :=
  match skipToBreak cs false with
  | [] => some []
  | '\n' :: rest => some rest
  | '\r' :: '\n' :: rest => some rest
  | '\r' :: rest => some rest
  | _ => none

/-- The next line that holds something, from the start of a line on: its indentation and its text
with all that follows. -/
def nextLine? : (fuel : Nat) → List Char → Option (Nat × List Char)
  | 0, _ => none
  | fuel + 1, cs =>
    let rest := cs.dropWhile (· == ' ')
    match skipToBreak rest true with
    | [] => none
    | '\n' :: more => nextLine? fuel more
    | '\r' :: more => nextLine? fuel more
    | _ => some (cs.length - rest.length, rest)

/-- Whether a text goes on with a blank, a line break or not at all. -/
def endsWord (cs : List Char) : Bool :=
  match cs with
  | [] => true
  | c :: _ => isBlank c || isBreak c

/-- The characters with a meaning of their own at the start of a plain word. -/
def indicators : List Char :=
  [',', '[', ']', '\x7b', '\x7d', '#', '&', '*', '!', '|', '>', '\'', '"', '%', '@', '\x60']

/-- Whether a plain word may start here. -/
def startsPlain (cs : List Char) : Bool :=
  match cs with
  | [] => false
  | c :: rest =>
    !indicators.contains c && !isBreak c && !((c == '-' || c == '?' || c == ':') && endsWord rest)

def isFlowMark (c : Char) : Bool :=
  c == ',' || c == '[' || c == ']' || c == '\x7b' || c == '\x7d'

/-- The characters of a plain word with the blanks behind it. A colon that ends a word, a comment
and the end of the line end it, and in braces or brackets also their marks. -/
def plainChars (inFlow : Bool) : List Char → List Char × List Char
  | [] => ([], [])
  | c :: cs =>
    let ends := isBreak c || (inFlow && isFlowMark c)
      || (c == ':' && (endsWord cs || (inFlow && cs.head?.any isFlowMark)))
      || (isBlank c && cs.head? == some '#')
    if ends then ([], c :: cs)
    else
      let (word, rest) := plainChars inFlow cs
      (c :: word, rest)

/-- A plain word. -/
def plainWord? (inFlow : Bool) (cs : List Char) : Option (String × List Char) :=
  if startsPlain cs then
    let (word, rest) := plainChars inFlow cs
    some (Text.trimmed (String.ofList word), rest)
  else none

/-- A name: a quoted string or a plain word. -/
def name? (inFlow : Bool) (cs : List Char) : Option (String × List Char) :=
  match quoted? cs with
  | some result => result
  | none => plainWord? inFlow cs

mutual
/-- Reads a value inside braces or brackets, behind its blanks. -/
def flow : (fuel : Nat) → List Char → Option (Document × List Char)
  | 0, _ => none
  | fuel + 1, cs => match quoted? cs with
    | some result => result.map fun (s, cs) => (.string s, cs)
    | none => match cs with
      | '[' :: rest => (flowItems fuel rest).map fun (ds, cs) => (.sequence ds, cs)
      | '\x7b' :: rest => (flowEntries fuel rest).map fun (fs, cs) => (Document.ofPairs fs, cs)
      | _ => (plainWord? true cs).map fun (word, cs) => (plain word, cs)
/-- Reads the elements of a sequence up to its closing bracket. -/
def flowItems : (fuel : Nat) → List Char → Option (List Document × List Char)
  | 0, _ => none
  | fuel + 1, cs => match skipLines cs.length false cs with
    | ']' :: rest => some ([], rest)
    | cs => do
      let (d, cs) ← flow fuel cs
      match skipLines cs.length false cs with
      | ',' :: rest =>
        let (ds, rest) ← flowItems fuel rest
        return (d :: ds, rest)
      | ']' :: rest => return ([d], rest)
      | _ => none
/-- Reads the entries of a mapping up to its closing brace. A name by itself stands for null. -/
def flowEntries : (fuel : Nat) → List Char → Option (List (String × Document) × List Char)
  | 0, _ => none
  | fuel + 1, cs => match skipLines cs.length false cs with
    | '\x7d' :: rest => some ([], rest)
    | cs => do
      let (own, cs) ← name? true cs
      let (d, cs) ← match skipLines cs.length false cs with
        | ':' :: rest => match skipLines rest.length false rest with
          | ',' :: more => some (.null, ',' :: more)
          | '\x7d' :: more => some (.null, '\x7d' :: more)
          | rest => flow fuel rest
        | rest => some (.null, rest)
      match skipLines cs.length false cs with
      | ',' :: rest =>
        let (fs, rest) ← flowEntries fuel rest
        return ((own, d) :: fs, rest)
      | '\x7d' :: rest => return ([(own, d)], rest)
      | _ => none
end

/-- The name at the start of a line with an entry, and the text behind its colon. -/
def entryName? (cs : List Char) : Option (String × List Char) := do
  let (own, cs) ← name? false cs
  match skipBlanks cs with
  | ':' :: rest => if endsWord rest then some (own, rest) else none
  | _ => none

/-- The text behind the dash of a line with an element. -/
def itemRest? : List Char → Option (List Char)
  | '-' :: rest => if endsWord rest then some rest else none
  | _ => none

/-- A value that stands within one line, up to the start of the next line. -/
def inline? (cs : List Char) : Option (Document × List Char) := do
  let (d, rest) ← match cs.head? with
    | some c =>
      if c == '[' || c == '\x7b' || c == '"' || c == '\'' then flow (3 * cs.length + 3) cs
      else (plainWord? false cs).map fun (word, rest) => (plain word, rest)
    | none => none
  return (d, ← endOfLine? rest)

mutual
/-- Reads a value laid out from the start of a line on, indented at least so far; nothing but null
when there is none. -/
def block : (fuel : Nat) → (least : Nat) → List Char → Option (Document × List Char)
  | 0, _, _ => none
  | fuel + 1, least, cs => match nextLine? (cs.length + 1) cs with
    | none => some (.null, [])
    | some (indent, line) =>
      if indent < least then some (.null, cs)
      else if (itemRest? line).isSome then
        (blockItems fuel indent cs).map fun (ds, cs) => (.sequence ds, cs)
      else if (entryName? line).isSome then
        (blockEntries fuel indent cs).map fun (fs, cs) => (Document.ofPairs fs, cs)
      else inline? line
/-- Reads the elements at an indentation. -/
def blockItems : (fuel : Nat) → (indent : Nat) → List Char → Option (List Document × List Char)
  | 0, _, _ => none
  | fuel + 1, indent, cs => match nextLine? (cs.length + 1) cs with
    | none => some ([], [])
    | some (own, line) =>
      if own < indent then some ([], cs)
      else if indent < own then none
      else match itemRest? line with
        | none => some ([], cs)
        | some rest => do
          let nested := List.replicate (indent + 1) ' ' ++ rest
          let (d, cs) ← block fuel (indent + 1) nested
          let (ds, cs) ← blockItems fuel indent cs
          return (d :: ds, cs)
/-- Reads the entries at an indentation. -/
def blockEntries : (fuel : Nat) → (indent : Nat) → List Char →
    Option (List (String × Document) × List Char)
  | 0, _, _ => none
  | fuel + 1, indent, cs => match nextLine? (cs.length + 1) cs with
    | none => some ([], [])
    | some (own, line) =>
      if own < indent then some ([], cs)
      else if indent < own then none
      else do
        let (name, rest) ← entryName? line
        let (d, cs) ← match endOfLine? rest with
          | some below => match nextLine? (below.length + 1) below with
            | some (deeper, first) =>
              if indent < deeper then block fuel (indent + 1) below
              else if deeper = indent ∧ (itemRest? first).isSome then
                (blockItems fuel indent below).map fun (ds, cs) => (.sequence ds, cs)
              else some (.null, below)
            | none => some (.null, below)
          | none => inline? (skipBlanks rest)
        let (fs, cs) ← blockEntries fuel indent cs
        return ((name, d) :: fs, cs)
end

/-- The text behind the mark that opens a document. -/
def opened (cs : List Char) : List Char :=
  match skipLines cs.length true cs with
  | '-' :: '-' :: '-' :: rest => if endsWord rest then rest else cs
  | _ => cs

/-- The document of a text; nothing when the text is malformed. -/
def document? (text : String) : Option Document :=
  let cs := text.toList
  let cs := if cs.head?.any (·.toNat = 0xFEFF) then cs.drop 1 else cs
  if !cs.all isPrintable then none
  else match block (3 * cs.length + 8) 0 (opened cs) with
    | none => none
    | some (d, rest) => match skipLines rest.length true rest with
      | [] => some d
      | ['.', '.', '.'] => some d
      | '.' :: '.' :: '.' :: rest =>
        if endsWord rest ∧ skipLines rest.length false rest = [] then some d else none
      | _ => none

/-- The mapping that a text holds as a whole; a text that holds nothing stands for the empty one. -/
def mapping? (text : String) : Option Document :=
  match document? text with
  | some (.mapping fields) => some (.mapping fields)
  | some .null => if (skipLines text.length true text.toList).isEmpty then some .blank else none
  | _ => none

end EventDispatch.Yaml
