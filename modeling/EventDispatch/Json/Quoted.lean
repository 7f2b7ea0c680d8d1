/-!
Quoted JSON strings.

Purpose: the written form of a string between quotation marks. A quotation mark, a backslash and the
characters below U+0020 are escaped, everything else stands for itself.

Main exports: `Json.escape`, `Json.quote`.
-/

namespace EventDispatch.Json

/-- The lower-case hexadecimal digit of a number below sixteen. -/
def hexDigit (n : Nat) : Char := (Nat.digitChar n)

/-- The written form of one character inside a string. -/
def escape (c : Char) : List Char :=
  if c = '"' then ['\\', '"']
  else if c = '\\' then ['\\', '\\']
  else if c.toNat = 8 then ['\\', 'b']
  else if c.toNat = 12 then ['\\', 'f']
  else if c = '\n' then ['\\', 'n']
  else if c = '\r' then ['\\', 'r']
  else if c = '\t' then ['\\', 't']
  else if c.toNat < 32 then
    ['\\', 'u', '0', '0', hexDigit (c.toNat / 16), hexDigit (c.toNat % 16)]
  else [c]

/-- The written form of a string, with its quotation marks, as characters. -/
def quoteChars (s : String) : List Char := '"' :: (s.toList.flatMap escape ++ ['"'])

/-- The written form of a string, with its quotation marks. -/
def quote (s : String) : String := String.ofList (quoteChars s)

end EventDispatch.Json
