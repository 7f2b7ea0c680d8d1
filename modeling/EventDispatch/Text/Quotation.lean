import EventDispatch.Text.Hidden
/-!
Quotations in messages.

Purpose: how a message quotes a text that it complains about: between quotation marks, with the
usual one-letter escapes, and with the code point in braces for characters without a shape of their
own.

Main exports: `Text.quoted`.
-/

namespace EventDispatch.Text

/-- The form of one character in a quotation. -/
def quotedChar (c : Char) : List Char :=
  if c = '"' then ['\\', '"']
  else if c = '\\' then ['\\', '\\']
  else if c = '\n' then ['\\', 'n']
  else if c = '\r' then ['\\', 'r']
  else if c = '\t' then ['\\', 't']
  else if c.toNat = 0 then ['\\', '0']
  else if isHidden c then ['\\', 'u', '\x7b'] ++ Nat.toDigits 16 c.toNat ++ ['\x7d']
  else [c]

/-- A text as a message quotes it. -/
def quoted (s : String) : String := String.ofList ('"' :: (s.toList.flatMap quotedChar ++ ['"']))

end EventDispatch.Text
