import EventDispatch.Arithmetic
/-!
Unique identifiers.

Purpose: the text of a random identifier of 128 bits: 32 hexadecimal digits in five groups. Four
bits tell that the identifier is random, and two bits which layout it has.

Main exports: `Text.unique`.
-/

namespace EventDispatch.Text

open scoped Arithmetic

/-- The lowest hexadecimal digits of a number, `count` of them. -/
def hexDigits (count n : Nat) : List Char :=
  let digits := Nat.toDigits 16 (n % 16 ^ count)
  List.replicate (count - digits.length) '0' ++ digits

/-- The identifier of random bits. -/
def unique (bits : Nat) : String :=
  let digits := hexDigits 32 bits
  let layout := Nat.toDigits 16 (8 + bits / 2 ^ (60 : Nat) % 4)
  String.ofList (digits.take 8 ++ '-' :: (digits.drop 8).take 4 ++ '-' :: '4' ::
    (digits.drop 13).take 3 ++ '-' :: layout ++ (digits.drop 17).take 3 ++ '-' :: digits.drop 20)

end EventDispatch.Text
