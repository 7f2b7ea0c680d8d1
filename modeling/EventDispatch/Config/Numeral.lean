import EventDispatch.Arithmetic
import EventDispatch.Config.Document
/-!
Numerals in configuration texts.

Purpose: decimal numerals as they stand in configuration files and in variables, without blanks
around them. A real is rounded once to the nearest double; one beyond the range of doubles denotes
nothing.

Main exports: `Numeral.natural?`, `Numeral.integer?`, `Numeral.real?`.
-/

namespace EventDispatch.Numeral

open scoped Arithmetic

/-- A digit of a base up to sixteen. -/
def digit? (base : Nat) (c : Char) : Option Nat :=
  let n := c.toNat
  let d := if '0'.toNat ≤ n ∧ n ≤ '9'.toNat then n - '0'.toNat
    else if 'a'.toNat ≤ n ∧ n ≤ 'f'.toNat then n - 'a'.toNat + 10
    else if 'A'.toNat ≤ n ∧ n ≤ 'F'.toNat then n - 'A'.toNat + 10
    else 16
  if d < base then some d else none

def isDigit (c : Char) : Bool := (digit? 10 c).isSome

/-- The value of digits behind those whose value is known. -/
def digits? (base : Nat) (known : Nat) : List Char → Option Nat
  | [] => some known
  | c :: cs => (digit? base c).bind fun d => digits? base (base * known + d) cs

/-- The value of a numeral without a sign; there must be a digit. -/
def unsigned? (base : Nat) (cs : List Char) : Option Nat :=
  if cs.isEmpty then none else digits? base 0 cs

/-- A natural number of at most 64 bits; a plus sign may stand before it. -/
def natural? (cs : List Char) : Option Nat :=
  let digits := match cs with
    | '+' :: digits => digits
    | _ => cs
  (unsigned? 10 digits).filter (· < 2 ^ (64 : Nat))

/-- An integer that fits 64 bits with a sign. -/
def integer? (cs : List Char) : Option Int :=
  let value : Option Int := match cs with
    | '-' :: digits => (unsigned? 10 digits).map fun n => -(n : Int)
    | '+' :: digits => (unsigned? 10 digits).map Int.ofNat
    | digits => (unsigned? 10 digits).map Int.ofNat
  value.filter fun i => -2 ^ (63 : Nat) ≤ i && i < 2 ^ (63 : Nat)

/-- The double nearest to `digits · 10 ^ scale`. A scale far beyond the range of doubles decides by
itself. -/
def nearest? (negative : Bool) (digits : Nat) (scale : Int) : Option Double :=
  let size := (Nat.toDigits 10 digits).length
  if digits = 0 then Double.round? negative 0 1
  else if 310 < scale + size then none
  else if scale + size < -330 then Double.round? negative 0 1
  else if 0 ≤ scale then Double.round? negative (digits * 10 ^ scale.toNat) 1
  else Double.round? negative digits (10 ^ (-scale).toNat)

/-- The exponent behind a significand: nothing, or a letter and an integer. -/
def exponent? : List Char → Option Int
  | [] => some 0
  | mark :: cs =>
    if mark = 'e' ∨ mark = 'E' then match cs with
      | '-' :: digits => (unsigned? 10 digits).map fun n => -(n : Int)
      | '+' :: digits => (unsigned? 10 digits).map Int.ofNat
      | digits => (unsigned? 10 digits).map Int.ofNat
    else none

/-- A numeral of a real: a sign, digits with a point before, between or behind them, an exponent.
What the numeral denotes is nothing when it is beyond the range of doubles. -/
def real? (cs : List Char) : Option (Option Double) :=
  let (negative, cs) := match cs with
    | '-' :: cs => (true, cs)
    | '+' :: cs => (false, cs)
    | _ => (false, cs)
  let whole := cs.takeWhile isDigit
  let rest := cs.drop whole.length
  let (fraction, rest) := match rest with
    | '.' :: rest => (rest.takeWhile isDigit, rest.dropWhile isDigit)
    | _ => ([], rest)
  match unsigned? 10 (whole ++ fraction), exponent? rest with
  | some digits, some e => some (nearest? negative digits (e - fraction.length))
  | _, _ => none

/-- The document of a real. -/
def document (value : Option Double) : Document :=
  match value with
  | some x => .real x
  | none => .null

end EventDispatch.Numeral
