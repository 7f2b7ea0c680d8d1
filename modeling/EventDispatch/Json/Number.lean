import EventDispatch.Arithmetic
import EventDispatch.Json.Decimal
/-!
JSON numbers.

Purpose: a number is an integer that fits 64 bits (signed when negative, unsigned otherwise) or a
double. An integer and a double of equal value stay different numbers, which is why the text of a
double always shows a point or an exponent.

Main exports: `Number`, `Number.text`, `Number.sameValue`, `Number.order`.
-/

namespace EventDispatch

open scoped Arithmetic

/-- The integers that a JSON number holds exactly. -/
abbrev Number.Fits (i : Int) : Prop := -2 ^ (63 : Nat) ≤ i ∧ i < 2 ^ (64 : Nat)

/-- A JSON number. -/
inductive Number where
  | integer (value : Int) (fits : Number.Fits value)
  | double (value : Double)
deriving DecidableEq, Repr

namespace Number

instance : Inhabited Number := ⟨.integer 0 (by decide)⟩

/-- The number of an integer that fits. -/
def ofInt? (i : Int) : Option Number :=
  if h : Fits i then some (.integer i h) else none

/-- The number of an integer: a double when it does not fit 64 bits. -/
def ofInt (i : Int) : Number :=
  if h : Fits i then .integer i h else .double (Double.ofInt i)

def ofNat (n : Nat) : Number := ofInt n

/-- The nearest double. -/
def toDouble : Number → Double
  | .integer i _ => Double.ofInt i
  | .double x => x

/-- Equality of values: integers as integers, and as doubles once a double takes part. -/
def sameValue : Number → Number → Bool
  | .integer i _, .integer j _ => i == j
  | a, b => a.toDouble.sameValue b.toDouble

/-- Order of values: integers as integers, and as doubles once a double takes part. -/
def order : Number → Number → Ordering
  | .integer i _, .integer j _ => compare i j
  | a, b => a.toDouble.totalOrder b.toDouble

end Number

namespace Double

/-- The exponents of the first digit for which a JSON double is written positionally. -/
def writtenPositionally (e : Int) : Bool := -5 ≤ e && e ≤ 15

/-- The digits of a magnitude, with `.0` when they show neither a point nor an exponent. -/
def magnitudeText (x : Double) : List Char :=
  if x.isZero then ['0', '.', '0']
  else
    let d := x.decimal
    if writtenPositionally d.exponent then
      if 0 ≤ d.scale then d.positional ++ ['.', '0'] else d.positional
    else d.withExponent

/-- The JSON text of a double. -/
def text (x : Double) : String :=
  String.ofList (if x.negative then '-' :: x.magnitudeText else x.magnitudeText)

/-- Positional text of any size, integral values without a point. -/
def plainText (x : Double) : String :=
  let magnitude := if x.isZero then ['0'] else x.decimal.positional
  String.ofList (if x.negative then '-' :: magnitude else magnitude)

end Double

namespace Number

/-- The JSON text of a number. -/
def text : Number → String
  | .integer i _ => toString i
  | .double x => x.text

end Number
end EventDispatch
