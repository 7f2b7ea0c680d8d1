import EventDispatch.Arithmetic
/-!
Finite binary64 numbers.

Purpose: the doubles that a JSON document can hold, with exact arithmetic on natural numbers.
A magnitude is stored as its *rank*: the number of magnitudes below it. The rank is also the bit
pattern without its sign, so the order of magnitudes is the order of ranks.

Main exports: `Double`, `Double.round?`, `Double.ofInt`, `Double.mul?`, `Double.div?`,
`Double.sameValue`, `Double.totalOrder`.
-/

namespace EventDispatch

open scoped Arithmetic

/-- The number of ranks that share one binary exponent. -/
def Double.rankStep : Nat := 2 ^ (52 : Nat)

/-- The first rank that no finite double has. -/
def Double.rankLimit : Nat := 2047 * 2 ^ (52 : Nat)

/-- A finite binary64 number: a sign and the rank of its magnitude. The two zeros differ in sign. -/
structure Double where
  negative : Bool
  rank : Nat
  finite : rank < Double.rankLimit
deriving DecidableEq, Repr

namespace Double

instance : Inhabited Double := ⟨⟨false, 0, by decide⟩⟩

/-- Positive zero. -/
def zero : Double := ⟨false, 0, by decide⟩

/-- The integer significand of a magnitude. -/
def significand (x : Double) : Nat :=
  if x.rank < rankStep then x.rank else rankStep + x.rank % rankStep

/-- The binary exponent of a magnitude above the smallest one, `2 ^ -1074`. -/
def exponent (x : Double) : Nat :=
  if x.rank < rankStep then 0 else x.rank / rankStep - 1

/-- The magnitude counted in units of `2 ^ -1074`. -/
def units (x : Double) : Nat := x.significand * 2 ^ x.exponent

/-- The quotient rounded to the nearest integer, a half going to the even neighbour. -/
def roundQuotient (num den : Nat) : Nat :=
  let q := num / den
  let r := num % den
  if 2 * r < den then q else if den < 2 * r then q + 1 else q + q % 2

/-- The rank nearest to `num / den` units of `2 ^ -1074`, ties to the even rank, as if exponents
had no upper bound. A significand that rounds up to the next power of two carries into the exponent
by itself. -/
def nearestRank (num den : Nat) : Nat :=
  let bits := (num / den).log2
  let shift := bits - 52
  shift * rankStep + roundQuotient num (den * 2 ^ shift)

/-- The double nearest to `± num / den`; nothing when it is beyond the finite range. -/
def round? (negative : Bool) (num den : Nat) : Option Double :=
  let rank := nearestRank (num * 2 ^ (1074 : Nat)) den
  if h : rank < rankLimit then some ⟨negative, rank, h⟩ else none

/-- The double nearest to an integer; magnitudes beyond the range become the greatest double. -/
def ofInt (i : Int) : Double :=
  (round? (decide (i < 0)) i.natAbs 1).getD ⟨decide (i < 0), rankLimit - 1, by decide⟩

/-- The double nearest to a power of ten. -/
def powerOfTen (n : Nat) : Double := ofInt (10 ^ n)

/-- The rounded product; nothing when it is beyond the finite range. -/
def mul? (x y : Double) : Option Double :=
  round? (x.negative != y.negative) (x.units * y.units) (2 ^ (2148 : Nat))

/-- The rounded quotient; nothing when it is beyond the finite range or the divisor is zero. -/
def div? (x y : Double) : Option Double :=
  if y.rank = 0 then none else round? (x.negative != y.negative) x.units y.units

/-- The same magnitude with the opposite sign. -/
def neg (x : Double) : Double := { x with negative := !x.negative }

def isZero (x : Double) : Bool := x.rank == 0

/-- Numerical equality: the two zeros are equal, no other two doubles are. -/
def sameValue (x y : Double) : Bool := x == y || (x.isZero && y.isZero)

/-- The place of a double in the total order, in which negative zero precedes positive zero. -/
def place (x : Double) : Int := if x.negative then -(x.rank : Int) - 1 else x.rank

/-- The total order of doubles. -/
def totalOrder (x y : Double) : Ordering := compare x.place y.place

end Double
end EventDispatch
